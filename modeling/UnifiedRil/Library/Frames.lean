import Mathlib.Data.List.Basic

namespace UnifiedRil.Library.Frames

variable {α : Type*}

/-- What successive reads of `n` items return. Once the stream is closed, what
is left of it is returned as a short read. -/
def reads (n : Nat) (closed : Bool) (stream : List α) : List (List α) :=
  if n ≤ stream.length ∧ 0 < n then
    stream.take n :: reads n closed (stream.drop n)
  else if closed ∧ stream ≠ [] then [stream]
  else []
termination_by stream.length
decreasing_by
  rw [List.length_drop]
  omega

theorem reads_append {n : Nat} (closed : Bool) {frame : List α} (hframe : frame.length = n)
    (hn : 0 < n) (rest : List α) :
    reads n closed (frame ++ rest) = frame :: reads n closed rest := by
  have hlong : n ≤ (frame ++ rest).length ∧ 0 < n := by
    rw [List.length_append]
    omega
  rw [reads, if_pos hlong, List.take_left' hframe, List.drop_left' hframe]

theorem reads_flatten_append {n : Nat} (closed : Bool) (hn : 0 < n) (rest : List α) :
    ∀ frames : List (List α), (∀ frame ∈ frames, frame.length = n) →
      reads n closed (frames.flatten ++ rest) = frames ++ reads n closed rest := by
  intro frames
  induction frames with
  | nil => simp
  | cons frame frames ih =>
      intro hframes
      have hframe := hframes frame List.mem_cons_self
      rw [List.flatten_cons, List.append_assoc, reads_append closed hframe hn,
        ih fun f hf => hframes f (List.mem_cons_of_mem _ hf), List.cons_append]

theorem reads_short {n : Nat} {stream : List α} (h : stream.length < n) :
    reads n false stream = [] := by
  have hshort : ¬ (n ≤ stream.length ∧ 0 < n) := by omega
  rw [reads, if_neg hshort]
  simp

theorem reads_frame {n : Nat} {frame : List α} (hframe : frame.length = n) (hn : 0 < n) :
    reads n false frame = [frame] := by
  have hread := reads_append false hframe hn []
  rw [List.append_nil] at hread
  rw [hread, reads_short (by simpa using hn)]

theorem reads_nil (n : Nat) (closed : Bool) : reads n closed ([] : List α) = [] := by
  have hempty : ¬ (n ≤ ([] : List α).length ∧ 0 < n) := by
    rw [List.length_nil]
    omega
  rw [reads, if_neg hempty]
  simp

/-- The next read of `n` items, and what is left of the stream. -/
def nextRead (n : Nat) (stream : List α) : Option (List α × List α) :=
  if n ≤ stream.length then some (stream.take n, stream.drop n) else none

theorem nextRead_eq_some {n : Nat} {stream frame rest : List α}
    (h : nextRead n stream = some (frame, rest)) : frame.length = n ∧ stream = frame ++ rest := by
  simp only [nextRead, Option.ite_none_right_eq_some, Option.some.injEq, Prod.mk.injEq] at h
  obtain ⟨hlong, rfl, rfl⟩ := h
  exact ⟨List.length_take_of_le hlong, (List.take_append_drop n stream).symm⟩

theorem reads_nextRead {n : Nat} (closed : Bool) (hn : 0 < n) {stream frame rest : List α}
    (h : nextRead n stream = some (frame, rest)) :
    reads n closed stream = frame :: reads n closed rest := by
  obtain ⟨hlength, rfl⟩ := nextRead_eq_some h
  exact reads_append closed hlength hn rest

theorem reads_nextRead_none {n : Nat} {stream : List α} (h : nextRead n stream = none) :
    reads n false stream = [] := by
  refine reads_short (Nat.lt_of_not_le ?_)
  intro hlong
  rw [nextRead, if_pos hlong] at h
  cases h

theorem reads_append_frame {n : Nat} (hn : 0 < n) {stream frame : List α}
    (hwhole : n ∣ stream.length) (hframe : frame.length = n) :
    reads n false (stream ++ frame) = reads n false stream ++ [frame] := by
  fun_induction reads n false stream with
  | case1 stream h ih =>
      have hrest : n ∣ (stream.drop n).length := by
        rw [List.length_drop]
        exact Nat.dvd_sub hwhole (Nat.dvd_refl n)
      have hsplit : stream ++ frame = stream.take n ++ (stream.drop n ++ frame) := by
        rw [← List.append_assoc, List.take_append_drop]
      rw [hsplit, reads_append false (List.length_take_of_le h.1) hn, ih hrest, List.cons_append]
  | case2 stream h hclosed => cases hclosed.1
  | case3 stream h hclosed =>
      have hempty : stream.length = 0 := Nat.eq_zero_of_dvd_of_lt hwhole (by omega)
      obtain rfl := List.length_eq_zero_iff.mp hempty
      exact reads_frame hframe hn

theorem reads_flatten_initial (n : Nat) (closed : Bool) (stream : List α) :
    (reads n closed stream).flatten <+: stream := by
  fun_induction reads n closed stream with
  | case1 stream h ih =>
      rw [List.flatten_cons]
      have hsplit := (List.prefix_append_right_inj (stream.take n)).mpr ih
      rwa [List.take_append_drop] at hsplit
  | case2 stream h hclosed => simp
  | case3 stream h hclosed => exact List.nil_prefix

/-- The complete frames of a stream. -/
def frames (n : Nat) (stream : List α) : List (List α) :=
  (List.range (stream.length / n)).map fun i => (stream.drop (n * i)).take n

theorem frames_append {n : Nat} {frame : List α} (hframe : frame.length = n) (hn : 0 < n)
    (rest : List α) : frames n (frame ++ rest) = frame :: frames n rest := by
  have hcount : (frame ++ rest).length / n = rest.length / n + 1 := by
    rw [List.length_append, hframe, Nat.add_comm, Nat.add_div_right _ hn]
  rw [frames, hcount, List.range_succ_eq_map, List.map_cons, List.map_map, frames]
  congr 1
  · simp [← hframe]
  · refine List.map_congr_left fun i _ => ?_
    have hdrop : (frame ++ rest).drop (n * (i + 1)) = rest.drop (n * i) := by
      rw [Nat.mul_succ, Nat.add_comm, ← List.drop_drop, List.drop_left' hframe]
    exact congrArg (List.take n) hdrop

theorem frames_eq_nil {n : Nat} {stream : List α} (hn : 0 < n) :
    frames n stream = [] ↔ stream.length < n := by
  rw [frames, List.map_eq_nil_iff, List.range_eq_nil, Nat.div_eq_zero_iff]
  omega

end UnifiedRil.Library.Frames

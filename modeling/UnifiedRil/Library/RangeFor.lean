import Mathlib.Data.List.Basic

/-!
A range-for over a vector whose body changes the vector. The loop fixes the
positions at which it begins and ends before the first round, so it reads the
storage of the vector, behind its end too when the vector has become shorter.
-/

namespace UnifiedRil.Library.RangeFor

variable {α : Type*}

/-- The storage of a vector. -/
structure Storage (α : Type*) where
  elements : List α
  /-- what the slots behind the end hold -/
  spare : List α
  deriving DecidableEq

def Storage.slots (v : Storage α) : List α :=
  v.elements ++ v.spare

def Storage.pushBack (v : Storage α) (x : α) : Storage α where
  elements := v.elements ++ [x]
  spare := v.spare.drop 1

/-- `v.erase(std::remove(v.begin(), v.end(), x), v.end())`: the other elements
move to the front, and the slots behind them are not written. -/
def Storage.eraseRemove [DecidableEq α] (v : Storage α) (x : α) : Storage α :=
  let kept := v.elements.filter (· ≠ x)
  { elements := kept, spare := v.slots.drop kept.length }

/-- The element that a round of the loop read, and whether it was one. -/
structure Read (α : Type*) where
  element : α
  inside : Bool
  deriving DecidableEq

/-- The rounds from position `i` on, of which so many remain. -/
def rounds (body : Storage α → α → Storage α) :
    Nat → Nat → Storage α → Option (List (Read α) × Storage α)
  | 0, _, v => some ([], v)
  | remaining + 1, i, v =>
      match v.slots[i]? with
      | some x =>
          (rounds body remaining (i + 1) (body v x)).map fun (reads, w) =>
            (⟨x, i < v.elements.length⟩ :: reads, w)
      | none => none

/-- `for (x : v) body` -/
def rangeFor (body : Storage α → α → Storage α) (v : Storage α) :
    Option (List (Read α) × Storage α) :=
  rounds body v.elements.length 0 v

/-- The elements at even positions. -/
def everyOther : List α → List α
  | [] => []
  | [x] => [x]
  | x :: _ :: rest => x :: everyOther rest

/-- The elements at odd positions. -/
def skipped : List α → List α
  | _ :: y :: rest => y :: skipped rest
  | _ => []

theorem length_everyOther_add_skipped (xs : List α) :
    (everyOther xs).length + (skipped xs).length = xs.length := by
  induction xs using everyOther.induct with
  | case1 => rfl
  | case2 => rfl
  | case3 x y rest ih =>
      simp only [everyOther, skipped, List.length_cons]
      omega

theorem length_skipped_le (xs : List α) : (skipped xs).length ≤ (everyOther xs).length := by
  induction xs using everyOther.induct with
  | case1 => exact Nat.le_refl _
  | case2 => exact Nat.zero_le _
  | case3 x y rest ih => exact Nat.succ_le_succ ih

theorem skipped_eq_nil_iff {xs : List α} : skipped xs = [] ↔ xs.length ≤ 1 := by
  cases xs with
  | nil => simp [skipped]
  | cons x rest =>
      cases rest with
      | nil => simp [skipped]
      | cons y rest => simp [skipped]

section
variable [DecidableEq α]

theorem slots_eraseRemove {v : Storage α} {x : α} {j : Nat}
    (hj : (v.eraseRemove x).elements.length ≤ j) :
    (v.eraseRemove x).slots[j]? = v.slots[j]? := by
  change ((v.eraseRemove x).elements ++ v.slots.drop (v.eraseRemove x).elements.length)[j]? = _
  rw [List.getElem?_append_right hj, List.getElem?_drop, Nat.add_sub_cancel' hj]

theorem length_eraseRemove_le (v : Storage α) (x : α) :
    (v.eraseRemove x).elements.length ≤ v.elements.length :=
  List.length_filter_le _ _

theorem eraseRemove_between {front rest spare : List α} {x z : α}
    (hdistinct : (front ++ x :: rest).Nodup) (hlast : (x :: rest).getLast? = some z) :
    (⟨front ++ x :: rest, spare⟩ : Storage α).eraseRemove x =
      ⟨front ++ rest, z :: spare⟩ := by
  have hkept : (front ++ x :: rest).filter (· ≠ x) = front ++ rest := by
    obtain ⟨-, hrest, hfront⟩ := List.nodup_append.mp hdistinct
    have hnot := (List.nodup_cons.mp hrest).1
    rw [List.filter_append, List.filter_cons_of_neg (by simp)]
    congr 1
    · rw [List.filter_eq_self]
      intro y hy
      simpa using hfront y hy x List.mem_cons_self
    · rw [List.filter_eq_self]
      rintro y hy
      simp only [ne_eq, decide_eq_true_eq]
      rintro rfl
      exact hnot hy
  have hslots : (front ++ x :: rest ++ spare).drop (front ++ rest).length = z :: spare := by
    obtain ⟨init, hinit⟩ := List.getLast?_eq_some_iff.mp hlast
    have hlength : init.length = rest.length := by
      have hlengths := congrArg List.length hinit
      simp only [List.length_cons, List.length_append, List.length_nil] at hlengths
      omega
    have heq : front ++ x :: rest ++ spare = (front ++ init) ++ z :: spare := by
      simp [hinit]
    have hboth : (front ++ rest).length = (front ++ init).length := by
      simp [hlength]
    rw [heq, hboth, List.drop_left]
  simp only [Storage.eraseRemove, Storage.slots, hkept, hslots]

theorem rounds_erase {front rest spare : List α} {x z : α}
    (hdistinct : (front ++ x :: rest).Nodup) (hlast : (x :: rest).getLast? = some z)
    (remaining : Nat) :
    rounds Storage.eraseRemove (remaining + 1) front.length ⟨front ++ x :: rest, spare⟩ =
      (rounds Storage.eraseRemove remaining (front.length + 1) ⟨front ++ rest, z :: spare⟩).map
        fun (reads, w) => (⟨x, true⟩ :: reads, w) := by
  have hread : (⟨front ++ x :: rest, spare⟩ : Storage α).slots[front.length]? = some x := by
    simp [Storage.slots]
  simp only [rounds, hread, eraseRemove_between hdistinct hlast]
  simp

/-- The rounds that read elements. Each erases what it reads, and the next one
misses the element that took its place. -/
theorem rounds_erasing (front xs spare : List α) {z : α} (hdistinct : (front ++ xs).Nodup)
    (hlast : ∀ y ∈ xs.getLast?, y = z) (more : Nat) :
    rounds Storage.eraseRemove ((everyOther xs).length + more) front.length
        ⟨front ++ xs, spare⟩ =
      (rounds Storage.eraseRemove more (front.length + (everyOther xs).length)
        ⟨front ++ skipped xs, List.replicate (everyOther xs).length z ++ spare⟩).map
      fun (reads, w) => ((everyOther xs).map (⟨·, true⟩) ++ reads, w) := by
  induction xs using everyOther.induct generalizing front spare with
  | case1 => simp [everyOther, skipped]
  | case2 x =>
      obtain rfl : x = z := hlast x rfl
      rw [everyOther, List.length_singleton, Nat.add_comm 1 more,
        rounds_erase hdistinct rfl]
      rfl
  | case3 x y rest ih =>
      have hz : (x :: y :: rest).getLast? = some z := by
        have hsome := List.getLast?_eq_some_getLast (List.cons_ne_nil x (y :: rest))
        rw [hsome, hlast _ hsome]
      have hlength : (everyOther (x :: y :: rest)).length + more =
          (everyOther rest).length + more + 1 := by
        simp only [everyOther, List.length_cons]
        omega
      have hafter : ((front ++ [y]) ++ rest).Nodup := by
        have hsub : (front ++ y :: rest).Sublist (front ++ x :: y :: rest) :=
          (List.sublist_cons_self x (y :: rest)).append_left front
        simpa using hdistinct.sublist hsub
      have hlast' : ∀ y' ∈ rest.getLast?, y' = z := by
        intro y' hy'
        have hfull : (x :: y :: rest).getLast? = some y' := by
          rw [List.getLast?_cons_cons, List.getLast?_cons, Option.mem_def.mp hy']
          rfl
        exact Option.some.inj (hfull.symm.trans hz)
      rw [hlength, rounds_erase hdistinct hz]
      have hih := ih (front ++ [y]) (z :: spare) hafter hlast'
      simp only [List.append_assoc, List.singleton_append, List.length_append,
        List.length_singleton] at hih
      have hstale : List.replicate (everyOther rest).length z ++ z :: spare =
          List.replicate ((everyOther rest).length + 1) z ++ spare := by
        rw [List.replicate_succ', List.append_assoc]
        rfl
      rw [hih, hstale, Option.map_map, Nat.add_right_comm, Nat.add_assoc front.length]
      rfl

theorem rounds_stale (z : α) (more : Nat) {i : Nat} {v : Storage α}
    (hend : v.elements.length ≤ i) (hstale : ∀ j < more, v.slots[i + j]? = some z) :
    ∃ w, rounds Storage.eraseRemove more i v = some (List.replicate more ⟨z, false⟩, w) ∧
      w.elements = if more = 0 then v.elements else v.elements.filter (· ≠ z) := by
  induction more generalizing i v with
  | zero => exact ⟨v, rfl, rfl⟩
  | succ more ih =>
      have hread : v.slots[i]? = some z := hstale 0 (Nat.succ_pos more)
      have hshorter := length_eraseRemove_le v z
      obtain ⟨w, hw, helements⟩ := ih (i := i + 1) (v := v.eraseRemove z) (by omega) (by
        intro j hj
        rw [slots_eraseRemove (by omega), Nat.add_right_comm, Nat.add_assoc]
        exact hstale (j + 1) (by omega))
      refine ⟨w, ?_, ?_⟩
      · simp [rounds, hread, hw, List.replicate_succ, hend]
      · rw [helements, if_neg (Nat.succ_ne_zero more)]
        split
        · rfl
        · simp [Storage.eraseRemove]

/-- A loop over distinct elements whose body erases the element it is given:
first it is given every other element, then the last one as often as elements
were skipped, from behind the end. -/
theorem rangeFor_erasing {v : Storage α} (hdistinct : v.elements.Nodup) {z : α}
    (hlast : v.elements.getLast? = some z) :
    ∃ w, rangeFor Storage.eraseRemove v =
        some ((everyOther v.elements).map (⟨·, true⟩) ++
          List.replicate (skipped v.elements).length ⟨z, false⟩, w) ∧
      w.elements = (skipped v.elements).filter (· ≠ z) := by
  obtain ⟨elements, spare⟩ := v
  have hlength := length_everyOther_add_skipped elements
  have hle := length_skipped_le elements
  have herasing := rounds_erasing [] elements spare hdistinct
    (fun y hy => Option.some.inj (hy.symm.trans hlast)) (skipped elements).length
  obtain ⟨w, hw, helements⟩ := rounds_stale z (skipped elements).length
    (i := (everyOther elements).length)
    (v := ⟨skipped elements, List.replicate (everyOther elements).length z ++ spare⟩) hle (by
      intro j hj
      simp only [Storage.slots]
      rw [List.getElem?_append_right (by omega), List.getElem?_append_left (by simp; omega),
        List.getElem?_replicate, if_pos (by omega)])
  refine ⟨w, ?_, ?_⟩
  · rw [hlength] at herasing
    simp only [List.nil_append, List.length_nil, Nat.zero_add, hw, Option.map_some] at herasing
    exact herasing
  · rw [helements]
    split
    · rename_i hnone
      rw [List.eq_nil_of_length_eq_zero hnone]
      rfl
    · rfl

end

end UnifiedRil.Library.RangeFor

import Mathlib.Data.Nat.ModEq
import Mathlib.Data.List.GetD
import Mathlib.Data.List.TakeWhile

namespace UnifiedRil.Library.Bytes

/-- The `k` low bytes of a number, least significant first. -/
def leBytes : Nat → Nat → List UInt8
  | 0, _ => []
  | k + 1, n => UInt8.ofNat n :: leBytes k (n / 256)

/-- The number whose little-endian bytes are given. -/
def leValue : List UInt8 → Nat
  | [] => 0
  | b :: bs => b.toNat + 256 * leValue bs

@[simp] theorem leBytes_length (k n : Nat) : (leBytes k n).length = k := by
  induction k generalizing n with
  | zero => rfl
  | succ k ih => simp [leBytes, ih]

theorem drop_leBytes {k i : Nat} (h : k ≤ i) (n : Nat) : (leBytes k n).drop i = [] :=
  List.drop_eq_nil_of_le (by simpa using h)

theorem leValue_leBytes (k n : Nat) : leValue (leBytes k n) = n % 256 ^ k := by
  induction k generalizing n with
  | zero => simp [leBytes, leValue, Nat.mod_one]
  | succ k ih =>
      have hpow : 256 ^ (k + 1) = 256 * 256 ^ k := by rw [pow_succ, Nat.mul_comm]
      have hbyte : (UInt8.ofNat n).toNat = n % 256 := by simp
      rw [leBytes, leValue, ih, hbyte, hpow, Nat.mod_mul]

theorem leValue_leBytes_of_lt {k n : Nat} (h : n < 256 ^ k) :
    leValue (leBytes k n) = n := by
  rw [leValue_leBytes, Nat.mod_eq_of_lt h]

theorem leValue_lt (bytes : List UInt8) : leValue bytes < 256 ^ bytes.length := by
  induction bytes with
  | nil => exact Nat.one_pos
  | cons b bytes ih =>
      have hb : b.toNat < 256 := UInt8.toNat_lt b
      rw [leValue, List.length_cons, pow_succ]
      omega

theorem leBytes_leValue (bytes : List UInt8) : leBytes bytes.length (leValue bytes) = bytes := by
  induction bytes with
  | nil => rfl
  | cons b bytes ih =>
      have hb : b.toNat < 256 := UInt8.toNat_lt b
      have hlow : UInt8.ofNat (b.toNat + 256 * leValue bytes) = b := by
        rw [← UInt8.toNat_inj, UInt8.toNat_ofNat']
        omega
      have hrest : (b.toNat + 256 * leValue bytes) / 256 = leValue bytes := by omega
      rw [leValue, List.length_cons, leBytes, hlow, hrest, ih]

theorem leBytes_take {k : Nat} {image : List UInt8} (h : k ≤ image.length) :
    leBytes k (leValue (image.take k) % 256 ^ k) = image.take k := by
  have hlength : (image.take k).length = k := List.length_take_of_le h
  have hlt := leValue_lt (image.take k)
  have hbytes := leBytes_leValue (image.take k)
  rw [hlength] at hlt hbytes
  rw [Nat.mod_eq_of_lt hlt, hbytes]

/-- `n` bytes of an image from offset `off` on. -/
def slice (image : List UInt8) (off n : Nat) : List UInt8 := (image.drop off).take n

theorem slice_slice {image : List UInt8} {off n k m : Nat} (h : k + m ≤ n) :
    slice (slice image off n) k m = slice image (off + k) m := by
  rw [slice, slice, slice, List.drop_take, List.drop_drop, List.take_take,
    min_eq_left (Nat.le_sub_of_add_le' h)]

theorem length_flatMap_of {α : Type} {n : Nat} {f : α → List UInt8} (hf : ∀ a, (f a).length = n)
    (values : List α) : (values.flatMap f).length = values.length * n := by
  simp [List.length_flatMap, hf, List.map_const']

theorem slice_flatMap {α : Type} {n : Nat} {f : α → List UInt8} (hf : ∀ a, (f a).length = n)
    {values : List α} {i : Nat} (hi : i < values.length) :
    slice (values.flatMap f) (n * i) n = f values[i] := by
  induction values generalizing i with
  | nil => cases hi
  | cons a values ih =>
      cases i with
      | zero => simp [slice, List.take_left' (hf a)]
      | succ i =>
          have hdrop : ((a :: values).flatMap f).drop (n * (i + 1)) =
              (values.flatMap f).drop (n * i) := by
            rw [List.flatMap_cons, Nat.mul_succ, Nat.add_comm, ← List.drop_drop,
              List.drop_left' (hf a)]
          rw [slice, hdrop]
          exact ih (Nat.lt_of_succ_lt_succ hi)

/-- Copy bytes over the start of a buffer. Bytes beyond the buffer's end are
not part of the result. -/
def overwrite {n : Nat} (buffer : Vector UInt8 n) (bytes : List UInt8) : Vector UInt8 n :=
  Vector.ofFn fun i => bytes.getD i buffer[i]

/-- A zeroed buffer. -/
def zeros (n : Nat) : Vector UInt8 n := Vector.replicate n 0

theorem overwrite_toList {n : Nat} (buffer source : Vector UInt8 n) :
    overwrite buffer source.toList = source := by
  ext i hi
  simp [overwrite]

theorem overwrite_zeros_toList {n : Nat} (bytes : List UInt8) (h : bytes.length ≤ n) :
    (overwrite (zeros n) bytes).toList = bytes ++ List.replicate (n - bytes.length) 0 := by
  apply List.ext_getElem
  · simp [h]
  · intro i h₁ h₂
    rw [Vector.getElem_toList]
    by_cases hi : i < bytes.length
    · simp [overwrite, zeros, hi]
    · simp [overwrite, zeros, hi, List.getElem_append]

theorem overwrite_toList_take {n : Nat} (buffer : Vector UInt8 n) {bytes : List UInt8}
    (h : bytes.length ≤ n) : (overwrite buffer bytes).toList.take bytes.length = bytes := by
  apply List.ext_getElem
  · simp [h]
  · intro i h₁ h₂
    simp [overwrite, h₂]

theorem overwrite_toList_append {n : Nat} (buffer : Vector UInt8 n) {bytes : List UInt8}
    (h : bytes.length ≤ n) :
    (overwrite buffer bytes).toList = bytes ++ buffer.toList.drop bytes.length := by
  apply List.ext_getElem
  · simp
    omega
  · intro i h₁ h₂
    by_cases hi : i < bytes.length
    · simp [overwrite, hi]
    · rw [List.getElem_append_right (Nat.not_lt.mp hi)]
      simp [overwrite, hi, Nat.add_sub_of_le (Nat.not_lt.mp hi)]

theorem overwrite_toList_of_le {n : Nat} (buffer : Vector UInt8 n) {bytes : List UInt8}
    (h : n ≤ bytes.length) : (overwrite buffer bytes).toList = bytes.take n := by
  apply List.ext_getElem
  · simp [h]
  · intro i h₁ h₂
    have hi : i < bytes.length := Nat.lt_of_lt_of_le (by simpa using h₁) h
    simp [overwrite, hi]

theorem mem_overwrite {n : Nat} (buffer : Vector UInt8 n) {bytes : List UInt8}
    (h : bytes.length ≤ n) {b : UInt8} (hb : b ∈ bytes) : b ∈ (overwrite buffer bytes).toList := by
  rw [overwrite_toList_append buffer h]
  exact List.mem_append_left _ hb

/-- The text in an array of characters, up to its terminator. -/
def text {n : Nat} (chars : Vector UInt8 n) : List UInt8 := chars.toList.takeWhile (· ≠ 0)

theorem text_overwrite {n : Nat} (buffer : Vector UInt8 n) {chars : List UInt8} (h : 0 ∉ chars)
    (hfits : chars.length < n) : text (overwrite buffer (chars ++ [0])) = chars := by
  have hlength : (chars ++ [0]).length ≤ n := by
    rwa [List.length_append]
  have hchars : ∀ c ∈ chars, decide (c ≠ 0) = true := fun c hc =>
    decide_eq_true (ne_of_mem_of_not_mem hc h)
  rw [text, overwrite_toList_append buffer hlength, List.append_assoc,
    List.takeWhile_append_of_pos hchars, List.cons_append,
    List.takeWhile_cons_of_neg (by decide), List.append_nil]

/-- A text copied to an array of characters, as far as there is room for it. -/
def withText {n : Nat} (buffer : Vector UInt8 n) (chars : List UInt8) : Vector UInt8 n :=
  overwrite buffer ((chars.take (n - 1) ++ [0]).take n)

theorem text_withText {n : Nat} (hn : 0 < n) (buffer : Vector UInt8 n) {chars : List UInt8}
    (h : 0 ∉ chars) : text (withText buffer chars) = chars.take (n - 1) := by
  have hlength : (chars.take (n - 1)).length ≤ n - 1 := List.length_take_le ..
  have hall : (chars.take (n - 1) ++ [0]).take n = chars.take (n - 1) ++ [0] := by
    apply List.take_of_length_le
    rw [List.length_append, List.length_singleton]
    omega
  rw [withText, hall]
  exact text_overwrite buffer (fun hmem => h (List.mem_of_mem_take hmem)) (by omega)

theorem nul_mem_withText {n : Nat} (hn : 0 < n) (buffer : Vector UInt8 n) (chars : List UInt8) :
    0 ∈ (withText buffer chars).toList := by
  have hlength : (chars.take (n - 1)).length < n :=
    Nat.lt_of_le_of_lt (List.length_take_le ..) (Nat.sub_lt hn Nat.one_pos)
  have hall : (chars.take (n - 1) ++ [0]).take n = chars.take (n - 1) ++ [0] := by
    apply List.take_of_length_le
    rwa [List.length_append, List.length_singleton]
  rw [withText, hall]
  apply mem_overwrite
  · rwa [List.length_append, List.length_singleton]
  · exact List.mem_append_right _ List.mem_cons_self

end UnifiedRil.Library.Bytes

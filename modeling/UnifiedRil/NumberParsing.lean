import Mathlib.Tactic.Linarith
import UnifiedRil.ConversionDomains

namespace UnifiedRil.NumberParsing

open UnifiedRil.Library.CStrings
open UnifiedRil.Ril

/-- `rilStrToInt`: what it returns, and what it leaves in `*value`. -/
def rilStrToInt (rilStr : CharPtr) (value : Int32) : Except Fault (Bool × Int32) :=
  match rilStr with
  | .null => .ok (false, value)
  | .wild => .error .badRead
  | .to s =>
      if s.chars = [] then .ok (false, value)
      else
        let parsed := strtoul s
        let val := parsed.value.toInt64
        if parsed.erange ∨ parsed.endPtr.chars ≠ [] then .ok (false, value)
        else .ok (true, val.toInt32)

theorem narrow_eq (value : UInt64) : value.toInt64.toInt32 = value.toUInt32.toInt32 := by
  apply Int32.toBitVec_inj.mp
  simp [BitVec.signExtend_eq_setWidth_of_le]

/-- The callers are modelled with the result in place of the variable. -/
theorem rilStrToInt_eq (rilStr : CharPtr) (value : Int32) :
    rilStrToInt rilStr value = (RilConversion.rilStrToInt rilStr).map fun n =>
      (n.isSome, (n.map UInt32.toInt32).getD value) := by
  rcases rilStr with _ | s | _
  · rfl
  · simp only [rilStrToInt, RilConversion.rilStrToInt]
    split
    · rfl
    · split
      · rfl
      · rw [narrow_eq]
        rfl
  · rfl

/-- The text is a number to its end. -/
def Denotes (s : Option CString) (n : Int) : Prop :=
  ∃ (text : CString) (t : Numeral), s = some text ∧ text.chars = t.chars ∧ t.rest = [] ∧
    t.number = n

/-- The number is one of an `int`. -/
def Fits (n : Int) : Prop := -2 ^ 31 ≤ n ∧ n < 2 ^ 31

instance : DecidablePred Fits := fun _ => inferInstanceAs (Decidable (_ ∧ _))

/-- The pointer to a string, or a null pointer. -/
def pointer (s : Option CString) : CharPtr :=
  match s with
  | none => .null
  | some s => .to s

/-- The parser accepts exactly the numbers of an `int` and stores them, and leaves
the variable as it is otherwise. -/
def Faithful (s : Option CString) (value : Int32) : Prop :=
  ∃ ret value', rilStrToInt (pointer s) value = .ok (ret, value') ∧
    (ret = true ↔ ∃ n, Denotes s n ∧ Fits n) ∧
    (∀ n, Denotes s n → Fits n → value'.toInt = n) ∧ (ret = false → value' = value)

theorem denotes_unique {s : Option CString} {n n' : Int} (h : Denotes s n) (h' : Denotes s n') :
    n = n' := by
  obtain ⟨text, t, hs, hchars, -, rfl⟩ := h
  obtain ⟨text', t', hs', hchars', -, rfl⟩ := h'
  obtain rfl : text = text' := Option.some.inj (hs.symm.trans hs')
  rw [Numeral.chars_injective (hchars.symm.trans hchars')]

theorem natAbs_number (t : Numeral) : t.number.natAbs = t.magnitude := by
  rw [Numeral.number]
  cases t.sign with
  | minus => exact Int.natAbs_neg _
  | none | plus => rfl

theorem stored_eq {value : UInt64} {n : Int} (h : (value.toNat : Int) = n % 2 ^ 64) :
    value.toInt64.toInt32.toInt = n.bmod (2 ^ 32) := by
  have hlong : value.toInt64.toInt = n.bmod (2 ^ 64) := by
    rw [Int64.toInt, UInt64.toBitVec_toInt64, BitVec.toInt_eq_toNat_bmod, UInt64.toNat_toBitVec, h]
    exact Int.emod_bmod n (2 ^ 64)
  rw [Int64.toInt_toInt32, hlong]
  exact Int.bmod_bmod_of_dvd (by decide)

theorem parse_other {s : Option CString} (h : ∀ n, ¬ Denotes s n) (value : Int32) :
    rilStrToInt (pointer s) value = .ok (false, value) := by
  cases s with
  | none => rfl
  | some text =>
      have hend : text.chars ≠ [] → (strtoul text).endPtr.chars ≠ [] := by
        intro hne
        by_cases hnumeral : ∃ t : Numeral, text.chars = t.chars
        · obtain ⟨t, ht⟩ := hnumeral
          rw [(strtoul_numeral t ht).1]
          exact fun hrest => h _ ⟨text, t, rfl, ht, hrest, rfl⟩
        · rw [strtoul_unread (not_exists.mp hnumeral)]
          exact hne
      simp only [pointer, rilStrToInt]
      split
      · rfl
      · rename_i hne
        rw [if_pos (.inr (hend hne))]

theorem parse_number {s : Option CString} {n : Int} (h : Denotes s n) (value : Int32) :
    (2 ^ 64 ≤ n.natAbs → rilStrToInt (pointer s) value = .ok (false, value)) ∧
      (n.natAbs < 2 ^ 64 → ∃ value', rilStrToInt (pointer s) value = .ok (true, value') ∧
        value'.toInt = n.bmod (2 ^ 32)) := by
  obtain ⟨text, t, rfl, hchars, hrest, rfl⟩ := h
  obtain ⟨hend, herange, hvalue⟩ := strtoul_numeral t hchars
  have hne : text.chars ≠ [] := by
    rw [hchars, Numeral.chars, Numeral.signed]
    simp [t.digits_ne]
  rw [natAbs_number]
  constructor
  · intro hlarge
    have hrejected : (strtoul text).erange = true := herange.trans (decide_eq_true hlarge)
    simp only [pointer, rilStrToInt, if_neg hne, hrejected, true_or, if_true]
  · intro hsmall
    have haccepted : (strtoul text).erange = false :=
      herange.trans (decide_eq_false (Nat.not_le.mpr hsmall))
    refine ⟨_, ?_, stored_eq (hvalue hsmall)⟩
    simp only [pointer, rilStrToInt, if_neg hne, haccepted, hend, hrest]
    simp

theorem faithful_of_fits {s : Option CString} {n : Int} (hn : Denotes s n) (hfits : Fits n)
    (value : Int32) : Faithful s value := by
  have hsmall : n.natAbs < 2 ^ 64 := by
    rw [Fits] at hfits
    omega
  obtain ⟨value', hparsed, hstored⟩ := (parse_number hn value).2 hsmall
  refine ⟨true, value', hparsed, iff_of_true rfl ⟨n, hn, hfits⟩, fun n' hn' _ => ?_, nofun⟩
  rw [hstored, denotes_unique hn' hn]
  exact Int.bmod_eq_of_le hfits.1 hfits.2

theorem faithful_of_rejected {s : Option CString} {value : Int32}
    (hparsed : rilStrToInt (pointer s) value = .ok (false, value))
    (hnone : ∀ n, Denotes s n → ¬ Fits n) : Faithful s value := by
  refine ⟨false, value, hparsed, iff_of_false nofun ?_, ?_, fun _ => rfl⟩
  · rintro ⟨n, hn, hfits⟩
    exact hnone n hn hfits
  · exact fun n hn hfits => absurd hfits (hnone n hn)

theorem not_faithful {s : Option CString} {n : Int} (hn : Denotes s n) (hfits : ¬ Fits n)
    (hsmall : n.natAbs < 2 ^ 64) (value : Int32) : ¬ Faithful s value := by
  rintro ⟨ret, value', hparsed, haccepted, -, -⟩
  obtain ⟨stored, htrue, -⟩ := (parse_number hn value).2 hsmall
  obtain ⟨rfl, -⟩ := Prod.mk.inj (Except.ok.inj (hparsed.symm.trans htrue))
  obtain ⟨n', hn', hfits'⟩ := haccepted.mp rfl
  exact hfits (denotes_unique hn' hn ▸ hfits')

/-- The parser is faithful except to the numbers that an `unsigned long` has and an
`int` has not. -/
theorem numbers_parsed (s : Option CString) (value : Int32) :
    Faithful s value ↔ ∀ n, Denotes s n → Fits n ∨ 2 ^ 64 ≤ n.natAbs := by
  constructor
  · intro hfaithful n hn
    by_contra hlost
    obtain ⟨hfits, hsmall⟩ := not_or.mp hlost
    exact not_faithful hn hfits (Nat.not_le.mp hsmall) value hfaithful
  · intro h
    by_cases hdenotes : ∃ n, Denotes s n
    · obtain ⟨n, hn⟩ := hdenotes
      rcases h n hn with hfits | hlarge
      · exact faithful_of_fits hn hfits value
      · refine faithful_of_rejected ((parse_number hn value).1 hlarge) fun n' hn' hfits => ?_
        obtain rfl := denotes_unique hn' hn
        rw [Fits] at hfits
        omega
    · have hnone : ∀ n, ¬ Denotes s n := not_exists.mp hdenotes
      exact faithful_of_rejected (parse_other hnone value) fun n hn => absurd hn (hnone n)

/-- 2 ^ 32 + 1, which is taken for 1. -/
def tooLong : CString := ⟨ascii ['4', '2', '9', '4', '9', '6', '7', '2', '9', '7'], by decide⟩

/-- The variable is set, although the number is not one of an `int`. -/
theorem value_invented :
    rilStrToInt (pointer (some tooLong)) 0 = .ok (true, 1) ∧ ¬ Faithful (some tooLong) 0 := by
  have hdigits : tooLong.chars.all isDigit = true := by decide
  have hnumber : (digitsValue tooLong.chars : Int) = 4294967297 := by decide
  have hdenotes : Denotes (some tooLong) 4294967297 :=
    ⟨tooLong, ⟨[], .none, tooLong.chars, [], nofun, List.all_eq_true.mp hdigits, by decide, nofun⟩,
      rfl, rfl, rfl, hnumber⟩
  exact ⟨by decide, not_faithful hdenotes (by decide) (by decide) 0⟩

/-- Numbers that differ by a multiple of 2 ^ 32 are one to the callers. -/
theorem parse_congruent {s s' : Option CString} {n n' : Int} (hn : Denotes s n)
    (hn' : Denotes s' n') (hsmall : n.natAbs < 2 ^ 64) (hsmall' : n'.natAbs < 2 ^ 64)
    (hmod : n.bmod (2 ^ 32) = n'.bmod (2 ^ 32)) (value : Int32) :
    rilStrToInt (pointer s) value = rilStrToInt (pointer s') value := by
  obtain ⟨stored, hparsed, hstored⟩ := (parse_number hn value).2 hsmall
  obtain ⟨stored', hparsed', hstored'⟩ := (parse_number hn' value).2 hsmall'
  obtain rfl : stored = stored' :=
    Int32.toInt_inj.mp (hstored.trans (hmod.trans hstored'.symm))
  exact hparsed.trans hparsed'.symm

end UnifiedRil.NumberParsing

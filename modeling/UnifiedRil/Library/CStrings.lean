import Mathlib.Algebra.Group.Int.Defs
import Mathlib.Algebra.Group.Nat.Defs
import UnifiedRil.Library.Words

namespace UnifiedRil.Library.CStrings

open UnifiedRil.Library.Words

/-- The bytes before the terminator. -/
structure CString where
  chars : List UInt8
  noNul : 0 ∉ chars
  deriving DecidableEq

/-- The string that starts `n` characters later, not beyond the terminator. -/
def CString.drop (s : CString) (n : Nat) : CString :=
  ⟨s.chars.drop n, fun h => s.noNul (List.mem_of_mem_drop h)⟩

/-- The bytes of an ASCII literal. -/
def ascii (text : List Char) : List UInt8 := text.map fun c => UInt8.ofNat c.toNat

/-- The string that starts at the first of some bytes, if it ends within
them. -/
def terminated (bytes : List UInt8) : Option CString :=
  if 0 ∈ bytes then
    some ⟨bytes.takeWhile (· ≠ 0), fun h => by simpa using List.mem_takeWhile_imp h⟩
  else none

/-- `isspace` in the C locale -/
def isSpace (c : UInt8) : Bool := c == 0x20 || (0x09 ≤ c && c ≤ 0x0d)

def isDigit (c : UInt8) : Bool := 0x30 ≤ c && c ≤ 0x39

/-- The number that decimal digits denote. -/
def digitsValue (digits : List UInt8) : Nat :=
  digits.foldl (fun n c => 10 * n + (c.toNat - 0x30)) 0

/-- What `strtoul` returns, where it stops, and whether it reports `ERANGE`. -/
structure Strtoul where
  value : UInt64
  endPtr : CString
  erange : Bool
  deriving DecidableEq

/-- `strtoul(s, &endPtr, 10)`. A negated value wraps around; a text without
digits is left where it starts. -/
def strtoul (s : CString) : Strtoul :=
  let spaces := (s.chars.takeWhile isSpace).length
  let afterSpaces := s.chars.drop spaces
  let negative := afterSpaces.head? = some 0x2d
  let sign := if negative ∨ afterSpaces.head? = some 0x2b then 1 else 0
  let digits := (afterSpaces.drop sign).takeWhile isDigit
  let n := digitsValue digits
  if digits = [] then { value := 0, endPtr := s, erange := false }
  else
    let endPtr := s.drop (spaces + sign + digits.length)
    if 2 ^ 64 ≤ n then { value := UInt64.ofNat (2 ^ 64 - 1), endPtr := endPtr, erange := true }
    else if negative then { value := -UInt64.ofNat n, endPtr := endPtr, erange := false }
    else { value := UInt64.ofNat n, endPtr := endPtr, erange := false }

theorem not_isSpace_of_isDigit {c : UInt8} (h : isDigit c = true) : isSpace c = false := by
  have hc : 0x30 ≤ c.toNat := by
    simp only [isDigit, Bool.and_eq_true, decide_eq_true_eq] at h
    exact UInt8.le_iff_toNat_le.mp h.1
  have hnot : ¬ c ≤ 0x0d := fun hle => by
    have hle' : c.toNat ≤ 0x0d := UInt8.le_iff_toNat_le.mp hle
    omega
  have hne : c ≠ 0x20 := by
    rintro rfl
    cases h
  simp [isSpace, hnot, hne]

/-- The sign of a number, which may be left out. -/
inductive Sign
  | none
  | plus
  | minus
  deriving DecidableEq

def Sign.chars : Sign → List UInt8
  | .none => []
  | .plus => [0x2b]
  | .minus => [0x2d]

def Sign.apply (n : Nat) : Sign → Int
  | .minus => -n
  | _ => n

/-- White space, a sign and digits, and the text that follows them. -/
structure Numeral where
  spaces : List UInt8
  sign : Sign
  digits : List UInt8
  rest : List UInt8
  isSpaces : ∀ c ∈ spaces, isSpace c = true
  isDigits : ∀ c ∈ digits, isDigit c = true
  digits_ne : digits ≠ []
  stops : ∀ c, rest.head? = some c → isDigit c = false

namespace Numeral

/-- From the sign on. -/
def signed (t : Numeral) : List UInt8 := t.sign.chars ++ (t.digits ++ t.rest)

def chars (t : Numeral) : List UInt8 := t.spaces ++ t.signed

def magnitude (t : Numeral) : Nat := digitsValue t.digits

def number (t : Numeral) : Int := t.sign.apply t.magnitude

theorem head_unsigned (t : Numeral) :
    ∃ c, (t.digits ++ t.rest).head? = some c ∧ isDigit c = true := by
  obtain ⟨c, tail, hdigits⟩ := List.exists_cons_of_ne_nil t.digits_ne
  refine ⟨c, by rw [hdigits]; rfl, t.isDigits c ?_⟩
  rw [hdigits]
  exact List.mem_cons_self

theorem head_signed (t : Numeral) :
    (t.signed.head? = some 0x2d ↔ t.sign = .minus) ∧
      (t.signed.head? = some 0x2b ↔ t.sign = .plus) ∧
      ∃ c, t.signed.head? = some c ∧ isSpace c = false := by
  cases hsign : t.sign with
  | plus => simp [signed, hsign, Sign.chars, isSpace]
  | minus => simp [signed, hsign, Sign.chars, isSpace]
  | none =>
      obtain ⟨c, hhead, hc⟩ := t.head_unsigned
      have hplus : c ≠ 0x2b := by rintro rfl; cases hc
      have hminus : c ≠ 0x2d := by rintro rfl; cases hc
      simp [signed, hsign, Sign.chars, hhead, hplus, hminus, not_isSpace_of_isDigit hc]

theorem takeWhile_isSpace (t : Numeral) : t.chars.takeWhile isSpace = t.spaces := by
  obtain ⟨-, -, c, hhead, hc⟩ := t.head_signed
  refine takeWhile_append_stop t.isSpaces fun c' hc' => ?_
  obtain rfl : c = c' := Option.some.inj (hhead.symm.trans hc')
  exact hc

theorem drop_spaces (t : Numeral) : t.chars.drop t.spaces.length = t.signed :=
  List.drop_left

theorem drop_sign (t : Numeral) : t.signed.drop t.sign.chars.length = t.digits ++ t.rest :=
  List.drop_left

theorem takeWhile_isDigit (t : Numeral) : (t.digits ++ t.rest).takeWhile isDigit = t.digits :=
  takeWhile_append_stop t.isDigits t.stops

theorem sign_eq_of_signed {t t' : Numeral} (h : t.signed = t'.signed) : t.sign = t'.sign := by
  obtain ⟨hminus, hplus, -⟩ := t.head_signed
  obtain ⟨hminus', hplus', -⟩ := t'.head_signed
  rw [h] at hminus hplus
  have hsame : t.sign = .minus ↔ t'.sign = .minus := hminus.symm.trans hminus'
  have hsame' : t.sign = .plus ↔ t'.sign = .plus := hplus.symm.trans hplus'
  cases hsign : t.sign <;> cases hsign' : t'.sign <;> simp [hsign, hsign'] at hsame hsame' ⊢

theorem chars_injective : Function.Injective chars := by
  intro t t' h
  have hspaces : t.spaces = t'.spaces := by rw [← t.takeWhile_isSpace, h, t'.takeWhile_isSpace]
  have hsigned : t.signed = t'.signed := by rw [← t.drop_spaces, h, hspaces, t'.drop_spaces]
  have hsign : t.sign = t'.sign := sign_eq_of_signed hsigned
  have hunsigned : t.digits ++ t.rest = t'.digits ++ t'.rest := by
    rw [← t.drop_sign, hsigned, hsign, t'.drop_sign]
  have hdigits : t.digits = t'.digits := by
    rw [← t.takeWhile_isDigit, hunsigned, t'.takeWhile_isDigit]
  have hrest : t.rest = t'.rest := List.append_cancel_left (hdigits ▸ hunsigned)
  cases t
  cases t'
  simp only at hspaces hsign hdigits hrest
  subst hspaces hsign hdigits hrest
  rfl

end Numeral

theorem strtoul_numeral {s : CString} (t : Numeral) (hs : s.chars = t.chars) :
    (strtoul s).endPtr.chars = t.rest ∧ (strtoul s).erange = decide (2 ^ 64 ≤ t.magnitude) ∧
      (t.magnitude < 2 ^ 64 → ((strtoul s).value.toNat : Int) = t.number % 2 ^ 64) := by
  obtain ⟨hminus, hplus, -⟩ := t.head_signed
  have hsign : (if t.sign = .minus ∨ t.sign = .plus then 1 else 0) = t.sign.chars.length := by
    cases t.sign <;> rfl
  have hmagnitude : digitsValue t.digits = t.magnitude := rfl
  have hend :
      (s.drop (t.spaces.length + t.sign.chars.length + t.digits.length)).chars = t.rest := by
    change s.chars.drop _ = _
    rw [hs, ← List.drop_drop, ← List.drop_drop, t.drop_spaces, t.drop_sign, List.drop_left]
  unfold strtoul
  simp only [hs, t.takeWhile_isSpace, t.drop_spaces, hminus, hplus, hsign, t.drop_sign,
    t.takeWhile_isDigit, t.digits_ne, if_false, hmagnitude]
  by_cases hlarge : 2 ^ 64 ≤ t.magnitude
  · rw [if_pos hlarge]
    exact ⟨hend, (decide_eq_true hlarge).symm, fun hlt => absurd hlt (Nat.not_lt.mpr hlarge)⟩
  · rw [if_neg hlarge]
    have hlt : t.magnitude < 2 ^ 64 := Nat.not_le.mp hlarge
    rw [decide_eq_false hlarge]
    by_cases hnegative : t.sign = .minus
    · rw [if_pos hnegative]
      refine ⟨hend, rfl, fun _ => ?_⟩
      have hnumber : t.number = -t.magnitude := by rw [Numeral.number, hnegative, Sign.apply]
      rw [hnumber, UInt64.toNat_neg, UInt64.toNat_ofNat_of_lt' hlt, UInt64.size]
      omega
    · rw [if_neg hnegative]
      refine ⟨hend, rfl, fun _ => ?_⟩
      have hnumber : t.number = t.magnitude := by
        rw [Numeral.number]
        cases hsign : t.sign <;> first | rfl | exact absurd hsign hnegative
      rw [hnumber, UInt64.toNat_ofNat_of_lt' hlt]
      omega

theorem exists_sign (chars : List UInt8) :
    ∃ sign : Sign, chars = sign.chars ++
      chars.drop (if chars.head? = some 0x2d ∨ chars.head? = some 0x2b then 1 else 0) := by
  cases chars with
  | nil => exact ⟨.none, rfl⟩
  | cons c rest =>
      obtain rfl | hminus := eq_or_ne c 0x2d
      · exact ⟨.minus, rfl⟩
      · obtain rfl | hplus := eq_or_ne c 0x2b
        · exact ⟨.plus, rfl⟩
        · exact ⟨.none, by simp [hminus, hplus, Sign.chars]⟩

theorem strtoul_unread {s : CString} (h : ∀ t : Numeral, s.chars ≠ t.chars) :
    strtoul s = { value := 0, endPtr := s, erange := false } := by
  obtain ⟨sign, hsign⟩ := exists_sign (s.chars.drop (s.chars.takeWhile isSpace).length)
  unfold strtoul
  simp only
  generalize (s.chars.drop (s.chars.takeWhile isSpace).length).drop _ = after at hsign ⊢
  by_cases hdigits : after.takeWhile isDigit = []
  · rw [if_pos hdigits]
  · exfalso
    refine h ⟨s.chars.takeWhile isSpace, sign, after.takeWhile isDigit, after.dropWhile isDigit,
      fun c => List.mem_takeWhile_imp, fun c => List.mem_takeWhile_imp, hdigits, ?_⟩ ?_
    · intro c hc
      have hstop := List.head?_dropWhile_not isDigit after
      simpa [hc] using hstop
    · rw [Numeral.chars, Numeral.signed, List.takeWhile_append_dropWhile, ← hsign]
      have hspaces := List.prefix_iff_eq_take.mp (List.takeWhile_prefix (l := s.chars) isSpace)
      refine (List.take_append_drop (s.chars.takeWhile isSpace).length s.chars).symm.trans ?_
      rw [← hspaces]

theorem strtoul_digits {s : CString} {digits rest : List UInt8} (hs : s.chars = digits ++ rest)
    (hne : digits ≠ []) (hdigits : ∀ c ∈ digits, isDigit c = true)
    (hstop : ∀ c, rest.head? = some c → isDigit c = false)
    (hlt : digitsValue digits < 2 ^ 64) :
    (strtoul s).value = UInt64.ofNat (digitsValue digits) ∧
      (strtoul s).endPtr.chars = rest := by
  let t : Numeral := ⟨[], .none, digits, rest, nofun, hdigits, hne, hstop⟩
  obtain ⟨hend, -, hvalue⟩ := strtoul_numeral t hs
  refine ⟨UInt64.toNat_inj.mp ?_, hend⟩
  have hvalue := hvalue hlt
  rw [show t.number = digitsValue digits from rfl] at hvalue
  rw [UInt64.toNat_ofNat_of_lt' hlt]
  omega

theorem toNat_ofNat_of_isDigit {c : Char} (h : c.isDigit = true) :
    (UInt8.ofNat c.toNat).toNat = c.toNat := by
  have hle : c.toNat ≤ 57 := by
    simp only [Char.isDigit, Bool.and_eq_true, decide_eq_true_eq] at h
    exact UInt32.le_iff_toNat_le.mp h.2
  rw [UInt8.toNat_ofNat']
  omega

theorem isDigit_ascii {text : List Char} (h : ∀ c ∈ text, c.isDigit = true) :
    ∀ b ∈ ascii text, isDigit b = true := by
  intro b hb
  obtain ⟨c, hc, rfl⟩ := List.mem_map.mp hb
  have hdigit := h c hc
  have htoNat := toNat_ofNat_of_isDigit hdigit
  simp only [Char.isDigit, Bool.and_eq_true, decide_eq_true_eq] at hdigit
  have hlow : 48 ≤ c.toNat := UInt32.le_iff_toNat_le.mp hdigit.1
  have hhigh : c.toNat ≤ 57 := UInt32.le_iff_toNat_le.mp hdigit.2
  simp only [isDigit, Bool.and_eq_true, decide_eq_true_eq, UInt8.le_iff_toNat_le, htoNat]
  exact ⟨hlow, hhigh⟩

theorem digitsValue_ascii {text : List Char} (h : ∀ c ∈ text, c.isDigit = true) :
    digitsValue (ascii text) = Nat.ofDigitChars 10 text 0 := by
  have hfold : ∀ n, (ascii text).foldl (fun n c => 10 * n + (c.toNat - 0x30)) n =
      Nat.ofDigitChars 10 text n := by
    induction text with
    | nil => intro n; rfl
    | cons c text ih =>
        intro n
        have hc := toNat_ofNat_of_isDigit (h c List.mem_cons_self)
        rw [Nat.ofDigitChars_cons, ← ih fun c' hc' => h c' (List.mem_cons_of_mem c hc'), ascii,
          List.map_cons, List.foldl_cons, hc]
        rfl
  exact hfold 0

theorem isDigit_of_mem_toDigits (n : Nat) : ∀ c ∈ Nat.toDigits 10 n, c.isDigit = true :=
  fun _ => Nat.isDigit_of_mem_toDigits (by decide) (by decide)

theorem zero_not_mem_toDigits (n : Nat) : 0 ∉ ascii (Nat.toDigits 10 n) := by
  intro h
  have hdigit := isDigit_ascii (isDigit_of_mem_toDigits n) 0 h
  cases hdigit

/-- A number is read back from its numeral. -/
theorem strtoul_toDigits {s : CString} {n : Nat} (hs : s.chars = ascii (Nat.toDigits 10 n))
    (hn : n < 2 ^ 64) :
    (strtoul s).value = UInt64.ofNat n ∧ (strtoul s).endPtr.chars = [] ∧
      (strtoul s).erange = false := by
  have hdigits := isDigit_of_mem_toDigits n
  have hvalue : digitsValue (ascii (Nat.toDigits 10 n)) = n := by
    rw [digitsValue_ascii hdigits, Nat.ofDigitChars_ten_toDigits]
  have hne : ascii (Nat.toDigits 10 n) ≠ [] := by simp [ascii, Nat.toDigits_ne_nil]
  let t : Numeral := ⟨[], .none, _, [], nofun, isDigit_ascii hdigits, hne, nofun⟩
  have hchars : s.chars = t.chars := hs.trans (List.append_nil _).symm
  have hlt : t.magnitude < 2 ^ 64 := hvalue.trans_lt hn
  obtain ⟨hend, hrange, hnumber⟩ := strtoul_numeral t hchars
  refine ⟨UInt64.toNat_inj.mp ?_, hend, hrange.trans (decide_eq_false (Nat.not_le.mpr hlt))⟩
  have hsame : t.number = n := congrArg Nat.cast hvalue
  have hnumber := hnumber hlt
  rw [hsame] at hnumber
  rw [UInt64.toNat_ofNat_of_lt' hn]
  omega

end UnifiedRil.Library.CStrings

import UnifiedRil.DataCallConversion

namespace UnifiedRil.AddressLists

open UnifiedRil.Library.Bytes
open UnifiedRil.Library.CStrings
open UnifiedRil.Library.Layout
open UnifiedRil.Library.Results
open UnifiedRil.Library.Words
open UnifiedRil.Messages
open UnifiedRil.Ril
open UnifiedRil.RilConversion
open UnifiedRil.ConversionDomains
open UnifiedRil.DataCallConversion

/-- An address as it is written, with a prefix length or without one. -/
structure AddressText where
  addr : List UInt8
  digits : Option (List UInt8)
  addr_ne : addr ≠ []
  addr_short : addr.length < urilDataMaxAddrLen
  addr_plain : ∀ c ∈ addr, c ≠ 0x20 ∧ c ≠ 0x2f ∧ c ≠ 0
  digits_number : ∀ d ∈ digits,
    d ≠ [] ∧ (∀ c ∈ d, isDigit c = true) ∧ digitsValue d < 2 ^ 32

def AddressText.suffix (t : AddressText) : List UInt8 :=
  match t.digits with
  | some d => 0x2f :: d
  | none => []

def AddressText.chars (t : AddressText) : List UInt8 := t.addr ++ t.suffix

def AddressText.prefixLen (t : AddressText) : UInt32 :=
  match t.digits with
  | some d => UInt32.ofNat (digitsValue d)
  | none => if 0x3a ∈ t.addr then 128 else 32

/-- The text of a list of addresses. -/
def Lists (s : CString) (ts : List AddressText) : Prop :=
  Spaced 0x20 (ts.map AddressText.chars) s.chars

def Holds (addr : DataAddr) (t : AddressText) : Prop :=
  text addr.addr = t.addr ∧ addr.prefixLen = t.prefixLen

/-- A text for a list, with a space before each address. -/
def writtenList : List AddressText → List UInt8
  | [] => []
  | t :: ts => 0x20 :: (t.chars ++ writtenList ts)

theorem AddressText.nul_not_mem_chars (t : AddressText) : 0 ∉ t.chars := by
  intro h
  rcases List.mem_append.mp h with h | h
  · exact (t.addr_plain 0 h).2.2 rfl
  · unfold AddressText.suffix at h
    cases hdigits : t.digits with
    | none =>
        rw [hdigits] at h
        cases h
    | some d =>
        rw [hdigits] at h
        rcases List.mem_cons.mp h with h | h
        · cases h
        · exact absurd ((t.digits_number d hdigits).2.1 0 h) (by decide)

theorem nul_not_mem_writtenList (ts : List AddressText) : 0 ∉ writtenList ts := by
  induction ts with
  | nil => exact List.not_mem_nil
  | cons t ts ih =>
      intro h
      rcases List.mem_cons.mp h with h | h
      · cases h
      · exact (List.mem_append.mp h).elim t.nul_not_mem_chars ih

def listText (ts : List AddressText) : CString := ⟨writtenList ts, nul_not_mem_writtenList ts⟩

theorem lists_listText (ts : List AddressText) : Lists (listText ts) ts := by
  induction ts with
  | nil => exact .nil 0
  | cons t ts ih =>
      refine .cons 1 ih fun c hc => ?_
      cases ts with
      | nil => cases hc
      | cons t' ts => exact (Option.some.inj hc).symm

theorem AddressText.head?_ne (t : AddressText) (rest : List UInt8) :
    ∃ c, (t.chars ++ rest).head? = some c ∧ c ≠ 0x20 := by
  obtain ⟨c, tail, hc⟩ := List.exists_cons_of_ne_nil t.addr_ne
  refine ⟨c, by rw [AddressText.chars, hc]; rfl, ?_⟩
  exact (t.addr_plain c (hc ▸ List.mem_cons_self)).1

theorem addressToken_of_nil {s : CString} (h : Lists s []) : addressToken s = [] := by
  obtain ⟨k, hk⟩ : ∃ k, s.chars = List.replicate k 0x20 := by
    generalize hchars : s.chars = chars
    rw [Lists, hchars] at h
    cases h with
    | nil k => exact ⟨k, rfl⟩
  have hall : s.chars.takeWhile (fun c => decide (c = 0x20)) = s.chars := by
    rw [hk]
    simp
  have hskip : (skipSpaces s).chars = [] := by
    change s.chars.drop _ = []
    rw [hall, List.drop_length]
  rw [addressToken, hskip]
  rfl

theorem exists_of_lists_cons {s : CString} {t : AddressText} {ts : List AddressText}
    (h : Lists s (t :: ts)) :
    ∃ rest, (skipSpaces s).chars = t.chars ++ rest ∧
      Spaced 0x20 (ts.map AddressText.chars) rest ∧ ∀ c, rest.head? = some c → c = 0x20 := by
  generalize hchars : s.chars = chars
  rw [Lists, hchars, List.map_cons] at h
  cases h with
  | @cons k _ _ rest hrest hstop =>
      refine ⟨rest, ?_, hrest, hstop⟩
      obtain ⟨c, hc, hne⟩ := t.head?_ne rest
      have hspaces : s.chars.takeWhile (fun c => decide (c = 0x20)) = List.replicate k 0x20 := by
        rw [hchars]
        apply takeWhile_append_stop
        · intro c hc
          exact decide_eq_true (List.eq_of_mem_replicate hc)
        · intro c' hc'
          rw [hc] at hc'
          exact decide_eq_false (Option.some.inj hc' ▸ hne)
      change s.chars.drop (s.chars.takeWhile _).length = _
      rw [hspaces, hchars, List.drop_left]

theorem addressToken_of_cons {s : CString} {t : AddressText} {rest : List UInt8}
    (hskip : (skipSpaces s).chars = t.chars ++ rest)
    (hstop : ∀ c, rest.head? = some c → c = 0x20) :
    addressToken s = t.addr ∧ (addressTail s).chars = t.suffix ++ rest := by
  have htoken : addressToken s = t.addr := by
    rw [addressToken, hskip, AddressText.chars, List.append_assoc]
    apply takeWhile_append_stop
    · intro c hc
      have hplain := t.addr_plain c hc
      exact decide_eq_true ⟨hplain.1, hplain.2.1⟩
    · intro c hc
      apply decide_eq_false
      rintro ⟨hspace, hslash⟩
      unfold AddressText.suffix at hc
      cases hdigits : t.digits with
      | none =>
          rw [hdigits] at hc
          exact hspace (hstop c hc)
      | some d =>
          rw [hdigits] at hc
          exact hslash (Option.some.inj hc).symm
  refine ⟨htoken, ?_⟩
  change (skipSpaces s).chars.drop (addressToken s).length = _
  rw [htoken, hskip, AddressText.chars, List.append_assoc, List.drop_left]

theorem words_of_texts (ts : List AddressText) :
    (∀ word ∈ ts.map AddressText.chars, word.head? ≠ some 0x20) ∧
      [] ∉ ts.map AddressText.chars := by
  constructor
  · intro word hword hhead
    obtain ⟨t, -, rfl⟩ := List.mem_map.mp hword
    obtain ⟨c, hc, hne⟩ := t.head?_ne []
    rw [List.append_nil] at hc
    exact hne (Option.some.inj (hc.symm.trans hhead))
  · intro hnil
    obtain ⟨t, -, ht⟩ := List.mem_map.mp hnil
    exact t.addr_ne (List.append_eq_nil_iff.mp ht).1

theorem parsed_plain {s : CString} {t : AddressText} {ts : List AddressText} {rest : List UInt8}
    (hdigits : t.digits = none) (htoken : addressToken s = t.addr)
    (htail : (addressTail s).chars = t.suffix ++ rest)
    (hrest : Spaced 0x20 (ts.map AddressText.chars) rest)
    (hstop : ∀ c, rest.head? = some c → c = 0x20) :
    prefixLenOf s = t.prefixLen ∧ ∃ next, nextAddress s = some next ∧ Lists next ts := by
  have hplain : (addressTail s).chars = rest := by
    rw [htail, AddressText.suffix, hdigits]
    rfl
  have hhead : (addressTail s).chars.head? ≠ some 0x2f := by
    intro h
    rw [hplain] at h
    exact absurd (hstop _ h) (by decide)
  have hne : addressToken s ≠ [] := htoken ▸ t.addr_ne
  constructor
  · rw [prefixLenOf, if_neg hhead, htoken, AddressText.prefixLen, hdigits]
  · unfold nextAddress
    rw [if_neg hne]
    by_cases hend : (addressTail s).chars.head? = none
    · rw [if_pos hend]
      refine ⟨_, rfl, ?_⟩
      rw [Lists, hplain]
      exact hrest
    · rw [if_neg hend, if_neg hhead]
      refine ⟨_, rfl, ?_⟩
      obtain ⟨c, hc⟩ := Option.ne_none_iff_exists'.mp hend
      rw [hplain] at hc
      have htexts := words_of_texts ts
      have hdrop : ((addressTail s).drop 1).chars = rest.tail := by
        change (addressTail s).chars.drop 1 = _
        rw [hplain, List.drop_one]
      rw [Lists, hdrop]
      exact hrest.tail htexts.1 htexts.2 (hstop c hc ▸ hc)

theorem parsed_digits {s : CString} {t : AddressText} {ts : List AddressText} {rest d : List UInt8}
    (hdigits : t.digits = some d) (htoken : addressToken s = t.addr)
    (htail : (addressTail s).chars = t.suffix ++ rest)
    (hrest : Spaced 0x20 (ts.map AddressText.chars) rest)
    (hstop : ∀ c, rest.head? = some c → c = 0x20) :
    prefixLenOf s = t.prefixLen ∧ ∃ next, nextAddress s = some next ∧ Lists next ts := by
  obtain ⟨hne, hall, hlt⟩ := t.digits_number d hdigits
  have hslash : (addressTail s).chars = 0x2f :: (d ++ rest) := by
    rw [htail, AddressText.suffix, hdigits]
    rfl
  have hhead : (addressTail s).chars.head? = some 0x2f := by
    rw [hslash]
    rfl
  have hdrop : ((addressTail s).drop 1).chars = d ++ rest := by
    change (addressTail s).chars.drop 1 = _
    rw [hslash]
    rfl
  obtain ⟨hvalue, hend⟩ := strtoul_digits hdrop hne hall
    (fun c hc => hstop c hc ▸ rfl) (hlt.trans (by decide))
  constructor
  · rw [prefixLenOf, if_pos hhead, hvalue, AddressText.prefixLen, hdigits]
    apply UInt32.toNat_inj.mp
    simp
  · have htokenNe : addressToken s ≠ [] := htoken ▸ t.addr_ne
    refine ⟨(strtoul ((addressTail s).drop 1)).endPtr, ?_, ?_⟩
    · rw [nextAddress, if_neg htokenNe, if_neg (by rw [hhead]; nofun), if_pos hhead]
    · rw [Lists, hend]
      exact hrest

theorem parsed_of_cons {s : CString} {t : AddressText} {ts : List AddressText}
    (h : Lists s (t :: ts)) :
    addressToken s = t.addr ∧ prefixLenOf s = t.prefixLen ∧
      ∃ next, nextAddress s = some next ∧ Lists next ts := by
  obtain ⟨rest, hskip, hrest, hstop⟩ := exists_of_lists_cons h
  obtain ⟨htoken, htail⟩ := addressToken_of_cons hskip hstop
  cases hdigits : t.digits with
  | none => exact ⟨htoken, parsed_plain hdigits htoken htail hrest hstop⟩
  | some d => exact ⟨htoken, parsed_digits hdigits htoken htail hrest hstop⟩

theorem AddressText.nul_not_mem (t : AddressText) : 0 ∉ t.addr :=
  fun h => (t.addr_plain 0 h).2.2 rfl

theorem withAddress_holds {s : CString} {t : AddressText} {ts : List AddressText}
    (h : Lists s (t :: ts)) (addr : DataAddr) : Holds (withAddress addr (.to s)) t := by
  obtain ⟨htoken, hprefixLen, -⟩ := parsed_of_cons h
  have hne : addressToken s ≠ [] := htoken ▸ t.addr_ne
  have hvalue : withAddress addr (.to s) =
      { addr := overwrite addr.addr (addressToken s ++ [0]), prefixLen := prefixLenOf s } :=
    if_neg hne
  rw [hvalue, htoken, hprefixLen]
  exact ⟨text_overwrite _ t.nul_not_mem t.addr_short, rfl⟩

theorem withSlot_succ {room : Nat} (hroom : room < urilDataMaxAddrCount) (info : DataCallInfo)
    (s : CString) :
    ∃ h : urilDataMaxAddrCount - (room + 1) < urilDataMaxAddrCount,
      withSlot (room + 1) info s =
        { info with
          pdpAddrs := info.pdpAddrs.set (urilDataMaxAddrCount - (room + 1))
            (withAddress info.pdpAddrs[urilDataMaxAddrCount - (room + 1)] (.to s)) } := by
  have hlt : urilDataMaxAddrCount - (room + 1) < urilDataMaxAddrCount := by omega
  have hslot : nextSlot (room + 1) = DataCallInfo.pdpAddrsField.trans
      (.elem ⟨urilDataMaxAddrCount - (room + 1), hlt⟩) := dif_pos hlt
  refine ⟨hlt, ?_⟩
  rw [withSlot, hslot]
  rfl

theorem withSlot_zero (info : DataCallInfo) (s : CString) :
    withSlot 0 info s = { info with gtwyAddr := withAddress info.gtwyAddr (.to s) } := rfl

/-- The elements before the next one stay, and from there on the addresses are
stored, as long as there is room. -/
structure Stored (room : Nat) (ts : List AddressText) (before after : DataCallInfo) : Prop where
  length : after.pdpAddrsLen = UInt32.ofNat (urilDataMaxAddrCount - room + min ts.length room)
  kept : ∀ i < urilDataMaxAddrCount - room, after.pdpAddrs[i]? = before.pdpAddrs[i]?
  stored : ∀ i < room, ∀ t ∈ ts[i]?,
    ∃ addr ∈ after.pdpAddrs[urilDataMaxAddrCount - room + i]?, Holds addr t

theorem withAddresses_stored {room : Nat} (hroom : room ≤ urilDataMaxAddrCount)
    {ts : List AddressText} {s : CString} (h : Lists s ts) (info : DataCallInfo)
    (hlength : info.pdpAddrsLen = UInt32.ofNat (urilDataMaxAddrCount - room)) :
    Stored room ts info (withAddresses room info s) := by
  induction room generalizing ts s info with
  | zero =>
      rw [withAddresses, withSlot_zero]
      exact ⟨by rw [Nat.min_zero, Nat.add_zero]; exact hlength, fun _ _ => rfl, nofun⟩
  | succ room ih =>
      obtain ⟨hslot, hvalue⟩ := withSlot_succ (Nat.lt_of_succ_le hroom) info s
      cases ts with
      | nil =>
          have htoken := addressToken_of_nil h
          have hnext : nextAddress s = none := if_pos htoken
          have hsame : withAddress info.pdpAddrs[urilDataMaxAddrCount - (room + 1)] (.to s) =
              info.pdpAddrs[urilDataMaxAddrCount - (room + 1)] := withAddress_of_nil htoken _
          rw [withAddresses, hnext, hvalue, hsame]
          refine ⟨?_, ?_, nofun⟩
          · simpa using hlength
          · intro i hi
            rw [Vector.set_getElem_self]
      | cons t ts =>
          obtain ⟨-, -, next, hnext, hlists⟩ := parsed_of_cons h
          rw [withAddresses, hnext, hvalue]
          have hcount : urilDataMaxAddrCount - (room + 1) + 1 = urilDataMaxAddrCount - room := by
            omega
          have hrest := ih (Nat.le_of_succ_le hroom) hlists
            { info with
              pdpAddrs := info.pdpAddrs.set (urilDataMaxAddrCount - (room + 1))
                (withAddress info.pdpAddrs[urilDataMaxAddrCount - (room + 1)] (.to s))
              pdpAddrsLen := UInt32.ofNat (urilDataMaxAddrCount - (room + 1) + 1) }
            (congrArg UInt32.ofNat hcount)
          refine ⟨?_, ?_, ?_⟩
          · rw [hrest.length, List.length_cons]
            congr 1
            omega
          · intro i hi
            rw [hrest.kept i (by omega)]
            exact Vector.getElem?_set_ne hslot (by omega)
          · intro i hi t' ht'
            cases i with
            | zero =>
                rw [hrest.kept _ (by omega)]
                obtain rfl : t = t' := Option.some.inj ht'
                refine ⟨_, Vector.getElem?_set_self hslot, withAddress_holds h _⟩
            | succ i =>
                rw [show urilDataMaxAddrCount - (room + 1) + (i + 1) =
                  urilDataMaxAddrCount - room + i by omega]
                exact hrest.stored i (Nat.lt_of_succ_lt_succ hi) t' ht'

theorem token_short_of_lists {s : CString} {ts : List AddressText} (h : Lists s ts) :
    (addressToken s).length < urilDataMaxAddrLen := by
  cases ts with
  | nil =>
      rw [addressToken_of_nil h]
      decide
  | cons t ts =>
      rw [(parsed_of_cons h).1]
      exact t.addr_short

theorem lists_of_next {s next : CString} {ts : List AddressText} (h : Lists s ts)
    (hnext : nextAddress s = some next) : Lists next ts.tail := by
  cases ts with
  | nil => exact nomatch (if_pos (addressToken_of_nil h)).symm.trans hnext
  | cons t ts =>
      obtain ⟨-, -, next', hnext', hlists⟩ := parsed_of_cons h
      obtain rfl : next' = next := Option.some.inj (hnext'.symm.trans hnext)
      exact hlists

theorem tokensFit_of_lists {s : CString} {ts : List AddressText} (h : Lists s ts) (room : Nat) :
    TokensFit room s := by
  induction room generalizing s ts with
  | zero => exact token_short_of_lists h
  | succ room ih => exact ⟨token_short_of_lists h, fun next hnext => ih (lists_of_next h hnext)⟩

theorem withAddress_stored {s : CString} {ts : List AddressText} (h : Lists s ts)
    (addr : DataAddr) :
    ∀ t ∈ ts[0]?, Holds (withAddress addr (.to s)) t := by
  intro t ht
  cases ts with
  | nil => cases ht
  | cons t' ts =>
      obtain rfl : t' = t := Option.some.inj ht
      exact withAddress_holds h addr

theorem withNext_stored {s : CString} {ts : List AddressText} (h : Lists s ts) (addr : DataAddr) :
    ∀ t ∈ ts[1]?, Holds (withNext addr (nextAddress s)) t := by
  intro t ht
  cases ts with
  | nil => cases ht
  | cons t' ts =>
      obtain ⟨-, -, next, hnext, hlists⟩ := parsed_of_cons h
      rw [hnext]
      exact withAddress_stored hlists addr t ht

/-- A call that can be borne may list any addresses. -/
theorem lists_accepted {initial : DataCallInfo} (irilCall : Store initial)
    {call : RilDataCallResponse} (hcall : CallAcceptable call) {s : CString}
    {ts : List AddressText} (h : Lists s ts) :
    (∃ r, rilDataCallResponseToIRilDataCallInfo irilCall { call with addresses := .to s } = .ok r ∧
        r.value.pdpAddrsLen.toNat = min ts.length urilDataMaxAddrCount ∧
        ∀ i < urilDataMaxAddrCount, ∀ t ∈ ts[i]?,
          ∃ addr ∈ r.value.pdpAddrs[i]?, Holds addr t) ∧
      (∃ r, rilDataCallResponseToIRilDataCallInfo irilCall { call with dnses := .to s } = .ok r ∧
        (∀ t ∈ ts[0]?, Holds r.value.dnspAddr t) ∧ ∀ t ∈ ts[1]?, Holds r.value.dnssAddr t) ∧
      (∃ r, rilDataCallResponseToIRilDataCallInfo irilCall { call with gateways := .to s } =
          .ok r ∧ ∀ t ∈ ts[0]?, Holds r.value.gtwyAddr t) ∧
      ∃ r, rilDataCallResponseToIRilDataCallInfo irilCall { call with pcscf := .to s } = .ok r ∧
        ∀ t ∈ ts[0]?, Holds r.value.pcscfAddr t := by
  have hfits : AddressFits (.to s) := addressFits_to.mpr (token_short_of_lists h)
  refine ⟨?_, ?_, ?_, ?_⟩
  · have haddresses : CallAcceptable { call with addresses := .to s } :=
      { hcall with
        addresses := nofun
        addressesFit := fun _ heq => CharPtr.to.inj heq ▸ tokensFit_of_lists h _ }
    obtain ⟨r, hr, state, type, -, -, hresult⟩ := converted_of_acceptable irilCall haddresses
    have hstored := withAddresses_stored (Nat.le_refl urilDataMaxAddrCount) h
      (withHeader irilCall.value { call with addresses := .to s } state type) rfl
    refine ⟨r, hr, ?_⟩
    rw [hresult]
    constructor
    · refine (congrArg UInt32.toNat hstored.length).trans ?_
      rw [Nat.sub_self, Nat.zero_add, UInt32.toNat_ofNat', Nat.mod_eq_of_lt]
      exact Nat.lt_of_le_of_lt (Nat.min_le_right ..) (by decide)
    · intro i hi t ht
      obtain ⟨addr, haddr, hholds⟩ := hstored.stored i hi t ht
      rw [Nat.sub_self, Nat.zero_add] at haddr
      exact ⟨addr, haddr, hholds⟩
  · have hdnses : CallAcceptable { call with dnses := .to s } :=
      { hcall with
        dnses := hfits
        secondDns := fun next hnext => token_short_of_lists (lists_of_next h hnext) }
    obtain ⟨r, hr, state, type, -, -, hresult⟩ := converted_of_acceptable irilCall hdnses
    refine ⟨r, hr, ?_⟩
    rw [hresult]
    exact ⟨withAddress_stored h _, withNext_stored h _⟩
  · have hgateways : CallAcceptable { call with gateways := .to s } :=
      { hcall with gateways := hfits }
    obtain ⟨r, hr, state, type, -, -, hresult⟩ := converted_of_acceptable irilCall hgateways
    refine ⟨r, hr, ?_⟩
    rw [hresult]
    exact withAddress_stored h _
  · have hpcscf : CallAcceptable { call with pcscf := .to s } := { hcall with pcscf := hfits }
    obtain ⟨r, hr, state, type, -, -, hresult⟩ := converted_of_acceptable irilCall hpcscf
    refine ⟨r, hr, ?_⟩
    rw [hresult]
    exact withAddress_stored h _

def letterText (c : UInt8) (h : c ≠ 0x20 ∧ c ≠ 0x2f ∧ c ≠ 0) : AddressText where
  addr := [c]
  digits := none
  addr_ne := nofun
  addr_short := show 1 < urilDataMaxAddrLen by decide
  addr_plain := fun _ hc => List.mem_singleton.mp hc ▸ h
  digits_number := nofun

/-- `::/64` -/
def anyPrefix : AddressText where
  addr := ascii [':', ':']
  digits := some (ascii ['6', '4'])
  addr_ne := nofun
  addr_short := by decide
  addr_plain c hc := by
    obtain rfl : c = 0x3a := by simpa [ascii] using hc
    decide
  digits_number := by
    rintro d ⟨⟩
    exact ⟨nofun, List.all_eq_true.mp rfl, by decide⟩

def twoTexts : List AddressText := [letterText 0x61 (by decide), anyPrefix]

theorem two_lists_accepted :
    (∃ r, rilDataCallResponseToIRilDataCallInfo (Store.untouched blankInfo)
        { bareCall with addresses := .to (listText twoTexts) } = .ok r ∧
      r.value.pdpAddrsLen.toNat = 2 ∧
        ∃ addr ∈ r.value.pdpAddrs[1]?, text addr.addr = ascii [':', ':'] ∧ addr.prefixLen = 64) ∧
    ∃ r, rilDataCallResponseToIRilDataCallInfo (Store.untouched blankInfo)
        { bareCall with dnses := .to (listText twoTexts) } = .ok r ∧
      text r.value.dnspAddr.addr = [0x61] ∧ r.value.dnspAddr.prefixLen = 32 := by
  obtain ⟨⟨r, hr, hlength, hstored⟩, ⟨r', hr', hfirst, -⟩, -, -⟩ :=
    lists_accepted (Store.untouched blankInfo) bareCall_acceptable (lists_listText twoTexts)
  exact ⟨⟨r, hr, hlength, hstored 1 (by decide) anyPrefix rfl⟩, r', hr', hfirst _ rfl⟩

/-- There are no more addresses in a list than the array has elements. -/
def holdsAtMost : Nat → CString → Bool
  | 0, s => (nextAddress s).isNone
  | room + 1, s =>
      match nextAddress s with
      | some next => holdsAtMost room next
      | none => true

theorem nextAddress_eq_none {s : CString} : nextAddress s = none ↔ addressToken s = [] := by
  refine ⟨fun h => ?_, fun h => if_pos h⟩
  by_contra hne
  rw [nextAddress, if_neg hne] at h
  grind

theorem holdsAtMost_of_lists {s : CString} {ts : List AddressText} (h : Lists s ts) {room : Nat} :
    holdsAtMost room s = true ↔ ts.length ≤ room := by
  induction room generalizing s ts with
  | zero =>
      rw [holdsAtMost, Option.isNone_iff_eq_none, Nat.le_zero, List.length_eq_zero_iff]
      cases ts with
      | nil => exact iff_of_true (if_pos (addressToken_of_nil h)) rfl
      | cons t ts =>
          obtain ⟨-, -, next, hnext, -⟩ := parsed_of_cons h
          exact iff_of_false (fun hnone => nomatch hnext.symm.trans hnone) (List.cons_ne_nil t ts)
  | succ room ih =>
      rw [holdsAtMost]
      cases ts with
      | nil =>
          rw [nextAddress_eq_none.mpr (addressToken_of_nil h)]
          exact iff_of_true rfl (Nat.zero_le _)
      | cons t ts =>
          obtain ⟨-, -, next, hnext, hlists⟩ := parsed_of_cons h
          rw [hnext, List.length_cons, Nat.succ_le_succ_iff]
          exact ih hlists

theorem withAddresses_gateway {room : Nat} (hroom : room ≤ urilDataMaxAddrCount)
    {s : CString} {ts : List AddressText} (h : Lists s ts) (info : DataCallInfo) :
    ∀ t ∈ ts[room]?, Holds (withAddresses room info s).gtwyAddr t := by
  induction room generalizing s ts info with
  | zero => exact withAddress_stored h info.gtwyAddr
  | succ room ih =>
      intro t ht
      cases ts with
      | nil => cases ht
      | cons t' ts =>
          obtain ⟨-, -, next, hnext, hlists⟩ := parsed_of_cons h
          rw [withAddresses, hnext]
          exact ih (Nat.le_of_succ_le hroom) hlists _ t ht

theorem addressWrites_fit {s : CString} (h : (addressToken s).length < urilDataMaxAddrLen) :
    ∀ x ∈ addressWrites (.to s), x.stop ≤ sizeof DataAddr := by
  intro x hx
  by_cases htoken : addressToken s = []
  · rw [addressWrites, if_pos htoken] at hx
    cases hx
  · rw [addressWrites, if_neg htoken, List.mem_cons, List.mem_singleton] at hx
    rcases hx with rfl | rfl
    · have hsize : sizeof DataAddr = urilDataMaxAddrLen + 4 := by decide
      change 0 + ((addressToken s).length + 1) ≤ sizeof DataAddr
      omega
    · decide

/-- An element of the array lies between its length and the next member. -/
theorem nextSlot_offset {room : Nat} (hroom : room < urilDataMaxAddrCount) :
    DataCallInfo.pdpAddrsLenField.offset ≤ (nextSlot (room + 1)).offset ∧
      (nextSlot (room + 1)).offset + sizeof DataAddr ≤ DataCallInfo.gtwyAddrField.offset := by
  have hoffset : (nextSlot (room + 1)).offset =
      DataCallInfo.pdpAddrsField.offset +
        (urilDataMaxAddrCount - (room + 1)) * sizeof DataAddr :=
    DataCallInfo.pdpAddrsSlot_offset (Nat.sub_le ..)
  have hsize : sizeof DataAddr = 260 := by decide
  have hlength : DataCallInfo.pdpAddrsLenField.offset = 28 := by decide
  have haddrs : DataCallInfo.pdpAddrsField.offset = 32 := by decide
  have hgtwy : DataCallInfo.gtwyAddrField.offset = 32 + 4 * 260 := by decide
  have hcount : urilDataMaxAddrCount = 4 := rfl
  rw [hoffset, hsize, hlength, haddrs, hgtwy]
  omega

/-- The bytes between the length of the array and the member behind it. -/
def InsideArray (x : Extent) : Prop :=
  DataCallInfo.pdpAddrsLenField.offset ≤ x.start ∧ x.stop ≤ DataCallInfo.gtwyAddrField.offset

theorem listWrites_inside {room : Nat} (hroom : room ≤ urilDataMaxAddrCount) {s : CString}
    (hfit : TokensFit room s) (h : holdsAtMost room s = true) :
    ∀ x ∈ listWrites room s, InsideArray x := by
  induction room generalizing s with
  | zero =>
      have htoken := nextAddress_eq_none.mp (Option.isNone_iff_eq_none.mp h)
      intro x hx
      rw [listWrites, addressWrites, if_pos htoken] at hx
      cases hx
  | succ room ih =>
      have hslot : ∀ x ∈ (addressWrites (.to s)).map (·.shift (nextSlot (room + 1)).offset),
          InsideArray x := by
        intro x hx
        obtain ⟨y, hy, rfl⟩ := List.mem_map.mp hx
        have hstop := addressWrites_fit hfit.1 y hy
        obtain ⟨hstart, hend⟩ := nextSlot_offset (Nat.lt_of_succ_le hroom)
        constructor
        · exact hstart.trans (Nat.le_add_right ..)
        · rw [Extent.stop_shift]
          exact (Nat.add_le_add_left hstop _).trans hend
      intro x hx
      rw [listWrites] at hx
      rw [holdsAtMost] at h
      rcases List.mem_append.mp hx with hx | hx
      · exact hslot x hx
      · cases hnext : nextAddress s with
        | none =>
            rw [hnext] at hx
            cases hx
        | some next =>
            rw [hnext] at hx h
            rcases List.mem_cons.mp hx with rfl | hx
            · exact ⟨Nat.le_refl _, by decide⟩
            · exact ih (Nat.le_of_succ_le hroom) (hfit.2 next hnext) h x hx

/-- One address too many is written behind the array. -/
theorem listWrites_outside {room : Nat} {s : CString} (h : holdsAtMost room s ≠ true) :
    ∃ x ∈ listWrites room s, DataCallInfo.gtwyAddrField.offset < x.stop := by
  induction room generalizing s with
  | zero =>
      have htoken : addressToken s ≠ [] := fun hnil =>
        h (Option.isNone_iff_eq_none.mpr (nextAddress_eq_none.mpr hnil))
      rw [listWrites, addressWrites, if_neg htoken]
      exact ⟨_, List.mem_cons_self, Nat.lt_add_of_pos_right (Nat.succ_pos _)⟩
  | succ room ih =>
      rw [holdsAtMost] at h
      cases hnext : nextAddress s with
      | none =>
          rw [hnext] at h
          exact absurd rfl h
      | some next =>
          rw [hnext] at h
          obtain ⟨x, hx, hstop⟩ := ih h
          rw [listWrites, hnext]
          exact ⟨x, List.mem_append_right _ (List.mem_cons_of_mem _ hx), hstop⟩

theorem withAddresses_frame {room : Nat} (hroom : room ≤ urilDataMaxAddrCount) {s : CString}
    (h : holdsAtMost room s = true) (info : DataCallInfo) :
    withAddresses room info s =
      { info with
        pdpAddrsLen := (withAddresses room info s).pdpAddrsLen
        pdpAddrs := (withAddresses room info s).pdpAddrs } := by
  induction room generalizing s info with
  | zero =>
      have htoken := nextAddress_eq_none.mp (Option.isNone_iff_eq_none.mp h)
      rw [withAddresses, withSlot_zero, withAddress_of_nil htoken]
  | succ room ih =>
      obtain ⟨hslot, hvalue⟩ := withSlot_succ (Nat.lt_of_succ_le hroom) info s
      rw [withAddresses, hvalue]
      rw [holdsAtMost] at h
      cases hnext : nextAddress s with
      | none => rfl
      | some next =>
          rw [hnext] at h
          exact ih (Nat.le_of_succ_le hroom) h _

theorem withAddresses_length {room : Nat} (hroom : room ≤ urilDataMaxAddrCount) (s : CString)
    (info : DataCallInfo) (h : info.pdpAddrsLen.toNat ≤ urilDataMaxAddrCount) :
    (withAddresses room info s).pdpAddrsLen.toNat ≤ urilDataMaxAddrCount := by
  induction room generalizing s info with
  | zero => exact h
  | succ room ih =>
      obtain ⟨hslot, hvalue⟩ := withSlot_succ (Nat.lt_of_succ_le hroom) info s
      rw [withAddresses, hvalue]
      cases nextAddress s with
      | none => exact h
      | some next =>
          refine ih (Nat.le_of_succ_le hroom) next _ ?_
          change (UInt32.ofNat (urilDataMaxAddrCount - (room + 1) + 1)).toNat ≤ _
          have hcount : urilDataMaxAddrCount = 4 := rfl
          rw [UInt32.toNat_ofNat', Nat.mod_eq_of_lt (by omega)]
          omega

/-- The addresses of a call are written to their array, and the other members
have what their own texts say. -/
structure AddressesContained (call : RilDataCallResponse) (result : DataCallInfo) : Prop where
  written : ∀ s, call.addresses = .to s →
    ∀ {initial : DataCallInfo} (irilCall parsed : Store initial),
      parseAddresses urilDataMaxAddrCount irilCall s = .ok parsed →
        ∃ written, parsed.extents = irilCall.extents ++ written ∧ ∀ x ∈ written, InsideArray x
  length : result.pdpAddrsLen.toNat ≤ urilDataMaxAddrCount
  gtwyAddr : result.gtwyAddr = withAddress blankAddr call.gateways
  dnspAddr : result.dnspAddr = withAddress blankAddr call.dnses
  dnssAddr : result.dnssAddr = withNext blankAddr (addressAfter call.dnses)
  pcscfAddr : result.pcscfAddr = withAddress blankAddr call.pcscf

theorem contained_of_holdsAtMost {call : RilDataCallResponse} {result : DataCallInfo}
    (hcall : CallAcceptable call) (hresult : Converted blankInfo call result)
    (h : ∀ s, call.addresses = .to s → holdsAtMost urilDataMaxAddrCount s = true) :
    AddressesContained call result := by
  obtain ⟨state, type, -, -, rfl⟩ := hresult
  have hlist : withList (withHeader blankInfo call state type) call.addresses =
      { withHeader blankInfo call state type with
        pdpAddrsLen :=
          (withList (withHeader blankInfo call state type) call.addresses).pdpAddrsLen
        pdpAddrs :=
          (withList (withHeader blankInfo call state type) call.addresses).pdpAddrs } := by
    rcases haddresses : call.addresses with _ | s | _
    · rfl
    · exact withAddresses_frame (Nat.le_refl _) (h s haddresses) _
    · rfl
  constructor
  · intro s hs initial irilCall parsed hparsed
    refine ⟨_, (parseAddresses_parsed _ _ _ parsed hparsed).2, ?_⟩
    exact listWrites_inside (Nat.le_refl _) (hcall.addressesFit s hs) (h s hs)
  · change (withList _ call.addresses).pdpAddrsLen.toNat ≤ _
    rcases call.addresses with _ | s | _
    · exact Nat.zero_le _
    · exact withAddresses_length (Nat.le_refl _) s _ (Nat.zero_le _)
    · exact Nat.zero_le _
  all_goals rw [hlist]; rfl

theorem holdsAtMost_of_contained {call : RilDataCallResponse} {result : DataCallInfo}
    (hcall : CallAcceptable call) (h : AddressesContained call result) :
    ∀ s, call.addresses = .to s → holdsAtMost urilDataMaxAddrCount s = true := by
  intro s hs
  by_contra hmore
  obtain ⟨parsed, hparsed⟩ := (parseAddresses_succeeds urilDataMaxAddrCount
    (Store.untouched blankInfo) s).mpr (hcall.addressesFit s hs)
  obtain ⟨written, hextents, hinside⟩ := h.written s hs _ parsed hparsed
  obtain rfl : listWrites urilDataMaxAddrCount s = written :=
    ((parseAddresses_parsed _ _ _ parsed hparsed).2.symm.trans hextents)
  obtain ⟨x, hx, hstop⟩ := listWrites_outside hmore
  exact Nat.not_lt.mpr (hinside x hx).2 hstop

/-- An address that the array has no room for is written to the gateway. -/
theorem addresses_contained {call : RilDataCallResponse} (hcall : CallAcceptable call) :
    ∃ r, rilDataCallResponseToIRilDataCallInfo (Store.untouched blankInfo) call = .ok r ∧
      (AddressesContained call r.value ↔
        ∀ s, call.addresses = .to s → holdsAtMost urilDataMaxAddrCount s = true) := by
  obtain ⟨r, hr, hresult⟩ := converted_of_acceptable (Store.untouched blankInfo) hcall
  exact ⟨r, hr, holdsAtMost_of_contained hcall, contained_of_holdsAtMost hcall hresult⟩

def fiveTexts : List AddressText :=
  [letterText 0x61 (by decide), letterText 0x62 (by decide), letterText 0x63 (by decide),
    letterText 0x64 (by decide), letterText 0x65 (by decide)]

/-- A call with five addresses, and a gateway that is empty. -/
def crowdedCall : RilDataCallResponse :=
  { bareCall with addresses := .to (listText fiveTexts), gateways := .to (listText []) }

theorem crowdedCall_acceptable : CallAcceptable crowdedCall :=
  { bareCall_acceptable with
    addresses := nofun
    addressesFit := fun _ heq =>
      CharPtr.to.inj heq ▸ tokensFit_of_lists (lists_listText fiveTexts) _
    gateways := addressFits_to.mpr (by decide) }

theorem addresses_contained_crowded :
    ∃ r, rilDataCallResponseToIRilDataCallInfo (Store.untouched blankInfo) crowdedCall = .ok r ∧
      (AddressesContained crowdedCall r.value ↔
        ∀ s, crowdedCall.addresses = .to s → holdsAtMost urilDataMaxAddrCount s = true) :=
  addresses_contained crowdedCall_acceptable

theorem fifth_address_leaks :
    ∃ r, rilDataCallResponseToIRilDataCallInfo (Store.untouched blankInfo) crowdedCall = .ok r ∧
      text r.value.gtwyAddr.addr = [0x65] ∧ ¬ AddressesContained crowdedCall r.value := by
  obtain ⟨r, hr, state, type, -, -, hresult⟩ :=
    converted_of_acceptable (Store.untouched blankInfo) crowdedCall_acceptable
  refine ⟨r, hr, ?_, fun h => ?_⟩
  · have hempty : ∀ addr, withAddress addr (.to (listText [])) = addr :=
      withAddress_of_nil (addressToken_of_nil (lists_listText []))
    have hleaks := (withAddresses_gateway (Nat.le_refl _) (lists_listText fiveTexts)
      (withHeader blankInfo crowdedCall state type) (letterText 0x65 (by decide)) rfl).1
    rw [← hempty (withAddresses _ _ _).gtwyAddr] at hleaks
    rw [hresult]
    exact hleaks
  · have hmost : holdsAtMost urilDataMaxAddrCount (listText fiveTexts) = true :=
      holdsAtMost_of_contained crowdedCall_acceptable h _ rfl
    have hlength := (holdsAtMost_of_lists (lists_listText fiveTexts)).mp hmost
    exact absurd hlength (show ¬ 5 ≤ urilDataMaxAddrCount by decide)

end UnifiedRil.AddressLists

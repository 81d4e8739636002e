import UnifiedRil.Library.Results
import UnifiedRil.RilConversion

namespace UnifiedRil.ConversionDomains

open UnifiedRil.Library.CStrings
open UnifiedRil.Library.Layout
open UnifiedRil.Library.Results
open UnifiedRil.Messages
open UnifiedRil.Ril
open UnifiedRil.RilConversion

theorem lookup_eq_some_of_mem {cases : List (UInt32 × UInt32)} {value : UInt32}
    (h : value ∈ cases.map (·.1)) : ∃ result, cases.lookup value = some result := by
  induction cases with
  | nil => cases h
  | cons entry rest ih =>
      rw [List.lookup_cons]
      split
      · exact ⟨_, rfl⟩
      · rename_i hne
        rw [List.map_cons, List.mem_cons] at h
        refine ih (h.resolve_left ?_)
        rintro rfl
        rw [beq_self_eq_true] at hne
        cases hne

theorem lookup_eq_none_of_not_mem {cases : List (UInt32 × UInt32)} {value : UInt32}
    (h : value ∉ cases.map (·.1)) : cases.lookup value = none := by
  apply List.lookup_eq_none_iff.mpr
  intro entry hentry
  rw [bne_iff_ne]
  rintro rfl
  exact h (List.mem_map_of_mem hentry)

theorem switchOrAssert_succeeds {cases : List (UInt32 × UInt32)} {value : UInt32} :
    Succeeds (switchOrAssert cases value) ↔ value ∈ cases.map (·.1) := by
  unfold switchOrAssert
  constructor
  · intro h
    by_contra hnot
    rw [lookup_eq_none_of_not_mem hnot] at h
    exact not_succeeds_error _ h
  · intro h
    obtain ⟨result, hresult⟩ := lookup_eq_some_of_mem h
    rw [hresult]
    exact succeeds_ok result

theorem switchOrAssert_fails {cases : List (UInt32 × UInt32)} {value : UInt32} :
    FailsOnlyWith Fault.assertion (switchOrAssert cases value) := by
  unfold switchOrAssert
  split
  · exact .ok _
  · exact .error

theorem mem_iff_le {values : List UInt32} {bound : UInt32}
    (h : values.map UInt32.toNat = List.range (bound.toNat + 1)) {value : UInt32} :
    value ∈ values ↔ value ≤ bound := by
  rw [UInt32.le_iff_toNat_le, ← Nat.lt_succ_iff, ← List.mem_range, ← h]
  constructor
  · exact List.mem_map_of_mem
  · intro hmem
    obtain ⟨other, hother, heq⟩ := List.mem_map.mp hmem
    rwa [← UInt32.toNat_inj.mp heq]

theorem urilNwPref_succeeds {value : UInt32} :
    Succeeds (urilNwPrefToRilNwPref value) ↔ value ≤ UrilNwPrefType.lteWcdma :=
  switchOrAssert_succeeds.trans (mem_iff_le (by decide))

theorem rilNwPref_succeeds {value : UInt32} :
    Succeeds (rilNwPrefToUrilNwPref value) ↔ value ≤ PrefNetType.lteWcdma :=
  switchOrAssert_succeeds.trans (mem_iff_le (by decide))

theorem rilRat_succeeds {value : UInt32} :
    Succeeds (rilRatToUrilRat value) ↔ value ≤ RadioTech.iwlan :=
  switchOrAssert_succeeds.trans (mem_iff_le (by decide))

theorem bearerTech_succeeds {value : UInt32} :
    Succeeds (urilDataBearerTechTypeToRilRadioTech value) ↔
      value ≤ UrilDataBearerTech.wlan3gpp :=
  switchOrAssert_succeeds.trans (mem_iff_le (by decide))

theorem authType_succeeds {value : UInt32} :
    Succeeds (urilAuthTypeToRilAuthType value) ↔ value ≤ UrilDataAuthType.papchap :=
  switchOrAssert_succeeds.trans (mem_iff_le (by decide))

theorem physLinkState_succeeds {value : UInt32} :
    Succeeds (physLinkStateOf value) ↔ value ≤ 2 :=
  switchOrAssert_succeeds.trans (mem_iff_le (by decide))

theorem pdpType_succeeds {value : UInt32} :
    Succeeds (urilPdpTypeToRilPdpType value) ↔ value ≤ UrilDataPdpType.ppp := by
  have hmem : value ∈ [UrilDataPdpType.none, UrilDataPdpType.ip, UrilDataPdpType.ipv6,
      UrilDataPdpType.ipv4v6, UrilDataPdpType.ppp] ↔ value ≤ UrilDataPdpType.ppp :=
    mem_iff_le (by decide)
  rw [← hmem]
  unfold urilPdpTypeToRilPdpType
  simp only [succeeds_ite, succeeds_ok, not_succeeds_error, List.mem_cons, List.not_mem_nil]
  grind

theorem pdpType_fails {value : UInt32} :
    FailsOnlyWith Fault.assertion (urilPdpTypeToRilPdpType value) := by
  unfold urilPdpTypeToRilPdpType
  iterate 5 refine .ite (.ok _) ?_
  exact .error

theorem rilStrToInt_succeeds {p : CharPtr} : Succeeds (rilStrToInt p) ↔ p ≠ .wild := by
  rcases p with _ | s | _
  · exact iff_of_true (succeeds_ok _) nofun
  · refine iff_of_true ?_ nofun
    simp only [rilStrToInt, succeeds_ite, succeeds_ok, implies_true, and_self]
  · exact iff_of_false (not_succeeds_error _) (absurd rfl)

theorem string_succeeds {p : CharPtr} : Succeeds p.string ↔ ∃ s, p = .to s := by
  rcases p with _ | s | _
  · exact iff_of_false (not_succeeds_error _) nofun
  · exact iff_of_true (succeeds_ok _) ⟨s, rfl⟩
  · exact iff_of_false (not_succeeds_error _) nofun

/-- The number that a text denotes. -/
def numberOf (p : CharPtr) : Option UInt32 :=
  match rilStrToInt p with
  | .ok n => n
  | .error _ => none

theorem numberOf_eq {p : CharPtr} {n : Option UInt32} (h : rilStrToInt p = .ok n) :
    numberOf p = n := by
  rw [numberOf, h]

theorem rilStrToIntOrMinusOne_succeeds {p : CharPtr} :
    Succeeds (rilStrToIntOrMinusOne p) ↔ p ≠ .wild := by
  rw [← rilStrToInt_succeeds]
  exact succeeds_bind_of fun _ => succeeds_pure _

theorem succeeds_parse_bind {α : Type} {p : CharPtr} {f : Option UInt32 → Except Fault α} :
    Succeeds (rilStrToInt p >>= f) ↔ p ≠ .wild ∧ Succeeds (f (numberOf p)) := by
  rw [← rilStrToInt_succeeds]
  refine succeeds_bind_and fun n hn => ?_
  rw [numberOf_eq hn]

/-- The texts of a registration are strings where they are read, and the state
and the technology are known. -/
def RegistrationKnown (regstate radiotech denyreason : CharPtr) : Prop :=
  regstate ≠ .wild ∧
    ∀ state, numberOf regstate = some state →
      radiotech ≠ .wild ∧
        ∀ tech, numberOf radiotech = some tech →
          state ∈ [0, 1, 2, 3, 4, 5, 10, 12, 13, 14] ∧
            (state ∈ [3, 13] → denyreason ≠ .wild) ∧ tech ≤ RadioTech.iwlan

theorem writeRegState_succeeds {initial : RegistrationInfo} (regInfo : Store initial)
    {regState : UInt32} {denyreason : CharPtr} (u : UInt32) :
    Succeeds (writeRegState regInfo regState denyreason u) ↔
      regState ∈ [0, 1, 2, 3, 4, 5, 10, 12, 13, 14] ∧
        (regState ∈ [3, 13] → denyreason ≠ .wild) := by
  unfold writeRegState
  simp only [succeeds_ite, succeeds_ok, succeeds_parse_bind, succeeds_pure, not_succeeds_error,
    and_true, List.mem_cons, List.not_mem_nil, or_false]
  grind

theorem rilNwRegToUrilNwReg_succeeds {initial : RegistrationInfo} (regInfo : Store initial)
    {regstate radiotech denyreason : CharPtr} (u : UInt32) :
    Succeeds (rilNwRegToUrilNwReg regInfo regstate radiotech denyreason u) ↔
      RegistrationKnown regstate radiotech denyreason := by
  unfold rilNwRegToUrilNwReg RegistrationKnown
  rw [succeeds_parse_bind]
  refine and_congr_right fun _ => ?_
  cases numberOf regstate with
  | none => exact iff_of_true (succeeds_pure _) nofun
  | some state =>
      rw [succeeds_parse_bind]
      simp only [Option.some.injEq, forall_eq']
      refine and_congr_right fun _ => ?_
      cases numberOf radiotech with
      | none => exact iff_of_true (succeeds_pure _) nofun
      | some tech =>
          simp only [Option.some.injEq, forall_eq']
          rw [← rilRat_succeeds, ← and_assoc, ← writeRegState_succeeds]
          refine succeeds_bind_and fun _ _ => ?_
          exact succeeds_bind_of fun _ => succeeds_pure _

/-- The texts of a cell are strings where they are read. -/
def CellReadable (radiotech first second third : CharPtr) : Prop :=
  radiotech ≠ .wild ∧
    (numberOf radiotech ≠ none → first ≠ .wild ∧ second ≠ .wild ∧ third ≠ .wild)

theorem succeeds_cell_texts {α : Type} {first second third : CharPtr}
    {f : UInt32 → UInt32 → UInt32 → Except Fault α} (h : ∀ a b c, Succeeds (f a b c)) :
    Succeeds (do
      let a ← rilStrToIntOrMinusOne first
      let b ← rilStrToIntOrMinusOne second
      let c ← rilStrToIntOrMinusOne third
      f a b c) ↔ first ≠ .wild ∧ second ≠ .wild ∧ third ≠ .wild := by
  simp only [← rilStrToIntOrMinusOne_succeeds]
  refine succeeds_bind_and fun a _ => succeeds_bind_and fun b _ => ?_
  exact succeeds_bind_of fun c => h a b c

theorem rilCellToUrilCellVoice_succeeds {initial : GetRegistrationStatusResp}
    (regStatus : Store initial) {radiotech lac cid psc : CharPtr} :
    Succeeds (rilCellToUrilCellVoice regStatus radiotech lac cid psc) ↔
      CellReadable radiotech lac cid psc := by
  unfold rilCellToUrilCellVoice CellReadable
  rw [succeeds_parse_bind]
  refine and_congr_right fun _ => ?_
  cases numberOf radiotech with
  | none => exact iff_of_true (succeeds_pure _) (absurd rfl)
  | some rat =>
      rw [← succeeds_cell_texts (f := _)]
      · exact ⟨fun h _ => h, fun h => h (Option.some_ne_none rat)⟩
      · intro a b c
        refine succeeds_ite.mpr ⟨fun _ => succeeds_pure _, fun _ => ?_⟩
        refine succeeds_ite.mpr ⟨fun _ => succeeds_pure _, fun _ => ?_⟩
        exact succeeds_ite.mpr ⟨fun _ => succeeds_pure _, fun _ => succeeds_pure _⟩

theorem rilCellToUrilCellData_succeeds {initial : GetRegistrationStatusResp}
    (regStatus : Store initial) {radiotech tac cid eci : CharPtr} :
    Succeeds (rilCellToUrilCellData regStatus radiotech tac cid eci) ↔
      CellReadable radiotech tac cid eci := by
  unfold rilCellToUrilCellData CellReadable
  rw [succeeds_parse_bind]
  refine and_congr_right fun _ => ?_
  cases numberOf radiotech with
  | none => exact iff_of_true (succeeds_pure _) (absurd rfl)
  | some rat =>
      rw [← succeeds_cell_texts (f := _)]
      · exact ⟨fun h _ => h, fun h => h (Option.some_ne_none rat)⟩
      · intro a b c
        exact succeeds_ite.mpr ⟨fun _ => succeeds_pure _, fun _ => succeeds_pure _⟩

theorem afterMcc_succeeds {numeric : CString} :
    Succeeds (afterMcc numeric) ↔ 3 ≤ numeric.chars.length := by
  unfold afterMcc
  rw [succeeds_ite]
  exact ⟨fun h => by_contra fun hn => not_succeeds_error _ (h.2 hn),
    fun h => ⟨fun _ => succeeds_ok _, fun hn => absurd h hn⟩⟩

/-- A text is a string, of at least three characters. -/
def NumericReadable (numeric : CharPtr) : Prop :=
  ∃ s, numeric = .to s ∧ 3 ≤ s.chars.length

theorem numericReadable_to {s : CString} : NumericReadable (.to s) ↔ 3 ≤ s.chars.length :=
  ⟨fun ⟨_, heq, h⟩ => CharPtr.to.inj heq ▸ h, fun h => ⟨s, rfl, h⟩⟩

theorem rilOperatorName_succeeds {initial : OperatorName} (name : Store initial)
    {long short numeric : CharPtr}
    (hpresent : long ≠ .null ∧ short ≠ .null ∧ numeric ≠ .null) :
    Succeeds (rilOperatorNameToUrilOperatorName name long short numeric) ↔
      long ≠ .wild ∧ short ≠ .wild ∧ NumericReadable numeric := by
  obtain ⟨hlong, hshort, hnumeric⟩ := hpresent
  unfold rilOperatorNameToUrilOperatorName
  rw [if_pos ⟨hlong, hshort, hnumeric⟩]
  have hstring : ∀ {p : CharPtr}, p ≠ .null → (Succeeds p.string ↔ p ≠ .wild) := by
    intro p hp
    rw [string_succeeds]
    rcases p with _ | s | _
    · exact absurd rfl hp
    · exact iff_of_true ⟨s, rfl⟩ nofun
    · exact iff_of_false nofun (absurd rfl)
  rw [← hstring hlong, ← hstring hshort]
  refine succeeds_bind_and fun _ _ => succeeds_bind_and fun _ _ => ?_
  rcases numeric with _ | s | _
  · exact absurd rfl hnumeric
  · rw [numericReadable_to, ← afterMcc_succeeds]
    exact succeeds_bind_of fun _ => succeeds_pure _
  · exact iff_of_false (fun h => by simp [CharPtr.string, succeeds_bind] at h) nofun

/-- The text from its first character that is no space. -/
def skipSpaces (s : CString) : CString := s.drop (s.chars.takeWhile (· = 0x20)).length

/-- The address at the start of a list, up to a space or a slash. -/
def addressToken (s : CString) : List UInt8 :=
  (skipSpaces s).chars.takeWhile fun c => c ≠ 0x20 ∧ c ≠ 0x2f

/-- What follows the first address of a list. -/
def addressTail (s : CString) : CString := (skipSpaces s).drop (addressToken s).length

/-- Where the next address of a list is looked for. -/
def nextAddress (s : CString) : Option CString :=
  if addressToken s = [] then none
  else if (addressTail s).chars.head? = none then some (addressTail s)
  else if (addressTail s).chars.head? = some 0x2f then
    some (strtoul ((addressTail s).drop 1)).endPtr
  else some ((addressTail s).drop 1)

theorem rilIpAddrToUrilDataAddr_to {initial : DataAddr} (irilAddr : Store initial) (s : CString) :
    if (addressToken s).length < urilDataMaxAddrLen then
      ∃ parsed, rilIpAddrToUrilDataAddr irilAddr (.to s) = .ok (parsed, nextAddress s)
    else rilIpAddrToUrilDataAddr irilAddr (.to s) = .error .assertion := by
  unfold rilIpAddrToUrilDataAddr nextAddress
  dsimp only
  simp only [← skipSpaces.eq_def, ← addressToken.eq_def, ← addressTail.eq_def]
  generalize (addressTail s).chars.head? = head
  split
  · rename_i hlt
    split
    · exact ⟨_, rfl⟩
    · split
      · exact ⟨_, rfl⟩
      · exact ⟨_, rfl⟩
      · rename_i c hc
        rw [if_neg (Option.some_ne_none c), if_neg fun h => hc (Option.some.inj h)]
        exact ⟨_, rfl⟩
  · rename_i hge
    split
    · rename_i hnil
      rw [hnil] at hge
      exact absurd (by decide) hge
    · rfl

/-- A single address is null, or a string with a short token. -/
def AddressFits (addr : CharPtr) : Prop :=
  addr ≠ .wild ∧ ∀ s, addr = .to s → (addressToken s).length < urilDataMaxAddrLen

/-- The address after the first one of a list. -/
def addressAfter : CharPtr → Option CString
  | .to s => nextAddress s
  | _ => none

theorem rilIpAddrToUrilDataAddr_succeeds {initial : DataAddr} (irilAddr : Store initial)
    {addr : CharPtr} :
    Succeeds (rilIpAddrToUrilDataAddr irilAddr addr) ↔ AddressFits addr := by
  rcases addr with _ | s | _
  · exact iff_of_true (succeeds_ok _) ⟨nofun, nofun⟩
  · have hto := rilIpAddrToUrilDataAddr_to irilAddr s
    split at hto
    · rename_i hlt
      obtain ⟨parsed, hparsed⟩ := hto
      rw [hparsed]
      exact iff_of_true (succeeds_ok _) ⟨nofun, fun _ h => CharPtr.to.inj h ▸ hlt⟩
    · rename_i hge
      rw [hto]
      exact iff_of_false (not_succeeds_error _) fun h => hge (h.2 s rfl)
  · exact iff_of_false (not_succeeds_error _) fun h => h.1 rfl

theorem rilIpAddrToUrilDataAddr_next {initial : DataAddr} {irilAddr : Store initial}
    {addr : CharPtr} {r : Store initial × Option CString}
    (h : rilIpAddrToUrilDataAddr irilAddr addr = .ok r) : r.2 = addressAfter addr := by
  rcases addr with _ | s | _
  · rw [← Except.ok.inj h]
    rfl
  · have hto := rilIpAddrToUrilDataAddr_to irilAddr s
    split at hto
    · obtain ⟨parsed, hparsed⟩ := hto
      rw [← Except.ok.inj (hparsed.symm.trans h)]
      rfl
    · exact nomatch hto.symm.trans h
  · exact nomatch h

/-- The first tokens of a list are short, one more of them than there is room
for. -/
def TokensFit : Nat → CString → Prop
  | 0, s => (addressToken s).length < urilDataMaxAddrLen
  | room + 1, s =>
      (addressToken s).length < urilDataMaxAddrLen ∧
        ∀ next, nextAddress s = some next → TokensFit room next

theorem parseAddresses_eq {initial : DataCallInfo} (room : Nat) (irilCall : Store initial)
    (s : CString) :
    parseAddresses room irilCall s =
      (rilIpAddrToUrilDataAddr
          (irilCall.view (DataCallInfo.pdpAddrsSlot (urilDataMaxAddrCount - room))) (.to s) >>=
        fun r =>
          let irilCall := irilCall.put (DataCallInfo.pdpAddrsSlot (urilDataMaxAddrCount - room)) r.1
          match r.2, room with
          | some next, room + 1 =>
              parseAddresses room
                (irilCall.write DataCallInfo.pdpAddrsLenField
                  (UInt32.ofNat (urilDataMaxAddrCount - (room + 1) + 1))) next
          | _, _ => pure irilCall) := by
  delta parseAddresses
  rw [Nat.brecOn.eq]
  apply bind_congr_ok
  rintro ⟨parsed, _ | next⟩ -
  · cases room with
    | zero => rfl
    | succ room => rfl
  · cases room with
    | zero => rfl
    | succ room => rfl

theorem addressFits_to {s : CString} :
    AddressFits (.to s) ↔ (addressToken s).length < urilDataMaxAddrLen :=
  ⟨fun h => h.2 s rfl, fun h => ⟨nofun, fun _ heq => CharPtr.to.inj heq ▸ h⟩⟩

theorem parseAddresses_succeeds {initial : DataCallInfo} (room : Nat) (irilCall : Store initial)
    (s : CString) : Succeeds (parseAddresses room irilCall s) ↔ TokensFit room s := by
  induction room generalizing irilCall s with
  | zero =>
      rw [parseAddresses_eq, TokensFit, ← addressFits_to, ← rilIpAddrToUrilDataAddr_succeeds]
      apply succeeds_bind_of
      rintro ⟨parsed, _ | next⟩
      · exact succeeds_pure _
      · exact succeeds_pure _
  | succ room ih =>
      rw [parseAddresses_eq, TokensFit, ← addressFits_to, ← rilIpAddrToUrilDataAddr_succeeds]
      apply succeeds_bind_and
      rintro ⟨parsed, next⟩ hr
      obtain rfl : next = nextAddress s := rilIpAddrToUrilDataAddr_next hr
      dsimp only
      cases nextAddress s with
      | none => exact iff_of_true (succeeds_pure _) nofun
      | some next =>
          simp only [Option.some.injEq, forall_eq']
          exact ih _ next

/-- The vendor's description of a data call: a known state, texts that can be
read, and addresses that fit. -/
structure CallAcceptable (call : RilDataCallResponse) : Prop where
  active : call.active ≤ 2
  type : call.type ≠ .wild
  ifname : call.ifname ≠ .wild
  addresses : call.addresses ≠ .wild
  addressesFit : ∀ s, call.addresses = .to s → TokensFit urilDataMaxAddrCount s
  gateways : AddressFits call.gateways
  dnses : AddressFits call.dnses
  secondDns : ∀ next, addressAfter call.dnses = some next →
    (addressToken next).length < urilDataMaxAddrLen
  pcscf : AddressFits call.pcscf

theorem pdpTypeOf_succeeds {type : CharPtr} : Succeeds (pdpTypeOf type) ↔ type ≠ .wild := by
  rcases type with _ | s | _
  · exact iff_of_true (succeeds_ok _) nofun
  · refine iff_of_true ?_ nofun
    simp only [pdpTypeOf, succeeds_ite, succeeds_ok, implies_true, and_self]
  · exact iff_of_false (not_succeeds_error _) (absurd rfl)

theorem succeeds_text {α β : Type} {p : CharPtr} {a : α} {f : CString → Except Fault α}
    {k : α → Except Fault β} {fits : CString → Prop} {rest : Prop}
    (hf : ∀ s, Succeeds (f s) ↔ fits s) (hk : ∀ a, Succeeds (k a) ↔ rest) :
    Succeeds (match p with
      | .null => pure a >>= k
      | text => text.string >>= fun s => f s >>= k) ↔
    p ≠ .wild ∧ (∀ s, p = .to s → fits s) ∧ rest := by
  rcases p with _ | s | _
  · exact (hk a).trans ⟨fun h => ⟨nofun, nofun, h⟩, fun h => h.2.2⟩
  · refine (succeeds_bind_and fun a _ => hk a).trans ((and_congr_left' (hf s)).trans ?_)
    constructor
    · rintro ⟨hs, hrest⟩
      exact ⟨nofun, fun _ heq => CharPtr.to.inj heq ▸ hs, hrest⟩
    · rintro ⟨-, hs, hrest⟩
      exact ⟨hs s rfl, hrest⟩
  · exact iff_of_false (not_succeeds_error _) fun h => h.1 rfl

theorem callResponse_succeeds {initial : DataCallInfo} (irilCall : Store initial)
    {call : RilDataCallResponse} :
    Succeeds (rilDataCallResponseToIRilDataCallInfo irilCall call) ↔ CallAcceptable call := by
  have hparts : CallAcceptable call ↔
      call.active ≤ 2 ∧ call.type ≠ .wild ∧ call.ifname ≠ .wild ∧
        (∀ s, call.ifname = .to s → True) ∧ call.addresses ≠ .wild ∧
        (∀ s, call.addresses = .to s → TokensFit urilDataMaxAddrCount s) ∧
        AddressFits call.gateways ∧ AddressFits call.dnses ∧
        (∀ next, addressAfter call.dnses = some next →
          (addressToken next).length < urilDataMaxAddrLen) ∧ AddressFits call.pcscf := by
    constructor
    · intro h
      exact ⟨h.active, h.type, h.ifname, fun _ _ => trivial, h.addresses, h.addressesFit,
        h.gateways, h.dnses, h.secondDns, h.pcscf⟩
    · rintro ⟨hactive, htype, hifname, -, haddresses, hfit, hgateways, hdnses, hsecond, hpcscf⟩
      exact ⟨hactive, htype, hifname, haddresses, hfit, hgateways, hdnses, hsecond, hpcscf⟩
  rw [hparts, ← physLinkState_succeeds, ← pdpTypeOf_succeeds]
  unfold rilDataCallResponseToIRilDataCallInfo
  refine succeeds_bind_and fun _ _ => succeeds_bind_and fun _ _ => ?_
  refine succeeds_text (fun _ => iff_true_intro (succeeds_pure _)) fun _ => ?_
  refine succeeds_text (fun _ => parseAddresses_succeeds _ _ _) fun irilCall => ?_
  rw [← rilIpAddrToUrilDataAddr_succeeds (irilCall.view DataCallInfo.gtwyAddrField)]
  refine succeeds_bind_and fun gtwy _ => ?_
  rw [← rilIpAddrToUrilDataAddr_succeeds]
  apply succeeds_bind_and
  rintro ⟨dnsp, next⟩ hdnsp
  obtain rfl : next = addressAfter call.dnses := rilIpAddrToUrilDataAddr_next hdnsp
  have hlast : ∀ irilCall : Store initial,
      Succeeds (do
        let r ← rilIpAddrToUrilDataAddr (irilCall.view DataCallInfo.pcscfAddrField) call.pcscf
        return (irilCall.put DataCallInfo.pcscfAddrField r.1).write DataCallInfo.mtuField
          call.mtu.toUInt16) ↔ AddressFits call.pcscf := by
    intro irilCall
    rw [← rilIpAddrToUrilDataAddr_succeeds]
    exact succeeds_bind_of fun _ => succeeds_pure _
  cases addressAfter call.dnses with
  | none => exact (hlast _).trans ⟨fun h => ⟨nofun, h⟩, fun h => h.2⟩
  | some next =>
      simp only [Option.some.injEq, forall_eq']
      rw [← addressFits_to, ← rilIpAddrToUrilDataAddr_succeeds]
      exact succeeds_bind_and fun _ _ => hlast _

end UnifiedRil.ConversionDomains

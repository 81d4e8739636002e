import UnifiedRil.ConversionDomains

namespace UnifiedRil.DataCallConversion

open UnifiedRil.Library.Bytes
open UnifiedRil.Library.CStrings
open UnifiedRil.Library.Layout
open UnifiedRil.Library.Results
open UnifiedRil.Messages
open UnifiedRil.Ril
open UnifiedRil.RilConversion
open UnifiedRil.ConversionDomains

def prefixLenOf (s : CString) : UInt32 :=
  if (addressTail s).chars.head? = some 0x2f then
    (strtoul ((addressTail s).drop 1)).value.toUInt32
  else if 0x3a ∈ addressToken s then 128 else 32

/-- An address that is parsed. -/
def withAddress (addr : DataAddr) : CharPtr → DataAddr
  | .to s =>
      if addressToken s = [] then addr
      else { addr := overwrite addr.addr (addressToken s ++ [0]), prefixLen := prefixLenOf s }
  | _ => { addr := overwrite addr.addr [0], prefixLen := 0 }

theorem withAddress_of_nil {s : CString} (h : addressToken s = []) (addr : DataAddr) :
    withAddress addr (.to s) = addr := if_pos h

/-- The bytes of an address that are written. -/
def addressWrites : CharPtr → List Extent
  | .to s =>
      if addressToken s = [] then []
      else
        [⟨DataAddr.addrField.offset, (addressToken s).length + 1⟩,
          ⟨DataAddr.prefixLenField.offset, 4⟩]
  | _ => [⟨DataAddr.addrField.offset, 1⟩, ⟨DataAddr.prefixLenField.offset, 4⟩]

/-- What is left of the parse of an address. -/
structure AddressParsed {initial : DataAddr} (irilAddr : Store initial) (addr : CharPtr)
    (r : Store initial × Option CString) : Prop where
  value : r.1.value = withAddress irilAddr.value addr
  next : r.2 = addressAfter addr
  extents : r.1.extents = irilAddr.extents ++ addressWrites addr

theorem extents_address {initial : DataAddr} (irilAddr : Store initial) {chars : List UInt8}
    (h : chars.length ≤ urilDataMaxAddrLen) (prefixLen : UInt32) :
    ((irilAddr.writeChars DataAddr.addrField chars h).write DataAddr.prefixLenField
        prefixLen).extents =
      irilAddr.extents ++
        [⟨DataAddr.addrField.offset, chars.length⟩, ⟨DataAddr.prefixLenField.offset, 4⟩] :=
  List.append_assoc ..

theorem addressToken_parsed {initial : DataAddr} (irilAddr : Store initial) {s : CString}
    (hne : addressToken s ≠ []) (hfits : (addressToken s ++ [0]).length ≤ urilDataMaxAddrLen) :
    AddressParsed irilAddr (.to s)
      ((irilAddr.writeChars DataAddr.addrField (addressToken s ++ [0]) hfits).write
        DataAddr.prefixLenField (prefixLenOf s), nextAddress s) where
  value := (if_neg hne).symm
  next := rfl
  extents := by
    rw [addressWrites, if_neg hne, extents_address, List.length_append]
    rfl

theorem rilIpAddrToUrilDataAddr_parsed {initial : DataAddr} (irilAddr : Store initial)
    (addr : CharPtr) :
    Ensures (rilIpAddrToUrilDataAddr irilAddr addr) (AddressParsed irilAddr addr) := by
  rcases addr with _ | s | _
  · exact .ok ⟨rfl, rfl, extents_address ..⟩
  · unfold rilIpAddrToUrilDataAddr
    dsimp only
    simp only [← skipSpaces.eq_def, ← addressToken.eq_def, ← addressTail.eq_def]
    split
    · rename_i hnil
      refine .ok ⟨(withAddress_of_nil hnil _).symm, (if_pos hnil).symm, ?_⟩
      rw [addressWrites, if_pos hnil, List.append_nil]
    · rename_i hne
      split
      · rename_i hfits
        have hparsed := addressToken_parsed irilAddr hne
          (by simpa [Nat.succ_le_iff] using hfits)
        unfold prefixLenOf nextAddress at hparsed
        rw [if_neg hne] at hparsed
        generalize (addressTail s).chars.head? = head at hparsed ⊢
        split
        · exact .ok hparsed
        · exact .ok hparsed
        · rename_i c hc
          rw [if_neg fun h => hc (Option.some.inj h), if_neg (Option.some_ne_none c),
            if_neg fun h => hc (Option.some.inj h)] at hparsed
          exact .ok hparsed
      · exact .error _
  · exact .error _

/-- The element of `pdp_addrs` that is next, with `room` elements left. -/
def nextSlot (room : Nat) : Field DataCallInfo DataAddr :=
  DataCallInfo.pdpAddrsSlot (urilDataMaxAddrCount - room)

def withSlot (room : Nat) (info : DataCallInfo) (s : CString) : DataCallInfo :=
  (nextSlot room).set info (withAddress ((nextSlot room).get info) (.to s))

def withAddresses : Nat → DataCallInfo → CString → DataCallInfo
  | 0, info, s => withSlot 0 info s
  | room + 1, info, s =>
      match nextAddress s with
      | some next =>
          withAddresses room
            { withSlot (room + 1) info s with
              pdpAddrsLen := UInt32.ofNat (urilDataMaxAddrCount - (room + 1) + 1) } next
      | none => withSlot (room + 1) info s

/-- The bytes that are written for a list. -/
def listWrites : Nat → CString → List Extent
  | 0, s => (addressWrites (.to s)).map (·.shift (nextSlot 0).offset)
  | room + 1, s =>
      (addressWrites (.to s)).map (·.shift (nextSlot (room + 1)).offset) ++
        match nextAddress s with
        | some next => ⟨DataCallInfo.pdpAddrsLenField.offset, 4⟩ :: listWrites room next
        | none => []

theorem put_parsed {initial : DataCallInfo} {irilCall : Store initial}
    {field : Field DataCallInfo DataAddr} {addr : CharPtr}
    {r : Store (field.get irilCall.value) × Option CString}
    (h : AddressParsed (irilCall.view field) addr r) :
    (irilCall.put field r.1).value =
        field.set irilCall.value (withAddress (field.get irilCall.value) addr) ∧
      (irilCall.put field r.1).extents =
        irilCall.extents ++ (addressWrites addr).map (·.shift field.offset) := by
  rw [Store.extents_put, h.extents]
  exact ⟨congrArg _ h.value, rfl⟩

theorem parseAddresses_parsed {initial : DataCallInfo} (room : Nat) (irilCall : Store initial)
    (s : CString) :
    Ensures (parseAddresses room irilCall s) fun r =>
      r.value = withAddresses room irilCall.value s ∧
        r.extents = irilCall.extents ++ listWrites room s := by
  induction room generalizing irilCall s with
  | zero =>
      rw [parseAddresses_eq]
      refine .bind_of (rilIpAddrToUrilDataAddr_parsed _ _) ?_
      rintro ⟨parsed, _ | next⟩ hparsed
      · exact .pure (put_parsed hparsed)
      · exact .pure (put_parsed hparsed)
  | succ room ih =>
      rw [parseAddresses_eq]
      refine .bind_of (rilIpAddrToUrilDataAddr_parsed _ _) ?_
      rintro ⟨parsed, next⟩ hparsed
      obtain rfl : next = nextAddress s := hparsed.next
      obtain ⟨hvalue, hextents⟩ := put_parsed hparsed
      unfold withAddresses listWrites
      dsimp only at hvalue hextents ⊢
      cases nextAddress s with
      | none =>
          refine .pure ⟨hvalue, ?_⟩
          rw [List.append_nil]
          exact hextents
      | some next =>
          intro r hr
          obtain ⟨hvalue', hextents'⟩ := ih _ next r hr
          constructor
          · refine hvalue'.trans ?_
            exact congrArg (fun info : DataCallInfo => withAddresses room
              { info with pdpAddrsLen := UInt32.ofNat (urilDataMaxAddrCount - (room + 1) + 1) }
              next) hvalue
          · rw [hextents', Store.extents_write, hextents, List.append_assoc, List.append_assoc]
            rfl

/-- The name of an interface, as far as there is room for it. -/
def withName (name : Vector UInt8 13) : CharPtr → Vector UInt8 13
  | .to s => overwrite name ((s.chars.take 12 ++ [0]).take 13)
  | _ => overwrite name [0]

/-- The members of a data call before the addresses. -/
def withHeader (info : DataCallInfo) (call : RilDataCallResponse) (state type : UInt32) :
    DataCallInfo :=
  { info with
    failureCause := rilDataCallFailCauseToUrilDataFailCause call.status
    suggestedRetryTime := call.suggestedRetryTime.toUInt16
    cid := call.cid.toUInt8
    phyLinkState := state
    pdpType := type
    interfaceName := withName info.interfaceName call.ifname
    pdpAddrsLen := 0 }

def withList (info : DataCallInfo) : CharPtr → DataCallInfo
  | .to s => withAddresses urilDataMaxAddrCount info s
  | _ => info

/-- The second of two name servers. -/
def withNext (addr : DataAddr) : Option CString → DataAddr
  | some next => withAddress addr (.to next)
  | none => addr

/-- The members of a data call from the gateway on. -/
def withPeers (info : DataCallInfo) (call : RilDataCallResponse) : DataCallInfo :=
  { info with
    gtwyAddr := withAddress info.gtwyAddr call.gateways
    dnspAddr := withAddress info.dnspAddr call.dnses
    dnssAddr := withNext info.dnssAddr (addressAfter call.dnses)
    pcscfAddr := withAddress info.pcscfAddr call.pcscf
    mtu := call.mtu.toUInt16 }

/-- The data call as it is reported. -/
def Converted (info : DataCallInfo) (call : RilDataCallResponse) (result : DataCallInfo) : Prop :=
  ∃ state type, physLinkStateOf call.active = .ok state ∧ pdpTypeOf call.type = .ok type ∧
    result = withPeers (withList (withHeader info call state type) call.addresses) call

theorem ensures_text {α β : Type} {p : CharPtr} {a : α} {f : CString → Except Fault α}
    {k : α → Except Fault β} {post : β → Prop} (mid : α → Prop) (hnull : p = .null → mid a)
    (hto : ∀ s, p = .to s → Ensures (f s) mid) (hk : ∀ a, mid a → Ensures (k a) post) :
    Ensures (match p with
      | .null => pure a >>= k
      | text => text.string >>= fun s => f s >>= k) post := by
  rcases p with _ | s | _
  · exact hk a (hnull rfl)
  · change Ensures (f s >>= k) post
    exact .bind_of (hto s rfl) hk
  · exact .error _

theorem callResponse_converted {initial : DataCallInfo} (irilCall : Store initial)
    (call : RilDataCallResponse) :
    Ensures (rilDataCallResponseToIRilDataCallInfo irilCall call) fun r =>
      Converted irilCall.value call r.value := by
  unfold rilDataCallResponseToIRilDataCallInfo
  refine .bind_eq fun state hstate => .bind_eq fun type htype => ?_
  let header := withHeader irilCall.value call state type
  refine ensures_text (fun named : Store initial =>
    { named.value with pdpAddrsLen := 0 } = header) ?_ ?_ ?_
  · intro hnull
    simp only [header, withHeader, hnull]
    rfl
  · intro s hs
    refine .pure ?_
    simp only [header, withHeader, hs]
    rfl
  intro named hnamed
  refine ensures_text (fun listed : Store initial =>
    listed.value = withList header call.addresses) ?_ ?_ ?_
  · intro hnull
    rw [hnull]
    exact hnamed
  · intro s hs r hr
    rw [hs]
    exact (parseAddresses_parsed _ _ _ r hr).1.trans
      (congrArg (fun info => withAddresses urilDataMaxAddrCount info s) hnamed)
  intro listed hlisted
  refine .bind_of (rilIpAddrToUrilDataAddr_parsed _ _) ?_
  rintro ⟨gtwy, _⟩ hgtwy
  refine .bind_of (rilIpAddrToUrilDataAddr_parsed _ _) ?_
  rintro ⟨dnsp, next⟩ hdnsp
  obtain rfl : next = addressAfter call.dnses := hdnsp.next
  have hlast : ∀ irilCall : Store initial,
      Ensures (do
        let r ← rilIpAddrToUrilDataAddr (irilCall.view DataCallInfo.pcscfAddrField) call.pcscf
        return (irilCall.put DataCallInfo.pcscfAddrField r.1).write DataCallInfo.mtuField
          call.mtu.toUInt16) fun r =>
        r.value =
          { irilCall.value with
            pcscfAddr := withAddress irilCall.value.pcscfAddr call.pcscf
            mtu := call.mtu.toUInt16 } := by
    intro irilCall
    refine .bind_of (rilIpAddrToUrilDataAddr_parsed _ _) fun pcscf hpcscf => .pure ?_
    exact congrArg (fun info : DataCallInfo => { info with mtu := call.mtu.toUInt16 })
      (put_parsed hpcscf).1
  have hpair : ((listed.put DataCallInfo.gtwyAddrField gtwy).put DataCallInfo.dnspAddrField
      dnsp).value =
        { listed.value with
          gtwyAddr := withAddress listed.value.gtwyAddr call.gateways
          dnspAddr := withAddress listed.value.dnspAddr call.dnses } := by
    refine (put_parsed hdnsp).1.trans ?_
    rw [(put_parsed hgtwy).1]
    rfl
  dsimp only
  cases hnext : addressAfter call.dnses with
  | none =>
      intro r hr
      refine ⟨state, type, hstate, htype, (hlast _ r hr).trans ?_⟩
      rw [hpair, hlisted, withPeers, hnext]
      rfl
  | some next =>
      refine .bind_of (rilIpAddrToUrilDataAddr_parsed _ _) fun dnss hdnss => ?_
      intro r hr
      refine ⟨state, type, hstate, htype, (hlast _ r hr).trans ?_⟩
      rw [(put_parsed hdnss).1, hpair, hlisted, withPeers, hnext]
      rfl

theorem converted_of_acceptable {initial : DataCallInfo} (irilCall : Store initial)
    {call : RilDataCallResponse} (h : CallAcceptable call) :
    ∃ r, rilDataCallResponseToIRilDataCallInfo irilCall call = .ok r ∧
      Converted irilCall.value call r.value := by
  obtain ⟨r, hr⟩ := (callResponse_succeeds irilCall).mpr h
  exact ⟨r, hr, callResponse_converted irilCall call r hr⟩

theorem Converted.congr {info info' result : DataCallInfo} {call : RilDataCallResponse}
    (h : Converted info call result) (heq : info = info') : Converted info' call result := heq ▸ h

theorem Converted.unique {info result result' : DataCallInfo} {call : RilDataCallResponse}
    (h : Converted info call result) (h' : Converted info call result') : result = result' := by
  obtain ⟨state, type, hstate, htype, rfl⟩ := h
  obtain ⟨state', type', hstate', htype', rfl⟩ := h'
  obtain rfl := Except.ok.inj (hstate.symm.trans hstate')
  obtain rfl := Except.ok.inj (htype.symm.trans htype')
  rfl

def blankAddr : DataAddr := ⟨.replicate _ 0, 0⟩

def blankInfo : DataCallInfo where
  failureCause := 0
  suggestedRetryTime := 0
  cid := 0
  phyLinkState := 0
  pdpType := 0
  interfaceName := .replicate _ 0
  pdpAddrsLen := 0
  pdpAddrs := .replicate _ blankAddr
  gtwyAddr := blankAddr
  dnspAddr := blankAddr
  dnssAddr := blankAddr
  pcscfAddr := blankAddr
  mtu := 0

def bareCall : RilDataCallResponse :=
  ⟨0, 0, 0, 0, .null, .null, .null, .null, .null, .null, 0⟩

theorem bareCall_acceptable : CallAcceptable bareCall where
  active := by decide
  type := nofun
  ifname := nofun
  addresses := nofun
  addressesFit := nofun
  gateways := ⟨nofun, nofun⟩
  dnses := ⟨nofun, nofun⟩
  secondDns := nofun
  pcscf := ⟨nofun, nofun⟩

end UnifiedRil.DataCallConversion

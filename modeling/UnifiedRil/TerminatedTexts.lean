import UnifiedRil.AdapterCorrelation
import UnifiedRil.AddressLists
import UnifiedRil.DataCallList
import UnifiedRil.OperatorCodes
import UnifiedRil.PendingContexts

namespace UnifiedRil.TerminatedTexts

open UnifiedRil.Library.Bytes
open UnifiedRil.Library.CStrings
open UnifiedRil.Library.Layout
open UnifiedRil.Library.Results
open UnifiedRil.Protocol
open UnifiedRil.Messages
open UnifiedRil.Ril
open UnifiedRil.RilConversion
open UnifiedRil.RilHandlers
open UnifiedRil.RilAdapter
open UnifiedRil.RilResponses
open UnifiedRil.ConversionDomains
open UnifiedRil.AnswerFaults
open UnifiedRil.RegistrationStatus
open UnifiedRil.DataCallConversion
open UnifiedRil.AddressLists
open UnifiedRil.DataCallList
open UnifiedRil.NetworkScan hiding Reported
open UnifiedRil.OperatorCodes
open UnifiedRil.AdapterRuns
open UnifiedRil.AdapterInvariant
open UnifiedRil.AdapterCorrelation
open UnifiedRil.PendingContexts

/-- The array has a terminator within its bounds. -/
def Ends {n : Nat} (chars : Vector UInt8 n) : Prop := 0 ∈ chars.toList

theorem ends_replicate {n : Nat} (hn : 0 < n) : Ends (Vector.replicate n 0) := by
  rw [Ends, Vector.toList_replicate]
  exact List.mem_replicate.mpr ⟨Nat.ne_of_gt hn, rfl⟩

structure CallTextsEnd (info : DataCallInfo) : Prop where
  interfaceName : Ends info.interfaceName
  pdpAddrs : ∀ i : Nat, ∀ addr ∈ info.pdpAddrs[i]?, Ends addr.addr
  gtwyAddr : Ends info.gtwyAddr.addr
  dnspAddr : Ends info.dnspAddr.addr
  dnssAddr : Ends info.dnssAddr.addr
  pcscfAddr : Ends info.pcscfAddr.addr

theorem ends_blankAddr : Ends blankAddr.addr := ends_replicate (by decide)

theorem callTextsEnd_blank : CallTextsEnd blankInfo where
  interfaceName := ends_replicate (by decide)
  pdpAddrs i addr haddr := by
    obtain ⟨hlt, rfl⟩ := Vector.getElem?_eq_some_iff.mp haddr
    rw [show blankInfo.pdpAddrs[i] = blankAddr from Vector.getElem_replicate hlt]
    exact ends_blankAddr
  gtwyAddr := ends_blankAddr
  dnspAddr := ends_blankAddr
  dnssAddr := ends_blankAddr
  pcscfAddr := ends_blankAddr

theorem ends_withAddress {addr : DataAddr} (h : Ends addr.addr) {p : CharPtr}
    (hfits : ∀ s, p = .to s → (addressToken s).length < urilDataMaxAddrLen) :
    Ends (withAddress addr p).addr := by
  have hnull : Ends (overwrite addr.addr [0]) :=
    mem_overwrite _ (by decide) List.mem_cons_self
  rcases p with _ | s | _
  · exact hnull
  · unfold withAddress
    dsimp only
    split
    · exact h
    · apply mem_overwrite
      · rw [List.length_append, List.length_singleton]
        exact hfits s rfl
      · exact List.mem_append_right _ List.mem_cons_self
  · exact hnull

theorem ends_withName (name : Vector UInt8 13) (p : CharPtr) : Ends (withName name p) := by
  rcases p with _ | s | _
  · exact mem_overwrite _ (by decide) List.mem_cons_self
  · exact nul_mem_withText (by decide) name s.chars
  · exact mem_overwrite _ (by decide) List.mem_cons_self

theorem callTextsEnd_withSlot {room : Nat} (hroom : room ≤ urilDataMaxAddrCount)
    {info : DataCallInfo} (h : CallTextsEnd info) {s : CString}
    (hfits : (addressToken s).length < urilDataMaxAddrLen) :
    CallTextsEnd (withSlot room info s) := by
  have hshort : ∀ s', CharPtr.to s = .to s' → (addressToken s').length < urilDataMaxAddrLen :=
    fun _ heq => CharPtr.to.inj heq ▸ hfits
  cases room with
  | zero => exact { h with gtwyAddr := ends_withAddress h.gtwyAddr hshort }
  | succ room =>
      obtain ⟨hslot, hvalue⟩ := withSlot_succ (Nat.lt_of_succ_le hroom) info s
      rw [hvalue]
      refine { h with pdpAddrs := fun i addr haddr => ?_ }
      by_cases hi : urilDataMaxAddrCount - (room + 1) = i
      · subst hi
        rw [Vector.getElem?_set_self hslot] at haddr
        rw [← Option.some.inj haddr]
        exact ends_withAddress (h.pdpAddrs _ _ (Vector.getElem?_eq_getElem hslot)) hshort
      · rw [Vector.getElem?_set_ne hslot hi] at haddr
        exact h.pdpAddrs i addr haddr

theorem callTextsEnd_withAddresses {room : Nat} (hroom : room ≤ urilDataMaxAddrCount)
    {info : DataCallInfo} (h : CallTextsEnd info) {s : CString} (hfit : TokensFit room s) :
    CallTextsEnd (withAddresses room info s) := by
  induction room generalizing info s with
  | zero => exact callTextsEnd_withSlot hroom h hfit
  | succ room ih =>
      obtain ⟨hfirst, hrest⟩ := hfit
      have hslot := callTextsEnd_withSlot hroom h hfirst
      unfold withAddresses
      cases hnext : nextAddress s with
      | none => exact hslot
      | some next =>
          refine ih (Nat.le_of_succ_le hroom) ?_ (hrest next hnext)
          exact ⟨hslot.interfaceName, hslot.pdpAddrs, hslot.gtwyAddr, hslot.dnspAddr,
            hslot.dnssAddr, hslot.pcscfAddr⟩

theorem callTextsEnd_converted {info result : DataCallInfo} {call : RilDataCallResponse}
    (h : CallTextsEnd info) (hcall : CallAcceptable call)
    (hconverted : Converted info call result) :
    CallTextsEnd result := by
  obtain ⟨state, type, -, -, rfl⟩ := hconverted
  have hheader : CallTextsEnd (withHeader info call state type) :=
    { h with interfaceName := ends_withName info.interfaceName call.ifname }
  have hlist : CallTextsEnd (withList (withHeader info call state type) call.addresses) := by
    rcases haddresses : call.addresses with _ | s | _
    · exact hheader
    · exact callTextsEnd_withAddresses (Nat.le_refl _) hheader (hcall.addressesFit s haddresses)
    · exact hheader
  have hdnss : Ends (withNext (withList (withHeader info call state type) call.addresses).dnssAddr
      (addressAfter call.dnses)).addr := by
    cases hnext : addressAfter call.dnses with
    | none => exact hlist.dnssAddr
    | some next =>
        exact ends_withAddress hlist.dnssAddr fun _ heq =>
          CharPtr.to.inj heq ▸ hcall.secondDns next hnext
  exact
    { interfaceName := hlist.interfaceName
      pdpAddrs := hlist.pdpAddrs
      gtwyAddr := ends_withAddress hlist.gtwyAddr hcall.gateways.2
      dnspAddr := ends_withAddress hlist.dnspAddr hcall.dnses.2
      dnssAddr := hdnss
      pcscfAddr := ends_withAddress hlist.pcscfAddr hcall.pcscf.2 }

/-- An entry as the loop of a scan keeps it. The codes are never written up to
their last byte. -/
structure EntryTextsEnd (entry : ScanEntry) : Prop where
  longEons : Ends entry.operatorName.longEons
  shortEons : Ends entry.operatorName.shortEons
  codes : Clean entry

theorem entryTextsEnd_blank : EntryTextsEnd blankEntry :=
  ⟨ends_replicate (by decide), ends_replicate (by decide), rfl, rfl, rfl⟩

theorem operatorName_ends {initial : OperatorName} (name : Store initial)
    (long short numeric : CharPtr) (hlong : Ends name.value.longEons)
    (hshort : Ends name.value.shortEons) :
    Ensures (rilOperatorNameToUrilOperatorName name long short numeric) fun r =>
      Ends r.1.value.longEons ∧ Ends r.1.value.shortEons := by
  unfold rilOperatorNameToUrilOperatorName
  refine .ite (fun _ => ?_) fun _ => .pure ⟨hlong, hshort⟩
  refine .bind fun long => .bind fun short => .bind fun numeric => .bind fun mnc => .pure ?_
  dsimp only
  rw [(value_named _ _).2.2.2, (value_named _ _).2.2.1, (value_named _ _).2.1,
    (value_named _ _).1]
  exact ⟨nul_mem_withText (by decide) name.value.longEons long.chars,
    nul_mem_withText (by decide) name.value.shortEons short.chars⟩

theorem scanQuadruple_ends {initial : ScanEntry} (entry : Store initial) (data : RilData) (i : Nat)
    (h : EntryTextsEnd entry.value) :
    Ensures (scanQuadruple entry data i) fun r => EntryTextsEnd r.1.value := by
  have hnames : Ensures (scanQuadruple entry data i) fun r =>
      Ends r.1.value.operatorName.longEons ∧ Ends r.1.value.operatorName.shortEons := by
    unfold scanQuadruple
    refine .bind fun long => .bind fun short => .bind fun numeric => ?_
    refine .bind_of (operatorName_ends _ long short numeric h.longEons h.shortEons)
      fun name hname => ?_
    refine .ite (fun _ => .bind fun status => ?_) fun _ => .pure hname
    split
    · exact .pure hname
    · refine .bind fun status => ?_
      split
      · exact .pure hname
      · exact .pure hname
  intro r hr
  exact ⟨(hnames r hr).1, (hnames r hr).2, scanQuadruple_clean entry data i h.codes r hr⟩

theorem scanLoop_ends {initial : ScanResp} {data : RilData} (left i numFilled : Nat)
    (irilRsp : Store initial)
    (h : ∀ k : Nat, ∀ entry ∈ irilRsp.value.entries[k]?, EntryTextsEnd entry) :
    Ensures (scanLoop data left i numFilled irilRsp) fun r =>
      ∀ k : Nat, ∀ entry ∈ r.1.value.entries[k]?, EntryTextsEnd entry := by
  induction left generalizing i numFilled irilRsp with
  | zero => exact .ok h
  | succ left ih =>
      unfold scanLoop
      split
      · rename_i hroom
        have hslot : EntryTextsEnd irilRsp.value.entries[numFilled] :=
          h numFilled _ (Vector.getElem?_eq_getElem hroom)
        refine .bind fun _ => ?_
        refine .bind_of (scanQuadruple_ends _ data i hslot) fun r hr => ih _ _ _ ?_
        intro k entry hentry
        have hput : (irilRsp.put (ScanResp.entriesField.trans (.elem ⟨numFilled, hroom⟩))
            r.1).value.entries = irilRsp.value.entries.set numFilled r.1.value := rfl
        rw [hput] at hentry
        by_cases hk : numFilled = k
        · subst hk
          rw [Vector.getElem?_set_self hroom] at hentry
          exact Option.some.inj hentry ▸ hr
        · rw [Vector.getElem?_set_ne hroom hk] at hentry
          exact h k entry hentry
      · exact .pure h

theorem blankScan_ends (k : Nat) : ∀ entry ∈ blankScan.entries[k]?, EntryTextsEnd entry := by
  intro entry hentry
  obtain ⟨hlt, rfl⟩ := Vector.getElem?_eq_some_iff.mp hentry
  rw [show blankScan.entries[k] = blankEntry from Vector.getElem_replicate hlt]
  exact entryTextsEnd_blank

theorem availableNetworks_ends (uniqueId : UInt32) (simId : UInt8) (e : RilErrno) (data : RilData) :
    Ensures (handleRilAvailableNetworksResponseV1
        (responseOf (makeTokenForMessage .queryAvailableNetworks uniqueId simId)) e data)
      fun handled => ∀ k : Nat, ∀ entry ∈ (scanOf handled).entries[k]?, EntryTextsEnd entry := by
  have hblank := blankScan_ends
  rw [← structOf_scan uniqueId simId] at hblank
  unfold handleRilAvailableNetworksResponseV1
  dsimp only
  refine .ite (fun _ => ?_) fun _ => .pure ?_
  · refine .bind_of (scanLoop_ends _ 0 0 _ hblank) fun r hr => .pure ?_
    rw [scanOf, respond, decode_encode_self]
    exact hr
  · rw [scanOf, respond, decode_encode_self]
    exact hblank

theorem setupDataCall_ends (uniqueId : UInt32) (simId : UInt8) (e : RilErrno) (data : RilData) :
    Ensures (handleRilSetupDataCallV1
        (responseOf (makeTokenForMessage .setupDataCall uniqueId simId)) e data)
      fun handled => CallTextsEnd (callOf handled) := by
  intro handled hhandled
  by_cases he : e = .success
  · subst he
    obtain ⟨-, -, -, hcall⟩ := setupDataCall_succeeds.mp ⟨handled, hhandled⟩ rfl
    exact callTextsEnd_converted callTextsEnd_blank hcall (setupDataCall_reported handled hhandled)
  · unfold handleRilSetupDataCallV1 at hhandled
    dsimp only at hhandled
    rw [if_neg he] at hhandled
    obtain rfl := Except.ok.inj hhandled
    rw [callOf, respond, decode_encode_self]
    change CallTextsEnd (structOf SetupDataCallResp _).dataCall
    rw [structOf_call]
    exact callTextsEnd_blank

theorem getDataCallList_ends (uniqueId : UInt32) (simId : UInt8) (e : RilErrno) (data : RilData) :
    Ensures (handleRilGetDataCallListV1
        (responseOf (makeTokenForMessage .dataCallList uniqueId simId)) e data)
      fun handled => ∀ i : Nat, ∀ info ∈ (listOf handled).dataCalls[i]?, CallTextsEnd info := by
  intro handled hhandled i info hinfo
  by_cases he : e = .success
  · subst he
    obtain ⟨size, hsize, hcalls⟩ := getDataCallList_succeeds.mp ⟨handled, hhandled⟩ rfl
    obtain ⟨size', hsize', -, hlisted⟩ := getDataCallList_reported handled hhandled
    obtain rfl : size = size' := Option.some.inj (hsize.symm.trans hsize')
    by_cases hi : i < min (intBound (data.dataLen / size)) urilDataMaxCallsCount
    · obtain ⟨info', hinfo', hconverted⟩ := hlisted.done i hi
      obtain rfl : info' = info := Option.some.inj (hinfo'.symm.trans hinfo)
      obtain ⟨hcount, hroom⟩ := Nat.lt_min.mp hi
      exact callTextsEnd_converted callTextsEnd_blank (hcalls i hcount hroom).2 hconverted
    · obtain ⟨hlt, -⟩ := Vector.getElem?_eq_some_iff.mp hinfo
      have hblank := hlisted.blank i (Nat.not_lt.mp hi) hlt
      obtain rfl : blankInfo = info := Option.some.inj (hblank.symm.trans hinfo)
      exact callTextsEnd_blank
  · unfold handleRilGetDataCallListV1 at hhandled
    dsimp only at hhandled
    rw [if_neg he] at hhandled
    obtain rfl := Except.ok.inj hhandled
    rw [listOf, respond, decode_encode_self] at hinfo
    change info ∈ (structOf GetDataCallListResp _).dataCalls[i]? at hinfo
    rw [structOf_list] at hinfo
    obtain ⟨hlt, rfl⟩ := Vector.getElem?_eq_some_iff.mp hinfo
    rw [show blankList.dataCalls[i] = blankInfo from Vector.getElem_replicate hlt]
    exact callTextsEnd_blank

/-- The names in a scan. -/
structure NameEnds (name : OperatorName) : Prop where
  longEons : Ends name.longEons
  shortEons : Ends name.shortEons
  mcc : Ends name.mcc
  mnc : Ends name.mnc

/-- The codes in the cells of a registration status. -/
structure CellTextsEnd (status : GetRegistrationStatusResp) : Prop where
  gsm : Ends status.nwCellIdentityGsm.mcc ∧ Ends status.nwCellIdentityGsm.mnc
  wcdma : Ends status.nwCellIdentityWcdma.mcc ∧ Ends status.nwCellIdentityWcdma.mnc
  lte : Ends status.nwCellIdentityLte.mcc ∧ Ends status.nwCellIdentityLte.mnc
  tdscdma : Ends status.nwCellIdentityTdscdma.mcc ∧ Ends status.nwCellIdentityTdscdma.mnc

/-- The arrays of characters in the response to a request. -/
def TextsEnd (rilReqId : RilReqId) (handled : Handled) : Prop :=
  match rilReqId with
  | .voiceRegistrationState | .dataRegistrationState | .operator =>
      CellTextsEnd (structOf _ handled.rsp)
  | .queryAvailableNetworks =>
      ∀ k : Nat, ∀ entry ∈ (scanOf handled).entries[k]?, NameEnds entry.operatorName
  | .setupDataCall => CallTextsEnd (callOf handled)
  | .dataCallList => ∀ i : Nat, ∀ info ∈ (listOf handled).dataCalls[i]?, CallTextsEnd info
  -- the other responses have no texts
  | _ => True

theorem nameEnds_of_kept {entry : ScanEntry} (h : EntryTextsEnd entry) :
    NameEnds entry.operatorName :=
  ⟨h.longEons, h.shortEons, zero_mem_of_last h.codes.mcc, zero_mem_of_last h.codes.mnc⟩

theorem cellTextsEnd_of_last {status : GetRegistrationStatusResp} (h : CodesEnd status) :
    CellTextsEnd status :=
  ⟨h.gsm.imp zero_mem_of_last zero_mem_of_last, h.wcdma.imp zero_mem_of_last zero_mem_of_last,
    h.lte.imp zero_mem_of_last zero_mem_of_last, h.tdscdma.imp zero_mem_of_last zero_mem_of_last⟩

theorem registrationStatus_ends {ctx ctx' : RilRequestContext} {e : RilErrno} {data : RilData}
    {u : UInt32} {handled : Handled} (hctx : Serving ctx)
    (hrequest : ctx.rilReqId ∈ registrationRequests)
    (hrun : runHandler ctx e data u = .ok (ctx', some handled)) :
    CellTextsEnd (structOf _ handled.rsp) := by
  have hserving : Serving ctx' := .answered hctx hrun
  obtain ⟨rfl, hanswers⟩ := runHandler_some hrun
  refine cellTextsEnd_of_last (codesEnd_serving hserving ?_)
  rw [afterHandler, hanswers.followUp_eq]
  cases hnext : nextRequest ctx.rilReqId e with
  | none => exact hrequest
  | some next => exact List.mem_cons_of_mem _ (nextRequest_later hnext)

/-- Whatever a request was answered before, its response has terminated texts
only. -/
theorem texts_terminated {request rsp : UrilProtocolMsg} {answers : List (Answer × UInt32)}
    {ctx ctx' : RilRequestContext} {answer : Answer} {u : UInt32} {handled : Handled}
    (halone : serveAlone request answers = some (ctx, none))
    (hrun : runHandler ctx answer.error answer.data u = .ok (ctx', some handled))
    (hemitted : completedResponse ctx' (some handled) = some rsp) :
    rsp = handled.rsp ∧ TextsEnd ctx.rilReqId handled := by
  obtain ⟨hserving, hpending⟩ := serveAlone_pending halone
  obtain ⟨hhandler, rfl⟩ := runHandler_handled hrun
  constructor
  · rw [completedResponse_afterHandler] at hemitted
    exact (Option.some.inj (Option.ite_none_right_eq_some.mp hemitted).2).symm
  cases hid : ctx.rilReqId with
  | voiceRegistrationState => exact registrationStatus_ends hserving (by rw [hid]; decide) hrun
  | dataRegistrationState => exact registrationStatus_ends hserving (by rw [hid]; decide) hrun
  | operator => exact registrationStatus_ends hserving (by rw [hid]; decide) hrun
  | queryAvailableNetworks =>
      have hfresh := hpending.handler hid (by decide) hhandler
      intro k entry hentry
      exact nameEnds_of_kept (availableNetworks_ends _ _ _ _ handled (Option.some.inj hfresh)
        k entry hentry)
  | setupDataCall =>
      have hfresh := hpending.handler hid (by decide) hhandler
      exact setupDataCall_ends _ _ _ _ handled (Option.some.inj hfresh)
  | dataCallList =>
      have hfresh := hpending.handler hid (by decide) hhandler
      exact getDataCallList_ends _ _ _ _ handled (Option.some.inj hfresh)
  | _ => trivial

/-- A scan, answered with a network and a quadruple that is skipped. -/
theorem texts_terminated_scan :
    ∃ ctx ctx' handled rsp,
      serveAlone (plainRequest MsgId.nwScan 1) [] = some (ctx, none) ∧
        runHandler ctx .success (textArray skippedTexts) 0 = .ok (ctx', some handled) ∧
          completedResponse ctx' (some handled) = some rsp ∧
            rsp = handled.rsp ∧ TextsEnd ctx.rilReqId handled := by
  let ctx := makeTokenForMessage .queryAvailableNetworks 1 0
  have hdata : HoldsTexts (textArray skippedTexts) skippedTexts :=
    holdsTexts_textArray (by decide)
  obtain ⟨handled, hhandled⟩ := availableNetworks_ok 1 0
    (scanAcceptable_of_texts hdata skippedTexts_readable (.inl (by decide)))
  have halone : serveAlone (plainRequest MsgId.nwScan 1) [] = some (ctx, none) := rfl
  let answer : Answer := ⟨.success, textArray skippedTexts⟩
  have hrun : runHandler ctx answer.error answer.data 0 =
      .ok (afterHandler ctx handled, some handled) := runHandler_ok (congrArg some hhandled)
  have hemitted :
      completedResponse (afterHandler ctx handled) (some handled) = some handled.rsp := by
    have hanswers := availableNetworks_answers _ _ _ handled hhandled
    rw [completedResponse_afterHandler, hanswers.followUp_eq]
    rfl
  exact ⟨ctx, _, handled, handled.rsp, halone, hrun, hemitted,
    texts_terminated halone hrun hemitted⟩

end UnifiedRil.TerminatedTexts

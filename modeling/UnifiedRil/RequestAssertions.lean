import UnifiedRil.ConversionDomains
import UnifiedRil.MessageTracker
import UnifiedRil.RequestProcessors

namespace UnifiedRil.RequestAssertions

open UnifiedRil.Library.Results
open UnifiedRil.Protocol
open UnifiedRil.Messages
open UnifiedRil.MessageTracker
open UnifiedRil.Ril
open UnifiedRil.RilConversion
open UnifiedRil.RilAdapter
open UnifiedRil.RequestProcessors
open UnifiedRil.ConversionDomains

variable {κ : Type}

/-- What follows of an effect of a request. The thread of `getRadioModeV1` reads the ids
`uid` and `sid`, and the vendor gives it the state `radioState`. -/
def runEffect (uid : UInt32) (sid : UInt8) (radioState : RadioState) :
    Effect → Except Fault Unit
  | .submit _ _ => return ()
  | .radioThread _ _ => do
      let _ ← radioModeResponse uid sid radioState
      return ()

/-- `MessageTracker::onMessageReceived` with the service's processors behind it, and the
thread that a request starts: the map afterwards, and what the processors did. -/
def onMessageReceived (m : PendingRequests κ) (connection : κ) (msg : UrilProtocolMsg)
    (uid : UInt32) (sid : UInt8) (radioState : RadioState) :
    Except Fault (PendingRequests κ × Processed) := do
  let processed ← processRequest msg
  let (m', _) := trackAndDispatchRequest m connection msg (some fun _ => processed.ret)
  processed.effects.forM (runEffect uid sid radioState)
  return (m', processed)

/-- The enumeration values that are converted for a request are values of their
enumerations. -/
structure EnumsKnown (msg : UrilProtocolMsg) : Prop where
  nwPref : msg.msgId = MsgId.nwSetPref →
    requestOf UInt32 msg.payload ≤ UrilNwPrefType.lteWcdma
  radioMode : msg.msgId = MsgId.radioSetRadioMode →
    requestOf UInt32 msg.payload ∈ [UrilRadioMode.offline, UrilRadioMode.online]
  setupDataCall : msg.msgId = MsgId.dataSetupDataCall →
    (requestOf SetupDataCallReq msg.payload).rat ≤ UrilDataBearerTech.wlan3gpp ∧
      (requestOf SetupDataCallReq msg.payload).authType ≤ UrilDataAuthType.papchap ∧
      (requestOf SetupDataCallReq msg.payload).pdpType ≤ UrilDataPdpType.ppp
  initialAttach : msg.msgId = MsgId.dataSetInitialAttachParams →
    (requestOf SetInitialParamsReq msg.payload).authType ≤ UrilDataAuthType.papchap ∧
      (requestOf SetInitialParamsReq msg.payload).pdpType ≤ UrilDataPdpType.ppp

/-- The enumeration values of a request are known, and so is the state that the vendor
gives when a request asks for the radio mode. -/
structure ValuesKnown (msg : UrilProtocolMsg) (radioState : RadioState) : Prop where
  enums : EnumsKnown msg
  radioState : msg.msgId = MsgId.radioGetRadioMode →
    radioState ∈ [RadioState.off, RadioState.unavailable, RadioState.on]

section Methods

variable (payload : Payload) (uniqueId : UInt32) (simId : UInt8)

theorem sendToVendorRil_succeeds (request : RilReqId) (data : RequestData) (dataLen : Nat) :
    Succeeds (sendToVendorRil request data dataLen uniqueId simId) := succeeds_ok _

theorem setNetworkPreference_succeeds :
    Succeeds (setNetworkPreferenceV1 payload uniqueId simId) ↔
      requestOf UInt32 payload ≤ UrilNwPrefType.lteWcdma := by
  rw [← urilNwPref_succeeds]
  exact succeeds_bind_of fun _ => sendToVendorRil_succeeds ..

theorem setRadioMode_succeeds :
    Succeeds (setRadioModeV1 payload uniqueId simId) ↔
      requestOf UInt32 payload ∈ [UrilRadioMode.offline, UrilRadioMode.online] := by
  refine (succeeds_bind_of fun _ => sendToVendorRil_succeeds ..).trans ?_
  exact switchOrAssert_succeeds

theorem setupDataCall_succeeds :
    Succeeds (setupDataCallV1 payload uniqueId simId) ↔
      (requestOf SetupDataCallReq payload).rat ≤ UrilDataBearerTech.wlan3gpp ∧
        (requestOf SetupDataCallReq payload).authType ≤ UrilDataAuthType.papchap ∧
        (requestOf SetupDataCallReq payload).pdpType ≤ UrilDataPdpType.ppp := by
  rw [← bearerTech_succeeds, ← authType_succeeds, ← pdpType_succeeds]
  refine succeeds_bind_and fun _ _ => succeeds_bind_and fun _ _ => ?_
  exact succeeds_bind_of fun _ => sendToVendorRil_succeeds ..

theorem setInitialAttachParams_succeeds :
    Succeeds (setInitialAttachParamsV1 payload uniqueId simId) ↔
      (requestOf SetInitialParamsReq payload).authType ≤ UrilDataAuthType.papchap ∧
        (requestOf SetInitialParamsReq payload).pdpType ≤ UrilDataPdpType.ppp := by
  rw [← authType_succeeds, ← pdpType_succeeds, and_comm]
  refine succeeds_bind_and fun _ _ => ?_
  exact succeeds_bind_of fun _ => sendToVendorRil_succeeds ..

end Methods

theorem networkMessageProcessor_succeeds (msg : UrilProtocolMsg) :
    Succeeds (networkMessageProcessor msg) ↔
      (msg.msgId = MsgId.nwSetPref →
        requestOf UInt32 msg.payload ≤ UrilNwPrefType.lteWcdma) := by
  rw [← setNetworkPreference_succeeds msg.payload msg.uniqueId msg.simId]
  unfold networkMessageProcessor
  rw [succeeds_ite, and_iff_left_iff_imp]
  intro _ hother
  iterate 4 refine succeeds_ite.mpr ⟨fun _ => sendToVendorRil_succeeds .., fun _ => ?_⟩
  refine succeeds_ite.mpr ⟨fun _ => ?_, fun _ => ?_⟩
  · refine succeeds_ite.mpr ⟨fun _ => sendToVendorRil_succeeds .., fun _ => ?_⟩
    exact succeeds_ite.mpr ⟨fun _ => sendToVendorRil_succeeds .., fun _ => succeeds_ok _⟩
  · refine succeeds_ite.mpr ⟨fun _ => sendToVendorRil_succeeds .., fun _ => ?_⟩
    exact succeeds_ite.mpr ⟨fun _ => succeeds_ok _, fun _ => succeeds_ok _⟩

theorem radioMessageProcessor_succeeds (msg : UrilProtocolMsg) :
    Succeeds (radioMessageProcessor msg) ↔
      (msg.msgId = MsgId.radioSetRadioMode →
        requestOf UInt32 msg.payload ∈ [UrilRadioMode.offline, UrilRadioMode.online]) := by
  rw [← setRadioMode_succeeds msg.payload msg.uniqueId msg.simId]
  unfold radioMessageProcessor
  rw [succeeds_ite, and_iff_left_iff_imp]
  intro _ hother
  exact succeeds_ite.mpr ⟨fun _ => succeeds_ok _, fun _ => succeeds_ok _⟩

theorem dataMessageProcessor_succeeds (msg : UrilProtocolMsg) :
    Succeeds (dataMessageProcessor msg) ↔
      (msg.msgId = MsgId.dataSetupDataCall →
        (requestOf SetupDataCallReq msg.payload).rat ≤ UrilDataBearerTech.wlan3gpp ∧
          (requestOf SetupDataCallReq msg.payload).authType ≤ UrilDataAuthType.papchap ∧
          (requestOf SetupDataCallReq msg.payload).pdpType ≤ UrilDataPdpType.ppp) ∧
      (msg.msgId = MsgId.dataSetInitialAttachParams →
        (requestOf SetInitialParamsReq msg.payload).authType ≤ UrilDataAuthType.papchap ∧
          (requestOf SetInitialParamsReq msg.payload).pdpType ≤ UrilDataPdpType.ppp) := by
  rw [← setupDataCall_succeeds msg.payload msg.uniqueId msg.simId,
    ← setInitialAttachParams_succeeds msg.payload msg.uniqueId msg.simId]
  unfold dataMessageProcessor
  constructor
  · intro h
    constructor
    · intro hid
      rwa [hid, if_neg (by decide), if_pos rfl] at h
    · intro hid
      rwa [hid, if_neg (by decide), if_neg (by decide), if_neg (by decide), if_neg (by decide),
        if_pos rfl] at h
  · rintro ⟨hsetup, hattach⟩
    refine succeeds_ite.mpr ⟨fun _ => succeeds_ok _, fun _ => ?_⟩
    refine succeeds_ite.mpr ⟨hsetup, fun _ => ?_⟩
    refine succeeds_ite.mpr ⟨fun _ => sendToVendorRil_succeeds .., fun _ => ?_⟩
    refine succeeds_ite.mpr ⟨fun _ => sendToVendorRil_succeeds .., fun _ => ?_⟩
    exact succeeds_ite.mpr ⟨hattach, fun _ => succeeds_ok _⟩

theorem networkMessageProcessor_accepts (msg : UrilProtocolMsg) :
    Ensures (networkMessageProcessor msg) fun p => p.ret = true → msg.msgId >>> 8 = 5 := by
  unfold networkMessageProcessor
  iterate 8 refine .ite (fun h _ _ _ => by rw [h]; rfl) fun _ => ?_
  exact .ok (by simp)

theorem radioMessageProcessor_accepts (msg : UrilProtocolMsg) :
    Ensures (radioMessageProcessor msg) fun p => p.ret = true → msg.msgId >>> 8 = 1 := by
  unfold radioMessageProcessor
  iterate 2 refine .ite (fun h _ _ _ => by rw [h]; rfl) fun _ => ?_
  exact .ok (by simp)

theorem dataMessageProcessor_accepts (msg : UrilProtocolMsg) :
    Ensures (dataMessageProcessor msg) fun p => p.ret = true → msg.msgId >>> 8 = 6 := by
  unfold dataMessageProcessor
  iterate 5 refine .ite (fun h _ _ _ => by rw [h]; rfl) fun _ => ?_
  exact .ok (by simp)

/-- Where a message that one child takes stops no other child, the composite
stops only where one of its children does. -/
theorem compositeRequestProcessor_succeeds {msg : UrilProtocolMsg} :
    ∀ children : List RequestProcessor,
      (∀ child ∈ children, ∀ p, child msg = .ok p → p.ret = true →
        ∀ other ∈ children, Succeeds (other msg)) →
      (Succeeds (compositeRequestProcessor children msg) ↔
        ∀ child ∈ children, Succeeds (child msg)) := by
  intro children
  induction children with
  | nil => exact fun _ => iff_of_true (succeeds_ok _) nofun
  | cons child children ih =>
      intro hexclusive
      have hrest := ih fun c hc p hp hret other hother =>
        hexclusive c (List.mem_cons_of_mem _ hc) p hp hret other (List.mem_cons_of_mem _ hother)
      rw [List.forall_mem_cons, ← hrest]
      refine succeeds_bind_and fun p hp => ?_
      split
      · rename_i hret
        refine iff_of_true (succeeds_pure _) (hrest.mpr fun other hother => ?_)
        exact hexclusive child List.mem_cons_self p hp hret other (List.mem_cons_of_mem _ hother)
      · exact succeeds_bind_of fun _ => succeeds_pure _

theorem processRequest_succeeds (msg : UrilProtocolMsg) :
    Succeeds (processRequest msg) ↔ EnumsKnown msg := by
  have hexclusive : ∀ child ∈ [networkMessageProcessor, radioMessageProcessor,
      dataMessageProcessor], ∀ p, child msg = .ok p → p.ret = true →
        ∀ other ∈ [networkMessageProcessor, radioMessageProcessor, dataMessageProcessor],
          Succeeds (other msg) := by
    intro child hchild p hp hret other hother
    simp only [List.mem_cons, List.not_mem_nil, or_false] at hchild hother
    rcases hchild with rfl | rfl | rfl
    · have hgroup := networkMessageProcessor_accepts msg p hp hret
      rcases hother with rfl | rfl | rfl
      · exact ⟨p, hp⟩
      · exact (radioMessageProcessor_succeeds msg).mpr fun hid =>
          absurd (hid ▸ hgroup) (by decide)
      · exact (dataMessageProcessor_succeeds msg).mpr
          ⟨fun hid => absurd (hid ▸ hgroup) (by decide),
            fun hid => absurd (hid ▸ hgroup) (by decide)⟩
    · have hgroup := radioMessageProcessor_accepts msg p hp hret
      rcases hother with rfl | rfl | rfl
      · exact (networkMessageProcessor_succeeds msg).mpr fun hid =>
          absurd (hid ▸ hgroup) (by decide)
      · exact ⟨p, hp⟩
      · exact (dataMessageProcessor_succeeds msg).mpr
          ⟨fun hid => absurd (hid ▸ hgroup) (by decide),
            fun hid => absurd (hid ▸ hgroup) (by decide)⟩
    · have hgroup := dataMessageProcessor_accepts msg p hp hret
      rcases hother with rfl | rfl | rfl
      · exact (networkMessageProcessor_succeeds msg).mpr fun hid =>
          absurd (hid ▸ hgroup) (by decide)
      · exact (radioMessageProcessor_succeeds msg).mpr fun hid =>
          absurd (hid ▸ hgroup) (by decide)
      · exact ⟨p, hp⟩
  refine (compositeRequestProcessor_succeeds _ hexclusive).trans ?_
  simp only [List.forall_mem_cons, networkMessageProcessor_succeeds,
    radioMessageProcessor_succeeds, dataMessageProcessor_succeeds]
  constructor
  · rintro ⟨hpref, hmode, ⟨hsetup, hattach⟩, -⟩
    exact ⟨hpref, hmode, hsetup, hattach⟩
  · intro h
    exact ⟨h.nwPref, h.radioMode, ⟨h.setupDataCall, h.initialAttach⟩, nofun⟩

theorem sendToVendorRil_fails {request : RilReqId} {data : RequestData} {dataLen : Nat}
    {uniqueId : UInt32} {simId : UInt8} :
    FailsOnlyWith Fault.assertion (sendToVendorRil request data dataLen uniqueId simId) := .ok _

theorem networkMessageProcessor_fails (msg : UrilProtocolMsg) :
    FailsOnlyWith Fault.assertion (networkMessageProcessor msg) := by
  unfold networkMessageProcessor
  refine .ite (.bind switchOrAssert_fails fun _ => sendToVendorRil_fails) ?_
  iterate 4 refine .ite sendToVendorRil_fails ?_
  refine .ite (.ite sendToVendorRil_fails (.ite sendToVendorRil_fails (.ok _))) ?_
  exact .ite sendToVendorRil_fails (.ite (.ok _) (.ok _))

theorem radioMessageProcessor_fails (msg : UrilProtocolMsg) :
    FailsOnlyWith Fault.assertion (radioMessageProcessor msg) := by
  unfold radioMessageProcessor
  refine .ite (.bind switchOrAssert_fails fun _ => sendToVendorRil_fails) ?_
  exact .ite (.ok _) (.ok _)

theorem dataMessageProcessor_fails (msg : UrilProtocolMsg) :
    FailsOnlyWith Fault.assertion (dataMessageProcessor msg) := by
  unfold dataMessageProcessor
  refine .ite (.ok _) (.ite ?_ (.ite sendToVendorRil_fails ?_))
  · refine .bind switchOrAssert_fails fun _ => .bind switchOrAssert_fails fun _ => ?_
    exact .bind pdpType_fails fun _ => sendToVendorRil_fails
  · refine .ite sendToVendorRil_fails (.ite ?_ (.ok _))
    refine .bind pdpType_fails fun _ => .bind switchOrAssert_fails fun _ => ?_
    exact sendToVendorRil_fails

theorem compositeRequestProcessor_fails {msg : UrilProtocolMsg} (children : List RequestProcessor)
    (h : ∀ child ∈ children, FailsOnlyWith Fault.assertion (child msg)) :
    FailsOnlyWith Fault.assertion (compositeRequestProcessor children msg) := by
  induction children with
  | nil => exact .ok _
  | cons child children ih =>
      have hrest := ih fun c hc => h c (List.mem_cons_of_mem _ hc)
      exact .bind (h child List.mem_cons_self) fun _ => .ite (.ok _) (.bind hrest fun _ => .ok _)

/-- The processors have no other fault than a failing assertion. -/
theorem processRequest_fails (msg : UrilProtocolMsg) :
    FailsOnlyWith Fault.assertion (processRequest msg) := by
  refine compositeRequestProcessor_fails _ fun child hchild => ?_
  simp only [List.mem_cons, List.not_mem_nil, or_false] at hchild
  rcases hchild with rfl | rfl | rfl
  · exact networkMessageProcessor_fails msg
  · exact radioMessageProcessor_fails msg
  · exact dataMessageProcessor_fails msg

section Threads

variable {uid : UInt32} {sid : UInt8} {radioState : RadioState}

theorem radioModeResponse_succeeds :
    Succeeds (radioModeResponse uid sid radioState) ↔
      radioState ∈ [RadioState.off, RadioState.unavailable, RadioState.on] := by
  cases radioState with
  | other number => exact iff_of_false (not_succeeds_error _) (by simp)
  | _ => exact iff_of_true (succeeds_pure _) (by simp)

theorem radioModeResponse_fails :
    FailsOnlyWith Fault.assertion (radioModeResponse uid sid radioState) := by
  cases radioState with
  | other number => exact .error
  | _ => exact .ok _

theorem processRequest_radioGetRadioMode {msg : UrilProtocolMsg}
    (hid : msg.msgId = MsgId.radioGetRadioMode) :
    processRequest msg = .ok ⟨[.radioThread msg.uniqueId msg.simId], true⟩ := by
  have hnetwork : networkMessageProcessor msg = refuse := by
    unfold networkMessageProcessor
    rw [hid]
    rfl
  have hradio : radioMessageProcessor msg = getRadioModeV1 msg.uniqueId msg.simId := by
    unfold radioMessageProcessor
    rw [hid]
    rfl
  unfold processRequest compositeRequestProcessor compositeRequestProcessor
  rw [hnetwork, hradio]
  rfl

theorem effects_succeed {msg : UrilProtocolMsg} {p : Processed} (hp : processRequest msg = .ok p) :
    Succeeds (p.effects.forM (runEffect uid sid radioState)) ↔
      (msg.msgId = MsgId.radioGetRadioMode →
        radioState ∈ [RadioState.off, RadioState.unavailable, RadioState.on]) := by
  by_cases hid : msg.msgId = MsgId.radioGetRadioMode
  · rw [processRequest_radioGetRadioMode hid] at hp
    obtain rfl := Except.ok.inj hp
    have hthread : Succeeds (radioModeResponse uid sid radioState) ↔ _ :=
      radioModeResponse_succeeds
    rw [forall_prop_of_true hid, ← hthread]
    refine (succeeds_bind_of fun _ => succeeds_pure _).trans ?_
    exact succeeds_bind_of fun _ => succeeds_pure _
  · refine iff_of_true ?_ fun h => absurd h hid
    obtain _ | hradio | ⟨v, -, -⟩ := processRequest_outcome msg p hp
    · exact succeeds_pure _
    · exact absurd hradio hid
    · exact succeeds_pure _

theorem effects_fail (effects : List Effect) :
    FailsOnlyWith Fault.assertion (effects.forM (runEffect uid sid radioState)) := by
  induction effects with
  | nil => exact .ok _
  | cons effect effects ih =>
      refine .bind ?_ fun _ => ih
      cases effect with
      | submit token request => exact .ok _
      | radioThread _ _ => exact .bind radioModeResponse_fails fun _ => .ok _

/-- A client's request reaches no failing assertion if and only if its
enumeration values, and the radio state that it asks for, are known. -/
theorem onMessageReceived_asserts_iff (m : PendingRequests κ) (connection : κ)
    (msg : UrilProtocolMsg) (uid : UInt32) (sid : UInt8) (radioState : RadioState) :
    onMessageReceived m connection msg uid sid radioState ≠ .error .assertion ↔
      ValuesKnown msg radioState := by
  have hfails : FailsOnlyWith Fault.assertion
      (onMessageReceived m connection msg uid sid radioState) :=
    .bind (processRequest_fails msg) fun _ => .bind (effects_fail _) fun _ => .ok _
  have hruns : Succeeds (onMessageReceived m connection msg uid sid radioState) ↔
      Succeeds (processRequest msg) ∧ (msg.msgId = MsgId.radioGetRadioMode →
        radioState ∈ [RadioState.off, RadioState.unavailable, RadioState.on]) :=
    succeeds_bind_and fun _ hp =>
      (succeeds_bind_of fun _ => succeeds_ok _).trans (effects_succeed hp)
  rw [hfails.ne_error_iff, hruns, processRequest_succeeds]
  exact ⟨fun h => ⟨h.1, h.2⟩, fun h => ⟨h.enums, h.radioState⟩⟩

end Threads

/-- A request to set the radio mode, with a payload of zeros. -/
theorem setRadioMode_zero_asserts :
    onMessageReceived (PendingRequests.empty : PendingRequests Nat) 1
      { UrilProtocolMsg.zeroed with msgId := MsgId.radioSetRadioMode } 0 0 .on =
    .error .assertion :=
  rfl

end UnifiedRil.RequestAssertions

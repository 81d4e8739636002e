import UnifiedRil.RilResponses

namespace UnifiedRil.RequestProcessors

open UnifiedRil.Library.Results
open UnifiedRil.Protocol
open UnifiedRil.Messages
open UnifiedRil.Ril
open UnifiedRil.RilAdapter
open UnifiedRil.RilResponses

/-- `IRequestProcessor::processRequest` -/
abbrev RequestProcessor := UrilProtocolMsg → Except Fault Processed

/-- `NetworkMessageProcessor::processRequest` -/
def networkMessageProcessor : RequestProcessor := fun msg =>
  if msg.msgId = MsgId.nwSetPref then
    setNetworkPreferenceV1 msg.payload msg.uniqueId msg.simId
  else if msg.msgId = MsgId.nwGetPref then getNetworkPreferenceV1 msg.uniqueId msg.simId
  else if msg.msgId = MsgId.nwGetRegistrationStatus then
    getNetworkRegistrationStatusV1 msg.uniqueId msg.simId
  else if msg.msgId = MsgId.nwScan then scanNetworkV1 msg.uniqueId msg.simId
  else if msg.msgId = MsgId.nwSetScreen then
    setScreenStateV1 msg.payload msg.uniqueId msg.simId
  else if msg.msgId = MsgId.nwSelection then selectNetworkV1 msg.payload msg.uniqueId msg.simId
  else if msg.msgId = MsgId.nwGetSignalStrength then
    getSignalStrengthV1 msg.uniqueId msg.simId
  else if msg.msgId = MsgId.nwGetCellAccessState then getCellAccessV1 msg.uniqueId msg.simId
  else refuse

/-- `RadioMessageProcessor::processRequest` -/
def radioMessageProcessor : RequestProcessor := fun msg =>
  if msg.msgId = MsgId.radioSetRadioMode then
    setRadioModeV1 msg.payload msg.uniqueId msg.simId
  else if msg.msgId = MsgId.radioGetRadioMode then getRadioModeV1 msg.uniqueId msg.simId
  else refuse

/-- `DataMessageProcessor::processRequest` -/
def dataMessageProcessor : RequestProcessor := fun msg =>
  if msg.msgId = MsgId.dataSetDataProfiles then setDataProfilesV1 msg.uniqueId msg.simId
  else if msg.msgId = MsgId.dataSetupDataCall then
    setupDataCallV1 msg.payload msg.uniqueId msg.simId
  else if msg.msgId = MsgId.dataDeactivateDataCall then
    deactivateDataCallV1 msg.payload msg.uniqueId msg.simId
  else if msg.msgId = MsgId.dataGetDataCallList then getDataCallListV1 msg.uniqueId msg.simId
  else if msg.msgId = MsgId.dataSetInitialAttachParams then
    setInitialAttachParamsV1 msg.payload msg.uniqueId msg.simId
  else refuse

/-- `CompositeRequestProcessor::processRequest`: the children in turn, up to the
first that takes the message. -/
def compositeRequestProcessor : List RequestProcessor → RequestProcessor
  | [], _ => refuse
  | child :: children, msg => do
      let processed ← child msg
      if processed.ret then return processed
      let rest ← compositeRequestProcessor children msg
      return { rest with effects := processed.effects ++ rest.effects }

/-- The processor that `UrilConfigBasedFactory` builds. -/
def processRequest : RequestProcessor :=
  compositeRequestProcessor [networkMessageProcessor, radioMessageProcessor, dataMessageProcessor]

/-- What becomes of a message: nothing, the thread that asks for the radio
state, or one request to the vendor, under a context made for the message. -/
inductive Outcome (msg : UrilProtocolMsg) : Processed → Prop
  | refused : Outcome msg ⟨[], false⟩
  | radioThread : msg.msgId = MsgId.radioGetRadioMode →
      Outcome msg ⟨[.radioThread msg.uniqueId msg.simId], true⟩
  | submitted (v : VendorRequest) : (∀ number, v.request ≠ .other number) →
      responseMsgId v.request = msg.msgId →
      Outcome msg ⟨[.submit (makeTokenForMessage v.request msg.uniqueId msg.simId) v], true⟩

theorem refuse_outcome (msg : UrilProtocolMsg) : Ensures refuse (Outcome msg) := .ok .refused

theorem sendToVendorRil_outcome {msg : UrilProtocolMsg} {request : RilReqId}
    {data : RequestData} {dataLen : Nat} (hknown : ∀ number, request ≠ .other number)
    (hid : responseMsgId request = msg.msgId) :
    Ensures (sendToVendorRil request data dataLen msg.uniqueId msg.simId) (Outcome msg) :=
  .ok (.submitted ⟨request, data, dataLen⟩ hknown hid)

theorem networkMessageProcessor_outcome (msg : UrilProtocolMsg) :
    Ensures (networkMessageProcessor msg) (Outcome msg) := by
  unfold networkMessageProcessor
  refine .ite (fun h => .bind fun _ => sendToVendorRil_outcome nofun h.symm) fun _ => ?_
  refine .ite (fun h => sendToVendorRil_outcome nofun h.symm) fun _ => ?_
  refine .ite (fun h => sendToVendorRil_outcome nofun h.symm) fun _ => ?_
  refine .ite (fun h => sendToVendorRil_outcome nofun h.symm) fun _ => ?_
  refine .ite (fun h => sendToVendorRil_outcome nofun h.symm) fun _ => ?_
  refine .ite (fun h => ?_) fun _ => ?_
  · refine .ite (fun _ => sendToVendorRil_outcome nofun h.symm) fun _ => ?_
    exact .ite (fun _ => sendToVendorRil_outcome nofun h.symm) fun _ => refuse_outcome msg
  · refine .ite (fun h => sendToVendorRil_outcome nofun h.symm) fun _ => ?_
    exact .ite (fun _ => refuse_outcome msg) fun _ => refuse_outcome msg

theorem radioMessageProcessor_outcome (msg : UrilProtocolMsg) :
    Ensures (radioMessageProcessor msg) (Outcome msg) := by
  unfold radioMessageProcessor
  refine .ite (fun h => .bind fun _ => sendToVendorRil_outcome nofun h.symm) fun _ => ?_
  exact .ite (fun h => .ok (.radioThread h)) fun _ => refuse_outcome msg

theorem dataMessageProcessor_outcome (msg : UrilProtocolMsg) :
    Ensures (dataMessageProcessor msg) (Outcome msg) := by
  unfold dataMessageProcessor
  refine .ite (fun _ => refuse_outcome msg) fun _ => ?_
  refine .ite (fun h => ?_) fun _ => ?_
  · iterate 3 refine .bind fun _ => ?_
    exact sendToVendorRil_outcome nofun h.symm
  · refine .ite (fun h => sendToVendorRil_outcome nofun h.symm) fun _ => ?_
    refine .ite (fun h => sendToVendorRil_outcome nofun h.symm) fun _ => ?_
    refine .ite (fun h => ?_) fun _ => refuse_outcome msg
    exact .bind fun _ => .bind fun _ => sendToVendorRil_outcome nofun h.symm

theorem compositeRequestProcessor_outcome {msg : UrilProtocolMsg}
    (children : List RequestProcessor)
    (h : ∀ child ∈ children, Ensures (child msg) (Outcome msg)) :
    Ensures (compositeRequestProcessor children msg) (Outcome msg) := by
  induction children with
  | nil => exact refuse_outcome msg
  | cons child children ih =>
      have hrest := ih fun c hc => h c (List.mem_cons_of_mem child hc)
      refine .bind_of (h child List.mem_cons_self) ?_
      rintro processed (_ | hradio | ⟨v, hknown, hid⟩)
      · exact .bind_of hrest fun rest hrest => .ok hrest
      · exact .ok (.radioThread hradio)
      · exact .ok (.submitted v hknown hid)

theorem processRequest_outcome (msg : UrilProtocolMsg) :
    Ensures (processRequest msg) (Outcome msg) := by
  refine compositeRequestProcessor_outcome _ fun child hchild => ?_
  simp only [List.mem_cons, List.not_mem_nil, or_false] at hchild
  rcases hchild with rfl | rfl | rfl
  · exact networkMessageProcessor_outcome msg
  · exact radioMessageProcessor_outcome msg
  · exact dataMessageProcessor_outcome msg

def NetworkAccepts (msg : UrilProtocolMsg) : Prop :=
  msg.msgId ∈ [MsgId.nwSetPref, MsgId.nwGetPref, MsgId.nwGetRegistrationStatus, MsgId.nwScan,
    MsgId.nwSetScreen, MsgId.nwGetSignalStrength] ∨
  msg.msgId = MsgId.nwSelection ∧
    (requestOf SelectionReq msg.payload).nwSelectionType ∈
      [UrilNwSelection.automatic, UrilNwSelection.manual]

def RadioAccepts (msg : UrilProtocolMsg) : Prop :=
  msg.msgId ∈ [MsgId.radioSetRadioMode, MsgId.radioGetRadioMode]

def DataAccepts (msg : UrilProtocolMsg) : Prop :=
  msg.msgId ∈ [MsgId.dataSetupDataCall, MsgId.dataDeactivateDataCall,
    MsgId.dataGetDataCallList, MsgId.dataSetInitialAttachParams]

/-- A request that is implemented, and of a known type of selection. -/
def Supported (msg : UrilProtocolMsg) : Prop :=
  NetworkAccepts msg ∨ RadioAccepts msg ∨ DataAccepts msg

instance : DecidablePred NetworkAccepts := fun _ => inferInstanceAs (Decidable (_ ∨ _))
instance : DecidablePred RadioAccepts := fun _ => inferInstanceAs (Decidable (_ ∈ _))
instance : DecidablePred DataAccepts := fun _ => inferInstanceAs (Decidable (_ ∈ _))
instance : DecidablePred Supported := fun _ => inferInstanceAs (Decidable (_ ∨ _))

theorem networkMessageProcessor_ret (msg : UrilProtocolMsg) :
    Ensures (networkMessageProcessor msg) fun p => p.ret = true ↔ NetworkAccepts msg := by
  unfold networkMessageProcessor
  refine .ite (fun h => .bind fun _ => .ok (by simp [NetworkAccepts, h])) fun h₁ => ?_
  refine .ite (fun h => .ok (by simp [NetworkAccepts, h])) fun h₂ => ?_
  refine .ite (fun h => .ok (by simp [NetworkAccepts, h])) fun h₃ => ?_
  refine .ite (fun h => .ok (by simp [NetworkAccepts, h])) fun h₄ => ?_
  refine .ite (fun h => .ok (by simp [NetworkAccepts, h])) fun h₅ => ?_
  refine .ite (fun h => ?_) fun h₆ => ?_
  · refine .ite (fun htype => .ok (by simp [NetworkAccepts, h, htype])) fun hauto => ?_
    refine .ite (fun htype => .ok (by simp [NetworkAccepts, h, htype])) fun hmanual => ?_
    refine .ok (iff_of_false Bool.false_ne_true ?_)
    rintro (hid | ⟨-, htype⟩)
    · rw [h] at hid
      exact absurd hid (by decide)
    · simp [hauto, hmanual] at htype
  · refine .ite (fun h => .ok (by simp [NetworkAccepts, h])) fun h₇ => ?_
    refine .ite (fun _ => .ok ?_) fun _ => .ok ?_
    · simp [NetworkAccepts, h₁, h₂, h₃, h₄, h₅, h₆, h₇]
    · simp [NetworkAccepts, h₁, h₂, h₃, h₄, h₅, h₆, h₇]

theorem radioMessageProcessor_ret (msg : UrilProtocolMsg) :
    Ensures (radioMessageProcessor msg) fun p => p.ret = true ↔ RadioAccepts msg := by
  unfold radioMessageProcessor
  refine .ite (fun h => .bind fun _ => .ok (by simp [RadioAccepts, h])) fun h₁ => ?_
  refine .ite (fun h => .ok (by simp [RadioAccepts, h])) fun h₂ => ?_
  exact .ok (by simp [RadioAccepts, h₁, h₂])

theorem dataMessageProcessor_ret (msg : UrilProtocolMsg) :
    Ensures (dataMessageProcessor msg) fun p => p.ret = true ↔ DataAccepts msg := by
  unfold dataMessageProcessor
  refine .ite (fun h => .ok (iff_of_false Bool.false_ne_true ?_)) fun _ => ?_
  · rw [DataAccepts, h]
    decide
  refine .ite (fun h => ?_) fun h₁ => ?_
  · iterate 3 refine .bind fun _ => ?_
    exact .ok (by simp [DataAccepts, h])
  · refine .ite (fun h => .ok (by simp [DataAccepts, h])) fun h₂ => ?_
    refine .ite (fun h => .ok (by simp [DataAccepts, h])) fun h₃ => ?_
    refine .ite (fun h => ?_) fun h₄ => .ok (by simp [DataAccepts, h₁, h₂, h₃, h₄])
    exact .bind fun _ => .bind fun _ => .ok (by simp [DataAccepts, h])

theorem compositeRequestProcessor_ret {msg : UrilProtocolMsg}
    (children : List (RequestProcessor × Prop))
    (h : ∀ child ∈ children, Ensures (child.1 msg) fun p => p.ret = true ↔ child.2) :
    Ensures (compositeRequestProcessor (children.map (·.1)) msg) fun p =>
      p.ret = true ↔ ∃ child ∈ children, child.2 := by
  induction children with
  | nil => exact .ok (by simp)
  | cons child children ih =>
      have hrest := ih fun c hc => h c (List.mem_cons_of_mem child hc)
      refine .bind_of (h child List.mem_cons_self) fun processed hprocessed => ?_
      refine .ite (fun hret => .ok ?_) fun hret => ?_
      · exact iff_of_true hret ⟨child, List.mem_cons_self, hprocessed.mp hret⟩
      · refine .bind_of hrest fun rest hrest => .ok ?_
        simp only [List.mem_cons, exists_eq_or_imp]
        rwa [or_iff_right (mt hprocessed.mpr hret)]

theorem processRequest_ret (msg : UrilProtocolMsg) :
    Ensures (processRequest msg) fun p => p.ret = true ↔ Supported msg := by
  have h := @compositeRequestProcessor_ret msg
    [(networkMessageProcessor, NetworkAccepts msg), (radioMessageProcessor, RadioAccepts msg),
      (dataMessageProcessor, DataAccepts msg)]
  simp only [List.forall_mem_cons, List.map_cons, List.map_nil] at h
  have hchildren := h ⟨networkMessageProcessor_ret msg, radioMessageProcessor_ret msg,
    dataMessageProcessor_ret msg, nofun⟩
  simpa [Supported, processRequest] using hchildren

end UnifiedRil.RequestProcessors

import UnifiedRil.Library.Results
import UnifiedRil.RilAdapter

namespace UnifiedRil.RilResponses

open UnifiedRil.Library.Bytes
open UnifiedRil.Library.Layout
open UnifiedRil.Library.Results
open UnifiedRil.Protocol
open UnifiedRil.Messages
open UnifiedRil.Ril
open UnifiedRil.RilConversion
open UnifiedRil.RilHandlers
open UnifiedRil.RilAdapter

/-- A handler filled in a structure of the given size over the payload, and the
header of its message. -/
structure Answers (rsp : UrilProtocolMsg) (msgId : UInt32) (size : Nat)
    (followUp : Option RilReqId) (h : Handled) : Prop where
  rsp_eq : h.rsp =
    { rsp with
      msgId := msgId
      len := UInt16.ofNat size
      payload := overwrite rsp.payload h.structBytes }
  length : h.structBytes.length = size
  fits : ∀ x ∈ h.extents, x.stop ≤ size
  followUp_eq : h.followUp = followUp

theorem answers_respond {α : Type} [Packed α] {initial : α} (rsp : UrilProtocolMsg)
    (msgId : UInt32) (filled : Store initial) (followUp : Option RilReqId) :
    Answers rsp msgId (sizeof α) followUp (respond rsp msgId filled followUp) :=
  ⟨rfl, Packed.length_encode _, filled.fits, rfl⟩

theorem respondOnly_answers (msgId : UInt32) (rsp : UrilProtocolMsg) (e : RilErrno) :
    Ensures (respondOnly msgId rsp e) (Answers rsp msgId (sizeof ResponseMsg) none) :=
  .ok (answers_respond ..)

theorem getNetworkPref_answers (rsp : UrilProtocolMsg) (e : RilErrno) (data : RilData) :
    Ensures (handleRilGetNetworkPrefResponseV1 rsp e data)
      (Answers rsp MsgId.nwGetPref (sizeof GetPrefResp) none) := by
  unfold handleRilGetNetworkPrefResponseV1
  refine .ite (fun _ => .bind fun _ => .bind fun _ => ?_) fun _ => ?_
  · exact .pure (answers_respond ..)
  · exact .pure (answers_respond ..)

theorem voiceRegState_answers (rsp : UrilProtocolMsg) (e : RilErrno) (data : RilData)
    (u : UInt32) :
    Ensures (handleRilVoiceRegStateResponseV1 rsp e data u)
      (Answers rsp MsgId.nwGetRegistrationStatus (sizeof GetRegistrationStatusResp)
        (if e = .success then some .dataRegistrationState else none)) := by
  unfold handleRilVoiceRegStateResponseV1
  refine .ite (fun he => ?_) fun he => ?_
  · rw [if_pos he]
    iterate 9 refine .bind fun _ => ?_
    exact .pure (answers_respond ..)
  · rw [if_neg he]
    exact .pure (answers_respond ..)

theorem dataRegState_answers (rsp : UrilProtocolMsg) (e : RilErrno) (data : RilData)
    (u : UInt32) :
    Ensures (handleRilDataRegStateResponseV1 rsp e data u)
      (Answers rsp MsgId.nwGetRegistrationStatus (sizeof GetRegistrationStatusResp)
        (if e = .success then some .operator else none)) := by
  unfold handleRilDataRegStateResponseV1
  refine .ite (fun he => ?_) fun he => ?_
  · rw [if_pos he]
    iterate 9 refine .bind fun _ => ?_
    exact .pure (answers_respond ..)
  · rw [if_neg he]
    exact .pure (answers_respond ..)

theorem getOperator_answers (rsp : UrilProtocolMsg) (e : RilErrno) (data : RilData) :
    Ensures (handleRilGetOperatorResponseV1 rsp e data)
      (Answers rsp MsgId.nwGetRegistrationStatus (sizeof GetRegistrationStatusResp) none) := by
  unfold handleRilGetOperatorResponseV1
  refine .ite (fun _ => ?_) fun _ => .pure (answers_respond ..)
  split
  · exact .pure (answers_respond ..)
  · refine .bind fun entry => ?_
    split
    · exact .pure (answers_respond ..)
    · exact .bind fun _ => .bind fun _ => .pure (answers_respond ..)

theorem availableNetworks_answers (rsp : UrilProtocolMsg) (e : RilErrno) (data : RilData) :
    Ensures (handleRilAvailableNetworksResponseV1 rsp e data)
      (Answers rsp MsgId.nwScan (sizeof ScanResp) none) := by
  unfold handleRilAvailableNetworksResponseV1
  refine .ite (fun _ => .bind fun _ => ?_) fun _ => ?_
  · exact .pure (answers_respond ..)
  · exact .pure (answers_respond ..)

theorem getSignalStrength_answers (rsp : UrilProtocolMsg) (e : RilErrno) (data : RilData) :
    Ensures (handleRilGetSignalStrengthResponseV1 rsp e data)
      (Answers rsp MsgId.nwGetSignalStrength (sizeof GetSignalStrengthResp) none) := by
  unfold handleRilGetSignalStrengthResponseV1
  refine .ite (fun _ => ?_) fun _ => .pure (answers_respond ..)
  refine .bind fun _ => .bind fun _ => .bind fun _ => ?_
  refine .ite (fun _ => .pure (answers_respond ..)) fun _ => .bind fun _ => ?_
  refine .ite (fun _ => ?_) fun _ => .bind fun _ => ?_
  · iterate 4 refine .bind fun _ => ?_
    exact .pure (answers_respond ..)
  · refine .ite (fun _ => .bind fun _ => ?_) fun _ => ?_
    · exact .pure (answers_respond ..)
    · exact .pure (answers_respond ..)

theorem setupDataCall_answers (rsp : UrilProtocolMsg) (e : RilErrno) (data : RilData) :
    Ensures (handleRilSetupDataCallV1 rsp e data)
      (Answers rsp MsgId.dataSetupDataCall (sizeof SetupDataCallResp) none) := by
  unfold handleRilSetupDataCallV1
  refine .ite (fun _ => ?_) fun _ => .pure (answers_respond ..)
  iterate 4 refine .bind fun _ => ?_
  exact .pure (answers_respond ..)

theorem getDataCallList_answers (rsp : UrilProtocolMsg) (e : RilErrno) (data : RilData) :
    Ensures (handleRilGetDataCallListV1 rsp e data)
      (Answers rsp MsgId.dataGetDataCallList (sizeof GetDataCallListResp) none) := by
  unfold handleRilGetDataCallListV1
  refine .ite (fun _ => .bind fun _ => .bind fun _ => ?_) fun _ => ?_
  · exact .pure (answers_respond ..)
  · exact .pure (answers_respond ..)

/-- The message id of the response to a vendor request. -/
def responseMsgId : RilReqId → UInt32
  | .setPreferredNetworkType => MsgId.nwSetPref
  | .getPreferredNetworkType => MsgId.nwGetPref
  | .voiceRegistrationState | .dataRegistrationState | .operator =>
      MsgId.nwGetRegistrationStatus
  | .queryAvailableNetworks => MsgId.nwScan
  | .screenState => MsgId.nwSetScreen
  | .setNetworkSelectionAutomatic | .setNetworkSelectionManual => MsgId.nwSelection
  | .signalStrength => MsgId.nwGetSignalStrength
  | .radioPower => MsgId.radioSetRadioMode
  | .setupDataCall => MsgId.dataSetupDataCall
  | .deactivateDataCall => MsgId.dataDeactivateDataCall
  | .dataCallList => MsgId.dataGetDataCallList
  | .setInitialAttachApn => MsgId.dataSetInitialAttachParams
  | .other _ => 0

/-- The size of the structure that the response to a vendor request consists
of. -/
def structSize : RilReqId → Nat
  | .getPreferredNetworkType => sizeof GetPrefResp
  | .voiceRegistrationState | .dataRegistrationState | .operator =>
      sizeof GetRegistrationStatusResp
  | .queryAvailableNetworks => sizeof ScanResp
  | .signalStrength => sizeof GetSignalStrengthResp
  | .setupDataCall => sizeof SetupDataCallResp
  | .dataCallList => sizeof GetDataCallListResp
  | _ => sizeof ResponseMsg

/-- The request that follows the answer to a request, if one does. -/
def nextRequest (rilReqId : RilReqId) (e : RilErrno) : Option RilReqId :=
  match rilReqId with
  | .voiceRegistrationState => if e = .success then some .dataRegistrationState else none
  | .dataRegistrationState => if e = .success then some .operator else none
  | _ => none

theorem responseHandler_answers {rilReqId : RilReqId} {rsp : UrilProtocolMsg} {e : RilErrno}
    {data : RilData} {u : UInt32} {run : Except Fault Handled}
    (h : responseHandler rilReqId rsp e data u = some run) :
    Ensures run
      (Answers rsp (responseMsgId rilReqId) (structSize rilReqId) (nextRequest rilReqId e)) := by
  cases rilReqId with
  | other number => cases h
  | getPreferredNetworkType => cases h; exact getNetworkPref_answers rsp e data
  | voiceRegistrationState => cases h; exact voiceRegState_answers rsp e data u
  | dataRegistrationState => cases h; exact dataRegState_answers rsp e data u
  | operator => cases h; exact getOperator_answers rsp e data
  | queryAvailableNetworks => cases h; exact availableNetworks_answers rsp e data
  | signalStrength => cases h; exact getSignalStrength_answers rsp e data
  | setupDataCall => cases h; exact setupDataCall_answers rsp e data
  | dataCallList => cases h; exact getDataCallList_answers rsp e data
  | _ => cases h; exact respondOnly_answers _ rsp e

theorem runHandler_handled {ctx ctx' : RilRequestContext} {e : RilErrno} {data : RilData}
    {u : UInt32} {h : Handled} (hrun : runHandler ctx e data u = .ok (ctx', some h)) :
    responseHandler ctx.rilReqId (responseOf ctx) e data u = some (.ok h) ∧
      ctx' = afterHandler ctx h := by
  unfold runHandler at hrun
  split at hrun
  · cases hrun
  · rename_i run hhandler
    cases run with
    | error fault => cases hrun
    | ok handled => cases hrun; exact ⟨hhandler, rfl⟩

theorem runHandler_some {ctx ctx' : RilRequestContext} {e : RilErrno} {data : RilData}
    {u : UInt32} {h : Handled} (hrun : runHandler ctx e data u = .ok (ctx', some h)) :
    ctx' = afterHandler ctx h ∧
      Answers (responseOf ctx) (responseMsgId ctx.rilReqId) (structSize ctx.rilReqId)
        (nextRequest ctx.rilReqId e) h :=
  ⟨(runHandler_handled hrun).2, responseHandler_answers (runHandler_handled hrun).1 h rfl⟩

/-- The contexts that the adapter has: new ones, and those that are left by the
answers to their requests. -/
inductive Serving : RilRequestContext → Prop
  | token (rilReqId : RilReqId) (uniqueId : UInt32) (simId : UInt8) :
      Serving (makeTokenForMessage rilReqId uniqueId simId)
  | answered {ctx ctx' : RilRequestContext} {e : RilErrno} {data : RilData} {u : UInt32}
      {h : Handled} : Serving ctx → runHandler ctx e data u = .ok (ctx', some h) → Serving ctx'

theorem responseOf_header {ctx : RilRequestContext} (h : Serving ctx) :
    (responseOf ctx).isIndication = 0 ∧ (responseOf ctx).uniqueId = ctx.uniqueId ∧
      (responseOf ctx).simId = ctx.simId := by
  induction h with
  | token rilReqId uniqueId simId => exact ⟨rfl, rfl, rfl⟩
  | answered _ hrun ih =>
      obtain ⟨rfl, hanswers⟩ := runHandler_some hrun
      simpa [responseOf, afterHandler, hanswers.rsp_eq] using ih

theorem structOf_respond {α : Type} [Packed α] {initial : α} (rsp : UrilProtocolMsg)
    (msgId : UInt32) (filled : Store initial) (followUp : Option RilReqId)
    (hsize : sizeof α ≤ maxUrilPayloadSize) :
    structOf α (respond rsp msgId filled followUp).rsp = filled.value := by
  have hle : (encode filled.value).length ≤ maxUrilPayloadSize := by
    rwa [Packed.length_encode]
  have htake := overwrite_toList_take rsp.payload hle
  have hsplit := List.take_append_drop (encode filled.value).length
    (overwrite rsp.payload (encode filled.value)).toList
  rw [htake] at hsplit
  change decode ((overwrite rsp.payload (encode filled.value)).toList ++ _) = _
  rw [← hsplit, List.append_assoc]
  exact Packed.decode_encode _ _

theorem structOf_fresh {α : Type} [Packed α] {rsp : UrilProtocolMsg} {blank : α}
    (hpayload : rsp.payload = zeros maxUrilPayloadSize) (hblank : Blank blank) :
    structOf α rsp = blank := by
  have hencode : encode blank = List.replicate (sizeof α) 0 := hblank
  have himage : rsp.payload.toList ++ List.replicate (sizeof α) 0 =
      encode blank ++ List.replicate maxUrilPayloadSize 0 := by
    rw [hpayload, hencode, zeros, Vector.toList_replicate, List.replicate_append_replicate,
      List.replicate_append_replicate, Nat.add_comm]
  rw [structOf, himage]
  exact Packed.decode_encode _ _

theorem blank_response : Blank (⟨0, 0⟩ : UrilResponse) := Blank.pair blank_uint32 blank_uint32

/-- The header of a response. -/
def responseFor (e : RilErrno) : UrilResponse where
  result := if e = .success then UrilResult.success else UrilResult.failure
  error := urilErrorOf e

end UnifiedRil.RilResponses

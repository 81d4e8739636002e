import UnifiedRil.Connection
import UnifiedRil.RilResponses
import UnifiedRil.SynchronousCommand

namespace UnifiedRil.ResponseFidelity

open UnifiedRil.Library.Bytes
open UnifiedRil.Library.Layout
open UnifiedRil.Protocol
open UnifiedRil.Messages
open UnifiedRil.Ril
open UnifiedRil.RilConversion
open UnifiedRil.RilHandlers
open UnifiedRil.RilAdapter
open UnifiedRil.RilResponses
open UnifiedRil.Client
open UnifiedRil.Connection
open UnifiedRil.SynchronousCommand

/-- Where the struct of a response is built. -/
inductive Builder
  | handler (rilReqId : RilReqId)
  | radioThread
  deriving DecidableEq

/-- The builder left this behind, in some state of its context and for some
answer that it accepts. -/
def Builds : Builder → Handled → Prop
  | .handler rilReqId, h => ∃ ctx ctx' e data u, Serving ctx ∧ ctx.rilReqId = rilReqId ∧
      runHandler ctx e data u = .ok (ctx', some h)
  | .radioThread, h => ∃ uid sid radioState, radioModeResponse uid sid radioState = .ok h

/-- The response fits in its message, and arrives as it was built. -/
structure Faithful (h : Handled) : Prop where
  inside : ∀ x ∈ h.extents, x.stop ≤ maxUrilPayloadSize
  len_le : h.rsp.len.toNat ≤ maxUrilPayloadSize
  /-- for a message sent whole to a client that waits for it, the callback is
  called once, and the bytes that `len` counts are those of the struct -/
  delivered : ∀ {φ δ : Type} (client : Context φ δ) (i : Fin urilMaxPendingOps) (cb : φ)
    (padding : Nat → UInt8) (count : Nat), sizeofMsg ≤ count →
    lookupPendingOp client.pendingOps h.rsp.uniqueId = some i →
    (client.pendingOps i).asyncRespCb = some cb →
    ∃ client' resp,
      receiveRoutine false client (sendMessage h.rsp padding count) =
        (client', [.response cb client.handle h.rsp.simId h.rsp.msgId resp maxUrilPayloadSize
          (client.pendingOps i).clientData]) ∧
      resp.toList.take h.rsp.len.toNat = h.structBytes
  readBack : ∀ (call : Nat) (y : Sync), y.respLen = h.structBytes.length →
    ∃ y', asyncCbStatement ⟨call, .copy, h.rsp.payload⟩ y = some (y', some .lock) ∧
      y'.resp = h.structBytes

/-- The size of the struct that is built. -/
def Builder.structSize : Builder → Nat
  | .handler rilReqId => RilResponses.structSize rilReqId
  | .radioThread => sizeof GetRadioModeResp

/-- The requests whose response structs are larger than a payload. -/
def Builder.isOversized : Builder → Bool
  | .handler .queryAvailableNetworks | .handler .setupDataCall | .handler .dataCallList => true
  | _ => false

theorem isOversized_iff (b : Builder) :
    b.isOversized = true ↔ maxUrilPayloadSize < b.structSize := by
  cases b with
  | radioThread => decide
  | handler rilReqId => cases rilReqId <;> exact of_decide_eq_true rfl

theorem structSize_lt (b : Builder) : b.structSize < 2 ^ 16 := by
  cases b with
  | radioThread => decide
  | handler rilReqId => cases rilReqId <;> exact of_decide_eq_true rfl

theorem radioModeResponse_answers {uid : UInt32} {sid : UInt8} {radioState : RadioState}
    {h : Handled} (hbuilt : radioModeResponse uid sid radioState = .ok h) :
    Answers { UrilProtocolMsg.zeroed with uniqueId := uid, simId := sid }
      MsgId.radioGetRadioMode (sizeof GetRadioModeResp) none h := by
  cases radioState with
  | other number => cases hbuilt
  | _ => cases hbuilt; exact answers_respond ..

/-- Whatever builds a response fills in a struct of its size over the payload
of a message that is no indication. -/
theorem builds_answers {b : Builder} {h : Handled} (hbuilt : Builds b h) :
    ∃ rsp msgId followUp, rsp.isIndication = 0 ∧ Answers rsp msgId b.structSize followUp h := by
  cases b with
  | handler rilReqId =>
      obtain ⟨ctx, ctx', e, data, u, hserving, rfl, hrun⟩ := hbuilt
      exact ⟨_, _, _, (responseOf_header hserving).1, (runHandler_some hrun).2⟩
  | radioThread =>
      obtain ⟨uid, sid, radioState, hrun⟩ := hbuilt
      exact ⟨_, _, _, rfl, radioModeResponse_answers hrun⟩

theorem answers_len {rsp : UrilProtocolMsg} {msgId : UInt32} {b : Builder}
    {followUp : Option RilReqId} {h : Handled}
    (hanswers : Answers rsp msgId b.structSize followUp h) :
    h.rsp.len.toNat = b.structSize := by
  rw [hanswers.rsp_eq]
  exact Nat.mod_eq_of_lt (structSize_lt b)

theorem answers_payload {rsp : UrilProtocolMsg} {msgId : UInt32} {size : Nat}
    {followUp : Option RilReqId} {h : Handled} (hanswers : Answers rsp msgId size followUp h)
    (hsize : size ≤ maxUrilPayloadSize) :
    h.rsp.payload.toList.take size = h.structBytes := by
  have hle : h.structBytes.length ≤ maxUrilPayloadSize := by rwa [hanswers.length]
  rw [hanswers.rsp_eq, ← hanswers.length]
  exact overwrite_toList_take _ hle

theorem receiveRoutine_response {φ δ : Type} {client : Context φ δ} {rsp : UrilProtocolMsg}
    {i : Fin urilMaxPendingOps} {cb : φ} {count : Nat} (padding : Nat → UInt8)
    (hcount : sizeofMsg ≤ count) (hind : rsp.isIndication = 0)
    (hlookup : lookupPendingOp client.pendingOps rsp.uniqueId = some i)
    (hcb : (client.pendingOps i).asyncRespCb = some cb) :
    (receiveRoutine false client (sendMessage rsp padding count)).2 =
      [.response cb client.handle rsp.simId rsp.msgId rsp.payload maxUrilPayloadSize
        (client.pendingOps i).clientData] := by
  rw [sendMessage_whole rsp padding hcount, receiveRoutine_image, handleReceive,
    if_neg (by simp [hind]), handleReceiveRsp_some hlookup, hcb]
  rfl

theorem faithful_of_fitting {rsp : UrilProtocolMsg} {msgId : UInt32} {b : Builder}
    {followUp : Option RilReqId} {h : Handled} (hind : rsp.isIndication = 0)
    (hanswers : Answers rsp msgId b.structSize followUp h)
    (hsize : b.structSize ≤ maxUrilPayloadSize) : Faithful h where
  inside x hx := (hanswers.fits x hx).trans hsize
  len_le := by rwa [answers_len hanswers]
  delivered client i cb padding count hcount hlookup hcb := by
    have hrsp : h.rsp.isIndication = 0 := by rw [hanswers.rsp_eq]; exact hind
    refine ⟨_, h.rsp.payload, Prod.ext rfl ?_, ?_⟩
    · exact receiveRoutine_response padding hcount hrsp hlookup hcb
    · rw [answers_len hanswers]
      exact answers_payload hanswers hsize
  readBack call y hy := by
    refine ⟨_, rfl, ?_⟩
    change h.rsp.payload.toList.take (min y.respLen maxUrilPayloadSize) = h.structBytes
    rw [hy, hanswers.length, min_eq_left hsize]
    exact answers_payload hanswers hsize

/-- A response is delivered as its handler built it if and only if its struct is
not one of the three that are larger than the payload. -/
theorem response_fidelity {b : Builder} {h : Handled} (hbuilt : Builds b h) :
    Faithful h ↔ b.isOversized = false := by
  obtain ⟨rsp, msgId, followUp, hind, hanswers⟩ := builds_answers hbuilt
  constructor
  · intro hfaithful
    have hlen := hfaithful.len_le
    rw [answers_len hanswers] at hlen
    exact Bool.eq_false_iff.mpr fun hover => absurd ((isOversized_iff b).mp hover) (by omega)
  · intro hfits
    have hover : ¬ maxUrilPayloadSize < b.structSize := by
      rw [← isOversized_iff, hfits]
      exact Bool.false_ne_true
    exact faithful_of_fitting hind hanswers (Nat.le_of_not_lt hover)

/-- The vendor prefers LTE. -/
def lteOnlyAnswer : RilData :=
  { dataLen := 4, bytes := encode PrefNetType.lteOnly, strings := fun _ => none
    readable := .inr rfl }

theorem response_fidelity_lteOnly : ∃ ctx' h,
    runHandler (makeTokenForMessage .getPreferredNetworkType 1 0) .success lteOnlyAnswer 0 =
        .ok (ctx', some h) ∧
      h.structBytes = encode ({ response := ⟨UrilResult.success, UrilError.success⟩
                                preferredNwModeFollows := 1
                                preferredNwMode := UrilNwPrefType.lteOnly } : GetPrefResp) ∧
      (Faithful h ↔ (Builder.handler .getPreferredNetworkType).isOversized = false) :=
  ⟨_, _, rfl, by decide, response_fidelity
    ⟨_, _, .success, lteOnlyAnswer, 0, .token .getPreferredNetworkType 1 0, rfl, rfl⟩⟩

/-- A data call without addresses, in the oldest layout. -/
def plainDataCall : RilData :=
  { dataLen := 56, bytes := List.replicate 56 0, strings := fun _ => none
    readable := .inr (by simp) }

/-- A data call that was set up: its response has a length of 2122, and the last
field is written behind the payload. -/
theorem setupDataCall_unfaithful : ∃ ctx' h,
    runHandler (makeTokenForMessage .setupDataCall 1 0) .success plainDataCall 0 =
        .ok (ctx', some h) ∧
      Builds (.handler .setupDataCall) h ∧ h.rsp.len = 2122 ∧
      (∃ x ∈ h.extents, maxUrilPayloadSize < x.stop) ∧ ¬ Faithful h := by
  refine ⟨_, _, rfl,
    ⟨_, _, .success, plainDataCall, 0, .token .setupDataCall 1 0, rfl, rfl⟩, rfl, ?_, ?_⟩
  · exact ⟨⟨2120, 2⟩, by decide, by decide⟩
  · intro hfaithful
    exact absurd hfaithful.len_le (by decide)

end UnifiedRil.ResponseFidelity

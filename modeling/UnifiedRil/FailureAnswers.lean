import UnifiedRil.AdapterCorrelation
import UnifiedRil.PendingContexts

namespace UnifiedRil.FailureAnswers

open UnifiedRil.Library.Bytes
open UnifiedRil.Library.Layout
open UnifiedRil.Library.Runs
open UnifiedRil.Protocol
open UnifiedRil.Messages
open UnifiedRil.Ril
open UnifiedRil.RilConversion
open UnifiedRil.RilHandlers
open UnifiedRil.RilAdapter
open UnifiedRil.RilResponses
open UnifiedRil.AdapterRuns
open UnifiedRil.AdapterInvariant
open UnifiedRil.AdapterCorrelation
open UnifiedRil.PendingContexts

section Header

variable {α : Type} [Packed α]

theorem encode_startStruct (response : Field α UrilResponse) (rsp : UrilProtocolMsg)
    (e : RilErrno) :
    encode (startStruct response rsp e).value =
      patch (encode (structOf α rsp)) response.offset (encode (responseFor e)) :=
  response.encode_set (structOf α rsp) (responseFor e)

theorem encode_structOf [LawfulPacked α] (rsp : UrilProtocolMsg) :
    encode (structOf α rsp) =
      (rsp.payload.toList ++ List.replicate (sizeof α) 0).take (sizeof α) :=
  LawfulPacked.encode_decode _ (by simp)

theorem overwrite_startStruct [LawfulPacked α] {response : Field α UrilResponse}
    (hoffset : response.offset = 0) (rsp : UrilProtocolMsg) (e : RilErrno) :
    overwrite rsp.payload (encode (startStruct response rsp e).value) =
      overwrite rsp.payload (encode (responseFor e)) := by
  have hfits : 0 + (encode (responseFor e)).length ≤ (encode (structOf α rsp)).length := by
    have hresponse := response.fits
    rw [hoffset] at hresponse
    simpa using hresponse
  ext i hi
  rw [encode_startStruct, hoffset, overwrite, overwrite, Vector.getElem_ofFn, Vector.getElem_ofFn,
    List.getD_eq_getElem?_getD, List.getD_eq_getElem?_getD, getElem?_patch hfits]
  split
  · rw [Nat.sub_zero]
  · rename_i hout
    have hbehind : (encode (responseFor e)).length ≤ i := by
      rw [Nat.zero_add] at hout
      exact Nat.not_lt.mp fun hlt => hout ⟨Nat.zero_le i, hlt⟩
    rw [List.getElem?_eq_none hbehind, encode_structOf, List.getElem?_take]
    split
    · have hpayload : i < rsp.payload.toList.length := by rwa [Vector.length_toList]
      rw [List.getElem?_append_left hpayload, List.getElem?_eq_getElem hpayload]
      rfl
    · rfl

end Header

/-- The response of a request that failed. -/
def failed (rilReqId : RilReqId) (rsp : UrilProtocolMsg) (e : RilErrno) : UrilProtocolMsg :=
  { rsp with
    msgId := responseMsgId rilReqId
    len := UInt16.ofNat (structSize rilReqId)
    payload := overwrite rsp.payload (encode (responseFor e)) }

theorem respond_failed {α : Type} [Packed α] [LawfulPacked α] {response : Field α UrilResponse}
    (hoffset : response.offset = 0) (rsp : UrilProtocolMsg) (msgId : UInt32) (e : RilErrno) :
    (respond rsp msgId (startStruct response rsp e) none).rsp =
      { rsp with
        msgId := msgId
        len := UInt16.ofNat (sizeof α)
        payload := overwrite rsp.payload (encode (responseFor e)) } := by
  rw [respond, overwrite_startStruct hoffset]

theorem responseHandler_failed {rilReqId : RilReqId} (hknown : ∀ number, rilReqId ≠ .other number)
    (rsp : UrilProtocolMsg) {e : RilErrno} (he : e ≠ .success) :
    ∃ handled, handled.rsp = failed rilReqId rsp e ∧ handled.followUp = none ∧
      ∀ data u, responseHandler rilReqId rsp e data u = some (.ok handled) := by
  cases rilReqId with
  | other number => exact absurd rfl (hknown number)
  | getPreferredNetworkType =>
      exact ⟨_, respond_failed rfl rsp _ e, rfl, fun _ _ => congrArg some (if_neg he)⟩
  | voiceRegistrationState =>
      exact ⟨_, respond_failed rfl rsp _ e, rfl, fun _ _ => congrArg some (if_neg he)⟩
  | dataRegistrationState =>
      exact ⟨_, respond_failed rfl rsp _ e, rfl, fun _ _ => congrArg some (if_neg he)⟩
  | operator =>
      exact ⟨_, respond_failed rfl rsp _ e, rfl, fun _ _ => congrArg some (if_neg he)⟩
  | queryAvailableNetworks =>
      exact ⟨_, respond_failed rfl rsp _ e, rfl, fun _ _ => congrArg some (if_neg he)⟩
  | signalStrength =>
      exact ⟨_, respond_failed rfl rsp _ e, rfl, fun _ _ => congrArg some (if_neg he)⟩
  | setupDataCall =>
      exact ⟨_, respond_failed rfl rsp _ e, rfl, fun _ _ => congrArg some (if_neg he)⟩
  | dataCallList =>
      exact ⟨_, respond_failed rfl rsp _ e, rfl, fun _ _ => congrArg some (if_neg he)⟩
  | _ => exact ⟨_, respond_failed rfl rsp _ e, rfl, fun _ _ => rfl⟩

theorem urilErrorOf_ne_success {e : RilErrno} (he : e ≠ .success) :
    urilErrorOf e ≠ UrilError.success := by
  cases e with
  | success => exact absurd rfl he
  | other number =>
      change UrilError.genericFailure ≠ UrilError.success
      decide
  | _ => decide

/-- The response reports an error, and is otherwise what the context had. -/
structure ReportsFailure (ctx : RilRequestContext) (rsp : UrilProtocolMsg) : Prop where
  header : ∃ response : UrilResponse,
    response.result = UrilResult.failure ∧ response.error ≠ UrilError.success ∧
      rsp =
        { responseOf ctx with
          msgId := rsp.msgId
          len := rsp.len
          payload := overwrite (responseOf ctx).payload (encode response) }
  /-- only the later requests of a chain find a response that is not zero -/
  blank : ctx.rilReqId ∉ laterRequests → (responseOf ctx).payload = zeros maxUrilPayloadSize

theorem reportsFailure_failed {ctx : RilRequestContext} (h : Pending ctx) {e : RilErrno}
    (he : e ≠ .success) : ReportsFailure ctx (failed ctx.rilReqId (responseOf ctx) e) where
  header := ⟨responseFor e, if_neg he, urilErrorOf_ne_success he, rfl⟩
  blank hfirst := by
    rw [responseOf_fresh (h.fresh hfirst)]
    rfl

/-- The state after an answer that completes a context: nothing is sent, and the
context is gone. -/
structure Completes (s t : State) (submission : Nat × RilReqId) (entry : Entry) (answer : Answer)
    (rsp : UrilProtocolMsg) : Prop where
  released : t.contexts submission.1 = none
  outstanding : t.outstanding = s.outstanding.erase submission
  followUps : t.followUps = s.followUps
  log : t.log =
    .released submission.1 ::
      .emitted submission.1 entry.request (entry.answers ++ [answer]) rsp ::
        .used submission.1 true :: s.log

/-- In every state that is reached, a failure is answered in one way. -/
theorem failure_ignores_data {s : State} (hrun : Reaches step anyAction State.initial s)
    {submission : Nat × RilReqId} (hmem : submission ∈ s.outstanding) {entry : Entry}
    (hentry : s.contexts submission.1 = some entry) {e : RilErrno} (he : e ≠ .success) :
    ∃ rsp, ReportsFailure entry.ctx rsp ∧
      ∀ data u address, (entry.ctx.rsp.isSome ∨ s.isFree address) →
        ∃ t, s.answer submission ⟨e, data⟩ u address = some (t, some rsp) ∧
          Completes s t submission entry ⟨e, data⟩ rsp := by
  have hpending : Pending entry.ctx := allPending_of_run hrun submission.1 entry hentry
  obtain ⟨handled, hrsp, hlast, hhandler⟩ :=
    responseHandler_failed hpending.known (responseOf entry.ctx) he
  refine ⟨handled.rsp, ?_, fun data u address hplace => ?_⟩
  · rw [hrsp]
    exact reportsFailure_failed hpending he
  · have hrunHandler : runHandler entry.ctx e data u =
        .ok (afterHandler entry.ctx handled, some handled) := by
      rw [runHandler, hhandler data u]
      rfl
    have hcompleted : completedResponse (afterHandler entry.ctx handled) (some handled) =
        some handled.rsp := by
      rw [completedResponse_afterHandler, hlast]
      rfl
    unfold State.answer
    rw [if_pos hmem]
    dsimp only
    rw [hentry]
    dsimp only
    rw [hrunHandler]
    have hroom : entry.ctx.rsp.isSome ∨
        { s with outstanding := s.outstanding.erase submission }.isFree
          (if entry.ctx.rsp.isNone then address else entry.address) := by
      cases hrsp' : entry.ctx.rsp with
      | none =>
          rw [hrsp'] at hplace
          exact hplace
      | some before => exact .inl rfl
    rw [if_pos hroom]
    unfold State.settle
    dsimp only
    rw [hcompleted]
    refine ⟨_, rfl, ?_, rfl, ?_, rfl⟩
    · dsimp only
      rw [Function.update_self]
    · rw [Option.bind_some, hlast]
      exact List.append_nil _

/-- A registration request in the middle of its chain. -/
def chainActions : List Action :=
  [.request (plainRequest MsgId.nwGetRegistrationStatus 1),
    .answer (0, .voiceRegistrationState) (bare .success) 0 6208,
    .followUp (0, .dataRegistrationState)]

def midChain (s : State) : Bool :=
  s.outstanding = [(0, .dataRegistrationState)] ∧ (s.contexts 0).isSome

theorem failure_ignores_data_chain : ∃ s entry, Reaches step anyAction State.initial s ∧
    s.contexts 0 = some entry ∧
      ∃ rsp, ReportsFailure entry.ctx rsp ∧
        ∀ data u address, (entry.ctx.rsp.isSome ∨ s.isFree address) →
          ∃ t, s.answer (0, .dataRegistrationState) ⟨.other 2, data⟩ u address =
              some (t, some rsp) ∧
            Completes s t (0, .dataRegistrationState) entry ⟨.other 2, data⟩ rsp := by
  obtain ⟨s, hrun, hs⟩ := exists_run step State.initial chainActions midChain (by decide)
  simp only [midChain, decide_eq_true_eq] at hs
  obtain ⟨entry, hentry⟩ := Option.isSome_iff_exists.mp hs.2
  have hmem : (0, RilReqId.dataRegistrationState) ∈ s.outstanding := by
    rw [hs.1]
    exact List.mem_cons_self
  exact ⟨s, entry, hrun, hentry, failure_ignores_data hrun hmem hentry nofun⟩

end UnifiedRil.FailureAnswers

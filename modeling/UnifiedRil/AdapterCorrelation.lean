import Mathlib.Data.List.Nodup
import UnifiedRil.AdapterInvariant

namespace UnifiedRil.AdapterCorrelation

open UnifiedRil.Library.Bytes
open UnifiedRil.Library.Layout
open UnifiedRil.Library.Runs
open UnifiedRil.Protocol
open UnifiedRil.Messages
open UnifiedRil.Ril
open UnifiedRil.RilAdapter
open UnifiedRil.RilHandlers
open UnifiedRil.AdapterRuns
open UnifiedRil.AdapterInvariant

/-- What the accepted requests are promised. -/
structure Correlated (s : State) : Prop where
  submitted : ∀ request submissions, .accepted request submissions ∈ s.log →
    ∃ token v, submissions = [(token, v)]
  fresh : (made s.log).Nodup
  /-- a context waits for an answer, for three answers in all at most, or it
  has emitted its response and is gone -/
  once : ∀ token ∈ made s.log,
    (∃ entry, s.contexts token = some entry ∧ entry.answers.length < 3 ∧
      s.obligations token = 1 ∧ emissions token s.log = 0 ∧ releases token s.log = 0) ∨
    (s.contexts token = none ∧ s.obligations token = 0 ∧
      emissions token s.log = 1 ∧ releases token s.log = 1)
  unusedAfter : ∀ token, .used token false ∉ s.log
  emitted : ∀ token request answers rsp, .emitted token request answers rsp ∈ s.log →
    (∃ v, .accepted request [(token, v)] ∈ s.log) ∧
    rsp.isIndication = 0 ∧ rsp.msgId = request.msgId ∧ rsp.uniqueId = request.uniqueId ∧
    rsp.simId = request.simId ∧
    ∀ alone, alone.map (·.1) = answers → ∃ ctx rsp',
      serveAlone request alone = some (ctx, some rsp') ∧ rsp.payload = rsp'.payload

theorem once_of_inv {s : State} (h : Inv s) {token : Nat} (htoken : token ∈ made s.log) :
    (∃ entry, s.contexts token = some entry ∧ entry.answers.length < 3 ∧
      s.obligations token = 1 ∧ emissions token s.log = 0 ∧ releases token s.log = 0) ∨
    (s.contexts token = none ∧ s.obligations token = 0 ∧
      emissions token s.log = 1 ∧ releases token s.log = 1) := by
  rw [h.made_eq, List.mem_reverse, List.mem_range] at htoken
  have hsum := h.emissions_eq token
  rw [if_pos htoken] at hsum
  rw [h.obligations, h.releases_eq]
  cases he : s.contexts token with
  | none =>
      rw [lives_none he] at hsum ⊢
      exact .inr ⟨rfl, rfl, hsum, hsum⟩
  | some entry =>
      rw [lives_some he] at hsum ⊢
      have hnone : emissions token s.log = 0 := by omega
      have hbounded := (h.entry _ _ he).bounded
      have hpos := answersLeft_pos entry.ctx.rilReqId
      exact .inl ⟨entry, rfl, by omega, rfl, hnone, hnone⟩

/-- In a run with sound answers every request is served once, and as if it were
alone. -/
theorem adapter_correlation {s : State} (hrun : Reaches step SoundAnswer State.initial s) :
    Correlated s := by
  have h := inv_of_run hrun
  refine ⟨h.accepted, ?_, fun token htoken => once_of_inv h htoken, h.used, ?_⟩
  · rw [h.made_eq]
    exact List.nodup_reverse.mpr List.nodup_range
  · intro token request answers rsp hmem
    have hemitted := h.emitted token request answers rsp hmem
    obtain ⟨ctx, halone⟩ := hemitted.alone
    exact ⟨hemitted.made, hemitted.header.isIndication, hemitted.msgId,
      hemitted.header.uniqueId, hemitted.header.simId,
      fun alone hanswers => ⟨ctx, rsp, halone alone hanswers, rfl⟩⟩

/-- The test of `SoundAnswer`. -/
def soundTest (s : State) : Action → Bool
  | .answer submission answer _ _ =>
      (s.contexts submission.1).all fun entry => isSound entry.ctx.rilReqId answer
  | _ => true

theorem soundTest_sound (s : State) (action : Action) (h : soundTest s action = true) :
    SoundAnswer s action := by
  cases action with
  | answer submission answer u address =>
      intro entry hentry
      rw [soundTest, hentry] at h
      exact h
  | request msg => trivial
  | followUp thread => trivial

/-- A request without arguments. -/
def plainRequest (msgId uniqueId : UInt32) : UrilProtocolMsg :=
  { UrilProtocolMsg.zeroed with msgId := msgId, uniqueId := uniqueId }

/-- An answer without data. -/
def bare (error : RilErrno) : Answer := ⟨error, .null⟩

/-- A registration request that is answered in three steps, and a screen state
request in the middle of it. -/
def interleavedActions : List Action :=
  [.request (plainRequest MsgId.nwGetRegistrationStatus 1),
    .answer (0, .voiceRegistrationState) (bare .success) 0 6208,
    .request (plainRequest MsgId.nwSetScreen 2),
    .followUp (0, .dataRegistrationState),
    .answer (0, .dataRegistrationState) (bare .success) 0 0,
    .answer (1, .screenState) (bare .success) 0 4096,
    .followUp (0, .operator),
    .answer (0, .operator) (bare (.other 2)) 0 0]

theorem adapter_correlation_interleaved : ∃ s, Reaches step SoundAnswer State.initial s ∧
    Correlated s ∧ emissions 0 s.log = 1 ∧ emissions 1 s.log = 1 := by
  obtain ⟨s, hrun, hs⟩ := exists_reaches_of_exec step soundTest soundTest_sound State.initial
    interleavedActions (fun s => decide (emissions 0 s.log = 1 ∧ emissions 1 s.log = 1))
    (by decide)
  exact ⟨s, hrun, adapter_correlation hrun, of_decide_eq_true hs⟩

/-! A data call is set up while a registration request waits for its second
answer. The mtu of the call is written into the response of the other. -/

/-- A data call with an mtu of 1500, in the newest layout. -/
def callWithMtu : RilData :=
  { dataLen := 72
    bytes := List.replicate 64 0 ++ [0xdc, 0x05] ++ List.replicate 6 0
    strings := fun _ => none
    readable := .inr (by simp) }

def overrunActions : List Action :=
  [.request (plainRequest MsgId.nwGetRegistrationStatus 1),
    .request (plainRequest MsgId.dataSetupDataCall 2),
    .answer (0, .voiceRegistrationState) (bare .success) 0 6208,
    .followUp (0, .dataRegistrationState),
    .answer (1, .setupDataCall) ⟨.success, callWithMtu⟩ 0 4096,
    .answer (0, .dataRegistrationState) (bare (.other 2)) 0 0]

def handledOf (run : Except Fault (RilRequestContext × Option Handled)) : Handled :=
  match run with
  | .ok (_, some h) => h
  | _ => ⟨.zeroed, [], [], none⟩

def callHandled : Handled :=
  handledOf (runHandler (makeTokenForMessage .setupDataCall 2 0) .success callWithMtu 0)

def voiceHandled : Handled :=
  handledOf (runHandler (makeTokenForMessage .voiceRegistrationState 1 0) .success .null 0)

/-- The response of the registration request after the data call. -/
def overrunResponse : UrilProtocolMsg :=
  overwritten (fun a => storedByte callHandled 4096 a) 6208 voiceHandled.rsp

/-- The response after a failure of the data registration. -/
def failedResponse (rsp : UrilProtocolMsg) : UrilProtocolMsg :=
  (respond rsp MsgId.nwGetRegistrationStatus
    (startStruct GetRegistrationStatusResp.responseField rsp (.other 2)) none).rsp

theorem callHandled_stored : storedByte callHandled 4096 (6208 + (payloadOffset + 8)) =
    some 0xdc := by
  obtain ⟨a, b, h⟩ : ∃ a b, callHandled.structBytes =
      encode (SetupDataCallResp.dataCallField.set a (DataCallInfo.mtuField.set b 1500)) :=
    ⟨_, _, rfl⟩
  rw [storedByte, if_pos (by decide), h]
  have hcall := SetupDataCallResp.dataCallField.getElem?_encode_set a
    (DataCallInfo.mtuField.set b 1500) (i := DataCallInfo.mtuField.offset + 0) (by decide)
  have hmtu := DataCallInfo.mtuField.getElem?_encode_set b (1500 : UInt16) (i := 0) (by decide)
  exact hcall.trans hmtu

theorem overwritten_payload (stored : Nat → Option UInt8) (address : Nat)
    (msg : UrilProtocolMsg) (i : Nat) (hi : i < maxUrilPayloadSize) :
    (overwritten stored address msg).payload[i] =
      (stored (address + (payloadOffset + i))).getD msg.payload[i] := by
  have himage : (msg.image fun _ => 0)[payloadOffset + i]? = some msg.payload[i] := by
    rw [← List.getElem?_drop, ← List.getElem?_take_of_lt hi]
    change (slice _ _ _)[i]? = _
    rw [slice_image_payload]
    simp
  simp [overwritten, UrilProtocolMsg.ofImage, overwrite, slice, himage]

theorem gsmFollows_encode (status : GetRegistrationStatusResp) :
    (encode status)[8]? = some status.nwCellIdentityGsmFollows := by
  have hfield := GetRegistrationStatusResp.nwCellIdentityGsmFollowsField.encode_get status
  have hslice : (slice (encode status) 8 1)[0]? = (encode status)[8]? := by
    rw [slice, List.getElem?_take_of_lt Nat.one_pos, List.getElem?_drop]
  rw [← hslice]
  exact (congrArg (·[0]?) hfield).symm

theorem structOf_gsmFollows (rsp : UrilProtocolMsg) :
    (structOf GetRegistrationStatusResp rsp).nwCellIdentityGsmFollows = rsp.payload[8] := by
  have hlt : 8 < rsp.payload.toList.length := by
    rw [Vector.length_toList]
    decide
  change ((rsp.payload.toList ++ _).drop 8).getD 0 0 = _
  rw [List.getD_eq_getElem?_getD, List.getElem?_drop, List.getElem?_append_left hlt,
    List.getElem?_eq_getElem hlt, Option.getD_some, Vector.getElem_toList]

theorem failedResponse_payload (rsp : UrilProtocolMsg) :
    (failedResponse rsp).payload[8] = rsp.payload[8] := by
  have hbyte := gsmFollows_encode
    (startStruct GetRegistrationStatusResp.responseField rsp (.other 2)).value
  change (Vector.ofFn _)[8] = _
  rw [Vector.getElem_ofFn, List.getD_eq_getElem?_getD, hbyte]
  exact structOf_gsmFollows rsp

/-- The responses in a log. -/
def emittedOf (log : List Event) : List (Nat × UrilProtocolMsg × List Answer × UrilProtocolMsg) :=
  log.filterMap fun
    | .emitted token request answers rsp => some (token, request, answers, rsp)
    | _ => none

theorem mem_emittedOf {log : List Event} {token : Nat} {request rsp : UrilProtocolMsg}
    {answers : List Answer} (h : (token, request, answers, rsp) ∈ emittedOf log) :
    .emitted token request answers rsp ∈ log := by
  obtain ⟨event, hmem, heq⟩ := List.mem_filterMap.mp h
  cases event with
  | emitted => cases heq; exact hmem
  | _ => cases heq

/-- The registration request reports a GSM cell identity that no answer to it
contained. -/
theorem setupDataCall_uncorrelated : ∃ s, Reaches step anyAction State.initial s ∧
    ¬ Correlated s := by
  obtain ⟨s, hexec, hemitted⟩ : ∃ s,
      exec step (fun _ _ => true) State.initial overrunActions = some s ∧
      emittedOf s.log =
        [(0, plainRequest MsgId.nwGetRegistrationStatus 1, [bare .success, bare (.other 2)],
            failedResponse overrunResponse),
          (1, plainRequest MsgId.dataSetupDataCall 2, [⟨.success, callWithMtu⟩],
            callHandled.rsp)] := ⟨_, rfl, rfl⟩
  refine ⟨s, reaches_of_exec _ (fun _ _ _ => trivial) overrunActions hexec, fun h => ?_⟩
  have hmem := mem_emittedOf (hemitted ▸ List.mem_cons_self)
  obtain ⟨-, -, -, -, -, halone⟩ := h.emitted _ _ _ _ hmem
  obtain ⟨ctx, rsp, hrsp, hpayload⟩ :=
    halone [(bare .success, 0), (bare (.other 2), 0)] rfl
  obtain ⟨ctx', hserved⟩ : ∃ ctx', serveAlone (plainRequest MsgId.nwGetRegistrationStatus 1)
      [(bare .success, 0), (bare (.other 2), 0)] =
        some (ctx', some (failedResponse voiceHandled.rsp)) := ⟨_, rfl⟩
  rw [hserved, Option.some.injEq, Prod.mk.injEq, Option.some.injEq] at hrsp
  rw [← hrsp.2] at hpayload
  have hbyte : overrunResponse.payload[8] = voiceHandled.rsp.payload[8] := by
    rw [← failedResponse_payload, hpayload, failedResponse_payload]
  have hvoice : voiceHandled.rsp.payload[8] = 0 := by decide +kernel
  rw [overrunResponse, overwritten_payload, callHandled_stored, hvoice] at hbyte
  exact absurd hbyte (by decide)

end UnifiedRil.AdapterCorrelation

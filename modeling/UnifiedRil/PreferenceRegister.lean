import UnifiedRil.AdapterCorrelation
import UnifiedRil.Library.Registers
import UnifiedRil.RequestMeaning

namespace UnifiedRil.PreferenceRegister

open UnifiedRil.Library.Bytes
open UnifiedRil.Library.Layout
open UnifiedRil.Library.Registers
open UnifiedRil.Library.Results
open UnifiedRil.Library.Runs
open UnifiedRil.Protocol
open UnifiedRil.Messages
open UnifiedRil.Ril
open UnifiedRil.RilConversion
open UnifiedRil.RilHandlers
open UnifiedRil.RilAdapter
open UnifiedRil.RilResponses
open UnifiedRil.RequestProcessors
open UnifiedRil.RequestMeaning (forall_upTo nwPref_readBack storedMode composite_takes)
open UnifiedRil.ConversionDomains (rilNwPref_succeeds urilNwPref_succeeds)
open UnifiedRil.AdapterRuns
open UnifiedRil.AdapterInvariant
open UnifiedRil.AdapterCorrelation (soundTest soundTest_sound plainRequest bare)

/-- What an application learns from a response that reports success. -/
def clientAccess (request rsp : UrilProtocolMsg) : Option (Access UInt32) :=
  if (requestOf UrilResponse rsp.payload).result = UrilResult.success then
    if request.msgId = MsgId.nwSetPref then some (.wrote (requestOf UInt32 request.payload))
    else if request.msgId = MsgId.nwGetPref then
      some (.got (requestOf GetPrefResp rsp.payload).preferredNwMode)
    else none
  else none

/-- The request to the vendor that a message leads to. -/
def vendorRequestOf (request : UrilProtocolMsg) : Option VendorRequest :=
  match processRequest request with
  | .ok ⟨[.submit _ v], true⟩ => some v
  | _ => none

/-- What the vendor does where its answer reports success. -/
def vendorAccess (request : UrilProtocolMsg) : List Answer → Option (Access UInt32)
  | [answer] =>
      if answer.error = .success then
        match vendorRequestOf request with
        | some ⟨.setPreferredNetworkType, .int mode, _⟩ => some (.wrote mode)
        | some ⟨.getPreferredNetworkType, _, _⟩ => (answer.data.int 0).toOption.map .got
        | _ => none
      else none
  | _ => none

/-- The accesses of the requests that are completed, oldest first. -/
def accesses (seen : UrilProtocolMsg → List Answer → UrilProtocolMsg → Option (Access UInt32))
    (log : List Event) : List (Access UInt32) :=
  log.reverse.filterMap fun
    | .emitted _ request answers rsp => seen request answers rsp
    | _ => none

def clientAccesses : List Event → List (Access UInt32) :=
  accesses fun request _ rsp => clientAccess request rsp

def vendorAccesses : List Event → List (Access UInt32) :=
  accesses fun request answers _ => vendorAccess request answers

/-- The mode of the applications for a mode of the vendor. -/
def modeOf (rilMode : UInt32) : UInt32 := (storedMode rilMode).getD 0

theorem foldl_aloneStep_none (l : List (Answer × UInt32)) : l.foldl aloneStep none = none := by
  induction l with
  | nil => rfl
  | cons answer l ih => exact ih

theorem serveAlone_single {request : UrilProtocolMsg} {ctx₀ ctx : RilRequestContext}
    {v : VendorRequest} {l : List (Answer × UInt32)} {rsp : UrilProtocolMsg}
    (hrequest : processRequest request = .ok ⟨[.submit ctx₀ v], true⟩)
    (hknown : ∀ number, ctx₀.rilReqId ≠ .other number)
    (honce : ∀ e, nextRequest ctx₀.rilReqId e = none)
    (h : serveAlone request l = some (ctx, some rsp)) :
    ∃ answer u hd, l = [(answer, u)] ∧ hd.rsp = rsp ∧
      responseHandler ctx₀.rilReqId (responseOf ctx₀) answer.error answer.data u =
        some (.ok hd) := by
  rw [serveAlone, initialContext_submitted hrequest, Option.map_some] at h
  rcases l with _ | ⟨⟨answer, u⟩, rest⟩
  · cases h
  rw [List.foldl_cons] at h
  cases hrun : runHandler ctx₀ answer.error answer.data u with
  | error fault =>
      simp only [aloneStep, hrun, foldl_aloneStep_none] at h
      cases h
  | ok r =>
      obtain ⟨ctx', handled⟩ := r
      obtain ⟨hd, rfl⟩ := runHandler_known hknown hrun
      obtain ⟨rfl, hanswers⟩ := runHandler_some hrun
      have hlast : hd.followUp = none := hanswers.followUp_eq.trans (honce _)
      simp only [aloneStep, hrun, completedResponse_afterHandler, hlast, Option.isNone_none,
        if_true] at h
      rcases rest with _ | ⟨answer', rest⟩
      · rw [List.foldl_nil, Option.some.injEq, Prod.mk.injEq, Option.some.injEq] at h
        exact ⟨answer, u, hd, rfl, h.2, (runHandler_handled hrun).1⟩
      · rw [List.foldl_cons] at h
        simp only [aloneStep, foldl_aloneStep_none] at h
        cases h

theorem serveAlone_submitted {request : UrilProtocolMsg} {l : List (Answer × UInt32)}
    {r : RilRequestContext × Option UrilProtocolMsg} (h : serveAlone request l = some r) :
    ∃ v, processRequest request =
        .ok ⟨[.submit (makeTokenForMessage v.request request.uniqueId request.simId) v], true⟩ ∧
      (∀ number, v.request ≠ .other number) ∧ responseMsgId v.request = request.msgId := by
  cases hctx : initialContext request with
  | none =>
      rw [serveAlone, hctx, Option.map_none, foldl_aloneStep_none] at h
      cases h
  | some ctx =>
      cases hrequest : processRequest request with
      | error fault =>
          rw [initialContext, hrequest] at hctx
          cases hctx
      | ok p =>
          rcases processRequest_outcome request p hrequest with _ | hradio | ⟨v, hknown, hid⟩
          · rw [initialContext, hrequest] at hctx
            cases hctx
          · rw [initialContext, hrequest] at hctx
            cases hctx
          · exact ⟨v, rfl, hknown, hid⟩

theorem vendorRequestOf_submitted {request : UrilProtocolMsg} {ctx : RilRequestContext}
    {v : VendorRequest} (h : processRequest request = .ok ⟨[.submit ctx v], true⟩) :
    vendorRequestOf request = some v := by
  rw [vendorRequestOf, h]

theorem vendorRequest_setPref {request : UrilProtocolMsg} {ctx : RilRequestContext}
    {v : VendorRequest} (hid : request.msgId = MsgId.nwSetPref)
    (h : processRequest request = .ok ⟨[.submit ctx v], true⟩) :
    ∃ rilMode, urilNwPrefToRilNwPref (requestOf UInt32 request.payload) = .ok rilMode ∧
      v = ⟨.setPreferredNetworkType, .int rilMode, 4⟩ := by
  have hnetwork : networkMessageProcessor request =
      setNetworkPreferenceV1 request.payload request.uniqueId request.simId := by
    rw [networkMessageProcessor, if_pos hid]
  cases hmode : urilNwPrefToRilNwPref (requestOf UInt32 request.payload) with
  | error fault =>
      rw [processRequest, compositeRequestProcessor, hnetwork, setNetworkPreferenceV1, hmode] at h
      cases h
  | ok rilMode =>
      rw [setNetworkPreferenceV1, hmode] at hnetwork
      rw [processRequest, composite_takes hnetwork] at h
      cases h
      exact ⟨rilMode, rfl, rfl⟩

theorem request_of_responseMsgId {rilReqId : RilReqId}
    (hknown : ∀ number, rilReqId ≠ .other number)
    (h : responseMsgId rilReqId = MsgId.nwGetPref) : rilReqId = .getPreferredNetworkType := by
  cases rilReqId with
  | getPreferredNetworkType => rfl
  | other number => exact absurd rfl (hknown number)
  | _ => exact absurd h (by decide)

theorem requestOf_overwrite {α : Type} [Packed α] (payload : Payload) (a : α)
    (rest : List UInt8) (hfits : sizeof α + rest.length ≤ maxUrilPayloadSize) :
    requestOf α (overwrite payload (encode a ++ rest)) = a := by
  have hlength : (encode a ++ rest).length ≤ maxUrilPayloadSize := by
    rwa [List.length_append, Packed.length_encode]
  rw [requestOf, overwrite_toList_append _ hlength, List.append_assoc, Packed.decode_encode]

theorem setPref_result {rsp : UrilProtocolMsg} {e : RilErrno} {hd : Handled}
    (h : handleRilSetNetworkPrefResponseV1 rsp e = .ok hd) :
    (requestOf UrilResponse hd.rsp.payload).result = (responseFor e).result := by
  cases h
  have hread := requestOf_overwrite rsp.payload (responseFor e) [] (by decide)
  rw [List.append_nil] at hread
  exact congrArg UrilResponse.result hread

theorem getPref_result {rsp : UrilProtocolMsg} {e : RilErrno} {data : RilData} {hd : Handled}
    (h : handleRilGetNetworkPrefResponseV1 rsp e data = .ok hd) :
    (requestOf UrilResponse hd.rsp.payload).result = (responseFor e).result ∧
      (e = .success → ∃ rilMode, data.int 0 = .ok rilMode ∧
        rilNwPrefToUrilNwPref rilMode =
          .ok (requestOf GetPrefResp hd.rsp.payload).preferredNwMode) := by
  have hstart : ∀ filled : GetPrefResp, ∀ payload : Payload,
      requestOf UrilResponse (overwrite payload (encode filled)) = filled.response := by
    intro filled payload
    exact requestOf_overwrite payload filled.response
      (encode (filled.preferredNwModeFollows, filled.preferredNwMode)) (by simp; decide)
  have hwhole : ∀ filled : GetPrefResp, ∀ payload : Payload,
      requestOf GetPrefResp (overwrite payload (encode filled)) = filled := by
    intro filled payload
    have hread := requestOf_overwrite payload filled [] (by decide)
    rwa [List.append_nil] at hread
  unfold handleRilGetNetworkPrefResponseV1 at h
  by_cases he : e = .success
  · rw [if_pos he] at h
    cases hdata : data.int 0 with
    | error fault => rw [hdata] at h; cases h
    | ok rilMode =>
        rw [hdata] at h
        cases hmode : rilNwPrefToUrilNwPref rilMode with
        | error fault => simp only [ok_bind, hmode] at h; cases h
        | ok mode =>
            simp only [ok_bind, hmode] at h
            cases h
            refine ⟨congrArg UrilResponse.result (hstart _ _), fun _ => ⟨rilMode, rfl, ?_⟩⟩
            refine hmode.trans (congrArg Except.ok ?_)
            symm
            exact congrArg GetPrefResp.preferredNwMode (hwhole _ _)
  · rw [if_neg he] at h
    cases h
    exact ⟨congrArg UrilResponse.result (hstart _ _), fun hsuccess => absurd hsuccess he⟩

theorem responseFor_success {e : RilErrno} :
    (responseFor e).result = UrilResult.success ↔ e = .success := by
  rw [responseFor]
  by_cases he : e = .success
  · exact iff_of_true (if_pos he) he
  · refine iff_of_false (fun hresult => ?_) he
    exact absurd ((if_neg he).symm.trans hresult) (by decide)

theorem modeOf_eq {rilMode mode : UInt32} (h : rilNwPrefToUrilNwPref rilMode = .ok mode) :
    modeOf rilMode = mode := by
  rw [modeOf, storedMode, h]
  rfl

theorem rilMode_le {rilMode mode : UInt32} (h : rilNwPrefToUrilNwPref rilMode = .ok mode) :
    rilMode ≤ PrefNetType.lteWcdma :=
  rilNwPref_succeeds.mp (h ▸ succeeds_ok mode)

/-- A value that is handed to the vendor is translated back to the one it was
made of. -/
theorem modeOf_converted {mode rilMode : UInt32}
    (h : urilNwPrefToRilNwPref mode = .ok rilMode) :
    rilNwPrefToUrilNwPref rilMode = .ok mode := by
  have hmode : mode ≤ UrilNwPrefType.lteWcdma := urilNwPref_succeeds.mp (h ▸ succeeds_ok rilMode)
  obtain ⟨rilMode', hconverted, hread⟩ := nwPref_readBack hmode
  obtain rfl : rilMode' = rilMode := Except.ok.inj (hconverted.symm.trans h)
  unfold storedMode at hread
  cases hback : rilNwPrefToUrilNwPref rilMode' with
  | error fault => rw [hback] at hread; cases hread
  | ok stored =>
      rw [hback] at hread
      cases hread
      rfl

theorem clientAccess_eq {request rsp : UrilProtocolMsg} {answers : List Answer}
    {ctx : RilRequestContext} (h : LeadsAlone request answers (ctx, some rsp)) :
    clientAccess request rsp = (vendorAccess request answers).map (Access.map modeOf) ∧
      ∀ access ∈ vendorAccess request answers, access.value ≤ PrefNetType.lteWcdma := by
  have hserved := h (answers.map (·, 0)) (by rw [List.map_map]; exact List.map_id _)
  obtain ⟨v, hrequest, hknown, hid⟩ := serveAlone_submitted hserved
  have hvendor := vendorRequestOf_submitted hrequest
  by_cases hset : request.msgId = MsgId.nwSetPref
  · obtain ⟨rilMode, hmode, rfl⟩ := vendorRequest_setPref hset hrequest
    obtain ⟨answer, u, hd, hl, rfl, hhandler⟩ :=
      serveAlone_single hrequest hknown (fun _ => rfl) hserved
    obtain rfl : answers = [answer] := by simpa using congrArg (List.map Prod.fst) hl
    have hresult := setPref_result (Option.some.inj hhandler)
    have hback := modeOf_converted hmode
    simp only [clientAccess, vendorAccess, hresult, responseFor_success, hset, if_true, hvendor]
    split
    · exact ⟨by simp [Access.map, modeOf_eq hback], by simpa [Access.value] using rilMode_le hback⟩
    · exact ⟨rfl, by simp⟩
  · by_cases hget : request.msgId = MsgId.nwGetPref
    · have hv := request_of_responseMsgId hknown (hid.trans hget)
      obtain ⟨answer, u, hd, hl, rfl, hhandler⟩ := serveAlone_single hrequest hknown
        (fun _ => by simp [makeTokenForMessage, hv, nextRequest]) hserved
      obtain rfl : answers = [answer] := by simpa using congrArg (List.map Prod.fst) hl
      simp only [makeTokenForMessage, hv, responseHandler] at hhandler
      obtain ⟨hresult, hread⟩ := getPref_result (Option.some.inj hhandler)
      obtain ⟨vrequest, data, dataLen⟩ := v
      obtain rfl : vrequest = .getPreferredNetworkType := hv
      simp only [clientAccess, vendorAccess, hresult, responseFor_success, hget, hvendor]
      split
      · rename_i hsuccess
        obtain ⟨rilMode, hdata, hmode⟩ := hread hsuccess
        have hother : ¬ MsgId.nwGetPref = MsgId.nwSetPref := by decide
        rw [hdata]
        exact ⟨by simp [hother, Except.toOption, Access.map, modeOf_eq hmode],
          by simpa [Except.toOption, Access.value] using rilMode_le hmode⟩
      · exact ⟨rfl, by simp⟩
    · have hnone : vendorAccess request answers = none := by
        unfold vendorAccess
        split
        · split
          · rw [hvendor]
            split
            · rename_i heq
              obtain rfl := Option.some.inj heq
              exact absurd hid.symm hset
            · rename_i heq
              obtain rfl := Option.some.inj heq
              exact absurd hid.symm hget
            · rfl
          · rfl
        · rfl
      simp [clientAccess, hset, hget, hnone]

theorem accesses_eq {seen seen' : UrilProtocolMsg → List Answer → UrilProtocolMsg →
    Option (Access UInt32)} {f : Access UInt32 → Access UInt32} {log : List Event}
    (h : ∀ token request answers rsp, .emitted token request answers rsp ∈ log →
      seen request answers rsp = (seen' request answers rsp).map f) :
    accesses seen log = (accesses seen' log).map f := by
  rw [accesses, accesses, List.map_filterMap]
  refine List.filterMap_congr fun event hevent => ?_
  cases event with
  | emitted token request answers rsp => exact h _ _ _ _ (List.mem_reverse.mp hevent)
  | _ => rfl

theorem mem_accesses {seen : UrilProtocolMsg → List Answer → UrilProtocolMsg →
    Option (Access UInt32)} {log : List Event} {access : Access UInt32}
    (h : access ∈ accesses seen log) : ∃ token request answers rsp,
      .emitted token request answers rsp ∈ log ∧ seen request answers rsp = some access := by
  obtain ⟨event, hevent, hseen⟩ := List.mem_filterMap.mp h
  cases event with
  | emitted token request answers rsp =>
      exact ⟨_, _, _, _, List.mem_reverse.mp hevent, hseen⟩
  | _ => cases hseen

theorem modeOf_injOn : Set.InjOn modeOf {rilMode | rilMode ≤ PrefNetType.lteWcdma} := by
  intro a ha b hb hab
  have hback : ∀ {rilMode}, rilMode ≤ PrefNetType.lteWcdma →
      urilNwPrefToRilNwPref (modeOf rilMode) = .ok rilMode :=
    forall_upTo (p := fun rilMode => urilNwPrefToRilNwPref (modeOf rilMode) = .ok rilMode)
      (by decide)
  exact Except.ok.inj ((hback ha).symm.trans (hab ▸ hback hb))

/-- The data of an answer that is one number. -/
def intData (n : UInt32) : RilData :=
  { dataLen := 4, bytes := encode n, strings := fun _ => none, readable := .inr rfl }

/-- The mode of the vendor is got, set to another one, and got again. -/
def registerActions : List Action :=
  [.request (plainRequest MsgId.nwGetPref 1),
    .request { plainRequest MsgId.nwSetPref 2 with
      payload := overwrite (zeros _) (encode UrilNwPrefType.lteOnly) },
    .answer (0, .getPreferredNetworkType) ⟨.success, intData PrefNetType.gsmOnly⟩ 0 4096,
    .answer (1, .setPreferredNetworkType) (bare .success) 0 6208,
    .request (plainRequest MsgId.nwGetPref 3),
    .answer (2, .getPreferredNetworkType) ⟨.success, intData PrefNetType.lteOnly⟩ 0 4096]

end UnifiedRil.PreferenceRegister

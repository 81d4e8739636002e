import UnifiedRil.AdapterRuns
import UnifiedRil.RegistrationAnswers

namespace UnifiedRil.RegistrationStatus

open UnifiedRil.Library.Bytes
open UnifiedRil.Library.CStrings
open UnifiedRil.Library.Layout
open UnifiedRil.Library.Results
open UnifiedRil.Library.Words
open UnifiedRil.Protocol
open UnifiedRil.Messages
open UnifiedRil.Ril
open UnifiedRil.RilConversion
open UnifiedRil.RilHandlers
open UnifiedRil.RilAdapter
open UnifiedRil.RilResponses
open UnifiedRil.RequestProcessors
open UnifiedRil.ConversionDomains
open UnifiedRil.AnswerFaults
open UnifiedRil.AdapterRuns
open UnifiedRil.RegistrationConversion
open UnifiedRil.RegistrationAnswers

/-- What the vendor was asked, and the responses that were emitted. -/
structure Served where
  sent : List VendorRequest
  emitted : List UrilProtocolMsg

/-- The answers to the requests of a context, with the values of the
uninitialised variable. Each answer is handled before the detached thread of its
handler submits the next request, and those that were not asked for stay
unused. -/
def serveInTurn : RilRequestContext → List (Answer × UInt32) → Except Fault Served
  | _, [] => .ok ⟨[], []⟩
  | ctx, (answer, uninitialised) :: answers => do
      let (ctx, handled) ← runHandler ctx answer.error answer.data uninitialised
      let emitted := (completedResponse ctx handled).toList
      match handled.bind Handled.followUp with
      | some request => do
          let later ← serveInTurn ctx answers
          return ⟨⟨request, .null, 0⟩ :: later.sent, emitted ++ later.emitted⟩
      | none => return ⟨[], emitted⟩

/-- A message that is processed, and the answers to what it submitted. -/
def serveRequest (msg : UrilProtocolMsg) (answers : List (Answer × UInt32)) :
    Except Fault Served := do
  let processed ← processRequest msg
  match processed.effects with
  | [.submit ctx v] => do
      let served ← serveInTurn ctx answers
      return ⟨v :: served.sent, served.emitted⟩
  | _ => return ⟨[], []⟩

theorem serveInTurn_handled {ctx : RilRequestContext} {answer : Answer × UInt32}
    {answers : List (Answer × UInt32)} {h : Handled}
    (hrun : responseHandler ctx.rilReqId (responseOf ctx) answer.1.error answer.1.data answer.2 =
      some (.ok h)) :
    serveInTurn ctx (answer :: answers) =
      match h.followUp with
      | some request => do
          let later ← serveInTurn (afterHandler ctx h) answers
          return ⟨⟨request, .null, 0⟩ :: later.sent, later.emitted⟩
      | none => .ok ⟨[], [h.rsp]⟩ := by
  have hrunHandler : runHandler ctx answer.1.error answer.1.data answer.2 =
      .ok (afterHandler ctx h, some h) := by
    rw [runHandler, hrun]
    rfl
  rw [serveInTurn, hrunHandler, ok_bind]
  dsimp only [Option.bind]
  cases hfollowUp : h.followUp with
  | none =>
      have hemitted : completedResponse (afterHandler ctx h) (some h) = some h.rsp :=
        if_pos ⟨rfl, by rw [afterHandler, hfollowUp]; rfl⟩
      rw [hemitted]
      rfl
  | some request =>
      have hopen : completedResponse (afterHandler ctx h) (some h) = none :=
        if_neg fun hdone => by rw [afterHandler, hfollowUp] at hdone; cases hdone.2
      rw [hopen]
      rfl

theorem serveInTurn_cons {ctx : RilRequestContext} {answer : Answer × UInt32}
    {answers : List (Answer × UInt32)} {run : Except Fault Handled} {post : Handled → Prop}
    {goal : Served → Prop}
    (hrun : responseHandler ctx.rilReqId (responseOf ctx) answer.1.error answer.1.data answer.2 =
      some run)
    (hpost : Ensures run post)
    (hlast : nextRequest ctx.rilReqId answer.1.error = none →
      ∀ h, post h → goal ⟨[], [h.rsp]⟩)
    (hnext : ∀ request, nextRequest ctx.rilReqId answer.1.error = some request →
      ∀ h, post h → (afterHandler ctx h).rilReqId = request →
        Ensures (serveInTurn (afterHandler ctx h) answers) fun later =>
          goal ⟨⟨request, .null, 0⟩ :: later.sent, later.emitted⟩) :
    Ensures (serveInTurn ctx (answer :: answers)) goal := by
  cases run with
  | error fault =>
      rw [serveInTurn, runHandler, hrun]
      exact .error _
  | ok h =>
      have hh : post h := hpost h rfl
      have hfollowUp := (responseHandler_answers hrun h rfl).followUp_eq
      rw [serveInTurn_handled hrun, hfollowUp]
      cases hrequest : nextRequest ctx.rilReqId answer.1.error with
      | none => exact .ok (hlast hrequest h hh)
      | some request =>
          have hctx : (afterHandler ctx h).rilReqId = request := by
            rw [afterHandler, hfollowUp, hrequest]
            rfl
          exact .bind_of (hnext request hrequest h hh hctx) fun later hlater => .pure hlater

def statusOf (ctx : RilRequestContext) : GetRegistrationStatusResp := structOf _ (responseOf ctx)

/-- These requests were sent, and then one response was emitted. -/
def Reported (served : Served) (sent : List VendorRequest)
    (status : GetRegistrationStatusResp → Prop) : Prop :=
  served.sent = sent ∧ ∃ rsp, served.emitted = [rsp] ∧ status (structOf _ rsp)

/-- The requests that follow an answer. -/
def requestsAfter (e : RilErrno) (request : RilReqId) (later : List VendorRequest) :
    List VendorRequest :=
  if e = .success then ⟨request, .null, 0⟩ :: later else []

/-- What an answer and those that follow it make of the response. -/
def Stages (e : RilErrno) (answered : GetRegistrationStatusResp → Prop)
    (later : GetRegistrationStatusResp → GetRegistrationStatusResp → Prop)
    (after : GetRegistrationStatusResp) : Prop :=
  ∃ middle, answered middle ∧ if e = .success then later middle after else after = middle

def DataStages (before : GetRegistrationStatusResp) (data operator : Answer × UInt32) :
    GetRegistrationStatusResp → Prop :=
  Stages data.1.error (DataAnswered before · data.1.error data.1.data data.2) fun middle after =>
    OperatorAnswered middle after operator.1.error operator.1.data

def VoiceStages (before : GetRegistrationStatusResp) (voice data operator : Answer × UInt32) :
    GetRegistrationStatusResp → Prop :=
  Stages voice.1.error (VoiceAnswered before · voice.1.error voice.1.data voice.2)
    fun middle after => DataStages middle data operator after

theorem serveInTurn_stage {ctx : RilRequestContext} {answer : Answer × UInt32}
    {answers : List (Answer × UInt32)} {run : Except Fault Handled} {next : RilReqId}
    {answered : GetRegistrationStatusResp → Prop} {sent : List VendorRequest}
    {later : GetRegistrationStatusResp → GetRegistrationStatusResp → Prop}
    (hrun : responseHandler ctx.rilReqId (responseOf ctx) answer.1.error answer.1.data answer.2 =
      some run)
    (hanswered : Ensures run fun h => answered (structOf _ h.rsp))
    (hnext : nextRequest ctx.rilReqId answer.1.error =
      if answer.1.error = .success then some next else none)
    (hlater : ∀ ctx' : RilRequestContext, ctx'.rilReqId = next →
      Ensures (serveInTurn ctx' answers) fun served =>
        Reported served sent (later (statusOf ctx'))) :
    Ensures (serveInTurn ctx (answer :: answers)) fun served =>
      Reported served (requestsAfter answer.1.error next sent)
        (Stages answer.1.error answered later) := by
  refine serveInTurn_cons hrun hanswered ?_ ?_
  all_goals
    rw [hnext]
    unfold requestsAfter Stages
    split
  · nofun
  · intro _ h hh
    exact ⟨rfl, h.rsp, rfl, _, hh, rfl⟩
  · rintro _ ⟨⟩ h hh hctx served hserved
    obtain ⟨hsent, rsp, hemitted, hafter⟩ := hlater _ hctx served hserved
    exact ⟨congrArg _ hsent, rsp, hemitted, _, hh, hafter⟩
  · nofun

theorem serveInTurn_operator {ctx : RilRequestContext} (hctx : ctx.rilReqId = .operator)
    (operator : Answer × UInt32) :
    Ensures (serveInTurn ctx [operator]) fun served =>
      Reported served [] fun after =>
        OperatorAnswered (statusOf ctx) after operator.1.error operator.1.data := by
  refine serveInTurn_cons (by rw [hctx]; rfl) (getOperator_answered _ _ _) ?_ ?_
  · intro _ h hanswered
    exact ⟨rfl, h.rsp, rfl, hanswered⟩
  · intro request hrequest
    rw [hctx] at hrequest
    cases hrequest

theorem serveInTurn_data {ctx : RilRequestContext} (hctx : ctx.rilReqId = .dataRegistrationState)
    (data operator : Answer × UInt32) :
    Ensures (serveInTurn ctx [data, operator]) fun served =>
      Reported served (requestsAfter data.1.error .operator [])
        (DataStages (statusOf ctx) data operator) :=
  serveInTurn_stage (by rw [hctx]; rfl) (dataRegState_answered _ _ _ _) (by rw [hctx]; rfl)
    fun _ hoperator => serveInTurn_operator hoperator operator

theorem serveInTurn_voice {ctx : RilRequestContext}
    (hctx : ctx.rilReqId = .voiceRegistrationState) (voice data operator : Answer × UInt32) :
    Ensures (serveInTurn ctx [voice, data, operator]) fun served =>
      Reported served
        (requestsAfter voice.1.error .dataRegistrationState
          (requestsAfter data.1.error .operator []))
        (VoiceStages (statusOf ctx) voice data operator) :=
  serveInTurn_stage (by rw [hctx]; rfl) (voiceRegState_answered _ _ _ _) (by rw [hctx]; rfl)
    fun _ hdata => serveInTurn_data hdata data operator

def blankRegistration : RegistrationInfo := ⟨0, 0, 0, 0, 0, 0⟩

def blankStatus : GetRegistrationStatusResp where
  response := ⟨0, 0⟩
  nwCellIdentityGsmFollows := 0
  nwCellIdentityGsm := ⟨zeros 4, zeros 4, 0, 0⟩
  nwCellIdentityLteFollows := 0
  nwCellIdentityLte := ⟨zeros 4, zeros 4, 0, 0, 0⟩
  nwCellIdentityWcdmaFollows := 0
  nwCellIdentityWcdma := ⟨zeros 4, zeros 4, 0, 0, 0⟩
  nwCellIdentityTdscdmaFollows := 0
  nwCellIdentityTdscdma := ⟨zeros 4, zeros 4, 0, 0, 0⟩
  voiceRegistrationFollows := 0
  voiceRegistration := blankRegistration
  dataRegistrationFollows := 0
  dataRegistration := blankRegistration

theorem statusOf_token (rilReqId : RilReqId) (uniqueId : UInt32) (simId : UInt8) :
    statusOf (makeTokenForMessage rilReqId uniqueId simId) = blankStatus :=
  structOf_fresh rfl (by decide)

theorem processRequest_registration {request : UrilProtocolMsg}
    (h : request.msgId = MsgId.nwGetRegistrationStatus) :
    processRequest request = getNetworkRegistrationStatusV1 request.uniqueId request.simId := by
  have hfirst : networkMessageProcessor request =
      getNetworkRegistrationStatusV1 request.uniqueId request.simId := by
    unfold networkMessageProcessor
    rw [h]
    rfl
  rw [processRequest, compositeRequestProcessor, hfirst]
  rfl

theorem techs_disjoint {tech : Option UInt32} {first second : List UInt32}
    (hdisjoint : (first.all fun t => t ∉ second) = true) (h : techIn tech first = true) :
    techIn tech second = false := by
  cases tech with
  | none => rfl
  | some tech =>
      have hnot := List.all_eq_true.mp hdisjoint tech (of_decide_eq_true h)
      exact decide_eq_false (of_decide_eq_true hnot)

theorem gsm_not_wcdma {tech : Option UInt32} (h : techIn tech gsmTechs = true) :
    techIn tech wcdmaTechs = false := techs_disjoint rfl h

theorem gsm_not_tdscdma {tech : Option UInt32} (h : techIn tech gsmTechs = true) :
    techIn tech tdscdmaTechs = false := techs_disjoint rfl h

theorem wcdma_not_tdscdma {tech : Option UInt32} (h : techIn tech wcdmaTechs = true) :
    techIn tech tdscdmaTechs = false := techs_disjoint rfl h

theorem withVoiceCell_eq (status : GetRegistrationStatusResp) (tech : Option UInt32)
    (lac cid psc : UInt32) :
    withVoiceCell status tech lac cid psc =
      let gsm := techIn tech gsmTechs
      let wcdma := techIn tech wcdmaTechs
      let tdscdma := techIn tech tdscdmaTechs
      { status with
        nwCellIdentityGsmFollows := if gsm then 1 else status.nwCellIdentityGsmFollows
        nwCellIdentityGsm :=
          { status.nwCellIdentityGsm with
            lac := if gsm then lac.toUInt16 else status.nwCellIdentityGsm.lac
            cid := if gsm then cid else status.nwCellIdentityGsm.cid }
        nwCellIdentityWcdmaFollows := if wcdma then 1 else status.nwCellIdentityWcdmaFollows
        nwCellIdentityWcdma :=
          { status.nwCellIdentityWcdma with
            lac := if wcdma then lac.toUInt16 else status.nwCellIdentityWcdma.lac
            cid := if wcdma then cid else status.nwCellIdentityWcdma.cid
            psc := if wcdma then psc.toUInt16 else status.nwCellIdentityWcdma.psc }
        nwCellIdentityTdscdmaFollows :=
          if tdscdma then 1 else status.nwCellIdentityTdscdmaFollows
        nwCellIdentityTdscdma :=
          { status.nwCellIdentityTdscdma with
            lac := if tdscdma then lac.toUInt16 else status.nwCellIdentityTdscdma.lac
            cid := if tdscdma then cid else status.nwCellIdentityTdscdma.cid } } := by
  unfold withVoiceCell
  dsimp only
  by_cases hgsm : techIn tech gsmTechs
  · simp only [hgsm, gsm_not_wcdma hgsm, gsm_not_tdscdma hgsm, if_true, Bool.false_eq_true,
      if_false]
  · by_cases hwcdma : techIn tech wcdmaTechs
    · simp only [hgsm, hwcdma, wcdma_not_tdscdma hwcdma, if_true, Bool.false_eq_true, if_false]
    · by_cases htdscdma : techIn tech tdscdmaTechs
      · simp only [hgsm, hwcdma, htdscdma, if_true, Bool.false_eq_true, if_false]
      · simp only [hgsm, hwcdma, htdscdma, Bool.false_eq_true, if_false]

theorem withDataCell_eq (status : GetRegistrationStatusResp) (tech : Option UInt32)
    (tac cid eci : UInt32) :
    withDataCell status tech tac cid eci =
      let lte := techIn tech lteTechs
      { status with
        nwCellIdentityLteFollows := if lte then 1 else status.nwCellIdentityLteFollows
        nwCellIdentityLte :=
          { status.nwCellIdentityLte with
            tac := if lte then tac.toUInt16 else status.nwCellIdentityLte.tac
            ci := if lte then eci else status.nwCellIdentityLte.ci
            pci := if lte then cid.toUInt16 else status.nwCellIdentityLte.pci } } := by
  unfold withDataCell
  dsimp only
  split
  · rfl
  · rfl

theorem operatorAnswered_cells {before after : GetRegistrationStatusResp} {e : RilErrno}
    {data : RilData} (h : OperatorAnswered before after e data) :
    ∃ gsm lte wcdma tdscdma, after =
      { before with
        response := responseFor e
        nwCellIdentityGsm := gsm
        nwCellIdentityLte := lte
        nwCellIdentityWcdma := wcdma
        nwCellIdentityTdscdma := tdscdma } := by
  have hnumeric : ∀ (status : GetRegistrationStatusResp) (numeric : CString),
      ∃ gsm lte wcdma tdscdma, withNumericName status numeric =
        { status with
          nwCellIdentityGsm := gsm
          nwCellIdentityLte := lte
          nwCellIdentityWcdma := wcdma
          nwCellIdentityTdscdma := tdscdma } := by
    intro status numeric
    unfold withNumericName
    split_ifs <;> exact ⟨_, _, _, _, rfl⟩
  unfold OperatorAnswered at h
  split at h
  · rcases hentry : entryAt data 2 with _ | numeric | _
    · rw [hentry] at h
      exact ⟨_, _, _, _, h⟩
    · rw [hentry] at h
      obtain ⟨gsm, lte, wcdma, tdscdma, hcells⟩ :=
        hnumeric { before with response := responseFor e } numeric
      exact ⟨gsm, lte, wcdma, tdscdma, h.trans hcells⟩
    · rw [hentry] at h
      exact ⟨_, _, _, _, h⟩
  · exact ⟨_, _, _, _, h⟩

/-- The error of the first step that failed, if one did. -/
def firstFailure (voice data operator : RilErrno) : RilErrno :=
  if voice = .success then if data = .success then operator else data else voice

/-- A registration is what the conversion of an answer yields, where the answer
was reached and was a success. -/
def RegistrationFrom (reached : Bool) (answer : Answer × UInt32)
    (registration : RegistrationInfo) (follows : UInt8) : Prop :=
  if reached then
    ∃ result, entriesConverted blankRegistration answer.1.data answer.2 = .ok result ∧
      registration = result.1.value ∧ follows = flagOf result.2
  else registration = blankRegistration ∧ follows = 0

/-- The technology of an answer that was reached and was a success. -/
def techOf (reached : Bool) (answer : Answer) : Option UInt32 :=
  if reached then numberOf (entryAt answer.data 3) else none

/-- What is reported for the answers to the three requests. -/
structure RegistrationReported (voice data operator : Answer × UInt32)
    (status : GetRegistrationStatusResp) : Prop where
  response : status.response =
    responseFor (firstFailure voice.1.error data.1.error operator.1.error)
  voiceRegistration : RegistrationFrom (voice.1.error = .success) voice status.voiceRegistration
    status.voiceRegistrationFollows
  dataRegistration : RegistrationFrom (voice.1.error = .success ∧ data.1.error = .success) data
    status.dataRegistration status.dataRegistrationFollows
  gsm : status.nwCellIdentityGsmFollows =
    flagOf (techIn (techOf (voice.1.error = .success) voice.1) gsmTechs)
  wcdma : status.nwCellIdentityWcdmaFollows =
    flagOf (techIn (techOf (voice.1.error = .success) voice.1) wcdmaTechs)
  tdscdma : status.nwCellIdentityTdscdmaFollows =
    flagOf (techIn (techOf (voice.1.error = .success) voice.1) tdscdmaTechs)
  atMostOne : status.nwCellIdentityGsmFollows.toNat + status.nwCellIdentityWcdmaFollows.toNat +
    status.nwCellIdentityTdscdmaFollows.toNat ≤ 1
  lte : status.nwCellIdentityLteFollows =
    flagOf (techIn (techOf (voice.1.error = .success ∧ data.1.error = .success) data.1) lteTechs)

theorem voice_flags_le_one (tech : Option UInt32) :
    (flagOf (techIn tech gsmTechs)).toNat + (flagOf (techIn tech wcdmaTechs)).toNat +
      (flagOf (techIn tech tdscdmaTechs)).toNat ≤ 1 := by
  have hflag : ∀ b, (flagOf b).toNat ≤ 1 := by decide
  cases hgsm : techIn tech gsmTechs with
  | true => rw [gsm_not_wcdma hgsm, gsm_not_tdscdma hgsm]; decide
  | false =>
      cases hwcdma : techIn tech wcdmaTechs with
      | true => rw [wcdma_not_tdscdma hwcdma]; decide
      | false => exact (Nat.zero_add _).trans_le (hflag _)

theorem registrationFrom_of_not {reached : Bool} (h : reached = false)
    (answer : Answer × UInt32) : RegistrationFrom reached answer blankRegistration 0 := by
  rw [h]
  exact ⟨rfl, rfl⟩

theorem registrationFrom_of_ok {reached : Bool} (h : reached = true) {answer : Answer × UInt32}
    {result : Store blankRegistration × Bool}
    (hresult : entriesConverted blankRegistration answer.1.data answer.2 = .ok result) :
    RegistrationFrom reached answer result.1.value (flagOf result.2) := by
  rw [h]
  exact ⟨result, hresult, rfl, rfl⟩

theorem registration_reported {voice data operator : Answer × UInt32}
    {status : GetRegistrationStatusResp}
    (h : VoiceStages blankStatus voice data operator status) :
    RegistrationReported voice data operator status := by
  obtain ⟨afterVoice, hvoice, hlater⟩ := h
  unfold VoiceAnswered at hvoice
  by_cases he : voice.1.error = .success
  · have hreached : decide (voice.1.error = .success) = true := decide_eq_true he
    rw [if_pos he] at hvoice hlater
    obtain ⟨registration, hregistration, rfl⟩ := hvoice
    rw [withVoiceCell_eq] at hlater
    obtain ⟨afterData, hdata, hlater⟩ := hlater
    unfold DataAnswered at hdata
    by_cases he' : data.1.error = .success
    · have hreached' : decide (voice.1.error = .success ∧ data.1.error = .success) = true :=
        decide_eq_true ⟨he, he'⟩
      rw [if_pos he'] at hdata hlater
      obtain ⟨dataRegistration, hdataRegistration, rfl⟩ := hdata
      rw [withDataCell_eq] at hlater
      obtain ⟨gsm, lte, wcdma, tdscdma, rfl⟩ := operatorAnswered_cells hlater
      exact
        { response := by rw [firstFailure, if_pos he, if_pos he']
          voiceRegistration := registrationFrom_of_ok hreached hregistration
          dataRegistration := registrationFrom_of_ok hreached' hdataRegistration
          gsm := by rw [hreached]; rfl
          wcdma := by rw [hreached]; rfl
          tdscdma := by rw [hreached]; rfl
          atMostOne := voice_flags_le_one _
          lte := by rw [hreached']; rfl }
    · have hreached' : decide (voice.1.error = .success ∧ data.1.error = .success) = false :=
        decide_eq_false fun h => he' h.2
      rw [if_neg he'] at hdata hlater
      subst hlater
      subst hdata
      exact
        { response := by rw [firstFailure, if_pos he, if_neg he']
          voiceRegistration := registrationFrom_of_ok hreached hregistration
          dataRegistration := registrationFrom_of_not hreached' data
          gsm := by rw [hreached]; rfl
          wcdma := by rw [hreached]; rfl
          tdscdma := by rw [hreached]; rfl
          atMostOne := voice_flags_le_one _
          lte := by rw [hreached']; rfl }
  · have hreached : decide (voice.1.error = .success) = false := decide_eq_false he
    have hreached' : decide (voice.1.error = .success ∧ data.1.error = .success) = false :=
      decide_eq_false fun h => he h.1
    rw [if_neg he] at hvoice hlater
    subst hlater
    subst hvoice
    exact
      { response := by rw [firstFailure, if_neg he]
        voiceRegistration := registrationFrom_of_not hreached voice
        dataRegistration := registrationFrom_of_not hreached' data
        gsm := by rw [hreached]; rfl
        wcdma := by rw [hreached]; rfl
        tdscdma := by rw [hreached]; rfl
        atMostOne := Nat.zero_le 1
        lte := by rw [hreached']; rfl }

theorem serveRequest_registration {request : UrilProtocolMsg}
    (hrequest : request.msgId = MsgId.nwGetRegistrationStatus)
    (voice data operator : Answer × UInt32) :
    Ensures (serveRequest request [voice, data, operator]) fun served =>
      Reported served
        (⟨.voiceRegistrationState, .null, 0⟩ ::
          requestsAfter voice.1.error .dataRegistrationState
            (requestsAfter data.1.error .operator []))
        (VoiceStages blankStatus voice data operator) := by
  unfold serveRequest
  rw [processRequest_registration hrequest, getNetworkRegistrationStatusV1, sendToVendorRil,
    ok_bind]
  have hserved := @serveInTurn_voice
    (makeTokenForMessage .voiceRegistrationState request.uniqueId request.simId) rfl voice data
    operator
  rw [statusOf_token] at hserved
  refine .bind_of hserved ?_
  rintro served ⟨hsent, hemitted⟩
  exact .pure ⟨congrArg _ hsent, hemitted⟩

/-- The codes are those of a numeric name. -/
def Carries (mcc mnc : Vector UInt8 4) (numeric : CString) : Prop :=
  text mcc = numeric.chars.take 3 ∧ text mnc = (numeric.chars.drop 3).take 3

/-- The cells that are there have the codes of the operator. -/
def CellsComplete (status : GetRegistrationStatusResp) (numeric : CString) : Prop :=
  (status.nwCellIdentityGsmFollows ≠ 0 →
    Carries status.nwCellIdentityGsm.mcc status.nwCellIdentityGsm.mnc numeric) ∧
  (status.nwCellIdentityWcdmaFollows ≠ 0 →
    Carries status.nwCellIdentityWcdma.mcc status.nwCellIdentityWcdma.mnc numeric) ∧
  (status.nwCellIdentityTdscdmaFollows ≠ 0 →
    Carries status.nwCellIdentityTdscdma.mcc status.nwCellIdentityTdscdma.mnc numeric) ∧
  (status.nwCellIdentityLteFollows ≠ 0 →
    Carries status.nwCellIdentityLte.mcc status.nwCellIdentityLte.mnc numeric)

theorem text_withDigits {code : Vector UInt8 4} (hcode : code[3]? = some 0) {digits : List UInt8}
    (h : 0 ∉ digits) : text (withDigits code digits) = digits.take 3 := by
  have hlength : ((digits ++ List.replicate 3 0).take 3).length = 3 := by
    simp
  have hlast : code.toList.drop 3 = [0] := by
    obtain ⟨hlt, helem⟩ := Vector.getElem?_eq_some_iff.mp hcode
    rw [List.drop_eq_getElem_cons (by simp), Vector.getElem_toList, helem,
      List.drop_of_length_le (by simp)]
  rw [text, withDigits, overwrite_toList_append _ (hlength.trans_le (by decide)), hlength, hlast,
    List.take_append, List.append_assoc]
  apply takeWhile_append_stop
  · intro c hc
    exact decide_eq_true (ne_of_mem_of_not_mem (List.mem_of_mem_take hc) h)
  · intro c hc
    apply decide_eq_false
    rw [not_not]
    rcases List.mem_append.mp (List.mem_of_mem_head? hc) with hc | hc
    · exact List.eq_of_mem_replicate (List.mem_of_mem_take hc)
    · exact List.mem_singleton.mp hc

theorem carries_withDigits (numeric : CString) :
    Carries (withDigits (zeros 4) numeric.chars)
      (withDigits (zeros 4) (numeric.chars.drop 3)) numeric :=
  ⟨text_withDigits rfl numeric.noNul,
    text_withDigits rfl fun h => numeric.noNul (List.mem_of_mem_drop h)⟩

theorem not_carries_zeros {numeric : CString} (h : 5 ≤ numeric.chars.length) :
    ¬ Carries (zeros 4) (zeros 4) numeric := by
  intro hcarries
  have hlength := congrArg List.length hcarries.1
  rw [List.length_take] at hlength
  change 0 = _ at hlength
  omega

/-- A response before the codes are noted, with its cells. -/
structure Uncoded (status : GetRegistrationStatusResp) (gsm wcdma tdscdma lte : Bool) : Prop where
  gsmFollows : status.nwCellIdentityGsmFollows = flagOf gsm
  wcdmaFollows : status.nwCellIdentityWcdmaFollows = flagOf wcdma
  tdscdmaFollows : status.nwCellIdentityTdscdmaFollows = flagOf tdscdma
  lteFollows : status.nwCellIdentityLteFollows = flagOf lte
  gsmCodes : status.nwCellIdentityGsm.mcc = zeros 4 ∧ status.nwCellIdentityGsm.mnc = zeros 4
  wcdmaCodes : status.nwCellIdentityWcdma.mcc = zeros 4 ∧ status.nwCellIdentityWcdma.mnc = zeros 4
  tdscdmaCodes :
    status.nwCellIdentityTdscdma.mcc = zeros 4 ∧ status.nwCellIdentityTdscdma.mnc = zeros 4
  lteCodes : status.nwCellIdentityLte.mcc = zeros 4 ∧ status.nwCellIdentityLte.mnc = zeros 4

theorem flagOf_ne_zero {b : Bool} : flagOf b ≠ 0 ↔ b = true := by
  cases b <;> decide

theorem cellsComplete_withNumericName {status : GetRegistrationStatusResp}
    {gsm wcdma tdscdma lte : Bool} (h : Uncoded status gsm wcdma tdscdma lte)
    (hgsm : gsm = true → wcdma = false ∧ tdscdma = false) (hwcdma : wcdma = true → tdscdma = false)
    {numeric : CString} (hnumeric : 5 ≤ numeric.chars.length) :
    CellsComplete (withNumericName status numeric) numeric ↔
      ¬ ((gsm ∨ wcdma ∨ tdscdma) ∧ lte) := by
  have hfilled := carries_withDigits numeric
  have hblank := not_carries_zeros hnumeric
  obtain ⟨hg, hw, ht, hl, hgsmCodes, hwcdmaCodes, htdscdmaCodes, hlteCodes⟩ := h
  unfold withNumericName
  cases gsm with
  | true =>
      obtain ⟨rfl, rfl⟩ := hgsm rfl
      simp [CellsComplete, hg, hw, ht, hl, flagOf_ne_zero, hgsmCodes, hlteCodes, hfilled, hblank]
  | false =>
      cases wcdma with
      | true =>
          obtain rfl := hwcdma rfl
          simp [CellsComplete, hg, hw, ht, hl, flagOf_ne_zero, hwcdmaCodes, hlteCodes, hfilled,
            hblank]
      | false =>
          cases lte with
          | true =>
              simp [CellsComplete, hg, hw, ht, hl, flagOf_ne_zero, htdscdmaCodes, hlteCodes,
                hfilled, hblank]
          | false =>
              cases tdscdma with
              | true =>
                  simp [CellsComplete, hg, hw, ht, hl, flagOf_ne_zero, htdscdmaCodes, hfilled]
              | false => simp [CellsComplete, hg, hw, ht, hl, flagOf_ne_zero]

/-- The circuit and packet services use different radios, with a cell each. -/
def TwoCells (voice data : Answer) : Prop :=
  techIn (numberOf (entryAt voice.data 3)) (gsmTechs ++ wcdmaTechs ++ tdscdmaTechs) = true ∧
    techIn (numberOf (entryAt data.data 3)) lteTechs = true

theorem techIn_append (tech : Option UInt32) (first second : List UInt32) :
    techIn tech (first ++ second) = (techIn tech first || techIn tech second) := by
  cases tech with
  | none => rfl
  | some tech => simp [techIn]

theorem stages_complete {voice data operator : Answer × UInt32}
    {status : GetRegistrationStatusResp} {numeric : CString}
    (hvoice : voice.1.error = .success) (hdata : data.1.error = .success)
    (hoperator : operator.1.error = .success) (hnumeric : entryAt operator.1.data 2 = .to numeric)
    (hlength : 5 ≤ numeric.chars.length) (h : VoiceStages blankStatus voice data operator status) :
    CellsComplete status numeric ↔ ¬ TwoCells voice.1 data.1 := by
  obtain ⟨afterVoice, hafterVoice, hlater⟩ := h
  rw [VoiceAnswered, if_pos hvoice] at hafterVoice
  rw [if_pos hvoice] at hlater
  obtain ⟨registration, -, rfl⟩ := hafterVoice
  rw [withVoiceCell_eq] at hlater
  obtain ⟨afterData, hafterData, hlater⟩ := hlater
  rw [DataAnswered, if_pos hdata] at hafterData
  rw [if_pos hdata] at hlater
  obtain ⟨dataRegistration, -, rfl⟩ := hafterData
  rw [withDataCell_eq] at hlater
  have hnamed := operatorAnswered_numeric hlater hoperator hnumeric
  obtain ⟨before, rfl, hbefore⟩ : ∃ before, status = withNumericName before numeric ∧
      Uncoded before (techIn (numberOf (entryAt voice.1.data 3)) gsmTechs)
        (techIn (numberOf (entryAt voice.1.data 3)) wcdmaTechs)
        (techIn (numberOf (entryAt voice.1.data 3)) tdscdmaTechs)
        (techIn (numberOf (entryAt data.1.data 3)) lteTechs) :=
    ⟨_, hnamed, rfl, rfl, rfl, rfl, ⟨rfl, rfl⟩, ⟨rfl, rfl⟩, ⟨rfl, rfl⟩, ⟨rfl, rfl⟩⟩
  rw [TwoCells, techIn_append, techIn_append, Bool.or_eq_true, Bool.or_eq_true, or_assoc]
  apply cellsComplete_withNumericName hbefore
  · exact fun hgsm => ⟨gsm_not_wcdma hgsm, gsm_not_tdscdma hgsm⟩
  · exact wcdma_not_tdscdma
  · exact hlength

theorem cells_complete {request : UrilProtocolMsg} {voice data operator : Answer × UInt32}
    {numeric : CString} {served : Served}
    (hrequest : request.msgId = MsgId.nwGetRegistrationStatus)
    (hsuccess : voice.1.error = .success ∧ data.1.error = .success ∧ operator.1.error = .success)
    (hnumeric : entryAt operator.1.data 2 = .to numeric) (hlength : 5 ≤ numeric.chars.length)
    (hrun : serveRequest request [voice, data, operator] = .ok served) :
    (∃ rsp, served.emitted = [rsp] ∧ CellsComplete (structOf _ rsp) numeric) ↔
      ¬ TwoCells voice.1 data.1 := by
  obtain ⟨-, rsp, hemitted, hstages⟩ :=
    serveRequest_registration hrequest voice data operator served hrun
  have hcomplete :=
    stages_complete hsuccess.1 hsuccess.2.1 hsuccess.2.2 hnumeric hlength hstages
  rw [← hcomplete, hemitted]
  constructor
  · rintro ⟨_, ⟨⟩, h⟩
    exact h
  · intro h
    exact ⟨rsp, rfl, h⟩

def statusRequest : UrilProtocolMsg :=
  { UrilProtocolMsg.zeroed with msgId := MsgId.nwGetRegistrationStatus, uniqueId := 5 }

def numericName : CString := ⟨ascii ['2', '6', '2', '0', '7'], by decide⟩

def onUmts : Answer × UInt32 := (⟨.success, textArray [some one, some seven, none, some three]⟩, 0)

def onLte : Answer × UInt32 := (⟨.success, textArray [some one, none, none, some fourteen]⟩, 0)

def home : Answer × UInt32 := (⟨.success, textArray [none, none, some numericName]⟩, 0)

theorem home_numeric : entryAt home.1.data 2 = .to numericName := entryAt_textArray (by decide) 2

theorem umts_and_lte_served : Succeeds (serveRequest statusRequest [onUmts, onLte, home]) :=
  succeeds_of_isOk (by decide +kernel)

theorem cells_complete_umts : ∃ served,
    serveRequest statusRequest [onUmts, onLte, home] = .ok served ∧
      ((∃ rsp, served.emitted = [rsp] ∧ CellsComplete (structOf _ rsp) numericName) ↔
        ¬ TwoCells onUmts.1 onLte.1) := by
  obtain ⟨served, hrun⟩ := umts_and_lte_served
  exact ⟨served, hrun, cells_complete rfl ⟨rfl, rfl, rfl⟩ home_numeric (by decide) hrun⟩

/-- The LTE cell gets no codes. -/
theorem cells_incomplete : ∃ served,
    serveRequest statusRequest [onUmts, onLte, home] = .ok served ∧
      ∀ rsp ∈ served.emitted, ¬ CellsComplete (structOf _ rsp) numericName := by
  obtain ⟨served, hrun⟩ := umts_and_lte_served
  obtain ⟨-, rsp, hemitted, hstages⟩ := serveRequest_registration rfl onUmts onLte home served hrun
  refine ⟨served, hrun, ?_⟩
  rw [hemitted]
  intro rsp' hrsp'
  obtain rfl := List.mem_singleton.mp hrsp'
  rw [stages_complete rfl rfl rfl home_numeric (by decide) hstages, not_not]
  constructor
  · rw [onUmts, entryAt_textArray (by decide)]
    decide
  · rw [onLte, entryAt_textArray (by decide)]
    decide

end UnifiedRil.RegistrationStatus

import UnifiedRil.NetworkScan

namespace UnifiedRil.OperatorCodes

open UnifiedRil.Library.Bytes
open UnifiedRil.Library.CStrings
open UnifiedRil.Library.Layout
open UnifiedRil.Library.Results
open UnifiedRil.Protocol
open UnifiedRil.Messages
open UnifiedRil.Ril
open UnifiedRil.RilConversion
open UnifiedRil.RilHandlers
open UnifiedRil.RilAdapter
open UnifiedRil.RilResponses
open UnifiedRil.ConversionDomains
open UnifiedRil.AnswerFaults
open UnifiedRil.RegistrationAnswers
open UnifiedRil.RegistrationStatus
open UnifiedRil.NetworkScan hiding Reported

/-- The codes of a numeric name, each with its terminator. -/
structure Split (mcc mnc : Vector UInt8 4) (numeric : CString) : Prop where
  carries : Carries mcc mnc numeric
  mccEnds : 0 ∈ mcc.toList
  mncEnds : 0 ∈ mnc.toList

theorem zero_mem_of_last {code : Vector UInt8 4} (h : code[3]? = some 0) : 0 ∈ code.toList := by
  obtain ⟨hlt, helem⟩ := Vector.getElem?_eq_some_iff.mp h
  rw [← helem, Vector.mem_toList_iff]
  exact Vector.getElem_mem hlt

theorem split_withDigits {mcc mnc : Vector UInt8 4} (hmcc : mcc[3]? = some 0)
    (hmnc : mnc[3]? = some 0) (numeric : CString) :
    Split (withDigits mcc numeric.chars) (withDigits mnc (numeric.chars.drop 3)) numeric where
  carries := ⟨text_withDigits hmcc numeric.noNul,
    text_withDigits hmnc fun h => numeric.noNul (List.mem_of_mem_drop h)⟩
  mccEnds := zero_mem_of_last ((withDigits_last mcc numeric.chars).trans hmcc)
  mncEnds := zero_mem_of_last ((withDigits_last mnc (numeric.chars.drop 3)).trans hmnc)

/-- The loop of a scan reaches the turn for a quadruple, with so many entries
filled. -/
inductive Scanning {initial : ScanResp} (data : RilData) : Nat → Nat → Store initial → Prop
  | start (irilRsp : Store initial) (hblank : irilRsp.value.entries = blankScan.entries) :
      Scanning data 0 0 irilRsp
  | turn {i numFilled : Nat} {irilRsp : Store initial} (hroom : numFilled < urilNwScanMaxEntryCount)
      {entry : Store (irilRsp.value.entries[numFilled])} {counts : Bool}
      (hbefore : Scanning data i numFilled irilRsp)
      (hrun : scanQuadruple
        (irilRsp.view (ScanResp.entriesField.trans (.elem ⟨numFilled, hroom⟩))) data i =
          .ok (entry, counts)) :
      Scanning data (i + 1) (if counts then numFilled + 1 else numFilled)
        (irilRsp.put (ScanResp.entriesField.trans (.elem ⟨numFilled, hroom⟩)) entry)

theorem operatorName_last {initial : OperatorName} (name : Store initial)
    (long short numeric : CharPtr) :
    Ensures (rilOperatorNameToUrilOperatorName name long short numeric) fun r =>
      r.1.value.mcc[3]? = name.value.mcc[3]? ∧ r.1.value.mnc[3]? = name.value.mnc[3]? := by
  unfold rilOperatorNameToUrilOperatorName
  refine .ite (fun _ => ?_) fun _ => .pure ⟨rfl, rfl⟩
  refine .bind fun long => .bind fun short => .bind fun numeric => .bind fun mnc => .pure ?_
  dsimp only
  rw [(value_named _ _).2.2.2, (value_named _ _).2.2.1, (value_named _ _).2.1,
    (value_named _ _).1]
  exact ⟨withDigits_last name.value.mcc numeric.chars, withDigits_last name.value.mnc mnc.chars⟩

theorem scanQuadruple_clean {initial : ScanEntry} (entry : Store initial) (data : RilData)
    (i : Nat) (h : Clean entry.value) :
    Ensures (scanQuadruple entry data i) fun r => Clean r.1.value := by
  unfold scanQuadruple
  refine .bind fun long => .bind fun short => .bind fun numeric => ?_
  refine .bind_of (operatorName_last _ long short numeric) fun name hname => ?_
  have hclean : Clean (entry.put ScanEntry.operatorNameField name.1).value :=
    ⟨hname.1.trans h.mcc, hname.2.trans h.mnc, h.rat⟩
  refine .ite (fun _ => .bind fun status => ?_) fun _ => .pure hclean
  split
  · exact .pure hclean
  · refine .bind fun status => ?_
    split
    · exact .pure ⟨hclean.mcc, hclean.mnc, hclean.rat⟩
    · exact .pure hclean

theorem scanning_clean {initial : ScanResp} {data : RilData} {i numFilled : Nat}
    {irilRsp : Store initial} (h : Scanning data i numFilled irilRsp) :
    ∀ k : Nat, numFilled ≤ k → ∀ entry ∈ irilRsp.value.entries[k]?, Clean entry := by
  induction h with
  | start irilRsp hblank =>
      rw [hblank]
      exact filled_blank.clean
  | @turn i numFilled irilRsp hroom entry counts hbefore hrun ih =>
      have hslot : Clean irilRsp.value.entries[numFilled] :=
        ih numFilled (Nat.le_refl _) _ (Vector.getElem?_eq_getElem hroom)
      have hentry : Clean entry.value := scanQuadruple_clean _ data i hslot _ hrun
      have hput : (irilRsp.put (ScanResp.entriesField.trans (.elem ⟨numFilled, hroom⟩))
          entry).value.entries = irilRsp.value.entries.set numFilled entry.value := rfl
      intro k hk other hother
      have hle : numFilled ≤ k := by
        refine Nat.le_trans ?_ hk
        split
        · exact Nat.le_succ _
        · exact Nat.le_refl _
      rw [hput] at hother
      obtain hlt | rfl := hle.lt_or_eq
      · rw [Vector.getElem?_set_ne hroom (Nat.ne_of_lt hlt)] at hother
        exact ih k hle other hother
      · rw [Vector.getElem?_set_self hroom] at hother
        exact Option.some.inj hother ▸ hentry

theorem quadrupleReadable_iff {data : RilData} {i : Nat} {long short numeric : CString}
    {status : Option CString}
    (hdata : HoldsQuadruple data i ⟨some long, some short, some numeric, status⟩) :
    QuadrupleReadable data i ↔ 3 ≤ numeric.chars.length := by
  unfold QuadrupleReadable
  rw [quadrupleNamed_iff, hdata.long, hdata.short, hdata.numeric, hdata.status]
  constructor
  · intro h
    exact numericReadable_to.mp (h ⟨nofun, nofun, nofun⟩).2.2.1
  · rintro h -
    exact ⟨nofun, nofun, numericReadable_to.mpr h, textPtr_ne_wild status⟩

/-- A turn of the loop of a scan splits a numeric name. -/
def ScanSplits {initial : ScanResp} (data : RilData) (i numFilled : Nat)
    (irilRsp : Store initial) (hroom : numFilled < urilNwScanMaxEntryCount) (numeric : CString) :
    Prop :=
  ∃ entry counts,
    scanQuadruple (irilRsp.view (ScanResp.entriesField.trans (.elem ⟨numFilled, hroom⟩))) data i =
        .ok (entry, counts) ∧
      Split entry.value.operatorName.mcc entry.value.operatorName.mnc numeric

theorem scan_splits {initial : ScanResp} {data : RilData} {i numFilled : Nat}
    {irilRsp : Store initial} (hreached : Scanning data i numFilled irilRsp)
    (hroom : numFilled < urilNwScanMaxEntryCount) {long short numeric : CString}
    {status : Option CString}
    (hdata : HoldsQuadruple data i ⟨some long, some short, some numeric, status⟩) :
    ScanSplits data i numFilled irilRsp hroom numeric ↔ 3 ≤ numeric.chars.length := by
  rw [← quadrupleReadable_iff hdata, ← scanQuadruple_succeeds
    (irilRsp.view (ScanResp.entriesField.trans (.elem ⟨numFilled, hroom⟩))) hdata.inside]
  constructor
  · rintro ⟨entry, counts, hrun, -⟩
    exact ⟨_, hrun⟩
  · rintro ⟨⟨entry, counts⟩, hrun⟩
    have hclean : Clean irilRsp.value.entries[numFilled] :=
      scanning_clean hreached numFilled (Nat.le_refl _) _ (Vector.getElem?_eq_getElem hroom)
    have hentry := (scanQuadruple_scanned _ hdata _ hrun).1
    rw [withQuadruple_named rfl rfl rfl] at hentry
    dsimp only at hentry
    refine ⟨entry, counts, hrun, ?_⟩
    rw [hentry]
    exact split_withDigits hclean.mcc hclean.mnc numeric

/-- The codes of all cells end in zero. -/
structure CodesEnd (status : GetRegistrationStatusResp) : Prop where
  gsm : status.nwCellIdentityGsm.mcc[3]? = some 0 ∧ status.nwCellIdentityGsm.mnc[3]? = some 0
  wcdma :
    status.nwCellIdentityWcdma.mcc[3]? = some 0 ∧ status.nwCellIdentityWcdma.mnc[3]? = some 0
  lte : status.nwCellIdentityLte.mcc[3]? = some 0 ∧ status.nwCellIdentityLte.mnc[3]? = some 0
  tdscdma :
    status.nwCellIdentityTdscdma.mcc[3]? = some 0 ∧ status.nwCellIdentityTdscdma.mnc[3]? = some 0

theorem codesEnd_blank : CodesEnd blankStatus :=
  ⟨⟨rfl, rfl⟩, ⟨rfl, rfl⟩, ⟨rfl, rfl⟩, ⟨rfl, rfl⟩⟩

theorem codesEnd_voiceAnswered {before after : GetRegistrationStatusResp} {e : RilErrno}
    {data : RilData} {u : UInt32} (h : CodesEnd before)
    (hanswered : VoiceAnswered before after e data u) :
    CodesEnd after := by
  unfold VoiceAnswered at hanswered
  split at hanswered
  · obtain ⟨registration, -, rfl⟩ := hanswered
    unfold withVoiceCell
    split
    · exact ⟨h.gsm, h.wcdma, h.lte, h.tdscdma⟩
    · split
      · exact ⟨h.gsm, h.wcdma, h.lte, h.tdscdma⟩
      · split
        · exact ⟨h.gsm, h.wcdma, h.lte, h.tdscdma⟩
        · exact ⟨h.gsm, h.wcdma, h.lte, h.tdscdma⟩
  · rw [hanswered]
    exact ⟨h.gsm, h.wcdma, h.lte, h.tdscdma⟩

theorem codesEnd_dataAnswered {before after : GetRegistrationStatusResp} {e : RilErrno}
    {data : RilData} {u : UInt32} (h : CodesEnd before)
    (hanswered : DataAnswered before after e data u) :
    CodesEnd after := by
  unfold DataAnswered at hanswered
  split at hanswered
  · obtain ⟨registration, -, rfl⟩ := hanswered
    unfold withDataCell
    split
    · exact ⟨h.gsm, h.wcdma, h.lte, h.tdscdma⟩
    · exact ⟨h.gsm, h.wcdma, h.lte, h.tdscdma⟩
  · rw [hanswered]
    exact ⟨h.gsm, h.wcdma, h.lte, h.tdscdma⟩

theorem codesEnd_withNumericName {status : GetRegistrationStatusResp} (h : CodesEnd status)
    (numeric : CString) : CodesEnd (withNumericName status numeric) := by
  have hlast : ∀ {mcc mnc : Vector UInt8 4}, mcc[3]? = some 0 ∧ mnc[3]? = some 0 →
      (withDigits mcc numeric.chars)[3]? = some 0 ∧
        (withDigits mnc (numeric.chars.drop 3))[3]? = some 0 := by
    intro mcc mnc hcodes
    rw [withDigits_last, withDigits_last]
    exact hcodes
  unfold withNumericName
  dsimp only
  split
  · exact ⟨hlast h.gsm, h.wcdma, h.lte, h.tdscdma⟩
  · split
    · exact ⟨h.gsm, hlast h.wcdma, h.lte, h.tdscdma⟩
    · split
      · exact ⟨h.gsm, h.wcdma, hlast h.lte, h.tdscdma⟩
      · split
        · exact ⟨h.gsm, h.wcdma, h.lte, hlast h.tdscdma⟩
        · exact h

theorem codesEnd_operatorAnswered {before after : GetRegistrationStatusResp} {e : RilErrno}
    {data : RilData} (h : CodesEnd before) (hanswered : OperatorAnswered before after e data) :
    CodesEnd after := by
  have hheader : CodesEnd { before with response := responseFor e } :=
    ⟨h.gsm, h.wcdma, h.lte, h.tdscdma⟩
  unfold OperatorAnswered at hanswered
  split at hanswered
  · rw [hanswered]
    split
    · exact codesEnd_withNumericName hheader _
    · exact hheader
  · rw [hanswered]
    exact hheader

/-- The requests whose answers fill in the registration status. -/
def registrationRequests : List RilReqId :=
  [.voiceRegistrationState, .dataRegistrationState, .operator]

theorem codesEnd_serving {ctx : RilRequestContext} (h : Serving ctx)
    (hrequest : ctx.rilReqId ∈ registrationRequests) : CodesEnd (statusOf ctx) := by
  induction h with
  | token rilReqId uniqueId simId =>
      rw [statusOf_token]
      exact codesEnd_blank
  | @answered ctx ctx' e data u handled _ hrun ih =>
      obtain ⟨hhandler, -⟩ := runHandler_handled hrun
      obtain ⟨rfl, hanswers⟩ := runHandler_some hrun
      change CodesEnd (structOf _ handled.rsp)
      cases hid : ctx.rilReqId with
      | voiceRegistrationState =>
          rw [hid] at hhandler ih
          exact codesEnd_voiceAnswered (ih (by decide))
            (voiceRegState_answered _ _ _ _ handled (Option.some.inj hhandler))
      | dataRegistrationState =>
          rw [hid] at hhandler ih
          exact codesEnd_dataAnswered (ih (by decide))
            (dataRegState_answered _ _ _ _ handled (Option.some.inj hhandler))
      | operator =>
          rw [hid] at hhandler ih
          exact codesEnd_operatorAnswered (ih (by decide))
            (getOperator_answered _ _ _ handled (Option.some.inj hhandler))
      | _ =>
          have hnext := hanswers.followUp_eq
          rw [afterHandler, hnext, hid] at hrequest
          simp [nextRequest, registrationRequests] at hrequest

theorem split_withNumericName {status : GetRegistrationStatusResp}
    {mcc mnc : Field GetRegistrationStatusResp (Vector UInt8 4)}
    (h : mccMncFields status = some (mcc, mnc)) (hend : CodesEnd status) (numeric : CString) :
    Split (mcc.get (withNumericName status numeric)) (mnc.get (withNumericName status numeric))
      numeric := by
  unfold mccMncFields at h
  unfold withNumericName
  split at h
  · rename_i hgsm
    rw [if_pos hgsm]
    cases h
    exact split_withDigits hend.gsm.1 hend.gsm.2 numeric
  · rename_i hgsm
    rw [if_neg hgsm]
    split at h
    · rename_i hwcdma
      rw [if_pos hwcdma]
      cases h
      exact split_withDigits hend.wcdma.1 hend.wcdma.2 numeric
    · rename_i hwcdma
      rw [if_neg hwcdma]
      split at h
      · rename_i hlte
        rw [if_pos hlte]
        cases h
        exact split_withDigits hend.lte.1 hend.lte.2 numeric
      · rename_i hlte
        rw [if_neg hlte]
        split at h
        · rename_i htdscdma
          rw [if_pos htdscdma]
          cases h
          exact split_withDigits hend.tdscdma.1 hend.tdscdma.2 numeric
        · cases h

theorem readable_of_entryAt {data : RilData} {i : Nat} {s : CString}
    (h : entryAt data i = .to s) : data.bytes ≠ [] := by
  intro hbytes
  unfold entryAt at h
  split at h
  · rw [charPtrAt, hbytes, slice, List.drop_nil, List.take_nil] at h
    cases h
  · cases h

/-- The answer about the operator is split to a cell. -/
def OperatorSplits (ctx : RilRequestContext) (data : RilData)
    (mcc mnc : Field GetRegistrationStatusResp (Vector UInt8 4)) (numeric : CString) : Prop :=
  ∃ handled, handleRilGetOperatorResponseV1 (responseOf ctx) .success data = .ok handled ∧
    Split (mcc.get (structOf _ handled.rsp)) (mnc.get (structOf _ handled.rsp)) numeric

theorem operator_splits {ctx : RilRequestContext} (hctx : Serving ctx)
    (hrequest : ctx.rilReqId = .operator)
    {mcc mnc : Field GetRegistrationStatusResp (Vector UInt8 4)}
    (hcell : mccMncFields (statusOf ctx) = some (mcc, mnc)) {data : RilData} {numeric : CString}
    (hentry : entryAt data 2 = .to numeric) :
    OperatorSplits ctx data mcc mnc numeric ↔ 3 ≤ numeric.chars.length := by
  have hacceptable : OperatorAcceptable (responseOf ctx) data ↔ 3 ≤ numeric.chars.length := by
    have hpresent : CharPtr.to numeric ≠ .null := by
      intro h
      cases h
    rw [OperatorAcceptable, ← statusOf.eq_def, hcell, or_iff_right (Option.some_ne_none _),
      and_iff_right (.inr (readable_of_entryAt hentry)), hentry, or_iff_right hpresent]
    exact numericReadable_to
  rw [← hacceptable]
  constructor
  · rintro ⟨handled, hrun, -⟩
    exact getOperator_succeeds.mp ⟨handled, hrun⟩ rfl
  · intro h
    obtain ⟨handled, hrun⟩ := getOperator_succeeds.mpr fun _ => h
    have hanswered : OperatorAnswered (statusOf ctx) (structOf _ handled.rsp) .success data :=
      getOperator_answered _ _ _ handled hrun
    unfold OperatorAnswered at hanswered
    rw [if_pos rfl, hentry] at hanswered
    refine ⟨handled, hrun, ?_⟩
    rw [hanswered]
    have hend : CodesEnd (statusOf ctx) :=
      codesEnd_serving hctx (by rw [hrequest]; decide)
    have hheader : CodesEnd { statusOf ctx with response := responseFor .success } :=
      ⟨hend.gsm, hend.wcdma, hend.lte, hend.tdscdma⟩
    have hsame : mccMncFields { statusOf ctx with response := responseFor .success } =
        some (mcc, mnc) := hcell
    exact split_withNumericName hsame hheader numeric

/-- A numeric name is split, in both places, exactly if it has at least three
characters. -/
theorem codes_split (numeric : CString) :
    (∀ {initial : ScanResp} {data : RilData} {i numFilled : Nat} {irilRsp : Store initial},
      Scanning data i numFilled irilRsp → ∀ hroom : numFilled < urilNwScanMaxEntryCount,
      ∀ {long short : CString} {status : Option CString},
      HoldsQuadruple data i ⟨some long, some short, some numeric, status⟩ →
        (ScanSplits data i numFilled irilRsp hroom numeric ↔ 3 ≤ numeric.chars.length)) ∧
    ∀ {ctx : RilRequestContext}, Serving ctx → ctx.rilReqId = .operator →
      ∀ {mcc mnc}, mccMncFields (statusOf ctx) = some (mcc, mnc) →
      ∀ {data : RilData}, entryAt data 2 = .to numeric →
        (OperatorSplits ctx data mcc mnc numeric ↔ 3 ≤ numeric.chars.length) :=
  ⟨fun hreached hroom _ _ _ hdata => scan_splits hreached hroom hdata,
    fun hctx hrequest _ _ hcell _ hentry => operator_splits hctx hrequest hcell hentry⟩

theorem runHandler_ok {ctx : RilRequestContext} {e : RilErrno} {data : RilData} {u : UInt32}
    {handled : Handled}
    (h : responseHandler ctx.rilReqId (responseOf ctx) e data u = some (.ok handled)) :
    runHandler ctx e data u = .ok (afterHandler ctx handled, some handled) := by
  rw [runHandler, h]
  rfl

theorem asked_for_operator : ∃ ctx mcc mnc, Serving ctx ∧ ctx.rilReqId = .operator ∧
    mccMncFields (statusOf ctx) = some (mcc, mnc) := by
  let voice := makeTokenForMessage .voiceRegistrationState 5 0
  obtain ⟨first, hfirst⟩ : Succeeds (handleRilVoiceRegStateResponseV1 (responseOf voice) .success
      onUmts.1.data 0) :=
    voiceRegState_succeeds.mpr fun _ => registrationAcceptable_textArray (by decide) (by decide)
      1 3 (by decide) (by decide) (by decide) (by decide)
  have hserving : Serving (afterHandler voice first) :=
    .answered (.token _ 5 0) (runHandler_ok (congrArg some hfirst))
  have hnext : first.followUp = some .dataRegistrationState :=
    (voiceRegState_answers _ _ _ _ first hfirst).followUp_eq
  obtain ⟨second, hsecond⟩ : Succeeds (handleRilDataRegStateResponseV1
      (responseOf (afterHandler voice first)) .success onLte.1.data 0) :=
    dataRegState_succeeds.mpr fun _ => registrationAcceptable_textArray (by decide) (by decide)
      1 14 (by decide) (by decide) (by decide) (by decide)
  have hdata : (afterHandler voice first).rilReqId = .dataRegistrationState := by
    rw [afterHandler, hnext]
    rfl
  have hhandler : responseHandler (afterHandler voice first).rilReqId
      (responseOf (afterHandler voice first)) .success onLte.1.data 0 = some (.ok second) := by
    rw [hdata]
    exact congrArg some hsecond
  have hserving' : Serving (afterHandler (afterHandler voice first) second) :=
    .answered hserving (runHandler_ok hhandler)
  have hthird : second.followUp = some .operator :=
    (dataRegState_answers _ _ _ _ second hsecond).followUp_eq
  have htech : numberOf (entryAt onUmts.1.data 3) = some 3 := by
    rw [onUmts, entryAt_textArray (by decide)]
    decide
  have hvoice : VoiceAnswered (statusOf voice) (structOf _ first.rsp) .success onUmts.1.data 0 :=
    voiceRegState_answered _ _ _ _ first hfirst
  have hblank : (statusOf voice).nwCellIdentityGsmFollows = 0 :=
    congrArg GetRegistrationStatusResp.nwCellIdentityGsmFollows (statusOf_token _ 5 0)
  have hflags : (structOf GetRegistrationStatusResp first.rsp).nwCellIdentityGsmFollows = 0 ∧
      (structOf GetRegistrationStatusResp first.rsp).nwCellIdentityWcdmaFollows = 1 := by
    unfold VoiceAnswered at hvoice
    rw [if_pos rfl] at hvoice
    obtain ⟨registration, -, hafter⟩ := hvoice
    rw [hafter, htech]
    exact ⟨hblank, rfl⟩
  have hanswered : DataAnswered (structOf _ first.rsp) (structOf _ second.rsp) .success
      onLte.1.data 0 := dataRegState_answered _ _ _ _ second hsecond
  refine ⟨_, GetRegistrationStatusResp.nwCellIdentityWcdmaField.trans CellIdentityWcdma.mccField,
    GetRegistrationStatusResp.nwCellIdentityWcdmaField.trans CellIdentityWcdma.mncField, hserving',
    ?_, ?_⟩
  · rw [afterHandler, hthird]
    rfl
  · unfold DataAnswered at hanswered
    rw [if_pos rfl] at hanswered
    obtain ⟨registration, -, hafter⟩ := hanswered
    change mccMncFields (structOf _ second.rsp) = _
    rw [hafter, withDataCell]
    split
    · rw [mccMncFields, if_neg (not_not.mpr hflags.1), if_pos (by rw [hflags.2]; decide)]
    · rw [mccMncFields, if_neg (not_not.mpr hflags.1), if_pos (by rw [hflags.2]; decide)]

def shortNumeric : CString := ⟨ascii ['2', '6'], by decide⟩

/-- A scan that finds one network. -/
def oneNetwork (numeric : CString) : List (Option CString) :=
  [some numericName, some numericName, some numeric, none]

theorem oneNetwork_quadruple (numeric : CString) :
    HoldsQuadruple (textArray (oneNetwork numeric)) 0
      ⟨some numericName, some numericName, some numeric, none⟩ := by
  have hlength : (oneNetwork numeric).length < 2 ^ 63 := show 4 < 2 ^ 63 by decide
  exact (holdsTexts_textArray hlength).quadruple rfl

theorem codes_split_home :
    (ScanSplits (textArray (oneNetwork numericName)) 0 0 (Store.untouched blankScan) (by decide)
        numericName ↔ 3 ≤ numericName.chars.length) ∧
      ∃ ctx mcc mnc, Serving ctx ∧ ctx.rilReqId = .operator ∧
        (OperatorSplits ctx home.1.data mcc mnc numericName ↔ 3 ≤ numericName.chars.length) := by
  obtain ⟨ctx, mcc, mnc, hctx, hrequest, hcell⟩ := asked_for_operator
  exact ⟨(codes_split numericName).1 (.start _ rfl) (by decide) (oneNetwork_quadruple numericName),
    ctx, mcc, mnc, hctx, hrequest,
    (codes_split numericName).2 hctx hrequest hcell home_numeric⟩

/-- Two characters are not split, in either place. -/
theorem two_characters_not_split :
    ¬ ScanSplits (textArray (oneNetwork shortNumeric)) 0 0 (Store.untouched blankScan) (by decide)
        shortNumeric ∧
      ∃ ctx mcc mnc, Serving ctx ∧ ctx.rilReqId = .operator ∧
        mccMncFields (statusOf ctx) = some (mcc, mnc) ∧
        ¬ OperatorSplits ctx (textArray [none, none, some shortNumeric]) mcc mnc shortNumeric := by
  obtain ⟨ctx, mcc, mnc, hctx, hrequest, hcell⟩ := asked_for_operator
  refine ⟨fun h => ?_, ctx, mcc, mnc, hctx, hrequest, hcell, fun h => ?_⟩
  · exact absurd ((scan_splits (.start _ rfl) (by decide)
      (oneNetwork_quadruple shortNumeric)).mp h) (by decide)
  · have hentry : entryAt (textArray [none, none, some shortNumeric]) 2 = .to shortNumeric :=
      entryAt_textArray (by decide) 2
    exact absurd ((operator_splits hctx hrequest hcell hentry).mp h) (by decide)

end UnifiedRil.OperatorCodes

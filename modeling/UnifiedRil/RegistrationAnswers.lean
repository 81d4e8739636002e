import UnifiedRil.AnswerFaults
import UnifiedRil.RegistrationConversion

namespace UnifiedRil.RegistrationAnswers

open UnifiedRil.Library.Bytes
open UnifiedRil.Library.CStrings
open UnifiedRil.Library.Layout
open UnifiedRil.Library.Results
open UnifiedRil.Protocol
open UnifiedRil.Messages
open UnifiedRil.Ril
open UnifiedRil.RilConversion
open UnifiedRil.RilHandlers
open UnifiedRil.RilResponses
open UnifiedRil.ConversionDomains
open UnifiedRil.AnswerFaults
open UnifiedRil.RegistrationConversion

theorem entryOf_entryAt (data : RilData) (i : Nat) :
    Ensures (entryOf data (numEntries data) i) fun p => p = entryAt data i := by
  intro p hp
  by_cases hread : i < numEntries data → data.bytes ≠ []
  · rw [entryOf_eq hread] at hp
    exact (Except.ok.inj hp).symm
  · rw [Classical.not_imp, not_not] at hread
    rw [entryOf_error hread.1 hread.2] at hp
    cases hp

/-- The number that a text denotes, or -1. -/
def numberOrMinusOne (p : CharPtr) : UInt32 := (numberOf p).getD (-1)

theorem rilStrToIntOrMinusOne_value (p : CharPtr) :
    Ensures (rilStrToIntOrMinusOne p) fun n => n = numberOrMinusOne p := by
  refine .bind_eq fun n hn => .pure ?_
  rw [numberOrMinusOne, numberOf_eq hn]

def techIn (tech : Option UInt32) (techs : List UInt32) : Bool := tech.any (· ∈ techs)

def gsmTechs : List UInt32 := [RadioTech.gprs, RadioTech.edge, RadioTech.gsm]

def wcdmaTechs : List UInt32 :=
  [RadioTech.umts, RadioTech.hsdpa, RadioTech.hsupa, RadioTech.hspa, RadioTech.hspap]

def tdscdmaTechs : List UInt32 := [RadioTech.tdScdma]

def lteTechs : List UInt32 := [RadioTech.lte]

def withVoiceCell (status : GetRegistrationStatusResp) (tech : Option UInt32)
    (lac cid psc : UInt32) : GetRegistrationStatusResp :=
  if techIn tech gsmTechs then
    { status with
      nwCellIdentityGsmFollows := 1
      nwCellIdentityGsm := { status.nwCellIdentityGsm with lac := lac.toUInt16, cid := cid } }
  else if techIn tech wcdmaTechs then
    { status with
      nwCellIdentityWcdmaFollows := 1
      nwCellIdentityWcdma :=
        { status.nwCellIdentityWcdma with
          lac := lac.toUInt16, cid := cid, psc := psc.toUInt16 } }
  else if techIn tech tdscdmaTechs then
    { status with
      nwCellIdentityTdscdmaFollows := 1
      nwCellIdentityTdscdma :=
        { status.nwCellIdentityTdscdma with lac := lac.toUInt16, cid := cid } }
  else status

def withDataCell (status : GetRegistrationStatusResp) (tech : Option UInt32)
    (tac cid eci : UInt32) : GetRegistrationStatusResp :=
  if techIn tech lteTechs then
    { status with
      nwCellIdentityLteFollows := 1
      nwCellIdentityLte :=
        { status.nwCellIdentityLte with
          tac := tac.toUInt16, ci := eci, pci := cid.toUInt16 } }
  else status

theorem rilCellToUrilCellVoice_value {initial : GetRegistrationStatusResp}
    (regStatus : Store initial) (radiotech lac cid psc : CharPtr) :
    Ensures (rilCellToUrilCellVoice regStatus radiotech lac cid psc) fun r =>
      r.value = withVoiceCell regStatus.value (numberOf radiotech) (numberOrMinusOne lac)
        (numberOrMinusOne cid) (numberOrMinusOne psc) := by
  unfold rilCellToUrilCellVoice
  refine .bind_eq fun tech htech => ?_
  rw [numberOf_eq htech]
  cases tech with
  | none => exact .pure rfl
  | some tech =>
      refine .bind_of (rilStrToIntOrMinusOne_value lac) ?_
      rintro _ rfl
      refine .bind_of (rilStrToIntOrMinusOne_value cid) ?_
      rintro _ rfl
      refine .bind_of (rilStrToIntOrMinusOne_value psc) ?_
      rintro _ rfl
      have hgsm : techIn (some tech) gsmTechs = true ↔ tech ∈ gsmTechs := decide_eq_true_iff
      have hwcdma : techIn (some tech) wcdmaTechs = true ↔ tech ∈ wcdmaTechs :=
        decide_eq_true_iff
      have htdscdma : techIn (some tech) tdscdmaTechs = true ↔ tech = RadioTech.tdScdma :=
        decide_eq_true_iff.trans List.mem_singleton
      unfold withVoiceCell
      refine .ite (fun h => .pure ?_) fun h => .ite (fun h' => .pure ?_) fun h' =>
        .ite (fun h'' => .pure ?_) fun h'' => .pure ?_
      · rw [if_pos (hgsm.mpr h)]
        rfl
      · rw [if_neg (hgsm.not.mpr h), if_pos (hwcdma.mpr h')]
        rfl
      · rw [if_neg (hgsm.not.mpr h), if_neg (hwcdma.not.mpr h'), if_pos (htdscdma.mpr h'')]
        rfl
      · rw [if_neg (hgsm.not.mpr h), if_neg (hwcdma.not.mpr h'), if_neg (htdscdma.not.mpr h'')]

theorem rilCellToUrilCellData_value {initial : GetRegistrationStatusResp}
    (regStatus : Store initial) (radiotech tac cid eci : CharPtr) :
    Ensures (rilCellToUrilCellData regStatus radiotech tac cid eci) fun r =>
      r.value = withDataCell regStatus.value (numberOf radiotech) (numberOrMinusOne tac)
        (numberOrMinusOne cid) (numberOrMinusOne eci) := by
  unfold rilCellToUrilCellData
  refine .bind_eq fun tech htech => ?_
  rw [numberOf_eq htech]
  cases tech with
  | none => exact .pure rfl
  | some tech =>
      refine .bind_of (rilStrToIntOrMinusOne_value tac) ?_
      rintro _ rfl
      refine .bind_of (rilStrToIntOrMinusOne_value cid) ?_
      rintro _ rfl
      refine .bind_of (rilStrToIntOrMinusOne_value eci) ?_
      rintro _ rfl
      have hlte : techIn (some tech) lteTechs = true ↔ tech = RadioTech.lte :=
        decide_eq_true_iff.trans List.mem_singleton
      unfold withDataCell
      refine .ite (fun h => .pure ?_) fun h => .pure ?_
      · rw [if_pos (hlte.mpr h)]
        rfl
      · rw [if_neg (hlte.not.mpr h)]

def flagOf (b : Bool) : UInt8 := if b then 1 else 0

def entriesConverted (info : RegistrationInfo) (data : RilData) (uninitialised : UInt32) :
    Except Fault (Store info × Bool) :=
  rilNwRegToUrilNwReg (Store.untouched info) (entryAt data 0) (entryAt data 3)
    (entryAt data 13) uninitialised

/-- What the answer to the first request makes of a response. -/
def VoiceAnswered (before after : GetRegistrationStatusResp) (e : RilErrno) (data : RilData)
    (u : UInt32) : Prop :=
  if e = .success then
    ∃ registration, entriesConverted before.voiceRegistration data u = .ok registration ∧
      after = withVoiceCell
        { before with
          response := responseFor e
          voiceRegistration := registration.1.value
          voiceRegistrationFollows := flagOf registration.2 }
        (numberOf (entryAt data 3)) (numberOrMinusOne (entryAt data 1))
        (numberOrMinusOne (entryAt data 2)) (numberOrMinusOne (entryAt data 14))
  else after = { before with response := responseFor e }

def DataAnswered (before after : GetRegistrationStatusResp) (e : RilErrno) (data : RilData)
    (u : UInt32) : Prop :=
  if e = .success then
    ∃ registration, entriesConverted before.dataRegistration data u = .ok registration ∧
      after = withDataCell
        { before with
          response := responseFor e
          dataRegistration := registration.1.value
          dataRegistrationFollows := flagOf registration.2 }
        (numberOf (entryAt data 3)) (numberOrMinusOne (entryAt data 1))
        (numberOrMinusOne (entryAt data 2)) (numberOrMinusOne (entryAt data 14))
  else after = { before with response := responseFor e }

theorem registrationStatus_fits : sizeof GetRegistrationStatusResp ≤ maxUrilPayloadSize := by
  decide

theorem cellEntries_ensures {α : Type} {data : RilData}
    {f : CharPtr → CharPtr → CharPtr → CharPtr → Except Fault α} {post : α → Prop}
    (h : Ensures (f (entryAt data 3) (entryAt data 1) (entryAt data 2) (entryAt data 14)) post) :
    Ensures (do
      let radiotech ← entryOf data (numEntries data) 3
      let first ← entryOf data (numEntries data) 1
      let second ← entryOf data (numEntries data) 2
      let third ← entryOf data (numEntries data) 14
      f radiotech first second third) post := by
  refine .bind_of (entryOf_entryAt data 3) ?_
  rintro _ rfl
  refine .bind_of (entryOf_entryAt data 1) ?_
  rintro _ rfl
  refine .bind_of (entryOf_entryAt data 2) ?_
  rintro _ rfl
  refine .bind_of (entryOf_entryAt data 14) ?_
  rintro _ rfl
  exact h

theorem registrationEntries_ensures {α : Type} {data : RilData}
    {f : CharPtr → CharPtr → CharPtr → Except Fault α} {post : α → Prop}
    (h : Ensures (f (entryAt data 0) (entryAt data 3) (entryAt data 13)) post) :
    Ensures (do
      let regstate ← entryOf data (numEntries data) 0
      let radiotech ← entryOf data (numEntries data) 3
      let denyreason ← entryOf data (numEntries data) 13
      f regstate radiotech denyreason) post := by
  refine .bind_of (entryOf_entryAt data 0) ?_
  rintro _ rfl
  refine .bind_of (entryOf_entryAt data 3) ?_
  rintro _ rfl
  refine .bind_of (entryOf_entryAt data 13) ?_
  rintro _ rfl
  exact h

theorem voiceRegState_answered (rsp : UrilProtocolMsg) (e : RilErrno) (data : RilData)
    (u : UInt32) :
    Ensures (handleRilVoiceRegStateResponseV1 rsp e data u) fun h =>
      VoiceAnswered (structOf _ rsp) (structOf _ h.rsp) e data u := by
  unfold handleRilVoiceRegStateResponseV1 VoiceAnswered
  refine .ite (fun he => ?_) fun he => ?_
  · simp only [if_pos he, ← numEntries.eq_def]
    refine registrationEntries_ensures (.bind_eq fun registration hregistration => ?_)
    refine cellEntries_ensures
      (.bind_of (rilCellToUrilCellVoice_value _ _ _ _ _) fun filled hfilled => ?_)
    refine .pure ⟨registration, hregistration, ?_⟩
    rw [structOf_respond _ _ _ _ registrationStatus_fits, hfilled]
    rfl
  · simp only [if_neg he]
    refine .pure ?_
    rw [structOf_respond _ _ _ _ registrationStatus_fits]
    rfl

theorem dataRegState_answered (rsp : UrilProtocolMsg) (e : RilErrno) (data : RilData)
    (u : UInt32) :
    Ensures (handleRilDataRegStateResponseV1 rsp e data u) fun h =>
      DataAnswered (structOf _ rsp) (structOf _ h.rsp) e data u := by
  unfold handleRilDataRegStateResponseV1 DataAnswered
  refine .ite (fun he => ?_) fun he => ?_
  · simp only [if_pos he, ← numEntries.eq_def]
    refine registrationEntries_ensures (.bind_eq fun registration hregistration => ?_)
    refine cellEntries_ensures
      (.bind_of (rilCellToUrilCellData_value _ _ _ _ _) fun filled hfilled => ?_)
    refine .pure ⟨registration, hregistration, ?_⟩
    rw [structOf_respond _ _ _ _ registrationStatus_fits, hfilled]
    rfl
  · simp only [if_neg he]
    refine .pure ?_
    rw [structOf_respond _ _ _ _ registrationStatus_fits]
    rfl

/-- Three digits copied to the start of a code, by `strncpy`. -/
def withDigits (code : Vector UInt8 4) (digits : List UInt8) : Vector UInt8 4 :=
  overwrite code ((digits ++ List.replicate 3 0).take 3)

/-- The operator's numeric name is noted, in the first cell that is there. -/
def withNumericName (status : GetRegistrationStatusResp) (numeric : CString) :
    GetRegistrationStatusResp :=
  let mcc (code : Vector UInt8 4) := withDigits code numeric.chars
  let mnc (code : Vector UInt8 4) := withDigits code (numeric.chars.drop 3)
  if status.nwCellIdentityGsmFollows ≠ 0 then
    let cell := status.nwCellIdentityGsm
    { status with nwCellIdentityGsm := { cell with mcc := mcc cell.mcc, mnc := mnc cell.mnc } }
  else if status.nwCellIdentityWcdmaFollows ≠ 0 then
    let cell := status.nwCellIdentityWcdma
    { status with nwCellIdentityWcdma := { cell with mcc := mcc cell.mcc, mnc := mnc cell.mnc } }
  else if status.nwCellIdentityLteFollows ≠ 0 then
    let cell := status.nwCellIdentityLte
    { status with nwCellIdentityLte := { cell with mcc := mcc cell.mcc, mnc := mnc cell.mnc } }
  else if status.nwCellIdentityTdscdmaFollows ≠ 0 then
    let cell := status.nwCellIdentityTdscdma
    { status with
      nwCellIdentityTdscdma := { cell with mcc := mcc cell.mcc, mnc := mnc cell.mnc } }
  else status

def OperatorAnswered (before after : GetRegistrationStatusResp) (e : RilErrno) (data : RilData) :
    Prop :=
  if e = .success then
    after =
      match entryAt data 2 with
      | .to numeric => withNumericName { before with response := responseFor e } numeric
      | _ => { before with response := responseFor e }
  else after = { before with response := responseFor e }

theorem operatorAnswered_numeric {before after : GetRegistrationStatusResp} {e : RilErrno}
    {data : RilData} {numeric : CString} (h : OperatorAnswered before after e data)
    (hsuccess : e = .success) (hnumeric : entryAt data 2 = .to numeric) :
    after = withNumericName { before with response := responseFor e } numeric := by
  rw [OperatorAnswered, if_pos hsuccess, hnumeric] at h
  exact h

theorem withNumericName_of_none {status : GetRegistrationStatusResp}
    (h : mccMncFields status = none) (numeric : CString) :
    withNumericName status numeric = status := by
  unfold mccMncFields at h
  unfold withNumericName
  split at h
  · cases h
  · rename_i hgsm
    rw [if_neg hgsm]
    split at h
    · cases h
    · rename_i hwcdma
      rw [if_neg hwcdma]
      split at h
      · cases h
      · rename_i hlte
        rw [if_neg hlte]
        split at h
        · cases h
        · rename_i htdscdma
          rw [if_neg htdscdma]

theorem withNumericName_of_some {initial : GetRegistrationStatusResp} (status : Store initial)
    {mcc mnc : Field GetRegistrationStatusResp (Vector UInt8 4)}
    (h : mccMncFields status.value = some (mcc, mnc)) {numeric rest : CString}
    (hrest : rest.chars = numeric.chars.drop 3) :
    ((status.strncpy mcc numeric.chars 3 mccDigits_le).strncpy mnc rest.chars 3
      mccDigits_le).value = withNumericName status.value numeric := by
  rw [hrest]
  unfold mccMncFields at h
  unfold withNumericName
  split at h
  · rename_i hgsm
    rw [if_pos hgsm]
    cases h
    rfl
  · rename_i hgsm
    rw [if_neg hgsm]
    split at h
    · rename_i hwcdma
      rw [if_pos hwcdma]
      cases h
      rfl
    · rename_i hwcdma
      rw [if_neg hwcdma]
      split at h
      · rename_i hlte
        rw [if_pos hlte]
        cases h
        rfl
      · rename_i hlte
        rw [if_neg hlte]
        split at h
        · rename_i htdscdma
          rw [if_pos htdscdma]
          cases h
          rfl
        · cases h

theorem afterMcc_chars (numeric : CString) :
    Ensures (afterMcc numeric) fun rest => rest.chars = numeric.chars.drop 3 :=
  .ite (fun _ => .ok rfl) fun _ => .error _

theorem getOperator_answered (rsp : UrilProtocolMsg) (e : RilErrno) (data : RilData) :
    Ensures (handleRilGetOperatorResponseV1 rsp e data) fun h =>
      OperatorAnswered (structOf _ rsp) (structOf _ h.rsp) e data := by
  unfold handleRilGetOperatorResponseV1 OperatorAnswered
  refine .ite (fun he => ?_) fun he => ?_
  · simp only [if_pos he, ← numEntries.eq_def]
    cases hfields : mccMncFields
        (startStruct GetRegistrationStatusResp.responseField rsp e).value with
    | none =>
        refine .pure ?_
        rw [structOf_respond _ _ _ _ registrationStatus_fits]
        rcases entryAt data 2 with _ | numeric | _
        · rfl
        · exact (withNumericName_of_none hfields numeric).symm
        · rfl
    | some fields =>
        refine .bind_of (entryOf_entryAt data 2) ?_
        rintro _ rfl
        rcases entryAt data 2 with _ | numeric | _
        · refine .pure ?_
          rw [structOf_respond _ _ _ _ registrationStatus_fits]
          rfl
        · dsimp only [CharPtr.string]
          rw [ok_bind]
          refine .bind_of (afterMcc_chars numeric) fun rest hrest => .pure ?_
          rw [structOf_respond _ _ _ _ registrationStatus_fits,
            withNumericName_of_some _ hfields hrest]
          rfl
        · exact .error _
  · simp only [if_neg he]
    refine .pure ?_
    rw [structOf_respond _ _ _ _ registrationStatus_fits]
    rfl

/-- A state and a technology make a registration that is denied. -/
def Denied (regstate radiotech : CharPtr) : Prop :=
  (∃ state ∈ numberOf regstate, state ∈ [3, 13]) ∧ numberOf radiotech ≠ none

/-- The second answer is read as `ril.h` documents it: the cell of an LTE registration is
in entries 6, 7 and 8, and entry 4 is the deny reason. -/
def DataLayoutHonoured (rsp : UrilProtocolMsg) (data : RilData) : Prop :=
  ∀ u h, handleRilDataRegStateResponseV1 rsp .success data u = .ok h →
    let after := structOf GetRegistrationStatusResp h.rsp
    (numberOf (entryAt data 3) = some RadioTech.lte →
      after.nwCellIdentityLte.tac = (numberOrMinusOne (entryAt data 6)).toUInt16 ∧
        after.nwCellIdentityLte.pci = (numberOrMinusOne (entryAt data 7)).toUInt16 ∧
          after.nwCellIdentityLte.ci = numberOrMinusOne (entryAt data 8)) ∧
      (Denied (entryAt data 0) (entryAt data 3) →
        after.dataRegistration.denyReason = statedReason (entryAt data 4))

/-- The entries of the cell say the same as those that the code looks at, and where the
registration is denied, entry 13 is a number and entry 4 gives the general reason. -/
def LayoutsAgree (data : RilData) : Prop :=
  (numberOf (entryAt data 3) = some RadioTech.lte →
    (numberOrMinusOne (entryAt data 1)).toUInt16 = (numberOrMinusOne (entryAt data 6)).toUInt16 ∧
      (numberOrMinusOne (entryAt data 2)).toUInt16 =
          (numberOrMinusOne (entryAt data 7)).toUInt16 ∧
        numberOrMinusOne (entryAt data 14) = numberOrMinusOne (entryAt data 8)) ∧
    (Denied (entryAt data 0) (entryAt data 3) →
      numberOf (entryAt data 13) ≠ none ∧
        statedReason (entryAt data 4) = UrilNwDenyReason.general)

theorem reportedReason_eq_iff {p : CharPtr} {reason : UInt32} :
    (∀ u, reportedReason p u = reason) ↔
      numberOf p ≠ none ∧ reason = UrilNwDenyReason.general := by
  unfold reportedReason
  cases numberOf p with
  | none =>
      refine iff_of_false (fun h => ?_) (fun h => h.1 rfl)
      exact absurd ((h 0).trans (h 1).symm) (by decide)
  | some code =>
      refine ⟨fun h => ⟨Option.some_ne_none code, (h 0).symm⟩, fun h _ => h.2.symm⟩

theorem converted_denyReason {info : RegistrationInfo} {regInfo : Store info}
    {regstate radiotech : CharPtr} {reason : UInt32} {result : Store info × Bool}
    (h : Converted regInfo regstate radiotech reason result) :
    (Denied regstate radiotech → result.1.value.denyReason = reason) ∧
      (¬ Denied regstate radiotech →
        result.1.value.denyReason = regInfo.value.denyReason) := by
  revert h
  unfold Converted Denied
  cases numberOf regstate with
  | none =>
      rintro rfl
      exact ⟨fun h => absurd h.1 (by simp), fun _ => rfl⟩
  | some state =>
      cases numberOf radiotech with
      | none =>
          rintro rfl
          exact ⟨fun h => absurd rfl h.2, fun _ => rfl⟩
      | some tech =>
          rintro ⟨-, rat, -, hvalue⟩
          rw [hvalue]
          constructor
          · rintro ⟨⟨_, ⟨⟩, hdenied⟩, -⟩
            exact if_pos hdenied
          · intro hnot
            refine if_neg fun hdenied => hnot ?_
            exact ⟨⟨state, rfl, hdenied⟩, Option.some_ne_none tech⟩

theorem withDataCell_dataRegistration (status : GetRegistrationStatusResp)
    (tech : Option UInt32) (tac cid eci : UInt32) :
    (withDataCell status tech tac cid eci).dataRegistration = status.dataRegistration := by
  unfold withDataCell
  split
  · rfl
  · rfl

theorem dataRegState_reported {rsp : UrilProtocolMsg} {data : RilData} {u : UInt32}
    {h : Handled} (hrun : handleRilDataRegStateResponseV1 rsp .success data u = .ok h) :
    let before := structOf GetRegistrationStatusResp rsp
    let after := structOf GetRegistrationStatusResp h.rsp
    (numberOf (entryAt data 3) = some RadioTech.lte →
      after.nwCellIdentityLte.tac = (numberOrMinusOne (entryAt data 1)).toUInt16 ∧
        after.nwCellIdentityLte.pci = (numberOrMinusOne (entryAt data 2)).toUInt16 ∧
          after.nwCellIdentityLte.ci = numberOrMinusOne (entryAt data 14)) ∧
      ∃ registration, entriesConverted before.dataRegistration data u = .ok registration ∧
        after.dataRegistration = registration.1.value := by
  obtain ⟨registration, hregistration, hafter⟩ :
      ∃ registration, entriesConverted _ data u = .ok registration ∧ _ :=
    dataRegState_answered rsp .success data u h hrun
  dsimp only
  rw [hafter]
  constructor
  · intro hlte
    rw [hlte]
    exact ⟨rfl, rfl, rfl⟩
  · exact ⟨registration, hregistration, withDataCell_dataRegistration _ _ _ _ _⟩

theorem dataRegState_denyReason {rsp : UrilProtocolMsg} {data : RilData} {u : UInt32}
    {h : Handled} (hrun : handleRilDataRegStateResponseV1 rsp .success data u = .ok h)
    (hdenied : Denied (entryAt data 0) (entryAt data 3)) :
    (structOf GetRegistrationStatusResp h.rsp).dataRegistration.denyReason =
      reportedReason (entryAt data 13) u := by
  obtain ⟨-, registration, hregistration, hafter⟩ := dataRegState_reported hrun
  rw [hafter]
  exact (converted_denyReason
    (rilNwRegToUrilNwReg_converted _ _ _ _ _ _ hregistration)).1 hdenied

/-- The answers that are read as documented. -/
theorem data_answer_layout {rsp : UrilProtocolMsg} {data : RilData}
    (hruns : ∀ u, Succeeds (handleRilDataRegStateResponseV1 rsp .success data u)) :
    DataLayoutHonoured rsp data ↔ LayoutsAgree data := by
  constructor
  · intro h
    constructor
    · intro hlte
      obtain ⟨handled, hrun⟩ := hruns 0
      have hcell := (dataRegState_reported hrun).1 hlte
      have hlayout := (h 0 handled hrun).1 hlte
      exact ⟨hcell.1.symm.trans hlayout.1, hcell.2.1.symm.trans hlayout.2.1,
        hcell.2.2.symm.trans hlayout.2.2⟩
    · intro hdenied
      apply reportedReason_eq_iff.mp
      intro u
      obtain ⟨handled, hrun⟩ := hruns u
      exact (dataRegState_denyReason hrun hdenied).symm.trans ((h u handled hrun).2 hdenied)
  · rintro ⟨hcells, hreasons⟩ u handled hrun
    obtain ⟨hcell, -⟩ := dataRegState_reported hrun
    constructor
    · intro hlte
      have hsame := hcells hlte
      have hread := hcell hlte
      exact ⟨hread.1.trans hsame.1, hread.2.1.trans hsame.2.1, hread.2.2.trans hsame.2.2⟩
    · intro hdenied
      rw [dataRegState_denyReason hrun hdenied]
      exact reportedReason_eq_iff.mpr (hreasons hdenied) u

theorem registrationAcceptable_textArray {texts : List (Option CString)}
    (hne : texts ≠ []) (hlength : texts.length < 2 ^ 31) (state tech : UInt32)
    (hstate : numberOf (textPtr texts[0]?.join) = some state)
    (hmem : state ∈ [0, 1, 2, 3, 4, 5, 10, 12, 13, 14])
    (htech : numberOf (textPtr texts[3]?.join) = some tech) (hle : tech ≤ RadioTech.iwlan) :
    RegistrationAcceptable (textArray texts) := by
  unfold RegistrationAcceptable RegistrationKnown CellReadable
  simp only [entryAt_textArray hlength, hstate, htech, Option.some.injEq, forall_eq']
  exact ⟨.inr (textArray_bytes_ne hne),
    ⟨textPtr_ne_wild _, textPtr_ne_wild _, hmem, fun _ => textPtr_ne_wild _, hle⟩,
    textPtr_ne_wild _, fun _ => ⟨textPtr_ne_wild _, textPtr_ne_wild _, textPtr_ne_wild _⟩⟩

def lteRegistration : List (Option CString) :=
  [some one, none, none, some fourteen, none, none, some seven]

def deniedRegistration : List (Option CString) :=
  [some three, none, none, some fourteen, some seven]

theorem lteRegistration_entryAt (i : Nat) :
    entryAt (textArray lteRegistration) i = textPtr lteRegistration[i]?.join :=
  entryAt_textArray (by decide) i

theorem deniedRegistration_entryAt (i : Nat) :
    entryAt (textArray deniedRegistration) i = textPtr deniedRegistration[i]?.join :=
  entryAt_textArray (by decide) i

theorem lteRegistration_acceptable : RegistrationAcceptable (textArray lteRegistration) :=
  registrationAcceptable_textArray (by decide) (by decide) 1 14 (by decide) (by decide)
    (by decide) (by decide)

theorem deniedRegistration_acceptable : RegistrationAcceptable (textArray deniedRegistration) :=
  registrationAcceptable_textArray (by decide) (by decide) 3 14 (by decide) (by decide)
    (by decide) (by decide)

theorem data_answer_layout_lte :
    DataLayoutHonoured UrilProtocolMsg.zeroed (textArray lteRegistration) ↔
      LayoutsAgree (textArray lteRegistration) :=
  data_answer_layout fun _ => dataRegState_succeeds.mpr fun _ => lteRegistration_acceptable

/-- The cell is looked for elsewhere, and so is the deny reason. -/
theorem data_layout_ignored :
    ¬ DataLayoutHonoured UrilProtocolMsg.zeroed (textArray lteRegistration) ∧
      ¬ DataLayoutHonoured UrilProtocolMsg.zeroed (textArray deniedRegistration) := by
  constructor
  · intro h
    obtain ⟨handled, hrun⟩ : Succeeds (handleRilDataRegStateResponseV1 .zeroed .success
        (textArray lteRegistration) 0) :=
      dataRegState_succeeds.mpr fun _ => lteRegistration_acceptable
    have hread := (dataRegState_reported hrun).1
    have hlayout := (h 0 handled hrun).1
    simp only [lteRegistration_entryAt] at hread hlayout
    have htac := (hread (by decide)).1.symm.trans (hlayout (by decide)).1
    exact absurd htac (by decide)
  · intro h
    obtain ⟨handled, hrun⟩ : Succeeds (handleRilDataRegStateResponseV1 .zeroed .success
        (textArray deniedRegistration) 1) :=
      dataRegState_succeeds.mpr fun _ => deniedRegistration_acceptable
    have hdenied : Denied (entryAt (textArray deniedRegistration) 0)
        (entryAt (textArray deniedRegistration) 3) := by
      rw [deniedRegistration_entryAt, deniedRegistration_entryAt]
      exact ⟨⟨3, by decide, by decide⟩, by decide⟩
    have hreason := (dataRegState_denyReason hrun hdenied).symm.trans
      ((h 1 handled hrun).2 hdenied)
    rw [deniedRegistration_entryAt, deniedRegistration_entryAt] at hreason
    exact absurd hreason (by decide)

end UnifiedRil.RegistrationAnswers

import UnifiedRil.AnswerFaults

namespace UnifiedRil.SignalStrength

open UnifiedRil.Library.Bytes
open UnifiedRil.Library.Layout
open UnifiedRil.Library.Results
open UnifiedRil.Protocol
open UnifiedRil.Messages
open UnifiedRil.Ril
open UnifiedRil.RilConversion
open UnifiedRil.RilHandlers
open UnifiedRil.RilAdapter
open UnifiedRil.RilResponses
open UnifiedRil.AnswerFaults

def gwStrength (data : RilData) : UInt32 := intAt data 0

def gwBitErrorRate (data : RilData) : UInt32 := intAt data 4

def lteStrength (data : RilData) : UInt32 := intAt data 28

def lteRsrp (data : RilData) : UInt32 := intAt data 32

def lteRsrq (data : RilData) : UInt32 := intAt data 36

def lteRssnr (data : RilData) : UInt32 := intAt data 40

def tdscdmaRscp (data : RilData) : UInt32 := intAt data 52

/-- The LTE block is there, and has a known value. -/
def LteMeasured (data : RilData) : Prop :=
  sizeofSignalStrengthV6 ≤ data.dataLen ∧
    (lteStrength data ≠ 99 ∨ lteRsrp data ≠ intMax ∨ lteRsrq data ≠ intMax ∨
      lteRssnr data ≠ intMax)

/-- The TD-SCDMA block is there, and its value is known. -/
def TdscdmaMeasured (data : RilData) : Prop :=
  sizeofSignalStrengthV10 ≤ data.dataLen ∧ tdscdmaRscp data ≠ intMax

instance : DecidablePred LteMeasured := fun _ => inferInstanceAs (Decidable (_ ∧ _))
instance : DecidablePred TdscdmaMeasured := fun _ => inferInstanceAs (Decidable (_ ∧ _))

def signed (value : UInt32) : Int := value.toInt32.toInt

theorem signed_eq_bmod (value : UInt32) : signed value = (value.toNat : Int).bmod (2 ^ 32) := by
  rw [signed, Int32.toInt, UInt32.toBitVec_toInt32, BitVec.toInt_eq_toNat_bmod,
    UInt32.toNat_toBitVec]

/-- The number survives in eight bits. -/
def Fits (value : UInt32) : Prop := -128 ≤ signed value ∧ signed value ≤ 127

theorem int8Of_eq_signed {value : UInt32} :
    (int8Of value).toInt = signed value ↔ Fits value := by
  have hnarrow : (int8Of value).toInt = (value.toNat : Int).bmod (2 ^ 8) := by
    rw [int8Of, Int8.toInt, UInt8.toBitVec_toInt8, BitVec.toInt_eq_toNat_bmod,
      UInt8.toNat_toBitVec, UInt32.toNat_toUInt8, Int.natCast_mod]
    exact Int.emod_bmod (value.toNat : Int) (2 ^ 8)
  rw [Fits, hnarrow, signed_eq_bmod, Int.bmod_def, Int.bmod_def]
  push_cast
  split_ifs <;> omega

/-- The response, as a function of the measurements. -/
def strengthReported (before : GetSignalStrengthResp) (data : RilData) : GetSignalStrengthResp :=
  let before := { before with response := responseFor .success }
  if gwStrength data ≠ 99 ∨ gwBitErrorRate data ≠ 99 then
    { before with
      gsmSignalStrengthFollows := 1
      gsmSignalStrength := ⟨int8Of (gwStrength data)⟩ }
  else if LteMeasured data then
    { before with
      lteSignalStrengthFollows := 1
      lteSignalStrength :=
        ⟨int8Of (lteStrength data), int8Of (lteRsrq data), int8Of (lteRsrp data),
          int8Of (lteRssnr data)⟩ }
  else if TdscdmaMeasured data then
    { before with
      tdscdmaSignalStrengthFollows := 1
      tdscdmaSignalStrength :=
        { before.tdscdmaSignalStrength with rscp := int8Of (tdscdmaRscp data) } }
  else before

theorem int_value (data : RilData) (off : Nat) :
    Ensures (data.int off) fun value => value = intAt data off := by
  intro value hvalue
  by_cases h : off + 4 ≤ data.bytes.length
  · rw [int_eq h] at hvalue
    exact (Except.ok.inj hvalue).symm
  · rw [int_error h] at hvalue
    cases hvalue

theorem lteKnown_value (data : RilData) :
    Ensures (lteKnown data) fun known => known = true ↔ LteMeasured data := by
  unfold lteKnown LteMeasured
  refine .ite (fun hsize => ?_) fun hsize => ?_
  · refine .bind_of (int_value data 28) ?_
    rintro _ rfl
    refine .bind_of (int_value data 32) ?_
    rintro _ rfl
    refine .bind_of (int_value data 36) ?_
    rintro _ rfl
    refine .bind_of (int_value data 40) ?_
    rintro _ rfl
    refine .pure (decide_eq_true_iff.trans ?_)
    exact ⟨fun h => ⟨hsize, h⟩, fun h => h.2⟩
  · exact .ok (iff_of_false Bool.false_ne_true fun h => hsize h.1)

theorem tdscdmaKnown_value (data : RilData) :
    Ensures (tdscdmaKnown data) fun known => known = true ↔ TdscdmaMeasured data := by
  unfold tdscdmaKnown TdscdmaMeasured
  refine .ite (fun hsize => ?_) fun hsize => ?_
  · refine .bind_of (int_value data 52) ?_
    rintro _ rfl
    refine .pure (decide_eq_true_iff.trans ?_)
    exact ⟨fun h => ⟨hsize, h⟩, fun h => h.2⟩
  · exact .ok (iff_of_false Bool.false_ne_true fun h => hsize h.1)

theorem signalStrength_fits : sizeof GetSignalStrengthResp ≤ maxUrilPayloadSize := by decide

theorem getSignalStrength_reported (rsp : UrilProtocolMsg) (data : RilData) :
    Ensures (handleRilGetSignalStrengthResponseV1 rsp .success data) fun h =>
      structOf _ h.rsp = strengthReported (structOf _ rsp) data := by
  unfold handleRilGetSignalStrengthResponseV1 strengthReported
  rw [if_pos rfl]
  refine .bind fun _ => ?_
  refine .bind_of (int_value data 0) ?_
  rintro _ rfl
  refine .bind_of (int_value data 4) ?_
  rintro _ rfl
  refine .ite (fun hgw => .pure ?_) fun hgw => ?_
  · rw [structOf_respond _ _ _ _ signalStrength_fits]
    exact (if_pos hgw).symm
  · refine .bind_of (lteKnown_value data) fun lte hlte => .ite (fun h => ?_) fun h => ?_
    · refine .bind_of (int_value data 28) ?_
      rintro _ rfl
      refine .bind_of (int_value data 36) ?_
      rintro _ rfl
      refine .bind_of (int_value data 32) ?_
      rintro _ rfl
      refine .bind_of (int_value data 40) ?_
      rintro _ rfl
      refine .pure ?_
      rw [structOf_respond _ _ _ _ signalStrength_fits]
      exact ((if_neg hgw).trans (if_pos (hlte.mp h))).symm
    · refine .bind_of (tdscdmaKnown_value data) fun tdscdma htdscdma => ?_
      refine .ite (fun h' => ?_) fun h' => .pure ?_
      · refine .bind_of (int_value data 52) ?_
        rintro _ rfl
        refine .pure ?_
        rw [structOf_respond _ _ _ _ signalStrength_fits]
        exact ((if_neg hgw).trans ((if_neg (hlte.not.mp h)).trans (if_pos (htdscdma.mp h')))).symm
      · rw [structOf_respond _ _ _ _ signalStrength_fits]
        exact ((if_neg hgw).trans ((if_neg (hlte.not.mp h)).trans
          (if_neg (htdscdma.not.mp h')))).symm

/-- A value that is reported as it was measured, unless it is unknown. -/
def Same (unknown measured : UInt32) (reported : Int8) : Prop :=
  measured ≠ unknown → reported.toInt = signed measured

/-- The report of a technology is that of its measurements, at most one
technology is reported, and an unknown strength hides no other. -/
structure Truthful (data : RilData) (status : GetSignalStrengthResp) : Prop where
  atMostOne : status.gsmSignalStrengthFollows.toNat + status.wcdmaSignalStrengthFollows.toNat +
    status.tdscdmaSignalStrengthFollows.toNat + status.lteSignalStrengthFollows.toNat ≤ 1
  gsm : status.gsmSignalStrengthFollows ≠ 0 →
    gwStrength data ≠ 99 ∧ Same 99 (gwStrength data) status.gsmSignalStrength.rssi
  lte : status.lteSignalStrengthFollows ≠ 0 →
    Same 99 (lteStrength data) status.lteSignalStrength.rssi ∧
      Same intMax (lteRsrq data) status.lteSignalStrength.rsrq ∧
        Same intMax (lteRsrp data) status.lteSignalStrength.rsrp ∧
          Same intMax (lteRssnr data) status.lteSignalStrength.snr
  tdscdma : status.tdscdmaSignalStrengthFollows ≠ 0 →
    Same intMax (tdscdmaRscp data) status.tdscdmaSignalStrength.rscp
  lteReported : gwStrength data = 99 → LteMeasured data → status.lteSignalStrengthFollows ≠ 0

def KnownFits (unknown value : UInt32) : Prop := value ≠ unknown → Fits value

/-- The measurements that the code can report. -/
structure Reportable (data : RilData) : Prop where
  gwUnknown : gwStrength data = 99 → gwBitErrorRate data = 99
  gw : KnownFits 99 (gwStrength data)
  lte : gwStrength data = 99 → LteMeasured data →
    KnownFits 99 (lteStrength data) ∧ KnownFits intMax (lteRsrq data) ∧
      KnownFits intMax (lteRsrp data) ∧ KnownFits intMax (lteRssnr data)
  tdscdma : gwStrength data = 99 → ¬ LteMeasured data → TdscdmaMeasured data →
    Fits (tdscdmaRscp data)

theorem same_int8Of {unknown value : UInt32} :
    Same unknown value (int8Of value) ↔ KnownFits unknown value :=
  forall_congr' fun _ => int8Of_eq_signed

structure Unreported (status : GetSignalStrengthResp) : Prop where
  gsm : status.gsmSignalStrengthFollows = 0
  wcdma : status.wcdmaSignalStrengthFollows = 0
  tdscdma : status.tdscdmaSignalStrengthFollows = 0
  lte : status.lteSignalStrengthFollows = 0

theorem gsm_truthful {before : GetSignalStrengthResp} (hbefore : Unreported before)
    {data : RilData} (hgw : gwStrength data ≠ 99 ∨ gwBitErrorRate data ≠ 99) :
    Truthful data (strengthReported before data) ↔ Reportable data := by
  rw [strengthReported, if_pos hgw]
  constructor
  · intro h
    have hgsm := h.gsm (show (1 : UInt8) ≠ 0 by decide)
    exact
      { gwUnknown := fun hunknown => absurd hunknown hgsm.1
        gw := same_int8Of.mp hgsm.2
        lte := fun hunknown => absurd hunknown hgsm.1
        tdscdma := fun hunknown => absurd hunknown hgsm.1 }
  · intro h
    have hknown : gwStrength data ≠ 99 := fun hunknown =>
      hgw.elim (fun hne => hne hunknown) fun hne => hne (h.gwUnknown hunknown)
    refine ⟨?_, fun _ => ⟨hknown, same_int8Of.mpr h.gw⟩, fun hlte => absurd hbefore.lte hlte,
      fun htdscdma => absurd hbefore.tdscdma htdscdma, fun hunknown => absurd hunknown hknown⟩
    simp [hbefore.wcdma, hbefore.tdscdma, hbefore.lte]

theorem lte_truthful {before : GetSignalStrengthResp} (hbefore : Unreported before)
    {data : RilData} (hgw : gwStrength data = 99) (hber : gwBitErrorRate data = 99)
    (hlte : LteMeasured data) :
    Truthful data (strengthReported before data) ↔ Reportable data := by
  rw [strengthReported, if_neg fun h => h.elim (absurd hgw) (absurd hber), if_pos hlte]
  constructor
  · intro h
    obtain ⟨hstrength, hrsrq, hrsrp, hrssnr⟩ := h.lte (show (1 : UInt8) ≠ 0 by decide)
    exact
      { gwUnknown := fun _ => hber
        gw := fun hknown => absurd hgw hknown
        lte := fun _ _ => ⟨same_int8Of.mp hstrength, same_int8Of.mp hrsrq,
          same_int8Of.mp hrsrp, same_int8Of.mp hrssnr⟩
        tdscdma := fun _ hnot => absurd hlte hnot }
  · intro h
    obtain ⟨hstrength, hrsrq, hrsrp, hrssnr⟩ := h.lte hgw hlte
    refine ⟨?_, fun hgsm => absurd hbefore.gsm hgsm,
      fun _ => ⟨same_int8Of.mpr hstrength, same_int8Of.mpr hrsrq, same_int8Of.mpr hrsrp,
        same_int8Of.mpr hrssnr⟩, fun htdscdma => absurd hbefore.tdscdma htdscdma,
      fun _ _ => show (1 : UInt8) ≠ 0 by decide⟩
    simp [hbefore.gsm, hbefore.wcdma, hbefore.tdscdma]

theorem tdscdma_truthful {before : GetSignalStrengthResp} (hbefore : Unreported before)
    {data : RilData} (hgw : gwStrength data = 99) (hber : gwBitErrorRate data = 99)
    (hlte : ¬ LteMeasured data) :
    Truthful data (strengthReported before data) ↔ Reportable data := by
  rw [strengthReported, if_neg fun h => h.elim (absurd hgw) (absurd hber), if_neg hlte]
  by_cases htdscdma : TdscdmaMeasured data
  · rw [if_pos htdscdma]
    constructor
    · intro h
      have hrscp := h.tdscdma (show (1 : UInt8) ≠ 0 by decide)
      exact
        { gwUnknown := fun _ => hber
          gw := fun hknown => absurd hgw hknown
          lte := fun _ hmeasured => absurd hmeasured hlte
          tdscdma := fun _ _ hmeasured => same_int8Of.mp hrscp hmeasured.2 }
    · intro h
      have hrscp := h.tdscdma hgw hlte htdscdma
      refine ⟨?_, fun hgsm => absurd hbefore.gsm hgsm, fun hlte' => absurd hbefore.lte hlte',
        fun _ => same_int8Of.mpr fun _ => hrscp, fun _ hmeasured => absurd hmeasured hlte⟩
      simp [hbefore.gsm, hbefore.wcdma, hbefore.lte]
  · rw [if_neg htdscdma]
    refine iff_of_true ?_ ?_
    · refine ⟨?_, fun hgsm => absurd hbefore.gsm hgsm, fun hlte' => absurd hbefore.lte hlte',
        fun htdscdma' => absurd hbefore.tdscdma htdscdma', fun _ hmeasured => absurd hmeasured hlte⟩
      simp [hbefore.gsm, hbefore.wcdma, hbefore.tdscdma, hbefore.lte]
    · exact
        { gwUnknown := fun _ => hber
          gw := fun hknown => absurd hgw hknown
          lte := fun _ hmeasured => absurd hmeasured hlte
          tdscdma := fun _ _ hmeasured => absurd hmeasured htdscdma }

theorem strengthReported_truthful {before : GetSignalStrengthResp} (hbefore : Unreported before)
    (data : RilData) : Truthful data (strengthReported before data) ↔ Reportable data := by
  by_cases hgw : gwStrength data ≠ 99 ∨ gwBitErrorRate data ≠ 99
  · exact gsm_truthful hbefore hgw
  · rw [not_or, not_not, not_not] at hgw
    by_cases hlte : LteMeasured data
    · exact lte_truthful hbefore hgw.1 hgw.2 hlte
    · exact tdscdma_truthful hbefore hgw.1 hgw.2 hlte

/-- The answer is handled, without a read behind it, and reported truthfully. -/
def ReportedTruthfully (uniqueId : UInt32) (simId : UInt8) (data : RilData) : Prop :=
  ∃ h, handleRilGetSignalStrengthResponseV1
      (responseOf (makeTokenForMessage .signalStrength uniqueId simId)) .success data = .ok h ∧
    Truthful data (structOf _ h.rsp)

def blankStrength : GetSignalStrengthResp :=
  ⟨⟨0, 0⟩, 0, ⟨0⟩, 0, ⟨0, 0⟩, 0, ⟨0, 0, 0, 0⟩, 0, ⟨0, 0, 0, 0⟩⟩

theorem reportedTruthfully_iff (uniqueId : UInt32) (simId : UInt8) {data : RilData}
    (hsize : sizeofSignalStrengthV5 ≤ data.bytes.length) :
    ReportedTruthfully uniqueId simId data ↔
      Truthful data (strengthReported blankStrength data) := by
  have hread : data.bytes ≠ [] := by
    intro hnil
    rw [hnil] at hsize
    exact absurd hsize (by decide)
  have hblank : structOf GetSignalStrengthResp
      (responseOf (makeTokenForMessage .signalStrength uniqueId simId)) = blankStrength :=
    structOf_fresh rfl (by decide)
  rw [← hblank]
  constructor
  · rintro ⟨h, hrun, htruthful⟩
    rwa [getSignalStrength_reported _ _ h hrun] at htruthful
  · intro htruthful
    obtain ⟨h, hrun⟩ : Succeeds _ := getSignalStrength_succeeds.mpr fun _ =>
      ⟨length_of_readable hread ▸ hsize, hread⟩
    refine ⟨h, hrun, ?_⟩
    rwa [getSignalStrength_reported _ _ h hrun]

theorem signal_strength_truthful (uniqueId : UInt32) (simId : UInt8) {data : RilData}
    (hsize : sizeofSignalStrengthV5 ≤ data.bytes.length) :
    ReportedTruthfully uniqueId simId data ↔ Reportable data :=
  (reportedTruthfully_iff uniqueId simId hsize).trans
    (strengthReported_truthful ⟨rfl, rfl, rfl, rfl⟩ data)

/-- An answer that is an array of numbers. -/
def measurements (values : List UInt32) : RilData where
  dataLen := 4 * values.length
  bytes := values.flatMap fun value => leBytes 4 value.toNat
  strings _ := none
  readable := .inr <| by
    rw [length_flatMap_of fun _ => leBytes_length .., Nat.mul_comm]

def gsmOnly : RilData := measurements [20, 99, 0, 0, 0, 0, 0]

theorem signal_strength_truthful_gsm : ReportedTruthfully 5 0 gsmOnly ↔ Reportable gsmOnly :=
  signal_strength_truthful 5 0 (by decide)

/-- The strength is unknown, and the bit error rate is not. -/
def errorRateOnly : RilData := measurements [99, 5, 0, 0, 0, 0, 0]

/-- A reference power of -130 dBm. -/
def weakLte : RilData := measurements [99, 99, 0, 0, 0, 0, 0, 99, 130, intMax, intMax, 0]

theorem signal_strength_untruthful :
    ¬ ReportedTruthfully 5 0 errorRateOnly ∧ ¬ ReportedTruthfully 5 0 weakLte := by
  constructor
  · rw [reportedTruthfully_iff 5 0 (by decide)]
    intro h
    exact absurd (h.gsm (by decide)).1 (by decide)
  · rw [reportedTruthfully_iff 5 0 (by decide)]
    intro h
    exact absurd ((h.lte (by decide)).2.2.1 (by decide)) (by decide)

end UnifiedRil.SignalStrength

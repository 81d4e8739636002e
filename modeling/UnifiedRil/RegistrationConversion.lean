import UnifiedRil.ConversionDomains

namespace UnifiedRil.RegistrationConversion

open UnifiedRil.Library.CStrings
open UnifiedRil.Library.Layout
open UnifiedRil.Library.Results
open UnifiedRil.Messages
open UnifiedRil.Ril
open UnifiedRil.RilConversion
open UnifiedRil.ConversionDomains

/-- The registration that a state stands for, with a reason where that is a
denial. -/
def registered (info : RegistrationInfo) (state reason : UInt32) : RegistrationInfo :=
  { info with
    roaming := if state = 5 then UrilNwRoamingState.on else UrilNwRoamingState.off
    denied := if state ∈ [3, 13] then 1 else 0
    denyReason := if state ∈ [3, 13] then reason else info.denyReason
    registrationState :=
      if state ∈ [1, 5] then UrilNwService.full
      else if 10 ≤ state then UrilNwService.limited else UrilNwService.none }

/-- The result of a conversion: the texts of a state and a technology that both
are numbers make a registration, and others leave it alone. -/
def Converted {info : RegistrationInfo} (regInfo : Store info) (regstate radiotech : CharPtr)
    (reason : UInt32) (result : Store info × Bool) : Prop :=
  match numberOf regstate, numberOf radiotech with
  | some state, some tech =>
      result.2 = true ∧ ∃ rat, rilRatToUrilRat tech = .ok rat ∧
        result.1.value =
          { registered regInfo.value state reason with techDomain := UrilNwTech.none, rat := rat }
  | _, _ => result = (regInfo, false)

/-- The reason that the code reports. -/
def reportedReason (denyreason : CharPtr) (uninitialised : UInt32) : UInt32 :=
  match numberOf denyreason with
  | some _ => UrilNwDenyReason.general
  | none => uninitialised

/-- The reason that the text gives. -/
def statedReason (denyreason : CharPtr) : UInt32 :=
  (numberOf denyreason).getD UrilNwDenyReason.general

theorem writeRegState_value {info : RegistrationInfo} (regInfo : Store info) (state : UInt32)
    (denyreason : CharPtr) (u : UInt32) :
    Ensures (writeRegState regInfo state denyreason u) fun r =>
      r.value = registered regInfo.value state (reportedReason denyreason u) := by
  unfold writeRegState
  refine .ite (fun hidle => .ok ?_) fun _ => .ite (fun hdenied => .bind_eq ?_) fun _ =>
    .ite (fun hfull => .ok ?_) fun _ => .error _
  · simp only [List.mem_cons, List.not_mem_nil, or_false] at hidle
    rcases hidle with rfl | rfl | rfl | rfl | rfl | rfl <;> rfl
  · intro reason hreason
    rw [reportedReason, numberOf_eq hreason]
    refine .pure ?_
    simp only [List.mem_cons, List.not_mem_nil, or_false] at hdenied
    rcases hdenied with rfl | rfl
    · cases reason <;> rfl
    · cases reason <;> rfl
  · simp only [List.mem_cons, List.not_mem_nil, or_false] at hfull
    rcases hfull with rfl | rfl
    · rfl
    · rfl

theorem rilNwRegToUrilNwReg_converted {info : RegistrationInfo} (regInfo : Store info)
    (regstate radiotech denyreason : CharPtr) (u : UInt32) :
    Ensures (rilNwRegToUrilNwReg regInfo regstate radiotech denyreason u)
      (Converted regInfo regstate radiotech (reportedReason denyreason u)) := by
  unfold rilNwRegToUrilNwReg Converted
  refine .bind_eq fun state hstate => ?_
  rw [numberOf_eq hstate]
  cases state with
  | none => exact .pure rfl
  | some state =>
      refine .bind_eq fun tech htech => ?_
      rw [numberOf_eq htech]
      cases tech with
      | none => exact .pure rfl
      | some tech =>
          dsimp only
          refine .bind_of (writeRegState_value _ state denyreason u) fun r hr => ?_
          refine .bind_eq fun rat hrat => .pure ⟨rfl, rat, hrat, ?_⟩
          change { r.value with rat := rat } = _
          rw [hr]
          rfl

/-- A conversion says of a denial what the reason was, and nothing else depends
on it. -/
theorem converted_congr {info : RegistrationInfo} {regInfo : Store info}
    {regstate radiotech : CharPtr} {reason reason' : UInt32} {result : Store info × Bool}
    (h : Converted regInfo regstate radiotech reason result) :
    Converted regInfo regstate radiotech reason' result ↔
      ∀ state, numberOf regstate = some state → state ∈ [3, 13] →
        numberOf radiotech ≠ none → reason = reason' := by
  revert h
  unfold Converted
  cases numberOf regstate with
  | none => exact fun h => iff_of_true h nofun
  | some state =>
      cases numberOf radiotech with
      | none => exact fun h => iff_of_true h fun _ _ _ hnone => absurd rfl hnone
      | some tech =>
          rintro ⟨hresult, rat, hrat, hvalue⟩
          constructor
          · rintro ⟨-, rat', -, hvalue'⟩ _ ⟨⟩ hdenied -
            have hreason := congrArg RegistrationInfo.denyReason (hvalue.symm.trans hvalue')
            simpa only [registered, if_pos hdenied] using hreason
          · intro hsame
            refine ⟨hresult, rat, hrat, ?_⟩
            by_cases hdenied : state ∈ [3, 13]
            · rw [hvalue, hsame state rfl hdenied (Option.some_ne_none tech)]
            · rw [hvalue]
              simp only [registered, if_neg hdenied]

/-- The conversion reports the registration that the three texts describe,
whatever was on the stack. -/
def ConvertsFaithfully (info : RegistrationInfo) (regstate radiotech denyreason : CharPtr) :
    Prop :=
  ∀ u result,
    rilNwRegToUrilNwReg (Store.untouched info) regstate radiotech denyreason u = .ok result →
      Converted (Store.untouched info) regstate radiotech (statedReason denyreason) result

/-- A registration that is denied has the deny reason 0. -/
def DeniedInGeneral (regstate radiotech denyreason : CharPtr) : Prop :=
  ∀ state, numberOf regstate = some state → state ∈ [3, 13] → numberOf radiotech ≠ none →
    numberOf denyreason = some UrilNwDenyReason.general

theorem reportedReason_eq_stated {denyreason : CharPtr} :
    (∀ u, reportedReason denyreason u = statedReason denyreason) ↔
      numberOf denyreason = some UrilNwDenyReason.general := by
  unfold reportedReason statedReason
  cases numberOf denyreason with
  | none => exact iff_of_false (fun h => absurd (h 1) (by decide)) nofun
  | some code =>
      rw [Option.some.injEq, Option.getD_some]
      exact ⟨fun h => (h 0).symm, fun h _ => h.symm⟩

theorem registration_converted {info : RegistrationInfo} {regstate radiotech denyreason : CharPtr}
    (hruns : ∀ u, Succeeds
      (rilNwRegToUrilNwReg (Store.untouched info) regstate radiotech denyreason u)) :
    ConvertsFaithfully info regstate radiotech denyreason ↔
      DeniedInGeneral regstate radiotech denyreason := by
  have hconverted := rilNwRegToUrilNwReg_converted (Store.untouched info) regstate radiotech
    denyreason
  constructor
  · intro h state hstate hdenied htech
    apply reportedReason_eq_stated.mp
    intro u
    obtain ⟨result, hresult⟩ := hruns u
    exact (converted_congr (hconverted u result hresult)).mp (h u result hresult) state hstate
      hdenied htech
  · intro h u result hresult
    refine (converted_congr (hconverted u result hresult)).mpr ?_
    intro state hstate hdenied htech
    exact reportedReason_eq_stated.mpr (h state hstate hdenied htech) u

def zero : CString := ⟨ascii ['0'], by decide⟩

def one : CString := ⟨ascii ['1'], by decide⟩

def three : CString := ⟨ascii ['3'], by decide⟩

def seven : CString := ⟨ascii ['7'], by decide⟩

def fourteen : CString := ⟨ascii ['1', '4'], by decide⟩

/-- At home, and a denial for the reason 0. -/
theorem registration_converted_samples :
    (ConvertsFaithfully ⟨0, 0, 0, 0, 0, 0⟩ (.to one) (.to fourteen) .null ↔
      DeniedInGeneral (.to one) (.to fourteen) .null) ∧
    (ConvertsFaithfully ⟨0, 0, 0, 0, 0, 0⟩ (.to three) (.to fourteen) (.to zero) ↔
      DeniedInGeneral (.to three) (.to fourteen) (.to zero)) ∧
    DeniedInGeneral (.to three) (.to fourteen) (.to zero) :=
  ⟨registration_converted fun _ => ⟨_, rfl⟩, registration_converted fun _ => ⟨_, rfl⟩,
    fun _ _ _ _ => rfl⟩

/-- A reason that is given is not reported, and without one the report is
whatever was on the stack. -/
theorem denial_unfaithful :
    ¬ ConvertsFaithfully ⟨0, 0, 0, 0, 0, 0⟩ (.to three) (.to fourteen) (.to seven) ∧
      ¬ ConvertsFaithfully ⟨0, 0, 0, 0, 0, 0⟩ (.to three) (.to fourteen) .null := by
  constructor
  · intro h
    obtain ⟨-, rat, -, hvalue⟩ := h 0 _ rfl
    have hreason : (0 : UInt32) = 7 := congrArg RegistrationInfo.denyReason hvalue
    exact absurd hreason (by decide)
  · intro h
    obtain ⟨-, rat, -, hvalue⟩ := h 1 _ rfl
    have hreason : (1 : UInt32) = 0 := congrArg RegistrationInfo.denyReason hvalue
    exact absurd hreason (by decide)

end UnifiedRil.RegistrationConversion

import UnifiedRil.Library.Runs

namespace UnifiedRil.Library.Calls

open UnifiedRil.Library.Runs

variable {ι ρ σ : Type*} [DecidableEq ι]

@[ext] structure State (ι ρ σ : Type*) where
  asked : ι → Option ρ
  replied : ι → Option σ

def State.initial : State ι ρ σ := ⟨fun _ => none, fun _ => none⟩

inductive Action (ι ρ σ : Type*)
  | ask (i : ι) (request : ρ)
  | reply (i : ι) (answer : σ)

def step (s : State ι ρ σ) : Action ι ρ σ → Option (State ι ρ σ)
  | .ask i request =>
      if (s.asked i).isNone then
        some { s with asked := Function.update s.asked i (some request) }
      else none
  | .reply i answer =>
      if (s.asked i).isSome ∧ (s.replied i).isNone then
        some { s with replied := Function.update s.replied i (some answer) }
      else none

/-- A reply fits what was asked. -/
def Fitting (fits : ρ → σ → Prop) (s : State ι ρ σ) : Action ι ρ σ → Prop
  | .ask _ _ => True
  | .reply i answer => ∀ request, s.asked i = some request → fits request answer

theorem step_ask {s : State ι ρ σ} {i : ι} (hnew : s.asked i = none) (request : ρ) :
    step s (.ask i request) =
      some { s with asked := Function.update s.asked i (some request) } := by
  simp [step, hnew]

theorem step_reply {s : State ι ρ σ} {i : ι} {request : ρ} (hasked : s.asked i = some request)
    (hnone : s.replied i = none) (answer : σ) :
    step s (.reply i answer) =
      some { s with replied := Function.update s.replied i (some answer) } := by
  simp [step, hasked, hnone]

/-- In every run a reply is there for a call that asked, and fits. -/
theorem replied_fits {fits : ρ → σ → Prop} {s : State ι ρ σ}
    (hrun : Reaches step (Fitting fits) State.initial s) :
    ∀ i answer, s.replied i = some answer →
      ∃ request, s.asked i = some request ∧ fits request answer := by
  refine hrun.invariant (fun s => ∀ i answer, s.replied i = some answer →
    ∃ request, s.asked i = some request ∧ fits request answer) ?_ ?_
  · intro i answer h
    cases h
  intro s a t hinv hfits hstep i answer hreplied
  cases a with
  | ask j request =>
      obtain ⟨hnew, ht⟩ := Option.ite_none_right_eq_some.mp hstep
      obtain rfl := Option.some.inj ht
      obtain ⟨request', hasked, hfit⟩ := hinv i answer hreplied
      have hij : i ≠ j := by
        rintro rfl
        simp [hasked] at hnew
      exact ⟨request', by simpa [hij] using hasked, hfit⟩
  | reply j answer' =>
      obtain ⟨⟨hasked, -⟩, ht⟩ := Option.ite_none_right_eq_some.mp hstep
      obtain rfl := Option.some.inj ht
      obtain rfl | hij := eq_or_ne i j
      · obtain ⟨request, hrequest⟩ := Option.isSome_iff_exists.mp hasked
        simp only [Function.update_self, Option.some.injEq] at hreplied
        subst hreplied
        exact ⟨request, hrequest, hfits request hrequest⟩
      · simp only [Function.update_of_ne hij] at hreplied
        exact hinv i answer hreplied

end UnifiedRil.Library.Calls

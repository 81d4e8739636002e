import Mathlib.Logic.Function.Basic

/-!
Runs of a step function over labelled actions. The function is partial: an
action that is not enabled in a state has no successor there. A run is judged
by the actions that are allowed in it, so that one transition system serves
both for all of its runs and for the runs of a well-behaved environment.
-/

namespace UnifiedRil.Library.Runs

variable {σ α : Type*}

/-- The states reached from `s` by actions each of which is allowed in the
state in which it is taken. -/
inductive Reaches (step : σ → α → Option σ) (allowed : σ → α → Prop) (s : σ) : σ → Prop
  | refl : Reaches step allowed s s
  | tail {t u : σ} (a : α) :
      Reaches step allowed s t → allowed t a → step t a = some u →
        Reaches step allowed s u

/-- Every action is allowed. -/
def anyAction (_ : σ) (_ : α) : Prop := True

/-- What holds at the start and is kept by every allowed step holds in every
state reached. -/
theorem Reaches.invariant (Inv : σ → Prop) {step : σ → α → Option σ}
    {allowed : σ → α → Prop} {s t : σ} (hrun : Reaches step allowed s t) (hinit : Inv s)
    (hstep : ∀ t a u, Inv t → allowed t a → step t a = some u → Inv u) :
    Inv t := by
  induction hrun with
  | refl => exact hinit
  | tail a _ hallowed hnext ih => exact hstep _ a _ ih hallowed hnext

theorem Reaches.imp (Inv : σ → Prop) {step : σ → α → Option σ}
    {allowed allowed' : σ → α → Prop} {s t : σ} (hrun : Reaches step allowed s t) (hinit : Inv s)
    (hstep : ∀ t a u, Inv t → allowed t a → step t a = some u → Inv u)
    (himp : ∀ t a u, Inv t → allowed t a → step t a = some u → allowed' t a) :
    Reaches step allowed' s t := by
  induction hrun with
  | refl => exact .refl
  | tail a hbefore hallowed hnext ih =>
      have hinv := hbefore.invariant Inv hinit hstep
      exact .tail a ih (himp _ a _ hinv hallowed hnext) hnext

/-- Run a list of actions, giving up at the first one that is not enabled or
not accepted by `ok`. -/
def exec (step : σ → α → Option σ) (ok : σ → α → Bool) : σ → List α → Option σ
  | s, [] => some s
  | s, a :: rest =>
      if ok s a then
        match step s a with
        | some t => exec step ok t rest
        | none => none
      else none

theorem Reaches.head {step : σ → α → Option σ} {allowed : σ → α → Prop}
    {s t u : σ} (a : α) (hallowed : allowed s a) (hnext : step s a = some t)
    (hrun : Reaches step allowed t u) : Reaches step allowed s u := by
  induction hrun with
  | refl => exact .tail a .refl hallowed hnext
  | tail b _ hallowed' hnext' ih => exact .tail b ih hallowed' hnext'

theorem Reaches.single {step : σ → α → Option σ} {s t : σ} (a : α) (h : step s a = some t) :
    Reaches step anyAction s t :=
  .tail a .refl trivial h

theorem Reaches.trans {step : σ → α → Option σ} {allowed : σ → α → Prop} {s t u : σ}
    (hrun : Reaches step allowed s t) (hrest : Reaches step allowed t u) :
    Reaches step allowed s u := by
  induction hrest with
  | refl => exact hrun
  | tail a _ hallowed hnext ih => exact .tail a ih hallowed hnext

theorem Reaches.image {τ β : Type*} (Inv : σ → Prop) (view : σ → τ) {step : σ → α → Option σ}
    {allowed : σ → α → Prop} {step' : τ → β → Option τ} {s t : σ}
    (hrun : Reaches step allowed s t) (hinit : Inv s)
    (hstep : ∀ t a u, Inv t → allowed t a → step t a = some u → Inv u)
    (hview : ∀ t a u, Inv t → allowed t a → step t a = some u →
      Reaches step' anyAction (view t) (view u)) :
    Reaches step' anyAction (view s) (view t) := by
  induction hrun with
  | refl => exact .refl
  | tail a hbefore hallowed hnext ih =>
      exact ih.trans (hview _ a _ (hbefore.invariant Inv hinit hstep) hallowed hnext)

/-- Every run is one of another system, when each of its steps is a run there of
a state that is related to the first. -/
theorem Reaches.simulated {τ β : Type*} (R : σ → τ → Prop) {step : σ → α → Option σ}
    {allowed : σ → α → Prop} {step' : τ → β → Option τ} {allowed' : τ → β → Prop} {s t : σ} {x : τ}
    (hrun : Reaches step allowed s t) (hinit : R s x)
    (hstep : ∀ t a u y, R t y → allowed t a → step t a = some u →
      ∃ z, Reaches step' allowed' y z ∧ R u z) :
    ∃ y, Reaches step' allowed' x y ∧ R t y := by
  induction hrun with
  | refl => exact ⟨x, .refl, hinit⟩
  | tail a _ hallowed hnext ih =>
      obtain ⟨y, hbefore, hy⟩ := ih
      obtain ⟨z, hafter, hz⟩ := hstep _ a _ y hy hallowed hnext
      exact ⟨z, hbefore.trans hafter, hz⟩

theorem reaches_of_exec {step : σ → α → Option σ} {allowed : σ → α → Prop}
    (ok : σ → α → Bool) (hok : ∀ s a, ok s a = true → allowed s a) :
    ∀ (actions : List α) {s t : σ}, exec step ok s actions = some t →
      Reaches step allowed s t := by
  intro actions
  induction actions with
  | nil =>
      intro s t h
      simp only [exec, Option.some.injEq] at h
      subst h
      exact .refl
  | cons a rest ih =>
      intro s t h
      simp only [exec] at h
      split at h
      · rename_i ha
        split at h
        · rename_i u hnext
          exact .head a (hok s a ha) hnext (ih h)
        · cases h
      · cases h

theorem exists_reaches_of_exec (step : σ → α → Option σ) {allowed : σ → α → Prop}
    (ok : σ → α → Bool) (hok : ∀ s a, ok s a = true → allowed s a)
    (s : σ) (actions : List α) (check : σ → Bool)
    (h : (exec step ok s actions).any check = true) :
    ∃ t, Reaches step allowed s t ∧ check t = true := by
  cases hrun : exec step ok s actions with
  | none => simp [hrun] at h
  | some t => exact ⟨t, reaches_of_exec ok hok actions hrun, by simpa [hrun] using h⟩

/-- The system that also writes down what its steps do, newest first. -/
def recorded {ν : Type*} (notes : σ → α → List ν) (step : σ → α → Option σ)
    (s : σ × List ν) (a : α) : Option (σ × List ν) :=
  (step s.1 a).map fun t => (t, notes s.1 a ++ s.2)

theorem Reaches.recorded_invariant {ν : Type*} {notes : σ → α → List ν}
    {step : σ → α → Option σ} (allowed : σ → α → Prop) {s t : σ} {record : List ν}
    (hrun : Reaches (recorded notes step) (fun s a => allowed s.1 a) (s, []) (t, record))
    (Inv : σ → List ν → Prop) (hinit : Inv s [])
    (hstep : ∀ t record a u, Inv t record → allowed t a → step t a = some u →
      Inv u (notes t a ++ record)) : Inv t record := by
  refine hrun.invariant (fun s => Inv s.1 s.2) hinit ?_
  intro t a u hinv hallowed hnext
  simp only [recorded, Option.map_eq_some_iff] at hnext
  obtain ⟨u', hnext, rfl⟩ := hnext
  exact hstep t.1 t.2 a u' hinv hallowed hnext

theorem Reaches.length_add_le (work : σ → Nat) (Inv : σ → Prop) {step : σ → α → Option σ}
    {allowed : σ → α → Prop} {s t : σ} {taken : List α}
    (hrun : Reaches (recorded (fun _ a => [a]) step) (fun s a => allowed s.1 a) (s, []) (t, taken))
    (hinit : Inv s) (hstep : ∀ t a u, Inv t → allowed t a → step t a = some u → Inv u)
    (hwork : ∀ t a u, Inv t → allowed t a → step t a = some u → work u < work t) :
    taken.length + work t ≤ work s := by
  refine (hrun.recorded_invariant allowed
    (fun t taken => Inv t ∧ taken.length + work t ≤ work s) ⟨hinit, by simp⟩ ?_).2
  rintro t taken a u ⟨hinv, hle⟩ hallowed hnext
  have hlt := hwork t a u hinv hallowed hnext
  refine ⟨hstep t a u hinv hallowed hnext, ?_⟩
  rw [List.length_append, List.length_singleton]
  omega

theorem exists_final (work : σ → Nat) (Inv : σ → Prop) {step : σ → α → Option σ}
    {allowed : σ → α → Prop}
    (hstep : ∀ t a u, Inv t → allowed t a → step t a = some u → Inv u)
    (hwork : ∀ t a u, Inv t → allowed t a → step t a = some u → work u < work t)
    {s : σ} (hinit : Inv s) :
    ∃ t, Reaches step allowed s t ∧ ∀ a u, allowed t a → step t a ≠ some u := by
  induction hn : work s using Nat.strongRecOn generalizing s with
  | _ n ih =>
      by_cases hmore : ∃ a u, allowed s a ∧ step s a = some u
      · obtain ⟨a, u, hallowed, hnext⟩ := hmore
        obtain ⟨t, hrun, hfinal⟩ := ih (work u) (hn ▸ hwork s a u hinit hallowed hnext)
          (hstep s a u hinit hallowed hnext) rfl
        exact ⟨t, .head a hallowed hnext hrun, hfinal⟩
      · exact ⟨s, .refl, fun a u hallowed hnext => hmore ⟨a, u, hallowed, hnext⟩⟩

theorem exists_run (step : σ → α → Option σ) (s : σ) (actions : List α) (check : σ → Bool)
    (h : (exec step (fun _ _ => true) s actions).any check = true) :
    ∃ t, Reaches step anyAction s t ∧ check t = true :=
  exists_reaches_of_exec step _ (fun _ _ _ => trivial) s actions check h

end UnifiedRil.Library.Runs

import UnifiedRil.Library.CallStacks

/-!
Programs whose critical sections are flat: inside of one a thread computes and then
leaves it, and neither takes another mutex nor calls a function. A thread that waits
for a mutex then waits for a thread that waits for nobody.
-/

namespace UnifiedRil.Library.FlatLocking

open UnifiedRil.Library.Runs
open UnifiedRil.Library.CallStacks

variable {σ μ φ ν κ θ : Type}

/-- A statement keeps the sections flat. Inside of one less is left after it. -/
def Flat (within : φ → Option μ) (left : φ → Nat) (f : φ) : Stmt σ μ φ ν → Prop
  | .compute _ next => within next = within f ∧ (within f ≠ none → left next < left f)
  | .lock m taken next => within f = none ∧ within next = if taken then some m else none
  | .unlock m next => within f = some m ∧ within next = none
  | .call callee next => within f = none ∧ within callee = none ∧ within next = none
  | .ret _ => within f = none

structure FlatProgram (P : Program σ μ φ ν κ) where
  within : φ → Option μ
  /-- how many statements are left in it -/
  left : φ → Nat
  flat : ∀ {memory f choice c}, P.stmt memory f choice = some c → Flat within left f c
  goesOn : ∀ {f m} (memory), within f = some m → ∃ choice c, P.stmt memory f choice = some c
  resume : ∀ f value, within (P.resume f value) = within f

variable {P : Program σ μ φ ν κ} (F : FlatProgram P)

/-- Each mutex has its discipline. -/
def FlatProgram.discipline (m : μ) : Discipline P m where
  critical f := F.within f = some m
  valid _ := True
  admits _ _ := True
  lawful _ _ := True
  outside hnot := absurd trivial hnot
  obeyed := by
    intro memory f choice c _ _ _ hstmt
    have hflat := F.flat hstmt
    cases c with
    | compute memory' next =>
        exact ⟨trivial, trivial, fun _ _ => trivial, by simp only [hflat.1]⟩
    | lock m' taken next =>
        refine ⟨trivial, by simp [hflat.1], ?_⟩
        cases taken <;> simp [hflat.2]
    | unlock m' next => exact ⟨trivial, by simp [hflat.2], by simp [hflat.1]⟩
    | call callee next =>
        exact ⟨trivial, trivial, by simp [hflat.1], by simp [hflat.2.1], by simp [hflat.2.2]⟩
    | ret value => simp [Sections.Obeyed, show F.within f = none from hflat]
  resume := by
    intro memory f value _ hout
    exact ⟨trivial, by rwa [F.resume]⟩

/-- Every mutex is held by the thread that is in a section of it. -/
def FlatProgram.Invariant (s : State σ μ φ θ) : Prop := ∀ m, (F.discipline m).Invariant s

theorem FlatProgram.lawful (m : μ) (s : State σ μ φ θ) (a : θ × κ) :
    (F.discipline m).Lawful s a := fun _ _ _ => trivial

namespace FlatProgram

variable {F} {s : State σ μ φ θ} {t u : θ} {m m' : μ} {f : φ}

theorem Invariant.holder (h : F.Invariant s) {callers : List φ} (hstack : s.stack t = f :: callers)
    (m : μ) : s.owner m = some t ↔ F.within f = some m :=
  (h m).holder hstack

theorem Invariant.stack_of_held (h : F.Invariant s) (hheld : s.owner m = some t) :
    ∃ f callers, s.stack t = f :: callers ∧ F.within f = some m := by
  obtain ⟨f, hf, hwithin⟩ := ((h m).owner t).mp hheld
  obtain ⟨callers, hstack⟩ := List.head?_eq_some_iff.mp hf
  exact ⟨f, callers, hstack, hwithin⟩

theorem Invariant.none_at_lock (h : F.Invariant s) {taken : Bool} {next : φ}
    (hnext : P.Next s t f (.lock m taken next)) (m' : μ) : s.owner m' ≠ some t :=
  (h m').not_held_at_lock hnext

theorem Invariant.none_at_call (h : F.Invariant s) {callee next : φ}
    (hnext : P.Next s t f (.call callee next)) (m' : μ) : s.owner m' ≠ some t :=
  (h m').not_held_at_call hnext

theorem Invariant.none_at_ret (h : F.Invariant s) {value : ν}
    (hnext : P.Next s t f (.ret value)) (m' : μ) : s.owner m' ≠ some t :=
  (h m').not_held_at_ret hnext

variable [DecidableEq θ] [DecidableEq μ]

theorem Invariant.step {s' : State σ μ φ θ} {a : θ × κ} (h : F.Invariant s)
    (hstep : P.step s a = some s') : F.Invariant s' := fun m =>
  (h m).step (F.lawful m s a) hstep

/-- Who holds a mutex gives it up by steps of its own, whatever the others do not
do meanwhile. -/
theorem Invariant.releases (h : F.Invariant s) (hheld : s.owner m = some t) :
    ∃ s', Reaches P.step (fun _ a => a.1 = t) s s' ∧ s'.owner m = none := by
  obtain ⟨f, callers, hstack, hwithin⟩ := h.stack_of_held hheld
  induction hn : F.left f using Nat.strongRecOn generalizing s f with
  | _ n ih =>
      obtain ⟨choice, c, hstmt⟩ := F.goesOn s.memory hwithin
      have hflat := F.flat hstmt
      have hstep : P.step s (t, choice) = s.perform t callers P.resume c := by
        simp only [Program.step, hstack, hstmt, Option.bind_some]
      cases c with
      | compute memory next =>
          obtain ⟨hsame, hless⟩ := hflat
          have hnext := hsame.trans hwithin
          obtain ⟨s', hs'⟩ : ∃ s', P.step s (t, choice) = some s' := ⟨_, hstep⟩
          have h' : F.Invariant s' := fun m => (h m).step (F.lawful m s _) hs'
          rw [hstep] at hs'
          obtain rfl := Option.some.inj hs'
          obtain ⟨s', hrun, hfree⟩ := ih (F.left next) (hn ▸ hless (by simp [hwithin])) h' hheld
            next (Function.update_self ..) hnext rfl
          exact ⟨s', .head _ rfl hstep hrun, hfree⟩
      | unlock m' next =>
          obtain rfl := Option.some.inj (hwithin.symm.trans hflat.1)
          refine ⟨_, .head (t, choice) rfl hstep .refl, ?_⟩
          simp [hheld]
      | lock m' taken next => cases hwithin.symm.trans hflat.1
      | call callee next => cases hwithin.symm.trans hflat.1
      | ret value => cases hwithin.symm.trans hflat

/-- Who waits for a mutex waits for another thread, which gives it up by steps of
its own. -/
theorem Invariant.no_deadlock (h : F.Invariant s) {next : φ}
    (hnext : P.Next s t f (.lock m true next)) (hheld : s.owner m = some u) :
    u ≠ t ∧ ∃ s', Reaches P.step (fun _ a => a.1 = u) s s' ∧ s'.owner m = none :=
  ⟨fun heq => h.none_at_lock hnext m (heq ▸ hheld), h.releases hheld⟩

end FlatProgram

end UnifiedRil.Library.FlatLocking

import UnifiedRil.Library.Runs

/-!
Programs whose functions call each other, run by any number of threads. A
thread has a stack of frames, the innermost one first, and takes the next
statement of its innermost frame; the memory and the mutexes are shared. The
mutexes are not recursive.
-/

namespace UnifiedRil.Library.CallStacks

open UnifiedRil.Library.Runs

variable {σ μ φ ν κ θ : Type}

/-- A statement of a function, and the frame that is left after it. -/
inductive Stmt (σ μ φ ν : Type)
  | compute (memory : σ) (next : φ)
  /-- where the mutex is not `taken` the operation reports an error -/
  | lock (m : μ) (taken : Bool) (next : φ)
  | unlock (m : μ) (next : φ)
  | call (callee next : φ)
  | ret (value : ν)

/-- The next statement of a frame, depending on the memory and on a choice that
the code does not make, and how a frame goes on with the value of a call. -/
structure Program (σ μ φ ν κ : Type) where
  stmt : σ → φ → κ → Option (Stmt σ μ φ ν)
  resume : φ → ν → φ

structure State (σ μ φ θ : Type) where
  memory : σ
  owner : μ → Option θ
  stack : θ → List φ

/-- Thread `t` may take the statement `c` next, in its innermost frame `f`. -/
def Program.Next (P : Program σ μ φ ν κ) (s : State σ μ φ θ) (t : θ) (f : φ)
    (c : Stmt σ μ φ ν) : Prop :=
  ∃ callers choice, s.stack t = f :: callers ∧ P.stmt s.memory f choice = some c

/-- Where the critical sections of a mutex are. Which mutex a statement is
about may depend on the memory and the frame, so these have invariants. -/
structure Sections (σ φ : Type) where
  critical : φ → Prop
  valid : σ → Prop
  admits : σ → φ → Prop

/-- A statement respects the critical sections of `m`. In one of them a
function computes and leaves it, and does nothing else. -/
def Sections.Obeyed (S : Sections σ φ) (m : μ) (memory : σ) (f : φ) : Stmt σ μ φ ν → Prop
  | .compute memory' next =>
      S.valid memory' ∧ S.admits memory' next ∧ (∀ g, S.admits memory g → S.admits memory' g) ∧
        (S.critical next ↔ S.critical f)
  | .lock m' taken next =>
      S.admits memory next ∧ ¬ S.critical f ∧ (S.critical next ↔ m' = m ∧ taken = true)
  | .unlock m' next => S.admits memory next ∧ ¬ S.critical next ∧ (S.critical f ↔ m' = m)
  | .call callee next =>
      S.admits memory callee ∧ S.admits memory next ∧
        ¬ S.critical f ∧ ¬ S.critical callee ∧ ¬ S.critical next
  | .ret _ => ¬ S.critical f

/-- The frames that are `lawful` respect the critical sections of `m`, and the
others are in none. -/
structure Discipline (P : Program σ μ φ ν κ) (m : μ) extends Sections σ φ where
  lawful : σ → φ → Prop
  outside : ∀ {memory f}, ¬ lawful memory f → ¬ critical f
  obeyed : ∀ {memory f choice c}, valid memory → admits memory f → lawful memory f →
    P.stmt memory f choice = some c → toSections.Obeyed m memory f c
  resume : ∀ {memory f} (value), admits memory f → ¬ critical f →
    admits memory (P.resume f value) ∧ ¬ critical (P.resume f value)

variable {P : Program σ μ φ ν κ} {m : μ} {D : Discipline P m}

/-- The innermost frame is in a critical section. -/
def Discipline.CriticalStack (D : Discipline P m) (frames : List φ) : Prop :=
  ∃ f ∈ frames.head?, D.critical f

theorem criticalStack_cons {f : φ} {callers : List φ} :
    D.CriticalStack (f :: callers) ↔ D.critical f := by
  simp [Discipline.CriticalStack]

/-- The thread that holds the mutex is in a critical section, and no caller of
a function is. -/
structure Discipline.Invariant (D : Discipline P m) (s : State σ μ φ θ) : Prop where
  valid : D.valid s.memory
  admits : ∀ t, ∀ f ∈ s.stack t, D.admits s.memory f
  owner : ∀ t, s.owner m = some t ↔ D.CriticalStack (s.stack t)
  callers : ∀ t, ∀ f ∈ (s.stack t).tail, ¬ D.critical f

namespace Discipline.Invariant

variable {s : State σ μ φ θ} {t : θ} {f : φ}

theorem holder (h : D.Invariant s) {callers : List φ} (hstack : s.stack t = f :: callers) :
    s.owner m = some t ↔ D.critical f := by
  rw [h.owner, hstack, criticalStack_cons]

theorem admits_innermost (h : D.Invariant s) {callers : List φ}
    (hstack : s.stack t = f :: callers) : D.admits s.memory f := by
  apply h.admits t
  rw [hstack]
  exact List.mem_cons_self

theorem not_held_of_obeyed (h : D.Invariant s) {c : Stmt σ μ φ ν} (hnext : P.Next s t f c)
    (hobeyed : D.Obeyed m s.memory f c → ¬ D.critical f) : s.owner m ≠ some t := by
  obtain ⟨callers, choice, hstack, hstmt⟩ := hnext
  rw [Ne, h.holder hstack]
  by_cases hlawful : D.lawful s.memory f
  · exact hobeyed (D.obeyed h.valid (h.admits_innermost hstack) hlawful hstmt)
  · exact D.outside hlawful

theorem not_held_at_lock (h : D.Invariant s) {m' : μ} {taken : Bool} {next : φ}
    (hnext : P.Next s t f (.lock m' taken next)) : s.owner m ≠ some t :=
  h.not_held_of_obeyed hnext fun hobeyed => hobeyed.2.1

theorem not_held_at_call (h : D.Invariant s) {callee next : φ}
    (hnext : P.Next s t f (.call callee next)) : s.owner m ≠ some t :=
  h.not_held_of_obeyed hnext fun hobeyed => hobeyed.2.2.1

theorem not_held_at_ret (h : D.Invariant s) {value : ν}
    (hnext : P.Next s t f (.ret value)) : s.owner m ≠ some t :=
  h.not_held_of_obeyed hnext id

end Discipline.Invariant

section Steps

variable [DecidableEq θ] {s s' : State σ μ φ θ} {t : θ} {f : φ} {callers : List φ}

theorem Discipline.Invariant.replace (h : D.Invariant s) {memory : σ} {owner : μ → Option θ}
    {frames : List φ} (hvalid : D.valid memory)
    (hkeeps : ∀ g, D.admits s.memory g → D.admits memory g)
    (hadmits : ∀ g ∈ frames, D.admits memory g)
    (howner : owner m = some t ↔ D.CriticalStack frames)
    (hothers : ∀ u, u ≠ t → (owner m = some u ↔ s.owner m = some u))
    (hcallers : ∀ g ∈ frames.tail, ¬ D.critical g) :
    D.Invariant { memory := memory, owner := owner
                  stack := Function.update s.stack t frames } := by
  constructor
  · exact hvalid
  · intro u g hg
    dsimp only at hg ⊢
    by_cases hu : u = t
    · subst hu
      rw [Function.update_self] at hg
      exact hadmits g hg
    · rw [Function.update_of_ne hu] at hg
      exact hkeeps g (h.admits u g hg)
  · intro u
    dsimp only
    by_cases hu : u = t
    · subst hu
      rw [Function.update_self]
      exact howner
    · rw [Function.update_of_ne hu, ← h.owner u]
      exact hothers u hu
  · intro u g hg
    dsimp only at hg
    by_cases hu : u = t
    · subst hu
      rw [Function.update_self] at hg
      exact hcallers g hg
    · rw [Function.update_of_ne hu] at hg
      exact h.callers u g hg

variable [DecidableEq μ]

/-- Thread `t` takes a statement, where `callers` are the callers of its
innermost frame. -/
def State.perform (s : State σ μ φ θ) (t : θ) (callers : List φ) (resume : φ → ν → φ) :
    Stmt σ μ φ ν → Option (State σ μ φ θ)
  | .compute memory next =>
      some { s with
        memory := memory
        stack := Function.update s.stack t (next :: callers) }
  | .lock m true next =>
      if s.owner m = none then
        some { s with
          owner := Function.update s.owner m (some t)
          stack := Function.update s.stack t (next :: callers) }
      else none
  | .lock _ false next =>
      some { s with stack := Function.update s.stack t (next :: callers) }
  | .unlock m next =>
      some { s with
        owner := if s.owner m = some t then Function.update s.owner m none else s.owner
        stack := Function.update s.stack t (next :: callers) }
  | .call callee next =>
      some { s with stack := Function.update s.stack t (callee :: next :: callers) }
  | .ret value =>
      match callers with
      | [] => none
      | caller :: callers =>
          some { s with stack := Function.update s.stack t (resume caller value :: callers) }

def Program.step (P : Program σ μ φ ν κ) (s : State σ μ φ θ) (a : θ × κ) :
    Option (State σ μ φ θ) :=
  match s.stack a.1 with
  | [] => none
  | f :: callers => (P.stmt s.memory f a.2).bind (s.perform a.1 callers P.resume)

/-- The thread that takes a step is in a frame that is lawful. -/
def Discipline.Lawful (D : Discipline P m) (s : State σ μ φ θ) (a : θ × κ) : Prop :=
  ∀ f callers, s.stack a.1 = f :: callers → D.lawful s.memory f

theorem Discipline.Invariant.perform (h : D.Invariant s) {choice : κ} {c : Stmt σ μ φ ν}
    (hlawful : D.lawful s.memory f)
    (hstack : s.stack t = f :: callers) (hstmt : P.stmt s.memory f choice = some c)
    (hstep : s.perform t callers P.resume c = some s') : D.Invariant s' := by
  have hf : D.admits s.memory f := h.admits_innermost hstack
  have hholder : s.owner m = some t ↔ D.critical f := h.holder hstack
  have hadmits : ∀ g ∈ callers, D.admits s.memory g := by
    intro g hg
    apply h.admits t
    rw [hstack]
    exact List.mem_cons_of_mem _ hg
  have hcallers : ∀ g ∈ callers, ¬ D.critical g := by
    intro g hg
    apply h.callers t
    rw [hstack]
    exact hg
  cases c with
  | compute memory next =>
      obtain ⟨hvalid, hnext, hkeeps, hcritical⟩ := D.obeyed h.valid hf hlawful hstmt
      cases hstep
      refine h.replace hvalid hkeeps ?_ ?_ (fun _ _ => Iff.rfl) hcallers
      · exact List.forall_mem_cons.mpr ⟨hnext, fun g hg => hkeeps g (hadmits g hg)⟩
      · rw [criticalStack_cons, hcritical, hholder]
  | lock m' taken next =>
      obtain ⟨hnext, hfree, hcritical⟩ := D.obeyed h.valid hf hlawful hstmt
      have hframes := List.forall_mem_cons.mpr ⟨hnext, hadmits⟩
      cases taken with
      | false =>
          cases hstep
          refine h.replace h.valid (fun _ hg => hg) hframes ?_ (fun _ _ => Iff.rfl) hcallers
          rw [criticalStack_cons, hcritical, hholder]
          exact iff_of_false hfree (fun hlocked => Bool.false_ne_true hlocked.2)
      | true =>
          obtain ⟨hnone, hs⟩ := Option.ite_none_right_eq_some.mp hstep
          cases hs
          by_cases hm : m' = m
          · subst hm
            refine h.replace h.valid (fun _ hg => hg) hframes ?_ ?_ hcallers
            · rw [Function.update_self, criticalStack_cons, hcritical]
              exact iff_of_true rfl ⟨rfl, rfl⟩
            · intro u hu
              rw [Function.update_self, hnone]
              exact iff_of_false (fun heq => hu (Option.some.inj heq).symm) nofun
          · refine h.replace h.valid (fun _ hg => hg) hframes ?_ ?_ hcallers
            · rw [Function.update_of_ne (Ne.symm hm), criticalStack_cons, hcritical, hholder]
              exact iff_of_false hfree fun hlocked => hm hlocked.1
            · intro u _
              rw [Function.update_of_ne (Ne.symm hm)]
  | unlock m' next =>
      obtain ⟨hnext, hfree, hcritical⟩ := D.obeyed h.valid hf hlawful hstmt
      have hframes := List.forall_mem_cons.mpr ⟨hnext, hadmits⟩
      cases hstep
      by_cases hm : m' = m
      · subst hm
        have howned : s.owner m' = some t := hholder.mpr (hcritical.mpr rfl)
        rw [if_pos howned]
        refine h.replace h.valid (fun _ hg => hg) hframes ?_ ?_ hcallers
        · rw [Function.update_self, criticalStack_cons]
          exact iff_of_false nofun hfree
        · intro u hu
          rw [Function.update_self, howned]
          exact iff_of_false nofun fun heq => hu (Option.some.inj heq).symm
      · have hsame : (if s.owner m' = some t then Function.update s.owner m' none
            else s.owner) m = s.owner m := by
          split
          · exact Function.update_of_ne (Ne.symm hm) ..
          · rfl
        refine h.replace h.valid (fun _ hg => hg) hframes ?_ ?_ hcallers
        · rw [hsame, criticalStack_cons, hholder, hcritical]
          exact iff_of_false hm hfree
        · intro u _
          rw [hsame]
  | call callee next =>
      obtain ⟨hcallee, hnext, hfree, hentered, hleft⟩ := D.obeyed h.valid hf hlawful hstmt
      cases hstep
      refine h.replace h.valid (fun _ hg => hg) ?_ ?_ (fun _ _ => Iff.rfl) ?_
      · exact List.forall_mem_cons.mpr
          ⟨hcallee, List.forall_mem_cons.mpr ⟨hnext, hadmits⟩⟩
      · rw [criticalStack_cons, hholder]
        exact iff_of_false hfree hentered
      · exact List.forall_mem_cons.mpr ⟨hleft, hcallers⟩
  | ret value =>
      have hfree : ¬ D.critical f := D.obeyed h.valid hf hlawful hstmt
      cases callers with
      | nil => cases hstep
      | cons caller callers =>
          cases hstep
          obtain ⟨hcaller, hrest⟩ := List.forall_mem_cons.mp hadmits
          obtain ⟨hout, hcallers⟩ := List.forall_mem_cons.mp hcallers
          obtain ⟨hresumed, hstill⟩ := D.resume value hcaller hout
          refine h.replace h.valid (fun _ hg => hg) ?_ ?_ (fun _ _ => Iff.rfl) hcallers
          · exact List.forall_mem_cons.mpr ⟨hresumed, hrest⟩
          · rw [criticalStack_cons, hholder]
            exact iff_of_false hfree hstill

theorem Discipline.Invariant.step (h : D.Invariant s) {a : θ × κ} (hlawful : D.Lawful s a)
    (hstep : P.step s a = some s') : D.Invariant s' := by
  unfold Program.step at hstep
  split at hstep
  · cases hstep
  · rename_i f callers hstack
    obtain ⟨c, hstmt, hperform⟩ := Option.bind_eq_some_iff.mp hstep
    exact h.perform (hlawful f callers hstack) hstack hstmt hperform

theorem Discipline.invariant_of_run {s₀ : State σ μ φ θ} (hrun : Reaches P.step D.Lawful s₀ s)
    (hinit : D.Invariant s₀) : D.Invariant s :=
  hrun.invariant D.Invariant hinit fun _ _ _ h hlawful hstep => h.step hlawful hstep

end Steps

end UnifiedRil.Library.CallStacks

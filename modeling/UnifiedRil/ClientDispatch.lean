import Mathlib.Data.List.Count
import UnifiedRil.ClientRuns

/-!
Dispatch of responses by a client whose service answers an id at most once,
and only after the id was sent. `lookup_pending_op` does not look at `busy`, and
a freed slot keeps its id; what makes the lookup right is that the id of a slot
is zero, answered, or the id of the call that holds the slot.
-/

namespace UnifiedRil.ClientDispatch

open UnifiedRil.Library.Runs
open UnifiedRil.Protocol
open UnifiedRil.Client
open UnifiedRil.ClientRuns

variable {φ δ : Type}

/-- The state in which the first call of `uril_client_init` returns. -/
def State.ready (indCb defaultRespCb : Option φ) : State φ δ :=
  { State.initial with
    context := { Context.zeroed with
      handle := 1, initialized := true, indCb := indCb, defaultAsyncCb := defaultRespCb }
    uniqueHandle := 1 }

theorem ready_of_init (indCb defaultRespCb : Option φ) :
    (step (State.initial : State φ δ) (.initContext indCb defaultRespCb)).bind
      (step · .initConnected) = some (State.ready indCb defaultRespCb) := rfl

def Answered (s : State φ δ) (u : UInt32) : Prop :=
  ∃ r ∈ s.responses, r.msg.uniqueId = u

/-- Call `k` has sent its request, with id `u`. -/
def Sent (s : State φ δ) (k : Nat) (u : UInt32) : Prop :=
  ∃ c i, s.calls k = some c ∧ c.phase = .holding .sent u i

/-- After initialization fewer than 2^32 ids are allocated, and every response
answers an id that was sent and not yet answered. -/
def AnswersOnce (s : State φ δ) : Action φ δ → Prop
  | .initContext _ _ | .initConnected | .release => False
  | .allocateId _ => s.issued + 1 < 2 ^ 32
  | .receive msg =>
      msg.isIndication = 0 → (∃ k, Sent s k msg.uniqueId) ∧ ¬ Answered s msg.uniqueId
  | _ => True

/-- No unanswered call can be found under this id. -/
def Stale (s : State φ δ) (u : UInt32) : Prop := u = 0 ∨ Answered s u

/-- What the holder `k` of a slot has written to it, stage by stage. -/
def Written (s : State φ δ) (k : Nat) (c : Call φ δ) (u : UInt32)
    (i : Fin urilMaxPendingOps) : Stage → Prop
  | .acquired => Stale s (s.context.pendingOps i).uniqueId
  | .callbackWritten =>
      Stale s (s.context.pendingOps i).uniqueId ∧ s.writer i = some k ∧
        (s.context.pendingOps i).asyncRespCb = storedCallback s.context c.asyncRespCb
  | .clientDataWritten =>
      Stale s (s.context.pendingOps i).uniqueId ∧ s.writer i = some k ∧
        (s.context.pendingOps i).asyncRespCb = storedCallback s.context c.asyncRespCb ∧
        (s.context.pendingOps i).clientData = c.clientData
  | .filled | .sent | .sendFailed =>
      (s.context.pendingOps i).uniqueId = u ∧ s.writer i = some k ∧
        (s.context.pendingOps i).asyncRespCb = storedCallback s.context c.asyncRespCb ∧
        (s.context.pendingOps i).clientData = c.clientData

inductive SlotOk (s : State φ δ) (i : Fin urilMaxPendingOps) : Prop
  | free : s.holder i = none → (s.context.pendingOps i).busy = false →
      Stale s (s.context.pendingOps i).uniqueId → SlotOk s i
  | held (k : Nat) (c : Call φ δ) (stage : Stage) (u : UInt32) :
      s.holder i = some k → (s.context.pendingOps i).busy = true → s.calls k = some c →
      c.phase = .holding stage u i → ¬ Answered s u → Written s k c u i stage → SlotOk s i

/-- Ids are allocated to one call each, counting up from 1. -/
structure Numbered (s : State φ δ) : Prop where
  fresh : ∀ k, s.nextCall ≤ k → s.calls k = none
  counter : s.uniqueMsgId.toNat = s.issued
  range : ∀ k c u, s.calls k = some c → c.phase.uniqueId? = some u →
    0 < u.toNat ∧ u.toNat ≤ s.issued
  distinct : ∀ k k' c c' u, s.calls k = some c → s.calls k' = some c' →
    c.phase.uniqueId? = some u → c'.phase.uniqueId? = some u → k = k'

structure Dispatching (defaultRespCb : Option φ) (s : State φ δ) : Prop where
  numbered : Numbered s
  default : s.context.defaultAsyncCb = defaultRespCb
  slot : ∀ i, SlotOk s i
  unanswered : ∀ k c stage u i, s.calls k = some c → c.phase = .holding stage u i →
    ¬ Answered s u → s.holder i = some k
  answered : ∀ r ∈ s.responses, ∃ k c i, s.calls k = some c ∧
    c.phase = .holding .sent r.msg.uniqueId i ∧ r.owner = some k ∧
    r.upcall = responseUpcall s.context.handle (storedCallback s.context c.asyncRespCb)
      c.clientData r.msg
  once : (s.responses.map (·.msg.uniqueId)).Nodup

theorem dispatching_ready (indCb defaultRespCb : Option φ) :
    Dispatching defaultRespCb (State.ready indCb defaultRespCb : State φ δ) where
  numbered := by
    constructor <;> simp [State.ready, State.initial]
  default := rfl
  slot i := .free rfl rfl (.inl rfl)
  unanswered := by simp [State.ready, State.initial]
  answered := by simp [State.ready, State.initial]
  once := List.nodup_nil

theorem numbered_setPhase {s : State φ δ} (h : Numbered s) {k : Nat} {c : Call φ δ}
    (phase : Phase) (hc : s.calls k = some c) (hid : phase.uniqueId? = c.phase.uniqueId?) :
    Numbered (s.setPhase k c phase) := by
  have hcall : ∀ k' c' u, (s.setPhase k c phase).calls k' = some c' →
      c'.phase.uniqueId? = some u →
      ∃ c₀, s.calls k' = some c₀ ∧ c₀.phase.uniqueId? = some u := by
    intro k' c' u hc' hu
    by_cases hk : k' = k
    · subst hk
      simp only [State.setPhase, Function.update_self, Option.some.injEq] at hc'
      subst hc'
      exact ⟨c, hc, hid ▸ hu⟩
    · exact ⟨c', by simpa [State.setPhase, hk] using hc', hu⟩
  refine ⟨?_, h.counter, ?_, ?_⟩
  · intro k' hk'
    have hnone := h.fresh k' hk'
    have hne : k' ≠ k := by
      rintro rfl
      simp [hc] at hnone
    simpa [State.setPhase, hne] using hnone
  · intro k' c' u hc' hu
    obtain ⟨c₀, hc₀, hu₀⟩ := hcall k' c' u hc' hu
    exact h.range k' c₀ u hc₀ hu₀
  · intro k₁ k₂ c₁ c₂ u h₁ h₂ hu₁ hu₂
    obtain ⟨c₁', h₁', hu₁'⟩ := hcall k₁ c₁ u h₁ hu₁
    obtain ⟨c₂', h₂', hu₂'⟩ := hcall k₂ c₂ u h₂ hu₂
    exact h.distinct k₁ k₂ c₁' c₂' u h₁' h₂' hu₁' hu₂'

theorem Numbered.congr {s t : State φ δ} (h : Numbered s) (hcalls : t.calls = s.calls)
    (hnext : t.nextCall = s.nextCall) (hcounter : t.uniqueMsgId = s.uniqueMsgId)
    (hissued : t.issued = s.issued) : Numbered t := by
  constructor
  · simpa [hcalls, hnext] using h.fresh
  · simpa [hcounter, hissued] using h.counter
  · simpa [hcalls, hissued] using h.range
  · simpa [hcalls] using h.distinct

theorem numbered_begin {s : State φ δ} (h : Numbered s) (cb : Option φ) (data : Option δ) :
    Numbered { s with
      calls := Function.update s.calls s.nextCall (some ⟨cb, data, .begun⟩)
      nextCall := s.nextCall + 1 } := by
  have hcall : ∀ k' c' u,
      Function.update s.calls s.nextCall (some ⟨cb, data, .begun⟩) k' = some c' →
      c'.phase.uniqueId? = some u → s.calls k' = some c' := by
    intro k' c' u hc' hu
    by_cases hk : k' = s.nextCall
    · subst hk
      simp only [Function.update_self, Option.some.injEq] at hc'
      subst hc'
      cases hu
    · simpa [hk] using hc'
  refine ⟨?_, h.counter, ?_, ?_⟩
  · intro k' hk'
    change s.nextCall + 1 ≤ k' at hk'
    have hne : k' ≠ s.nextCall := by omega
    simpa [hne] using h.fresh k' (by omega)
  · intro k' c' u hc' hu
    exact h.range k' c' u (hcall k' c' u hc' hu) hu
  · intro k₁ k₂ c₁ c₂ u h₁ h₂ hu₁ hu₂
    exact h.distinct k₁ k₂ c₁ c₂ u (hcall k₁ c₁ u h₁ hu₁) (hcall k₂ c₂ u h₂ hu₂) hu₁ hu₂

theorem numbered_allocateId {s : State φ δ} (h : Numbered s) {k : Nat} {c : Call φ δ}
    (hc : s.calls k = some c) (hfew : s.issued + 1 < 2 ^ 32) :
    Numbered { s.setPhase k c (.allocated (s.uniqueMsgId + 1)) with
      uniqueMsgId := s.uniqueMsgId + 1
      issued := s.issued + 1 } := by
  have hnew : (s.uniqueMsgId + 1).toNat = s.issued + 1 := by
    rw [UInt32.toNat_add, h.counter]
    exact Nat.mod_eq_of_lt hfew
  have hcall : ∀ k' c' u, (s.setPhase k c (.allocated (s.uniqueMsgId + 1))).calls k' = some c' →
      c'.phase.uniqueId? = some u →
      (k' = k ∧ u.toNat = s.issued + 1) ∨ s.calls k' = some c' ∧ u.toNat ≤ s.issued := by
    intro k' c' u hc' hu
    by_cases hk : k' = k
    · subst hk
      simp only [State.setPhase, Function.update_self, Option.some.injEq] at hc'
      subst hc'
      cases hu
      exact .inl ⟨rfl, hnew⟩
    · have hold : s.calls k' = some c' := by simpa [State.setPhase, hk] using hc'
      exact .inr ⟨hold, (h.range k' c' u hold hu).2⟩
  refine ⟨?_, hnew, ?_, ?_⟩
  · intro k' hk'
    have hnone := h.fresh k' hk'
    have hne : k' ≠ k := by
      rintro rfl
      simp [hc] at hnone
    simpa [State.setPhase, hne] using hnone
  · intro k' c' u hc' hu
    change 0 < u.toNat ∧ u.toNat ≤ s.issued + 1
    rcases hcall k' c' u hc' hu with ⟨-, heq⟩ | ⟨hold, -⟩
    · omega
    · have hrange := h.range k' c' u hold hu
      omega
  · intro k₁ k₂ c₁ c₂ u h₁ h₂ hu₁ hu₂
    rcases hcall k₁ c₁ u h₁ hu₁ with ⟨hk₁, hnew₁⟩ | ⟨h₁', hle₁⟩ <;>
      rcases hcall k₂ c₂ u h₂ hu₂ with ⟨hk₂, hnew₂⟩ | ⟨h₂', hle₂⟩
    · rw [hk₁, hk₂]
    · omega
    · omega
    · exact h.distinct k₁ k₂ c₁ c₂ u h₁' h₂' hu₁ hu₂

theorem Written.congr {s t : State φ δ} {k : Nat} {c : Call φ δ} {u : UInt32}
    {i : Fin urilMaxPendingOps} {stage : Stage} (h : Written s k c u i stage)
    (hop : t.context.pendingOps i = s.context.pendingOps i)
    (hwriter : t.writer i = s.writer i)
    (hdefault : t.context.defaultAsyncCb = s.context.defaultAsyncCb)
    (hmono : ∀ u, Answered s u → Answered t u) : Written t k c u i stage := by
  have hstale : ∀ u, Stale s u → Stale t u := fun u => Or.imp_right (hmono u)
  cases stage <;> simp only [Written, storedCallback, hop, hwriter, hdefault] at h ⊢
  case acquired => exact hstale _ h
  case callbackWritten | clientDataWritten => exact ⟨hstale _ h.1, h.2⟩
  all_goals exact h

/-- A slot that a step does not touch, and whose holder it leaves alone. -/
theorem SlotOk.congr {s t : State φ δ} {i : Fin urilMaxPendingOps} (h : SlotOk s i)
    (hholder : t.holder i = s.holder i)
    (hop : t.context.pendingOps i = s.context.pendingOps i)
    (hwriter : t.writer i = s.writer i)
    (hdefault : t.context.defaultAsyncCb = s.context.defaultAsyncCb)
    (hcall : ∀ k c stage u, s.holder i = some k → s.calls k = some c →
      c.phase = .holding stage u i → t.calls k = some c ∧ (Answered t u → Answered s u))
    (hmono : ∀ u, Answered s u → Answered t u) : SlotOk t i := by
  cases h with
  | free hfree hbusy hstale =>
      exact .free (hholder ▸ hfree) (hop ▸ hbusy) (hop ▸ Or.imp_right (hmono _) hstale)
  | held k c stage u hk hbusy hc hphase hopen hwritten =>
      obtain ⟨hc', hopen'⟩ := hcall k c stage u hk hc hphase
      exact .held k c stage u (hholder ▸ hk) (hop ▸ hbusy) hc' hphase (mt hopen' hopen)
        (hwritten.congr hop hwriter hdefault hmono)

theorem SlotOk.holder_slot {s : State φ δ} {i : Fin urilMaxPendingOps} (h : SlotOk s i)
    {k : Nat} (hk : s.holder i = some k) {c : Call φ δ} (hc : s.calls k = some c) :
    ∃ stage u, c.phase = .holding stage u i ∧ ¬ Answered s u ∧ Written s k c u i stage := by
  cases h with
  | free hfree => simp [hfree] at hk
  | held k' c' stage u hk' hbusy hc' hphase hopen hwritten =>
      obtain rfl : k' = k := Option.some.inj (hk'.symm.trans hk)
      obtain rfl : c' = c := Option.some.inj (hc'.symm.trans hc)
      exact ⟨stage, u, hphase, hopen, hwritten⟩

theorem Dispatching.congr {d : Option φ} {s t : State φ δ} (h : Dispatching d s)
    (hnumbered : Numbered t) (hcontext : t.context = s.context)
    (hholder : t.holder = s.holder) (hwriter : t.writer = s.writer)
    (hresponses : t.responses = s.responses)
    (hcalls : ∀ k c stage u i, c.phase = .holding stage u i →
      (t.calls k = some c ↔ s.calls k = some c)) : Dispatching d t := by
  have hanswered : ∀ u, Answered t u ↔ Answered s u := by
    intro u
    rw [Answered, hresponses, Answered]
  refine ⟨hnumbered, hcontext ▸ h.default, ?_, ?_, ?_, hresponses ▸ h.once⟩
  · intro i
    refine (h.slot i).congr (by rw [hholder]) (by rw [hcontext]) (by rw [hwriter])
      (by rw [hcontext]) ?_ (fun u => (hanswered u).mpr)
    intro k c stage u hk hc hphase
    exact ⟨(hcalls k c stage u i hphase).mpr hc, (hanswered u).mp⟩
  · intro k c stage u i hc hphase hopen
    rw [hholder]
    exact h.unanswered k c stage u i ((hcalls k c stage u i hphase).mp hc) hphase
      (mt (hanswered u).mpr hopen)
  · intro r hr
    rw [hresponses] at hr
    obtain ⟨k, c, i, hc, hphase, howner, hupcall⟩ := h.answered r hr
    exact ⟨k, c, i, (hcalls k c _ _ i hphase).mpr hc, hphase, howner, hcontext ▸ hupcall⟩

theorem setPhase_calls_iff {s : State φ δ} {k : Nat} {c : Call φ δ} {phase : Phase}
    (hc : s.calls k = some c) (hold : ∀ stage u i, c.phase ≠ .holding stage u i)
    (hnew : ∀ stage u i, phase ≠ .holding stage u i) :
    ∀ k' c' stage u i, c'.phase = .holding stage u i →
      ((s.setPhase k c phase).calls k' = some c' ↔ s.calls k' = some c') := by
  intro k' c' stage u i hphase
  by_cases hk : k' = k
  · subst hk
    rw [hc]
    simp only [State.setPhase, Function.update_self, Option.some.injEq]
    constructor
    · rintro rfl
      exact absurd hphase (hnew stage u i)
    · rintro rfl
      exact absurd hphase (hold stage u i)
  · simp [State.setPhase, hk]

theorem dispatching_begin {d : Option φ} {s : State φ δ} (h : Dispatching d s)
    (cb : Option φ) (data : Option δ) :
    Dispatching d { s with
      calls := Function.update s.calls s.nextCall (some ⟨cb, data, .begun⟩)
      nextCall := s.nextCall + 1 } := by
  refine h.congr (numbered_begin h.numbered cb data) rfl rfl rfl rfl ?_
  intro k c stage u i hphase
  by_cases hk : k = s.nextCall
  · subst hk
    have hnone := h.numbered.fresh s.nextCall le_rfl
    simp only [Function.update_self, Option.some.injEq, hnone]
    constructor
    · rintro rfl
      cases hphase
    · intro hc
      cases hc
  · simp [hk]

theorem dispatching_allocateId {d : Option φ} {s : State φ δ} (h : Dispatching d s)
    {k : Nat} {c : Call φ δ} (hc : s.calls k = some c) (hphase : c.phase = .begun)
    (hfew : s.issued + 1 < 2 ^ 32) :
    Dispatching d { s.setPhase k c (.allocated (s.uniqueMsgId + 1)) with
      uniqueMsgId := s.uniqueMsgId + 1
      issued := s.issued + 1 } :=
  h.congr (numbered_allocateId h.numbered hc hfew) rfl rfl rfl rfl
    (setPhase_calls_iff hc (by simp [hphase]) (by simp))

theorem dispatching_refused {d : Option φ} {s : State φ δ} (h : Dispatching d s)
    {k : Nat} {c : Call φ δ} {u : UInt32} (hc : s.calls k = some c)
    (hphase : c.phase = .allocated u) : Dispatching d (s.setPhase k c (.refused u)) :=
  h.congr (numbered_setPhase h.numbered _ hc (by rw [hphase]; rfl)) rfl rfl rfl rfl
    (setPhase_calls_iff hc (by simp [hphase]) (by simp))

theorem not_answered_of_not_sent {d : Option φ} {s : State φ δ} (h : Dispatching d s)
    {k : Nat} {c : Call φ δ} {u : UInt32} (hc : s.calls k = some c)
    (hu : c.phase.uniqueId? = some u) (hsent : ∀ i, c.phase ≠ .holding .sent u i) :
    ¬ Answered s u := by
  rintro ⟨r, hr, rfl⟩
  obtain ⟨k', c', i, hc', hphase', -⟩ := h.answered r hr
  obtain rfl : k' = k :=
    h.numbered.distinct k' k c' c r.msg.uniqueId hc' hc (by rw [hphase']; rfl) hu
  obtain rfl : c' = c := Option.some.inj (hc'.symm.trans hc)
  exact hsent i hphase'

theorem Dispatching.setSlot {d : Option φ} {s t : State φ δ} (h : Dispatching d s)
    {k : Nat} {c : Call φ δ} (stage : Stage) {u : UInt32} (i : Fin urilMaxPendingOps)
    (hc : s.calls k = some c) (hu : c.phase.uniqueId? = some u)
    (hunsent : ∀ j, c.phase ≠ .holding .sent u j)
    (hown : ∀ k', s.holder i = some k' → k' = k)
    (honly : ∀ stage' j, c.phase = .holding stage' u j → j = i)
    (hcalls : t.calls =
      Function.update s.calls k (some { c with phase := .holding stage u i }))
    (hnumbered : Numbered t) (hresponses : t.responses = s.responses)
    (hdefault : t.context.defaultAsyncCb = s.context.defaultAsyncCb)
    (hhandle : t.context.handle = s.context.handle)
    (hholder : t.holder = Function.update s.holder i (some k))
    (hops : ∀ j, j ≠ i → t.context.pendingOps j = s.context.pendingOps j)
    (hwriter : ∀ j, j ≠ i → t.writer j = s.writer j)
    (hbusy : (t.context.pendingOps i).busy = true)
    (hwritten : Written t k c u i stage) : Dispatching d t := by
  have hanswered : ∀ u, Answered t u ↔ Answered s u := by
    intro u
    rw [Answered, hresponses, Answered]
  have hopen : ¬ Answered s u := not_answered_of_not_sent h hc hu hunsent
  have hother : ∀ k', k' ≠ k → t.calls k' = s.calls k' := by
    intro k' hk'
    rw [hcalls, Function.update_of_ne hk']
  refine ⟨hnumbered, hdefault.trans h.default, ?_, ?_, ?_, hresponses ▸ h.once⟩
  · intro j
    by_cases hj : j = i
    · subst hj
      refine .held k { c with phase := .holding stage u j } stage u ?_ hbusy ?_ rfl
        (mt (hanswered u).mp hopen) ?_
      · rw [hholder, Function.update_self]
      · rw [hcalls, Function.update_self]
      · cases stage <;> exact hwritten
    · refine (h.slot j).congr (by rw [hholder, Function.update_of_ne hj]) (hops j hj)
        (hwriter j hj) hdefault ?_ (fun u => (hanswered u).mpr)
      intro k' c' stage' u' hk' hc' hphase'
      refine ⟨?_, (hanswered u').mp⟩
      rw [hother k' ?_, hc']
      rintro rfl
      obtain rfl : c' = c := Option.some.inj (hc'.symm.trans hc)
      obtain rfl : u' = u := by simpa [hphase', Phase.uniqueId?] using hu
      exact hj (honly stage' j hphase')
  · intro k' c' stage' u' j hc' hphase' hopen'
    rw [hholder]
    by_cases hk' : k' = k
    · subst hk'
      rw [hcalls, Function.update_self, Option.some.injEq] at hc'
      subst hc'
      cases hphase'
      rw [Function.update_self]
    · rw [hother k' hk'] at hc'
      have hold := h.unanswered k' c' stage' u' j hc' hphase' (mt (hanswered u').mpr hopen')
      have hj : j ≠ i := by
        rintro rfl
        exact hk' (hown k' hold)
      rw [Function.update_of_ne hj, hold]
  · intro r hr
    rw [hresponses] at hr
    obtain ⟨k', c', j, hc', hphase', howner, hupcall⟩ := h.answered r hr
    have hk' : k' ≠ k := by
      rintro rfl
      obtain rfl : c' = c := Option.some.inj (hc'.symm.trans hc)
      have hid : r.msg.uniqueId = u := by simpa [hphase', Phase.uniqueId?] using hu
      exact hunsent j (hid ▸ hphase')
    refine ⟨k', c', j, (hother k' hk').trans hc', hphase', howner, ?_⟩
    simp only [hupcall, hhandle, storedCallback, hdefault]

theorem dispatching_acquired {d : Option φ} {s : State φ δ} (h : Dispatching d s)
    {k : Nat} {c : Call φ δ} {u : UInt32} {i : Fin urilMaxPendingOps}
    (hc : s.calls k = some c) (hphase : c.phase = .allocated u)
    (hfree : (s.context.pendingOps i).busy = false) :
    Dispatching d { s.setPhase k c (.holding .acquired u i) with
      context := { s.context with
        pendingOps := Function.update s.context.pendingOps i
          { s.context.pendingOps i with busy := true } }
      holder := Function.update s.holder i (some k) } := by
  obtain ⟨hnone, hstale⟩ :
      s.holder i = none ∧ Stale s (s.context.pendingOps i).uniqueId := by
    cases h.slot i with
    | free hnone _ hstale => exact ⟨hnone, hstale⟩
    | held _ _ _ _ _ hbusy => simp [hfree] at hbusy
  refine h.setSlot .acquired i hc (by rw [hphase]; rfl) (by simp [hphase])
    (by simp [hnone]) (by simp [hphase]) rfl ?_ rfl rfl rfl rfl ?_ (fun _ _ => rfl) ?_ ?_
  · exact (numbered_setPhase h.numbered (.holding .acquired u i) hc
      (by rw [hphase]; rfl)).congr rfl rfl rfl rfl
  · intro j hj
    exact Function.update_of_ne hj _ _
  · simp
  · change Stale s (Function.update s.context.pendingOps i _ i).uniqueId
    rw [Function.update_self]
    exact hstale

theorem holds_of_unsent {d : Option φ} {s : State φ δ} (h : Dispatching d s) {k : Nat}
    {c : Call φ δ} {stage : Stage} {u : UInt32} {i : Fin urilMaxPendingOps}
    (hc : s.calls k = some c) (hphase : c.phase = .holding stage u i) (hstage : stage ≠ .sent) :
    s.holder i = some k ∧ (s.context.pendingOps i).busy = true ∧ Written s k c u i stage := by
  have hopen : ¬ Answered s u :=
    not_answered_of_not_sent h hc (by rw [hphase]; rfl) (by simp [hphase, hstage])
  have hholder := h.unanswered k c stage u i hc hphase hopen
  obtain ⟨stage', u', hphase', -, hwritten⟩ := (h.slot i).holder_slot hholder hc
  rw [hphase] at hphase'
  cases hphase'
  refine ⟨hholder, ?_, hwritten⟩
  cases h.slot i with
  | free hfree => simp [hholder] at hfree
  | held _ _ _ _ _ hbusy => exact hbusy

theorem dispatching_fill {d : Option φ} {s : State φ δ} (h : Dispatching d s)
    {k : Nat} {c : Call φ δ} {stage stage' : Stage} {u : UInt32} {i : Fin urilMaxPendingOps}
    {op : PendingOp φ δ} (hc : s.calls k = some c) (hphase : c.phase = .holding stage u i)
    (hassign : assign s.context c u (s.context.pendingOps i) stage = some (stage', op)) :
    Dispatching d { s.setPhase k c (.holding stage' u i) with
      context := { s.context with
        pendingOps := Function.update s.context.pendingOps i op }
      writer := if stage = .acquired then Function.update s.writer i (some k)
        else s.writer } := by
  obtain ⟨hstage, hop⟩ := assign_unsent hassign
  obtain ⟨hholder, hbusy, hwritten⟩ := holds_of_unsent h hc hphase hstage
  refine h.setSlot stage' i hc (by rw [hphase]; rfl) (by simp [hphase, hstage])
    (by simp [hholder, eq_comm]) (by simp [hphase, eq_comm]) rfl ?_ rfl rfl rfl ?_ ?_ ?_ ?_ ?_
  · exact (numbered_setPhase h.numbered (.holding stage' u i) hc
      (by rw [hphase]; rfl)).congr rfl rfl rfl rfl
  · exact (Function.update_eq_self_iff.mpr hholder.symm).symm
  · intro j hj
    exact Function.update_of_ne hj _ _
  · intro j hj
    change (if stage = .acquired then Function.update s.writer i (some k) else s.writer) j = _
    split
    · exact Function.update_of_ne hj _ _
    · rfl
  · simp [hop, hbusy]
  · -- the assignment adds the next line of what is written
    cases stage <;> simp only [assign, Option.some.injEq, Prod.mk.injEq, reduceCtorEq] at hassign
      <;> obtain ⟨rfl, rfl⟩ := hassign <;> simp only [Written] at hwritten ⊢
    case acquired => simpa [Stale, Answered, State.setPhase] using hwritten
    case callbackWritten => simpa [Stale, Answered, State.setPhase] using hwritten
    case clientDataWritten => simpa [State.setPhase] using hwritten.2

theorem dispatching_send {d : Option φ} {s : State φ δ} (h : Dispatching d s)
    {k : Nat} {c : Call φ δ} {u : UInt32} {i : Fin urilMaxPendingOps} (ok : Bool)
    (hc : s.calls k = some c) (hphase : c.phase = .holding .filled u i) :
    Dispatching d (s.setPhase k c (.holding (if ok then .sent else .sendFailed) u i)) := by
  obtain ⟨hholder, hbusy, hwritten⟩ := holds_of_unsent h hc hphase (by decide)
  refine h.setSlot _ i hc (by rw [hphase]; rfl) (by simp [hphase])
    (by simp [hholder, eq_comm]) (by simp [hphase, eq_comm]) rfl ?_ rfl rfl rfl ?_
    (fun _ _ => rfl) (fun _ _ => rfl) hbusy ?_
  · exact numbered_setPhase h.numbered _ hc (by rw [hphase]; rfl)
  · exact (Function.update_eq_self_iff.mpr hholder.symm).symm
  · cases ok <;> exact hwritten

theorem lookup_sent {d : Option φ} {s : State φ δ} (h : Dispatching d s) {k : Nat}
    {u : UInt32} (hsent : Sent s k u) (hopen : ¬ Answered s u) :
    ∃ c i, s.calls k = some c ∧ c.phase = .holding .sent u i ∧ s.holder i = some k ∧
      Written s k c u i .sent ∧ lookupPendingOp s.context.pendingOps u = some i := by
  obtain ⟨c, i, hc, hphase⟩ := hsent
  have hholder := h.unanswered k c .sent u i hc hphase hopen
  obtain ⟨stage, u', hphase', -, hwritten⟩ := (h.slot i).holder_slot hholder hc
  rw [hphase] at hphase'
  cases hphase'
  refine ⟨c, i, hc, hphase, hholder, hwritten, lookupPendingOp_unique hwritten.1 ?_⟩
  have hnotstale : ¬ Stale s u := by
    rintro (rfl | hanswered)
    · exact absurd (h.numbered.range k c 0 hc (by rw [hphase]; rfl)).1 (by decide)
    · exact hopen hanswered
  intro j hj
  cases h.slot j with
  | free _ _ hstale => exact absurd (hj ▸ hstale) hnotstale
  | held k' c' stage u' hk' _ hc' hphase' _ hwritten' =>
      have hfilled : u' = u := by
        cases stage <;> simp only [Written] at hwritten'
        case acquired => exact absurd (hj ▸ hwritten') hnotstale
        case callbackWritten | clientDataWritten => exact absurd (hj ▸ hwritten'.1) hnotstale
        all_goals exact hwritten'.1.symm.trans hj
      subst hfilled
      obtain rfl : k' = k :=
        h.numbered.distinct k' k c' c u' hc' hc (by rw [hphase']; rfl) (by rw [hphase]; rfl)
      obtain rfl : c' = c := Option.some.inj (hc'.symm.trans hc)
      rw [hphase] at hphase'
      cases hphase'
      rfl

theorem dispatching_response {d : Option φ} {s t : State φ δ} (h : Dispatching d s)
    {msg : UrilProtocolMsg} (hrsp : msg.isIndication = 0)
    (hallowed : (∃ k, Sent s k msg.uniqueId) ∧ ¬ Answered s msg.uniqueId)
    (hstep : step s (.receive msg) = some t) : Dispatching d t := by
  obtain ⟨⟨k, hsent⟩, hopen⟩ := hallowed
  obtain ⟨c, i, hc, hphase, hholder, hwritten, hlookup⟩ := lookup_sent h hsent hopen
  rcases step_response hrsp hstep with ⟨j, hj, rfl⟩ | ⟨hnone, -⟩
  swap
  · rw [hlookup] at hnone
    cases hnone
  rw [hlookup] at hj
  cases hj
  obtain ⟨hid, hwriter, hcb, hdata⟩ := hwritten
  have hlater : ∀ u, Answered s u → Answered { s with
      context := { s.context with
        pendingOps := Function.update s.context.pendingOps i
          { s.context.pendingOps i with busy := false } }
      holder := s.freeSlot (some i)
      responses := ⟨msg, s.writer i,
        responseUpcall s.context.handle (s.context.pendingOps i).asyncRespCb
          (s.context.pendingOps i).clientData msg⟩ :: s.responses } u := by
    rintro u ⟨r, hr, hu⟩
    exact ⟨r, List.mem_cons_of_mem _ hr, hu⟩
  refine ⟨h.numbered.congr rfl rfl rfl rfl, h.default, ?_, ?_, ?_, ?_⟩
  · intro j
    by_cases hj : j = i
    · subst hj
      refine .free (by simp [State.freeSlot]) (by simp) (.inr ⟨_, List.mem_cons_self, ?_⟩)
      simp [hid]
    · refine (h.slot j).congr (by simp [State.freeSlot, Ne.symm hj]) (by simp [hj]) rfl rfl
        ?_ hlater
      intro k' c' stage u' hk' hc' hphase'
      refine ⟨hc', ?_⟩
      rintro ⟨r, hr, hu⟩
      rcases List.mem_cons.mp hr with rfl | hr
      · -- the holder of another slot is another call, and has another id
        obtain rfl : k = k' := h.numbered.distinct k k' c c' msg.uniqueId hc hc'
          (by rw [hphase]; rfl) (by rw [hphase', ← hu]; rfl)
        obtain rfl : c' = c := Option.some.inj (hc'.symm.trans hc)
        rw [hphase] at hphase'
        cases hphase'
        exact absurd rfl hj
      · exact ⟨r, hr, hu⟩
  · intro k' c' stage u' j hc' hphase' hopen'
    have hold := h.unanswered k' c' stage u' j hc' hphase' (mt (hlater u') hopen')
    have hj : i ≠ j := by
      rintro rfl
      obtain rfl : k' = k := Option.some.inj (hold.symm.trans hholder)
      obtain rfl : c' = c := Option.some.inj (hc'.symm.trans hc)
      rw [hphase] at hphase'
      cases hphase'
      exact hopen' ⟨_, List.mem_cons_self, rfl⟩
    simpa [State.freeSlot, hj] using hold
  · intro r hr
    rcases List.mem_cons.mp hr with rfl | hr
    · refine ⟨k, c, i, hc, hphase, hwriter, ?_⟩
      simp only [hcb, hdata, storedCallback_pendingOps]
    · obtain ⟨k', c', j, hc', hphase', howner, hupcall⟩ := h.answered r hr
      exact ⟨k', c', j, hc', hphase', howner, by simpa using hupcall⟩
  · refine List.nodup_cons.mpr ⟨?_, h.once⟩
    intro hmem
    obtain ⟨r, hr, hu⟩ := List.mem_map.mp hmem
    exact hopen ⟨r, hr, hu⟩

theorem dispatching_step {d : Option φ} {s t : State φ δ} {a : Action φ δ}
    (h : Dispatching d s) (hallowed : AnswersOnce s a) (hstep : step s a = some t) :
    Dispatching d t := by
  cases a with
  | initContext indCb defaultRespCb => exact hallowed.elim
  | initConnected => exact hallowed.elim
  | release => exact hallowed.elim
  | begin hndl cb data =>
      rw [step_begin hstep]
      exact dispatching_begin h cb data
  | allocateId k =>
      obtain ⟨c, hc, hphase, rfl⟩ := step_allocateId hstep
      exact dispatching_allocateId h hc hphase hallowed
  | acquireSlot k =>
      obtain ⟨c, u, hc, hphase, ⟨i, ⟨hfree, -⟩, rfl⟩ | ⟨-, rfl⟩⟩ := step_acquireSlot hstep
      · exact dispatching_acquired h hc hphase hfree
      · exact dispatching_refused h hc hphase
  | fill k =>
      obtain ⟨c, stage, u, i, stage', op, hc, hphase, hassign, rfl⟩ := step_fill hstep
      exact dispatching_fill h hc hphase hassign
  | send k ok =>
      obtain ⟨c, u, i, hc, hphase, rfl⟩ := step_send hstep
      exact dispatching_send h ok hc hphase
  | receive msg =>
      by_cases hrsp : msg.isIndication = 0
      · exact dispatching_response h hrsp (hallowed hrsp) hstep
      · rw [step_indication hrsp hstep]
        exact h

theorem dispatching_reached {indCb d : Option φ} {s : State φ δ}
    (hrun : Reaches step AnswersOnce (State.ready indCb d) s) : Dispatching d s :=
  hrun.invariant (Dispatching d) (dispatching_ready indCb d)
    fun _ _ _ h hallowed hstep => dispatching_step h hallowed hstep

/-- Call `k` holds slot `i` and is not answered. -/
def Outstanding (s : State φ δ) (k : Nat) (i : Fin urilMaxPendingOps) : Prop :=
  ∃ c stage u, s.calls k = some c ∧ c.phase = .holding stage u i ∧ ¬ Answered s u

theorem invocations_le_one {d : Option φ} {s : State φ δ} (h : Dispatching d s) (k : Nat) :
    invocations k s.responses ≤ 1 := by
  by_cases hsome : ∃ r ∈ s.responses, r.owner = some k
  · obtain ⟨r₀, hr₀, howner₀⟩ := hsome
    have hid : ∀ r ∈ s.responses, (r.owner == some k && r.upcall.isSome) = true →
        (r.msg.uniqueId == r₀.msg.uniqueId) = true := by
      intro r hr hinvoked
      obtain ⟨k₁, c₁, i₁, hc₁, hphase₁, howner₁, -⟩ := h.answered r hr
      obtain ⟨k₂, c₂, i₂, hc₂, hphase₂, howner₂, -⟩ := h.answered r₀ hr₀
      simp only [Bool.and_eq_true, beq_iff_eq] at hinvoked
      obtain rfl : k₁ = k := Option.some.inj (howner₁.symm.trans hinvoked.1)
      obtain rfl : k₂ = k₁ := Option.some.inj (howner₂.symm.trans howner₀)
      obtain rfl : c₂ = c₁ := Option.some.inj (hc₂.symm.trans hc₁)
      rw [hphase₁, Phase.holding.injEq] at hphase₂
      exact beq_iff_eq.mpr hphase₂.2.1
    calc invocations k s.responses
        ≤ s.responses.countP (fun r => r.msg.uniqueId == r₀.msg.uniqueId) :=
          List.countP_mono_left hid
      _ = (s.responses.map (·.msg.uniqueId)).count r₀.msg.uniqueId := by
          rw [List.count, List.countP_map]
          rfl
      _ ≤ 1 := List.nodup_iff_count_le_one.mp h.once _
  · have hzero : invocations k s.responses = 0 := by
      rw [invocations, List.countP_eq_zero]
      intro r hr hinvoked
      simp only [Bool.and_eq_true, beq_iff_eq] at hinvoked
      exact hsome ⟨r, hr, hinvoked.1⟩
    omega

/-- Dispatch by the client under every interleaving of its calls with the
responses of a service that answers each id at most once. -/
theorem client_dispatch {indCb defaultRespCb : Option φ} {s : State φ δ}
    (hrun : Reaches step AnswersOnce (State.ready indCb defaultRespCb) s) :
    s.context.defaultAsyncCb = defaultRespCb ∧
    (∀ msg, msg.isIndication = 0 → ∃ t r, step s (.receive msg) = some t ∧ r.msg = msg ∧
      t.responses = r :: s.responses) ∧
    (∀ r ∈ s.responses, ∃ k c, s.calls k = some c ∧
      c.phase.uniqueId? = some r.msg.uniqueId ∧
      (∀ k' c', s.calls k' = some c' → c'.phase.uniqueId? = some r.msg.uniqueId → k' = k) ∧
      r.owner = some k ∧
      r.upcall = responseUpcall s.context.handle (storedCallback s.context c.asyncRespCb)
        c.clientData r.msg) ∧
    (∀ k, invocations k s.responses ≤ 1) ∧
    (∀ k k' i i', Outstanding s k i → Outstanding s k' i' → k ≠ k' → i ≠ i') ∧
    (∀ k c u t, step s (.acquireSlot k) = some t → t.calls k = some c →
      c.phase = .refused u →
      ∀ i, (s.context.pendingOps i).busy = true ∧ ∃ k', Outstanding s k' i) := by
  have h := dispatching_reached hrun
  refine ⟨h.default, ?_, ?_, invocations_le_one h, ?_, ?_⟩
  · intro msg hrsp
    obtain ⟨t, hstep⟩ : ∃ t, step s (.receive msg) = some t :=
      ⟨_, if_neg (not_not.mpr hrsp)⟩
    rcases step_response hrsp hstep with ⟨i, -, rfl⟩ | ⟨-, rfl⟩
    · exact ⟨_, _, hstep, rfl, rfl⟩
    · exact ⟨_, _, hstep, rfl, rfl⟩
  · intro r hr
    obtain ⟨k, c, i, hc, hphase, howner, hupcall⟩ := h.answered r hr
    have hid : c.phase.uniqueId? = some r.msg.uniqueId := by rw [hphase]; rfl
    refine ⟨k, c, hc, hid, ?_, howner, hupcall⟩
    intro k' c' hc' hid'
    exact h.numbered.distinct k' k c' c r.msg.uniqueId hc' hc hid' hid
  · rintro k k' i i' ⟨c, stage, u, hc, hphase, hopen⟩ ⟨c', stage', u', hc', hphase', hopen'⟩ hne
    rintro rfl
    have hk := h.unanswered k c stage u i hc hphase hopen
    have hk' := h.unanswered k' c' stage' u' i hc' hphase' hopen'
    exact hne (Option.some.inj (hk.symm.trans hk'))
  · intro k c u t hstep hc hphase i
    obtain ⟨c₀, u₀, -, -, ⟨j, -, rfl⟩ | ⟨hbusy, -⟩⟩ := step_acquireSlot hstep
    · simp only [State.setPhase, Function.update_self, Option.some.injEq] at hc
      subst hc
      cases hphase
    · refine ⟨hbusy i, ?_⟩
      cases h.slot i with
      | free _ hfree => simp [hbusy i] at hfree
      | held k' c' stage u' _ _ hc' hphase' hopen _ =>
          exact ⟨k', c', stage, u', hc', hphase', hopen⟩

/-- `AnswersOnce` as a test. -/
def answersOnce (s : State φ δ) : Action φ δ → Bool
  | .initContext _ _ | .initConnected | .release => false
  | .allocateId _ => s.issued + 1 < 2 ^ 32
  | .receive msg =>
      msg.isIndication ≠ 0 ||
        ((List.range s.nextCall).any fun k =>
          match s.calls k with
          | some ⟨_, _, .holding .sent u _⟩ => u == msg.uniqueId
          | _ => false) && s.responses.all (·.msg.uniqueId != msg.uniqueId)
  | _ => true

theorem answersOnce_sound (s : State φ δ) (a : Action φ δ) (h : answersOnce s a = true) :
    AnswersOnce s a := by
  cases a with
  | initContext indCb cb => cases h
  | initConnected => cases h
  | release => cases h
  | allocateId k => simpa [answersOnce, AnswersOnce] using h
  | receive msg =>
      intro hrsp
      simp only [answersOnce, hrsp, ne_eq, not_true_eq_false, decide_false, Bool.false_or,
        Bool.and_eq_true, List.any_eq_true, List.all_eq_true] at h
      obtain ⟨⟨k, -, hk⟩, hopen⟩ := h
      refine ⟨⟨k, ?_⟩, ?_⟩
      · split at hk
        · rename_i cb data u i hc
          exact ⟨_, i, hc, by rw [beq_iff_eq.mp hk]⟩
        · cases hk
      · rintro ⟨r, hr, hu⟩
        simpa [hu] using hopen r hr
  | begin _ _ _ | acquireSlot _ | fill _ | send _ _ => trivial

/-- Two calls overlap; the second is answered first and uses the default
callback. A third call gets the freed slot. -/
theorem client_dispatch_sample :
    ∃ s : State Nat Nat, Reaches step AnswersOnce (State.ready none (some 9)) s ∧
      s.responses.map (fun r => (r.msg.uniqueId, r.owner, r.upcall.map Upcall.target)) =
        [(1, some 0, some (5, some 7)), (2, some 1, some (9, none))] ∧
      (∀ k, invocations k s.responses ≤ 1) ∧
      ∀ k k' i i', Outstanding s k i → Outstanding s k' i' → k ≠ k' → i ≠ i' := by
  obtain ⟨s, hrun, hlog⟩ := exists_reaches_of_exec step answersOnce answersOnce_sound
    (State.ready (none : Option Nat) (some 9) : State Nat Nat)
    [.begin 1 (some 5) (some 7), .allocateId 0, .begin 1 none none, .acquireSlot 0,
      .allocateId 1, .fill 0, .acquireSlot 1, .fill 1, .fill 0, .fill 1, .fill 1, .fill 0,
      .send 1 true, .receive { UrilProtocolMsg.zeroed with uniqueId := 2 }, .send 0 true,
      .begin 1 (some 6) none, .allocateId 2, .acquireSlot 2,
      .receive { UrilProtocolMsg.zeroed with uniqueId := 1 }]
    (fun s => s.responses.map (fun r => (r.msg.uniqueId, r.owner, r.upcall.map Upcall.target)) =
      [(1, some 0, some (5, some 7)), (2, some 1, some (9, none))])
    (by decide)
  obtain ⟨-, -, -, honce, hslots, -⟩ := client_dispatch hrun
  exact ⟨s, hrun, of_decide_eq_true hlog, honce, hslots⟩

end UnifiedRil.ClientDispatch

import UnifiedRil.ClientRuns

namespace UnifiedRil.RepeatedResponses

open UnifiedRil.Library.Runs
open UnifiedRil.Protocol
open UnifiedRil.Client
open UnifiedRil.ClientRuns

variable {φ δ : Type}

/-- The operation that holds slot `i` has the id `u`. -/
def OutstandingId (s : State φ δ) (u : UInt32) (i : Fin urilMaxPendingOps) : Prop :=
  ∃ k c stage, s.holder i = some k ∧ s.calls k = some c ∧ c.phase = .holding stage u i

/-- The holder of slot `i` wrote the slot's callback and its id `u`. -/
def FilledIn (s : State φ δ) (u : UInt32) (i : Fin urilMaxPendingOps) : Prop :=
  ∃ k c stage, s.holder i = some k ∧ s.writer i = some k ∧ s.calls k = some c ∧
    c.phase = .holding stage u i ∧ (stage = .filled ∨ stage = .sent ∨ stage = .sendFailed)

/-- The slot that a response is looked up in, if there is one, is filled in by
the operation that holds it, or is free and has no callback. -/
def FindsOutstanding (s : State φ δ) : Action φ δ → Prop
  | .receive msg =>
      msg.isIndication = 0 →
        ∀ i, lookupPendingOp s.context.pendingOps msg.uniqueId = some i →
          FilledIn s msg.uniqueId i ∨
            (s.context.pendingOps i).busy = false ∧
              (s.context.pendingOps i).asyncRespCb = none
  | _ => True

/-- A call whose callback was invoked holds no slot any more. -/
structure Owned (s : State φ δ) : Prop where
  slots : Slots s
  invoked : ∀ r ∈ s.responses, ∀ k, r.owner = some k → r.upcall.isSome →
    (∃ i, Holding s k i) ∧ ∀ j, s.holder j ≠ some k
  once : ∀ k, invocations k s.responses ≤ 1

theorem owned_initial : Owned (State.initial : State φ δ) :=
  ⟨slots_initial, by simp [State.initial], by simp [State.initial, invocations]⟩

theorem owned_other {s t : State φ δ} {a : Action φ δ} (h : Owned s)
    (hreceive : ∀ msg, a ≠ .receive msg) (hstep : step s a = some t) : Owned t := by
  have hresponses := responses_step hstep hreceive
  have hevolves := evolves_step h.slots hstep
  refine ⟨slots_step h.slots hstep, ?_, by rw [hresponses]; exact h.once⟩
  intro r hr k howner hupcall
  rw [hresponses] at hr
  obtain ⟨⟨i, hi⟩, hnone⟩ := h.invoked r hr k howner hupcall
  refine ⟨⟨i, hevolves.holding k i hi⟩, ?_⟩
  intro j hj
  rcases hevolves.holder j k hj with hold | ⟨hnever, -⟩
  · exact hnone j hold
  · exact hnever i hi

theorem owned_answered {s t : State φ δ} (h : Owned s) {msg : UrilProtocolMsg} {k : Nat}
    {i : Fin urilMaxPendingOps} {upcall : Option (Upcall φ δ)}
    (hholder : s.holder i = some k) (hwriter : s.writer i = some k) (hslots : Slots t)
    (hcalls : t.calls = s.calls) (hfreed : t.holder = s.freeSlot (some i))
    (hresponses : t.responses = ⟨msg, s.writer i, upcall⟩ :: s.responses) : Owned t := by
  have hbefore : ∀ r ∈ s.responses, ¬ (r.owner == some k && r.upcall.isSome) = true := by
    intro r hr hinvoked
    simp only [Bool.and_eq_true, beq_iff_eq] at hinvoked
    exact (h.invoked r hr k hinvoked.1 hinvoked.2).2 i hholder
  have hholding : Holding t k i := by
    simpa only [Holding, hcalls] using h.slots.holder i k hholder
  refine ⟨hslots, ?_, ?_⟩
  · rw [hresponses, hfreed]
    intro r hr k' howner hupcall
    rcases List.mem_cons.mp hr with rfl | hr
    · obtain rfl : k = k' := Option.some.inj (hwriter.symm.trans howner)
      refine ⟨⟨i, hholding⟩, ?_⟩
      intro j hj
      obtain ⟨hj, hne⟩ := freeSlot_eq_some hj
      exact hne ((h.slots.holder i k hholder).slot_unique (h.slots.holder j k hj))
    · obtain ⟨⟨j, hj⟩, hnone⟩ := h.invoked r hr k' howner hupcall
      exact ⟨⟨j, by simpa only [Holding, hcalls] using hj⟩,
        fun j hj => hnone j (freeSlot_eq_some hj).1⟩
  · intro k'
    rw [hresponses]
    simp only [invocations, List.countP_cons]
    obtain rfl | hk' := eq_or_ne k' k
    · rw [List.countP_eq_zero.mpr hbefore]
      split <;> omega
    · have hnot : (s.writer i == some k') = false := by simp [hwriter, Ne.symm hk']
      simpa [hnot, invocations] using h.once k'

theorem owned_ignored {s : State φ δ} (h : Owned s) (msg : UrilProtocolMsg)
    (owner : Option Nat) : Owned { s with responses := ⟨msg, owner, none⟩ :: s.responses } where
  slots := ⟨h.slots.fresh, h.slots.busy, h.slots.holder⟩
  invoked r hr k howner hupcall := by
    rcases List.mem_cons.mp hr with rfl | hr
    · cases hupcall
    · exact h.invoked r hr k howner hupcall
  once k := by simpa [invocations] using h.once k

theorem freeSlot_of_free {s : State φ δ} (h : Slots s) {i : Fin urilMaxPendingOps}
    (hfree : (s.context.pendingOps i).busy = false) :
    s.freeSlot (some i) = s.holder ∧
      Function.update s.context.pendingOps i { s.context.pendingOps i with busy := false } =
        s.context.pendingOps := by
  have hnone : s.holder i = none := by
    have hbusy := h.busy i
    rw [hfree] at hbusy
    simpa using hbusy.symm
  constructor
  · funext j
    by_cases hj : i = j
    · simp [State.freeSlot, ← hj, hnone]
    · simp [State.freeSlot, hj]
  · rw [Function.update_eq_self_iff, ← hfree]

theorem owned_step {s t : State φ δ} {a : Action φ δ} (h : Owned s)
    (hallowed : FindsOutstanding s a) (hstep : step s a = some t) : Owned t := by
  cases a with
  | receive msg =>
      obtain hrsp | hind := eq_or_ne msg.isIndication 0
      · have hslots := slots_step h.slots hstep
        rcases step_response hrsp hstep with ⟨i, hlookup, rfl⟩ | ⟨-, rfl⟩
        · rcases hallowed hrsp i hlookup with ⟨k, -, -, hholder, hwriter, -⟩ | ⟨hfree, hcb⟩
          · exact owned_answered h hholder hwriter hslots rfl rfl rfl
          · obtain ⟨hholder, hops⟩ := freeSlot_of_free h.slots hfree
            rw [hholder, hops, hcb]
            exact owned_ignored h msg _
        · exact owned_ignored h msg none
      · rw [step_indication hind hstep]
        exact h
  | _ => exact owned_other h (by simp) hstep

theorem owned_reached {s : State φ δ}
    (hrun : Reaches step FindsOutstanding (State.initial : State φ δ) s) : Owned s :=
  hrun.invariant Owned owned_initial fun _ _ _ h hallowed hstep => owned_step h hallowed hstep

/-- Along runs whose responses find only outstanding operations, callbacks are
invoked at most once, and a response for any other id does nothing. -/
theorem callbacks_at_most_once {s : State φ δ}
    (hrun : Reaches step FindsOutstanding (State.initial : State φ δ) s) :
    (∀ k, invocations k s.responses ≤ 1) ∧
    (∀ msg t, msg.isIndication = 0 → FindsOutstanding s (.receive msg) →
      (∀ i, ¬ OutstandingId s msg.uniqueId i) → step s (.receive msg) = some t →
      t.context = s.context ∧ ∃ owner, t.responses = ⟨msg, owner, none⟩ :: s.responses) := by
  have h := owned_reached hrun
  refine ⟨h.once, ?_⟩
  intro msg t hrsp hallowed hnot hstep
  rcases step_response hrsp hstep with ⟨i, hlookup, rfl⟩ | ⟨-, rfl⟩
  · rcases hallowed hrsp i hlookup with ⟨k, c, stage, hholder, -, hc, hphase, -⟩ | ⟨hfree, hcb⟩
    · exact absurd ⟨k, c, stage, hholder, hc, hphase⟩ (hnot i)
    · obtain ⟨-, hops⟩ := freeSlot_of_free h.slots hfree
      rw [hops, hcb]
      exact ⟨rfl, s.writer i, rfl⟩
  · exact ⟨rfl, none, rfl⟩

/-- `FilledIn` as a test. -/
def filledIn (s : State φ δ) (u : UInt32) (i : Fin urilMaxPendingOps) : Bool :=
  match s.holder i with
  | none => false
  | some k =>
      s.writer i == some k &&
        match s.calls k with
        | some ⟨_, _, .holding stage u' j⟩ =>
            u' == u && j == i && (stage == .filled || stage == .sent || stage == .sendFailed)
        | _ => false

/-- `FindsOutstanding` as a test. -/
def findsOutstanding (s : State φ δ) : Action φ δ → Bool
  | .receive msg =>
      msg.isIndication ≠ 0 ||
        match lookupPendingOp s.context.pendingOps msg.uniqueId with
        | none => true
        | some i => filledIn s msg.uniqueId i ||
            !(s.context.pendingOps i).busy && (s.context.pendingOps i).asyncRespCb.isNone
  | _ => true

theorem filledIn_sound {s : State φ δ} {u : UInt32} {i : Fin urilMaxPendingOps}
    (h : filledIn s u i = true) : FilledIn s u i := by
  unfold filledIn at h
  split at h
  · cases h
  · rename_i k hholder
    rw [Bool.and_eq_true, beq_iff_eq] at h
    obtain ⟨hwriter, h⟩ := h
    split at h
    · rename_i cb data stage u' j hc
      simp only [Bool.and_eq_true, Bool.or_eq_true, beq_iff_eq] at h
      obtain ⟨⟨rfl, rfl⟩, hstage⟩ := h
      exact ⟨k, _, stage, hholder, hwriter, hc, rfl, or_assoc.mp hstage⟩
    · cases h

theorem findsOutstanding_sound (s : State φ δ) (a : Action φ δ)
    (h : findsOutstanding s a = true) : FindsOutstanding s a := by
  cases a with
  | receive msg =>
      intro hrsp i hlookup
      simp only [findsOutstanding, hrsp, hlookup, ne_eq, not_true_eq_false, decide_false,
        Bool.false_or, Bool.or_eq_true, Bool.and_eq_true, Bool.not_eq_true',
        Option.isNone_iff_eq_none] at h
      exact h.imp_left filledIn_sound
  | initContext _ _ | initConnected | release | begin _ _ _ | allocateId _ | acquireSlot _
  | fill _ | send _ _ => trivial

/-- Two calls, one after the other in the same slot, and an id that nobody has. -/
theorem callbacks_at_most_once_sample :
    ∃ s : State Nat Nat,
      s.responses.map (fun r => (r.msg.uniqueId, r.owner, r.upcall.map Upcall.target)) =
        [(2, some 1, some (6, none)), (5, none, none), (1, some 0, some (5, some 7))] ∧
      ∀ k, invocations k s.responses ≤ 1 := by
  obtain ⟨s, hrun, hlog⟩ := exists_reaches_of_exec step findsOutstanding findsOutstanding_sound
    (State.initial : State Nat Nat)
    [.initContext none none, .initConnected, .begin 1 (some 5) (some 7), .allocateId 0,
      .acquireSlot 0, .fill 0, .fill 0, .fill 0, .send 0 true,
      .receive { UrilProtocolMsg.zeroed with uniqueId := 1 },
      .begin 1 (some 6) none, .allocateId 1, .acquireSlot 1, .fill 1, .fill 1, .fill 1,
      .receive { UrilProtocolMsg.zeroed with uniqueId := 5 }, .send 1 true,
      .receive { UrilProtocolMsg.zeroed with uniqueId := 2 }]
    (fun s => s.responses.map (fun r => (r.msg.uniqueId, r.owner, r.upcall.map Upcall.target)) =
      [(2, some 1, some (6, none)), (5, none, none), (1, some 0, some (5, some 7))])
    (by decide)
  exact ⟨s, of_decide_eq_true hlog, (callbacks_at_most_once hrun).1⟩

/-- A response that arrives twice invokes the callback of its request twice. -/
theorem duplicate_response_repeats_callback :
    ¬ ∀ s : State Nat Nat, Reaches step anyAction State.initial s →
      (∀ k, invocations k s.responses ≤ 1) ∧
      (∀ msg t, msg.isIndication = 0 → (∀ i, ¬ OutstandingId s msg.uniqueId i) →
        step s (.receive msg) = some t →
        t.context = s.context ∧ ∃ owner, t.responses = ⟨msg, owner, none⟩ :: s.responses) := by
  intro hunique
  obtain ⟨s, hrun, htwice⟩ := exists_run (@step Nat Nat) State.initial
    [.initContext none none, .initConnected, .begin 1 (some 5) (some 7), .allocateId 0,
      .acquireSlot 0, .fill 0, .fill 0, .fill 0, .send 0 true,
      .receive { UrilProtocolMsg.zeroed with uniqueId := 1 },
      .receive { UrilProtocolMsg.zeroed with uniqueId := 1 }]
    (fun s => invocations 0 s.responses = 2) (by decide)
  have hcount := (hunique s hrun).1 0
  rw [of_decide_eq_true htwice] at hcount
  omega

end UnifiedRil.RepeatedResponses

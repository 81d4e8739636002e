import UnifiedRil.Client
import UnifiedRil.Library.Runs

/-!
The client process as a transition system: any number of threads inside
`uril_client_execute_command_async`, the receive thread, and threads that
initialize or release the library. A call that fails the checks at its start
does nothing and is not a step; a critical section is one step, and so is every
assignment to the acquired slot.
-/

namespace UnifiedRil.ClientRuns

open UnifiedRil.Library.Runs
open UnifiedRil.Protocol
open UnifiedRil.Client

variable {φ δ : Type}

/-- What a call did last to the slot it acquired. -/
inductive Stage
  | acquired
  | callbackWritten
  | clientDataWritten
  | filled
  | sent
  | sendFailed
  deriving DecidableEq

/-- How far a call of `uril_client_execute_command_async` has come. -/
inductive Phase
  | begun
  | allocated (uniqueId : UInt32)
  | refused (uniqueId : UInt32)
  | holding (stage : Stage) (uniqueId : UInt32) (slot : Fin urilMaxPendingOps)
  deriving DecidableEq

/-- `msg.unique_id`, once it is allocated. -/
def Phase.uniqueId? : Phase → Option UInt32
  | .begun => none
  | .allocated u | .refused u | .holding _ u _ => some u

structure Call (φ δ : Type) where
  asyncRespCb : Option φ
  clientData : Option δ
  phase : Phase
  deriving DecidableEq

/-- A response that was handled, the call that wrote the callback that was
invoked, and that invocation. -/
structure Response (φ δ : Type) where
  msg : UrilProtocolMsg
  owner : Option Nat
  upcall : Option (Upcall φ δ)
  deriving DecidableEq

structure State (φ δ : Type) where
  context : Context φ δ
  uniqueMsgId : UInt32
  uniqueHandle : UInt32
  calls : Nat → Option (Call φ δ)
  nextCall : Nat
  issued : Nat
  /-- the call that acquired a slot and has it still -/
  holder : Fin urilMaxPendingOps → Option Nat
  /-- the call that wrote a slot's callback -/
  writer : Fin urilMaxPendingOps → Option Nat
  responses : List (Response φ δ)

/-- The process starts. -/
def State.initial : State φ δ :=
  { context := .zeroed, uniqueMsgId := 0, uniqueHandle := 0, calls := fun _ => none
    nextCall := 0, issued := 0, holder := fun _ => none, writer := fun _ => none
    responses := [] }

inductive Action (φ δ : Type)
  /-- `uril_client_init` up to its attempts to connect -/
  | initContext (indCb defaultRespCb : Option φ)
  /-- `uril_client_init` after it connected -/
  | initConnected
  | release
  | begin (hndl : UInt32) (asyncRespCb : Option φ) (clientData : Option δ)
  | allocateId (k : Nat)
  | acquireSlot (k : Nat)
  | fill (k : Nat)
  | send (k : Nat) (ok : Bool)
  | receive (msg : UrilProtocolMsg)

/-- The assignments to the acquired slot, in their order. -/
def assign (ctx : Context φ δ) (c : Call φ δ) (u : UInt32) (op : PendingOp φ δ) :
    Stage → Option (Stage × PendingOp φ δ)
  | .acquired => some (.callbackWritten, { op with
      asyncRespCb := storedCallback ctx c.asyncRespCb })
  | .callbackWritten => some (.clientDataWritten, { op with clientData := c.clientData })
  | .clientDataWritten => some (.filled, { op with uniqueId := u })
  | _ => none

def State.setPhase (s : State φ δ) (k : Nat) (c : Call φ δ) (phase : Phase) : State φ δ :=
  { s with calls := Function.update s.calls k (some { c with phase := phase }) }

/-- Slot `i` is no longer any call's. -/
def State.freeSlot (s : State φ δ) (i : Option (Fin urilMaxPendingOps)) :
    Fin urilMaxPendingOps → Option Nat :=
  fun j => if i = some j then none else s.holder j

def step (s : State φ δ) : Action φ δ → Option (State φ δ)
  | .initContext indCb defaultRespCb =>
      some { s with
        context := { Context.zeroed with indCb := indCb, defaultAsyncCb := defaultRespCb }
        holder := fun _ => none
        writer := fun _ => none }
  | .initConnected =>
      some { s with
        context := { s.context with initialized := true, handle := s.uniqueHandle + 1 }
        uniqueHandle := s.uniqueHandle + 1 }
  | .release => some { s with context := (clientRelease s.context).1 }
  | .begin hndl asyncRespCb clientData =>
      if s.context.initialized ∧ hndl = s.context.handle then
        some { s with
          calls := Function.update s.calls s.nextCall (some ⟨asyncRespCb, clientData, .begun⟩)
          nextCall := s.nextCall + 1 }
      else none
  | .allocateId k =>
      match s.calls k with
      | some c =>
          if c.phase = .begun then
            some { s.setPhase k c (.allocated (s.uniqueMsgId + 1)) with
              uniqueMsgId := s.uniqueMsgId + 1
              issued := s.issued + 1 }
          else none
      | none => none
  | .acquireSlot k =>
      match s.calls k with
      | some c =>
          match c.phase with
          | .allocated u =>
              match acquireFreeOpSlot s.context.pendingOps with
              | (some i, ops) =>
                  some { s.setPhase k c (.holding .acquired u i) with
                    context := { s.context with pendingOps := ops }
                    holder := Function.update s.holder i (some k) }
              | (none, _) => some (s.setPhase k c (.refused u))
          | _ => none
      | none => none
  | .fill k =>
      match s.calls k with
      | some c =>
          match c.phase with
          | .holding stage u i =>
              match assign s.context c u (s.context.pendingOps i) stage with
              | some (stage', op) =>
                  some { s.setPhase k c (.holding stage' u i) with
                    context := { s.context with
                      pendingOps := Function.update s.context.pendingOps i op }
                    writer := if stage = .acquired then Function.update s.writer i (some k)
                      else s.writer }
              | none => none
          | _ => none
      | none => none
  | .send k ok =>
      match s.calls k with
      | some c =>
          match c.phase with
          | .holding .filled u i =>
              some (s.setPhase k c (.holding (if ok then .sent else .sendFailed) u i))
          | _ => none
      | none => none
  | .receive msg =>
      if msg.isIndication ≠ 0 then some { s with context := (handleReceive s.context msg).1 }
      else
        let found := lookupPendingOp s.context.pendingOps msg.uniqueId
        some { s with
          context := (handleReceive s.context msg).1
          holder := s.freeSlot found
          responses := ⟨msg, found.bind s.writer, (handleReceive s.context msg).2⟩ ::
            s.responses }

/-- How often call `k`'s callback was invoked. -/
def invocations (k : Nat) (responses : List (Response φ δ)) : Nat :=
  responses.countP fun r => r.owner == some k && r.upcall.isSome

theorem assign_unsent {ctx : Context φ δ} {c : Call φ δ} {u : UInt32} {op op' : PendingOp φ δ}
    {stage stage' : Stage} (h : assign ctx c u op stage = some (stage', op')) :
    stage ≠ .sent ∧ op'.busy = op.busy := by
  cases stage <;> simp only [assign, Option.some.injEq, Prod.mk.injEq, reduceCtorEq] at h <;>
    obtain ⟨-, rfl⟩ := h <;> exact ⟨by decide, rfl⟩

theorem step_begin {s t : State φ δ} {hndl : UInt32} {cb : Option φ} {data : Option δ}
    (h : step s (.begin hndl cb data) = some t) :
    t = { s with
      calls := Function.update s.calls s.nextCall (some ⟨cb, data, .begun⟩)
      nextCall := s.nextCall + 1 } := by
  simp only [step, Option.ite_none_right_eq_some, Option.some.injEq] at h
  exact h.2.symm

theorem step_allocateId {s t : State φ δ} {k : Nat} (h : step s (.allocateId k) = some t) :
    ∃ c, s.calls k = some c ∧ c.phase = .begun ∧
      t = { s.setPhase k c (.allocated (s.uniqueMsgId + 1)) with
        uniqueMsgId := s.uniqueMsgId + 1
        issued := s.issued + 1 } := by
  simp only [step] at h
  split at h
  · rename_i c hc
    simp only [Option.ite_none_right_eq_some, Option.some.injEq] at h
    exact ⟨c, hc, h.1, h.2.symm⟩
  · cases h

theorem step_acquireSlot {s t : State φ δ} {k : Nat} (h : step s (.acquireSlot k) = some t) :
    ∃ c u, s.calls k = some c ∧ c.phase = .allocated u ∧
      ((∃ i, ((s.context.pendingOps i).busy = false ∧
            ∀ j < i, (s.context.pendingOps j).busy = true) ∧
          t = { s.setPhase k c (.holding .acquired u i) with
            context := { s.context with
              pendingOps := Function.update s.context.pendingOps i
                { s.context.pendingOps i with busy := true } }
            holder := Function.update s.holder i (some k) }) ∨
        (∀ i, (s.context.pendingOps i).busy = true) ∧ t = s.setPhase k c (.refused u)) := by
  simp only [step] at h
  split at h
  · rename_i c hc
    split at h
    · rename_i u hphase
      refine ⟨c, u, hc, hphase, ?_⟩
      split at h
      · rename_i i ops hacquire
        obtain ⟨hfree, hops⟩ := acquireFreeOpSlot_some (congrArg Prod.fst hacquire)
        rw [hacquire] at hops
        simp only at hops
        subst hops
        have hlowest := acquireFreeOpSlot_lowest (congrArg Prod.fst hacquire)
        exact .inl ⟨i, ⟨hfree, hlowest⟩, (Option.some.inj h).symm⟩
      · rename_i ops hacquire
        exact .inr ⟨acquireFreeOpSlot_none (congrArg Prod.fst hacquire),
          (Option.some.inj h).symm⟩
    · cases h
  · cases h

theorem step_fill {s t : State φ δ} {k : Nat} (h : step s (.fill k) = some t) :
    ∃ c stage u i stage' op, s.calls k = some c ∧ c.phase = .holding stage u i ∧
      assign s.context c u (s.context.pendingOps i) stage = some (stage', op) ∧
      t = { s.setPhase k c (.holding stage' u i) with
        context := { s.context with
          pendingOps := Function.update s.context.pendingOps i op }
        writer := if stage = .acquired then Function.update s.writer i (some k)
          else s.writer } := by
  simp only [step] at h
  split at h
  · rename_i c hc
    split at h
    · rename_i stage u i hphase
      split at h
      · rename_i stage' op hassign
        exact ⟨c, stage, u, i, stage', op, hc, hphase, hassign, (Option.some.inj h).symm⟩
      · cases h
    · cases h
  · cases h

theorem step_send {s t : State φ δ} {k : Nat} {ok : Bool} (h : step s (.send k ok) = some t) :
    ∃ c u i, s.calls k = some c ∧ c.phase = .holding .filled u i ∧
      t = s.setPhase k c (.holding (if ok then .sent else .sendFailed) u i) := by
  simp only [step] at h
  split at h
  · rename_i c hc
    split at h
    · rename_i u i hphase
      exact ⟨c, u, i, hc, hphase, (Option.some.inj h).symm⟩
    · cases h
  · cases h

theorem step_indication {s t : State φ δ} {msg : UrilProtocolMsg}
    (hind : msg.isIndication ≠ 0) (h : step s (.receive msg) = some t) : t = s := by
  simp only [step, handleReceive, if_pos hind, Option.some.injEq] at h
  exact h.symm

/-- A response either finds no slot and changes nothing, or frees the slot it
finds and makes that slot's call. -/
theorem step_response {s t : State φ δ} {msg : UrilProtocolMsg} (hrsp : msg.isIndication = 0)
    (h : step s (.receive msg) = some t) :
    (∃ i, lookupPendingOp s.context.pendingOps msg.uniqueId = some i ∧
      t = { s with
        context := { s.context with
          pendingOps := Function.update s.context.pendingOps i
            { s.context.pendingOps i with busy := false } }
        holder := s.freeSlot (some i)
        responses := ⟨msg, s.writer i,
          responseUpcall s.context.handle (s.context.pendingOps i).asyncRespCb
            (s.context.pendingOps i).clientData msg⟩ :: s.responses }) ∨
    lookupPendingOp s.context.pendingOps msg.uniqueId = none ∧
      t = { s with responses := ⟨msg, none, none⟩ :: s.responses } := by
  have hnot : ¬ msg.isIndication ≠ 0 := not_not.mpr hrsp
  simp only [step, if_neg hnot, Option.some.injEq, handleReceive] at h
  cases hlookup : lookupPendingOp s.context.pendingOps msg.uniqueId with
  | some i =>
      rw [handleReceiveRsp_some hlookup, hlookup] at h
      exact .inl ⟨i, rfl, h.symm⟩
  | none =>
      rw [handleReceiveRsp_none hlookup, hlookup] at h
      exact .inr ⟨rfl, h.symm⟩

def Stage.next : Stage → Option Stage
  | .acquired => some .callbackWritten
  | .callbackWritten => some .clientDataWritten
  | .clientDataWritten => some .filled
  | _ => none

/-- The phases between which an action takes call `k`. -/
inductive Moves (a : Action φ δ) (k : Nat) : Phase → Phase → Prop
  | allocateId (u : UInt32) : Moves a k .begun (.allocated u)
  | acquireSlot (u : UInt32) (i : Fin urilMaxPendingOps) :
      Moves a k (.allocated u) (.holding .acquired u i)
  | refuse (u : UInt32) : Moves a k (.allocated u) (.refused u)
  | fill {stage stage' : Stage} (u : UInt32) (i : Fin urilMaxPendingOps)
      (hnext : stage.next = some stage') :
      Moves a k (.holding stage u i) (.holding stage' u i)
  | send (ok : Bool) (u : UInt32) (i : Fin urilMaxPendingOps) (ha : a = .send k ok) :
      Moves a k (.holding .filled u i) (.holding (if ok then .sent else .sendFailed) u i)

/-- What an action does to the calls where it is possible. -/
inductive CallsStep (a : Action φ δ) (s t : State φ δ) : Prop
  | same (hnot : ∀ hndl cb data, a ≠ .begin hndl cb data) (hsend : ∀ k ok, a ≠ .send k ok)
      (hcalls : t.calls = s.calls)
  | begun (hndl : UInt32) (cb : Option φ) (data : Option δ) (ha : a = .begin hndl cb data)
      (hcalls : t.calls = Function.update s.calls s.nextCall (some ⟨cb, data, .begun⟩))
  | moved (k : Nat) (c : Call φ δ) (phase : Phase)
      (hnot : ∀ hndl cb data, a ≠ .begin hndl cb data) (hc : s.calls k = some c)
      (hmoves : Moves a k c.phase phase) (hsend : ∀ k' ok, a = .send k' ok → k' = k)
      (hcalls : t.calls = (s.setPhase k c phase).calls)

theorem assign_next {ctx : Context φ δ} {c : Call φ δ} {u : UInt32} {op op' : PendingOp φ δ}
    {stage stage' : Stage} (h : assign ctx c u op stage = some (stage', op')) :
    stage.next = some stage' := by
  cases stage <;> simp only [assign, Option.some.injEq, Prod.mk.injEq, reduceCtorEq] at h <;>
    rw [Stage.next, h.1]

theorem Moves.sent_iff {a : Action φ δ} {k : Nat} {phase phase' : Phase}
    (h : Moves a k phase phase') (u : UInt32) :
    (∃ i, phase' = .holding .sent u i) ↔
      a = .send k true ∧ ∃ i, phase = .holding .filled u i := by
  cases h with
  | fill u' i hnext =>
      rename_i stage stage'
      cases stage <;> cases hnext <;> simp
  | send ok u' i ha =>
      obtain rfl := ha
      cases ok <;> simp
  | _ => simp

theorem Moves.sendFailed {a : Action φ δ} {k : Nat} {phase phase' : Phase} {u : UInt32}
    {i : Fin urilMaxPendingOps} (h : Moves a k phase phase')
    (hfailed : phase' = .holding .sendFailed u i) : a = .send k false := by
  cases h with
  | fill u' i' hnext =>
      rename_i stage stage'
      cases stage <;> cases hnext <;> cases hfailed
  | send ok u' i' ha =>
      cases ok with
      | false => exact ha
      | true => cases hfailed
  | _ => cases hfailed

theorem callsStep_of_step {s t : State φ δ} {a : Action φ δ} (hstep : step s a = some t) :
    CallsStep a s t := by
  cases a with
  | initContext indCb cb =>
      obtain rfl := Option.some.inj hstep
      exact .same (by simp) (by simp) rfl
  | initConnected | release =>
      obtain rfl := Option.some.inj hstep
      exact .same (by simp) (by simp) rfl
  | begin hndl cb data =>
      obtain rfl := step_begin hstep
      exact .begun hndl cb data rfl rfl
  | allocateId k =>
      obtain ⟨c, hc, hphase, rfl⟩ := step_allocateId hstep
      exact .moved k c _ (by simp) hc (hphase ▸ .allocateId _) (by simp) rfl
  | acquireSlot k =>
      obtain ⟨c, u, hc, hphase, ⟨i, -, rfl⟩ | ⟨-, rfl⟩⟩ := step_acquireSlot hstep
      · exact .moved k c _ (by simp) hc (hphase ▸ .acquireSlot u i) (by simp) rfl
      · exact .moved k c _ (by simp) hc (hphase ▸ .refuse u) (by simp) rfl
  | fill k =>
      obtain ⟨c, stage, u, i, stage', op, hc, hphase, hassign, rfl⟩ := step_fill hstep
      exact .moved k c _ (by simp) hc (hphase ▸ .fill u i (assign_next hassign)) (by simp) rfl
  | send k ok =>
      obtain ⟨c, u, i, hc, hphase, rfl⟩ := step_send hstep
      exact .moved k c _ (by simp) hc (hphase ▸ .send ok u i rfl)
        (fun _ _ ha => (Action.send.inj ha).1.symm) rfl
  | receive msg =>
      refine .same (by simp) (by simp) ?_
      obtain hrsp | hind := eq_or_ne msg.isIndication 0
      · rcases step_response hrsp hstep with ⟨i, -, rfl⟩ | ⟨-, rfl⟩ <;> rfl
      · rw [step_indication hind hstep]

/-- Call `k` acquired slot `i` at some time. -/
def Holding (s : State φ δ) (k : Nat) (i : Fin urilMaxPendingOps) : Prop :=
  ∃ c stage u, s.calls k = some c ∧ c.phase = .holding stage u i

/-- A slot is busy while a call has it, which is the call that acquired it. -/
structure Slots (s : State φ δ) : Prop where
  fresh : ∀ k, s.nextCall ≤ k → s.calls k = none
  busy : ∀ i, (s.context.pendingOps i).busy = (s.holder i).isSome
  holder : ∀ i k, s.holder i = some k → Holding s k i

theorem slots_initial : Slots (State.initial : State φ δ) := by
  constructor <;> simp [State.initial, Context.zeroed]

theorem Holding.slot_unique {s : State φ δ} {k : Nat} {i j : Fin urilMaxPendingOps}
    (hi : Holding s k i) (hj : Holding s k j) : i = j := by
  obtain ⟨c, stage, u, hc, hphase⟩ := hi
  obtain ⟨c', stage', u', hc', hphase'⟩ := hj
  obtain rfl : c' = c := Option.some.inj (hc'.symm.trans hc)
  rw [hphase, Phase.holding.injEq] at hphase'
  exact hphase'.2.2

theorem holding_setPhase {s : State φ δ} {k : Nat} {c : Call φ δ} {phase : Phase}
    (hc : s.calls k = some c)
    (hkeep : ∀ stage u i, c.phase = .holding stage u i →
      ∃ stage', phase = .holding stage' u i) {k' : Nat} {i : Fin urilMaxPendingOps}
    (h : Holding s k' i) : Holding (s.setPhase k c phase) k' i := by
  obtain ⟨c', stage, u, hc', hphase⟩ := h
  obtain rfl | hk := eq_or_ne k' k
  · obtain rfl : c' = c := Option.some.inj (hc'.symm.trans hc)
    obtain ⟨stage', hstage'⟩ := hkeep stage u i hphase
    exact ⟨{ c' with phase := phase }, stage', u, by simp [State.setPhase], hstage'⟩
  · exact ⟨c', stage, u, by simpa [State.setPhase, hk] using hc', hphase⟩

/-- What a step can do to calls and slots, whatever its action. -/
structure Evolves (a : Action φ δ) (s t : State φ δ) : Prop where
  nextCall : s.nextCall ≤ t.nextCall
  fresh : ∀ k, t.nextCall ≤ k → t.calls k = none
  call : ∀ k c, t.calls k = some c →
    (∃ c₀, s.calls k = some c₀ ∧ c.clientData = c₀.clientData) ∨
      k = s.nextCall ∧ t.nextCall = s.nextCall + 1 ∧
        ∃ hndl cb, a = .begin hndl cb c.clientData
  holding : ∀ k i, Holding s k i → Holding t k i
  refused : ∀ k c u, s.calls k = some c → c.phase = .refused u → t.calls k = some c
  holder : ∀ i k, t.holder i = some k →
    s.holder i = some k ∨ (∀ j, ¬ Holding s k j) ∧ Holding t k i
  slotData : ∀ i d, (t.context.pendingOps i).clientData = some d →
    (s.context.pendingOps i).clientData = some d ∨
      ∃ k c, s.calls k = some c ∧ c.clientData = some d ∧ Holding s k i

theorem evolves_of_calls {a : Action φ δ} {s t : State φ δ} (h : Slots s)
    (hcalls : t.calls = s.calls) (hnext : t.nextCall = s.nextCall)
    (hholder : ∀ i k, t.holder i = some k → s.holder i = some k)
    (hdata : ∀ i d, (t.context.pendingOps i).clientData = some d →
      (s.context.pendingOps i).clientData = some d) : Evolves a s t where
  nextCall := hnext.ge
  fresh k hk := by
    rw [hcalls]
    exact h.fresh k (hnext ▸ hk)
  call k c hc := .inl ⟨c, hcalls ▸ hc, rfl⟩
  holding k i hk := by simpa only [Holding, hcalls] using hk
  refused k c u hc _ := hcalls ▸ hc
  holder i k hk := .inl (hholder i k hk)
  slotData i d hd := .inl (hdata i d hd)

theorem evolves_setPhase {a : Action φ δ} {s t : State φ δ} (h : Slots s) {k : Nat}
    {c : Call φ δ} (phase : Phase) (hc : s.calls k = some c)
    (hkeep : ∀ stage u i, c.phase = .holding stage u i →
      ∃ stage', phase = .holding stage' u i)
    (hrefused : ∀ u, c.phase ≠ .refused u)
    (hcalls : t.calls = (s.setPhase k c phase).calls) (hnext : t.nextCall = s.nextCall)
    (hholder : ∀ i k', t.holder i = some k' →
      s.holder i = some k' ∨ (∀ j, ¬ Holding s k' j) ∧ Holding t k' i)
    (hdata : ∀ i d, (t.context.pendingOps i).clientData = some d →
      (s.context.pendingOps i).clientData = some d ∨
        c.clientData = some d ∧ Holding s k i) : Evolves a s t where
  nextCall := hnext.ge
  fresh k' hk' := by
    have hnone := h.fresh k' (hnext ▸ hk')
    have hne : k' ≠ k := by
      rintro rfl
      simp [hc] at hnone
    simpa [hcalls, State.setPhase, hne] using hnone
  call k' c' hc' := by
    rw [hcalls] at hc'
    obtain rfl | hk' := eq_or_ne k' k
    · simp only [State.setPhase, Function.update_self, Option.some.injEq] at hc'
      subst hc'
      exact .inl ⟨c, hc, rfl⟩
    · exact .inl ⟨c', by simpa [State.setPhase, hk'] using hc', rfl⟩
  holding k' i hk' := by
    have hset := holding_setPhase hc hkeep hk'
    simpa only [Holding, hcalls] using hset
  refused k' c' u hc' hphase := by
    obtain rfl | hk' := eq_or_ne k' k
    · obtain rfl : c' = c := Option.some.inj (hc'.symm.trans hc)
      exact absurd hphase (hrefused u)
    · simpa [hcalls, State.setPhase, hk'] using hc'
  holder := hholder
  slotData i d hd := (hdata i d hd).imp_right fun ⟨hd, hi⟩ => ⟨k, c, hc, hd, hi⟩

theorem evolves_begin {s : State φ δ} (h : Slots s) (hndl : UInt32) (cb : Option φ)
    (data : Option δ) :
    Evolves (.begin hndl cb data) s { s with
      calls := Function.update s.calls s.nextCall (some ⟨cb, data, .begun⟩)
      nextCall := s.nextCall + 1 } := by
  have hold : ∀ k c, s.calls k = some c → k ≠ s.nextCall := by
    rintro k c hc rfl
    simp [h.fresh s.nextCall le_rfl] at hc
  constructor
  case nextCall => exact Nat.le_succ _
  case fresh =>
    intro k hk
    change s.nextCall + 1 ≤ k at hk
    have hne : k ≠ s.nextCall := by omega
    simpa [hne] using h.fresh k (by omega)
  case call =>
    intro k c hc
    obtain rfl | hk := eq_or_ne k s.nextCall
    · simp only [Function.update_self, Option.some.injEq] at hc
      subst hc
      exact .inr ⟨rfl, rfl, hndl, cb, rfl⟩
    · exact .inl ⟨c, by simpa [hk] using hc, rfl⟩
  case holding =>
    rintro k i ⟨c, stage, u, hc, hphase⟩
    exact ⟨c, stage, u, by simpa [hold k c hc] using hc, hphase⟩
  case refused =>
    intro k c u hc _
    simpa [hold k c hc] using hc
  case holder => exact fun _ _ => .inl
  case slotData => exact fun _ _ => .inl

theorem assign_clientData {ctx : Context φ δ} {c : Call φ δ} {u : UInt32}
    {op op' : PendingOp φ δ} {stage stage' : Stage}
    (h : assign ctx c u op stage = some (stage', op')) :
    op'.clientData = op.clientData ∨ op'.clientData = c.clientData := by
  cases stage <;> simp only [assign, Option.some.injEq, Prod.mk.injEq, reduceCtorEq] at h <;>
    obtain ⟨-, rfl⟩ := h <;> simp

theorem freeSlot_eq_some {s : State φ δ} {i j : Fin urilMaxPendingOps} {k : Nat}
    (h : s.freeSlot (some i) j = some k) : s.holder j = some k ∧ i ≠ j := by
  simp only [State.freeSlot, Option.some.injEq, ite_eq_iff] at h
  rcases h with ⟨-, h⟩ | ⟨hne, h⟩
  · cases h
  · exact ⟨h, hne⟩

theorem evolves_step {s t : State φ δ} {a : Action φ δ} (h : Slots s)
    (hstep : step s a = some t) : Evolves a s t := by
  cases a with
  | initContext indCb cb =>
      simp only [step, Option.some.injEq] at hstep
      subst hstep
      exact evolves_of_calls h rfl rfl (by simp) (by simp [Context.zeroed])
  | initConnected =>
      simp only [step, Option.some.injEq] at hstep
      subst hstep
      exact evolves_of_calls h rfl rfl (fun _ _ => id) (fun _ _ => id)
  | release =>
      simp only [step, Option.some.injEq] at hstep
      subst hstep
      refine evolves_of_calls h rfl rfl (fun _ _ => id) ?_
      intro i d hd
      simp only [clientRelease] at hd
      split at hd <;> exact hd
  | begin hndl cb data =>
      rw [step_begin hstep]
      exact evolves_begin h hndl cb data
  | allocateId k =>
      obtain ⟨c, hc, hphase, rfl⟩ := step_allocateId hstep
      exact evolves_setPhase h _ hc (by simp [hphase]) (by simp [hphase]) rfl rfl
        (fun _ _ => .inl) (fun _ _ => .inl)
  | acquireSlot k =>
      obtain ⟨c, u, hc, hphase, ⟨i, -, rfl⟩ | ⟨-, rfl⟩⟩ := step_acquireSlot hstep
      · refine evolves_setPhase h (.holding .acquired u i) hc (by simp [hphase])
          (by simp [hphase]) rfl rfl ?_ ?_
        · intro j k' hk'
          obtain rfl | hj := eq_or_ne j i
          · obtain rfl : k = k' := by simpa using hk'
            refine .inr ⟨?_, { c with phase := .holding .acquired u j }, .acquired, u,
              by simp [State.setPhase], rfl⟩
            rintro j' ⟨c', stage, u', hc', hphase'⟩
            obtain rfl : c' = c := Option.some.inj (hc'.symm.trans hc)
            simp [hphase] at hphase'
          · exact .inl (by simpa [hj] using hk')
        · intro j d hd
          obtain rfl | hj := eq_or_ne j i
          · exact .inl (by simpa using hd)
          · exact .inl (by simpa [hj] using hd)
      · exact evolves_setPhase h _ hc (by simp [hphase]) (by simp [hphase]) rfl rfl
          (fun _ _ => .inl) (fun _ _ => .inl)
  | fill k =>
      obtain ⟨c, stage, u, i, stage', op, hc, hphase, hassign, rfl⟩ := step_fill hstep
      refine evolves_setPhase h (.holding stage' u i) hc (by simp [hphase])
        (by simp [hphase]) rfl rfl (fun _ _ => .inl) ?_
      intro j d hd
      obtain rfl | hj := eq_or_ne j i
      · simp only [Function.update_self] at hd
        rcases assign_clientData hassign with hop | hop
        · exact .inl (hop ▸ hd)
        · exact .inr ⟨hop ▸ hd, c, stage, u, hc, hphase⟩
      · exact .inl (by simpa [hj] using hd)
  | send k ok =>
      obtain ⟨c, u, i, hc, hphase, rfl⟩ := step_send hstep
      exact evolves_setPhase h _ hc (by simp [hphase]) (by simp [hphase]) rfl rfl
        (fun _ _ => .inl) (fun _ _ => .inl)
  | receive msg =>
      obtain hrsp | hind := eq_or_ne msg.isIndication 0
      · rcases step_response hrsp hstep with ⟨i, -, rfl⟩ | ⟨-, rfl⟩
        · refine evolves_of_calls h rfl rfl (fun j k hk => (freeSlot_eq_some hk).1) ?_
          intro j d hd
          obtain rfl | hj := eq_or_ne j i
          · simpa using hd
          · simpa [hj] using hd
        · exact evolves_of_calls h rfl rfl (fun _ _ => id) (fun _ _ => id)
      · rw [step_indication hind hstep]
        exact evolves_of_calls h rfl rfl (fun _ _ => id) (fun _ _ => id)

/-- A slot is taken when it is acquired and given back when it is found for a
response; nothing else changes `busy`. -/
theorem busy_step {s t : State φ δ} {a : Action φ δ} (h : Slots s)
    (hstep : step s a = some t) :
    ∀ i, (t.context.pendingOps i).busy = (t.holder i).isSome := by
  intro i
  cases a with
  | initContext indCb cb =>
      simp only [step, Option.some.injEq] at hstep
      subst hstep
      rfl
  | initConnected =>
      simp only [step, Option.some.injEq] at hstep
      subst hstep
      exact h.busy i
  | release =>
      simp only [step, Option.some.injEq] at hstep
      subst hstep
      simp only [clientRelease]
      split <;> exact h.busy i
  | begin hndl cb data =>
      rw [step_begin hstep]
      exact h.busy i
  | allocateId k =>
      obtain ⟨c, -, -, rfl⟩ := step_allocateId hstep
      exact h.busy i
  | acquireSlot k =>
      obtain ⟨c, u, -, -, ⟨j, -, rfl⟩ | ⟨-, rfl⟩⟩ := step_acquireSlot hstep
      · obtain rfl | hj := eq_or_ne i j
        · simp
        · simpa [hj] using h.busy i
      · exact h.busy i
  | fill k =>
      obtain ⟨c, stage, u, j, stage', op, -, -, hassign, rfl⟩ := step_fill hstep
      obtain rfl | hj := eq_or_ne i j
      · simpa [(assign_unsent hassign).2, State.setPhase] using h.busy i
      · simpa [hj, State.setPhase] using h.busy i
  | send k ok =>
      obtain ⟨c, u, j, -, -, rfl⟩ := step_send hstep
      exact h.busy i
  | receive msg =>
      obtain hrsp | hind := eq_or_ne msg.isIndication 0
      · rcases step_response hrsp hstep with ⟨j, -, rfl⟩ | ⟨-, rfl⟩
        · obtain rfl | hj := eq_or_ne i j
          · simp [State.freeSlot]
          · simpa [hj, State.freeSlot, Ne.symm hj] using h.busy i
        · exact h.busy i
      · rw [step_indication hind hstep]
        exact h.busy i

theorem slots_step {s t : State φ δ} {a : Action φ δ} (h : Slots s)
    (hstep : step s a = some t) : Slots t := by
  have hevolves := evolves_step h hstep
  refine ⟨hevolves.fresh, busy_step h hstep, ?_⟩
  intro i k hk
  rcases hevolves.holder i k hk with hold | ⟨-, hnew⟩
  · exact hevolves.holding k i (h.holder i k hold)
  · exact hnew

/-- The call has returned. -/
def Phase.isFinal : Phase → Bool
  | .refused _ | .holding .sent _ _ | .holding .sendFailed _ _ => true
  | _ => false

theorem calls_setPhase_of_final {s : State φ δ} {k k' : Nat} {c c' : Call φ δ} (phase : Phase)
    (hc : s.calls k = some c) (hfinal : c.phase.isFinal = true) (hc' : s.calls k' = some c')
    (hmoves : c'.phase.isFinal = false) : (s.setPhase k' c' phase).calls k = some c := by
  have hne : k ≠ k' := by
    rintro rfl
    obtain rfl : c' = c := Option.some.inj (hc'.symm.trans hc)
    simp [hfinal] at hmoves
  simpa [State.setPhase, hne] using hc

theorem Moves.isFinal_eq_false {a : Action φ δ} {k : Nat} {phase phase' : Phase}
    (h : Moves a k phase phase') : phase.isFinal = false := by
  cases h with
  | fill u i hnext =>
      rename_i stage stage'
      cases stage <;> cases hnext <;> rfl
  | _ => rfl

theorem calls_step_of_final {s t : State φ δ} {a : Action φ δ} (h : Slots s)
    (hstep : step s a = some t) {k : Nat} {c : Call φ δ} (hc : s.calls k = some c)
    (hfinal : c.phase.isFinal = true) : t.calls k = some c := by
  cases callsStep_of_step hstep with
  | same hnot hsend hcalls => rwa [hcalls]
  | begun hndl cb data ha hcalls =>
      have hne : k ≠ s.nextCall := by
        rintro rfl
        simp [h.fresh s.nextCall le_rfl] at hc
      rwa [hcalls, Function.update_of_ne hne]
  | moved k' c' phase hnot hc' hmoves hsend hcalls =>
      rw [hcalls]
      exact calls_setPhase_of_final phase hc hfinal hc' hmoves.isFinal_eq_false

theorem responses_step {s t : State φ δ} {a : Action φ δ} (hstep : step s a = some t)
    (hreceive : ∀ msg, a ≠ .receive msg) : t.responses = s.responses := by
  cases a with
  | initContext indCb cb =>
      simp only [step, Option.some.injEq] at hstep
      rw [← hstep]
  | initConnected | release =>
      simp only [step, Option.some.injEq] at hstep
      rw [← hstep]
  | begin hndl cb data => rw [step_begin hstep]
  | allocateId k =>
      obtain ⟨c, -, -, rfl⟩ := step_allocateId hstep
      rfl
  | acquireSlot k =>
      obtain ⟨c, u, -, -, ⟨j, -, rfl⟩ | ⟨-, rfl⟩⟩ := step_acquireSlot hstep <;> rfl
  | fill k =>
      obtain ⟨c, stage, u, j, stage', op, -, -, -, rfl⟩ := step_fill hstep
      rfl
  | send k ok =>
      obtain ⟨c, u, j, -, -, rfl⟩ := step_send hstep
      rfl
  | receive msg => exact absurd rfl (hreceive msg)

end UnifiedRil.ClientRuns

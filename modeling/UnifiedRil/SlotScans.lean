import UnifiedRil.ClientDispatch

/-!
The critical sections of the client, one access to memory at a time: counting
the ids, the loops of `acquire_free_op_slot` and `lookup_pending_op`, and what
`handle_receive_rsp` reads of the operation it found. The mutexes are one, the
default mutex. The assignments to an acquired slot are made without it, so that
the loop of `lookup_pending_op` runs over a table that changes.

Every run of these accesses is one of `ClientRuns.step`, where a critical section
is one step.
-/

namespace UnifiedRil.SlotScans

open UnifiedRil.Library.Runs
open UnifiedRil.Protocol
open UnifiedRil.Client
open UnifiedRil.ClientRuns (Stage assign)
open UnifiedRil.ClientDispatch

variable {φ δ : Type}

/-- Who can hold the mutex: a call, or the receive thread. -/
inductive Agent
  | call (k : Nat)
  | receiver
  deriving DecidableEq

/-- How far a call of `uril_client_execute_command_async` has come. -/
inductive Phase
  | begun
  | counting
  | counterRead (counter : UInt32)
  | counted (uniqueId : UInt32)
  | allocated (uniqueId : UInt32)
  /-- `acquire_free_op_slot` is about to test this slot -/
  | scanning (uniqueId : UInt32) (i : Nat)
  | found (uniqueId : UInt32) (slot : Fin urilMaxPendingOps)
  | marked (uniqueId : UInt32) (slot : Fin urilMaxPendingOps)
  | full (uniqueId : UInt32)
  | refused (uniqueId : UInt32)
  | holding (stage : Stage) (uniqueId : UInt32) (slot : Fin urilMaxPendingOps)
  deriving DecidableEq

/-- The call holds the mutex. -/
def Phase.critical : Phase → Bool
  | .counting | .counterRead _ | .counted _ | .scanning _ _ | .found _ _ | .marked _ _
  | .full _ => true
  | _ => false

structure Call (φ δ : Type) where
  asyncRespCb : Option φ
  clientData : Option δ
  phase : Phase

/-- How far the receive thread has come with a response. -/
inductive Receiving (φ δ : Type)
  | idle
  | arrived (msg : UrilProtocolMsg)
  /-- `lookup_pending_op` is about to test this slot -/
  | scanning (msg : UrilProtocolMsg) (i : Nat)
  | found (msg : UrilProtocolMsg) (slot : Fin urilMaxPendingOps)
  | freed (msg : UrilProtocolMsg) (slot : Fin urilMaxPendingOps)
  | callbackRead (msg : UrilProtocolMsg) (slot : Fin urilMaxPendingOps)
      (asyncRespCb : Option φ)
  /-- with what was read of the operation -/
  | read (msg : UrilProtocolMsg) (op : Option (Option φ × Option δ))
  | unlocked (msg : UrilProtocolMsg) (op : Option (Option φ × Option δ))

/-- The receive thread holds the mutex. -/
def Receiving.critical : Receiving φ δ → Bool
  | .scanning _ _ | .found _ _ | .freed _ _ | .callbackRead _ _ _ | .read _ _ => true
  | _ => false

structure State (φ δ : Type) where
  context : Context φ δ
  uniqueMsgId : UInt32
  mutex : Option Agent
  calls : Nat → Option (Call φ δ)
  nextCall : Nat
  issued : Nat
  receiving : Receiving φ δ
  /-- the responses that were handled and what was called for them, newest first -/
  responses : List (UrilProtocolMsg × Option (Upcall φ δ))

/-- The state in which the first call of `uril_client_init` returns. -/
def State.ready (indCb defaultRespCb : Option φ) : State φ δ :=
  { context := { Context.zeroed with
      handle := 1, initialized := true, indCb := indCb, defaultAsyncCb := defaultRespCb }
    uniqueMsgId := 0, mutex := none, calls := fun _ => none, nextCall := 0, issued := 0
    receiving := .idle, responses := [] }

inductive Action (φ δ : Type)
  | begin (hndl : UInt32) (asyncRespCb : Option φ) (clientData : Option δ)
  /-- the next access of a call, up to its sending -/
  | run (k : Nat)
  | send (k : Nat) (ok : Bool)
  | arrive (msg : UrilProtocolMsg)
  /-- the next access of the receive thread -/
  | receive

def State.setPhase (s : State φ δ) (k : Nat) (c : Call φ δ) (phase : Phase) : State φ δ :=
  { s with calls := Function.update s.calls k (some { c with phase := phase }) }

def State.setSlot (s : State φ δ) (i : Fin urilMaxPendingOps) (op : PendingOp φ δ) : State φ δ :=
  { s with context := { s.context with
      pendingOps := Function.update s.context.pendingOps i op } }

/-- What a call is as long as a critical section is one step. -/
def Phase.view : Phase → ClientRuns.Phase
  | .begun | .counting | .counterRead _ => .begun
  | .counted u | .allocated u | .scanning u _ | .found u _ => .allocated u
  | .full u | .refused u => .refused u
  | .marked u i => .holding .acquired u i
  | .holding stage u i => .holding stage u i

def Call.view (c : Call φ δ) : ClientRuns.Call φ δ := ⟨c.asyncRespCb, c.clientData, c.phase.view⟩

/-- The next access of call `k`. -/
def runCall (s : State φ δ) (k : Nat) (c : Call φ δ) : Option (State φ δ) :=
  match c.phase with
  | .begun =>
      if s.mutex = none then some { s.setPhase k c .counting with mutex := some (.call k) }
      else none
  | .counting => some (s.setPhase k c (.counterRead s.uniqueMsgId))
  | .counterRead counter =>
      some { s.setPhase k c (.counted (counter + 1)) with
        uniqueMsgId := counter + 1
        issued := s.issued + 1 }
  | .counted u => some { s.setPhase k c (.allocated u) with mutex := none }
  | .allocated u =>
      if s.mutex = none then some { s.setPhase k c (.scanning u 0) with mutex := some (.call k) }
      else none
  | .scanning u i =>
      if h : i < urilMaxPendingOps then
        if (s.context.pendingOps ⟨i, h⟩).busy then some (s.setPhase k c (.scanning u (i + 1)))
        else some (s.setPhase k c (.found u ⟨i, h⟩))
      else some (s.setPhase k c (.full u))
  | .found u i =>
      some ((s.setPhase k c (.marked u i)).setSlot i
        { s.context.pendingOps i with busy := true })
  | .marked u i => some { s.setPhase k c (.holding .acquired u i) with mutex := none }
  | .full u => some { s.setPhase k c (.refused u) with mutex := none }
  | .refused _ => none
  | .holding stage u i =>
      match assign s.context c.view u (s.context.pendingOps i) stage with
      | some (stage', op) => some ((s.setPhase k c (.holding stage' u i)).setSlot i op)
      | none => none

/-- What is called for a response, with what was read of its operation. -/
def invoked (handle : UInt32) (op : Option (Option φ × Option δ)) (msg : UrilProtocolMsg) :
    Option (Upcall φ δ) :=
  op.bind fun (asyncRespCb, clientData) => responseUpcall handle asyncRespCb clientData msg

/-- The next access of the receive thread. -/
def runReceiver (s : State φ δ) : Option (State φ δ) :=
  match s.receiving with
  | .idle => none
  | .arrived msg =>
      if s.mutex = none then
        some { s with receiving := .scanning msg 0, mutex := some .receiver }
      else none
  | .scanning msg i =>
      if h : i < urilMaxPendingOps then
        if (s.context.pendingOps ⟨i, h⟩).uniqueId = msg.uniqueId then
          some { s with receiving := .found msg ⟨i, h⟩ }
        else some { s with receiving := .scanning msg (i + 1) }
      else some { s with receiving := .read msg none }
  | .found msg i =>
      some { s.setSlot i { s.context.pendingOps i with busy := false } with
        receiving := .freed msg i }
  | .freed msg i =>
      some { s with receiving := .callbackRead msg i (s.context.pendingOps i).asyncRespCb }
  | .callbackRead msg i cb =>
      some { s with receiving := .read msg (some (cb, (s.context.pendingOps i).clientData)) }
  | .read msg op => some { s with receiving := .unlocked msg op, mutex := none }
  | .unlocked msg op =>
      some { s with
        receiving := .idle
        responses := (msg, invoked s.context.handle op msg) :: s.responses }

def step (s : State φ δ) : Action φ δ → Option (State φ δ)
  | .begin hndl asyncRespCb clientData =>
      if s.context.initialized ∧ hndl = s.context.handle then
        some { s with
          calls := Function.update s.calls s.nextCall (some ⟨asyncRespCb, clientData, .begun⟩)
          nextCall := s.nextCall + 1 }
      else none
  | .run k =>
      match s.calls k with
      | some c => runCall s k c
      | none => none
  | .send k ok =>
      match s.calls k with
      | some c =>
          match c.phase with
          | .holding .filled u i =>
              some (s.setPhase k c (.holding (if ok then .sent else .sendFailed) u i))
          | _ => none
      | none => none
  | .arrive msg =>
      match s.receiving with
      | .idle =>
          if msg.isIndication ≠ 0 then some s else some { s with receiving := .arrived msg }
      | _ => none
  | .receive => runReceiver s

/-- Fewer than 2^32 ids are allocated, and a response that arrives answers an id
that was sent and not answered before. -/
def AnswersOnce (s : State φ δ) : Action φ δ → Prop
  | .run k => ∀ c counter, s.calls k = some c → c.phase = .counterRead counter →
      s.issued + 1 < 2 ^ 32
  | .arrive msg => msg.isIndication = 0 →
      (∃ k c i, s.calls k = some c ∧ c.phase = .holding .sent msg.uniqueId i) ∧
        ∀ r ∈ s.responses, r.1.uniqueId ≠ msg.uniqueId
  | _ => True

/-- What the mutex protects of a call's accesses. -/
def PhaseOk (s : State φ δ) : Phase → Prop
  | .counterRead counter => counter = s.uniqueMsgId
  | .scanning _ i => ∀ j : Fin urilMaxPendingOps, j.val < i → (s.context.pendingOps j).busy = true
  | .found _ i => (s.context.pendingOps i).busy = false ∧
      ∀ j < i, (s.context.pendingOps j).busy = true
  | _ => True

/-- The response is awaited by a call whose slot is the one at `n` or behind. -/
def AwaitedFrom (a : ClientRuns.State φ δ) (msg : UrilProtocolMsg) (n : Nat) : Prop :=
  msg.isIndication = 0 ∧ ¬ Answered a msg.uniqueId ∧
    ∃ k c i, a.calls k = some c ∧ c.phase = .holding .sent msg.uniqueId i ∧ n ≤ i.val

/-- What is known of the response at hand: its operation is found, and the slot
is nobody's once it is freed. -/
def ReceivingOk (a : ClientRuns.State φ δ) : Receiving φ δ → Prop
  | .arrived msg => AwaitedFrom a msg 0
  | .scanning msg i => AwaitedFrom a msg i
  | .found msg i => msg.isIndication = 0 ∧ ¬ Answered a msg.uniqueId ∧
      ∃ k c, a.calls k = some c ∧ c.phase = .holding .sent msg.uniqueId i
  | .freed _ i | .callbackRead _ i _ => a.holder i = none
  | .read _ op | .unlocked _ op => op.isSome
  | .idle => True

/-- The response that took effect with its slot, and was not handled yet. -/
def State.pending (s : State φ δ) : List (UrilProtocolMsg × Option (Upcall φ δ)) :=
  match s.receiving with
  | .freed msg i =>
      [(msg, responseUpcall s.context.handle (s.context.pendingOps i).asyncRespCb
        (s.context.pendingOps i).clientData msg)]
  | .callbackRead msg i cb =>
      [(msg, responseUpcall s.context.handle cb (s.context.pendingOps i).clientData msg)]
  | .read msg op | .unlocked msg op => [(msg, invoked s.context.handle op msg)]
  | _ => []

/-- The two systems' states after the same accesses. A section takes effect with
the write of the counter or of `busy`, or at the end of a loop in vain. -/
structure Refines (d : Option φ) (s : State φ δ) (a : ClientRuns.State φ δ) : Prop where
  dispatching : Dispatching d a
  context : a.context = s.context
  uniqueMsgId : a.uniqueMsgId = s.uniqueMsgId
  issued : a.issued = s.issued
  nextCall : a.nextCall = s.nextCall
  calls : ∀ k, a.calls k = (s.calls k).map Call.view
  responses : a.responses.map (fun r => (r.msg, r.upcall)) = s.pending ++ s.responses
  callSection : ∀ k c, s.calls k = some c → c.phase.critical = true → s.mutex = some (.call k)
  receiverSection : s.receiving.critical = true → s.mutex = some .receiver
  phase : ∀ k c, s.calls k = some c → PhaseOk s c.phase
  receiving : ReceivingOk a s.receiving

theorem refines_ready (indCb d : Option φ) :
    Refines d (State.ready indCb d : State φ δ) (ClientDispatch.State.ready indCb d) where
  dispatching := dispatching_ready indCb d
  context := rfl
  uniqueMsgId := rfl
  issued := rfl
  nextCall := rfl
  calls _ := rfl
  responses := rfl
  callSection := by simp [State.ready]
  receiverSection := by simp [State.ready, Receiving.critical]
  phase := by simp [State.ready]
  receiving := trivial

section Calls

variable {d : Option φ} {s s' : State φ δ} {a a' : ClientRuns.State φ δ} {k : Nat} {c : Call φ δ}

theorem Refines.call (h : Refines d s a) (hc : s.calls k = some c) :
    a.calls k = some c.view := by
  rw [h.calls, hc, Option.map_some]

theorem phaseOk_of_not_critical {phase : Phase} (h : phase.critical = false) : PhaseOk s phase := by
  cases phase <;> first | exact trivial | cases h

theorem PhaseOk.congr {phase : Phase} (h : PhaseOk s phase)
    (hcounter : s'.uniqueMsgId = s.uniqueMsgId)
    (hbusy : ∀ i, (s'.context.pendingOps i).busy = (s.context.pendingOps i).busy) :
    PhaseOk s' phase := by
  cases phase with
  | counterRead counter => exact h.trans hcounter.symm
  | scanning u i => exact fun j hj => (hbusy j).trans (h j hj)
  | found u i => exact ⟨(hbusy i).trans h.1, fun j hj => (hbusy j).trans (h.2 j hj)⟩
  | _ => trivial

theorem ReceivingOk.mono {receiving : Receiving φ δ} (h : ReceivingOk a receiving)
    (hresponses : a'.responses = a.responses)
    (hsent : ∀ k c u i, a.calls k = some c → c.phase = .holding .sent u i → a'.calls k = some c)
    (hholder : receiving.critical = true → ∀ i, a.holder i = none → a'.holder i = none) :
    ReceivingOk a' receiving := by
  have hopen : ∀ u, ¬ Answered a u → ¬ Answered a' u := by
    intro u hu
    rwa [Answered, hresponses]
  cases receiving with
  | arrived msg | scanning msg i =>
      obtain ⟨hrsp, hnot, k, c, j, hc, hphase, hj⟩ := h
      exact ⟨hrsp, hopen _ hnot, k, c, j, hsent k c _ j hc hphase, hphase, hj⟩
  | found msg i =>
      obtain ⟨hrsp, hnot, k, c, hc, hphase⟩ := h
      exact ⟨hrsp, hopen _ hnot, k, c, hsent k c _ i hc hphase, hphase⟩
  | freed msg i => exact hholder rfl i h
  | callbackRead msg i cb => exact hholder rfl i h
  | read _ _ | unlocked _ _ => exact h
  | idle => trivial

/-- What an access of call `k` leaves alone: only in its critical section does a
call write what the mutex protects, and it writes to no slot that is nobody's. -/
structure CallStep (s s' : State φ δ) (a a' : ClientRuns.State φ δ) (k : Nat) (c : Call φ δ)
    (phase : Phase) : Prop where
  context : a'.context = s'.context
  uniqueMsgId : a'.uniqueMsgId = s'.uniqueMsgId
  issued : a'.issued = s'.issued
  nextCall : a'.nextCall = s'.nextCall
  viewed : a'.calls = Function.update a.calls k (some { c.view with phase := phase.view })
  unanswered : a'.responses = a.responses
  handle : s'.context.handle = s.context.handle
  calls : s'.calls = Function.update s.calls k (some { c with phase := phase })
  receiving : s'.receiving = s.receiving
  responses : s'.responses = s.responses
  enters : phase.critical = true → s'.mutex = some (.call k)
  others : ∀ g, g ≠ .call k → s.mutex = some g → s'.mutex = some g
  shared : c.phase.critical = false →
    s'.uniqueMsgId = s.uniqueMsgId ∧
      ∀ i, (s'.context.pendingOps i).busy = (s.context.pendingOps i).busy
  slots : ∀ i, a.holder i = none →
    (s'.context.pendingOps i).asyncRespCb = (s.context.pendingOps i).asyncRespCb ∧
      (s'.context.pendingOps i).clientData = (s.context.pendingOps i).clientData
  holder : c.phase.critical = false → ∀ i, a.holder i = none → a'.holder i = none
  phase : PhaseOk s' phase

theorem pending_congr (hreceiving : s'.receiving = s.receiving)
    (hhandle : s'.context.handle = s.context.handle) (hok : ReceivingOk a s.receiving)
    (hslots : ∀ i, a.holder i = none →
      (s'.context.pendingOps i).asyncRespCb = (s.context.pendingOps i).asyncRespCb ∧
        (s'.context.pendingOps i).clientData = (s.context.pendingOps i).clientData) :
    s'.pending = s.pending := by
  unfold State.pending
  rw [hreceiving, hhandle]
  cases hphase : s.receiving with
  | freed msg i =>
      rw [hphase] at hok
      simp only [(hslots i hok).1, (hslots i hok).2]
  | callbackRead msg i cb =>
      rw [hphase] at hok
      simp only [(hslots i hok).2]
  | _ => rfl

theorem refines_call (h : Refines d s a) (hc : s.calls k = some c) (phase : Phase)
    (hunsent : ∀ u i, c.phase ≠ .holding .sent u i) (hdispatching : Dispatching d a')
    (hstep : CallStep s s' a a' k c phase) : Refines d s' a' := by
  have hother : ∀ k' c', s'.calls k' = some c' →
      k' = k ∧ c' = { c with phase := phase } ∨ k' ≠ k ∧ s.calls k' = some c' := by
    intro k' c' hc'
    rw [hstep.calls] at hc'
    obtain rfl | hk := eq_or_ne k' k
    · rw [Function.update_self, Option.some.injEq] at hc'
      exact .inl ⟨rfl, hc'.symm⟩
    · rw [Function.update_of_ne hk] at hc'
      exact .inr ⟨hk, hc'⟩
  have hfree : ∀ g, g ≠ .call k → s.mutex = some g → c.phase.critical = false := by
    intro g hg hmutex
    rw [← Bool.not_eq_true]
    intro hcritical
    rw [h.callSection k c hc hcritical, Option.some.injEq] at hmutex
    exact hg hmutex.symm
  constructor
  case dispatching => exact hdispatching
  case context => exact hstep.context
  case uniqueMsgId => exact hstep.uniqueMsgId
  case issued => exact hstep.issued
  case nextCall => exact hstep.nextCall
  case calls =>
    intro k'
    rw [hstep.viewed, hstep.calls]
    obtain rfl | hk := eq_or_ne k' k
    · rw [Function.update_self, Function.update_self, Option.map_some]
      rfl
    · rw [Function.update_of_ne hk, Function.update_of_ne hk]
      exact h.calls k'
  case responses =>
    rw [hstep.unanswered, hstep.responses, h.responses,
      pending_congr hstep.receiving hstep.handle h.receiving hstep.slots]
  case callSection =>
    intro k' c' hc' hcritical
    rcases hother k' c' hc' with ⟨rfl, rfl⟩ | ⟨hk, hold⟩
    · exact hstep.enters hcritical
    · exact hstep.others _ (by simpa using hk) (h.callSection k' c' hold hcritical)
  case receiverSection =>
    intro hcritical
    rw [hstep.receiving] at hcritical
    exact hstep.others .receiver (by simp) (h.receiverSection hcritical)
  case phase =>
    intro k' c' hc'
    rcases hother k' c' hc' with ⟨rfl, rfl⟩ | ⟨hk, hold⟩
    · exact hstep.phase
    · cases hcritical : c'.phase.critical with
      | false => exact phaseOk_of_not_critical hcritical
      | true =>
          have hmutex := h.callSection k' c' hold hcritical
          obtain ⟨hcounter, hbusy⟩ := hstep.shared (hfree _ (by simpa using hk) hmutex)
          exact (h.phase k' c' hold).congr hcounter hbusy
  case receiving =>
    rw [hstep.receiving]
    refine h.receiving.mono hstep.unanswered ?_ fun hcritical =>
      hstep.holder (hfree .receiver (by simp) (h.receiverSection hcritical))
    intro k' c' u i hc' hphase
    have hk : k' ≠ k := by
      rintro rfl
      obtain rfl := Option.some.inj ((h.call hc).symm.trans hc')
      have hview : c.phase.view = .holding .sent u i := hphase
      cases hreal : c.phase with
      | holding stage u' i' =>
          rw [hreal] at hview
          cases hview
          exact hunsent u i hreal
      | _ =>
          rw [hreal] at hview
          cases hview
    rw [hstep.viewed, Function.update_of_ne hk]
    exact hc'

theorem CallStep.unseen (h : Refines d s a) (hc : s.calls k = some c) {phase : Phase}
    (hview : phase.view = c.phase.view) (hcontext : s'.context = s.context)
    (huniqueMsgId : s'.uniqueMsgId = s.uniqueMsgId) (hissued : s'.issued = s.issued)
    (hnextCall : s'.nextCall = s.nextCall)
    (hcalls : s'.calls = Function.update s.calls k (some { c with phase := phase }))
    (hreceiving : s'.receiving = s.receiving) (hresponses : s'.responses = s.responses)
    (henters : phase.critical = true → s'.mutex = some (.call k))
    (hothers : ∀ g, g ≠ .call k → s.mutex = some g → s'.mutex = some g)
    (hphase : PhaseOk s' phase) : CallStep s s' a a k c phase where
  context := h.context.trans hcontext.symm
  uniqueMsgId := h.uniqueMsgId.trans huniqueMsgId.symm
  issued := h.issued.trans hissued.symm
  nextCall := h.nextCall.trans hnextCall.symm
  viewed := by
    have hsame : ({ c.view with phase := phase.view } : ClientRuns.Call φ δ) = c.view := by
      rw [hview]
      rfl
    rw [hsame, ← h.call hc, Function.update_eq_self]
  unanswered := rfl
  handle := by rw [hcontext]
  calls := hcalls
  receiving := hreceiving
  responses := hresponses
  enters := henters
  others := hothers
  shared _ := ⟨huniqueMsgId, fun i => by rw [hcontext]⟩
  slots i _ := by rw [hcontext]; exact ⟨rfl, rfl⟩
  holder _ _ := id
  phase := hphase

theorem refines_enter (h : Refines d s a) (hc : s.calls k = some c) {phase : Phase}
    (hview : phase.view = c.phase.view) (hunsent : ∀ u i, c.phase ≠ .holding .sent u i)
    (hmutex : s.mutex = none) (hphase : PhaseOk s phase) :
    Refines d { s.setPhase k c phase with mutex := some (.call k) } a := by
  refine refines_call h hc phase hunsent h.dispatching (.unseen h hc hview rfl rfl rfl rfl rfl rfl rfl
    (fun _ => rfl) ?_ (hphase.congr rfl fun _ => rfl))
  intro g _ hg
  rw [hmutex] at hg
  cases hg

theorem refines_inside (h : Refines d s a) (hc : s.calls k = some c) {phase : Phase}
    (hcritical : c.phase.critical = true) (hview : phase.view = c.phase.view)
    (hphase : PhaseOk s phase) : Refines d (s.setPhase k c phase) a := by
  have hunsent : ∀ u i, c.phase ≠ .holding .sent u i := by
    intro u i heq
    rw [heq] at hcritical
    cases hcritical
  exact refines_call h hc phase hunsent h.dispatching (.unseen h hc hview rfl rfl rfl rfl rfl rfl rfl
    (fun _ => h.callSection k c hc hcritical) (fun _ _ => id) (hphase.congr rfl fun _ => rfl))

theorem refines_leave (h : Refines d s a) (hc : s.calls k = some c) {phase : Phase}
    (hcritical : c.phase.critical = true) (hview : phase.view = c.phase.view)
    (hout : phase.critical = false) :
    Refines d { s.setPhase k c phase with mutex := none } a := by
  have hunsent : ∀ u i, c.phase ≠ .holding .sent u i := by
    intro u i heq
    rw [heq] at hcritical
    cases hcritical
  refine refines_call h hc phase hunsent h.dispatching (.unseen h hc hview rfl rfl rfl rfl rfl rfl rfl
    ?_ ?_ (phaseOk_of_not_critical hout))
  · intro hin
    rw [hout] at hin
    cases hin
  · intro g hg hmutex
    rw [h.callSection k c hc hcritical, Option.some.injEq] at hmutex
    exact absurd hmutex.symm hg

theorem acquireFreeOpSlot_first {ops : PendingOps φ δ} {i : Fin urilMaxPendingOps}
    (hfree : (ops i).busy = false) (hbusy : ∀ j < i, (ops j).busy = true) :
    acquireFreeOpSlot ops = (some i, Function.update ops i { ops i with busy := true }) := by
  have hfind : (List.finRange urilMaxPendingOps).find? (fun i => !(ops i).busy) = some i := by
    rw [← Fin.find?_eq_find?_finRange, Fin.find?_eq_some_iff]
    simpa [hfree] using hbusy
  rw [acquireFreeOpSlot, hfind]

theorem acquireFreeOpSlot_full {ops : PendingOps φ δ} (hbusy : ∀ i, (ops i).busy = true) :
    acquireFreeOpSlot ops = (none, ops) := by
  have hfind : (List.finRange urilMaxPendingOps).find? (fun i => !(ops i).busy) = none := by
    simp [hbusy]
  rw [acquireFreeOpSlot, hfind]

theorem count_refines (h : Refines d s a) (hc : s.calls k = some c) {counter : UInt32}
    (hphase : c.phase = .counterRead counter) (hfew : s.issued + 1 < 2 ^ 32) :
    ∃ a', Reaches ClientRuns.step ClientDispatch.AnswersOnce a a' ∧
      Refines d { s.setPhase k c (.counted (counter + 1)) with
        uniqueMsgId := counter + 1
        issued := s.issued + 1 } a' := by
  have hcounter : counter = a.uniqueMsgId := by
    have hok := h.phase k c hc
    rw [hphase] at hok
    exact hok.trans h.uniqueMsgId.symm
  have hnext : ClientRuns.step a (.allocateId k) =
      some { a.setPhase k c.view (.allocated (a.uniqueMsgId + 1)) with
        uniqueMsgId := a.uniqueMsgId + 1
        issued := a.issued + 1 } := by
    have hbegun : c.view.phase = .begun := by
      rw [Call.view, hphase]
      rfl
    simp only [ClientRuns.step, h.call hc, hbegun, if_true]
  have hallowed : ClientDispatch.AnswersOnce a (.allocateId k) := by
    have heq := h.issued
    simp only [ClientDispatch.AnswersOnce]
    omega
  refine ⟨_, .tail _ .refl hallowed hnext, ?_⟩
  refine refines_call h hc (.counted (counter + 1)) (by simp [hphase]) (dispatching_step h.dispatching hallowed hnext) ?_
  constructor
  case enters => exact fun _ => h.callSection k c hc (by rw [hphase]; rfl)
  case others => exact fun _ _ => id
  case shared => simp [hphase, Phase.critical]
  case slots => exact fun _ _ => ⟨rfl, rfl⟩
  case holder => exact fun _ _ => id
  case phase => trivial
  case context => exact h.context
  case uniqueMsgId => simp [hcounter]
  case issued => simp [h.issued]
  case nextCall => exact h.nextCall
  case viewed => simp [ClientRuns.State.setPhase, hcounter, Phase.view]
  all_goals rfl

theorem full_refines (h : Refines d s a) (hc : s.calls k = some c) {u : UInt32} {i : Nat}
    (hphase : c.phase = .scanning u i) (hend : urilMaxPendingOps ≤ i) :
    ∃ a', Reaches ClientRuns.step ClientDispatch.AnswersOnce a a' ∧
      Refines d (s.setPhase k c (.full u)) a' := by
  have hbusy : ∀ j, (a.context.pendingOps j).busy = true := by
    have hok := h.phase k c hc
    rw [hphase] at hok
    intro j
    rw [h.context]
    exact hok j (j.isLt.trans_le hend)
  have hnext : ClientRuns.step a (.acquireSlot k) = some (a.setPhase k c.view (.refused u)) := by
    have hallocated : c.view.phase = .allocated u := by
      rw [Call.view, hphase]
      rfl
    simp only [ClientRuns.step, h.call hc, hallocated, acquireFreeOpSlot_full hbusy]
  have hallowed : ClientDispatch.AnswersOnce a (.acquireSlot k) := trivial
  refine ⟨_, .tail _ .refl hallowed hnext, ?_⟩
  refine refines_call h hc (.full u) (by simp [hphase]) (dispatching_step h.dispatching hallowed hnext) ?_
  constructor
  case enters => exact fun _ => h.callSection k c hc (by rw [hphase]; rfl)
  case others => exact fun _ _ => id
  case shared => exact fun _ => ⟨rfl, fun _ => rfl⟩
  case slots => exact fun _ _ => ⟨rfl, rfl⟩
  case holder => exact fun _ _ => id
  case phase => trivial
  case context => exact h.context
  case uniqueMsgId => exact h.uniqueMsgId
  case issued => exact h.issued
  case nextCall => exact h.nextCall
  all_goals rfl

theorem mark_refines (h : Refines d s a) (hc : s.calls k = some c) {u : UInt32}
    {i : Fin urilMaxPendingOps} (hphase : c.phase = .found u i) :
    ∃ a', Reaches ClientRuns.step ClientDispatch.AnswersOnce a a' ∧
      Refines d ((s.setPhase k c (.marked u i)).setSlot i
        { s.context.pendingOps i with busy := true }) a' := by
  have hok := h.phase k c hc
  rw [hphase] at hok
  have hacquire := acquireFreeOpSlot_first hok.1 hok.2
  rw [← h.context] at hacquire
  have hnext : ClientRuns.step a (.acquireSlot k) =
      some { a.setPhase k c.view (.holding .acquired u i) with
        context := { a.context with
          pendingOps := Function.update a.context.pendingOps i
            { a.context.pendingOps i with busy := true } }
        holder := Function.update a.holder i (some k) } := by
    have hallocated : c.view.phase = .allocated u := by
      rw [Call.view, hphase]
      rfl
    simp only [ClientRuns.step, h.call hc, hallocated, hacquire]
  have hallowed : ClientDispatch.AnswersOnce a (.acquireSlot k) := trivial
  refine ⟨_, .tail _ .refl hallowed hnext, ?_⟩
  refine refines_call h hc (.marked u i) (by simp [hphase]) (dispatching_step h.dispatching hallowed hnext) ?_
  constructor
  case enters => exact fun _ => h.callSection k c hc (by rw [hphase]; rfl)
  case others => exact fun _ _ => id
  case shared => simp [hphase, Phase.critical]
  case slots =>
    intro j _
    obtain rfl | hj := eq_or_ne j i
    · simp [State.setSlot, State.setPhase]
    · simp [State.setSlot, State.setPhase, hj]
  case holder => simp [hphase, Phase.critical]
  case phase => trivial
  case context => simp [State.setSlot, State.setPhase, h.context]
  case uniqueMsgId => exact h.uniqueMsgId
  case issued => exact h.issued
  case nextCall => exact h.nextCall
  all_goals rfl

theorem fill_refines (h : Refines d s a) (hc : s.calls k = some c) {stage stage' : Stage}
    {u : UInt32} {i : Fin urilMaxPendingOps} {op : PendingOp φ δ}
    (hphase : c.phase = .holding stage u i)
    (hassign : assign s.context c.view u (s.context.pendingOps i) stage = some (stage', op)) :
    ∃ a', Reaches ClientRuns.step ClientDispatch.AnswersOnce a a' ∧
      Refines d ((s.setPhase k c (.holding stage' u i)).setSlot i op) a' := by
  obtain ⟨hstage, hop⟩ := ClientRuns.assign_unsent hassign
  have hview : c.view.phase = .holding stage u i := by
    rw [Call.view, hphase]
    rfl
  have hholder := (holds_of_unsent h.dispatching (h.call hc) hview hstage).1
  rw [← h.context] at hassign
  have hnext : ClientRuns.step a (.fill k) =
      some { a.setPhase k c.view (.holding stage' u i) with
        context := { a.context with
          pendingOps := Function.update a.context.pendingOps i op }
        writer := if stage = .acquired then Function.update a.writer i (some k)
          else a.writer } := by
    simp only [ClientRuns.step, h.call hc, hview, hassign]
  have hallowed : ClientDispatch.AnswersOnce a (.fill k) := trivial
  refine ⟨_, .tail _ .refl hallowed hnext, ?_⟩
  refine refines_call h hc (.holding stage' u i) (by simp [hphase, hstage])
    (dispatching_step h.dispatching hallowed hnext) ?_
  constructor
  case enters => simp [Phase.critical]
  case others => exact fun _ _ => id
  case shared =>
    refine fun _ => ⟨rfl, fun j => ?_⟩
    obtain rfl | hj := eq_or_ne j i
    · simp [State.setSlot, State.setPhase, hop]
    · simp [State.setSlot, State.setPhase, hj]
  case slots =>
    intro j hnone
    have hj : j ≠ i := by
      rintro rfl
      rw [hholder] at hnone
      cases hnone
    simp [State.setSlot, State.setPhase, hj]
  case holder => exact fun _ _ => id
  case phase => trivial
  case context => simp [State.setSlot, State.setPhase, h.context]
  case uniqueMsgId => exact h.uniqueMsgId
  case issued => exact h.issued
  case nextCall => exact h.nextCall
  all_goals rfl

theorem run_refines (h : Refines d s a) (hallowed : AnswersOnce s (.run k))
    (hstep : step s (.run k) = some s') :
    ∃ a', Reaches ClientRuns.step ClientDispatch.AnswersOnce a a' ∧ Refines d s' a' := by
  simp only [step] at hstep
  split at hstep
  case h_2 => cases hstep
  rename_i c hc
  have hok := h.phase k c hc
  unfold runCall at hstep
  split at hstep <;> rename_i hphase <;> rw [hphase] at hok
  case h_1 =>
    simp only [Option.ite_none_right_eq_some, Option.some.injEq] at hstep
    obtain ⟨hmutex, rfl⟩ := hstep
    exact ⟨a, .refl, refines_enter h hc (by rw [hphase]; rfl) (by simp [hphase]) hmutex trivial⟩
  case h_2 =>
    obtain rfl := Option.some.inj hstep
    exact ⟨a, .refl, refines_inside h hc (by rw [hphase]; rfl) (by rw [hphase]; rfl) rfl⟩
  case h_3 counter =>
    obtain rfl := Option.some.inj hstep
    exact count_refines h hc hphase (hallowed c counter hc hphase)
  case h_4 u =>
    obtain rfl := Option.some.inj hstep
    exact ⟨a, .refl, refines_leave h hc (by rw [hphase]; rfl) (by rw [hphase]; rfl) rfl⟩
  case h_5 u =>
    simp only [Option.ite_none_right_eq_some, Option.some.injEq] at hstep
    obtain ⟨hmutex, rfl⟩ := hstep
    exact ⟨a, .refl, refines_enter h hc (by rw [hphase]; rfl) (by simp [hphase]) hmutex
      fun j hj => absurd hj (Nat.not_lt_zero _)⟩
  case h_6 u i =>
    split at hstep
    · rename_i hi
      split at hstep <;> rename_i hbusy <;> obtain rfl := Option.some.inj hstep
      · refine ⟨a, .refl, refines_inside h hc (by rw [hphase]; rfl) (by rw [hphase]; rfl) ?_⟩
        intro j hj
        obtain hlt | heq := Nat.lt_succ_iff_lt_or_eq.mp hj
        · exact hok j hlt
        · obtain rfl : j = ⟨i, hi⟩ := Fin.ext heq
          exact hbusy
      · exact ⟨a, .refl, refines_inside h hc (by rw [hphase]; rfl) (by rw [hphase]; rfl)
          ⟨Bool.not_eq_true _ ▸ hbusy, fun j hj => hok j hj⟩⟩
    · rename_i hi
      obtain rfl := Option.some.inj hstep
      exact full_refines h hc hphase (Nat.not_lt.mp hi)
  case h_7 u i =>
    obtain rfl := Option.some.inj hstep
    exact mark_refines h hc hphase
  case h_8 u i =>
    obtain rfl := Option.some.inj hstep
    exact ⟨a, .refl, refines_leave h hc (by rw [hphase]; rfl) (by rw [hphase]; rfl) rfl⟩
  case h_9 u =>
    obtain rfl := Option.some.inj hstep
    exact ⟨a, .refl, refines_leave h hc (by rw [hphase]; rfl) (by rw [hphase]; rfl) rfl⟩
  case h_10 => cases hstep
  case h_11 stage u i =>
    split at hstep
    · rename_i stage' op hassign
      obtain rfl := Option.some.inj hstep
      exact fill_refines h hc hphase hassign
    · cases hstep

theorem send_refines (h : Refines d s a) {ok : Bool} (hstep : step s (.send k ok) = some s') :
    ∃ a', Reaches ClientRuns.step ClientDispatch.AnswersOnce a a' ∧ Refines d s' a' := by
  simp only [step] at hstep
  split at hstep
  case h_2 => cases hstep
  rename_i c hc
  split at hstep
  case h_2 => cases hstep
  rename_i u i hphase
  obtain rfl := Option.some.inj hstep
  have hnext : ClientRuns.step a (.send k ok) =
      some (a.setPhase k c.view (.holding (if ok then .sent else .sendFailed) u i)) := by
    have hfilled : c.view.phase = .holding .filled u i := by
      rw [Call.view, hphase]
      rfl
    simp only [ClientRuns.step, h.call hc, hfilled]
  have hallowed : ClientDispatch.AnswersOnce a (.send k ok) := trivial
  refine ⟨_, .tail _ .refl hallowed hnext, ?_⟩
  refine refines_call h hc (.holding (if ok then .sent else .sendFailed) u i) (by simp [hphase])
    (dispatching_step h.dispatching hallowed hnext) ?_
  constructor
  case enters => simp [Phase.critical]
  case others => exact fun _ _ => id
  case shared => exact fun _ => ⟨rfl, fun _ => rfl⟩
  case slots => exact fun _ _ => ⟨rfl, rfl⟩
  case holder => exact fun _ _ => id
  case phase => trivial
  case context => exact h.context
  case uniqueMsgId => exact h.uniqueMsgId
  case issued => exact h.issued
  case nextCall => exact h.nextCall
  all_goals rfl

end Calls

section Receiver

variable {d : Option φ} {s s' : State φ δ} {a : ClientRuns.State φ δ}

theorem Refines.free (h : Refines d s a) {k : Nat} (hk : s.nextCall ≤ k) : s.calls k = none := by
  have hnone := h.dispatching.numbered.fresh k (h.nextCall.trans_le hk)
  rw [h.calls, Option.map_eq_none_iff] at hnone
  exact hnone

theorem begin_refines (h : Refines d s a) {hndl : UInt32} {cb : Option φ} {data : Option δ}
    (hstep : step s (.begin hndl cb data) = some s') :
    ∃ a', Reaches ClientRuns.step ClientDispatch.AnswersOnce a a' ∧ Refines d s' a' := by
  simp only [step, Option.ite_none_right_eq_some, Option.some.injEq] at hstep
  obtain ⟨hchecks, rfl⟩ := hstep
  have hnext : ClientRuns.step a (.begin hndl cb data) =
      some { a with
        calls := Function.update a.calls a.nextCall (some ⟨cb, data, .begun⟩)
        nextCall := a.nextCall + 1 } := by
    rw [ClientRuns.step, h.context, if_pos hchecks]
  have hallowed : ClientDispatch.AnswersOnce a (.begin hndl cb data) := trivial
  have hfree := h.free (le_refl s.nextCall)
  have hcases : ∀ k c, Function.update s.calls s.nextCall (some ⟨cb, data, .begun⟩) k = some c →
      c.phase = .begun ∨ s.calls k = some c := by
    intro k c hc
    obtain rfl | hk := eq_or_ne k s.nextCall
    · rw [Function.update_self, Option.some.injEq] at hc
      exact .inl (hc ▸ rfl)
    · rw [Function.update_of_ne hk] at hc
      exact .inr hc
  refine ⟨_, .tail _ .refl hallowed hnext, ?_⟩
  constructor
  case dispatching => exact dispatching_step h.dispatching hallowed hnext
  case context => exact h.context
  case uniqueMsgId => exact h.uniqueMsgId
  case issued => exact h.issued
  case nextCall => exact congrArg (· + 1) h.nextCall
  case calls =>
    intro k
    simp only [h.nextCall]
    obtain rfl | hk := eq_or_ne k s.nextCall
    · simp [Call.view, Phase.view]
    · rw [Function.update_of_ne hk, Function.update_of_ne hk]
      exact h.calls k
  case responses => exact h.responses
  case callSection =>
    intro k c hc hcritical
    rcases hcases k c hc with hbegun | hold
    · rw [hbegun] at hcritical
      cases hcritical
    · exact h.callSection k c hold hcritical
  case receiverSection => exact h.receiverSection
  case phase =>
    intro k c hc
    rcases hcases k c hc with hbegun | hold
    · rw [hbegun]
      trivial
    · exact (h.phase k c hold).congr rfl fun _ => rfl
  case receiving =>
    refine h.receiving.mono rfl ?_ fun _ _ => id
    intro k c u i hc hphase
    have hk : k ≠ a.nextCall := by
      rintro rfl
      cases (h.dispatching.numbered.fresh a.nextCall le_rfl).symm.trans hc
    exact (Function.update_of_ne hk ..).trans hc

theorem arrive_refines (h : Refines d s a) {msg : UrilProtocolMsg}
    (hallowed : AnswersOnce s (.arrive msg)) (hstep : step s (.arrive msg) = some s') :
    ∃ a', Reaches ClientRuns.step ClientDispatch.AnswersOnce a a' ∧ Refines d s' a' := by
  simp only [step] at hstep
  split at hstep
  case h_2 => cases hstep
  rename_i hidle
  split at hstep <;> rename_i hind <;> obtain rfl := Option.some.inj hstep
  · exact ⟨a, .refl, h⟩
  · obtain ⟨⟨k, c, i, hc, hphase⟩, hnew⟩ := hallowed (not_not.mp hind)
    have hresponses : a.responses.map (fun r => (r.msg, r.upcall)) = s.responses := by
      rw [h.responses, State.pending, hidle, List.nil_append]
    refine ⟨a, .refl, ⟨h.dispatching, h.context, h.uniqueMsgId, h.issued, h.nextCall, h.calls,
      hresponses, h.callSection, by simp [Receiving.critical], fun k c hc =>
        (h.phase k c hc).congr rfl fun _ => rfl, ?_⟩⟩
    refine ⟨not_not.mp hind, ?_, k, c.view, i, h.call hc, ?_, Nat.zero_le _⟩
    · rintro ⟨r, hr, hid⟩
      refine hnew (r.msg, r.upcall) ?_ hid
      rw [← hresponses]
      exact List.mem_map_of_mem hr
    · rw [Call.view, hphase]
      rfl

theorem refines_receiver (h : Refines d s a) {receiving : Receiving φ δ} {mutex : Option Agent}
    (hpending : State.pending { s with receiving := receiving, mutex := mutex } = s.pending)
    (hothers : ∀ k, s.mutex = some (.call k) → mutex = some (.call k))
    (henters : receiving.critical = true → mutex = some .receiver)
    (hok : ReceivingOk a receiving) :
    Refines d { s with receiving := receiving, mutex := mutex } a where
  dispatching := h.dispatching
  context := h.context
  uniqueMsgId := h.uniqueMsgId
  issued := h.issued
  nextCall := h.nextCall
  calls := h.calls
  responses := by rw [hpending]; exact h.responses
  callSection k c hc hcritical := hothers k (h.callSection k c hc hcritical)
  receiverSection := henters
  phase k c hc := (h.phase k c hc).congr rfl fun _ => rfl
  receiving := hok

/-- The slot that the loop finds is the one of the call that awaits the response. -/
theorem found_iff (h : Refines d s a) {msg : UrilProtocolMsg} {i : Nat}
    (hawaited : AwaitedFrom a msg i) (hi : i < urilMaxPendingOps) :
    (∃ k c, a.calls k = some c ∧ c.phase = .holding .sent msg.uniqueId ⟨i, hi⟩) ∧
        (s.context.pendingOps ⟨i, hi⟩).uniqueId = msg.uniqueId ∨
      (s.context.pendingOps ⟨i, hi⟩).uniqueId ≠ msg.uniqueId ∧ AwaitedFrom a msg (i + 1) := by
  obtain ⟨hrsp, hopen, k, c, j, hc, hphase, hij⟩ := hawaited
  obtain ⟨c', j', hc', hphase', -, hwritten, hlookup⟩ :=
    lookup_sent h.dispatching ⟨c, j, hc, hphase⟩ hopen
  obtain rfl := Option.some.inj (hc.symm.trans hc')
  rw [hphase] at hphase'
  cases hphase'
  rw [h.context] at hlookup
  obtain ⟨hid, hfirst⟩ := lookupPendingOp_eq_some_iff.mp hlookup
  obtain heq | hne := eq_or_ne (s.context.pendingOps ⟨i, hi⟩).uniqueId msg.uniqueId
  · have hle : j ≤ ⟨i, hi⟩ := not_lt.mp fun hlt => hfirst ⟨i, hi⟩ hlt heq
    obtain rfl : j = ⟨i, hi⟩ := le_antisymm hle hij
    exact .inl ⟨⟨k, c, hc, hphase⟩, heq⟩
  · have hne' : j ≠ ⟨i, hi⟩ := by
      rintro rfl
      exact hne hid
    have hlt : i < j.val := lt_of_le_of_ne hij fun heq => hne' (Fin.ext heq.symm)
    exact .inr ⟨hne, hrsp, hopen, k, c, j, hc, hphase, hlt⟩

theorem free_refines (h : Refines d s a) {msg : UrilProtocolMsg} {i : Fin urilMaxPendingOps}
    (hreceiving : s.receiving = .found msg i) :
    ∃ a', Reaches ClientRuns.step ClientDispatch.AnswersOnce a a' ∧
      Refines d { s.setSlot i { s.context.pendingOps i with busy := false } with
        receiving := .freed msg i } a' := by
  have hok := h.receiving
  rw [hreceiving] at hok
  obtain ⟨hrsp, hopen, k, c, hc, hphase⟩ := hok
  have hmutex := h.receiverSection (by rw [hreceiving]; rfl)
  obtain ⟨c', j, hc', hphase', -, -, hlookup⟩ :=
    lookup_sent h.dispatching ⟨c, i, hc, hphase⟩ hopen
  obtain rfl := Option.some.inj (hc.symm.trans hc')
  rw [hphase] at hphase'
  cases hphase'
  have hnext : ClientRuns.step a (.receive msg) =
      some { a with
        context := { a.context with
          pendingOps := Function.update a.context.pendingOps i
            { a.context.pendingOps i with busy := false } }
        holder := a.freeSlot (some i)
        responses := ⟨msg, a.writer i,
          responseUpcall a.context.handle (a.context.pendingOps i).asyncRespCb
            (a.context.pendingOps i).clientData msg⟩ :: a.responses } := by
    have hind : ¬ msg.isIndication ≠ 0 := not_not.mpr hrsp
    simp only [ClientRuns.step, if_neg hind, handleReceive, handleReceiveRsp_some hlookup, hlookup,
      Option.bind_some]
  have hallowed : ClientDispatch.AnswersOnce a (.receive msg) :=
    fun _ => ⟨⟨k, c, i, hc, hphase⟩, hopen⟩
  have hresponses := h.responses
  rw [State.pending, hreceiving, List.nil_append] at hresponses
  refine ⟨_, .tail _ .refl hallowed hnext, ?_⟩
  constructor
  case dispatching => exact dispatching_step h.dispatching hallowed hnext
  case context => simp [State.setSlot, h.context]
  case uniqueMsgId => exact h.uniqueMsgId
  case issued => exact h.issued
  case nextCall => exact h.nextCall
  case calls => exact h.calls
  case responses => simp [State.pending, State.setSlot, h.context, hresponses]
  case callSection => exact h.callSection
  case receiverSection => exact fun _ => hmutex
  case phase =>
    intro k' c' hc'
    cases hcritical : c'.phase.critical with
    | false => exact phaseOk_of_not_critical hcritical
    | true =>
        have hcall := h.callSection k' c' hc' hcritical
        rw [hmutex] at hcall
        cases hcall
  case receiving => simp [ReceivingOk, ClientRuns.State.freeSlot]

theorem receive_refines (h : Refines d s a) (hstep : step s .receive = some s') :
    ∃ a', Reaches ClientRuns.step ClientDispatch.AnswersOnce a a' ∧ Refines d s' a' := by
  have hok := h.receiving
  have hsection := h.receiverSection
  simp only [step] at hstep
  unfold runReceiver at hstep
  split at hstep <;> rename_i hreceiving <;> rw [hreceiving] at hok hsection
  case h_1 => cases hstep
  case h_2 msg =>
    simp only [Option.ite_none_right_eq_some, Option.some.injEq] at hstep
    obtain ⟨hmutex, rfl⟩ := hstep
    refine ⟨a, .refl, refines_receiver h ?_ ?_ (fun _ => rfl) hok⟩
    · simp [State.pending, hreceiving]
    · intro k hk
      rw [hmutex] at hk
      cases hk
  case h_3 msg i =>
    have hmutex := hsection rfl
    split at hstep
    · rename_i hi
      rcases found_iff h hok hi with ⟨hcall, hid⟩ | ⟨hid, hlater⟩
      · rw [if_pos hid] at hstep
        obtain rfl := Option.some.inj hstep
        refine ⟨a, .refl, refines_receiver h ?_ (fun _ => id) (fun _ => hmutex)
          ⟨hok.1, hok.2.1, hcall⟩⟩
        simp [State.pending, hreceiving]
      · rw [if_neg hid] at hstep
        obtain rfl := Option.some.inj hstep
        refine ⟨a, .refl, refines_receiver h ?_ (fun _ => id) (fun _ => hmutex) hlater⟩
        simp [State.pending, hreceiving]
    · -- the loop does not come to its end
      rename_i hi
      obtain ⟨-, -, k, c, j, -, -, hij⟩ := hok
      exact absurd (hij.trans_lt j.isLt) hi
  case h_4 msg i =>
    obtain rfl := Option.some.inj hstep
    exact free_refines h hreceiving
  case h_5 msg i =>
    obtain rfl := Option.some.inj hstep
    have hmutex := hsection rfl
    refine ⟨a, .refl, refines_receiver h ?_ (fun _ => id) (fun _ => hmutex) hok⟩
    simp [State.pending, hreceiving]
  case h_6 msg i cb =>
    obtain rfl := Option.some.inj hstep
    have hmutex := hsection rfl
    refine ⟨a, .refl, refines_receiver h ?_ (fun _ => id) (fun _ => hmutex) rfl⟩
    simp [State.pending, hreceiving, invoked]
  case h_7 msg op =>
    obtain rfl := Option.some.inj hstep
    have hmutex := hsection rfl
    refine ⟨a, .refl, refines_receiver h ?_ ?_ (by simp [Receiving.critical]) hok⟩
    · simp [State.pending, hreceiving]
    · intro k hk
      rw [hmutex] at hk
      cases hk
  case h_8 msg op =>
    obtain rfl := Option.some.inj hstep
    have hresponses := h.responses
    rw [State.pending, hreceiving] at hresponses
    exact ⟨a, .refl, h.dispatching, h.context, h.uniqueMsgId, h.issued, h.nextCall, h.calls,
      hresponses, h.callSection, by simp [Receiving.critical],
      fun k c hc => (h.phase k c hc).congr rfl fun _ => rfl, trivial⟩

theorem step_refines {x : Action φ δ} (h : Refines d s a) (hallowed : AnswersOnce s x)
    (hstep : step s x = some s') :
    ∃ a', Reaches ClientRuns.step ClientDispatch.AnswersOnce a a' ∧ Refines d s' a' := by
  cases x with
  | begin hndl cb data => exact begin_refines h hstep
  | run k => exact run_refines h hallowed hstep
  | send k ok => exact send_refines h hstep
  | arrive msg => exact arrive_refines h hallowed hstep
  | receive => exact receive_refines h hstep

end Receiver

/-- What the accesses lead to is what the sections lead to: the same table, the
same calls, and the same callbacks, but for the one that is about to be called. -/
theorem accesses_refine {indCb d : Option φ} {s : State φ δ}
    (hrun : Reaches step AnswersOnce (State.ready indCb d) s) :
    ∃ a, Reaches ClientRuns.step ClientDispatch.AnswersOnce (ClientDispatch.State.ready indCb d) a ∧
      Refines d s a :=
  hrun.simulated (Refines d) (refines_ready indCb d)
    fun _ _ _ _ hrefines hallowed hnext => step_refines hrefines hallowed hnext

theorem sent_of_view {phase : Phase} {u : UInt32} {i : Fin urilMaxPendingOps}
    (h : phase.view = .holding .sent u i) : phase = .holding .sent u i := by
  cases phase with
  | holding stage u' i' =>
      cases h
      rfl
  | _ => cases h

/-- Access by access: the loop of `lookup_pending_op` does not end in vain, a
callback that is called is that of the one call that sent the answered id, with
its client data, and calls that await a response have different slots. -/
theorem accesses_dispatch {indCb d : Option φ} {s : State φ δ}
    (hrun : Reaches step AnswersOnce (State.ready indCb d) s) :
    (∀ msg, s.receiving ≠ .read msg none ∧ s.receiving ≠ .unlocked msg none) ∧
    (∀ r ∈ s.pending ++ s.responses, ∃ k c i, s.calls k = some c ∧
      c.phase = .holding .sent r.1.uniqueId i ∧
      r.2 = responseUpcall s.context.handle (storedCallback s.context c.asyncRespCb)
        c.clientData r.1) ∧
    ((s.pending ++ s.responses).map (·.1.uniqueId)).Nodup ∧
    ∀ k k' c c' stage stage' u u' i, s.calls k = some c → s.calls k' = some c' →
      c.phase = .holding stage u i → c'.phase = .holding stage' u' i →
      (∀ r ∈ s.pending ++ s.responses, r.1.uniqueId ≠ u ∧ r.1.uniqueId ≠ u') → k = k' := by
  obtain ⟨a, -, h⟩ := accesses_refine hrun
  have hids : (s.pending ++ s.responses).map (·.1.uniqueId) =
      a.responses.map (·.msg.uniqueId) := by
    rw [← h.responses, List.map_map]
    rfl
  have hopen : ∀ u, (∀ r ∈ s.pending ++ s.responses, r.1.uniqueId ≠ u) → ¬ Answered a u := by
    rintro u hnone ⟨r, hr, hid⟩
    refine hnone (r.msg, r.upcall) ?_ hid
    rw [← h.responses]
    exact List.mem_map_of_mem hr
  have hview : ∀ k c stage u i, s.calls k = some c → c.phase = .holding stage u i →
      (∀ r ∈ s.pending ++ s.responses, r.1.uniqueId ≠ u) → a.holder i = some k := by
    intro k c stage u i hc hphase hnone
    refine h.dispatching.unanswered k c.view stage u i (h.call hc) ?_ (hopen u hnone)
    rw [Call.view, hphase]
    rfl
  refine ⟨fun msg => ?_, fun r hr => ?_, ?_, ?_⟩
  · have hok := h.receiving
    constructor <;> intro heq <;> rw [heq] at hok <;> cases hok
  · rw [← h.responses] at hr
    obtain ⟨r', hr', rfl⟩ := List.mem_map.mp hr
    obtain ⟨k, c, i, hc, hphase, -, hupcall⟩ := h.dispatching.answered r' hr'
    rw [h.calls] at hc
    obtain ⟨c', hc', rfl⟩ := Option.map_eq_some_iff.mp hc
    rw [h.context] at hupcall
    exact ⟨k, c', i, hc', sent_of_view hphase, hupcall⟩
  · rw [hids]
    exact h.dispatching.once
  · intro k k' c c' stage stage' u u' i hc hc' hphase hphase' hnone
    have hk := hview k c stage u i hc hphase fun r hr => (hnone r hr).1
    have hk' := hview k' c' stage' u' i hc' hphase' fun r hr => (hnone r hr).2
    exact Option.some.inj (hk.symm.trans hk')

/-- `AnswersOnce` as a test. -/
def answersOnce (s : State φ δ) : Action φ δ → Bool
  | .run k =>
      match s.calls k with
      | some ⟨_, _, .counterRead _⟩ => s.issued + 1 < 2 ^ 32
      | _ => true
  | .arrive msg =>
      msg.isIndication ≠ 0 ||
        ((List.range s.nextCall).any fun k =>
          match s.calls k with
          | some ⟨_, _, .holding .sent u _⟩ => u == msg.uniqueId
          | _ => false) && s.responses.all (·.1.uniqueId != msg.uniqueId)
  | _ => true

theorem answersOnce_sound (s : State φ δ) (x : Action φ δ) (h : answersOnce s x = true) :
    AnswersOnce s x := by
  cases x with
  | run k =>
      rintro ⟨cb, data, phase⟩ counter hc rfl
      simpa [answersOnce, hc] using h
  | arrive msg =>
      intro hrsp
      simp only [answersOnce, hrsp, ne_eq, not_true_eq_false, decide_false, Bool.false_or,
        Bool.and_eq_true, List.any_eq_true, List.all_eq_true] at h
      obtain ⟨⟨k, -, hk⟩, hopen⟩ := h
      refine ⟨⟨k, ?_⟩, fun r hr => by simpa using hopen r hr⟩
      split at hk
      · rename_i cb data u i hc
        exact ⟨_, i, hc, by rw [beq_iff_eq.mp hk]⟩
      · cases hk
  | begin _ _ _ | send _ _ | receive => trivial

/-- The loop of `lookup_pending_op` runs while another call fills in its slot. -/
def sampleActions : List (Action Nat Nat) :=
  [.begin 1 (some 5) (some 7), .begin 1 none none] ++ List.replicate 11 (.run 0) ++
    [.send 0 true] ++ List.replicate 9 (.run 1) ++
    [.arrive { UrilProtocolMsg.zeroed with uniqueId := 1 }, .run 1, .receive, .run 1, .receive,
      .run 1] ++ List.replicate 5 .receive

theorem sample_run :
    ∃ s : State Nat Nat, Reaches step AnswersOnce (State.ready none (some 9)) s ∧
      s.responses.map (fun r => (r.1.uniqueId, r.2.map Upcall.target)) =
        [(1, some (5, some 7))] := by
  obtain ⟨s, hrun, hresponses⟩ := exists_reaches_of_exec step answersOnce answersOnce_sound
    (State.ready none (some 9)) sampleActions
    (fun s => s.responses.map (fun r => (r.1.uniqueId, r.2.map Upcall.target)) =
      [(1, some (5, some 7))])
    (by decide)
  exact ⟨s, hrun, of_decide_eq_true hresponses⟩

theorem accesses_refine_sample :
    ∃ (s : State Nat Nat) (a : ClientRuns.State Nat Nat), s.responses.length = 1 ∧
      Refines (some 9) s a := by
  obtain ⟨s, hrun, hresponses⟩ := sample_run
  obtain ⟨a, -, hrefines⟩ := accesses_refine hrun
  exact ⟨s, a, by simpa using congrArg List.length hresponses, hrefines⟩

theorem accesses_dispatch_sample :
    ∃ s : State Nat Nat,
      s.responses.map (fun r => (r.1.uniqueId, r.2.map Upcall.target)) = [(1, some (5, some 7))] ∧
      ((s.pending ++ s.responses).map (·.1.uniqueId)).Nodup := by
  obtain ⟨s, hrun, hresponses⟩ := sample_run
  exact ⟨s, hresponses, (accesses_dispatch hrun).2.2.1⟩

end UnifiedRil.SlotScans

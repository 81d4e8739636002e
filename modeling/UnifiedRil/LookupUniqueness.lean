import UnifiedRil.ClientRuns

namespace UnifiedRil.LookupUniqueness

open UnifiedRil.Library.Runs
open UnifiedRil.Protocol
open UnifiedRil.Client
open UnifiedRil.ClientRuns

variable {φ δ : Type}

/-- The assignments to the slot that a call acquired. -/
def fillSlot (s : State φ δ) (k : Nat) : Option (State φ δ) :=
  match (s.calls k).map Call.phase with
  | some (.holding .acquired _ _) => do
      let s ← ClientRuns.step s (.fill k)
      let s ← ClientRuns.step s (.fill k)
      ClientRuns.step s (.fill k)
  | _ => some s

/-- From the id to the slot that is filled, or to none. -/
def command (s : State φ δ) (k : Nat) : Option (State φ δ) := do
  let s ← ClientRuns.step s (.allocateId k)
  let s ← ClientRuns.step s (.acquireSlot k)
  fillSlot s k

/-- The actions of which a command is made. -/
def inCommand : ClientRuns.Action φ δ → Bool
  | .allocateId _ | .acquireSlot _ | .fill _ => true
  | _ => false

inductive Action (φ δ : Type)
  | command (k : Nat)
  | other (a : ClientRuns.Action φ δ)

def step (s : State φ δ) : Action φ δ → Option (State φ δ)
  | .command k => command s k
  | .other a => if inCommand a then none else ClientRuns.step s a

/-- The next id is not that of a busy slot. -/
def FreshId (s : State φ δ) : Prop :=
  ∀ i, (s.context.pendingOps i).busy = true →
    (s.context.pendingOps i).uniqueId ≠ s.uniqueMsgId + 1

/-- New ids are not those of busy slots. -/
def Fresh (s : State φ δ) : Action φ δ → Prop
  | .command _ => FreshId s
  | .other _ => True

/-- No slot below a busy one has its id. -/
def Lowest (ops : PendingOps φ δ) : Prop :=
  ∀ i, (ops i).busy = true → ∀ j < i, (ops j).uniqueId ≠ (ops i).uniqueId

theorem lookup_of_lowest {ops : PendingOps φ δ} (h : Lowest ops) {i : Fin urilMaxPendingOps}
    (hbusy : (ops i).busy = true) : lookupPendingOp ops (ops i).uniqueId = some i :=
  lookupPendingOp_eq_some_iff.mpr ⟨rfl, h i hbusy⟩

theorem lowest_idle {ops : PendingOps φ δ} (hidle : ∀ i, (ops i).busy = false) : Lowest ops := by
  intro i hbusy
  simp [hidle i] at hbusy

theorem lowest_free {ops : PendingOps φ δ} (h : Lowest ops) (i : Fin urilMaxPendingOps) :
    Lowest (Function.update ops i { ops i with busy := false }) := by
  have hid : ∀ j, (Function.update ops i { ops i with busy := false } j).uniqueId =
      (ops j).uniqueId := by
    intro j
    obtain rfl | hj := eq_or_ne j i
    · rw [Function.update_self]
    · rw [Function.update_of_ne hj]
  intro j hbusy j' hlt
  obtain rfl | hj := eq_or_ne j i
  · simp at hbusy
  · rw [Function.update_of_ne hj] at hbusy
    rw [hid, hid]
    exact h j hbusy j' hlt

/-- The lowest free slot gets an id that no busy slot has: those below it are busy,
and so no slot below another one gets its id. -/
theorem lowest_acquire {ops : PendingOps φ δ} (h : Lowest ops) {i : Fin urilMaxPendingOps}
    {op : PendingOp φ δ} (hlowest : ∀ j < i, (ops j).busy = true)
    (hfresh : ∀ j, (ops j).busy = true → (ops j).uniqueId ≠ op.uniqueId) :
    Lowest (Function.update ops i op) := by
  intro j hbusy j' hlt
  obtain rfl | hj := eq_or_ne j i
  · rw [Function.update_self, Function.update_of_ne hlt.ne]
    exact hfresh j' (hlowest j' hlt)
  · rw [Function.update_of_ne hj] at hbusy ⊢
    obtain rfl | hj' := eq_or_ne j' i
    · rw [Function.update_self]
      exact (hfresh j hbusy).symm
    · rw [Function.update_of_ne hj']
      exact h j hbusy j' hlt

theorem fill_holding {s t : State φ δ} {k : Nat} {c : Call φ δ} {stage : Stage} {u : UInt32}
    {i : Fin urilMaxPendingOps} (hc : s.calls k = some c)
    (hphase : c.phase = .holding stage u i) (hstep : ClientRuns.step s (.fill k) = some t) :
    ∃ stage' op, assign s.context c u (s.context.pendingOps i) stage = some (stage', op) ∧
      t.calls k = some { c with phase := .holding stage' u i } ∧
      t.context.pendingOps = Function.update s.context.pendingOps i op := by
  obtain ⟨c', stage₀, u', i', stage', op, hc', hphase', hassign, rfl⟩ := step_fill hstep
  obtain rfl : c' = c := Option.some.inj (hc'.symm.trans hc)
  rw [hphase, Phase.holding.injEq] at hphase'
  obtain ⟨rfl, rfl, rfl⟩ := hphase'
  exact ⟨stage', op, hassign, Function.update_self .., rfl⟩

theorem fillSlot_acquired {s t : State φ δ} {k : Nat} {c : Call φ δ} {u : UInt32}
    {i : Fin urilMaxPendingOps} (hc : s.calls k = some c)
    (hphase : c.phase = .holding .acquired u i) (hfill : fillSlot s k = some t) :
    ∃ op, op.uniqueId = u ∧
      t.context.pendingOps = Function.update s.context.pendingOps i op := by
  simp only [fillSlot, hc, Option.map_some, hphase, Option.bind_eq_bind,
    Option.bind_eq_some_iff] at hfill
  obtain ⟨s₁, hcallback, s₂, hdata, hid⟩ := hfill
  obtain ⟨_, _, ⟨⟩, hc₁, hops₁⟩ := fill_holding hc hphase hcallback
  obtain ⟨_, _, ⟨⟩, hc₂, hops₂⟩ := fill_holding hc₁ rfl hdata
  obtain ⟨_, _, ⟨⟩, -, hops⟩ := fill_holding hc₂ rfl hid
  rw [hops₂, hops₁, Function.update_idem, Function.update_idem] at hops
  exact ⟨_, by rfl, hops⟩

theorem command_cases {s t : State φ δ} {k : Nat} (hcommand : command s k = some t) :
    t.context.pendingOps = s.context.pendingOps ∨
      ∃ i op, (∀ j < i, (s.context.pendingOps j).busy = true) ∧
        op.uniqueId = s.uniqueMsgId + 1 ∧
        t.context.pendingOps = Function.update s.context.pendingOps i op := by
  simp only [command, Option.bind_eq_bind, Option.bind_eq_some_iff] at hcommand
  obtain ⟨s₁, hallocate, s₂, hacquire, hfill⟩ := hcommand
  obtain ⟨c, -, -, rfl⟩ := step_allocateId hallocate
  obtain ⟨c', u, hc', hphase, ⟨i, ⟨-, hlowest⟩, rfl⟩ | ⟨-, rfl⟩⟩ := step_acquireSlot hacquire
  · obtain rfl : { c with phase := .allocated (s.uniqueMsgId + 1) } = c' :=
      by simpa [State.setPhase] using hc'
    obtain rfl : s.uniqueMsgId + 1 = u := Phase.allocated.inj hphase
    obtain ⟨op, hid, hops⟩ := fillSlot_acquired (Function.update_self ..) rfl hfill
    refine .inr ⟨i, op, hlowest, hid, hops.trans ?_⟩
    exact Function.update_idem ..
  · refine .inl ?_
    simp only [fillSlot, State.setPhase, Function.update_self, Option.map_some,
      Option.some.injEq] at hfill
    rw [← hfill]

theorem lowest_command {s t : State φ δ} {k : Nat} (h : Lowest s.context.pendingOps)
    (hfresh : FreshId s) (hcommand : command s k = some t) : Lowest t.context.pendingOps := by
  rcases command_cases hcommand with hsame | ⟨i, op, hlowest, hid, hops⟩
  · rwa [hsame]
  · rw [hops]
    exact lowest_acquire h hlowest fun j hbusy => hid ▸ hfresh j hbusy

theorem lowest_other {s t : State φ δ} {a : ClientRuns.Action φ δ}
    (h : Lowest s.context.pendingOps) (ha : inCommand a = false)
    (hstep : ClientRuns.step s a = some t) : Lowest t.context.pendingOps := by
  cases a with
  | allocateId | acquireSlot | fill => cases ha
  | initContext indCb defaultRespCb =>
      obtain rfl := Option.some.inj hstep
      exact lowest_idle fun _ => rfl
  | initConnected =>
      obtain rfl := Option.some.inj hstep
      exact h
  | release =>
      obtain rfl := Option.some.inj hstep
      rwa [clientRelease_pendingOps]
  | begin hndl cb data =>
      rw [step_begin hstep]
      exact h
  | send k ok =>
      obtain ⟨c, u, i, -, -, rfl⟩ := step_send hstep
      exact h
  | receive msg =>
      obtain hrsp | hind := eq_or_ne msg.isIndication 0
      · rcases step_response hrsp hstep with ⟨i, -, rfl⟩ | ⟨-, rfl⟩
        · exact lowest_free h i
        · exact h
      · rw [step_indication hind hstep]
        exact h

theorem lowest_step {s t : State φ δ} {a : Action φ δ} (h : Lowest s.context.pendingOps)
    (hfresh : Fresh s a) (hstep : step s a = some t) : Lowest t.context.pendingOps := by
  cases a with
  | command k => exact lowest_command h hfresh hstep
  | other a =>
      simp only [step, Option.ite_none_left_eq_some, Bool.not_eq_true] at hstep
      exact lowest_other h hstep.1 hstep.2

theorem lowest_reached {s : State φ δ} (hrun : Reaches step Fresh (State.initial : State φ δ) s) :
    Lowest s.context.pendingOps :=
  hrun.invariant (fun s => Lowest s.context.pendingOps) (lowest_idle fun _ => rfl)
    fun _ _ _ => lowest_step

/-- The lookup of the id of a busy slot finds that slot, whatever ids are left in
the others. -/
theorem lookup_unambiguous {s : State φ δ}
    (hrun : Reaches step Fresh (State.initial : State φ δ) s) {i : Fin urilMaxPendingOps}
    (hbusy : (s.context.pendingOps i).busy = true) :
    lookupPendingOp s.context.pendingOps (s.context.pendingOps i).uniqueId = some i :=
  lookup_of_lowest (lowest_reached hrun) hbusy

instance (s : State φ δ) : Decidable (FreshId s) :=
  inferInstanceAs (Decidable (∀ _, _))

/-- The test of `Fresh`. -/
def freshTest (s : State φ δ) : Action φ δ → Bool
  | .command _ => decide (FreshId s)
  | .other _ => true

theorem freshTest_sound (s : State φ δ) (a : Action φ δ) (h : freshTest s a = true) :
    Fresh s a := by
  cases a with
  | command k =>
      have hfresh : FreshId s := of_decide_eq_true h
      exact hfresh
  | other a => trivial

section Rounds

variable {s : State φ δ} {stale : UInt32}

def firstSlot : Fin urilMaxPendingOps := ⟨0, by decide⟩

def secondSlot : Fin urilMaxPendingOps := ⟨1, by decide⟩

/-- All slots are free, and the second one has the id that it had last. -/
structure Rested (stale : UInt32) (s : State φ δ) : Prop where
  initialized : s.context.initialized = true
  idle : ∀ i, (s.context.pendingOps i).busy = false
  second : (s.context.pendingOps secondSlot).uniqueId = stale

theorem acquireFreeOpSlot_idle {ops : PendingOps φ δ} (hidle : ∀ i, (ops i).busy = false) :
    acquireFreeOpSlot ops =
      (some firstSlot, Function.update ops firstSlot { ops firstSlot with busy := true }) := by
  have hfirst : (List.finRange urilMaxPendingOps).find? (fun i => !(ops i).busy) =
      some firstSlot := by
    rw [← Fin.find?_eq_find?_finRange, Fin.find?_eq_some_iff]
    exact ⟨by rw [hidle]; rfl, fun j hlt => absurd hlt (Nat.not_lt_zero j)⟩
  rw [acquireFreeOpSlot, hfirst]

theorem reaches_command (h : Rested stale s) :
    ∃ t op, Reaches step Fresh s t ∧ t.context.initialized = true ∧
      t.uniqueMsgId = s.uniqueMsgId + 1 ∧ op.busy = true ∧ op.uniqueId = s.uniqueMsgId + 1 ∧
      t.context.pendingOps = Function.update s.context.pendingOps firstSlot op := by
  let begun : State φ δ := { s with
    calls := Function.update s.calls s.nextCall (some ⟨none, none, .begun⟩)
    nextCall := s.nextCall + 1 }
  have hbegin : step s (.other (.begin s.context.handle none none)) = some begun := by
    simp [step, inCommand, ClientRuns.step, h.initialized, begun]
  have hfresh : FreshId begun := fun i hbusy => by simp [begun, h.idle i] at hbusy
  obtain ⟨t, hcommand, hinit, hid, hops⟩ : ∃ t, command begun s.nextCall = some t ∧
      t.context.initialized = true ∧ t.uniqueMsgId = s.uniqueMsgId + 1 ∧
      t.context.pendingOps = Function.update s.context.pendingOps firstSlot
        { busy := true, uniqueId := s.uniqueMsgId + 1, clientData := none
          asyncRespCb := storedCallback s.context none } := by
    simp [command, fillSlot, ClientRuns.step, begun, State.setPhase, assign,
      acquireFreeOpSlot_idle h.idle, h.initialized, storedCallback]
  exact ⟨t, _, (Reaches.refl.tail _ trivial hbegin).tail (.command s.nextCall) hfresh hcommand,
    hinit, hid, rfl, rfl, hops⟩

theorem reaches_round (h : Rested stale s) :
    ∃ t, Reaches step Fresh s t ∧ Rested stale t ∧ t.uniqueMsgId = s.uniqueMsgId + 1 := by
  obtain ⟨t, op, hrun, hinit, hid, -, hop, hops⟩ := reaches_command h
  let rsp : UrilProtocolMsg := { UrilProtocolMsg.zeroed with uniqueId := s.uniqueMsgId + 1 }
  have hlookup : lookupPendingOp t.context.pendingOps rsp.uniqueId = some firstSlot := by
    refine lookupPendingOp_eq_some_iff.mpr ⟨?_, fun j hlt => absurd hlt (Nat.not_lt_zero j)⟩
    rw [hops, Function.update_self, hop]
  obtain ⟨u, hreceive, hcontext, hsame⟩ : ∃ u, step t (.other (.receive rsp)) = some u ∧
      u.context = (handleReceiveRsp t.context rsp).1 ∧ u.uniqueMsgId = t.uniqueMsgId :=
    ⟨_, rfl, rfl, rfl⟩
  rw [handleReceiveRsp_some hlookup] at hcontext
  refine ⟨u, hrun.tail (.other (.receive rsp)) trivial hreceive, ⟨?_, fun i => ?_, ?_⟩,
    hsame.trans hid⟩
  · rw [hcontext]
    exact hinit
  · rw [hcontext, hops]
    obtain rfl | hi := eq_or_ne i firstSlot
    · simp
    · simp [hi, h.idle i]
  · rw [hcontext, hops]
    simpa [secondSlot, firstSlot] using h.second

theorem reaches_rounds (n : Nat) (h : Rested stale s) :
    ∃ t, Reaches step Fresh s t ∧ Rested stale t ∧
      t.uniqueMsgId = s.uniqueMsgId + UInt32.ofNat n := by
  induction n with
  | zero => exact ⟨s, .refl, h, (UInt32.add_zero _).symm⟩
  | succ n ih =>
      obtain ⟨t, hrun, hrested, hid⟩ := ih
      obtain ⟨u, hround, hrested', hid'⟩ := reaches_round hrested
      refine ⟨u, hrun.trans hround, hrested', ?_⟩
      rw [hid', hid, UInt32.ofNat_add, UInt32.add_assoc]
      rfl

end Rounds

/-- All ids were used once, and the next is that of the second slot, which is free. -/
theorem lookup_unambiguous_wrapped :
    ∃ s : State Nat Nat, Reaches step Fresh State.initial s ∧
      (s.context.pendingOps firstSlot).busy = true ∧
      (s.context.pendingOps firstSlot).uniqueId = (s.context.pendingOps secondSlot).uniqueId ∧
      lookupPendingOp s.context.pendingOps (s.context.pendingOps firstSlot).uniqueId =
        some firstSlot := by
  obtain ⟨s, hexec, hinit, hidle, hsecond, hid⟩ : ∃ s : State Nat Nat,
      exec step freshTest State.initial
        [.other (.initContext none none), .other .initConnected,
          .other (.begin 1 (some 7) none), .other (.begin 1 (some 8) none), .command 0, .command 1,
          .other (.receive { UrilProtocolMsg.zeroed with uniqueId := 1 }),
          .other (.receive { UrilProtocolMsg.zeroed with uniqueId := 2 })] = some s ∧
      s.context.initialized = true ∧ (∀ i, (s.context.pendingOps i).busy = false) ∧
      (s.context.pendingOps secondSlot).uniqueId = 2 ∧ s.uniqueMsgId = 2 :=
    ⟨_, rfl, rfl, by decide, rfl, rfl⟩
  have hrested : Rested 2 s := ⟨hinit, hidle, hsecond⟩
  obtain ⟨t, hrounds, hrested', hid'⟩ := reaches_rounds (2 ^ 32 - 1) hrested
  obtain ⟨u, op, hcommand, -, -, hbusy, hop, hops⟩ := reaches_command hrested'
  have hrun : Reaches step Fresh State.initial u :=
    ((reaches_of_exec _ freshTest_sound _ hexec).trans hrounds).trans hcommand
  have hfirst : u.context.pendingOps firstSlot = op := by
    rw [hops, Function.update_self]
  have hfirstBusy : (u.context.pendingOps firstSlot).busy = true := hfirst ▸ hbusy
  refine ⟨u, hrun, hfirstBusy, ?_, lookup_unambiguous hrun hfirstBusy⟩
  rw [hfirst, hop, hid', hid, hops, Function.update_of_ne (by decide), hrested'.second]
  rfl

theorem response_served {s : State φ δ}
    (hrun : Reaches step Fresh (State.initial : State φ δ) s) {i : Fin urilMaxPendingOps}
    (hbusy : (s.context.pendingOps i).busy = true) {resp : UrilProtocolMsg}
    (hid : resp.uniqueId = (s.context.pendingOps i).uniqueId) :
    handleReceiveRsp s.context resp =
      ({ s.context with
          pendingOps := Function.update s.context.pendingOps i
            { s.context.pendingOps i with busy := false } },
        responseUpcall s.context.handle (s.context.pendingOps i).asyncRespCb
          (s.context.pendingOps i).clientData resp) := by
  apply handleReceiveRsp_some
  rw [hid]
  exact lookup_of_lowest (lowest_reached hrun) hbusy

theorem reaches_fillSlot {s t : State φ δ} {k : Nat} (h : fillSlot s k = some t) :
    Reaches ClientRuns.step anyAction s t := by
  simp only [fillSlot] at h
  split at h
  · simp only [Option.bind_eq_bind, Option.bind_eq_some_iff] at h
    obtain ⟨s₁, hcallback, s₂, hdata, hid⟩ := h
    exact ((Reaches.single _ hcallback).trans (.single _ hdata)).trans (.single _ hid)
  · obtain rfl := Option.some.inj h
    exact .refl

/-- A run with whole commands is a run of the client. -/
theorem reaches_client {s : State φ δ}
    (hrun : Reaches step Fresh (State.initial : State φ δ) s) :
    Reaches ClientRuns.step anyAction (State.initial : State φ δ) s := by
  refine hrun.image (fun _ => True) id trivial (fun _ _ _ _ _ _ => trivial) ?_
  intro t a u _ _ hstep
  cases a with
  | command k =>
      simp only [step, command, Option.bind_eq_bind, Option.bind_eq_some_iff] at hstep
      obtain ⟨s₁, hallocate, s₂, hacquire, hfill⟩ := hstep
      exact ((Reaches.single _ hallocate).trans (.single _ hacquire)).trans
        (reaches_fillSlot hfill)
  | other a =>
      simp only [step, Option.ite_none_left_eq_some] at hstep
      exact .single a hstep.2

end UnifiedRil.LookupUniqueness

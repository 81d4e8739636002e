import UnifiedRil.AdapterInvariant

/-!
The answers to one registration request, as the vendor's threads and the
detached threads of the handlers interleave. An answer takes two steps: its
handler works on the context, and later `handleRilResponse` tests whether that
is completed. After the context was deleted the test finds whatever is left
there.
-/

namespace UnifiedRil.RegistrationChain

open UnifiedRil.Library.Runs
open UnifiedRil.Protocol
open UnifiedRil.Messages
open UnifiedRil.Ril
open UnifiedRil.RilHandlers
open UnifiedRil.RilAdapter
open UnifiedRil.RilResponses
open UnifiedRil.AdapterInvariant

structure State where
  ctx : Option RilRequestContext
  followUps : List RilReqId
  outstanding : List RilReqId
  /-- the calls of `handleRilResponse` after their handler returned -/
  invocations : List (Option Handled)
  emitted : List UrilProtocolMsg
  released : Nat
  /-- how often the context was read after it was deleted -/
  strayReads : Nat

/-- `getNetworkRegistrationStatusV1` submitted the first request. -/
def State.initial (uniqueId : UInt32) (simId : UInt8) : State where
  ctx := some (makeTokenForMessage .voiceRegistrationState uniqueId simId)
  followUps := []
  outstanding := [.voiceRegistrationState]
  invocations := []
  emitted := []
  released := 0
  strayReads := 0

/-- The asynchronous function of a registration handler. -/
def State.submitFollowUp (s : State) (request : RilReqId) : Option State :=
  if request ∈ s.followUps then
    some { s with
      followUps := s.followUps.erase request
      outstanding := s.outstanding ++ [request] }
  else none

/-- `handleRilResponse` up to the end of the handler. -/
def State.handle (s : State) (request : RilReqId) (e : RilErrno) (data : RilData)
    (uninitialised : UInt32) : Option State :=
  if request ∈ s.outstanding then
    let s := { s with outstanding := s.outstanding.erase request }
    match s.ctx with
    | none => some { s with strayReads := s.strayReads + 1 }
    | some ctx =>
        match runHandler ctx e data uninitialised with
        | .ok (ctx, handled) =>
            some { s with
              ctx := some ctx
              followUps := s.followUps ++ (handled.bind fun h => h.followUp).toList
              invocations := s.invocations ++ [handled] }
        | .error _ => none
  else none

/-- The response is passed on, and it and the context are deleted. -/
def State.complete (s : State) (rsp : UrilProtocolMsg) : State :=
  { s with ctx := none, emitted := s.emitted ++ [rsp], released := s.released + 1 }

/-- The end of `handleRilResponse` for a call. Where the context is gone, the
test finds `leftover`: a response, or an `isCompleted` that is false. -/
def State.finish (s : State) (i : Nat) (leftover : Option UrilProtocolMsg) : Option State :=
  match s.invocations[i]? with
  | none => none
  | some handled =>
      let s := { s with invocations := s.invocations.eraseIdx i }
      match s.ctx with
      | some ctx =>
          match completedResponse ctx handled with
          | some rsp => some (s.complete rsp)
          | none => some s
      | none =>
          if handled.isSome then
            let s := { s with strayReads := s.strayReads + 1 }
            match leftover with
            | some rsp => some (s.complete rsp)
            | none => some s
          else some s

inductive Action
  | followUp (request : RilReqId)
  | handle (request : RilReqId) (e : RilErrno) (data : RilData) (uninitialised : UInt32)
  | finish (i : Nat) (leftover : Option UrilProtocolMsg)

def step (s : State) : Action → Option State
  | .followUp request => s.submitFollowUp request
  | .handle request e data uninitialised => s.handle request e data uninitialised
  | .finish i leftover => s.finish i leftover

/-- Nothing is left to be done for the request. -/
structure Quiet (s : State) : Prop where
  followUps : s.followUps = []
  outstanding : s.outstanding = []
  invocations : s.invocations = []

/-- The request is answered once, and its context deleted once and not used any
more. -/
structure CompletedOnce (s : State) : Prop where
  atMostOnce : s.emitted.length ≤ 1
  released : s.released = s.emitted.length
  noStrayRead : s.strayReads = 0
  inTheEnd : Quiet s → s.emitted.length = 1

/-- The last answer is not handled while a call for an earlier one is still to
test `isCompleted`. -/
def NotOvertaken (s : State) : Action → Prop
  | .handle _ e _ _ =>
      ∀ ctx, s.ctx = some ctx → nextRequest ctx.rilReqId e = none → s.invocations = []
  | _ => True

/-- The life of the context. -/
inductive Phase (s : State) : Prop
  | serving (ctx : RilRequestContext) (hctx : s.ctx = some ctx)
      (hknown : ∀ number, ctx.rilReqId ≠ .other number) (hopen : ctx.isCompleted = false)
      (hpending : s.followUps = [ctx.rilReqId] ∧ s.outstanding = [] ∨
        s.followUps = [] ∧ s.outstanding = [ctx.rilReqId])
      (hhandled : ∀ handled ∈ s.invocations, handled.isSome)
      (hemitted : s.emitted = []) (hreleased : s.released = 0) (hstray : s.strayReads = 0)
  | completed (ctx : RilRequestContext) (h : Handled) (hctx : s.ctx = some ctx)
      (hrsp : completedResponse ctx (some h) = some h.rsp) (hfollowUps : s.followUps = [])
      (houtstanding : s.outstanding = []) (hinvocations : s.invocations = [some h])
      (hemitted : s.emitted = []) (hreleased : s.released = 0) (hstray : s.strayReads = 0)
  | released (rsp : UrilProtocolMsg) (hctx : s.ctx = none) (hquiet : Quiet s)
      (hemitted : s.emitted = [rsp]) (hreleased : s.released = 1) (hstray : s.strayReads = 0)

theorem phase_initial (uniqueId : UInt32) (simId : UInt8) :
    Phase (State.initial uniqueId simId) :=
  .serving _ rfl nofun rfl (.inr ⟨rfl, rfl⟩) nofun rfl rfl rfl

theorem completedOnce_of_phase {s : State} (h : Phase s) : CompletedOnce s := by
  cases h with
  | serving ctx hctx hknown hopen hpending hhandled hemitted hreleased hstray =>
      refine ⟨by simp [hemitted], by simp [hemitted, hreleased], hstray, fun hquiet => ?_⟩
      rcases hpending with ⟨hfollowUps, -⟩ | ⟨-, houtstanding⟩
      · exact absurd (hfollowUps.symm.trans hquiet.followUps) (List.cons_ne_nil _ _)
      · exact absurd (houtstanding.symm.trans hquiet.outstanding) (List.cons_ne_nil _ _)
  | completed ctx h hctx hrsp hfollowUps houtstanding hinvocations hemitted hreleased hstray =>
      refine ⟨by simp [hemitted], by simp [hemitted, hreleased], hstray, fun hquiet => ?_⟩
      exact absurd (hinvocations.symm.trans hquiet.invocations) (List.cons_ne_nil _ _)
  | released rsp hctx hquiet hemitted hreleased hstray =>
      exact ⟨by simp [hemitted], by simp [hemitted, hreleased], hstray, by simp [hemitted]⟩

theorem phase_followUp {s t : State} (h : Phase s) {request : RilReqId}
    (hstep : s.submitFollowUp request = some t) : Phase t := by
  simp only [State.submitFollowUp, Option.ite_none_right_eq_some, Option.some.injEq] at hstep
  obtain ⟨hmem, rfl⟩ := hstep
  cases h with
  | serving ctx hctx hknown hopen hpending hhandled hemitted hreleased hstray =>
      rcases hpending with ⟨hfollowUps, houtstanding⟩ | ⟨hfollowUps, -⟩
      · obtain rfl := List.mem_singleton.mp (hfollowUps ▸ hmem)
        refine .serving ctx hctx hknown hopen (.inr ⟨?_, ?_⟩) hhandled hemitted hreleased hstray
        · simp [hfollowUps]
        · simp [houtstanding]
      · simp [hfollowUps] at hmem
  | completed ctx h hctx hrsp hfollowUps => simp [hfollowUps] at hmem
  | released rsp hctx hquiet => simp [hquiet.followUps] at hmem

theorem handle_eq {s t : State} {ctx : RilRequestContext} {request : RilReqId} {e : RilErrno}
    {data : RilData} {u : UInt32} (hctx : s.ctx = some ctx)
    (hknown : ∀ number, ctx.rilReqId ≠ .other number)
    (hstep : s.handle request e data u = some t) :
    request ∈ s.outstanding ∧ ∃ h : Handled, h.followUp = nextRequest ctx.rilReqId e ∧
      t = { s with
        ctx := some (afterHandler ctx h)
        followUps := s.followUps ++ h.followUp.toList
        outstanding := s.outstanding.erase request
        invocations := s.invocations ++ [some h] } := by
  unfold State.handle at hstep
  rw [Option.ite_none_right_eq_some, hctx] at hstep
  obtain ⟨hmem, hstep⟩ := hstep
  refine ⟨hmem, ?_⟩
  cases hrun : runHandler ctx e data u with
  | error fault => simp [hrun] at hstep
  | ok result =>
      obtain ⟨ctx', handled⟩ := result
      obtain ⟨h, rfl⟩ := runHandler_known hknown hrun
      obtain ⟨rfl, hanswers⟩ := runHandler_some hrun
      simp only [hrun, Option.some.injEq] at hstep
      exact ⟨h, hanswers.followUp_eq, hstep.symm⟩

theorem phase_handle {s t : State} (h : Phase s) {request : RilReqId} {e : RilErrno}
    {data : RilData} {u : UInt32} (hlast : NotOvertaken s (.handle request e data u))
    (hstep : s.handle request e data u = some t) : Phase t := by
  cases h with
  | serving ctx hctx hknown hopen hpending hhandled hemitted hreleased hstray =>
      obtain ⟨hmem, h, hfollowUp, rfl⟩ := handle_eq hctx hknown hstep
      obtain ⟨hfollowUps, houtstanding⟩ :
          s.followUps = [] ∧ s.outstanding = [ctx.rilReqId] :=
        hpending.resolve_left fun hp => by simp [hp.2] at hmem
      obtain rfl := List.mem_singleton.mp (houtstanding ▸ hmem)
      cases hnext : nextRequest ctx.rilReqId e with
      | some next =>
          rw [hnext] at hfollowUp
          obtain ⟨-, hknown', -⟩ := nextRequest_some hnext
          refine .serving (afterHandler ctx h) rfl ?_ ?_ (.inl ⟨?_, ?_⟩) ?_ hemitted hreleased
            hstray
          · simpa [afterHandler, hfollowUp] using hknown'
          · simp [afterHandler, hfollowUp]
          · simp [hfollowUps, afterHandler, hfollowUp]
          · simp [houtstanding]
          · intro handled hmem'
            rcases List.mem_append.mp hmem' with hmem' | hmem'
            · exact hhandled handled hmem'
            · rw [List.mem_singleton.mp hmem']
              rfl
      | none =>
          rw [hnext] at hfollowUp
          refine .completed (afterHandler ctx h) h rfl ?_ ?_ ?_ ?_ hemitted hreleased hstray
          · rw [completedResponse_afterHandler, hfollowUp]
            rfl
          · simp [hfollowUps, hfollowUp]
          · simp [houtstanding]
          · simp [hlast ctx hctx hnext]
  | completed ctx h hctx hrsp hfollowUps houtstanding =>
      simp [State.handle, houtstanding] at hstep
  | released rsp hctx hquiet => simp [State.handle, hquiet.outstanding] at hstep

theorem completedResponse_open {ctx : RilRequestContext} (h : ctx.isCompleted = false)
    (handled : Option Handled) : completedResponse ctx handled = none := by
  simp [completedResponse, h]

theorem phase_finish {s t : State} (h : Phase s) {i : Nat} {leftover : Option UrilProtocolMsg}
    (hstep : s.finish i leftover = some t) : Phase t := by
  unfold State.finish at hstep
  split at hstep
  · cases hstep
  · rename_i handled hget
    cases h with
    | serving ctx hctx hknown hopen hpending hhandled hemitted hreleased hstray =>
        simp only [hctx, completedResponse_open hopen, Option.some.injEq] at hstep
        subst hstep
        refine .serving ctx rfl hknown hopen hpending ?_ hemitted hreleased hstray
        exact fun handled' hmem => hhandled handled' (List.mem_of_mem_eraseIdx hmem)
    | completed ctx h hctx hrsp hfollowUps houtstanding hinvocations hemitted hreleased hstray =>
        rw [hinvocations, List.getElem?_singleton] at hget
        obtain ⟨rfl, hhandled⟩ := Option.ite_none_right_eq_some.mp hget
        obtain rfl := Option.some.inj hhandled
        simp only [hctx, hrsp, Option.some.injEq] at hstep
        subst hstep
        refine .released h.rsp rfl ⟨hfollowUps, houtstanding, ?_⟩ ?_ ?_ hstray
        · simp [State.complete, hinvocations]
        · simp [State.complete, hemitted]
        · simp [State.complete, hreleased]
    | released rsp hctx hquiet => simp [hquiet.invocations] at hget

theorem phase_step {s t : State} {action : Action} (h : Phase s)
    (hallowed : NotOvertaken s action) (hstep : step s action = some t) : Phase t := by
  cases action with
  | followUp request => exact phase_followUp h hstep
  | handle request e data u => exact phase_handle h hallowed hstep
  | finish i leftover => exact phase_finish h hstep

theorem phase_of_run {uniqueId : UInt32} {simId : UInt8} {s : State}
    (hrun : Reaches step NotOvertaken (State.initial uniqueId simId) s) : Phase s :=
  hrun.invariant Phase (phase_initial uniqueId simId)
    fun _ _ _ h hallowed hstep => phase_step h hallowed hstep

/-- Unless the last answer overtakes the end of an earlier one, the request is
answered once and its context is not used after its release. -/
theorem chain_completes_once {uniqueId : UInt32} {simId : UInt8} {s : State}
    (hrun : Reaches step NotOvertaken (State.initial uniqueId simId) s) : CompletedOnce s :=
  completedOnce_of_phase (phase_of_run hrun)

/-- The test of `NotOvertaken`. -/
def notOvertakenTest (s : State) : Action → Bool
  | .handle _ e _ _ =>
      s.ctx.all (fun ctx => (nextRequest ctx.rilReqId e).isSome) || s.invocations.isEmpty
  | _ => true

theorem notOvertakenTest_sound (s : State) (action : Action)
    (h : notOvertakenTest s action = true) : NotOvertaken s action := by
  cases action with
  | handle request e data u =>
      intro ctx hctx hnext
      simpa [notOvertakenTest, hctx, hnext] using h
  | followUp request => trivial
  | finish i leftover => trivial

/-- Two of the three answers are handled before the first call ends. -/
def overlappingActions : List Action :=
  [.handle .voiceRegistrationState .success .null 0, .followUp .dataRegistrationState,
    .handle .dataRegistrationState .success .null 0, .followUp .operator, .finish 1 none,
    .finish 0 none, .handle .operator (.other 2) .null 0, .finish 0 none]

theorem chain_completes_once_overlapping : ∃ s,
    Reaches step NotOvertaken (State.initial 1 0) s ∧ CompletedOnce s ∧ s.emitted.length = 1 := by
  obtain ⟨s, hexec, hs⟩ : ∃ s,
      exec step notOvertakenTest (State.initial 1 0) overlappingActions = some s ∧
        s.emitted.length = 1 := ⟨_, rfl, rfl⟩
  have hrun := reaches_of_exec notOvertakenTest notOvertakenTest_sound _ hexec
  exact ⟨s, hrun, chain_completes_once hrun, hs⟩

/-- The data registration fails before the call for the voice registration
ends. -/
def overtakingActions : List Action :=
  [.handle .voiceRegistrationState .success .null 0, .followUp .dataRegistrationState,
    .handle .dataRegistrationState (.other 2) .null 0, .finish 0 none,
    .finish 0 (some .zeroed)]

theorem overtaking_emits_twice : ∃ s,
    Reaches step anyAction (State.initial 1 0) s ∧ ¬ CompletedOnce s := by
  obtain ⟨s, hexec, htwice⟩ : ∃ s,
      exec step (fun _ _ => true) (State.initial 1 0) overtakingActions = some s ∧
        s.emitted.length = 2 := ⟨_, rfl, rfl⟩
  refine ⟨s, reaches_of_exec _ (fun _ _ _ => trivial) _ hexec, fun h => ?_⟩
  exact absurd (htwice.symm.trans_le h.atMostOnce) (by decide)

/-! No other condition would do: once the last answer has overtaken a call, the
context is read after its release before the chain comes to rest. -/

theorem strayReads_le {s t : State} {action : Action} (hstep : step s action = some t) :
    s.strayReads ≤ t.strayReads := by
  cases action with
  | followUp request =>
      simp only [step, State.submitFollowUp, Option.ite_none_right_eq_some,
        Option.some.injEq] at hstep
      obtain ⟨-, rfl⟩ := hstep
      exact le_rfl
  | handle request e data u =>
      simp only [step, State.handle, Option.ite_none_right_eq_some] at hstep
      obtain ⟨-, hstep⟩ := hstep
      split at hstep
      · cases hstep
        exact Nat.le_succ _
      · split at hstep
        · cases hstep
          exact le_rfl
        · cases hstep
  | finish i leftover =>
      simp only [step, State.finish] at hstep
      split at hstep
      · cases hstep
      · split at hstep
        · split at hstep
          · cases hstep
            exact le_rfl
          · cases hstep
            exact le_rfl
        · split at hstep
          · split at hstep
            · cases hstep
              exact Nat.le_succ _
            · cases hstep
              exact Nat.le_succ _
          · cases hstep
            exact le_rfl

/-- More calls will test the context than it is there for. -/
inductive Overtaken (s : State) : Prop
  | completed (ctx : RilRequestContext) (hctx : s.ctx = some ctx)
      (hcompletes : ∀ h : Handled, ∃ rsp, completedResponse ctx (some h) = some rsp)
      (hfollowUps : s.followUps = []) (houtstanding : s.outstanding = [])
      (hhandled : ∀ handled ∈ s.invocations, handled.isSome) (hcalls : 2 ≤ s.invocations.length)
  | gone (hctx : s.ctx = none) (hfollowUps : s.followUps = []) (houtstanding : s.outstanding = [])
      (hhandled : ∀ handled ∈ s.invocations, handled.isSome) (hcalls : s.invocations ≠ [])
  | strayed (hstray : 0 < s.strayReads)

theorem overtaken_handle {s t : State} (h : Phase s) {action : Action}
    (hover : ¬ NotOvertaken s action) (hstep : step s action = some t) : Overtaken t := by
  cases action with
  | followUp request => exact absurd trivial hover
  | finish i leftover => exact absurd trivial hover
  | handle request e data u =>
      simp only [NotOvertaken, not_forall] at hover
      obtain ⟨ctx, hctx, hlast, hcalls⟩ := hover
      cases h with
      | serving ctx' hctx' hknown hopen hpending hhandled =>
          obtain rfl := Option.some.inj (hctx.symm.trans hctx')
          obtain ⟨hmem, h, hfollowUp, rfl⟩ := handle_eq hctx hknown hstep
          obtain ⟨hfollowUps, houtstanding⟩ :
              s.followUps = [] ∧ s.outstanding = [ctx.rilReqId] :=
            hpending.resolve_left fun hp => by simp [hp.2] at hmem
          obtain rfl := List.mem_singleton.mp (houtstanding ▸ hmem)
          rw [hlast] at hfollowUp
          refine .completed (afterHandler ctx h) rfl (fun h' => ⟨h.rsp, ?_⟩) ?_ ?_ ?_ ?_
          · simp [completedResponse, afterHandler, hfollowUp]
          · simp [hfollowUps, hfollowUp]
          · simp [houtstanding]
          · intro handled hmem'
            rcases List.mem_append.mp hmem' with hmem' | hmem'
            · exact hhandled handled hmem'
            · rw [List.mem_singleton.mp hmem']
              rfl
          · rw [List.length_append]
            exact Nat.succ_le_succ (List.length_pos_iff.mpr hcalls)
      | completed ctx' h' hctx' hrsp hfollowUps houtstanding =>
          simp [step, State.handle, houtstanding] at hstep
      | released rsp hctx' hquiet => simp [step, State.handle, hquiet.outstanding] at hstep

theorem overtaken_step {s t : State} {action : Action} (h : Overtaken s)
    (hstep : step s action = some t) : Overtaken t := by
  cases h with
  | strayed hstray => exact .strayed (hstray.trans_le (strayReads_le hstep))
  | completed ctx hctx hcompletes hfollowUps houtstanding hhandled hcalls =>
      cases action with
      | followUp request => simp [step, State.submitFollowUp, hfollowUps] at hstep
      | handle request e data u => simp [step, State.handle, houtstanding] at hstep
      | finish i leftover =>
          simp only [step, State.finish] at hstep
          split at hstep
          · cases hstep
          · rename_i handled hget
            obtain ⟨h, rfl⟩ := Option.isSome_iff_exists.mp
              (hhandled _ (List.mem_of_getElem? hget))
            obtain ⟨rsp, hrsp⟩ := hcompletes h
            simp only [hctx, hrsp, Option.some.injEq] at hstep
            subst hstep
            refine .gone rfl hfollowUps houtstanding ?_ ?_
            · exact fun handled hmem => hhandled handled (List.mem_of_mem_eraseIdx hmem)
            · have hi : i < s.invocations.length := (List.getElem?_eq_some_iff.mp hget).1
              rw [← List.length_pos_iff]
              simp only [State.complete, List.length_eraseIdx, if_pos hi]
              omega
  | gone hctx hfollowUps houtstanding hhandled hcalls =>
      cases action with
      | followUp request => simp [step, State.submitFollowUp, hfollowUps] at hstep
      | handle request e data u => simp [step, State.handle, houtstanding] at hstep
      | finish i leftover =>
          simp only [step, State.finish] at hstep
          split at hstep
          · cases hstep
          · rename_i handled hget
            rw [hctx] at hstep
            dsimp only at hstep
            rw [if_pos (hhandled _ (List.mem_of_getElem? hget))] at hstep
            apply Overtaken.strayed
            cases leftover with
            | none =>
                cases hstep
                exact Nat.succ_pos _
            | some rsp =>
                cases hstep
                exact Nat.succ_pos _

theorem overtaken_reads_released {uniqueId : UInt32} {simId : UInt8} {s t v : State}
    {action : Action} (hrun : Reaches step NotOvertaken (State.initial uniqueId simId) s)
    (hover : ¬ NotOvertaken s action) (hstep : step s action = some t)
    (hrest : Reaches step anyAction t v) (hquiet : Quiet v) : 0 < v.strayReads := by
  have hv : Overtaken v :=
    hrest.invariant Overtaken (overtaken_handle (phase_of_run hrun) hover hstep)
      fun _ _ _ h _ hstep => overtaken_step h hstep
  cases hv with
  | strayed hstray => exact hstray
  | completed ctx hctx hcompletes hfollowUps houtstanding hhandled hcalls =>
      rw [hquiet.invocations] at hcalls
      exact absurd hcalls (by decide)
  | gone hctx hfollowUps houtstanding hhandled hcalls => exact absurd hquiet.invocations hcalls

end UnifiedRil.RegistrationChain

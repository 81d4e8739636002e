import Mathlib.Data.List.Induction
import UnifiedRil.AdapterInvariant

namespace UnifiedRil.PendingContexts

open UnifiedRil.Library.Runs
open UnifiedRil.Protocol
open UnifiedRil.Ril
open UnifiedRil.RilHandlers
open UnifiedRil.RilAdapter
open UnifiedRil.RilResponses
open UnifiedRil.RequestProcessors
open UnifiedRil.AdapterRuns
open UnifiedRil.AdapterInvariant

/-- The requests that follow the first one of a chain. -/
def laterRequests : List RilReqId := [.dataRegistrationState, .operator]

structure Pending (ctx : RilRequestContext) : Prop where
  known : ∀ number, ctx.rilReqId ≠ .other number
  fresh : ctx.rilReqId ∉ laterRequests → ctx.rsp = none

theorem pending_new {rilReqId : RilReqId} (hknown : ∀ number, rilReqId ≠ .other number)
    (uniqueId : UInt32) (simId : UInt8) :
    Pending (makeTokenForMessage rilReqId uniqueId simId) where
  known := hknown
  fresh _ := rfl

theorem nextRequest_later {rilReqId next : RilReqId} {e : RilErrno}
    (h : nextRequest rilReqId e = some next) : next ∈ laterRequests := by
  cases rilReqId with
  | voiceRegistrationState =>
      simp only [nextRequest, Option.ite_none_right_eq_some, Option.some.injEq] at h
      exact h.2 ▸ List.mem_cons_self
  | dataRegistrationState =>
      simp only [nextRequest, Option.ite_none_right_eq_some, Option.some.injEq] at h
      exact h.2 ▸ List.mem_cons_of_mem _ List.mem_cons_self
  | _ => cases h

section Answered

variable {ctx ctx' : RilRequestContext} {e : RilErrno} {data : RilData} {u : UInt32}
  {handled : Option Handled}

theorem Pending.continued (h : Pending ctx) (hrun : runHandler ctx e data u = .ok (ctx', handled))
    (hleft : completedResponse ctx' handled = none) : Pending ctx' := by
  obtain ⟨handled, rfl⟩ := runHandler_known h.known hrun
  obtain ⟨rfl, hanswers⟩ := runHandler_some hrun
  rw [completedResponse_afterHandler] at hleft
  cases hnext : handled.followUp with
  | none =>
      rw [hnext] at hleft
      cases hleft
  | some next =>
      have hfollows : nextRequest ctx.rilReqId e = some next := by
        rw [← hanswers.followUp_eq, hnext]
      have hid : (afterHandler ctx handled).rilReqId = next := by
        rw [afterHandler, hnext]
        rfl
      constructor
      · rw [hid]
        exact (nextRequest_some hfollows).2.1
      · rw [hid]
        exact fun hnot => absurd (nextRequest_later hfollows) hnot

end Answered

theorem initialContext_pending {request : UrilProtocolMsg} {ctx : RilRequestContext}
    (h : initialContext request = some ctx) : Serving ctx ∧ Pending ctx := by
  unfold initialContext at h
  split at h
  · rename_i ctx' v hprocessed
    obtain rfl := Option.some.inj h
    cases processRequest_outcome request _ hprocessed with
    | submitted v hknown hid =>
        exact ⟨.token v.request request.uniqueId request.simId, pending_new hknown _ _⟩
  · cases h

/-- The contexts that a request on its own has are pending, until the response
is emitted. -/
theorem serveAlone_pending {request : UrilProtocolMsg} {answers : List (Answer × UInt32)}
    {ctx : RilRequestContext} (h : serveAlone request answers = some (ctx, none)) :
    Serving ctx ∧ Pending ctx := by
  induction answers using List.reverseRecOn generalizing ctx with
  | nil =>
      obtain ⟨ctx', hctx, heq⟩ := Option.map_eq_some_iff.mp h
      cases heq
      exact initialContext_pending hctx
  | append_singleton answers answer ih =>
      rw [serveAlone_append] at h
      unfold aloneStep at h
      split at h
      · rename_i before hbefore
        obtain ⟨hserving, hpending⟩ := ih hbefore
        split at h
        · rename_i after handled hrun
          obtain ⟨rfl, hleft⟩ := Prod.mk.inj (Option.some.inj h)
          obtain ⟨handled, rfl⟩ := runHandler_known hpending.known hrun
          exact ⟨.answered hserving hrun, hpending.continued hrun hleft⟩
        · cases h
      · cases h

theorem responseOf_fresh {ctx : RilRequestContext} (h : ctx.rsp = none) :
    responseOf ctx = responseOf (makeTokenForMessage ctx.rilReqId ctx.uniqueId ctx.simId) := by
  rw [responseOf, h]
  rfl

theorem Pending.handler {ctx : RilRequestContext} (h : Pending ctx) {rilReqId : RilReqId}
    (hid : ctx.rilReqId = rilReqId) (hfirst : rilReqId ∉ laterRequests) {e : RilErrno}
    {data : RilData} {u : UInt32} {run : Option (Except Fault Handled)}
    (hrun : responseHandler ctx.rilReqId (responseOf ctx) e data u = run) :
    responseHandler rilReqId (responseOf (makeTokenForMessage rilReqId ctx.uniqueId ctx.simId)) e
      data u = run := by
  subst hid
  rwa [← responseOf_fresh (h.fresh hfirst)]

def AllPending (s : State) : Prop := ∀ t entry, s.contexts t = some entry → Pending entry.ctx

theorem Pending.hit {entry : Entry} (h : Pending entry.ctx) (stored : Nat → Option UInt8) :
    Pending (entry.hit stored).ctx where
  known := h.known
  fresh hfirst := by
    change entry.ctx.rsp.map _ = none
    rw [h.fresh hfirst, Option.map_none]

theorem AllPending.dispatch {s : State} (h : AllPending s) {msg : UrilProtocolMsg} {p : Processed}
    (hprocessed : processRequest msg = .ok p) : AllPending (s.dispatch msg p) := by
  cases processRequest_outcome msg p hprocessed with
  | refused => exact h
  | radioThread hmode => exact h
  | submitted v hknown hid =>
      intro t entry hentry
      obtain ⟨-, hnew⟩ | ⟨-, hold⟩ := update_eq_some hentry
      · exact Option.some.inj hnew ▸ pending_new hknown _ _
      · exact h t entry hold

theorem AllPending.settle {s : State} (h : AllPending s) {token : Nat} {entry : Entry}
    (hentry : Pending entry.ctx) (address : Nat) {answer : Answer} {u : UInt32}
    {ctx : RilRequestContext} {handled : Option Handled}
    (hrun : runHandler entry.ctx answer.error answer.data u = .ok (ctx, handled)) :
    AllPending (s.settle token entry address answer ctx handled).1 := by
  have hothers : ∀ stored t other, (s.contexts t).map (Entry.hit stored) = some other →
      Pending other.ctx := by
    intro stored t other hother
    obtain ⟨before, hbefore, rfl⟩ := Option.map_eq_some_iff.mp hother
    exact (h t before hbefore).hit stored
  intro t other hother
  unfold State.settle at hother
  dsimp only at hother
  split at hother
  · dsimp only at hother
    obtain ⟨-, hnone⟩ | ⟨-, hold⟩ := update_eq_some hother
    · cases hnone
    · exact hothers _ t other hold
  · rename_i hleft
    dsimp only at hother
    obtain ⟨-, hnew⟩ | ⟨-, hold⟩ := update_eq_some hother
    · exact Option.some.inj hnew ▸ hentry.continued hrun hleft
    · exact hothers _ t other hold

theorem AllPending.answer {s : State} (h : AllPending s) {submission : Nat × RilReqId}
    {answer : Answer} {u : UInt32} {address : Nat} {r : State × Option UrilProtocolMsg}
    (hanswer : s.answer submission answer u address = some r) : AllPending r.1 := by
  unfold State.answer at hanswer
  rw [Option.ite_none_right_eq_some] at hanswer
  obtain ⟨-, hanswer⟩ := hanswer
  dsimp only at hanswer
  split at hanswer
  · obtain rfl := Option.some.inj hanswer
    exact h
  · rename_i entry hentry
    rw [Option.ite_none_right_eq_some] at hanswer
    obtain ⟨-, hanswer⟩ := hanswer
    split at hanswer
    · rename_i ctx handled hrun
      obtain rfl := Option.some.inj hanswer
      have herased : AllPending { s with outstanding := s.outstanding.erase submission } := h
      exact herased.settle (h _ entry hentry) _ hrun
    · cases hanswer

theorem allPending_step {s t : State} {action : Action} (h : AllPending s)
    (hstep : step s action = some t) : AllPending t := by
  cases action with
  | request msg =>
      simp only [step] at hstep
      split at hstep
      · cases hstep
      · split at hstep
        · rename_i p hprocessed
          obtain rfl := Option.some.inj hstep
          exact h.dispatch hprocessed
        · cases hstep
  | answer submission answer u address =>
      obtain ⟨r, hanswer, rfl⟩ := Option.map_eq_some_iff.mp hstep
      exact h.answer hanswer
  | followUp thread =>
      obtain ⟨-, hsubmitted⟩ := Option.ite_none_right_eq_some.mp hstep
      obtain rfl := Option.some.inj hsubmitted
      exact h

theorem allPending_of_run {s : State} (hrun : Reaches step anyAction State.initial s) :
    AllPending s :=
  hrun.invariant AllPending nofun fun _ _ _ h _ hstep => allPending_step h hstep

end UnifiedRil.PendingContexts

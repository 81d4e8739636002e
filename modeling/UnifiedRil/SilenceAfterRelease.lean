import UnifiedRil.ClientRuns

/-!
Callbacks that are invoked between `uril_client_release` and the next
`uril_client_init`. The receive threads go on after a release, and the table of
pending operations keeps its callbacks. A receive thread invokes the callback
that it found a step after it handled the message.
-/

namespace UnifiedRil.SilenceAfterRelease

open UnifiedRil.Library.Runs
open UnifiedRil.Protocol
open UnifiedRil.Client
open UnifiedRil.ClientRuns

variable {φ δ : Type}

structure Session (φ δ : Type) where
  client : State φ δ
  calling : List (Upcall φ δ)
  /-- a release returned 0, and there was no step of an initialization since -/
  released : Bool
  /-- what was called while released, newest first -/
  calledReleased : List (Upcall φ δ)

def Session.initial : Session φ δ :=
  { client := .initial, calling := [], released := false, calledReleased := [] }

inductive SessionAction (φ δ : Type)
  | client (a : Action φ δ)
  | call (i : Nat)

/-- The callback that a step of the client is going to invoke. -/
def foundUpcall (s : State φ δ) : Action φ δ → Option (Upcall φ δ)
  | .receive msg => (handleReceive s.context msg).2
  | _ => none

def releasedAfter (s : State φ δ) (released : Bool) : Action φ δ → Bool
  | .initContext _ _ | .initConnected => false
  | .release => released || (clientRelease s.context).2 = 0
  | _ => released

def sessionStep (s : Session φ δ) : SessionAction φ δ → Option (Session φ δ)
  | .client a =>
      (step s.client a).map fun client =>
        { s with
          client := client
          calling := s.calling ++ (foundUpcall s.client a).toList
          released := releasedAfter s.client s.released a }
  | .call i =>
      s.calling[i]?.map fun upcall =>
        { s with
          calling := s.calling.eraseIdx i
          calledReleased := if s.released then upcall :: s.calledReleased
            else s.calledReleased }

/-- A call in this phase is still to store its callback, if it gets a slot. -/
def unstored : Phase → Bool
  | .begun | .allocated _ | .holding .acquired _ _ => true
  | _ => false

/-- No slot has a callback, and no call in progress will store one. -/
structure NothingToCall (s : State φ δ) : Prop where
  slots : ∀ i, (s.context.pendingOps i).asyncRespCb = none
  calls : ∀ k c, s.calls k = some c → unstored c.phase = true → c.asyncRespCb = none

/-- Between a release and the next initialization no response finds an operation
with a callback, and the library is released while no receive thread is about to
call. -/
def NoCallbackFound (s : Session φ δ) : SessionAction φ δ → Prop
  | .client .release => s.client.context.initialized = true → s.calling = []
  | .client (.receive msg) => s.released = true → msg.isIndication = 0 →
      ∀ i, lookupPendingOp s.client.context.pendingOps msg.uniqueId = some i →
        (s.client.context.pendingOps i).asyncRespCb = none
  | _ => True

/-- The library is released only when there is nothing to call, and no receive
thread is about to call. -/
def ReleasesIdle (s : Session φ δ) : SessionAction φ δ → Prop
  | .client .release => s.client.context.initialized = true →
      NothingToCall s.client ∧ s.calling = []
  | _ => True

/-- What a release leaves of the context. -/
structure Cleared (s : State φ δ) : Prop where
  initialized : s.context.initialized = false
  indCb : s.context.indCb = none
  defaultAsyncCb : s.context.defaultAsyncCb = none

theorem cleared_release {s : State φ δ} (hinit : s.context.initialized = true) :
    Cleared { s with context := (clientRelease s.context).1 } := by
  simp only [clientRelease, hinit, if_true]
  exact ⟨rfl, rfl, rfl⟩

theorem cleared_step {s t : State φ δ} {a : Action φ δ} (h : Cleared s)
    (hcontext : ∀ indCb defaultRespCb, a ≠ .initContext indCb defaultRespCb)
    (hconnected : a ≠ .initConnected) (hstep : step s a = some t) : Cleared t := by
  cases a with
  | initContext indCb cb => exact absurd rfl (hcontext indCb cb)
  | initConnected => exact absurd rfl hconnected
  | release =>
      obtain rfl := Option.some.inj hstep
      simpa [clientRelease, h.initialized] using h
  | begin hndl cb data => simp [step, h.initialized] at hstep
  | allocateId k =>
      obtain ⟨c, hc, hphase, rfl⟩ := step_allocateId hstep
      exact { h with }
  | acquireSlot k =>
      obtain ⟨c, u, hc, hphase, ⟨i, -, rfl⟩ | ⟨-, rfl⟩⟩ := step_acquireSlot hstep
      · exact { h with }
      · exact { h with }
  | fill k =>
      obtain ⟨c, stage, u, i, stage', op, hc, hphase, hassign, rfl⟩ := step_fill hstep
      exact { h with }
  | send k ok =>
      obtain ⟨c, u, i, hc, hphase, rfl⟩ := step_send hstep
      exact { h with }
  | receive msg =>
      obtain hrsp | hind := eq_or_ne msg.isIndication 0
      · rcases step_response hrsp hstep with ⟨i, -, rfl⟩ | ⟨-, rfl⟩
        · exact { h with }
        · exact { h with }
      · rwa [step_indication hind hstep]

theorem handleReceive_cleared {s : State φ δ} (h : Cleared s) {msg : UrilProtocolMsg}
    (hfound : msg.isIndication = 0 → ∀ i,
      lookupPendingOp s.context.pendingOps msg.uniqueId = some i →
        (s.context.pendingOps i).asyncRespCb = none) :
    (handleReceive s.context msg).2 = none := by
  unfold handleReceive
  split
  · simp [handleReceiveInd, h.indCb]
  · rename_i hrsp
    unfold handleReceiveRsp
    split
    · rename_i i hlookup
      simp [responseUpcall, hfound (not_not.mp hrsp) i hlookup]
    · rfl

theorem nothingToCall_setPhase {s t : State φ δ} (h : NothingToCall s) {k : Nat} {c : Call φ δ}
    {phase : Phase} (hc : s.calls k = some c)
    (hcalls : t.calls = (s.setPhase k c phase).calls)
    (hphase : unstored phase = true → unstored c.phase = true)
    (hslots : ∀ i, (t.context.pendingOps i).asyncRespCb = none) : NothingToCall t := by
  refine ⟨hslots, ?_⟩
  intro k' c' hc' hunstored
  rw [hcalls] at hc'
  obtain rfl | hk := eq_or_ne k' k
  · simp only [State.setPhase, Function.update_self, Option.some.injEq] at hc'
    subst hc'
    exact h.calls k' c hc (hphase hunstored)
  · exact h.calls k' c' (by simpa [State.setPhase, hk] using hc') hunstored

theorem assign_nothingToCall {s : State φ δ} (hcleared : Cleared s) (h : NothingToCall s)
    {k : Nat} {c : Call φ δ} (hc : s.calls k = some c) {u : UInt32} {i : Fin urilMaxPendingOps}
    {stage stage' : Stage} {op : PendingOp φ δ} (hphase : c.phase = .holding stage u i)
    (hassign : assign s.context c u (s.context.pendingOps i) stage = some (stage', op)) :
    op.asyncRespCb = none ∧ stage' ≠ .acquired := by
  have hslot := h.slots i
  cases stage with
  | acquired =>
      obtain ⟨rfl, rfl⟩ : Stage.callbackWritten = stage' ∧ _ = op := by
        simpa [assign] using hassign
      have hcb : c.asyncRespCb = none := h.calls k c hc (by rw [hphase]; rfl)
      simp [storedCallback, hcb, hcleared.defaultAsyncCb]
  | callbackWritten =>
      obtain ⟨rfl, rfl⟩ : Stage.clientDataWritten = stage' ∧ _ = op := by
        simpa [assign] using hassign
      exact ⟨hslot, by decide⟩
  | clientDataWritten =>
      obtain ⟨rfl, rfl⟩ : Stage.filled = stage' ∧ _ = op := by
        simpa [assign] using hassign
      exact ⟨hslot, by decide⟩
  | filled | sent | sendFailed => cases hassign

theorem slots_update {ops : PendingOps φ δ} (h : ∀ i, (ops i).asyncRespCb = none)
    {i : Fin urilMaxPendingOps} {op : PendingOp φ δ} (hop : op.asyncRespCb = none) :
    ∀ j, (Function.update ops i op j).asyncRespCb = none := by
  intro j
  obtain rfl | hj := eq_or_ne j i
  · simpa using hop
  · simpa [hj] using h j

theorem nothingToCall_step {s t : State φ δ} {a : Action φ δ} (hcleared : Cleared s)
    (h : NothingToCall s) (hcontext : ∀ indCb defaultRespCb, a ≠ .initContext indCb defaultRespCb)
    (hconnected : a ≠ .initConnected) (hstep : step s a = some t) : NothingToCall t := by
  have hslots := h.slots
  cases a with
  | initContext indCb cb => exact absurd rfl (hcontext indCb cb)
  | initConnected => exact absurd rfl hconnected
  | release =>
      obtain rfl := Option.some.inj hstep
      simpa [clientRelease, hcleared.initialized] using h
  | begin hndl cb data => simp [step, hcleared.initialized] at hstep
  | allocateId k =>
      obtain ⟨c, hc, hphase, rfl⟩ := step_allocateId hstep
      exact nothingToCall_setPhase h hc rfl (by simp [hphase, unstored]) hslots
  | acquireSlot k =>
      obtain ⟨c, u, hc, hphase, ⟨i, -, rfl⟩ | ⟨-, rfl⟩⟩ := step_acquireSlot hstep
      · exact nothingToCall_setPhase h hc rfl (by simp [hphase, unstored])
          (slots_update hslots (hslots i))
      · exact nothingToCall_setPhase h hc rfl (by simp [hphase, unstored]) hslots
  | fill k =>
      obtain ⟨c, stage, u, i, stage', op, hc, hphase, hassign, rfl⟩ := step_fill hstep
      obtain ⟨hop, hstage⟩ := assign_nothingToCall hcleared h hc hphase hassign
      refine nothingToCall_setPhase h hc rfl ?_ (slots_update hslots hop)
      cases stage' <;> simp_all [unstored]
  | send k ok =>
      obtain ⟨c, u, i, hc, hphase, rfl⟩ := step_send hstep
      refine nothingToCall_setPhase h hc rfl ?_ hslots
      cases ok <;> simp [unstored]
  | receive msg =>
      obtain hrsp | hind := eq_or_ne msg.isIndication 0
      · rcases step_response hrsp hstep with ⟨i, -, rfl⟩ | ⟨-, rfl⟩
        · exact ⟨slots_update hslots (hslots i), h.calls⟩
        · exact ⟨hslots, h.calls⟩
      · rwa [step_indication hind hstep]

/-- While released, the context is cleared and no receive thread is about to call. -/
structure Silent (s : Session φ δ) : Prop where
  cleared : s.released = true → Cleared s.client
  calling : s.released = true → s.calling = []
  nothingCalled : s.calledReleased = []

theorem releasedAfter_true {s : State φ δ} {released : Bool} {a : Action φ δ}
    (h : releasedAfter s released a = true) :
    released = true ∧ (∀ indCb cb, a ≠ .initContext indCb cb) ∧ a ≠ .initConnected ∨
      a = .release ∧ s.context.initialized = true := by
  cases a with
  | release =>
      simp only [releasedAfter, clientRelease, Bool.or_eq_true] at h
      rcases h with hreleased | h
      · exact .inl ⟨hreleased, by simp, by simp⟩
      · refine .inr ⟨rfl, ?_⟩
        split at h
        · assumption
        · simp at h
  | initContext indCb cb => cases h
  | initConnected => cases h
  | begin | allocateId | acquireSlot | fill | send | receive =>
      exact .inl ⟨h, by simp, by simp⟩

theorem silent_step {s t : Session φ δ} {a : SessionAction φ δ} (h : Silent s)
    (hfound : NoCallbackFound s a) (hstep : sessionStep s a = some t) : Silent t := by
  cases a with
  | call i =>
      obtain ⟨upcall, hupcall, rfl⟩ := Option.map_eq_some_iff.mp hstep
      have hreleased : s.released = false := by
        rw [Bool.eq_false_iff]
        intro hreleased
        rw [h.calling hreleased] at hupcall
        cases hupcall
      refine ⟨h.cleared, ?_, ?_⟩
      · simp [hreleased]
      · simpa [hreleased] using h.nothingCalled
  | client a =>
      obtain ⟨client, hclient, rfl⟩ := Option.map_eq_some_iff.mp hstep
      refine ⟨?_, ?_, h.nothingCalled⟩
      · intro hreleased
        rcases releasedAfter_true hreleased with ⟨hbefore, hcontext, hconnected⟩ | ⟨rfl, hinit⟩
        · exact cleared_step (h.cleared hbefore) hcontext hconnected hclient
        · obtain rfl := Option.some.inj hclient
          exact cleared_release hinit
      · intro hreleased
        rcases releasedAfter_true hreleased with ⟨hbefore, -, -⟩ | ⟨rfl, hinit⟩
        · have hnone : foundUpcall s.client a = none := by
            cases a with
            | receive msg => exact handleReceive_cleared (h.cleared hbefore) (hfound hbefore)
            | _ => rfl
          simp [h.calling hbefore, hnone]
        · simp [hfound hinit, foundUpcall]

theorem silent_of_run {s : Session φ δ}
    (hrun : Reaches sessionStep NoCallbackFound (Session.initial : Session φ δ) s) : Silent s := by
  refine hrun.invariant Silent ⟨nofun, nofun, rfl⟩ ?_
  exact fun _ _ _ h hfound hstep => silent_step h hfound hstep

/-- While released, the client has nothing to call. -/
def Idle (s : Session φ δ) : Prop :=
  s.released = true → Cleared s.client ∧ NothingToCall s.client

theorem idle_step {s t : Session φ δ} {a : SessionAction φ δ} (h : Idle s)
    (hidle : ReleasesIdle s a) (hstep : sessionStep s a = some t) : Idle t := by
  intro hreleased
  cases a with
  | call i =>
      obtain ⟨upcall, -, rfl⟩ := Option.map_eq_some_iff.mp hstep
      exact h hreleased
  | client a =>
      obtain ⟨client, hclient, rfl⟩ := Option.map_eq_some_iff.mp hstep
      rcases releasedAfter_true hreleased with ⟨hbefore, hcontext, hconnected⟩ | ⟨rfl, hinit⟩
      · obtain ⟨hcleared, hnothing⟩ := h hbefore
        exact ⟨cleared_step hcleared hcontext hconnected hclient,
          nothingToCall_step hcleared hnothing hcontext hconnected hclient⟩
      · obtain ⟨hslots, hcalls⟩ := (hidle hinit).1
        obtain rfl := Option.some.inj hclient
        refine ⟨cleared_release hinit, ?_⟩
        simp only [clientRelease, hinit, if_true]
        exact ⟨hslots, hcalls⟩

/-- A library that is released only when there is nothing to call finds no
callback afterwards, whatever is received. -/
theorem noCallbackFound_of_releasesIdle {s : Session φ δ}
    (hrun : Reaches sessionStep ReleasesIdle (Session.initial : Session φ δ) s) :
    Reaches sessionStep NoCallbackFound Session.initial s := by
  refine hrun.imp Idle nofun (fun _ _ _ h hidle hstep => idle_step h hidle hstep) ?_
  intro s a _ h hidle _
  unfold NoCallbackFound
  split
  · exact fun hinit => (hidle hinit).2
  · exact fun hreleased _ i _ => (h hreleased).2.slots i
  · trivial

/-- A library that is released only when there is nothing to call calls nothing while it
is released, whatever is received. -/
theorem silent_after_release {s : Session φ δ}
    (hrun : Reaches sessionStep ReleasesIdle (Session.initial : Session φ δ) s) :
    s.calledReleased = [] :=
  (silent_of_run (noCallbackFound_of_releasesIdle hrun)).nothingCalled

/-- An indication is called and a request without a callback is answered before the
release; the same messages come again after it. -/
theorem silent_after_release_sample :
    ∃ s : Session Nat Nat, Reaches sessionStep ReleasesIdle Session.initial s ∧
      s.released = true ∧ s.client.issued = 1 ∧ s.calledReleased = [] := by
  let ind : UrilProtocolMsg := { UrilProtocolMsg.zeroed with isIndication := 1 }
  let rsp : UrilProtocolMsg := { UrilProtocolMsg.zeroed with uniqueId := 1 }
  let unreleased : Session Nat Nat → SessionAction Nat Nat → Bool
    | _, .client .release => false
    | _, _ => true
  have hunreleased : ∀ s a, unreleased s a = true → ReleasesIdle s a := by
    intro s a hok
    unfold ReleasesIdle
    split
    · cases hok
    · trivial
  obtain ⟨s, t, u, hbefore, hslots, hreturned, hother, hcalling, hrelease, hafter, hreleased,
      hissued⟩ : ∃ s t u : Session Nat Nat,
      exec sessionStep unreleased Session.initial
        [.client (.initContext (some 5) none), .client .initConnected,
          .client (.begin 1 none none), .client (.allocateId 0), .client (.acquireSlot 0),
          .client (.fill 0), .client (.fill 0), .client (.fill 0), .client (.send 0 true),
          .client (.receive ind), .call 0, .client (.receive rsp)] = some s ∧
      (∀ i, (s.client.context.pendingOps i).asyncRespCb = none) ∧
      (∀ c ∈ s.client.calls 0, unstored c.phase = false) ∧
      (∀ k, s.client.calls (k + 1) = none) ∧ s.calling = [] ∧
      sessionStep s (.client .release) = some t ∧
      exec sessionStep unreleased t [.client (.receive ind), .client (.receive rsp)] = some u ∧
      u.released = true ∧ u.client.issued = 1 :=
    ⟨_, _, _, rfl, by decide, by rintro _ ⟨⟩; rfl, fun _ => rfl, rfl, rfl, rfl, rfl, rfl⟩
  have hnothing : NothingToCall s.client := by
    refine ⟨hslots, fun k c hc hunstored => ?_⟩
    cases k with
    | zero => simp [hreturned c hc] at hunstored
    | succ k => simp [hother k] at hc
  have hrun : Reaches sessionStep ReleasesIdle Session.initial t :=
    (reaches_of_exec _ hunreleased _ hbefore).tail (.client .release) (fun _ => ⟨hnothing, hcalling⟩) hrelease
  have hwhole := hrun.trans (reaches_of_exec _ hunreleased _ hafter)
  exact ⟨u, hwhole, hreleased, hissued, silent_after_release hwhole⟩

/-- A response that finds an operation with a callback is called after the release. -/
theorem called_of_lookup {s : Session φ δ} (hinit : s.client.context.initialized = true)
    {msg : UrilProtocolMsg} (hrsp : msg.isIndication = 0) {i : Fin urilMaxPendingOps}
    (hlookup : lookupPendingOp s.client.context.pendingOps msg.uniqueId = some i)
    (hcb : (s.client.context.pendingOps i).asyncRespCb ≠ none) :
    ∃ t, exec sessionStep (fun _ _ => true) s
        [.client .release, .client (.receive msg), .call s.calling.length] = some t ∧
      t.calledReleased ≠ [] := by
  obtain ⟨cb, hcb⟩ := Option.ne_none_iff_exists'.mp hcb
  simp [exec, sessionStep, step, foundUpcall, releasedAfter, clientRelease, hinit, hrsp,
    handleReceive, handleReceiveRsp, hlookup, responseUpcall, hcb]

/-- The response to a request that was outstanding when the library was
released. -/
theorem late_response_is_called :
    ¬ ∀ s : Session Nat Nat, Reaches sessionStep anyAction Session.initial s →
      s.calledReleased = [] := by
  intro hsilent
  let rsp : UrilProtocolMsg := { UrilProtocolMsg.zeroed with uniqueId := 1 }
  obtain ⟨s, hexec, hcalled⟩ : ∃ s : Session Nat Nat,
      exec sessionStep (fun _ _ => true) Session.initial
      [.client (.initContext none none), .client .initConnected,
        .client (.begin 1 (some 7) none), .client (.allocateId 0), .client (.acquireSlot 0),
        .client (.fill 0), .client (.fill 0), .client (.fill 0), .client (.send 0 true),
        .client .release, .client (.receive rsp), .call 0] = some s ∧
      s.calledReleased.length = 1 := ⟨_, rfl, rfl⟩
  have hrun : Reaches _ anyAction _ s := reaches_of_exec _ (fun _ _ _ => trivial) _ hexec
  simp [hsilent s hrun] at hcalled

end UnifiedRil.SilenceAfterRelease

import UnifiedRil.SynchronousCommand

/-!
What a synchronous call leaves behind. Nothing withdraws its parameters from the
table of pending operations but the response, and a wait that fails leaves with
the mutex locked; so much depends on the service, on `send` and on the wait.
-/

namespace UnifiedRil.SynchronousCleanup

open UnifiedRil.Library.Runs
open UnifiedRil.Protocol
open UnifiedRil.Client
open UnifiedRil.ClientRuns hiding State Action step
open UnifiedRil.ClientDispatch (Dispatching AnswersOnce dispatching_ready dispatching_step
  answersOnce answersOnce_sound)
open UnifiedRil.SynchronousCommand

/-- No call that has returned has a slot, is in use by `async_cb` or was used by
it after its return, and no mutex was held when it was destroyed. -/
structure LeavesNothing (s : State) : Prop where
  alive : s.crashed = false
  slot : ∀ k i, s.hasReturned k = true → s.client.holder i ≠ some k
  running : ∀ r, s.asyncCb = some r → s.hasReturned r.call = false
  untouched : ∀ k, .touched k true ∉ s.log
  released : ∀ k heldBy, .destroyed k heldBy ∈ s.log → heldBy = none

/-- An application has initialized the library, which did nothing else yet. -/
def State.ready (indCb defaultRespCb : Option Nat) : State :=
  { SynchronousCommand.State.initial with
    client := ClientDispatch.State.ready (indCb.map .application)
      (defaultRespCb.map .application) }

theorem ready_of_init (indCb defaultRespCb : Option Nat) :
    (step SynchronousCommand.State.initial (.client (.initContext (indCb.map .application)
      (defaultRespCb.map .application)))).bind (step · (.client .initConnected)) =
      some (State.ready indCb defaultRespCb) := by
  cases indCb <;> cases defaultRespCb <;> rfl

/-- Where `async_cb` is with the parameters of call `k`. -/
def stageOf (s : State) (k : Nat) : Option CbStage :=
  s.asyncCb.bind fun r => if r.call = k then some r.stage else none

/-- The service answers an id at most once and after it was sent, calls are
sent, and a wait ends by the signal, before which the thread of the call does
not come between the `unlock` of `async_cb` and its `signal`. -/
def ServedInTime (s : State) : Action → Prop
  | .client a => AnswersOnce s.client a ∧ ∀ k, a = .send k false → s.sync k = none
  | .initFails => False
  | .lock k => stageOf s k ≠ some .signal
  | .wake k timedOut => timedOut = false ∧ ∀ y, s.sync k = some y → y.signalled = true
  | .receive msg => AnswersOnce s.client (.receive msg)
  | _ => True

section Client

variable {c d : ClientRuns.State Callback ClientData} {k : Nat}

/-- A response was handled that was for call `k`. -/
def Responded (c : ClientRuns.State Callback ClientData) (k : Nat) : Prop :=
  ∃ r ∈ c.responses, r.owner = some k

/-- Call `k` got no slot. -/
def Refused (c : ClientRuns.State Callback ClientData) (k : Nat) : Prop :=
  ∃ call u, c.calls k = some call ∧ call.phase = .refused u

def SendFailed (c : ClientRuns.State Callback ClientData) (k : Nat) : Prop :=
  ∃ call u i, c.calls k = some call ∧ call.phase = .holding .sendFailed u i

theorem Responded.sent {dflt : Option Callback} (h : Dispatching dflt c)
    (hresponded : Responded c k) :
    ∃ call u i, c.calls k = some call ∧ call.phase = .holding .sent u i ∧
      ClientDispatch.Answered c u := by
  obtain ⟨r, hr, howner⟩ := hresponded
  obtain ⟨k', call, i, hcall, hphase, howner', -⟩ := h.answered r hr
  obtain rfl := Option.some.inj (howner.symm.trans howner')
  exact ⟨call, r.msg.uniqueId, i, hcall, hphase, r, hr, rfl⟩

theorem not_refused_of_responded {dflt : Option Callback} (h : Dispatching dflt c)
    (hresponded : Responded c k) : ¬ Refused c k := by
  obtain ⟨call, u, i, hcall, hphase, -⟩ := hresponded.sent h
  rintro ⟨call', u', hcall', hrefused⟩
  obtain rfl := Option.some.inj (hcall.symm.trans hcall')
  cases hphase.symm.trans hrefused

theorem holder_ne {dflt : Option Callback} (h : Dispatching dflt c)
    (hover : Refused c k ∨ Responded c k) (i : Fin urilMaxPendingOps) :
    c.holder i ≠ some k := by
  intro hheld
  cases h.slot i with
  | free hfree => cases hfree.symm.trans hheld
  | held k' call stage u hk' hbusy hcall hphase hopen hwritten =>
      obtain rfl := Option.some.inj (hk'.symm.trans hheld)
      rcases hover with ⟨call', u', hcall', hrefused⟩ | hresponded
      · obtain rfl := Option.some.inj (hcall.symm.trans hcall')
        cases hphase.symm.trans hrefused
      · obtain ⟨call', u', i', hcall', hsent, hanswered⟩ := hresponded.sent h
        obtain rfl := Option.some.inj (hcall.symm.trans hcall')
        cases hphase.symm.trans hsent
        exact hopen hanswered

theorem not_responded_before {dflt : Option Callback} (h : Dispatching dflt d)
    {r : Response Callback ClientData} (hresponses : d.responses = r :: c.responses)
    (howner : r.owner = some k) : ¬ Responded c k := by
  rintro ⟨r', hr', howner'⟩
  have hmem : r' ∈ d.responses := by
    rw [hresponses]
    exact List.mem_cons_of_mem r hr'
  obtain ⟨k₁, call₁, i₁, hcall₁, hphase₁, howner₁, -⟩ :=
    h.answered r (hresponses ▸ List.mem_cons_self)
  obtain ⟨k₂, call₂, i₂, hcall₂, hphase₂, howner₂, -⟩ := h.answered r' hmem
  obtain rfl := Option.some.inj (howner.symm.trans howner₁)
  obtain rfl := Option.some.inj (howner'.symm.trans howner₂)
  obtain rfl := Option.some.inj (hcall₁.symm.trans hcall₂)
  have hid : r.msg.uniqueId = r'.msg.uniqueId := by
    rw [hphase₁, Phase.holding.injEq] at hphase₂
    exact hphase₂.2.1
  have honce := h.once
  rw [hresponses, List.map_cons, List.nodup_cons] at honce
  exact honce.1 (hid ▸ List.mem_map_of_mem hr')

theorem Refused.step {a : ClientRuns.Action Callback ClientData} (hrefused : Refused c k)
    (hslots : Slots c) (hstep : ClientRuns.step c a = some d) : Refused d k := by
  obtain ⟨call, u, hcall, hphase⟩ := hrefused
  exact ⟨call, u, calls_step_of_final hslots hstep hcall (by rw [hphase]; rfl), hphase⟩

theorem SendFailed.before {a : ClientRuns.Action Callback ClientData} (hfailed : SendFailed d k)
    (hstep : ClientRuns.step c a = some d) : SendFailed c k ∨ a = .send k false := by
  obtain ⟨call, u, i, hcall, hphase⟩ := hfailed
  cases callsStep_of_step hstep with
  | same hnot hsend hcalls => exact .inl ⟨call, u, i, hcalls ▸ hcall, hphase⟩
  | begun hndl cb data ha hcalls =>
      rw [hcalls] at hcall
      obtain rfl | hk := eq_or_ne k c.nextCall
      · rw [Function.update_self] at hcall
        obtain rfl := Option.some.inj hcall
        cases hphase
      · rw [Function.update_of_ne hk] at hcall
        exact .inl ⟨call, u, i, hcall, hphase⟩
  | moved k' call' phase hnot hcall' hmoves hsend hcalls =>
      simp only [hcalls, ClientRuns.State.setPhase] at hcall
      obtain rfl | hk := eq_or_ne k k'
      · rw [Function.update_self] at hcall
        obtain rfl := Option.some.inj hcall
        exact .inr (hmoves.sendFailed hphase)
      · rw [Function.update_of_ne hk] at hcall
        exact .inl ⟨call, u, i, hcall, hphase⟩

end Client

/-- The call knows how its wait ends. -/
def isThrough : SyncPhase → Bool
  | .woken | .exiting _ | .returned _ => true
  | _ => false

/-- What is known of a call with which `async_cb` is at this stage. -/
structure Cleaning (c : ClientRuns.State Callback ClientData) (stage : Option CbStage)
    (k : Nat) (y : Sync) : Prop where
  own : argumentsOf c k = some (some .asyncCb, some (.params k))
  sends : ¬ SendFailed c k
  responded : stage.isSome = true → Responded c k
  caller : y.mutex = some .caller ↔ y.phase = .locked ∨ y.phase = .woken
  receiver : y.mutex = some .receiver ↔ stage = some .setCondition ∨ stage = some .unlock
  condition : y.condition = true → Responded c k ∧
    (stage = none ∨ stage = some .unlock ∨ stage = some .signal)
  seen : y.phase = .locked → y.condition = true → stage = none
  signalled : y.signalled = true → Responded c k ∧ stage = none
  through : isThrough y.phase = true → Refused c k ∨ Responded c k ∧ stage = none

def Harmless : Event → Prop
  | .destroyed _ heldBy => heldBy = none
  | .touched _ returned => returned = false

structure Clean (dflt : Option Callback) (s : State) : Prop where
  alive : s.crashed = false
  framed : Framed s
  dispatching : Dispatching dflt s.client
  call : ∀ k y, s.sync k = some y → Cleaning s.client (stageOf s k) k y
  params : ∀ k cb k', argumentsOf s.client k = some (cb, some (.params k')) →
    k' = k ∧ (s.sync k).isSome
  running : ∀ r, s.asyncCb = some r → (s.sync r.call).isSome
  log : ∀ e ∈ s.log, Harmless e

section Clean

variable {dflt : Option Callback} {s t : State} {k : Nat} {y y' : Sync}

theorem clean_ready (indCb defaultRespCb : Option Nat) :
    Clean (defaultRespCb.map .application) (State.ready indCb defaultRespCb) where
  alive := rfl
  framed := framed_initial
  dispatching := dispatching_ready _ _
  call k y hy := by cases hy
  params k cb k' hk := by cases hk
  running r hr := by cases hr
  log e he := by cases he

theorem slots_of_dispatching {c : ClientRuns.State Callback ClientData}
    (h : Dispatching dflt c) : Slots c where
  fresh := h.numbered.fresh
  busy i := by
    cases h.slot i with
    | free hfree hbusy => simp [hfree, hbusy]
    | held k call stage u hk hbusy => simp [hk, hbusy]
  holder i k hk := by
    cases h.slot i with
    | free hfree => cases hfree.symm.trans hk
    | held k' call stage u hk' hbusy hcall hphase =>
        obtain rfl := Option.some.inj (hk'.symm.trans hk)
        exact ⟨call, stage, u, hcall, hphase⟩

theorem stageOf_running {r : Running} (hr : s.asyncCb = some r) :
    stageOf s r.call = some r.stage := by
  simp [stageOf, hr]

theorem stageOf_eq_some {stage : CbStage} (h : stageOf s k = some stage) :
    ∃ r, s.asyncCb = some r ∧ r.call = k ∧ r.stage = stage := by
  obtain ⟨r, hr, h⟩ := Option.bind_eq_some_iff.mp h
  split at h
  · rename_i hk
    exact ⟨r, hr, hk, Option.some.inj h⟩
  · cases h

theorem Cleaning.isThrough_eq_false {stage : CbStage} (hdispatching : Dispatching dflt s.client)
    (h : Cleaning s.client (some stage) k y) : isThrough y.phase = false := by
  rw [Bool.eq_false_iff]
  intro hthrough
  rcases h.through hthrough with hrefused | ⟨-, hnone⟩
  · exact not_refused_of_responded hdispatching (h.responded rfl) hrefused
  · cases hnone

theorem Clean.running_live (h : Clean dflt s) {r : Running} (hr : s.asyncCb = some r) :
    ∃ y, s.sync r.call = some y ∧ isThrough y.phase = false := by
  obtain ⟨y, hy⟩ := Option.isSome_iff_exists.mp (h.running r hr)
  have hcall := h.call r.call y hy
  rw [stageOf_running hr] at hcall
  exact ⟨y, hy, hcall.isThrough_eq_false h.dispatching⟩

theorem isReturned_of_isThrough {phase : SyncPhase} (h : isThrough phase = false) :
    phase.isReturned = false := by
  cases phase with
  | returned ret => cases h
  | _ => rfl

theorem Clean.hasReturned_running (h : Clean dflt s) {r : Running} (hr : s.asyncCb = some r) :
    s.hasReturned r.call = false := by
  obtain ⟨y, hy, hlive⟩ := h.running_live hr
  simp [State.hasReturned, hy, isReturned_of_isThrough hlive]

theorem clean_caller (h : Clean dflt s) (hy : s.sync k = some y)
    (hcall : Cleaning s.client (stageOf s k) k y') (hclient : t.client = s.client)
    (hasync : t.asyncCb = s.asyncCb) (hsync : t.sync = Function.update s.sync k (some y'))
    (hframed : Framed t) (halive : t.crashed = s.crashed)
    (hlog : ∀ e ∈ t.log, Harmless e) : Clean dflt t := by
  have hstage : ∀ k', stageOf t k' = stageOf s k' := by
    intro k'
    rw [stageOf, hasync, stageOf]
  have hsome : ∀ k', (s.sync k').isSome → (t.sync k').isSome := by
    intro k' hk'
    rw [hsync]
    obtain rfl | hk := eq_or_ne k' k
    · simp
    · simpa [hk] using hk'
  constructor
  case alive => exact halive.trans h.alive
  case framed => exact hframed
  case dispatching => exact hclient ▸ h.dispatching
  case call =>
    intro k' z hz
    rw [hclient, hstage]
    obtain rfl | hk := eq_or_ne k' k
    · obtain rfl : y' = z := by simpa [hsync] using hz
      exact hcall
    · exact h.call k' z (by simpa [hsync, hk] using hz)
  case params =>
    rw [hclient]
    exact fun k' cb k'' hk' => (h.params k' cb k'' hk').imp_right (hsome k')
  case running => exact fun r hr => hsome r.call (h.running r (hasync ▸ hr))
  case log => exact hlog

theorem cleaning_asyncFailed (h : Cleaning s.client (stageOf s k) k y)
    (hphase : y.phase = .executing) (hrefused : Refused s.client k) :
    Cleaning s.client (stageOf s k) k { y with phase := .exiting (-1) } where
  own := h.own
  sends := h.sends
  responded := h.responded
  caller := by simpa [hphase] using h.caller
  receiver := h.receiver
  condition := h.condition
  seen hlocked := by cases hlocked
  signalled := h.signalled
  through _ := .inl hrefused

theorem cleaning_asyncSent (h : Cleaning s.client (stageOf s k) k y)
    (hphase : y.phase = .executing) :
    Cleaning s.client (stageOf s k) k { y with phase := .accepted } where
  own := h.own
  sends := h.sends
  responded := h.responded
  caller := by simpa [hphase] using h.caller
  receiver := h.receiver
  condition := h.condition
  seen hlocked := by cases hlocked
  signalled := h.signalled
  through hthrough := by cases hthrough

/-- What `async_cb` has set is seen by a thread that comes after its `signal`. -/
theorem cleaning_lock (h : Cleaning s.client (stageOf s k) k y) (hmutex : y.mutex = none)
    (hafter : stageOf s k ≠ some .signal) :
    Cleaning s.client (stageOf s k) k { y with phase := .locked, mutex := some .caller } := by
  have hfree : ¬ (stageOf s k = some .setCondition ∨ stageOf s k = some .unlock) := by
    rw [← h.receiver, hmutex]
    simp
  constructor
  case own => exact h.own
  case sends => exact h.sends
  case responded => exact h.responded
  case caller => simp
  case receiver => simpa using hfree
  case condition => exact h.condition
  case seen =>
    intro _ hcondition
    rcases (h.condition hcondition).2 with hnone | hunlock | hsignal
    · exact hnone
    · exact absurd (.inr hunlock) hfree
    · exact absurd hsignal hafter
  case signalled => exact h.signalled
  case through => exact fun hthrough => by cases hthrough

theorem cleaning_testSet (h : Cleaning s.client (stageOf s k) k y) (hphase : y.phase = .locked)
    (hcondition : y.condition = true) :
    Cleaning s.client (stageOf s k) k { y with phase := .woken } where
  own := h.own
  sends := h.sends
  responded := h.responded
  caller := by simpa [hphase] using h.caller
  receiver := h.receiver
  condition := h.condition
  seen hlocked := by cases hlocked
  signalled := h.signalled
  through _ := .inr ⟨(h.condition hcondition).1, h.seen hphase hcondition⟩

theorem Cleaning.not_receiver (h : Cleaning s.client (stageOf s k) k y)
    (hphase : y.phase = .locked ∨ y.phase = .woken) :
    ¬ (stageOf s k = some .setCondition ∨ stageOf s k = some .unlock) := by
  rw [← h.receiver, h.caller.mpr hphase]
  simp

theorem cleaning_testClear (h : Cleaning s.client (stageOf s k) k y)
    (hphase : y.phase = .locked) :
    Cleaning s.client (stageOf s k) k { y with phase := .waiting, mutex := none } where
  own := h.own
  sends := h.sends
  responded := h.responded
  caller := by simp
  receiver := by simpa using h.not_receiver (.inl hphase)
  condition := h.condition
  seen hlocked := by cases hlocked
  signalled := h.signalled
  through hthrough := by cases hthrough

theorem cleaning_wake (h : Cleaning s.client (stageOf s k) k y) (hsignalled : y.signalled = true) :
    Cleaning s.client (stageOf s k) k { y with phase := .woken, mutex := some .caller } where
  own := h.own
  sends := h.sends
  responded := h.responded
  caller := by simp
  receiver := by simp [(h.signalled hsignalled).2]
  condition := h.condition
  seen hlocked := by cases hlocked
  signalled := h.signalled
  through _ := .inr (h.signalled hsignalled)

theorem cleaning_unlock (h : Cleaning s.client (stageOf s k) k y) (hphase : y.phase = .woken)
    (ret : Int) :
    Cleaning s.client (stageOf s k) k { y with phase := .exiting ret, mutex := none } where
  own := h.own
  sends := h.sends
  responded := h.responded
  caller := by simp
  receiver := by simpa using h.not_receiver (.inr hphase)
  condition := h.condition
  seen hlocked := by cases hlocked
  signalled := h.signalled
  through _ := h.through (by rw [hphase]; rfl)

/-- Nobody has the mutex when it is destroyed. -/
theorem Cleaning.mutex_exiting (h : Cleaning s.client (stageOf s k) k y)
    (hdispatching : Dispatching dflt s.client) {ret : Int} (hphase : y.phase = .exiting ret) :
    y.mutex = none := by
  cases hheld : y.mutex with
  | none => rfl
  | some thread =>
      cases thread with
      | caller => simp [h.caller, hphase] at hheld
      | receiver =>
          have hstage := h.receiver.mp hheld
          rcases h.through (by rw [hphase]; rfl) with hrefused | ⟨-, hnone⟩
          · have hresponded := h.responded (by rcases hstage with h | h <;> rw [h] <;> rfl)
            exact absurd hrefused (not_refused_of_responded hdispatching hresponded)
          · simp [hnone] at hstage

theorem cleaning_destroy (h : Cleaning s.client (stageOf s k) k y) {ret : Int}
    (hphase : y.phase = .exiting ret) :
    Cleaning s.client (stageOf s k) k { y with phase := .returned ret } where
  own := h.own
  sends := h.sends
  responded := h.responded
  caller := by simpa [hphase] using h.caller
  receiver := h.receiver
  condition := h.condition
  seen hlocked := by cases hlocked
  signalled := h.signalled
  through _ := h.through (by rw [hphase]; rfl)

theorem cleaning_statement {r : Running} {stage : Option CbStage}
    (h : Cleaning s.client (some r.stage) k y) (hlive : isThrough y.phase = false)
    (hstatement : asyncCbStatement r y = some (y', stage)) :
    Cleaning s.client stage k y' := by
  have hresponded := h.responded rfl
  have hnotWoken : y.phase ≠ .woken := by
    rintro hwoken
    rw [hwoken] at hlive
    cases hlive
  have hnotThrough : isThrough y.phase ≠ true := Bool.eq_false_iff.mp hlive
  unfold asyncCbStatement at hstatement
  cases hstage : r.stage <;> simp only [hstage, Option.ite_none_right_eq_some,
    Option.some.injEq, Prod.mk.injEq] at h hstatement
  case copy =>
    obtain ⟨rfl, rfl⟩ := hstatement
    have hunset : y.condition ≠ true := fun hset => by simpa using (h.condition hset).2
    refine ⟨h.own, h.sends, fun _ => hresponded, h.caller, ?_, ?_, ?_, ?_, ?_⟩
    · simpa using h.receiver
    · exact fun hset => absurd hset hunset
    · exact fun _ hset => absurd hset hunset
    · exact fun hset => by simpa using (h.signalled hset).2
    · exact fun hthrough => absurd hthrough hnotThrough
  case lock =>
    obtain ⟨hfree, rfl, rfl⟩ := hstatement
    have hnone : y.mutex = none :=
      hfree.resolve_right (by simp [isReturned_of_isThrough hlive])
    have hnotLocked : y.phase ≠ .locked := by
      intro hlocked
      have hheld := h.caller.mpr (.inl hlocked)
      simp [hnone] at hheld
    refine ⟨h.own, h.sends, fun _ => hresponded, ?_, ?_, ?_, ?_, ?_, ?_⟩
    · simp [hnotLocked, hnotWoken]
    · simp
    · exact fun hset => by simpa using (h.condition hset).2
    · exact fun hlocked => absurd hlocked hnotLocked
    · exact fun hset => by simpa using (h.signalled hset).2
    · exact fun hthrough => absurd hthrough hnotThrough
  case setCondition =>
    obtain ⟨rfl, rfl⟩ := hstatement
    have hheld : y.mutex = some .receiver := h.receiver.mpr (.inl rfl)
    have hnotLocked : y.phase ≠ .locked := by
      intro hlocked
      cases hheld.symm.trans (h.caller.mpr (.inl hlocked))
    refine ⟨h.own, h.sends, fun _ => hresponded, h.caller, ?_, ?_, ?_, ?_, ?_⟩
    · simp [hheld]
    · exact fun _ => ⟨hresponded, .inr (.inl rfl)⟩
    · exact fun hlocked => absurd hlocked hnotLocked
    · exact fun hset => by simpa using (h.signalled hset).2
    · exact fun hthrough => absurd hthrough hnotThrough
  case unlock =>
    obtain ⟨rfl, rfl⟩ := hstatement
    have hheld : y.mutex = some .receiver := h.receiver.mpr (.inr rfl)
    have hnotLocked : y.phase ≠ .locked := by
      intro hlocked
      cases hheld.symm.trans (h.caller.mpr (.inl hlocked))
    refine ⟨h.own, h.sends, fun _ => hresponded, ?_, ?_, ?_, ?_, ?_, ?_⟩
    · simp [hnotLocked, hnotWoken]
    · simp
    · exact fun _ => ⟨hresponded, .inr (.inr rfl)⟩
    · exact fun hlocked => absurd hlocked hnotLocked
    · exact fun hset => by simpa using (h.signalled hset).2
    · exact fun hthrough => absurd hthrough hnotThrough
  case signal =>
    obtain ⟨rfl, rfl⟩ := hstatement
    refine ⟨h.own, h.sends, by simp, h.caller, ?_, ?_, fun _ _ => rfl, ?_, ?_⟩
    · simpa using h.receiver
    · exact fun hset => ⟨(h.condition hset).1, .inl rfl⟩
    · exact fun _ => ⟨hresponded, rfl⟩
    · exact fun hthrough => absurd hthrough hnotThrough

theorem clean_runAsyncCb (h : Clean dflt s) {r : Running} {stage : Option CbStage}
    (hr : s.asyncCb = some r) (hk : s.occupant r.call = some k) (hy : s.sync k = some y)
    (hstatement : asyncCbStatement r y = some (y', stage))
    (hframed : Framed { s.setSync k y' with
      asyncCb := stage.map fun stage => { r with stage := stage }
      log := .touched r.call (s.hasReturned r.call) :: s.log }) :
    Clean dflt { s.setSync k y' with
      asyncCb := stage.map fun stage => { r with stage := stage }
      log := .touched r.call (s.hasReturned r.call) :: s.log } := by
  obtain ⟨z, hz, hlive⟩ := h.running_live hr
  obtain rfl := h.framed.occupant hk (h.hasReturned_running hr)
  obtain rfl := Option.some.inj (hz.symm.trans hy)
  have hcall := h.call r.call z hy
  rw [stageOf_running hr] at hcall
  constructor
  case alive => exact h.alive
  case framed => exact hframed
  case dispatching => exact h.dispatching
  case call =>
    intro k z' hz'
    obtain rfl | hne := eq_or_ne k r.call
    · obtain rfl : y' = z' := by simpa [State.setSync] using hz'
      have hstage : stageOf { s.setSync r.call y' with
          asyncCb := stage.map fun stage => { r with stage := stage }
          log := .touched r.call (s.hasReturned r.call) :: s.log } r.call = stage := by
        cases stage <;> simp [stageOf]
      rw [hstage]
      exact cleaning_statement hcall hlive hstatement
    · have hold := h.call k z' (by simpa [State.setSync, hne] using hz')
      have hbefore : stageOf s k = none := by simp [stageOf, hr, Ne.symm hne]
      have hafter : stageOf { s.setSync r.call y' with
          asyncCb := stage.map fun stage => { r with stage := stage }
          log := .touched r.call (s.hasReturned r.call) :: s.log } k = none := by
        cases stage <;> simp [stageOf, Ne.symm hne]
      rw [hafter, ← hbefore]
      exact hold
  case params =>
    intro k cb k' hk
    refine (h.params k cb k' hk).imp_right fun hsome => ?_
    obtain rfl | hne := eq_or_ne k r.call
    · simp [State.setSync]
    · simpa [State.setSync, hne] using hsome
  case running =>
    intro r' hr'
    obtain ⟨stage', -, rfl⟩ := Option.map_eq_some_iff.mp hr'
    simp [State.setSync]
  case log =>
    intro e he
    rcases List.mem_cons.mp he with rfl | he
    · exact h.hasReturned_running hr
    · exact h.log e he

theorem Cleaning.client {c d : ClientRuns.State Callback ClientData} {stage : Option CbStage}
    (h : Cleaning c stage k y) (hargs : argumentsOf d k = argumentsOf c k)
    (hsends : ¬ SendFailed d k) (hresponded : Responded c k → Responded d k)
    (hrefused : Refused c k → Refused d k) : Cleaning d stage k y where
  own := hargs.trans h.own
  sends := hsends
  responded hstage := hresponded (h.responded hstage)
  caller := h.caller
  receiver := h.receiver
  condition hset := (h.condition hset).imp_left hresponded
  seen := h.seen
  signalled hset := (h.signalled hset).imp_left hresponded
  through hthrough := (h.through hthrough).imp hrefused (And.imp_left hresponded)

theorem arguments_fresh {c : ClientRuns.State Callback ClientData} (h : Dispatching dflt c) :
    argumentsOf c c.nextCall = none := by
  rw [argumentsOf, h.numbered.fresh _ le_rfl]
  rfl

theorem Clean.sync_ne (h : Clean dflt s) (hy : s.sync k = some y) : k ≠ s.client.nextCall := by
  rintro rfl
  cases (arguments_fresh h.dispatching).symm.trans (h.call _ y hy).own

theorem Clean.stageOf_fresh (h : Clean dflt s) : stageOf s s.client.nextCall = none := by
  cases hstage : stageOf s s.client.nextCall with
  | none => rfl
  | some stage =>
      obtain ⟨r, hr, hk, -⟩ := stageOf_eq_some hstage
      obtain ⟨y, hy⟩ := Option.isSome_iff_exists.mp (h.running r hr)
      exact absurd hk (h.sync_ne hy)

theorem Clean.library (h : Clean dflt s) {a : ClientRuns.Action Callback ClientData}
    {c : ClientRuns.State Callback ClientData}
    (hsends : ∀ k, a = .send k false → s.sync k = none)
    (hstep : ClientRuns.step s.client a = some c) (hy : s.sync k = some y)
    (hresponses : ∀ r ∈ s.client.responses, r ∈ c.responses) :
    Cleaning c (stageOf s k) k y := by
  have hcall := h.call k y hy
  refine hcall.client ?_ ?_ ?_ ?_
  · rcases arguments_step hstep with ⟨hndl, cb, data, -, hargs⟩ | ⟨-, hargs⟩
    · rw [hargs, Function.update_of_ne (h.sync_ne hy)]
    · rw [hargs]
  · intro hfailed
    rcases hfailed.before hstep with hbefore | rfl
    · exact hcall.sends hbefore
    · cases (hsends k rfl).symm.trans hy
  · rintro ⟨r, hr, howner⟩
    exact ⟨r, hresponses r hr, howner⟩
  · exact fun hrefused => hrefused.step (slots_of_dispatching h.dispatching) hstep

theorem clean_client (h : Clean dflt s) {a : ClientRuns.Action Callback ClientData}
    {c : ClientRuns.State Callback ClientData} (happ : isApplicationStep a = true)
    (hallowed : AnswersOnce s.client a) (hsends : ∀ k, a = .send k false → s.sync k = none)
    (hstep : ClientRuns.step s.client a = some c) : Clean dflt { s with client := c } where
  alive := h.alive
  framed := h.framed
  dispatching := dispatching_step h.dispatching hallowed hstep
  call k y hy := by
    refine h.library hsends hstep hy ?_
    rw [responses_step hstep (by rintro msg rfl; cases happ)]
    exact fun _ => id
  params k cb k' hk := by
    rcases arguments_step hstep with ⟨hndl, cb', data, rfl, hargs⟩ | ⟨-, hargs⟩
    · rw [hargs] at hk
      obtain rfl | hne := eq_or_ne k s.client.nextCall
      · rw [Function.update_self] at hk
        obtain ⟨-, rfl⟩ := Prod.mk.inj (Option.some.inj hk)
        simp [isApplicationStep] at happ
      · rw [Function.update_of_ne hne] at hk
        exact h.params k cb k' hk
    · exact h.params k cb k' (hargs ▸ hk)
  running := h.running
  log := h.log

theorem cleaning_begun {c d : ClientRuns.State Callback ClientData} {hndl : UInt32}
    (hstep : ClientRuns.step c
      (.begin hndl (some .asyncCb) (some (.params c.nextCall))) = some d)
    (place respLen : Nat) : Cleaning d none c.nextCall (.begun place respLen) where
  own := by
    rw [step_begin hstep]
    simp [argumentsOf]
  sends := by
    rw [step_begin hstep]
    rintro ⟨call, u, i, hcall, hphase⟩
    simp only [Function.update_self, Option.some.injEq] at hcall
    rw [← hcall] at hphase
    cases hphase
  responded hstage := by cases hstage
  caller := by simp [Sync.begun]
  receiver := by simp [Sync.begun]
  condition hset := by cases hset
  seen hlocked := by cases hlocked
  signalled hset := by cases hset
  through hthrough := by cases hthrough

theorem clean_begin (h : Clean dflt s) {hndl : UInt32} {respLen place : Nat}
    {c : ClientRuns.State Callback ClientData}
    (hstep : ClientRuns.step s.client
      (.begin hndl (some .asyncCb) (some (.params s.client.nextCall))) = some c)
    (hframed : Framed { s with
      client := c
      sync := Function.update s.sync s.client.nextCall (some (.begun place respLen))
      frames := Function.update s.frames place (some s.client.nextCall) }) :
    Clean dflt { s with
      client := c
      sync := Function.update s.sync s.client.nextCall (some (.begun place respLen))
      frames := Function.update s.frames place (some s.client.nextCall) } where
  alive := h.alive
  framed := hframed
  dispatching := dispatching_step h.dispatching (by exact trivial) hstep
  call k y hy := by
    change Cleaning c (stageOf s k) k y
    obtain rfl | hk := eq_or_ne k s.client.nextCall
    · obtain rfl : _ = y := by simpa using hy
      rw [h.stageOf_fresh]
      exact cleaning_begun hstep place respLen
    · refine h.library (by simp) hstep (by simpa [hk] using hy) ?_
      rw [responses_step hstep (by simp)]
      exact fun _ => id
  params k cb k' hk := by
    rcases arguments_step hstep with ⟨hndl', cb', data, ha, hargs⟩ | ⟨hnot, -⟩
    · rw [hargs] at hk
      obtain rfl | hne := eq_or_ne k s.client.nextCall
      · obtain ⟨-, rfl, rfl⟩ := ClientRuns.Action.begin.inj ha
        rw [Function.update_self] at hk
        obtain ⟨-, hdata⟩ := Prod.mk.inj (Option.some.inj hk)
        obtain rfl := ClientData.params.inj (Option.some.inj hdata)
        simp
      · rw [Function.update_of_ne hne] at hk
        simpa [hne] using h.params k cb k' hk
    · exact absurd rfl (hnot _ _ _)
  running r hr := by
    obtain ⟨y, hy⟩ := Option.isSome_iff_exists.mp (h.running r hr)
    simp [h.sync_ne hy, hy]
  log := h.log

theorem Cleaning.handed {c d : ClientRuns.State Callback ClientData}
    (h : Cleaning c none k y) (hlater : Cleaning d none k y) (hd : Dispatching dflt d)
    (hrefused : Refused c k → Refused d k) (hnot : ¬ Responded c k)
    (hresponded : Responded d k) :
    Cleaning d (some .copy) k { y with handed := true } where
  own := hlater.own
  sends := hlater.sends
  responded _ := hresponded
  caller := hlater.caller
  receiver := by simpa using hlater.receiver
  condition hset := absurd (h.condition hset).1 hnot
  seen _ hset := absurd (h.condition hset).1 hnot
  signalled hset := absurd (h.signalled hset).1 hnot
  through hthrough := by
    rcases h.through hthrough with hbefore | ⟨hbefore, -⟩
    · exact absurd (hrefused hbefore) (not_refused_of_responded hd hresponded)
    · exact absurd hbefore hnot

theorem clean_received (h : Clean dflt s) {msg : UrilProtocolMsg}
    {c : ClientRuns.State Callback ClientData} (hallowed : AnswersOnce s.client (.receive msg))
    (hstep : ClientRuns.step s.client (.receive msg) = some c)
    (hresponses : ∀ r ∈ s.client.responses, r ∈ c.responses) :
    Clean dflt { s with client := c } where
  alive := h.alive
  framed := h.framed
  dispatching := dispatching_step h.dispatching hallowed hstep
  call k y hy := h.library (by simp) hstep hy hresponses
  params k cb k' hk := by
    rcases arguments_step hstep with ⟨hndl, cb', data, ha, -⟩ | ⟨-, hargs⟩
    · cases ha
    · exact h.params k cb k' (hargs ▸ hk)
  running := h.running
  log := h.log

theorem clean_handed (h : Clean dflt s) (hidle : s.asyncCb = none) {msg : UrilProtocolMsg}
    {c : ClientRuns.State Callback ClientData} {r : Response Callback ClientData}
    (hreceived : Clean dflt { s with client := c })
    (hresponses : c.responses = r :: s.client.responses) (howner : r.owner = some k)
    (hy : s.sync k = some y)
    (hstep : ClientRuns.step s.client (.receive msg) = some c)
    (hframed : Framed { s with
      client := c
      sync := Function.update s.sync k ((s.sync k).map fun y => { y with handed := true })
      asyncCb := some ⟨k, .copy, msg.payload⟩ }) :
    Clean dflt { s with
      client := c
      sync := Function.update s.sync k ((s.sync k).map fun y => { y with handed := true })
      asyncCb := some ⟨k, .copy, msg.payload⟩ } := by
  have hnone : ∀ k', stageOf s k' = none := by simp [stageOf, hidle]
  constructor
  case alive => exact h.alive
  case framed => exact hframed
  case dispatching => exact hreceived.dispatching
  case call =>
    intro k' z hz
    obtain rfl | hk := eq_or_ne k' k
    · obtain rfl : { y with handed := true } = z := by simpa [hy] using hz
      have hbefore := h.call k' y hy
      have hlater := hreceived.call k' y hy
      rw [hnone] at hbefore
      rw [show stageOf { s with client := c } k' = none from hnone k'] at hlater
      have hstage : stageOf { s with
          client := c
          sync := Function.update s.sync k' ((s.sync k').map fun y => { y with handed := true })
          asyncCb := some ⟨k', .copy, msg.payload⟩ } k' = some .copy := by simp [stageOf]
      rw [hstage]
      refine hbefore.handed hlater hreceived.dispatching ?_
        (not_responded_before hreceived.dispatching hresponses howner)
        ⟨r, hresponses ▸ List.mem_cons_self, howner⟩
      exact fun hrefused => hrefused.step (slots_of_dispatching h.dispatching) hstep
    · have hlater := hreceived.call k' z (by simpa [hk] using hz)
      rw [show stageOf { s with client := c } k' = none from hnone k'] at hlater
      have hstage : stageOf { s with
          client := c
          sync := Function.update s.sync k ((s.sync k).map fun y => { y with handed := true })
          asyncCb := some ⟨k, .copy, msg.payload⟩ } k' = none := by
        simp [stageOf, Ne.symm hk]
      rw [hstage]
      exact hlater
  case params =>
    intro k' cb k'' hk'
    refine (hreceived.params k' cb k'' hk').imp_right fun hsome => ?_
    obtain rfl | hne := eq_or_ne k' k
    · simp [hy]
    · simpa [hne] using hsome
  case running =>
    intro r' hr'
    obtain rfl := Option.some.inj hr'
    simp [hy]
  case log => exact h.log

theorem clean_receive (h : Clean dflt s) (hidle : s.asyncCb = none) {msg : UrilProtocolMsg}
    {c : ClientRuns.State Callback ClientData} (hallowed : AnswersOnce s.client (.receive msg))
    (hstep : ClientRuns.step s.client (.receive msg) = some c)
    (hframed : Framed { startAsyncCb s msg with client := c }) :
    Clean dflt { startAsyncCb s msg with client := c } := by
  obtain hind | hind := eq_or_ne msg.isIndication 0
  · have hdispatching := dispatching_step h.dispatching hallowed hstep
    obtain ⟨k, cb, data, r, hargs, howner, rfl, hresponses, htarget⟩ :=
      response_recorded hdispatching hind hstep
    have hreceived := clean_received h hallowed hstep (by
      rw [hresponses]
      exact fun r' hr' => List.mem_cons_of_mem r hr')
    rcases startAsyncCb_cases s r.msg with ⟨k', hparams⟩ | hsame
    · -- the parameters are those of the call that the response is for
      rw [hparams] at htarget
      obtain ⟨cb', -, heq⟩ := Option.map_eq_some_iff.mp htarget.symm
      obtain ⟨-, rfl⟩ := Prod.mk.inj heq
      obtain ⟨rfl, hsome⟩ := hreceived.params k cb k' hargs
      obtain ⟨y, hy⟩ := Option.isSome_iff_exists.mp hsome
      simp only [startAsyncCb, hparams] at hframed ⊢
      exact clean_handed h hidle hreceived hresponses howner hy hstep hframed
    · rw [hsame]
      exact hreceived
  · have hnone : ∀ k, receiveTarget s msg ≠ some (.asyncCb, some (.params k)) :=
      fun k htarget => hind (receiveTarget_data htarget).1
    rw [startAsyncCb_of_ne hnone]
    refine clean_received h hallowed hstep ?_
    rw [step_indication hind hstep]
    exact fun _ => id

theorem clean_step {a : Action} (h : Clean dflt s) (hallowed : ServedInTime s a)
    (hstep : step s a = some t) : Clean dflt t := by
  have hframed := framed_step h.framed hstep
  cases performed_of_step hstep with
  | client a c happ hc => exact clean_client h happ hallowed.1 hallowed.2 hc
  | begin hndl respLen place c hfree hc => exact clean_begin h hc hframed
  | initFails => exact hallowed.elim
  | asyncFailed k y c hy hc hphase hfailed =>
      have hcall := h.call k y hy
      rcases hfailed with ⟨u, hrefused⟩ | ⟨u, i, hfailed⟩
      · exact clean_caller h hy (cleaning_asyncFailed hcall hphase ⟨c, u, hc, hrefused⟩)
          rfl rfl rfl hframed rfl h.log
      · exact absurd ⟨c, u, i, hc, hfailed⟩ hcall.sends
  | asyncSent k y hy hphase =>
      exact clean_caller h hy (cleaning_asyncSent (h.call k y hy) hphase)
        rfl rfl rfl hframed rfl h.log
  | lock k y hy hphase hmutex =>
      exact clean_caller h hy (cleaning_lock (h.call k y hy) hmutex hallowed)
        rfl rfl rfl hframed rfl h.log
  | testSet k y hy hphase hcondition =>
      exact clean_caller h hy (cleaning_testSet (h.call k y hy) hphase hcondition)
        rfl rfl rfl hframed rfl h.log
  | testClear k y hy hphase =>
      exact clean_caller h hy (cleaning_testClear (h.call k y hy) hphase)
        rfl rfl rfl hframed rfl h.log
  | timeOut k y hy hphase => cases hallowed.1
  | wake k y hy hphase hmutex =>
      exact clean_caller h hy (cleaning_wake (h.call k y hy) (hallowed.2 y hy))
        rfl rfl rfl hframed rfl h.log
  | unlock k y hy hphase =>
      exact clean_caller h hy (cleaning_unlock (h.call k y hy) hphase _)
        rfl rfl rfl hframed rfl h.log
  | destroy k y ret hy hphase =>
      refine clean_caller h hy (cleaning_destroy (h.call k y hy) hphase)
        rfl rfl rfl hframed rfl ?_
      intro e he
      rcases List.mem_cons.mp he with rfl | he
      · exact (h.call k y hy).mutex_exiting h.dispatching hphase
      · exact h.log e he
  | receive msg c hidle hc => exact clean_receive h hidle hallowed hc hframed
  | runAsyncCb r k y y' stage hr hk hy hstatement =>
      exact clean_runAsyncCb h hr hk hy hstatement hframed

theorem leavesNothing_of_clean (h : Clean dflt s) : LeavesNothing s where
  alive := h.alive
  slot k i hreturned := by
    obtain ⟨y, hy, hphase⟩ := (Option.any_eq_true _ _).mp hreturned
    have hthrough : isThrough y.phase = true := by
      rw [← Bool.not_eq_false]
      intro hnot
      cases (isReturned_of_isThrough hnot).symm.trans hphase
    exact holder_ne h.dispatching
      (((h.call k y hy).through hthrough).imp_right And.left) i
  running r hr := h.hasReturned_running hr
  untouched k hk := by
    have hharmless : true = false := h.log _ hk
    cases hharmless
  released k heldBy hk := h.log _ hk

end Clean

/-- Along runs in which the service answers in time, calls are sent and waits
end by the signal, a synchronous call leaves nothing behind. -/
theorem leaves_nothing_behind {indCb defaultRespCb : Option Nat} {s : State}
    (hrun : Reaches step ServedInTime (State.ready indCb defaultRespCb) s) : LeavesNothing s :=
  leavesNothing_of_clean <| hrun.invariant (Clean (defaultRespCb.map .application))
    (clean_ready indCb defaultRespCb) fun _ _ _ h hallowed hstep => clean_step h hallowed hstep

/-- `ServedInTime` as a test. -/
def servedInTime (s : State) : Action → Bool
  | .client (.send k false) => (s.sync k).isNone
  | .client a => answersOnce s.client a
  | .initFails => false
  | .lock k => stageOf s k != some .signal
  | .wake k timedOut => !timedOut && (s.sync k).all (·.signalled)
  | .receive msg => answersOnce s.client (.receive msg)
  | _ => true

theorem servedInTime_sound (s : State) (a : Action) (h : servedInTime s a = true) :
    ServedInTime s a := by
  cases a with
  | client a =>
      cases a with
      | send k ok =>
          cases ok with
          | false =>
              refine ⟨trivial, ?_⟩
              rintro k' ha
              obtain ⟨rfl, -⟩ := ClientRuns.Action.send.inj ha
              simpa [servedInTime] using h
          | true => exact ⟨trivial, by simp⟩
      | _ => exact ⟨answersOnce_sound s.client _ h, by simp⟩
  | initFails => cases h
  | lock k => simpa [servedInTime, ServedInTime] using h
  | wake k timedOut => simpa [servedInTime, ServedInTime, Option.all_eq_true] using h
  | receive msg => exact answersOnce_sound s.client (.receive msg) h
  | begin _ _ _ | asyncReturned _ | test _ | unlock _ | destroy _ | runAsyncCb => trivial

def initLibrary : List Action := [.client (.initContext none none), .client .initConnected]

/-- Call `k` has this place of the stack and sends its request. -/
def sendSync (k place : Nat) : List Action :=
  [.begin 1 8 place, .client (.allocateId k), .client (.acquireSlot k), .client (.fill k),
    .client (.fill k), .client (.fill k), .client (.send k true), .asyncReturned k]

/-- The message is received, and `async_cb` runs to its end. -/
def respond (msg : UrilProtocolMsg) : List Action :=
  [.receive msg, .runAsyncCb, .runAsyncCb, .runAsyncCb, .runAsyncCb, .runAsyncCb]

/-- A response comes during the wait, and that of the next call, which has the
place of the first, before the wait. -/
theorem leaves_nothing_behind_sample :
    ∃ s : State, Reaches step ServedInTime (State.ready none none) s ∧
      (s.sync 0).map (·.phase) = some (.returned 0) ∧
      (s.sync 1).map (·.phase) = some (.returned 0) ∧ s.frames 0 = some 1 ∧
      LeavesNothing s := by
  obtain ⟨s, hrun, hcheck⟩ := exists_reaches_of_exec step servedInTime servedInTime_sound
    (State.ready none none)
    (sendSync 0 0 ++ [.lock 0, .test 0] ++ respond { UrilProtocolMsg.zeroed with uniqueId := 1 } ++
      [.wake 0 false, .unlock 0, .destroy 0] ++ sendSync 1 0 ++
      respond { UrilProtocolMsg.zeroed with uniqueId := 2 } ++
      [.lock 1, .test 1, .unlock 1, .destroy 1])
    (fun s => (s.sync 0).map (·.phase) = some (.returned 0) ∧
      (s.sync 1).map (·.phase) = some (.returned 0) ∧ s.frames 0 = some 1) (by decide)
  obtain ⟨hfirst, hsecond, hplace⟩ := of_decide_eq_true hcheck
  exact ⟨s, hrun, hfirst, hsecond, hplace, leaves_nothing_behind hrun⟩

/-- A call whose wait times out destroys the mutex that it holds, and its slot
stays busy. -/
theorem timeout_leaves_slot_busy :
    ¬ ∀ s : State, Reaches step anyAction SynchronousCommand.State.initial s →
      LeavesNothing s := by
  intro hclean
  obtain ⟨s, hrun, hcheck⟩ := exists_run step SynchronousCommand.State.initial
    (initLibrary ++ sendSync 0 0 ++ [.lock 0, .test 0, .wake 0 true, .destroy 0])
    (fun s => s.log = [.destroyed 0 (some .caller)] ∧ s.hasReturned 0 = true ∧
      s.client.holder ⟨0, by decide⟩ = some 0) (by decide)
  obtain ⟨-, hreturned, hheld⟩ := of_decide_eq_true hcheck
  exact (hclean s hrun).slot 0 _ hreturned hheld

end UnifiedRil.SynchronousCleanup

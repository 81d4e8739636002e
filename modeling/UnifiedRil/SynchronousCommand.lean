import UnifiedRil.ClientDispatch

/-!
`uril_client_execute_command_sync`, called by any number of threads, next to
the receive thread, which runs `async_cb` statement by statement. The locals of
a call are at a place of the stack that a later call can have again; `async_cb`
uses what is at the place of the parameters it was given. A wait may end without
a signal.
-/

namespace UnifiedRil.SynchronousCommand

open UnifiedRil.Library.Runs
open UnifiedRil.Protocol
open UnifiedRil.Client
open UnifiedRil.ClientRuns

inductive Callback
  | asyncCb
  | application (f : Nat)
  deriving DecidableEq

inductive ClientData
  /-- `&params` of synchronous call `k` -/
  | params (k : Nat)
  | application (d : Nat)
  deriving DecidableEq

inductive Thread
  | caller
  | receiver
  deriving DecidableEq

/-- Where a call of `uril_client_execute_command_sync` is. -/
inductive SyncPhase
  | executing
  /-- before `sync_mutex.lock` -/
  | accepted
  /-- before the test of `params.condition` -/
  | locked
  | waiting
  /-- before the second test of `params.condition` -/
  | woken
  | exiting (ret : Int)
  | returned (ret : Int)
  deriving DecidableEq

def SyncPhase.isReturned : SyncPhase → Bool
  | .returned _ => true
  | _ => false

/-- The locals of a synchronous call that `struct async_params` refers to. -/
structure Sync where
  /-- where they are on the stack -/
  place : Nat
  phase : SyncPhase
  success : Bool
  condition : Bool
  mutex : Option Thread
  resp : List UInt8
  respLen : Nat
  /-- `async_cb` was called with these parameters -/
  handed : Bool
  /-- the condition variable was signalled during the wait -/
  signalled : Bool
  deriving DecidableEq

def Sync.begun (place respLen : Nat) : Sync :=
  { place := place, phase := .executing, success := false, condition := false, mutex := none
    resp := [], respLen := respLen, handed := false, signalled := false }

/-- The next statement of `async_cb`. -/
inductive CbStage
  | copy
  | lock
  | setCondition
  | unlock
  | signal
  deriving DecidableEq

/-- The receive thread is in `async_cb` with `&params` of call `call`. -/
structure Running where
  call : Nat
  stage : CbStage
  payload : Vector UInt8 maxUrilPayloadSize

inductive Event
  | destroyed (k : Nat) (heldBy : Option Thread)
  /-- a statement of `async_cb` went to the parameters of a call -/
  | touched (k : Nat) (returned : Bool)
  deriving DecidableEq

structure State where
  client : ClientRuns.State Callback ClientData
  sync : Nat → Option Sync
  /-- the last call that had a place of the stack -/
  frames : Nat → Option Nat
  asyncCb : Option Running
  log : List Event
  crashed : Bool

def State.initial : State :=
  { client := .initial, sync := fun _ => none, frames := fun _ => none, asyncCb := none
    log := [], crashed := false }

def State.hasReturned (s : State) (k : Nat) : Bool := (s.sync k).any (·.phase.isReturned)

/-- The call whose locals are where those of call `k` are or were. -/
def State.occupant (s : State) (k : Nat) : Option Nat :=
  (s.sync k).bind fun y => s.frames y.place

inductive Action
  /-- a step of the library outside the receive thread; an application can pass
  neither `async_cb` nor the parameters of a synchronous call -/
  | client (a : ClientRuns.Action Callback ClientData)
  | begin (hndl : UInt32) (respLen place : Nat)
  /-- `sync_mutex.init` or `condition.init` fails: `EXIT` frees the static handles -/
  | initFails
  | asyncReturned (k : Nat)
  | lock (k : Nat)
  /-- the test of `params.condition`, and the start of the wait -/
  | test (k : Nat)
  | wake (k : Nat) (timedOut : Bool)
  /-- the second test, and `sync_mutex.unlock` -/
  | unlock (k : Nat)
  | destroy (k : Nat)
  | receive (msg : UrilProtocolMsg)
  | runAsyncCb

/-- A step that an application can make the library do. -/
def isApplicationStep : ClientRuns.Action Callback ClientData → Bool
  | .initContext indCb cb => indCb != some .asyncCb && cb != some .asyncCb
  | .begin _ cb data =>
      cb != some .asyncCb && !(data matches some (.params _))
  | .receive _ => false
  | _ => true

def State.setSync (s : State) (k : Nat) (y : Sync) : State :=
  { s with sync := Function.update s.sync k (some y) }

/-- The function that a received message calls, and its client data. -/
def receiveTarget (s : State) (msg : UrilProtocolMsg) : Option (Callback × Option ClientData) :=
  (handleReceive s.client.context msg).2.map Upcall.target

/-- The call of `async_cb` that a received message makes. -/
def startAsyncCb (s : State) (msg : UrilProtocolMsg) : State :=
  match receiveTarget s msg with
  | some (.asyncCb, some (.params k)) =>
      { s with
        sync := Function.update s.sync k ((s.sync k).map fun y => { y with handed := true })
        asyncCb := some ⟨k, .copy, msg.payload⟩ }
  | _ => s

/-- One statement of `async_cb` on the parameters `y`. Whether a mutex that no
longer exists can be taken is left open. -/
def asyncCbStatement (r : Running) (y : Sync) : Option (Sync × Option CbStage) :=
  match r.stage with
  | .copy => some ({ y with
      resp := r.payload.toList.take (min y.respLen maxUrilPayloadSize), success := true },
      some .lock)
  | .lock =>
      if y.mutex = none ∨ y.phase.isReturned then
        some ({ y with mutex := some .receiver }, some .setCondition)
      else none
  | .setCondition => some ({ y with condition := true }, some .unlock)
  | .unlock => some ({ y with mutex := none }, some .signal)
  | .signal => some ({ y with signalled := y.signalled || y.phase = .waiting }, none)

/-- A step of a process that has not crashed. -/
def advance (s : State) : Action → Option State
  | .client a =>
      if isApplicationStep a then
        (ClientRuns.step s.client a).map fun c => { s with client := c }
      else none
  | .begin hndl respLen place =>
      -- a place is used again when the call that had it has returned
      if (s.frames place).all s.hasReturned then
        (ClientRuns.step s.client
          (.begin hndl (some .asyncCb) (some (.params s.client.nextCall)))).map fun c =>
          { s with
            client := c
            sync := Function.update s.sync s.client.nextCall (some (.begun place respLen))
            frames := Function.update s.frames place (some s.client.nextCall) }
      else none
  | .initFails => some { s with crashed := true }
  | .asyncReturned k =>
      match s.sync k, s.client.calls k with
      | some y, some c =>
          if y.phase = .executing then
            match c.phase with
            | .refused _ | .holding .sendFailed _ _ =>
                some (s.setSync k { y with phase := .exiting (-1) })
            | .holding .sent _ _ => some (s.setSync k { y with phase := .accepted })
            | _ => none
          else none
      | _, _ => none
  | .lock k =>
      match s.sync k with
      | some y =>
          if y.phase = .accepted ∧ y.mutex = none then
            some (s.setSync k { y with phase := .locked, mutex := some .caller })
          else none
      | none => none
  | .test k =>
      match s.sync k with
      | some y =>
          if y.phase = .locked then
            some (s.setSync k
              (if y.condition then { y with phase := .woken }
              else { y with phase := .waiting, mutex := none }))
          else none
      | none => none
  | .wake k timedOut =>
      match s.sync k with
      | some y =>
          if y.phase = .waiting ∧ y.mutex = none then
            some (s.setSync k
              (if timedOut then { y with phase := .exiting (-1), mutex := some .caller }
              else { y with phase := .woken, mutex := some .caller }))
          else none
      | none => none
  | .unlock k =>
      match s.sync k with
      | some y =>
          if y.phase = .woken then
            some (s.setSync k
              { y with phase := .exiting (if y.condition then 0 else -1), mutex := none })
          else none
      | none => none
  | .destroy k =>
      match s.sync k with
      | some y =>
          match y.phase with
          | .exiting ret =>
              some { s.setSync k { y with phase := .returned ret } with
                log := .destroyed k y.mutex :: s.log }
          | _ => none
      | none => none
  | .receive msg =>
      if s.asyncCb.isNone then
        (ClientRuns.step s.client (.receive msg)).map fun c =>
          { startAsyncCb s msg with client := c }
      else none
  | .runAsyncCb =>
      match s.asyncCb with
      | some r =>
          match s.occupant r.call with
          | some k =>
              match s.sync k with
              | some y =>
                  (asyncCbStatement r y).map fun (y', stage) =>
                    { s.setSync k y' with
                      asyncCb := stage.map fun stage => { r with stage := stage }
                      log := .touched r.call (s.hasReturned r.call) :: s.log }
              | none => none
          | none => none
      | none => none

def step (s : State) (a : Action) : Option State :=
  if s.crashed then none else advance s a

/-- What a statement of `async_cb` does where it is possible. -/
inductive Stated (r : Running) (y : Sync) : Sync → Option CbStage → Prop
  | copy (hstage : r.stage = .copy) :
      Stated r y { y with
        resp := r.payload.toList.take (min y.respLen maxUrilPayloadSize), success := true }
        (some .lock)
  | lock (hstage : r.stage = .lock) :
      Stated r y { y with mutex := some .receiver } (some .setCondition)
  | setCondition (hstage : r.stage = .setCondition) :
      Stated r y { y with condition := true } (some .unlock)
  | unlock (hstage : r.stage = .unlock) : Stated r y { y with mutex := none } (some .signal)
  | signal (hstage : r.stage = .signal) :
      Stated r y { y with signalled := y.signalled || y.phase = .waiting } none

theorem stated_of_asyncCbStatement {r : Running} {y y' : Sync} {stage : Option CbStage}
    (h : asyncCbStatement r y = some (y', stage)) : Stated r y y' stage := by
  unfold asyncCbStatement at h
  cases hstage : r.stage <;> simp only [hstage, Option.ite_none_right_eq_some,
    Option.some.injEq, Prod.mk.injEq] at h
  case copy =>
    obtain ⟨rfl, rfl⟩ := h
    exact .copy hstage
  case lock =>
    obtain ⟨-, rfl, rfl⟩ := h
    exact .lock hstage
  case setCondition =>
    obtain ⟨rfl, rfl⟩ := h
    exact .setCondition hstage
  case unlock =>
    obtain ⟨rfl, rfl⟩ := h
    exact .unlock hstage
  case signal =>
    obtain ⟨rfl, rfl⟩ := h
    exact .signal hstage

/-- What an action does where it is possible. -/
inductive Performed (s : State) : Action → State → Prop
  | client (a : ClientRuns.Action Callback ClientData)
      (c : ClientRuns.State Callback ClientData) (happ : isApplicationStep a = true)
      (hc : ClientRuns.step s.client a = some c) :
      Performed s (.client a) { s with client := c }
  | begin (hndl : UInt32) (respLen place : Nat) (c : ClientRuns.State Callback ClientData)
      (hfree : ∀ k, s.frames place = some k → s.hasReturned k = true)
      (hc : ClientRuns.step s.client
        (.begin hndl (some .asyncCb) (some (.params s.client.nextCall))) = some c) :
      Performed s (.begin hndl respLen place) { s with
        client := c
        sync := Function.update s.sync s.client.nextCall (some (.begun place respLen))
        frames := Function.update s.frames place (some s.client.nextCall) }
  | initFails : Performed s .initFails { s with crashed := true }
  | asyncFailed (k : Nat) (y : Sync) (c : Call Callback ClientData) (hy : s.sync k = some y)
      (hc : s.client.calls k = some c) (hphase : y.phase = .executing)
      (hfailed : (∃ u, c.phase = .refused u) ∨ ∃ u i, c.phase = .holding .sendFailed u i) :
      Performed s (.asyncReturned k) (s.setSync k { y with phase := .exiting (-1) })
  | asyncSent (k : Nat) (y : Sync) (hy : s.sync k = some y) (hphase : y.phase = .executing) :
      Performed s (.asyncReturned k) (s.setSync k { y with phase := .accepted })
  | lock (k : Nat) (y : Sync) (hy : s.sync k = some y) (hphase : y.phase = .accepted)
      (hmutex : y.mutex = none) :
      Performed s (.lock k) (s.setSync k { y with phase := .locked, mutex := some .caller })
  | testSet (k : Nat) (y : Sync) (hy : s.sync k = some y) (hphase : y.phase = .locked)
      (hcondition : y.condition = true) :
      Performed s (.test k) (s.setSync k { y with phase := .woken })
  | testClear (k : Nat) (y : Sync) (hy : s.sync k = some y) (hphase : y.phase = .locked) :
      Performed s (.test k) (s.setSync k { y with phase := .waiting, mutex := none })
  | timeOut (k : Nat) (y : Sync) (hy : s.sync k = some y) (hphase : y.phase = .waiting) :
      Performed s (.wake k true)
        (s.setSync k { y with phase := .exiting (-1), mutex := some .caller })
  | wake (k : Nat) (y : Sync) (hy : s.sync k = some y) (hphase : y.phase = .waiting)
      (hmutex : y.mutex = none) :
      Performed s (.wake k false)
        (s.setSync k { y with phase := .woken, mutex := some .caller })
  | unlock (k : Nat) (y : Sync) (hy : s.sync k = some y) (hphase : y.phase = .woken) :
      Performed s (.unlock k)
        (s.setSync k { y with phase := .exiting (if y.condition then 0 else -1), mutex := none })
  | destroy (k : Nat) (y : Sync) (ret : Int) (hy : s.sync k = some y)
      (hphase : y.phase = .exiting ret) :
      Performed s (.destroy k) { s.setSync k { y with phase := .returned ret } with
        log := .destroyed k y.mutex :: s.log }
  | receive (msg : UrilProtocolMsg) (c : ClientRuns.State Callback ClientData)
      (hidle : s.asyncCb = none) (hc : ClientRuns.step s.client (.receive msg) = some c) :
      Performed s (.receive msg) { startAsyncCb s msg with client := c }
  | runAsyncCb (r : Running) (k : Nat) (y y' : Sync) (stage : Option CbStage)
      (hr : s.asyncCb = some r) (hk : s.occupant r.call = some k) (hy : s.sync k = some y)
      (hstatement : asyncCbStatement r y = some (y', stage)) :
      Performed s .runAsyncCb { s.setSync k y' with
        asyncCb := stage.map fun stage => { r with stage := stage }
        log := .touched r.call (s.hasReturned r.call) :: s.log }

theorem advance_of_step {s t : State} {a : Action} (h : step s a = some t) :
    s.crashed = false ∧ advance s a = some t := by
  simpa [step] using h

theorem performed_of_step {s t : State} {a : Action} (hstep : step s a = some t) :
    Performed s a t := by
  obtain ⟨-, h⟩ := advance_of_step hstep
  cases a with
  | client a =>
      simp only [advance, Option.ite_none_right_eq_some, Option.map_eq_some_iff] at h
      obtain ⟨happ, c, hc, rfl⟩ := h
      exact .client a c happ hc
  | begin hndl respLen place =>
      simp only [advance, Option.ite_none_right_eq_some, Option.map_eq_some_iff,
        Option.all_eq_true] at h
      obtain ⟨hfree, c, hc, rfl⟩ := h
      exact .begin hndl respLen place c hfree hc
  | initFails =>
      obtain rfl := Option.some.inj h
      exact .initFails
  | asyncReturned k =>
      simp only [advance] at h
      split at h
      · rename_i y c hy hc
        simp only [Option.ite_none_right_eq_some] at h
        obtain ⟨hphase, h⟩ := h
        split at h <;> simp only [Option.some.injEq, reduceCtorEq] at h <;> subst h
        · rename_i u hrefused
          exact .asyncFailed k y c hy hc hphase (.inl ⟨u, hrefused⟩)
        · rename_i u i hfailed
          exact .asyncFailed k y c hy hc hphase (.inr ⟨u, i, hfailed⟩)
        · exact .asyncSent k y hy hphase
      · cases h
  | lock k =>
      simp only [advance] at h
      split at h
      · rename_i y hy
        simp only [Option.ite_none_right_eq_some, Option.some.injEq] at h
        obtain ⟨⟨hphase, hmutex⟩, rfl⟩ := h
        exact .lock k y hy hphase hmutex
      · cases h
  | test k =>
      simp only [advance] at h
      split at h
      · rename_i y hy
        simp only [Option.ite_none_right_eq_some, Option.some.injEq] at h
        obtain ⟨hphase, rfl⟩ := h
        split
        · rename_i hcondition
          exact .testSet k y hy hphase hcondition
        · exact .testClear k y hy hphase
      · cases h
  | wake k timedOut =>
      simp only [advance] at h
      split at h
      · rename_i y hy
        simp only [Option.ite_none_right_eq_some, Option.some.injEq] at h
        obtain ⟨⟨hphase, hmutex⟩, rfl⟩ := h
        cases timedOut with
        | true => exact .timeOut k y hy hphase
        | false => exact .wake k y hy hphase hmutex
      · cases h
  | unlock k =>
      simp only [advance] at h
      split at h
      · rename_i y hy
        simp only [Option.ite_none_right_eq_some, Option.some.injEq] at h
        obtain ⟨hphase, rfl⟩ := h
        exact .unlock k y hy hphase
      · cases h
  | destroy k =>
      simp only [advance] at h
      split at h
      · rename_i y hy
        split at h
        · rename_i ret hphase
          simp only [Option.some.injEq] at h
          subst h
          exact .destroy k y ret hy hphase
        · cases h
      · cases h
  | receive msg =>
      simp only [advance, Option.ite_none_right_eq_some, Option.map_eq_some_iff] at h
      obtain ⟨hidle, c, hc, rfl⟩ := h
      exact .receive msg c (Option.isNone_iff_eq_none.mp hidle) hc
  | runAsyncCb =>
      simp only [advance] at h
      split at h
      · rename_i r hr
        split at h
        · rename_i k hk
          split at h
          · rename_i y hy
            simp only [Option.map_eq_some_iff] at h
            obtain ⟨⟨y', stage⟩, hstatement, rfl⟩ := h
            exact .runAsyncCb r k y y' stage hr hk hy hstatement
          · cases h
        · cases h
      · cases h

/-- The locals of a call that has not returned are still at their place. -/
def Framed (s : State) : Prop :=
  ∀ k y, s.sync k = some y → y.phase.isReturned = false → s.frames y.place = some k

theorem framed_initial : Framed State.initial := by
  intro k y hy
  cases hy

theorem Framed.occupant {s : State} (h : Framed s) {j k : Nat} (hk : s.occupant j = some k)
    (hlive : s.hasReturned j = false) : k = j := by
  obtain ⟨y, hy, hframe⟩ := Option.bind_eq_some_iff.mp hk
  have hphase : y.phase.isReturned = false := by simpa [State.hasReturned, hy] using hlive
  exact Option.some.inj (hframe.symm.trans (h j y hy hphase))

theorem framed_setSync {s t : State} (h : Framed s) {k : Nat} {y y' : Sync}
    (hy : s.sync k = some y) (hsync : t.sync = Function.update s.sync k (some y'))
    (hframes : t.frames = s.frames) (hplace : y'.place = y.place)
    (hlive : y'.phase.isReturned = false → y.phase.isReturned = false) : Framed t := by
  intro j z hz hz'
  rw [hframes]
  obtain rfl | hj := eq_or_ne j k
  · obtain rfl : y' = z := by simpa [hsync] using hz
    rw [hplace]
    exact h j y hy (hlive hz')
  · exact h j z (by simpa [hsync, hj] using hz) hz'

theorem framed_begin {s : State} (h : Framed s) {place : Nat}
    (hfree : ∀ k, s.frames place = some k → s.hasReturned k = true) (new : Nat) (y : Sync)
    (hplace : y.place = place) (client : ClientRuns.State Callback ClientData) :
    Framed { s with
      client := client
      sync := Function.update s.sync new (some y)
      frames := Function.update s.frames place (some new) } := by
  intro k z hz hlive
  obtain rfl | hk := eq_or_ne k new
  · obtain rfl : y = z := by simpa using hz
    simp [hplace]
  · have hz' : s.sync k = some z := by simpa [hk] using hz
    have hplaced := h k z hz' hlive
    have hother : z.place ≠ place := by
      rintro rfl
      have hreturned := hfree k hplaced
      simp [State.hasReturned, hz', hlive] at hreturned
    simpa [hother] using hplaced

theorem stated_same {r : Running} {y y' : Sync} {stage : Option CbStage}
    (h : Stated r y y' stage) :
    y'.place = y.place ∧ y'.phase = y.phase ∧ y'.respLen = y.respLen ∧
      y'.handed = y.handed := by
  cases h <;> exact ⟨rfl, rfl, rfl, rfl⟩

theorem framed_step {s t : State} {a : Action} (h : Framed s) (hstep : step s a = some t) :
    Framed t := by
  cases performed_of_step hstep with
  | client a c happ hc => exact h
  | begin hndl respLen place c hfree hc => exact framed_begin h hfree _ _ rfl c
  | initFails => exact h
  | asyncFailed k y c hy hc hphase hfailed =>
      exact framed_setSync h hy rfl rfl rfl fun _ => by rw [hphase]; rfl
  | asyncSent k y hy hphase =>
      exact framed_setSync h hy rfl rfl rfl fun _ => by rw [hphase]; rfl
  | lock k y hy hphase hmutex =>
      exact framed_setSync h hy rfl rfl rfl fun _ => by rw [hphase]; rfl
  | testSet k y hy hphase hcondition =>
      exact framed_setSync h hy rfl rfl rfl fun _ => by rw [hphase]; rfl
  | testClear k y hy hphase =>
      exact framed_setSync h hy rfl rfl rfl fun _ => by rw [hphase]; rfl
  | timeOut k y hy hphase =>
      exact framed_setSync h hy rfl rfl rfl fun _ => by rw [hphase]; rfl
  | wake k y hy hphase hmutex =>
      exact framed_setSync h hy rfl rfl rfl fun _ => by rw [hphase]; rfl
  | unlock k y hy hphase =>
      exact framed_setSync h hy rfl rfl rfl fun _ => by rw [hphase]; rfl
  | destroy k y ret hy hphase =>
      exact framed_setSync h hy rfl rfl rfl fun _ => by rw [hphase]; rfl
  | receive msg c hidle hc =>
      unfold startAsyncCb
      split
      · rename_i j htarget
        intro k z hz hlive
        obtain rfl | hk := eq_or_ne k j
        · obtain ⟨y, hy, rfl⟩ : ∃ y, s.sync k = some y ∧ { y with handed := true } = z := by
            simpa using hz
          exact h k y hy hlive
        · exact h k z (by simpa [hk] using hz) hlive
      · exact h
  | runAsyncCb r k y y' stage hr hk hy hstatement =>
      obtain ⟨hplace, hphase, -, -⟩ := stated_same (stated_of_asyncCbStatement hstatement)
      exact framed_setSync h hy rfl rfl hplace fun hlive => hphase ▸ hlive

theorem crashed_step {s t : State} {a : Action} (ha : a ≠ .initFails)
    (hstep : step s a = some t) : t.crashed = false := by
  have halive := (advance_of_step hstep).1
  cases performed_of_step hstep with
  | initFails => exact absurd rfl ha
  | receive msg c hidle hc =>
      unfold startAsyncCb
      split <;> exact halive
  | _ => exact halive

theorem receiveTarget_data {s : State} {msg : UrilProtocolMsg} {cb : Callback}
    {d : ClientData} (h : receiveTarget s msg = some (cb, some d)) :
    msg.isIndication = 0 ∧ ∃ i,
      lookupPendingOp s.client.context.pendingOps msg.uniqueId = some i ∧
      (s.client.context.pendingOps i).clientData = some d := by
  unfold receiveTarget handleReceive at h
  split at h
  · unfold handleReceiveInd at h
    cases hind : s.client.context.indCb <;> simp [hind, Upcall.target] at h
  · rename_i hrsp
    refine ⟨not_not.mp hrsp, ?_⟩
    cases hlookup : lookupPendingOp s.client.context.pendingOps msg.uniqueId with
    | none => simp [handleReceiveRsp_none hlookup] at h
    | some i =>
        refine ⟨i, rfl, ?_⟩
        rw [handleReceiveRsp_some hlookup] at h
        unfold responseUpcall at h
        cases hcb : (s.client.context.pendingOps i).asyncRespCb with
        | none => simp [hcb] at h
        | some f =>
            simp only [hcb, Option.map_some, Upcall.target, Option.some.injEq,
              Prod.mk.injEq] at h
            exact h.2

theorem startAsyncCb_of_ne {s : State} {msg : UrilProtocolMsg}
    (h : ∀ k, receiveTarget s msg ≠ some (.asyncCb, some (.params k))) :
    startAsyncCb s msg = s := by
  unfold startAsyncCb
  split
  · rename_i k htarget
    exact absurd htarget (h k)
  · rfl

theorem startAsyncCb_cases (s : State) (msg : UrilProtocolMsg) :
    (∃ k, receiveTarget s msg = some (.asyncCb, some (.params k))) ∨ startAsyncCb s msg = s := by
  by_cases htarget : ∃ k, receiveTarget s msg = some (.asyncCb, some (.params k))
  · exact .inl htarget
  · exact .inr (startAsyncCb_of_ne (not_exists.mp htarget))

/-- The callback and the client data that a call was given. -/
def argumentsOf (c : ClientRuns.State Callback ClientData) (k : Nat) :
    Option (Option Callback × Option ClientData) :=
  (c.calls k).map fun call => (call.asyncRespCb, call.clientData)

section Arguments

variable {c d : ClientRuns.State Callback ClientData}

theorem argumentsOf_congr (hcalls : d.calls = c.calls) : argumentsOf d = argumentsOf c := by
  funext k
  rw [argumentsOf, hcalls, argumentsOf]

theorem argumentsOf_setPhase {k : Nat} {call : ClientRuns.Call Callback ClientData}
    {phase : ClientRuns.Phase} (hc : c.calls k = some call)
    (hcalls : d.calls = (c.setPhase k call phase).calls) : argumentsOf d = argumentsOf c := by
  rw [argumentsOf_congr hcalls]
  funext k'
  obtain rfl | hk := eq_or_ne k' k
  · simp [argumentsOf, ClientRuns.State.setPhase, hc]
  · simp [argumentsOf, ClientRuns.State.setPhase, hk]

theorem arguments_step {a : ClientRuns.Action Callback ClientData}
    (hstep : ClientRuns.step c a = some d) :
    (∃ hndl cb data, a = .begin hndl cb data ∧
      argumentsOf d = Function.update (argumentsOf c) c.nextCall (some (cb, data))) ∨
      (∀ hndl cb data, a ≠ .begin hndl cb data) ∧ argumentsOf d = argumentsOf c := by
  cases callsStep_of_step hstep with
  | same hnot hsend hcalls => exact .inr ⟨hnot, argumentsOf_congr hcalls⟩
  | begun hndl cb data ha hcalls =>
      refine .inl ⟨hndl, cb, data, ha, ?_⟩
      funext k
      obtain rfl | hk := eq_or_ne k c.nextCall
      · simp [argumentsOf, hcalls]
      · simp [argumentsOf, hcalls, hk]
  | moved k call phase hnot hc hmoves hsend hcalls =>
      exact .inr ⟨hnot, argumentsOf_setPhase hc hcalls⟩

end Arguments

theorem response_recorded {s : State} {d : Option Callback} {msg : UrilProtocolMsg}
    {client : ClientRuns.State Callback ClientData}
    (hdispatching : ClientDispatch.Dispatching d client)
    (hind : msg.isIndication = 0)
    (hstep : ClientRuns.step s.client (.receive msg) = some client) :
    ∃ k cb data r, argumentsOf client k = some (cb, data) ∧ r.owner = some k ∧ r.msg = msg ∧
      client.responses = r :: s.client.responses ∧
      receiveTarget s msg = (storedCallback client.context cb).map fun cb => (cb, data) := by
  have hnot : ¬ msg.isIndication ≠ 0 := not_not_intro hind
  have hresponses : client.responses =
      ⟨msg, (lookupPendingOp s.client.context.pendingOps msg.uniqueId).bind s.client.writer,
        (handleReceive s.client.context msg).2⟩ :: s.client.responses := by
    simp only [ClientRuns.step, if_neg hnot, Option.some.injEq] at hstep
    rw [← hstep]
  obtain ⟨k, call, i, hcall, -, howner, hupcall⟩ :=
    hdispatching.answered _ (hresponses ▸ List.mem_cons_self)
  refine ⟨k, call.asyncRespCb, call.clientData, _, ?_, howner, rfl, hresponses, ?_⟩
  · rw [argumentsOf, hcall]
    rfl
  · simp only at hupcall
    rw [receiveTarget, hupcall, responseUpcall, Option.map_map]
    rfl

end UnifiedRil.SynchronousCommand

import Mathlib.Data.List.Basic

/-!
The life cycle of a socket connector: the running flag, the listening descriptor
and the accept thread under any sequence of `start` and `stop`. The system gives
descriptors that are not open, binds and closes open ones, and the accept loop
ends once its socket is closed.
-/

namespace UnifiedRil.ConnectorLifeCycle

/-- What a connector asks the system for. -/
inductive Event
  | socket (fd : Option Nat)
  | unlink
  | bind (fd : Nat)
  | startThread
  | close (fd : Option Nat)
  | join
  | deleteThread
  deriving DecidableEq

structure State where
  /-- none for a negative descriptor -/
  mListeningSocket : Option Nat
  mIsRunning : Bool
  mThread : Bool
  descriptors : List Nat
  log : List Event
  deriving DecidableEq

def State.initial : State :=
  { mListeningSocket := none, mIsRunning := false, mThread := false, descriptors := [], log := [] }

inductive Fault
  /-- a member function is called on `nullptr` -/
  | nullThread
  /-- the accept loop goes on while it is waited for -/
  | waitsForever

def State.note (s : State) (e : Event) : State := { s with log := e :: s.log }

/-- `socket`: the system may refuse, and gives no descriptor that is open. -/
def State.socket (s : State) (offered : Option Nat) : Option Nat × State :=
  let fd := offered.filter (· ∉ s.descriptors)
  (fd, { s.note (.socket fd) with descriptors := fd.toList ++ s.descriptors })

def State.bind (s : State) (fd : Nat) : Bool × State :=
  (fd ∈ s.descriptors, s.note (.bind fd))

def State.close (s : State) (fd : Option Nat) : Bool × State :=
  (fd.any (· ∈ s.descriptors),
    { s.note (.close fd) with descriptors := s.descriptors.filter (some · ≠ fd) })

/-- The accept loop ends once its socket is closed. -/
def State.join (s : State) : Except Fault State :=
  if s.mThread then
    if s.mListeningSocket.any (· ∈ s.descriptors) then .error .waitsForever
    else .ok (s.note .join)
  else .error .nullThread

/-- `start` of a connector that prepares its address before it binds the socket. -/
def startConnector (prepare : State → State) (s : State) (offered : Option Nat) : Bool × State :=
  if !s.mIsRunning then
    let (fd, s) := s.socket offered
    let s := { s with mListeningSocket := fd }
    match fd with
    | none => (false, s)
    | some fd =>
        let (bound, s) := (prepare s).bind fd
        if bound then
          (true, { s.note .startThread with mThread := true, mIsRunning := true })
        else (false, s)
  else (false, s)

/-- `UnixSocketClientConnector::start` -/
def unixStart : State → Option Nat → Bool × State :=
  startConnector fun s => s.note .unlink

/-- `TcpSocketClientConnector::start` -/
def tcpStart : State → Option Nat → Bool × State :=
  startConnector id

/-- `SocketClientConnector::stop` -/
def stop (s : State) : Except Fault (Bool × State) :=
  if s.mIsRunning then
    let (closed, s) := s.close s.mListeningSocket
    if closed then do
      let s ← s.join
      return (true, { s.note .deleteThread with mThread := false })
    else .ok (false, s)
  else .ok (false, s)

/-- `SocketClientConnector::~SocketClientConnector` -/
def destroy (s : State) : Except Fault State :=
  (stop s).map Prod.snd

inductive Connector
  | unix
  | tcp

inductive Call
  | start (offered : Option Nat)
  | stop
  deriving DecidableEq

def perform (connector : Connector) (s : State) : Call → Except Fault (Bool × State)
  | .start offered =>
      match connector with
      | .unix => .ok (unixStart s offered)
      | .tcp => .ok (tcpStart s offered)
  | .stop => stop s

/-- A connector is to run from a start that returns true to a stop that does. -/
def returns (running : Bool) : Call → Bool
  | .start offered => !running && offered.isSome
  | .stop => running

def refused (running : Bool) : Call → Bool
  | .start _ => running
  | .stop => !running

def runningAfter (running : Bool) : Call → Bool
  | .start offered => running || offered.isSome
  | .stop => false

/-- `start` returns true exactly when the connector is not running and there is a
descriptor for it, `stop` exactly when it is running, and they do nothing otherwise. -/
def Conforms (connector : Connector) : Bool → State → List Call → Prop
  | _, _, [] => True
  | running, s, call :: rest =>
      ∃ t, perform connector s call = .ok (returns running call, t) ∧
        (refused running call = true → t = s) ∧
        Conforms connector (runningAfter running call) t rest

/-- After the stop of a running connector there is no other stop, and no start for
which there is a descriptor. -/
def StoppedLast : Bool → List Call → Prop
  | _, [] => True
  | running, .start offered :: rest => StoppedLast (running || offered.isSome) rest
  | true, .stop :: rest => ∀ call ∈ rest, call = .start none
  | false, .stop :: rest => StoppedLast false rest

/-- Where a connector is in its life. -/
inductive Phase
  | fresh
  | running (fd : Nat)
  | stopped (fd : Nat)

/-- The state in a phase. A stopped connector keeps its flag. -/
def Phase.state : Phase → List Event → State
  | .fresh, log => ⟨none, false, false, [], log⟩
  | .running fd, log => ⟨some fd, true, true, [fd], log⟩
  | .stopped fd, log => ⟨some fd, true, false, [], log⟩

/-- What a call returns, and where it leads. -/
def Phase.next : Phase → Call → Bool × Phase
  | .fresh, .start (some fd) => (true, .running fd)
  | .running fd, .stop => (true, .stopped fd)
  | phase, _ => (false, phase)

/-- What a call asks the system for, newest first. -/
def Phase.events (connector : Connector) : Phase → Call → List Event
  | .fresh, .start none => [.socket none]
  | .fresh, .start (some fd) =>
      match connector with
      | .unix => [.startThread, .bind fd, .unlink, .socket (some fd)]
      | .tcp => [.startThread, .bind fd, .socket (some fd)]
  | .running fd, .stop => [.deleteThread, .join, .close (some fd)]
  | .stopped fd, .stop => [.close (some fd)]
  | _, _ => []

theorem start_fresh (prepare : State → State) (fd : Nat) (log prepared : List Event)
    (hprepare : ∀ s, prepare s = { s with log := prepared ++ s.log }) :
    startConnector prepare (Phase.fresh.state log) (some fd) =
      (true, (Phase.running fd).state
        (.startThread :: .bind fd :: (prepared ++ .socket (some fd) :: log))) := by
  have hsocket : (Phase.fresh.state log).socket (some fd) =
      (some fd, ⟨none, false, false, [fd], .socket (some fd) :: log⟩) := by
    simp [State.socket, State.note, Phase.state]
  have hidle : (Phase.fresh.state log).mIsRunning = false := rfl
  rw [startConnector, hidle, hsocket]
  simp [hprepare, State.bind, State.note, Phase.state]

theorem start_marked (prepare : State → State) {s : State} (hmarked : s.mIsRunning = true)
    (offered : Option Nat) : startConnector prepare s offered = (false, s) := by
  simp [startConnector, hmarked]

theorem stop_running (fd : Nat) (log : List Event) :
    stop ((Phase.running fd).state log) =
      .ok (true, (Phase.stopped fd).state (.deleteThread :: .join :: .close (some fd) :: log)) := by
  have hclose : ((Phase.running fd).state log).close (some fd) =
      (true, ⟨some fd, true, true, [], .close (some fd) :: log⟩) := by
    simp [State.close, State.note, Phase.state]
  have hmarked : ((Phase.running fd).state log).mIsRunning = true := rfl
  have hsocket : ((Phase.running fd).state log).mListeningSocket = some fd := rfl
  rw [stop, hmarked, hsocket, hclose]
  rfl

theorem perform_phase (connector : Connector) (phase : Phase) (call : Call) (log : List Event) :
    perform connector (phase.state log) call =
      .ok ((phase.next call).1,
        (phase.next call).2.state (phase.events connector call ++ log)) := by
  cases call with
  | start offered =>
      cases phase with
      | fresh =>
          cases offered with
          | none => cases connector <;> rfl
          | some fd =>
              cases connector with
              | unix => exact congrArg _ (start_fresh _ fd log [.unlink] fun _ => rfl)
              | tcp => exact congrArg _ (start_fresh _ fd log [] fun _ => rfl)
      | running fd | stopped fd =>
          cases connector <;> exact congrArg _ (start_marked _ rfl offered)
  | stop =>
      cases phase with
      | fresh | stopped fd => rfl
      | running fd => exact stop_running fd log

theorem conforms_cons (connector : Connector) (running : Bool) (phase : Phase)
    (log : List Event) (call : Call) (rest : List Call) :
    Conforms connector running (phase.state log) (call :: rest) ↔
      (phase.next call).1 = returns running call ∧
        (refused running call = true →
          (phase.next call).2.state (phase.events connector call ++ log) = phase.state log) ∧
        Conforms connector (runningAfter running call)
          ((phase.next call).2.state (phase.events connector call ++ log)) rest := by
  simp only [Conforms, perform_phase, Except.ok.injEq, Prod.mk.injEq]
  constructor
  · rintro ⟨t, ⟨hreturns, rfl⟩, hrefused, hrest⟩
    exact ⟨hreturns, hrefused, hrest⟩
  · rintro ⟨hreturns, hrefused, hrest⟩
    exact ⟨_, ⟨hreturns, rfl⟩, hrefused, hrest⟩

theorem conforms_stopped (connector : Connector) (fd : Nat) (log : List Event)
    (calls : List Call) :
    Conforms connector false ((Phase.stopped fd).state log) calls ↔
      ∀ call ∈ calls, call = .start none := by
  induction calls with
  | nil => simp [Conforms]
  | cons call rest ih =>
      rw [conforms_cons, List.forall_mem_cons]
      cases call with
      | stop => simp [returns, refused, Phase.next, Phase.events, Phase.state]
      | start offered =>
          cases offered with
          | none => simpa [returns, refused, runningAfter, Phase.next, Phase.events] using ih
          | some fd => simp [returns, Phase.next]

theorem conforms_running (connector : Connector) (fd : Nat) (log : List Event)
    (calls : List Call) :
    Conforms connector true ((Phase.running fd).state log) calls ↔ StoppedLast true calls := by
  induction calls with
  | nil => simp [Conforms, StoppedLast]
  | cons call rest ih =>
      rw [conforms_cons]
      cases call with
      | start offered =>
          simpa [returns, refused, runningAfter, Phase.next, Phase.events, StoppedLast] using ih
      | stop =>
          simp [returns, refused, runningAfter, Phase.next, StoppedLast, conforms_stopped]

theorem conforms_fresh (connector : Connector) (log : List Event) (calls : List Call) :
    Conforms connector false (Phase.fresh.state log) calls ↔ StoppedLast false calls := by
  induction calls generalizing log with
  | nil => simp [Conforms, StoppedLast]
  | cons call rest ih =>
      rw [conforms_cons]
      cases call with
      | stop =>
          simpa [returns, refused, runningAfter, Phase.next, Phase.events, StoppedLast] using ih log
      | start offered =>
          cases offered with
          | none =>
              simpa [returns, refused, runningAfter, Phase.next, Phase.events, StoppedLast]
                using ih _
          | some fd =>
              simp [returns, refused, runningAfter, Phase.next, StoppedLast, conforms_running]

/-- A connector does what is said of it exactly as long as it is not asked for
anything after it was stopped. -/
theorem life_cycle (connector : Connector) (calls : List Call) :
    Conforms connector false State.initial calls ↔ StoppedLast false calls :=
  conforms_fresh connector [] calls

/-- A connector that was stopped does not start again, and a second stop closes
its descriptor again. -/
theorem stopped_for_good :
    (∀ connector, ¬ Conforms connector false State.initial
      [.start (some 5), .stop, .start (some 5)]) ∧
    ∀ connector, ¬ Conforms connector false State.initial [.start (some 5), .stop, .stop] := by
  constructor <;> intro connector
  · rw [show State.initial = Phase.fresh.state [] from rfl, conforms_fresh]
    simp [StoppedLast]
  · rw [show State.initial = Phase.fresh.state [] from rfl, conforms_fresh]
    simp [StoppedLast]

/-- The results of a sequence of calls, and the state they leave. -/
def run (connector : Connector) : State → List Call → Except Fault (List Bool × State)
  | s, [] => .ok ([], s)
  | s, call :: rest => do
      let (ret, s) ← perform connector s call
      let (rets, s) ← run connector s rest
      return (ret :: rets, s)

theorem run_phase (connector : Connector) (calls : List Call) (phase : Phase)
    (log : List Event) :
    ∃ (rets : List Bool) (phase' : Phase) (log' : List Event),
      run connector (phase.state log) calls = .ok (rets, phase'.state log') := by
  induction calls generalizing phase log with
  | nil => exact ⟨[], phase, log, rfl⟩
  | cons call rest ih =>
      obtain ⟨rets, phase', log', hrest⟩ :=
        ih (phase.next call).2 (phase.events connector call ++ log)
      refine ⟨(phase.next call).1 :: rets, phase', log', ?_⟩
      simp only [run, perform_phase, bind, Except.bind, hrest]
      rfl

end UnifiedRil.ConnectorLifeCycle

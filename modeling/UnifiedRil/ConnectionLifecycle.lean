import Mathlib.Data.List.Count
import UnifiedRil.Library.Runs
import UnifiedRil.MessageTracker

/-!
`SocketClientConnector.cpp` from `acceptLoop` to `~SocketClientConnection`: who
observes a connection, who lists it, and which thread takes it down. The
elements of `κ` are the addresses of the connection objects; an address is free
again after `delete`.
-/

namespace UnifiedRil.ConnectionLifecycle

open UnifiedRil.Library.Runs
open UnifiedRil.Protocol
open UnifiedRil.MessageTracker

variable {κ : Type} [DecidableEq κ]

/-- The implementations of `IClientConnectionObserver`. -/
inductive Observer
  | connector
  | tracker
  deriving DecidableEq

/-- `mObservers` of a connection: its storage, of which the first `size` slots
are elements. -/
structure ObserverVector where
  slots : List Observer
  size : Nat
  deriving DecidableEq

def ObserverVector.registered (v : ObserverVector) : List Observer :=
  v.slots.take v.size

def ObserverVector.registerObserver (v : ObserverVector) (observer : Observer) :
    ObserverVector where
  slots := v.registered ++ observer :: v.slots.drop (v.size + 1)
  size := v.size + 1

/-- `std::remove` moves the other observers to the front, and `erase` lowers
the size. Behind the new end the slots keep what they hold. -/
def ObserverVector.unregisterObserver (v : ObserverVector) (observer : Observer) :
    ObserverVector :=
  let kept := v.registered.filter (· ≠ observer)
  { slots := kept ++ v.slots.drop kept.length, size := kept.length }

inductive Pump
  | created
  | running
  /-- `recv` returned 0; the loop over the observers is at slot `i` and will
  end at `stop` -/
  | notifying (i stop : Nat)
  | deleting
  /-- left the loop because `recv` failed -/
  | failed
  deriving DecidableEq

structure SocketClientConnection where
  pump : Pump
  observers : ObserverVector
  threadStored : Bool
  socketOpen : Bool
  deriving DecidableEq

/-- After `registerObserver` of the connector and `onNewConnection` of the
tracker. -/
def SocketClientConnection.accepted : SocketClientConnection where
  pump := .created
  observers := ((⟨[], 0⟩ : ObserverVector).registerObserver .connector).registerObserver .tracker
  threadStored := false
  socketOpen := true

structure State (κ : Type) where
  /-- `mConnections` of the connector -/
  connections : List κ
  conn : κ → Option SocketClientConnection
  /-- the connection whose `ignitPump` the accept loop did not finish -/
  igniting : Option κ
  pendingRequests : PendingRequests κ
  aborted : Bool

def State.initial : State κ :=
  { connections := [], conn := fun _ => none, igniting := none
    pendingRequests := .empty, aborted := false }

def State.setConn (s : State κ) (c : κ) (connection : SocketClientConnection) : State κ :=
  { s with conn := Function.update s.conn c (some connection) }

/-- `onMessageReceived` of the observers. What the tracker hands on to the
processors comes back as a response. -/
def State.onMessageReceived (s : State κ) (c : κ) (msg : UrilProtocolMsg) :
    Observer → State κ
  | .connector => s
  | .tracker =>
      { s with pendingRequests := (trackAndDispatchRequest s.pendingRequests c msg none).1 }

/-- `onClientDisconnected` of the observers. -/
def State.onClientDisconnected (s : State κ) (c : κ) (connection : SocketClientConnection)
    (observer : Observer) : State κ :=
  let s := s.setConn c
    { connection with observers := connection.observers.unregisterObserver observer }
  match observer with
  | .connector => { s with connections := s.connections.filter (· ≠ c) }
  | .tracker => s

/-- `delete this` on the pump thread, through the destructor. -/
def State.deleteThis (s : State κ) (c : κ) (connection : SocketClientConnection) : State κ :=
  if connection.threadStored then
    -- the thread joins itself, and the exception leaves the destructor
    { s.setConn c { connection with socketOpen := false } with aborted := true }
  else { s with conn := Function.update s.conn c none }

inductive Action (κ : Type)
  | accept (c : κ)
  | startThread (c : κ)
  | storeThread (c : κ)
  | receive (c : κ) (msg : UrilProtocolMsg)
  /-- `processResponse` takes the connection for an id -/
  | respond (uniqueId : UInt32)
  | hangUp (c : κ)
  /-- one round of the loop over the observers, or its end -/
  | notify (c : κ)
  | deleteThis (c : κ)
  | receiveError (c : κ)

/-- The connection that an action is about. -/
def Action.connection : Action κ → Option κ
  | .accept c | .startThread c | .storeThread c | .receive c _ | .hangUp c | .notify c
  | .deleteThis c | .receiveError c => some c
  | .respond _ => none

/-- The steps of `pumpLoop` once `recv` returned 0. -/
def Action.disconnecting : Action κ → Bool
  | .hangUp _ | .notify _ | .deleteThis _ => true
  | _ => false

def State.perform (s : State κ) : Action κ → Option (State κ)
  | .accept c =>
      if s.igniting = none ∧ s.conn c = none then
        some { s.setConn c .accepted with
          connections := s.connections ++ [c]
          igniting := some c }
      else none
  | .startThread c =>
      (s.conn c).bind fun connection =>
        if s.igniting = some c ∧ connection.pump = .created then
          some (s.setConn c { connection with pump := .running })
        else none
  | .storeThread c =>
      if s.igniting = some c then
        match s.conn c with
        | some connection =>
            if connection.pump = .created then none
            else some { s.setConn c { connection with threadStored := true } with
              igniting := none }
        -- the pump thread was faster, and the store goes to freed memory
        | none => some { s with igniting := none }
      else none
  | .receive c msg =>
      (s.conn c).bind fun connection =>
        if connection.pump = .running then
          some (connection.observers.registered.foldl (·.onMessageReceived c msg) s)
        else none
  | .respond uniqueId =>
      some { s with pendingRequests := (takeConnection s.pendingRequests uniqueId).2 }
  | .hangUp c =>
      (s.conn c).bind fun connection =>
        if connection.pump = .running then
          some (s.setConn c { connection with pump := .notifying 0 connection.observers.size })
        else none
  | .notify c =>
      (s.conn c).bind fun connection =>
        match connection.pump with
        | .notifying i stop =>
            if i = stop then some (s.setConn c { connection with pump := .deleting })
            else
              -- the end of the loop was read before, so it goes on behind the last element
              connection.observers.slots[i]?.map fun observer =>
                s.onClientDisconnected c { connection with pump := .notifying (i + 1) stop } observer
        | _ => none
  | .deleteThis c =>
      (s.conn c).bind fun connection =>
        if connection.pump = .deleting then some (s.deleteThis c connection) else none
  | .receiveError c =>
      (s.conn c).bind fun connection =>
        if connection.pump = .running then
          some (s.setConn c { connection with pump := .failed })
        else none

def step (s : State κ) (a : Action κ) : Option (State κ) :=
  if s.aborted then none else s.perform a

theorem step_eq_some {s t : State κ} {a : Action κ} :
    step s a = some t ↔ s.aborted = false ∧ s.perform a = some t := by
  unfold step
  cases s.aborted <;> simp

/-- What an action does where it is possible. -/
inductive Performed (s : State κ) : Action κ → State κ → Prop
  | accept (c : κ) (hfree : s.conn c = none) :
      Performed s (.accept c) { s.setConn c .accepted with
        connections := s.connections ++ [c]
        igniting := some c }
  | startThread (c : κ) (connection : SocketClientConnection) (hconn : s.conn c = some connection)
      (hpump : connection.pump = .created) :
      Performed s (.startThread c) (s.setConn c { connection with pump := .running })
  | storeThread (c : κ) (connection : SocketClientConnection)
      (hconn : s.conn c = some connection) :
      Performed s (.storeThread c)
        { s.setConn c { connection with threadStored := true } with igniting := none }
  | storeFreed (c : κ) : Performed s (.storeThread c) { s with igniting := none }
  | receive (c : κ) (msg : UrilProtocolMsg) (observers : List Observer) :
      Performed s (.receive c msg) (observers.foldl (·.onMessageReceived c msg) s)
  | respond (uniqueId : UInt32) :
      Performed s (.respond uniqueId)
        { s with pendingRequests := (takeConnection s.pendingRequests uniqueId).2 }
  | hangUp (c : κ) (connection : SocketClientConnection) (hconn : s.conn c = some connection)
      (hpump : connection.pump = .running) :
      Performed s (.hangUp c)
        (s.setConn c { connection with pump := .notifying 0 connection.observers.size })
  | notify (c : κ) (connection : SocketClientConnection) (i stop : Nat) (observer : Observer)
      (hconn : s.conn c = some connection) (hpump : connection.pump = .notifying i stop)
      (hlast : i ≠ stop) (hobserver : connection.observers.slots[i]? = some observer) :
      Performed s (.notify c)
        (s.onClientDisconnected c { connection with pump := .notifying (i + 1) stop } observer)
  | notified (c : κ) (connection : SocketClientConnection) (i : Nat)
      (hconn : s.conn c = some connection) (hpump : connection.pump = .notifying i i) :
      Performed s (.notify c) (s.setConn c { connection with pump := .deleting })
  | joins (c : κ) (connection : SocketClientConnection) (hconn : s.conn c = some connection)
      (hpump : connection.pump = .deleting) (hstored : connection.threadStored = true) :
      Performed s (.deleteThis c)
        { s.setConn c { connection with socketOpen := false } with aborted := true }
  | deletes (c : κ) (connection : SocketClientConnection) (hconn : s.conn c = some connection)
      (hpump : connection.pump = .deleting) :
      Performed s (.deleteThis c) { s with conn := Function.update s.conn c none }
  | receiveError (c : κ) (connection : SocketClientConnection)
      (hconn : s.conn c = some connection) (hpump : connection.pump = .running) :
      Performed s (.receiveError c) (s.setConn c { connection with pump := .failed })

theorem bind_ite_eq_some {α β : Type} {o : Option α} {p : α → Prop} [DecidablePred p] {f : α → β}
    {b : β} :
    (o.bind fun a => if p a then some (f a) else none) = some b ↔
      ∃ a, o = some a ∧ p a ∧ f a = b := by
  simp [Option.bind_eq_some_iff]

theorem performed_of_perform {s t : State κ} {a : Action κ} (hstep : s.perform a = some t) :
    Performed s a t := by
  cases a with
  | respond uniqueId =>
      obtain rfl := Option.some.inj hstep
      exact .respond uniqueId
  | accept c =>
      simp only [State.perform, Option.ite_none_right_eq_some, Option.some.injEq] at hstep
      obtain ⟨⟨-, hfree⟩, rfl⟩ := hstep
      exact .accept c hfree
  | storeThread c =>
      simp only [State.perform, Option.ite_none_right_eq_some] at hstep
      obtain ⟨-, hstep⟩ := hstep
      split at hstep
      · rename_i connection hconn
        simp only [Option.ite_none_left_eq_some, Option.some.injEq] at hstep
        obtain ⟨-, rfl⟩ := hstep
        exact .storeThread c connection hconn
      · obtain rfl := Option.some.inj hstep
        exact .storeFreed c
  | notify c =>
      simp only [State.perform, Option.bind_eq_some_iff] at hstep
      obtain ⟨connection, hconn, hstep⟩ := hstep
      split at hstep
      case h_2 => cases hstep
      rename_i i stop hpump
      split at hstep
      · rename_i hstop
        subst hstop
        obtain rfl := Option.some.inj hstep
        exact .notified c connection i hconn hpump
      · rename_i hlast
        obtain ⟨observer, hobserver, rfl⟩ := Option.map_eq_some_iff.mp hstep
        exact .notify c connection i stop observer hconn hpump hlast hobserver
  | startThread c =>
      obtain ⟨connection, hconn, ⟨-, hpump⟩, rfl⟩ := bind_ite_eq_some.mp hstep
      exact .startThread c connection hconn hpump
  | receive c msg =>
      obtain ⟨connection, -, -, rfl⟩ := bind_ite_eq_some.mp hstep
      exact .receive c msg _
  | hangUp c =>
      obtain ⟨connection, hconn, hpump, rfl⟩ := bind_ite_eq_some.mp hstep
      exact .hangUp c connection hconn hpump
  | deleteThis c =>
      obtain ⟨connection, hconn, hpump, rfl⟩ := bind_ite_eq_some.mp hstep
      unfold State.deleteThis
      split
      · rename_i hstored
        exact .joins c connection hconn hpump hstored
      · exact .deletes c connection hconn hpump
  | receiveError c =>
      obtain ⟨connection, hconn, hpump, rfl⟩ := bind_ite_eq_some.mp hstep
      exact .receiveError c connection hconn hpump

/-- What a step about `c` leaves alone. -/
structure Elsewhere (s t : State κ) (c : κ) : Prop where
  conn : ∀ c', c' ≠ c → t.conn c' = s.conn c'
  connections : t.connections.filter (· ≠ c) = s.connections.filter (· ≠ c)

theorem Elsewhere.count {s t : State κ} {c c' : κ} (h : Elsewhere s t c) (hc : c' ≠ c) :
    t.connections.count c' = s.connections.count c' := by
  have hcount := congrArg (List.count c') h.connections
  simpa [List.count_filter, hc] using hcount

theorem Elsewhere.of_update {s t : State κ} {c : κ} {connection : Option SocketClientConnection}
    (hconn : t.conn = Function.update s.conn c connection)
    (hconnections : t.connections = s.connections) : Elsewhere s t c where
  conn c' hc' := by rw [hconn, Function.update_of_ne hc']
  connections := by rw [hconnections]

omit [DecidableEq κ] in
theorem onMessageReceived_frame (s : State κ) (c : κ) (msg : UrilProtocolMsg)
    (observers : List Observer) :
    (observers.foldl (·.onMessageReceived c msg) s).conn = s.conn ∧
      (observers.foldl (·.onMessageReceived c msg) s).connections = s.connections ∧
      (observers.foldl (·.onMessageReceived c msg) s).aborted = s.aborted := by
  induction observers generalizing s with
  | nil => exact ⟨rfl, rfl, rfl⟩
  | cons observer observers ih =>
      rw [List.foldl_cons]
      have hrest := ih (s.onMessageReceived c msg observer)
      cases observer with
      | connector => exact hrest
      | tracker => exact hrest

theorem onClientDisconnected_elsewhere (s : State κ) (c : κ)
    (connection : SocketClientConnection) (observer : Observer) :
    Elsewhere s (s.onClientDisconnected c connection observer) c := by
  cases observer with
  | tracker => exact .of_update rfl rfl
  | connector =>
      constructor
      case conn =>
        intro c' hc'
        exact Function.update_of_ne hc' _ _
      case connections => simp [State.onClientDisconnected, State.setConn]

theorem perform_elsewhere {s t : State κ} {a : Action κ} {c : κ}
    (hconnection : a.connection = some c) (hstep : s.perform a = some t) :
    Elsewhere s t c := by
  cases performed_of_perform hstep with
  | respond => cases hconnection
  | accept c' hfree =>
      cases hconnection
      exact ⟨fun c' hc' => Function.update_of_ne hc' _ _, by simp⟩
  | storeFreed c' =>
      cases hconnection
      exact ⟨fun _ _ => rfl, rfl⟩
  | receive c' msg observers =>
      cases hconnection
      obtain ⟨hconn, hconnections, -⟩ := onMessageReceived_frame s c msg observers
      exact ⟨fun c' _ => congrFun hconn c', by rw [hconnections]⟩
  | notify c' connection i stop observer =>
      cases hconnection
      exact onClientDisconnected_elsewhere s c _ observer
  | startThread | storeThread | hangUp | notified | joins | deletes | receiveError =>
      cases hconnection
      exact .of_update rfl rfl

theorem perform_actor_or {s t : State κ} {a : Action κ} (c : κ) (hstep : s.perform a = some t) :
    a.connection = some c ∨
      t.conn c = s.conn c ∧ t.connections.count c = s.connections.count c := by
  cases hconnection : a.connection with
  | none =>
      cases performed_of_perform hstep with
      | respond uniqueId => exact .inr ⟨rfl, rfl⟩
      | _ => cases hconnection
  | some c' =>
      obtain rfl | hc := eq_or_ne c c'
      · exact .inl rfl
      · have helsewhere := perform_elsewhere hconnection hstep
        exact .inr ⟨helsewhere.conn c hc, helsewhere.count hc⟩

/-- How often a connection is listed, and by whom it is observed, at each point
of its life. -/
def Tidy (listed : Nat) : Option SocketClientConnection → Prop
  | none => listed = 0
  | some connection =>
      match connection.pump with
      | .created | .running | .failed =>
          listed = 1 ∧ connection.observers = ⟨[.connector, .tracker], 2⟩
      | .notifying i stop => stop = 2 ∧
          (i = 0 ∧ listed = 1 ∧ connection.observers = ⟨[.connector, .tracker], 2⟩ ∨
            i = 1 ∧ listed = 0 ∧ connection.observers = ⟨[.tracker, .tracker], 1⟩ ∨
            i = 2 ∧ listed = 0)
      | .deleting => listed = 0

theorem tidy_onClientDisconnected {s : State κ} {c : κ} {connection : SocketClientConnection}
    {i stop : Nat} {observer : Observer} (hpump : connection.pump = .notifying i stop)
    (htidy : Tidy (s.connections.count c) (some connection)) (hlast : i ≠ stop)
    (hobserver : connection.observers.slots[i]? = some observer) :
    let t := s.onClientDisconnected c { connection with pump := .notifying (i + 1) stop } observer
    Tidy (t.connections.count c) (t.conn c) := by
  simp only [Tidy, hpump] at htidy
  obtain ⟨rfl, ⟨rfl, -, hobservers⟩ | ⟨rfl, hlisted, hobservers⟩ | ⟨rfl, -⟩⟩ := htidy
  · obtain rfl : Observer.connector = observer := by simpa [hobservers] using hobserver
    have hconn : (s.onClientDisconnected c { connection with pump := .notifying 1 2 }
        .connector).conn c = some { connection with
          pump := .notifying 1 2, observers := ⟨[.tracker, .tracker], 1⟩ } := by
      simp only [State.onClientDisconnected, State.setConn, Function.update_self, hobservers]
      rfl
    have hcount : (s.onClientDisconnected c { connection with pump := .notifying 1 2 }
        .connector).connections.count c = 0 :=
      List.count_eq_zero.mpr (by simp [State.onClientDisconnected])
    simp [Tidy, hconn, hcount]
  · obtain rfl : Observer.tracker = observer := by simpa [hobservers] using hobserver
    simpa [Tidy, State.onClientDisconnected, State.setConn] using hlisted
  · exact absurd rfl hlast

theorem tidy_actor {s t : State κ} {a : Action κ} {c : κ} (hconnection : a.connection = some c)
    (htidy : Tidy (s.connections.count c) (s.conn c)) (hstep : s.perform a = some t) :
    Tidy (t.connections.count c) (t.conn c) := by
  cases performed_of_perform hstep with
  | respond => cases hconnection
  | accept c' hfree =>
      cases hconnection
      have hcount : s.connections.count c = 0 := by simpa [Tidy, hfree] using htidy
      simp only [State.setConn, Function.update_self, List.count_append, hcount,
        List.count_singleton_self]
      exact ⟨rfl, rfl⟩
  | storeThread c' connection hconn =>
      cases hconnection
      rw [hconn] at htidy
      simpa [State.setConn, Tidy] using htidy
  | storeFreed c' => exact htidy
  | startThread c' connection hconn hpump | hangUp c' connection hconn hpump
  | receiveError c' connection hconn hpump =>
      cases hconnection
      rw [hconn] at htidy
      simp_all [State.setConn, Tidy]
  | receive c' msg observers =>
      cases hconnection
      obtain ⟨hconn, hconnections, -⟩ := onMessageReceived_frame s c msg observers
      rwa [hconn, hconnections]
  | notify c' connection i stop observer hconn hpump hlast hobserver =>
      cases hconnection
      rw [hconn] at htidy
      exact tidy_onClientDisconnected hpump htidy hlast hobserver
  | notified c' connection i hconn hpump =>
      cases hconnection
      rw [hconn] at htidy
      have hcount : s.connections.count c = 0 := by
        simp only [Tidy, hpump] at htidy
        omega
      simpa [State.setConn, Tidy] using hcount
  | joins c' connection hconn hpump =>
      cases hconnection
      rw [hconn] at htidy
      simpa [State.setConn, Tidy, hpump] using htidy
  | deletes c' connection hconn hpump =>
      cases hconnection
      rw [hconn] at htidy
      simpa [Tidy, hpump] using htidy

theorem tidy_step {s t : State κ} {a : Action κ}
    (htidy : ∀ c, Tidy (s.connections.count c) (s.conn c)) (hstep : step s a = some t) :
    ∀ c, Tidy (t.connections.count c) (t.conn c) := by
  obtain ⟨-, hstep⟩ := step_eq_some.mp hstep
  intro c
  rcases perform_actor_or c hstep with hconnection | ⟨hconn, hcount⟩
  · exact tidy_actor hconnection (htidy c) hstep
  · rw [hconn, hcount]
    exact htidy c

theorem tidy_reached {allowed : State κ → Action κ → Prop} {s : State κ}
    (hrun : Reaches step allowed (State.initial : State κ) s) :
    ∀ c, Tidy (s.connections.count c) (s.conn c) := by
  refine hrun.invariant (fun s => ∀ c, Tidy (s.connections.count c) (s.conn c)) ?_ ?_
  · intro c
    exact List.count_nil
  · exact fun _ _ _ htidy _ hstep => tidy_step htidy hstep

/-- The state of a pump loop that ended: the object is deleted, or it is left
behind. -/
def Ended : Option SocketClientConnection → Prop
  | none => True
  | some connection => connection.pump = .failed

/-- `mConnections` has the connections whose pump loops run, each once, and
none whose loop ended. -/
structure ListsTheRunning (s : State κ) : Prop where
  running : ∀ c connection, s.conn c = some connection → connection.pump = .running →
    s.connections.count c = 1
  ended : ∀ c, Ended (s.conn c) → c ∉ s.connections

/-- No `recv` fails. -/
def ReceivesCleanly (_ : State κ) : Action κ → Prop
  | .receiveError _ => False
  | _ => True

/-- A loop that ended on a failed `recv` stays listed, along any run. -/
theorem failed_stays_listed {allowed : State κ → Action κ → Prop} {s : State κ}
    (hrun : Reaches step allowed (State.initial : State κ) s) {c : κ}
    {connection : SocketClientConnection} (hconn : s.conn c = some connection)
    (hfailed : connection.pump = .failed) : c ∈ s.connections := by
  have htidy := tidy_reached hrun c
  simp only [hconn, Tidy, hfailed] at htidy
  exact List.count_pos_iff.mp (by omega)

theorem failed_actor {s t : State κ} {a : Action κ} {c : κ} (hconnection : a.connection = some c)
    (hclean : ReceivesCleanly s a)
    (hsource : ∀ connection, s.conn c = some connection → connection.pump ≠ .failed)
    (hstep : s.perform a = some t) :
    ∀ connection, t.conn c = some connection → connection.pump ≠ .failed := by
  cases performed_of_perform hstep with
  | receiveError => exact hclean.elim
  | respond => exact hsource
  | storeFreed c' => exact hsource
  | receive c' msg observers => rwa [(onMessageReceived_frame s c' msg observers).1]
  | storeThread c' connection hconn =>
      cases hconnection
      simpa [State.setConn] using hsource connection hconn
  | notify c' connection i stop observer =>
      cases hconnection
      cases observer <;> simp [State.onClientDisconnected, State.setConn]
  | joins c' connection hconn hpump =>
      cases hconnection
      simp [State.setConn, hpump]
  | accept | startThread | hangUp | notified | deletes =>
      cases hconnection
      simp [State.setConn, SocketClientConnection.accepted]

theorem failed_step {s t : State κ} {a : Action κ} {c : κ} (hclean : ReceivesCleanly s a)
    (hsource : ∀ connection, s.conn c = some connection → connection.pump ≠ .failed)
    (hstep : step s a = some t) :
    ∀ connection, t.conn c = some connection → connection.pump ≠ .failed := by
  obtain ⟨-, hstep⟩ := step_eq_some.mp hstep
  rcases perform_actor_or c hstep with hconnection | ⟨hconn, -⟩
  · exact failed_actor hconnection hclean hsource hstep
  · rwa [hconn]

/-- Along runs in which no `recv` fails, the connector lists exactly the
connections whose loops run. -/
theorem lists_the_running {s : State κ}
    (hrun : Reaches step ReceivesCleanly (State.initial : State κ) s) : ListsTheRunning s := by
  have htidy := tidy_reached hrun
  have hclean : ∀ c connection, s.conn c = some connection → connection.pump ≠ .failed := by
    refine hrun.invariant
      (fun s => ∀ c connection, s.conn c = some connection → connection.pump ≠ .failed) ?_ ?_
    · simp [State.initial]
    · exact fun t a u h hallowed hstep c => failed_step hallowed (h c) hstep
  constructor
  case running =>
    intro c connection hconn hrunning
    have hc := htidy c
    simp only [hconn, Tidy, hrunning] at hc
    exact hc.1
  case ended =>
    intro c hended
    have hc := htidy c
    cases hconn : s.conn c with
    | none =>
        rw [hconn] at hc
        exact List.count_eq_zero.mp hc
    | some connection =>
        rw [hconn] at hended
        exact absurd hended (hclean c connection hconn)

/-- One client leaves, the other stays. -/
theorem lists_the_running_sample :
    ∃ s : State Nat, Reaches step ReceivesCleanly State.initial s ∧ s.connections = [1] ∧
      s.conn 2 = none ∧ ListsTheRunning s := by
  obtain ⟨s, hexec, hlisted, hgone⟩ : ∃ s, exec (@step Nat _) (fun _ a => match a with
      | .receiveError _ => false
      | _ => true) State.initial
      [.accept 1, .startThread 1, .storeThread 1, .accept 2, .startThread 2, .hangUp 2,
        .notify 2, .notify 2, .notify 2, .deleteThis 2, .storeThread 2] = some s ∧
      s.connections = [1] ∧ s.conn 2 = none := ⟨_, rfl, rfl, rfl⟩
  have hrun : Reaches step ReceivesCleanly State.initial s := by
    refine reaches_of_exec _ ?_ _ hexec
    intro s a hok
    cases a <;> simp_all [ReceivesCleanly]
  exact ⟨s, hrun, hlisted, hgone, lists_the_running hrun⟩

/-- A failed `recv` ends the loop, and nobody is told. -/
theorem failed_receive_stays_listed :
    ¬ ∀ s : State Nat, Reaches step anyAction State.initial s → ListsTheRunning s := by
  intro hends
  obtain ⟨s, hexec, hlisted, hfailed⟩ : ∃ s, exec (@step Nat _) (fun _ _ => true) State.initial
      [.accept 1, .startThread 1, .receiveError 1] = some s ∧ s.connections = [1] ∧
      (s.conn 1).map (·.pump) = some .failed := ⟨_, rfl, rfl, rfl⟩
  have hrun : Reaches _ anyAction _ s := reaches_of_exec _ (fun _ _ _ => trivial) _ hexec
  obtain ⟨connection, hconn, hpump⟩ := Option.map_eq_some_iff.mp hfailed
  have hended : Ended (s.conn 1) := by rwa [hconn]
  exact (hends s hrun).ended 1 hended (by simp [hlisted])

/-- A step of one disconnection concerns nobody else: the process goes on, and
the other clients can do all that they could before. -/
structure Isolated (s t : State κ) (c : κ) : Prop where
  running : t.aborted = false
  others : ∀ c', c' ≠ c → t.conn c' = s.conn c'
  listed : t.connections.filter (· ≠ c) = s.connections.filter (· ≠ c)
  pendingRequests : t.pendingRequests = s.pendingRequests
  continuing : ∀ b : Action κ, b.connection ≠ some c → (step s b).isSome → (step t b).isSome

/-- `delete this` comes before the accept loop stored the thread. -/
def JoinsNobody (s : State κ) : Action κ → Prop
  | .deleteThis c => ∀ connection, s.conn c = some connection → connection.threadStored = false
  | _ => True

theorem perform_disconnecting {s t : State κ} {a : Action κ}
    (hdisconnecting : a.disconnecting = true) (hjoins : JoinsNobody s a)
    (hstep : s.perform a = some t) :
    t.aborted = s.aborted ∧ t.pendingRequests = s.pendingRequests ∧
      t.igniting = s.igniting := by
  cases performed_of_perform hstep with
  | hangUp | notified | deletes => exact ⟨rfl, rfl, rfl⟩
  | notify c connection i stop observer => cases observer <;> exact ⟨rfl, rfl, rfl⟩
  | joins c connection hconn hpump hstored =>
      exact absurd hstored (by simp [hjoins connection hconn])
  | accept | startThread | storeThread | storeFreed | receive | respond | receiveError =>
      cases hdisconnecting

theorem perform_isSome {s t : State κ} {b : Action κ}
    (hconn : ∀ c, b.connection = some c → t.conn c = s.conn c)
    (higniting : t.igniting = s.igniting) (hstep : (s.perform b).isSome) :
    (t.perform b).isSome := by
  cases b with
  | respond => rfl
  | accept c | storeThread c | startThread c | receive c msg | hangUp c | notify c
  | deleteThis c | receiveError c =>
      have hc := hconn c rfl
      simp only [State.perform, hc, higniting] at hstep ⊢
      grind

theorem isolated_step {s t : State κ} {a : Action κ} {c : κ}
    (hdisconnecting : a.disconnecting = true) (hconnection : a.connection = some c)
    (hjoins : JoinsNobody s a) (hstep : step s a = some t) : Isolated s t c := by
  obtain ⟨hrunning, hperform⟩ := step_eq_some.mp hstep
  obtain ⟨haborted, hpending, higniting⟩ := perform_disconnecting hdisconnecting hjoins hperform
  have helsewhere := perform_elsewhere hconnection hperform
  refine ⟨haborted.trans hrunning, helsewhere.conn, helsewhere.connections, hpending, ?_⟩
  intro b hb henabled
  obtain ⟨u, hu⟩ := Option.isSome_iff_exists.mp henabled
  have hperforms : (t.perform b).isSome := by
    refine perform_isSome ?_ higniting (by simp [(step_eq_some.mp hu).2])
    intro c' hc'
    exact helsewhere.conn c' fun heq => hb (heq ▸ hc')
  unfold step
  rwa [haborted, hrunning]

theorem running_step {s t : State κ} {a : Action κ} (hjoins : JoinsNobody s a)
    (hstep : step s a = some t) : t.aborted = false := by
  obtain ⟨hrunning, hperform⟩ := step_eq_some.mp hstep
  cases performed_of_perform hperform with
  | hangUp | notify | notified | joins | deletes =>
      exact (isolated_step rfl rfl hjoins hstep).running
  | receive c msg observers => rwa [(onMessageReceived_frame s c msg observers).2.2]
  | accept | startThread | storeThread | storeFreed | respond | receiveError => exact hrunning

/-- Along runs in which no connection is deleted with its thread stored, the
process keeps running, and every step of a disconnection is isolated. -/
theorem disconnections_isolated {s : State κ}
    (hrun : Reaches step JoinsNobody (State.initial : State κ) s) :
    s.aborted = false ∧ ∀ (a : Action κ) (c : κ) (t : State κ), a.disconnecting = true →
      a.connection = some c → JoinsNobody s a → step s a = some t → Isolated s t c := by
  constructor
  · exact hrun.invariant (fun s => s.aborted = false) rfl
      fun _ _ _ _ hjoins hstep => running_step hjoins hstep
  · intro a c t hdisconnecting hconnection hjoins hstep
    exact isolated_step hdisconnecting hconnection hjoins hstep

/-- A client leaves while the accept loop is still busy with it. -/
theorem disconnections_isolated_sample :
    ∃ s t : State Nat, Reaches step JoinsNobody State.initial s ∧ s.connections = [1] ∧
      step s (.deleteThis 2) = some t ∧ t.conn 2 = none ∧ Isolated s t 2 := by
  obtain ⟨s, t, hexec, hlisted, hstep, hgone, hstored⟩ : ∃ s t,
      exec (@step Nat _) (fun _ a => match a with
        | .deleteThis _ => false
        | _ => true) State.initial
        [.accept 1, .startThread 1, .storeThread 1, .accept 2, .startThread 2, .hangUp 2,
          .notify 2, .notify 2, .notify 2] = some s ∧
      s.connections = [1] ∧ step s (.deleteThis 2) = some t ∧ t.conn 2 = none ∧
      (s.conn 2).map (·.threadStored) = some false := ⟨_, _, rfl, rfl, rfl, rfl, rfl⟩
  have hrun : Reaches step JoinsNobody State.initial s := by
    refine reaches_of_exec _ ?_ _ hexec
    intro s a hok
    cases a <;> simp_all [JoinsNobody]
  have hjoins : JoinsNobody s (.deleteThis 2) := by
    intro connection hconn
    simpa [hconn] using hstored
  exact ⟨s, t, hrun, hlisted, hstep, hgone,
    (disconnections_isolated hrun).2 _ 2 t rfl rfl hjoins hstep⟩

/-- An ordinary disconnection: the pump thread joins itself. -/
theorem disconnection_joins_itself :
    ¬ ∀ s : State Nat, Reaches step anyAction State.initial s → s.aborted = false ∧
      ∀ (a : Action Nat) (c : Nat) (t : State Nat), a.disconnecting = true →
        a.connection = some c → step s a = some t → Isolated s t c := by
  intro hisolated
  obtain ⟨s, hexec, haborted⟩ : ∃ s, exec (@step Nat _) (fun _ _ => true) State.initial
      [.accept 1, .startThread 1, .storeThread 1, .hangUp 1, .notify 1, .notify 1, .notify 1,
        .deleteThis 1] = some s ∧ s.aborted = true := ⟨_, rfl, rfl⟩
  have hrun : Reaches _ anyAction _ s := reaches_of_exec _ (fun _ _ _ => trivial) _ hexec
  exact absurd haborted (by simp [(hisolated s hrun).1])

/-- The loop over the observers reads no slot that the vector never had, along
any run. -/
theorem notify_possible {allowed : State κ → Action κ → Prop} {s : State κ}
    (hrun : Reaches step allowed (State.initial : State κ) s) (hrunning : s.aborted = false)
    {c : κ} {connection : SocketClientConnection} {i stop : Nat}
    (hconn : s.conn c = some connection) (hpump : connection.pump = .notifying i stop) :
    (step s (.notify c)).isSome := by
  have htidy := tidy_reached hrun c
  simp only [hconn, Tidy, hpump] at htidy
  obtain ⟨rfl, ⟨rfl, -, hobservers⟩ | ⟨rfl, -, hobservers⟩ | ⟨rfl, -⟩⟩ := htidy
  · simp [step, hrunning, State.perform, hconn, hpump, hobservers]
  · simp [step, hrunning, State.perform, hconn, hpump, hobservers]
  · simp [step, hrunning, State.perform, hconn, hpump]

end UnifiedRil.ConnectionLifecycle

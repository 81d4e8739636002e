import UnifiedRil.ConnectionLifecycle
import UnifiedRil.ConnectorLifeCycle
import UnifiedRil.OrphanRequests

/-!
`UrilService.cpp` from the configuration to the first requests: the objects that
`main` makes, the vendor library that it loads, the connector that it starts, and
`acceptLoop` statement by statement. The vendor may call back as soon as
`RIL_Init` is called, and a client may write to its socket before the service
accepted it. A run ends where `main` returns or the process fails, and is
followed until the first client leaves.
-/

namespace UnifiedRil.StartUp

open UnifiedRil.Library.CStrings
open UnifiedRil.Library.Runs
open UnifiedRil.Protocol
open UnifiedRil.Messages
open UnifiedRil.Ril
open UnifiedRil.RilHandlers
open UnifiedRil.RilAdapter
open UnifiedRil.RequestProcessors
open UnifiedRil.ConnectionLifecycle (Observer ObserverVector Pump SocketClientConnection)

variable {κ : Type} [DecidableEq κ]

inductive ConnectorType
  | localUnix
  | tcp
  deriving DecidableEq

inductive ModemAdapterType
  | rilModemAdapter
  | stub
  deriving DecidableEq

/-- `uril_config_t` -/
structure UrilConfig where
  connectorType : ConnectorType
  localMaxClientsCount : UInt32
  tcpMaxClientsCount : UInt32
  tcpBindingIp : UInt32
  tcpBindingPort : UInt32
  vendorRilPath : CharPtr
  modemAdapterType : ModemAdapterType

def vendorRilPath : CString where
  chars := ascii ['l', 'i', 'b', 'r', 'p', 'c', '-', 'r', 'i', 'l', '.', 's', 'o']
  noNul := by decide

/-- `StaticConfigProvider::getConfig`; the connector is chosen by
`CONNECTOR_TCP`. -/
def getConfig (connectorTcp : Bool) : UrilConfig where
  connectorType := if connectorTcp then .tcp else .localUnix
  localMaxClientsCount := 5
  tcpMaxClientsCount := 5
  tcpBindingIp := 0
  tcpBindingPort := 5060
  vendorRilPath := .to vendorRilPath
  modemAdapterType := .rilModemAdapter

/-- What ends the process. -/
inductive Failure
  | assertion
  /-- `std::string` of a null pointer throws, and nobody catches -/
  | exception
  /-- a function of the vendor is called through `funcs`, which is null -/
  | nullFunctions
  /-- a request method or a handler of the adapter -/
  | adapter (fault : Fault)
  deriving DecidableEq

inductive ClientConnector
  | unixSocket (maxClientsCount : UInt32)
  | tcpSocket (maxClientsCount ipBinding port : UInt32)
  deriving DecidableEq

def createClientConnector (config : UrilConfig) : ClientConnector :=
  match config.connectorType with
  | .tcp => .tcpSocket config.tcpMaxClientsCount config.tcpBindingIp config.tcpBindingPort
  | .localUnix => .unixSocket config.localMaxClientsCount

/-- An adapter is known by its `mRilPath`; there is none for the stub. -/
def createModemAdapter (config : UrilConfig) : Except Failure (Option CString) :=
  match config.modemAdapterType with
  | .rilModemAdapter =>
      match config.vendorRilPath with
      | .to path => .ok (some path)
      | .null => .error .exception
      | .wild => .error (.adapter .badRead)
  | .stub => .ok none

/-- The constructor of a processor, which asserts that it has an adapter and tells
it whom to respond to: the `mModemAdapter` of the processor. -/
def newProcessor (adapter : Option CString) : Except Failure CString :=
  match adapter with
  | some mModemAdapter => .ok mModemAdapter
  | none => .error .assertion

/-- `createRequestProcessor`: the adapters of the three processors. -/
def createRequestProcessor (adapter : Option CString) : Except Failure (List CString) := do
  let network ← newProcessor adapter
  let radio ← newProcessor adapter
  let data ← newProcessor adapter
  return [network, radio, data]

/-- What `main` has made before it initializes the adapter. -/
structure Service where
  connector : ClientConnector
  observers : List Observer
  adapter : Option CString
  requestProcessor : List CString

/-- `main` up to `setNextProcessor` -/
def construct (config : UrilConfig) : Except Failure Service := do
  let connector := createClientConnector config
  let adapter ← createModemAdapter config
  -- the constructor of the tracker registers it with the connector
  let observers := [Observer.tracker]
  let requestProcessor ← createRequestProcessor adapter
  return { connector, observers, adapter, requestProcessor }

inductive MainAt
  | initializing
  /-- `RIL_Init` is called and did not return -/
  | inRilInit
  | starting
  | sleeping
  | returned
  deriving DecidableEq

/-- Where `acceptLoop` is. From `created` on it has a connection. -/
inductive AcceptAt (κ : Type)
  | notStarted
  | listening
  | waiting
  | created (c : κ)
  | listed (c : κ)
  /-- the connector observes it -/
  | observed (c : κ)
  /-- the observers of the connector know of it -/
  | notified (c : κ)
  | ended
  deriving DecidableEq

structure State (κ : Type) where
  main : MainAt
  funcs : Bool
  listening : ConnectorLifeCycle.State
  accept : AcceptAt κ
  connections : List κ
  conn : κ → Option SocketClientConnection
  /-- what a client wrote, oldest first -/
  sent : κ → List UrilProtocolMsg
  /-- what of it was not received -/
  toService : κ → List UrilProtocolMsg
  /-- the requests that the tracker was told of, oldest first -/
  tracked : κ → List UrilProtocolMsg
  events : List UrilProtocolMsg
  indications : κ → List UrilProtocolMsg
  requests : OrphanRequests.State κ
  failure : Option Failure

/-- The state in which `main` calls `init`. -/
def State.initial : State κ :=
  { main := .initializing, funcs := false, listening := .initial, accept := .notStarted
    connections := [], conn := fun _ => none, sent := fun _ => [], toService := fun _ => []
    tracked := fun _ => [], events := [], indications := fun _ => [], requests := .initial
    failure := none }

/-- What the system and the vendor give to `main`. -/
structure System where
  opened : Bool
  found : Bool
  functions : Bool
  offered : Option Nat

inductive Action (κ : Type)
  | main (system : System)
  | send (c : κ) (request : UrilProtocolMsg)
  | listen (ok : Bool)
  | accept (client : Option κ)
  | acceptStep
  | receive (c : κ)
  /-- a step of the tracker and the adapter, other than for a new request -/
  | requests (a : OrphanRequests.Action κ)
  | unsolicited (event : RilUnsol)

def ClientConnector.kind : ClientConnector → ConnectorLifeCycle.Connector
  | .unixSocket _ => .unix
  | .tcpSocket _ _ _ => .tcp

/-- `start` of the connector -/
def ClientConnector.start (connector : ClientConnector) (s : ConnectorLifeCycle.State)
    (offered : Option Nat) : Bool × ConnectorLifeCycle.State :=
  match connector.kind with
  | .unix => ConnectorLifeCycle.unixStart s offered
  | .tcp => ConnectorLifeCycle.tcpStart s offered

/-- The next statements of `main`, up to the next call into other code. -/
def State.mainStep (service : Service) (system : System) (s : State κ) : Option (State κ) :=
  match s.main with
  | .initializing =>
      match service.adapter with
      | some _ =>
          if system.opened && system.found then some { s with main := .inRilInit }
          else some { s with main := .returned }
      | none => some { s with main := .starting }
  | .inRilInit => some { s with funcs := system.functions, main := .starting }
  | .starting =>
      let (started, listening) := service.connector.start s.listening system.offered
      if started then
        some { s with listening := listening, main := .sleeping, accept := .listening }
      else some { s with listening := listening, main := .returned }
  | .sleeping | .returned => none

/-- After the constructor of the connection. -/
def newConnection : SocketClientConnection :=
  { pump := .created, observers := ⟨[], 0⟩, threadStored := false, socketOpen := true }

def observedBy (observer : Observer) (connection : SocketClientConnection) :
    SocketClientConnection :=
  { connection with observers := connection.observers.registerObserver observer }

/-- `onNewConnection` of the observers of the connector -/
def onNewConnection (observers : List Observer) (connection : SocketClientConnection) :
    SocketClientConnection :=
  observers.foldl (fun connection observer => observedBy observer connection) connection

/-- `ignitPump` -/
def ignitPump (connection : SocketClientConnection) : SocketClientConnection :=
  { connection with pump := .running, threadStored := true }

def State.modify (s : State κ) (c : κ) (f : SocketClientConnection → SocketClientConnection) :
    State κ :=
  { s with conn := Function.update s.conn c ((s.conn c).map f) }

def State.acceptStep (service : Service) (s : State κ) : Option (State κ) :=
  match s.accept with
  | .created c => some { s with accept := .listed c, connections := s.connections ++ [c] }
  | .listed c => some ({ s with accept := .observed c }.modify c (observedBy .connector))
  | .observed c =>
      some ({ s with accept := .notified c }.modify c (onNewConnection service.observers))
  | .notified c => some ({ s with accept := .waiting }.modify c ignitPump)
  | _ => none

/-- `onMessageReceived` of the observers of a connection -/
def State.onMessageReceived (c : κ) (msg : UrilProtocolMsg) (s : State κ) : Observer → State κ
  | .connector => s
  | .tracker =>
      match OrphanRequests.step s.requests (.track c msg) with
      | some requests =>
          { s with
            requests := requests
            tracked := Function.update s.tracked c (s.tracked c ++ [msg]) }
      | none => s

/-- The pump of the connection takes a message from the socket when it is done
with the last one. -/
def State.receive (s : State κ) (c : κ) : Option (State κ) :=
  match s.conn c, s.toService c with
  | some connection, msg :: rest =>
      if connection.pump = .running ∧ (s.requests.calls c).isNone then
        some (connection.observers.registered.foldl (State.onMessageReceived c msg)
          { s with toService := Function.update s.toService c rest })
      else none
  | _, _ => none

/-- The vendor is given a request. -/
def isSubmit : Effect → Bool
  | .submit _ _ => true
  | .radioThread _ _ => false

/-- A call through `funcs` -/
def calling (funcs : Bool) : Option Failure :=
  if funcs then none else some .nullFunctions

/-- What goes wrong in a step of the tracker and the adapter. -/
def hazard (funcs : Bool) (s : OrphanRequests.State κ) :
    OrphanRequests.Action κ → Option Failure
  | .dispatch c =>
      match s.calls c with
      | some (.tracked request) =>
          match processRequest request with
          | .ok p => if p.effects.any isSubmit then calling funcs else none
          | .error fault => some (.adapter fault)
      | _ => none
  | .answer submission answer uninitialised _ =>
      match s.adapter.contexts submission.1 with
      | some entry =>
          if s.adapter.outstanding.contains submission then
            match runHandler entry.ctx answer.error answer.data uninitialised with
            | .ok _ => none
            | .error fault => some (.adapter fault)
          else none
      | none => none
  | .followUp thread => if s.adapter.followUps.contains thread then calling funcs else none
  | .radioMode i radioState =>
      match s.radioThreads[i]? with
      | some ⟨_, _, _, some (uid, sid)⟩ =>
          match calling funcs, radioModeResponse uid sid radioState with
          | some failure, _ => some failure
          | none, .error fault => some (.adapter fault)
          | none, .ok _ => none
      | _ => none
  | _ => none

/-- Not the entry for a new request, which comes with `receive`. -/
def isInner : OrphanRequests.Action κ → Bool
  | .track _ _ => false
  | _ => true

def State.requestsStep (s : State κ) (a : OrphanRequests.Action κ) : Option (State κ) :=
  if isInner a then
    match hazard s.funcs s.requests a with
    | some failure => some { s with failure := some failure }
    | none =>
        (OrphanRequests.step s.requests a).map fun requests => { s with requests := requests }
  else none

/-- `RIL_onUnsolicitedResponse`; the vendor has it from the call of `RIL_Init`
on. -/
def State.unsolicited (s : State κ) (event : RilUnsol) : Option (State κ) :=
  if s.main = .initializing then none
  else
    let msg := handleRilUnsolicitedResponse event
    some { s with
      events := s.events ++ [msg]
      indications := fun c => s.indications c ++ List.replicate (s.connections.count c) msg }

def State.perform (service : Service) (s : State κ) : Action κ → Option (State κ)
  | .main system => s.mainStep service system
  | .send c request =>
      some { s with
        sent := Function.update s.sent c (s.sent c ++ [request])
        toService := Function.update s.toService c (s.toService c ++ [request]) }
  | .listen ok =>
      if s.accept = .listening then some { s with accept := if ok then .waiting else .ended }
      else none
  | .accept client =>
      if s.accept = .waiting then
        match client with
        | some c =>
            if s.conn c = none then
              some { s with
                accept := .created c
                conn := Function.update s.conn c (some newConnection) }
            else none
        | none => some { s with accept := .ended }
      else none
  | .acceptStep => s.acceptStep service
  | .receive c => s.receive c
  | .requests a => s.requestsStep a
  | .unsolicited event => s.unsolicited event

/-- The process is there until it fails or `main` returns. -/
def step (service : Service) (s : State κ) (a : Action κ) : Option (State κ) :=
  if s.failure = none ∧ s.main ≠ .returned then s.perform service a else none

theorem construct_ok {config : UrilConfig} {service : Service}
    (h : construct config = .ok service) :
    config.modemAdapterType = .rilModemAdapter ∧ (∃ path, config.vendorRilPath = .to path ∧
      service.adapter = some path) ∧ service.observers = [.tracker] := by
  cases htype : config.modemAdapterType with
  | rilModemAdapter =>
      rcases hpath : config.vendorRilPath with _ | path | _ <;>
        simp only [construct, createModemAdapter, htype, hpath] at h <;> cases h
      exact ⟨rfl, ⟨path, rfl, rfl⟩, rfl⟩
  | stub =>
      simp only [construct, createModemAdapter, htype] at h
      cases h

theorem construct_iff (config : UrilConfig) :
    (∃ service, construct config = .ok service) ↔
      config.modemAdapterType = .rilModemAdapter ∧ ∃ path, config.vendorRilPath = .to path := by
  constructor
  · rintro ⟨service, h⟩
    obtain ⟨htype, ⟨path, hpath, -⟩, -⟩ := construct_ok h
    exact ⟨htype, path, hpath⟩
  · rintro ⟨htype, path, hpath⟩
    refine ⟨⟨createClientConnector config, [.tracker], some path, [path, path, path]⟩, ?_⟩
    simp only [construct, createModemAdapter, htype, hpath]
    rfl

/-- The connection that `acceptLoop` is busy with. -/
def AcceptAt.current : AcceptAt κ → Option κ
  | .created c | .listed c | .observed c | .notified c => some c
  | _ => none

/-- What `acceptLoop` has made of it. -/
def AcceptAt.made : AcceptAt κ → SocketClientConnection
  | .observed _ => observedBy .connector newConnection
  | .notified _ => .accepted
  | _ => newConnection

/-- A connection before the first client leaves. -/
def connectionAt (at_ : AcceptAt κ) (c : κ) : SocketClientConnection :=
  if at_.current = some c then at_.made else ignitPump .accepted

theorem onNewConnection_tracker :
    onNewConnection [.tracker] (observedBy .connector newConnection) = .accepted := rfl

omit [DecidableEq κ] in
theorem made_pump (at_ : AcceptAt κ) : at_.made.pump = .created := by
  cases at_ <;> rfl

/-- A pump that runs has observers that were all told of its connection. -/
theorem connectionAt_running {at_ : AcceptAt κ} {c : κ}
    (h : (connectionAt at_ c).pump = .running) :
    (connectionAt at_ c).observers.registered = [.connector, .tracker] := by
  unfold connectionAt at h ⊢
  split
  · rw [if_pos ‹_›, made_pump] at h
    cases h
  · rfl

/-- Nothing was submitted to the vendor. -/
structure Idle (s : AdapterRuns.State) : Prop where
  next : s.next = 0
  outstanding : s.outstanding = []
  followUps : s.followUps = []

section Requests

variable {s t : OrphanRequests.State κ} {a : OrphanRequests.Action κ}

omit [DecidableEq κ] in
theorem calling_some {funcs : Bool} {failure : Failure} (h : calling funcs = some failure) :
    failure = .nullFunctions ∧ funcs = false := by
  unfold calling at h
  split at h
  · cases h
  · rename_i hfuncs
    exact ⟨(Option.some.inj h).symm, by simpa using hfuncs⟩

omit [DecidableEq κ] in
theorem hazard_some {funcs : Bool} {failure : Failure} (h : hazard funcs s a = some failure) :
    failure = .nullFunctions ∧ funcs = false ∨ ∃ fault, failure = .adapter fault := by
  cases a with
  | track c request => cases h
  | ret c => cases h
  | readIds i leftover => cases h
  | dispatch c =>
      simp only [hazard] at h
      split at h
      · split at h
        · split at h
          · exact .inl (calling_some h)
          · cases h
        · exact .inr ⟨_, (Option.some.inj h).symm⟩
      · cases h
  | answer submission answer uninitialised address =>
      simp only [hazard] at h
      split at h
      · split at h
        · split at h
          · cases h
          · exact .inr ⟨_, (Option.some.inj h).symm⟩
        · cases h
      · cases h
  | followUp thread =>
      simp only [hazard] at h
      split at h
      · exact .inl (calling_some h)
      · cases h
  | radioMode i radioState =>
      simp only [hazard] at h
      split at h
      · split at h
        · rename_i failure' _ hcalling
          obtain rfl := Option.some.inj h
          exact .inl (calling_some hcalling)
        · exact .inr ⟨_, (Option.some.inj h).symm⟩
        · cases h
      · cases h

theorem idle_step (hidle : Idle s.adapter) (hnone : hazard false s a = none)
    (hstep : OrphanRequests.step s a = some t) : Idle t.adapter := by
  obtain ⟨hnext, houtstanding, hfollowUps⟩ := hidle
  cases a with
  | track c request =>
      simp only [OrphanRequests.step] at hstep
      split at hstep
      · cases hstep
        exact ⟨hnext, houtstanding, hfollowUps⟩
      · cases hstep
  | dispatch c =>
      simp only [OrphanRequests.step] at hstep
      split at hstep
      case h_2 => cases hstep
      rename_i request hcall
      split at hstep
      case h_2 => cases hstep
      rename_i p hp
      obtain rfl := Option.some.inj hstep
      simp only [hazard, hcall, hp] at hnone
      rcases processRequest_outcome request p hp with _ | hmode | ⟨v, hknown, hid⟩
      · exact ⟨hnext, houtstanding, hfollowUps⟩
      · exact ⟨hnext, houtstanding, hfollowUps⟩
      · cases hnone
  | ret c =>
      simp only [OrphanRequests.step] at hstep
      split at hstep
      · cases hstep
        exact ⟨hnext, houtstanding, hfollowUps⟩
      · cases hstep
  | answer submission answer uninitialised address =>
      simp [OrphanRequests.step, AdapterRuns.State.answer, houtstanding] at hstep
  | followUp thread =>
      simp [OrphanRequests.step, AdapterRuns.State.submitFollowUp, hfollowUps] at hstep
  | readIds i leftover =>
      simp only [OrphanRequests.step] at hstep
      split at hstep
      · split at hstep
        · cases hstep
          exact ⟨hnext, houtstanding, hfollowUps⟩
        · cases hstep
      · cases hstep
  | radioMode i radioState =>
      simp only [OrphanRequests.step] at hstep
      split at hstep
      · split at hstep
        · cases hstep
          simp only [OrphanRequests.processResponse_adapter]
          exact ⟨hnext, houtstanding, hfollowUps⟩
        · cases hstep
      · cases hstep

theorem step_initial (hinner : isInner a = true) :
    OrphanRequests.step (.initial : OrphanRequests.State κ) a = none := by
  cases a with
  | track c request => cases hinner
  | dispatch c => rfl
  | ret c => rfl
  | answer submission answer uninitialised address =>
      simp [OrphanRequests.step, AdapterRuns.State.answer, OrphanRequests.State.initial,
        AdapterRuns.State.initial]
  | followUp thread =>
      simp [OrphanRequests.step, AdapterRuns.State.submitFollowUp, OrphanRequests.State.initial,
        AdapterRuns.State.initial]
  | readIds i leftover => rfl
  | radioMode i radioState => rfl

end Requests

/-- Before the connector is started nobody is connected. -/
structure Quiet (s : State κ) : Prop where
  accept : s.accept = .notStarted
  connections : s.connections = []
  conn : ∀ c, s.conn c = none
  tracked : ∀ c, s.tracked c = []
  requests : s.requests = .initial

structure Inv (s : State κ) : Prop where
  quiet : s.main ≠ .sleeping → Quiet s
  conn : ∀ c connection, s.conn c = some connection → connection = connectionAt s.accept c
  current : ∀ c, s.accept.current = some c → s.conn c ≠ none
  listed : ∀ c ∈ s.connections, s.conn c ≠ none ∧ s.accept ≠ .created c
  nodup : s.connections.Nodup
  kept : ∀ c, s.tracked c ++ s.toService c = s.sent c
  told : ∀ c, ∃ missed, s.events = missed ++ s.indications c
  untold : ∀ c, c ∉ s.connections → s.indications c = []
  idle : s.funcs = false → Idle s.requests.adapter
  failure : ∀ failure, s.failure = some failure →
    failure = .nullFunctions ∧ s.funcs = false ∨ ∃ fault, failure = .adapter fault

theorem inv_initial : Inv (State.initial : State κ) where
  quiet _ := ⟨rfl, rfl, fun _ => rfl, fun _ => rfl, rfl⟩
  conn c connection h := by cases h
  current c h := by cases h
  listed c h := by cases h
  nodup := List.nodup_nil
  kept _ := rfl
  told _ := ⟨[], rfl⟩
  untold _ _ := rfl
  idle _ := ⟨rfl, rfl, rfl⟩
  failure failure h := by cases h

section Steps

variable {service : Service} {s t : State κ}

theorem inv_main (h : Inv s) (halive : s.failure = none) {system : System}
    (hstep : s.mainStep service system = some t) : Inv t ∧ t.requests = s.requests := by
  unfold State.mainStep at hstep
  cases hmain : s.main with
  | initializing =>
      have hquiet := h.quiet (by simp [hmain])
      rw [hmain] at hstep
      rcases hadapter : service.adapter with _ | path
      · simp only [hadapter] at hstep
        obtain rfl := Option.some.inj hstep
        exact ⟨{ h with quiet := fun _ => ⟨hquiet.1, hquiet.2, hquiet.3, hquiet.4, hquiet.5⟩ }, rfl⟩
      · simp only [hadapter] at hstep
        split at hstep <;> obtain rfl := Option.some.inj hstep <;>
          exact ⟨{ h with quiet := fun _ => ⟨hquiet.1, hquiet.2, hquiet.3, hquiet.4, hquiet.5⟩ }, rfl⟩
  | inRilInit =>
      have hquiet := h.quiet (by simp [hmain])
      rw [hmain] at hstep
      obtain rfl := Option.some.inj hstep
      refine ⟨{ h with quiet := ?_, idle := ?_, failure := ?_ }, rfl⟩
      · exact fun _ => ⟨hquiet.1, hquiet.2, hquiet.3, hquiet.4, hquiet.5⟩
      · intro _
        rw [hquiet.requests]
        exact ⟨rfl, rfl, rfl⟩
      · intro failure hfailure
        cases halive.symm.trans hfailure
  | starting =>
      have hquiet := h.quiet (by simp [hmain])
      rw [hmain] at hstep
      simp only at hstep
      split at hstep
      · obtain rfl := Option.some.inj hstep
        refine ⟨{ h with
          quiet := fun hne => absurd rfl hne, conn := ?_, current := ?_, listed := ?_ }, rfl⟩
        · intro c connection hc
          cases (hquiet.conn c).symm.trans hc
        · intro c hc
          cases hc
        · simp [hquiet.connections]
      · obtain rfl := Option.some.inj hstep
        exact ⟨{ h with quiet := fun _ => ⟨hquiet.1, hquiet.2, hquiet.3, hquiet.4, hquiet.5⟩ }, rfl⟩
  | sleeping => simp [hmain] at hstep
  | returned => simp [hmain] at hstep

theorem sleeping_of_accept (h : Inv s) (haccept : s.accept ≠ .notStarted) :
    s.main = .sleeping :=
  by_contra fun hmain => haccept (h.quiet hmain).accept

theorem inv_send (h : Inv s) (c : κ) (request : UrilProtocolMsg) :
    Inv { s with
      sent := Function.update s.sent c (s.sent c ++ [request])
      toService := Function.update s.toService c (s.toService c ++ [request]) } := by
  refine { h with quiet := fun hmain => ?_, kept := fun c' => ?_ }
  · obtain ⟨haccept, hconnections, hconn, htracked, hrequests⟩ := h.quiet hmain
    exact ⟨haccept, hconnections, hconn, htracked, hrequests⟩
  · obtain rfl | hc := eq_or_ne c' c
    · simp only [Function.update_self, ← List.append_assoc, h.kept]
    · simpa [hc] using h.kept c'

theorem inv_accept_idle (h : Inv s) {at_ : AcceptAt κ} (hmain : s.main = .sleeping)
    (hbefore : s.accept.current = none) (hafter : at_.current = none) :
    Inv { s with accept := at_ } := by
  refine { h with
    quiet := fun hne => absurd hmain hne, conn := ?_, current := ?_, listed := ?_ }
  · intro c connection hc
    have hconnection := h.conn c connection hc
    rw [connectionAt, if_neg (by simp [hbefore])] at hconnection
    show connection = connectionAt at_ c
    rwa [connectionAt, if_neg (by simp [hafter])]
  · intro c hc
    simp [hafter] at hc
  · intro c hc
    refine ⟨(h.listed c hc).1, ?_⟩
    rintro rfl
    cases hafter

theorem inv_accept (h : Inv s) {c : κ} (hwaiting : s.accept = .waiting) (hfree : s.conn c = none) :
    Inv { s with
      accept := .created c
      conn := Function.update s.conn c (some newConnection) } := by
  have hmain := sleeping_of_accept h (by simp [hwaiting])
  refine { h with
    quiet := fun hne => absurd hmain hne, conn := ?_, current := ?_, listed := ?_ }
  · intro c' connection hc'
    obtain rfl | hc := eq_or_ne c' c
    · simp only [Function.update_self, Option.some.injEq] at hc'
      simp [connectionAt, AcceptAt.current, AcceptAt.made, hc']
    · simp only [Function.update_of_ne hc] at hc'
      have hconnection := h.conn c' connection hc'
      simpa [connectionAt, hwaiting, AcceptAt.current, hc.symm] using hconnection
  · rintro c' hc'
    obtain rfl := Option.some.inj hc'
    simp
  · intro c' hc'
    have hlisted := (h.listed c' hc').1
    have hc : c' ≠ c := by
      rintro rfl
      exact hlisted hfree
    simpa [hc, hc.symm] using hlisted

theorem inv_modify (h : Inv s) {c : κ} {a : AcceptAt κ}
    {f : SocketClientConnection → SocketClientConnection} (hcurrent : s.accept.current = some c)
    (hafter : ∀ c', a.current = some c' → c' = c) (hcreated : ∀ c', a ≠ .created c')
    (hf : f s.accept.made = connectionAt a c) :
    Inv ({ s with accept := a }.modify c f) := by
  have hmain := sleeping_of_accept h fun heq => by simp [heq, AcceptAt.current] at hcurrent
  obtain ⟨connection, hc⟩ := Option.ne_none_iff_exists'.mp (h.current c hcurrent)
  have hmade : connection = s.accept.made := by
    rw [h.conn c connection hc, connectionAt, if_pos hcurrent]
  refine { h with
    quiet := fun hne => absurd hmain hne, conn := ?_, current := ?_, listed := ?_ }
  · intro c' connection' hc'
    obtain rfl | hne := eq_or_ne c' c
    · simp only [State.modify, Function.update_self, hc, Option.map_some,
        Option.some.injEq] at hc'
      rw [← hc', hmade]
      exact hf
    · simp only [State.modify, Function.update_of_ne hne] at hc'
      have hconnection := h.conn c' connection' hc'
      rw [connectionAt, if_neg fun heq => hne (Option.some.inj (heq.symm.trans hcurrent))]
        at hconnection
      rw [State.modify, connectionAt, if_neg fun heq => hne (hafter c' heq)]
      exact hconnection
  · intro c' hc'
    obtain rfl := hafter c' hc'
    simp [State.modify, hc]
  · intro c' hc'
    refine ⟨?_, hcreated c'⟩
    have hlisted := (h.listed c' hc').1
    obtain rfl | hne := eq_or_ne c' c
    · simp [State.modify, hc]
    · simpa [State.modify, hne] using hlisted

theorem inv_list (h : Inv s) {c : κ} (hcreated : s.accept = .created c) :
    Inv { s with accept := .listed c, connections := s.connections ++ [c] } := by
  have hmain := sleeping_of_accept h (by simp [hcreated])
  have hfresh : c ∉ s.connections := fun hc => (h.listed c hc).2 hcreated
  refine { h with
    quiet := fun hne => absurd hmain hne, conn := ?_, current := ?_, listed := ?_,
    nodup := ?_, untold := ?_ }
  · intro c' connection hc'
    have hconnection := h.conn c' connection hc'
    rwa [hcreated] at hconnection
  · intro c' hc'
    exact h.current c' (by rwa [hcreated])
  · intro c' hc'
    refine ⟨?_, by simp⟩
    rcases List.mem_append.mp hc' with hold | hnew
    · exact (h.listed c' hold).1
    · obtain rfl := List.mem_singleton.mp hnew
      exact h.current c' (by rw [hcreated]; rfl)
  · exact List.nodup_append.mpr ⟨h.nodup, List.nodup_singleton c, fun a ha b hb => by
      rintro rfl
      exact hfresh (List.mem_singleton.mp hb ▸ ha)⟩
  · exact fun c' hc' => h.untold c' fun hold => hc' (List.mem_append_left _ hold)

theorem inv_acceptStep (h : Inv s) (hobservers : service.observers = [.tracker])
    (hstep : s.acceptStep service = some t) : Inv t ∧ t.requests = s.requests := by
  unfold State.acceptStep at hstep
  split at hstep
  · rename_i c hat
    obtain rfl := Option.some.inj hstep
    exact ⟨inv_list h hat, rfl⟩
  · rename_i c hat
    obtain rfl := Option.some.inj hstep
    refine ⟨inv_modify h (a := .observed c) (by rw [hat]; rfl) ?_ (by simp) ?_, rfl⟩
    · rintro c' ⟨⟩
      rfl
    · simp [hat, connectionAt, AcceptAt.current, AcceptAt.made]
  · rename_i c hat
    obtain rfl := Option.some.inj hstep
    refine ⟨inv_modify h (a := .notified c) (by rw [hat]; rfl) ?_ (by simp) ?_, rfl⟩
    · rintro c' ⟨⟩
      rfl
    · simp only [hat, hobservers, connectionAt, AcceptAt.current, AcceptAt.made, if_pos]
      exact onNewConnection_tracker
  · rename_i c hat
    obtain rfl := Option.some.inj hstep
    refine ⟨inv_modify h (c := c) (a := .waiting) (by rw [hat]; rfl) ?_ (by simp) ?_, rfl⟩
    · rintro c' ⟨⟩
    · simp [hat, connectionAt, AcceptAt.current, AcceptAt.made]
  · cases hstep

theorem receive_some (h : Inv s) {c : κ} (hstep : s.receive c = some t) :
    s.main = .sleeping ∧ ∃ msg rest requests, s.toService c = msg :: rest ∧
      OrphanRequests.step s.requests (.track c msg) = some requests ∧
      t = { s with
        toService := Function.update s.toService c rest
        requests := requests
        tracked := Function.update s.tracked c (s.tracked c ++ [msg]) } := by
  unfold State.receive at hstep
  split at hstep
  case h_2 => cases hstep
  rename_i connection msg rest hconn hqueue
  split at hstep
  case isFalse => cases hstep
  rename_i hready
  have hmain : s.main = .sleeping := by
    by_contra hmain
    cases ((h.quiet hmain).conn c).symm.trans hconn
  obtain rfl := h.conn c connection hconn
  rw [connectionAt_running hready.1] at hstep
  refine ⟨hmain, msg, rest, _, hqueue, if_pos hready.2, ?_⟩
  rw [← Option.some.inj hstep]
  simp only [List.foldl_cons, List.foldl_nil, State.onMessageReceived, OrphanRequests.step,
    if_pos hready.2]

theorem inv_receive (h : Inv s) {c : κ} (hstep : s.receive c = some t) : Inv t := by
  obtain ⟨hmain, msg, rest, requests, hqueue, htrack, rfl⟩ := receive_some h hstep
  refine { h with quiet := fun hne => absurd hmain hne, kept := fun c' => ?_, idle := ?_ }
  · obtain rfl | hc := eq_or_ne c' c
    · have hkept := h.kept c'
      rw [hqueue] at hkept
      simpa using hkept
    · simpa [hc] using h.kept c'
  · exact fun hfuncs => idle_step (h.idle hfuncs) rfl htrack

theorem inv_requests (h : Inv s) {a : OrphanRequests.Action κ}
    (hstep : s.requestsStep a = some t) :
    Inv t ∧ (t.requests = s.requests ∨ OrphanRequests.step s.requests a = some t.requests) := by
  unfold State.requestsStep at hstep
  split at hstep
  case isFalse => cases hstep
  rename_i hinner
  split at hstep
  · rename_i failure hhazard
    obtain rfl := Option.some.inj hstep
    refine ⟨{ h with quiet := ?_, failure := ?_ }, .inl rfl⟩
    · intro hmain
      obtain ⟨haccept, hconnections, hconn, htracked, hrequests⟩ := h.quiet hmain
      exact ⟨haccept, hconnections, hconn, htracked, hrequests⟩
    · rintro _ ⟨⟩
      exact hazard_some hhazard
  · rename_i hnone
    obtain ⟨requests, hnext, rfl⟩ := Option.map_eq_some_iff.mp hstep
    refine ⟨{ h with quiet := ?_, idle := ?_ }, .inr hnext⟩
    · intro hmain
      have hrequests := (h.quiet hmain).requests
      rw [hrequests, step_initial hinner] at hnext
      cases hnext
    · intro hfuncs
      rw [show s.funcs = false from hfuncs] at hnone
      exact idle_step (h.idle hfuncs) hnone hnext

theorem inv_unsolicited (h : Inv s) {event : RilUnsol}
    (hstep : s.unsolicited event = some t) : Inv t ∧ t.requests = s.requests := by
  unfold State.unsolicited at hstep
  split at hstep
  · cases hstep
  obtain rfl := Option.some.inj hstep
  refine ⟨{ h with quiet := ?_, told := ?_, untold := ?_ }, rfl⟩
  · intro hmain
    obtain ⟨haccept, hconnections, hconn, htracked, hrequests⟩ := h.quiet hmain
    exact ⟨haccept, hconnections, hconn, htracked, hrequests⟩
  · intro c
    obtain ⟨missed, hmissed⟩ := h.told c
    by_cases hc : c ∈ s.connections
    · refine ⟨missed, ?_⟩
      simp [hmissed, List.count_eq_one_of_mem h.nodup hc]
    · refine ⟨s.events ++ [handleRilUnsolicitedResponse event], ?_⟩
      simp [h.untold c hc, List.count_eq_zero_of_not_mem hc]
  · intro c hc
    simp [h.untold c hc, List.count_eq_zero_of_not_mem hc]

/-- What is to hold of a step of the tracker and the adapter. -/
def Lifted (P : OrphanRequests.State κ → OrphanRequests.Action κ → Prop) (s : State κ) :
    Action κ → Prop
  | .receive c => ∀ msg rest, s.toService c = msg :: rest → P s.requests (.track c msg)
  | .requests a => P s.requests a
  | _ => True

omit [DecidableEq κ] in
theorem lifted_of_any (s : State κ) (a : Action κ) : Lifted anyAction s a := by
  cases a <;> simp [Lifted, anyAction]

/-- A step keeps the invariant, and is a step of the tracker and the adapter or
nothing to them. -/
theorem inv_step (hobservers : service.observers = [.tracker]) (h : Inv s) {a : Action κ}
    {P : OrphanRequests.State κ → OrphanRequests.Action κ → Prop} (hallowed : Lifted P s a)
    (hstep : step service s a = some t) :
    Inv t ∧ (t.requests = s.requests ∨
      ∃ b, P s.requests b ∧ OrphanRequests.step s.requests b = some t.requests) := by
  unfold step at hstep
  split at hstep
  case isFalse => cases hstep
  rename_i halive
  cases a with
  | main system =>
      obtain ⟨hinv, hsame⟩ := inv_main h halive.1 hstep
      exact ⟨hinv, .inl hsame⟩
  | send c request =>
      obtain rfl := Option.some.inj hstep
      exact ⟨inv_send h c request, .inl rfl⟩
  | listen ok =>
      simp only [State.perform] at hstep
      split at hstep
      case isFalse => cases hstep
      rename_i hlistening
      obtain rfl := Option.some.inj hstep
      have hmain := sleeping_of_accept h (by simp [hlistening])
      exact ⟨inv_accept_idle h hmain (by rw [hlistening]; rfl) (by cases ok <;> rfl), .inl rfl⟩
  | accept client =>
      simp only [State.perform] at hstep
      split at hstep
      case isFalse => cases hstep
      rename_i hwaiting
      cases client with
      | some c =>
          simp only at hstep
          split at hstep
          case isFalse => cases hstep
          rename_i hfree
          obtain rfl := Option.some.inj hstep
          exact ⟨inv_accept h hwaiting hfree, .inl rfl⟩
      | none =>
          obtain rfl := Option.some.inj hstep
          have hmain := sleeping_of_accept h (by simp [hwaiting])
          exact ⟨inv_accept_idle h hmain (by rw [hwaiting]; rfl) rfl, .inl rfl⟩
  | acceptStep =>
      obtain ⟨hinv, hsame⟩ := inv_acceptStep h hobservers hstep
      exact ⟨hinv, .inl hsame⟩
  | receive c =>
      obtain ⟨-, msg, rest, requests, hqueue, htrack, ht⟩ := receive_some h hstep
      refine ⟨inv_receive h hstep, .inr ⟨_, hallowed msg rest hqueue, ?_⟩⟩
      rw [ht]
      exact htrack
  | requests b =>
      obtain ⟨hinv, hsame | hnext⟩ := inv_requests h hstep
      · exact ⟨hinv, .inl hsame⟩
      · exact ⟨hinv, .inr ⟨b, hallowed, hnext⟩⟩
  | unsolicited event =>
      obtain ⟨hinv, hsame⟩ := inv_unsolicited h hstep
      exact ⟨hinv, .inl hsame⟩

theorem inv_reached (hobservers : service.observers = [.tracker])
    {P : OrphanRequests.State κ → OrphanRequests.Action κ → Prop}
    (hrun : Reaches (step service) (Lifted P) State.initial s) : Inv s :=
  hrun.invariant Inv inv_initial fun _ _ _ h hallowed hnext =>
    (inv_step hobservers h hallowed hnext).1

end Steps

/-- The service of the built-in configuration. -/
def builtIn : Service :=
  { connector := .unixSocket 5, observers := [.tracker], adapter := some vendorRilPath
    requestProcessor := [vendorRilPath, vendorRilPath, vendorRilPath] }

theorem construct_builtIn : construct (getConfig false) = .ok builtIn := rfl

/-- The actions up to the dispatch of the first request. -/
def startActions (functions : Bool) : List (Action Bool) :=
  [.main ⟨true, true, functions, some 3⟩, .unsolicited .signalStrength,
    .main ⟨true, true, functions, some 3⟩, .main ⟨true, true, functions, some 3⟩,
    .send true (OrphanRequests.emptyRequest MsgId.nwGetPref 1), .listen true,
    .accept (some true), .acceptStep, .unsolicited .responseRadioStateChanged,
    .acceptStep, .acceptStep, .acceptStep, .receive true, .requests (.dispatch true)]

end UnifiedRil.StartUp

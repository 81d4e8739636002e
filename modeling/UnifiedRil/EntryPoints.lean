import UnifiedRil.Reconnection
import UnifiedRil.RequestFidelity

namespace UnifiedRil.EntryPoints

open UnifiedRil.Library.Runs
open UnifiedRil.Protocol
open UnifiedRil.Client
open UnifiedRil.RequestFidelity
open UnifiedRil.Reconnection (urilConnectAttemptsCount)

variable {φ δ : Type}

/-- The members of `service_connector_t` that change. -/
structure Connector where
  ctx : Option Nat
  onReceive : Bool
  onDisconnect : Bool
  deriving DecidableEq

/-- `unix_service_connector_create` -/
def unixServiceConnectorCreate : Connector :=
  { ctx := none, onReceive := false, onDisconnect := false }

/-- What the calls of one attempt to connect return. -/
structure Attempt where
  socket : Bool
  malloc : Option Nat
  connect : Bool
  setsockopt : Bool
  pthreadCreate : Bool

def Attempt.succeeds (attempt : Attempt) : Bool :=
  attempt.socket && attempt.malloc.isSome &&
    (attempt.connect && attempt.setsockopt && attempt.pthreadCreate)

/-- The members that an attempt stores, if its allocation succeeds. -/
def Attempt.stored (attempt : Attempt) : Option Connector :=
  if attempt.socket then
    attempt.malloc.map fun ctx => { ctx := some ctx, onReceive := true, onDisconnect := true }
  else none

/-- `unix_socket_service_connector_connect_routine`, and whether it returns 0. -/
def connectRoutine (connector : Connector) (attempt : Attempt) : Connector × Bool :=
  if attempt.socket = false then (connector, false)
  else
    match attempt.malloc with
    | none => (connector, false)
    | some ctx =>
        ({ ctx := some ctx, onReceive := true, onDisconnect := true },
          attempt.connect && attempt.setsockopt && attempt.pthreadCreate)

/-- The loop of `uril_client_init` from attempt `i` on. -/
def connectLoop (attempts : Nat → Attempt) : Nat → Nat → Connector → Connector × Bool
  | 0, _, connector => (connector, false)
  | left + 1, i, connector =>
      let (connector, connected) := connectRoutine connector (attempts i)
      if connected then (connector, true) else connectLoop attempts left (i + 1) connector

/-- The variables of `uril_client.c`. -/
structure Statics (φ δ : Type) where
  context : Context φ δ
  serviceConnector : Option Connector
  uniqueHandle : UInt32
  uniqueMsgId : UInt32

def Statics.initial : Statics φ δ :=
  { context := .zeroed, serviceConnector := none, uniqueHandle := 0, uniqueMsgId := 0 }

structure InitEnvironment where
  /-- a connector can be created, where there is none -/
  creates : Bool
  attempts : Nat → Attempt
  initMutexLocks : Bool

structure InitArgs (φ : Type) where
  hndl : Bool
  indCb : Option φ
  defaultRespCb : Option φ

/-- The connector that `uril_client_init` uses. -/
def connectorOf (env : InitEnvironment) (s : Statics φ δ) : Option Connector :=
  match s.serviceConnector with
  | some connector => some connector
  | none => if env.creates then some unixServiceConnectorCreate else none

/-- `memset(&context, 0, sizeof(context))`, and the callbacks. -/
def clearedContext (args : InitArgs φ) : Context φ δ :=
  { Context.zeroed with indCb := args.indCb, defaultAsyncCb := args.defaultRespCb }

/-- `uril_client_init`, behind its loop. The handle goes to `*hndl` as well. -/
def afterConnecting (env : InitEnvironment) (args : InitArgs φ) (s : Statics φ δ) :
    Connector × Bool → Statics φ δ × UInt32
  | (connector, false) =>
      ({ s with context := clearedContext args, serviceConnector := some connector }, errorRet)
  | (connector, true) =>
      if env.initMutexLocks = false then
        ({ s with
            context := { clearedContext args with initialized := true }
            serviceConnector := some connector },
          errorRet)
      else
        ({ s with
            context :=
              { clearedContext args with initialized := true, handle := s.uniqueHandle + 1 }
            serviceConnector := some connector
            uniqueHandle := s.uniqueHandle + 1 },
          0)

/-- `uril_client_init` -/
def clientInit (env : InitEnvironment) (args : InitArgs φ) (s : Statics φ δ) :
    Statics φ δ × UInt32 :=
  if args.hndl = false then ({ s with serviceConnector := connectorOf env s }, errorRet)
  else
    match connectorOf env s with
    | none => ({ s with serviceConnector := none }, errorRet)
    | some connector =>
        afterConnecting env args s
          (connectLoop env.attempts urilConnectAttemptsCount 0 connector)

/-- What the calls that `uril_client_execute_command_sync` makes itself return. -/
structure SyncEnvironment where
  mutexInits : Bool
  conditionInits : Bool
  mutexLocks : Bool
  /-- `params.condition` behind the lock, and behind the wait -/
  conditionBefore : Bool
  conditionAfter : Bool
  timedwait : Bool

/-- The function gets to `ret = 0`. -/
def SyncEnvironment.signalled (sync : SyncEnvironment) : Bool :=
  sync.mutexLocks && (sync.conditionBefore || (sync.timedwait && sync.conditionAfter))

def SyncEnvironment.inits (sync : SyncEnvironment) : Bool :=
  sync.mutexInits && sync.conditionInits

/-- `uril_client_execute_command_sync`, without the messages that are received
during its wait. The callback and the client data are `async_cb` and
`&params`. -/
def executeCommandSync (env : Environment) (sync : SyncEnvironment) (ctx : Context φ δ)
    (uniqueMsgId : UInt32) (cmd : Command φ δ) : Option (Outcome φ δ) :=
  -- the exit destroys and frees what is not initialized, a static default or null
  if sync.inits = false then none
  else
    let r := executeCommandAsync env ctx uniqueMsgId cmd
    if r.ret ≠ 0 then some { r with ret := errorRet }
    else some { r with ret := if sync.signalled then 0 else errorRet }

/-- What the mutex does for `handle_receive_rsp`. -/
structure ReceiveEnvironment where
  cmdMutexLocks : Bool
  cmdMutexUnlocks : Bool

/-- `connector_on_receive`, behind its length check. -/
def receiveMsg (env : ReceiveEnvironment) (ctx : Context φ δ) (msg : UrilProtocolMsg) :
    Context φ δ × Option (Upcall φ δ) :=
  if msg.isIndication ≠ 0 then (ctx, handleReceiveInd ctx msg)
  else if env.cmdMutexLocks = false then (ctx, none)
  else
    let (ctx, upcall) := handleReceiveRsp ctx msg
    if env.cmdMutexUnlocks = false then (ctx, none) else (ctx, upcall)

inductive Event (φ δ : Type)
  | init (env : InitEnvironment) (args : InitArgs φ)
  | executeAsync (env : Environment) (cmd : Command φ δ)
  | executeSync (env : Environment) (sync : SyncEnvironment) (cmd : Command φ δ)
  | release (hndl : UInt32)
  | receive (env : ReceiveEnvironment) (msg : UrilProtocolMsg)

/-- The slot that a call fills in, if it gets that far. -/
def filledSlot (env : Environment) (ctx : Context φ δ) (cmd : Command φ δ) :
    Option (Fin urilMaxPendingOps) :=
  if ctx.initialized ∧ cmd.hndl = ctx.handle ∧ cmd.req.isSome ∧ env.idMutexLocks ∧
      env.cmdMutexLocks ∧ env.cmdMutexUnlocks then
    (acquireFreeOpSlot ctx.pendingOps).1
  else none

/-- A process, and what happened in it. The calls that execute a command are
numbered. -/
structure History (φ δ : Type) where
  statics : Statics φ δ
  /-- the handle that the last successful initialization returned -/
  lastHandle : Option UInt32
  nextCall : Nat
  /-- the call that filled in a slot -/
  writer : Fin urilMaxPendingOps → Option Nat
  invoked : List Nat

def History.start (s : Statics φ δ) : History φ δ :=
  { statics := s, lastHandle := none, nextCall := 0, writer := fun _ => none, invoked := [] }

/-- A call that executed a command, with the slot that it filled in. -/
def History.executed (h : History φ δ) (r : Outcome φ δ)
    (filled : Option (Fin urilMaxPendingOps)) : History φ δ :=
  { h with
    statics := { h.statics with context := r.context, uniqueMsgId := r.uniqueMsgId }
    nextCall := h.nextCall + 1
    writer := fun i => if filled = some i then some h.nextCall else h.writer i }

def History.executeAsync (h : History φ δ) (env : Environment) (cmd : Command φ δ) :
    History φ δ :=
  h.executed (executeCommandAsync env h.statics.context h.statics.uniqueMsgId cmd)
    (filledSlot env h.statics.context cmd)

def History.executeSync (h : History φ δ) (env : Environment) (sync : SyncEnvironment)
    (cmd : Command φ δ) : Option (History φ δ) :=
  (executeCommandSync env sync h.statics.context h.statics.uniqueMsgId cmd).map fun r =>
    h.executed r (filledSlot env h.statics.context cmd)

def History.init (h : History φ δ) (env : InitEnvironment) (args : InitArgs φ) : History φ δ :=
  let (statics, ret) := clientInit env args h.statics
  { h with
    statics := statics
    lastHandle := if ret = 0 then some statics.context.handle else h.lastHandle
    -- the memory of the slots is cleared, unless a check of the arguments fails
    writer := if args.hndl ∧ (connectorOf env h.statics).isSome then fun _ => none
      else h.writer }

/-- A callback that is invoked for a response is that of the slot found. -/
def invokedCall (h : History φ δ) (env : ReceiveEnvironment) (msg : UrilProtocolMsg) :
    Option Nat :=
  if msg.isIndication = 0 ∧ (receiveMsg env h.statics.context msg).2.isSome then
    (lookupPendingOp h.statics.context.pendingOps msg.uniqueId).bind h.writer
  else none

def History.receive (h : History φ δ) (env : ReceiveEnvironment) (msg : UrilProtocolMsg) :
    History φ δ :=
  { h with
    statics := { h.statics with context := (receiveMsg env h.statics.context msg).1 }
    invoked := (invokedCall h env msg).toList ++ h.invoked }

def step (h : History φ δ) : Event φ δ → Option (History φ δ)
  | .init env args => some (h.init env args)
  | .executeAsync env cmd => some (h.executeAsync env cmd)
  | .executeSync env sync cmd => h.executeSync env sync cmd
  | .release _ =>
      some { h with
        statics := { h.statics with context := (clientRelease h.statics.context).1 } }
  | .receive env msg => some (h.receive env msg)

/-- The checks of `uril_client_init` before it touches the context. -/
def Refused (env : InitEnvironment) (args : InitArgs φ) (s : Statics φ δ) : Prop :=
  args.hndl = false ∨ connectorOf env s = none

theorem clientInit_refused {env : InitEnvironment} {args : InitArgs φ} {s : Statics φ δ}
    (h : Refused env args s) :
    clientInit env args s = ({ s with serviceConnector := connectorOf env s }, errorRet) := by
  unfold clientInit
  split
  · rfl
  · rename_i hhndl
    rw [h.resolve_left hhndl]

theorem clientInit_started {env : InitEnvironment} {args : InitArgs φ} {s : Statics φ δ}
    {connector : Connector} (hhndl : args.hndl = true)
    (hconnector : connectorOf env s = some connector) :
    clientInit env args s =
      afterConnecting env args s
        (connectLoop env.attempts urilConnectAttemptsCount 0 connector) := by
  rw [clientInit, hhndl, if_neg Bool.noConfusion, hconnector]

theorem exists_of_not_refused {env : InitEnvironment} {args : InitArgs φ} {s : Statics φ δ}
    (h : ¬ Refused env args s) :
    args.hndl = true ∧ ∃ connector, connectorOf env s = some connector := by
  obtain ⟨hhndl, hconnector⟩ := not_or.mp h
  exact ⟨Bool.eq_true_of_not_eq_false hhndl, Option.ne_none_iff_exists'.mp hconnector⟩

end UnifiedRil.EntryPoints

import UnifiedRil.Library.CallStacks
import UnifiedRil.SynchronousCommand

/-!
The mutexes of the client library over nested calls. Any number of threads run
code of the application and of connectors, which may call the library at any
time, and every callback and every function of a connector is such code again.
A function of the library takes one statement at a time. The locals of a
synchronous call are at a place of the stack that a later call can have again,
and `async_cb` uses what is there.
-/

namespace UnifiedRil.ClientMutex

open UnifiedRil.Library.Runs
open UnifiedRil.Library.CallStacks
open UnifiedRil.Protocol
open UnifiedRil.Client
open UnifiedRil.SynchronousCommand (Callback ClientData CbStage)

/-- What an `osal_mutex_t` refers to. -/
inductive Mutex
  | default
  | allocated (k : Nat)
  | null
  deriving DecidableEq

def unixMutex : Mutex := .default

def sInitMutex : Mutex := unixMutex

def sUniqueIdGenMutex : Mutex := unixMutex

def cmdMutex : Mutex := unixMutex

def urilConnectAttemptsCount : Nat := 20

/-- The locals of a synchronous call that `struct async_params` refers to. -/
structure SyncLocals where
  /-- where they are on the stack -/
  place : Nat
  returned : Bool
  syncMutex : Mutex
  success : Bool
  condition : Bool
  resp : List UInt8
  respLen : Nat

structure Memory where
  context : Context Callback ClientData
  serviceConnector : Option Nat
  uniqueHandle : UInt32
  uniqueMsgId : UInt32
  sync : Nat → SyncLocals
  nextSync : Nat
  /-- the last call that had a place of the stack -/
  frames : Nat → Option Nat
  crashed : Bool

inductive ConnectorFunction
  | getName
  | connect
  | send (uniqueId : UInt32)

/-- Code that is not the library's. -/
inductive Outside
  | thread
  | callback (upcall : Upcall Callback ClientData)
  | connector (function : ConnectorFunction)

inductive SetConnectorStage
  | begin
  | traced
  | returning

inductive InitStage
  | begin
  | connect (attempts : Nat)
  | connecting (attempts : Nat)
  | connected
  | lock
  | allocateHandle
  | unlock
  | returning (ret : Int)

structure AsyncArgs where
  hndl : UInt32
  req : Bool
  asyncRespCb : Option Callback
  clientData : Option ClientData

inductive AsyncStage
  | begin
  | lockIdGen
  | allocateId
  | unlockIdGen (uniqueId : UInt32)
  | lockCmd (uniqueId : UInt32)
  | acquire (uniqueId : UInt32)
  | unlockCmd (uniqueId : UInt32) (op : Option (Fin urilMaxPendingOps))
  | fill (stage : ClientRuns.Stage) (uniqueId : UInt32) (op : Fin urilMaxPendingOps)
  | sending
  | returning (ret : Int)

structure SyncArgs where
  hndl : UInt32
  req : Bool
  respLen : Nat
  place : Nat

inductive SyncStage
  | begin
  | initMutex (k : Nat)
  | initCondition (k : Nat)
  | execute (k : Nat)
  | executing (k : Nat)
  | lock (k : Nat)
  | test (k : Nat)
  /-- in `condition.timedwait`, without the mutex -/
  | waiting (k : Nat)
  | woken (k : Nat)
  | unlock (k : Nat) (ret : Int)
  | exiting (k : Nat) (ret : Int)
  | returning (ret : Int)

inductive ReceiveStage
  | begin (data : List UInt8)
  | handling
  | returning (ret : Int)

inductive IndStage
  | begin
  | returning

inductive RspStage
  | lock
  | lookup
  | unlock (op : Option (Option Callback × Option ClientData))
  | invoke (asyncRespCb : Option Callback) (clientData : Option ClientData)
  | returning (ret : Int)

/-- A function that was called, and its next statement. -/
inductive Frame
  | outside (code : Outside)
  | setServiceConnector (connector : Option Nat) (stage : SetConnectorStage)
  | init (hndl : Bool) (indCb defaultRespCb : Option Nat) (stage : InitStage)
  | executeAsync (args : AsyncArgs) (stage : AsyncStage)
  | executeSync (args : SyncArgs) (stage : SyncStage)
  | release (returning : Option Int)
  | onReceive (stage : ReceiveStage)
  | onDisconnect
  | handleReceiveInd (ind : UrilProtocolMsg) (stage : IndStage)
  | handleReceiveRsp (resp : UrilProtocolMsg) (stage : RspStage)
  | asyncCb (params : Option Nat) (resp : Vector UInt8 maxUrilPayloadSize)
      (stage : Option CbStage)

/-- A call of the library from outside. The application has neither `async_cb`
nor the parameters of a synchronous call to pass. -/
inductive Entry
  | setServiceConnector (connector : Option Nat)
  | init (hndl : Bool) (indCb defaultRespCb : Option Nat)
  | executeAsync (hndl : UInt32) (req : Bool) (asyncRespCb clientData : Option Nat)
  | executeSync (hndl : UInt32) (req : Bool) (respLen place : Nat)
  | release
  | onReceive (data : List UInt8)
  | onDisconnect

def Entry.frame : Entry → Frame
  | .setServiceConnector connector => .setServiceConnector connector .begin
  | .init hndl indCb defaultRespCb => .init hndl indCb defaultRespCb .begin
  | .executeAsync hndl req asyncRespCb clientData =>
      .executeAsync ⟨hndl, req, asyncRespCb.map .application, clientData.map .application⟩
        .begin
  | .executeSync hndl req respLen place => .executeSync ⟨hndl, req, respLen, place⟩ .begin
  | .release => .release none
  | .onReceive data => .onReceive (.begin data)
  | .onDisconnect => .onDisconnect

inductive Choice
  | enter (entry : Entry)
  | leave (ret : Int)
  /-- a statement of the library, and whether what it calls succeeds -/
  | statement (ok : Bool)

abbrev Statement := Stmt Memory Mutex Frame Int

def setServiceConnectorStmt (mem : Memory) (connector : Option Nat) :
    SetConnectorStage → Option Statement
  | .begin =>
      match connector with
      | some _ => some (.call (.outside (.connector .getName))
          (.setServiceConnector connector .traced))
      | none => some (.compute mem (.setServiceConnector connector .traced))
  | .traced =>
      some (.compute { mem with serviceConnector := connector }
        (.setServiceConnector connector .returning))
  | .returning => some (.ret 0)

/-- `unix_service_connector_create`, which may find no memory -/
def unixServiceConnectorCreate (ok : Bool) : Option Nat := if ok then some 0 else none

def initStmt (mem : Memory) (hndl : Bool) (indCb defaultRespCb : Option Nat) (ok : Bool) :
    InitStage → Option Statement
  | .begin =>
      let connector := mem.serviceConnector.or (unixServiceConnectorCreate ok)
      let mem := { mem with serviceConnector := connector }
      if hndl ∧ connector.isSome then
        some (.compute
          { mem with
            context := { Context.zeroed with
              indCb := indCb.map .application
              defaultAsyncCb := defaultRespCb.map .application } }
          (.init hndl indCb defaultRespCb (.connect 0)))
      else some (.compute mem (.init hndl indCb defaultRespCb (.returning (-1))))
  | .connect attempts =>
      if attempts < urilConnectAttemptsCount then
        mem.serviceConnector.map fun _ =>
          .call (.outside (.connector .connect))
            (.init hndl indCb defaultRespCb (.connecting (attempts + 1)))
      else some (.compute mem (.init hndl indCb defaultRespCb (.returning (-1))))
  | .connecting _ => none
  | .connected =>
      some (.compute { mem with context := { mem.context with initialized := true } }
        (.init hndl indCb defaultRespCb .lock))
  | .lock =>
      some (.lock sInitMutex ok
        (.init hndl indCb defaultRespCb (if ok then .allocateHandle else .returning (-1))))
  | .allocateHandle =>
      some (.compute
        { mem with
          context := { mem.context with handle := mem.uniqueHandle + 1 }
          uniqueHandle := mem.uniqueHandle + 1 }
        (.init hndl indCb defaultRespCb .unlock))
  | .unlock => some (.unlock sInitMutex (.init hndl indCb defaultRespCb (.returning 0)))
  | .returning ret => some (.ret ret)

def executeAsyncStmt (mem : Memory) (args : AsyncArgs) (ok : Bool) :
    AsyncStage → Option Statement
  | .begin =>
      if mem.context.initialized ∧ args.hndl = mem.context.handle ∧ args.req then
        some (.compute mem (.executeAsync args .lockIdGen))
      else some (.compute mem (.executeAsync args (.returning (-1))))
  | .lockIdGen =>
      some (.lock sUniqueIdGenMutex ok
        (.executeAsync args (if ok then .allocateId else .returning (-1))))
  | .allocateId =>
      some (.compute { mem with uniqueMsgId := mem.uniqueMsgId + 1 }
        (.executeAsync args (.unlockIdGen (mem.uniqueMsgId + 1))))
  | .unlockIdGen u => some (.unlock sUniqueIdGenMutex (.executeAsync args (.lockCmd u)))
  | .lockCmd u =>
      some (.lock cmdMutex ok (.executeAsync args (if ok then .acquire u else .returning (-1))))
  | .acquire u =>
      let (op, ops) := acquireFreeOpSlot mem.context.pendingOps
      some (.compute { mem with context := { mem.context with pendingOps := ops } }
        (.executeAsync args (.unlockCmd u op)))
  | .unlockCmd u op =>
      match op with
      | some i => some (.unlock cmdMutex (.executeAsync args (.fill .acquired u i)))
      | none => some (.unlock cmdMutex (.executeAsync args (.returning (-1))))
  | .fill stage u i =>
      match ClientRuns.assign mem.context ⟨args.asyncRespCb, args.clientData, .begun⟩ u
          (mem.context.pendingOps i) stage with
      | some (stage, op) =>
          some (.compute
            { mem with
              context := { mem.context with
                pendingOps := Function.update mem.context.pendingOps i op } }
            (.executeAsync args (.fill stage u i)))
      | none =>
          mem.serviceConnector.map fun _ =>
            .call (.outside (.connector (.send u))) (.executeAsync args .sending)
  | .sending => none
  | .returning ret => some (.ret ret)

def Memory.setSync (mem : Memory) (k : Nat) (y : SyncLocals) : Memory :=
  { mem with sync := Function.update mem.sync k y }

theorem Memory.setSync_self (mem : Memory) (k : Nat) (y : SyncLocals) :
    (mem.setSync k y).sync k = y := Function.update_self ..

theorem Memory.setSync_other (mem : Memory) {k k' : Nat} (y : SyncLocals) (h : k' ≠ k) :
    (mem.setSync k y).sync k' = mem.sync k' := Function.update_of_ne h ..

/-- The call whose locals are where those of call `k` are or were. -/
def Memory.occupant (mem : Memory) (k : Nat) : Nat := (mem.frames (mem.sync k).place).getD k

def executeSyncStmt (mem : Memory) (args : SyncArgs) (ok : Bool) :
    SyncStage → Option Statement
  | .begin =>
      -- a place is used again when the call that had it has returned
      if (mem.frames args.place).all fun k => (mem.sync k).returned then
        some (.compute
          { mem.setSync mem.nextSync
              { place := args.place, returned := false, syncMutex := unixMutex, success := false
                condition := false, resp := [], respLen := args.respLen } with
            nextSync := mem.nextSync + 1
            frames := Function.update mem.frames args.place (some mem.nextSync) }
          (.executeSync args (.initMutex mem.nextSync)))
      else none
  | .initMutex k =>
      if ok then
        some (.compute (mem.setSync k { mem.sync k with syncMutex := .allocated k })
          (.executeSync args (.initCondition k)))
      -- `EXIT` frees handles that were not allocated
      else some (.compute { mem with crashed := true } (.executeSync args .begin))
  | .initCondition k =>
      if ok then
        some (.compute (mem.setSync k { mem.sync k with success := false, condition := false })
          (.executeSync args (.execute k)))
      else some (.compute { mem with crashed := true } (.executeSync args .begin))
  | .execute k =>
      some (.call
        (.executeAsync ⟨args.hndl, args.req, some .asyncCb, some (.params k)⟩ .begin)
        (.executeSync args (.executing k)))
  | .executing _ => none
  | .lock k =>
      some (.lock (mem.sync k).syncMutex ok
        (.executeSync args (if ok then .test k else .exiting k (-1))))
  | .test k =>
      if (mem.sync k).condition then some (.compute mem (.executeSync args (.woken k)))
      else some (.unlock (mem.sync k).syncMutex (.executeSync args (.waiting k)))
  | .waiting k =>
      -- the wait ends with the mutex, in time or not
      some (.lock (mem.sync k).syncMutex true
        (.executeSync args (if ok then .woken k else .exiting k (-1))))
  | .woken k =>
      some (.compute mem
        (.executeSync args (.unlock k (if (mem.sync k).condition then 0 else -1))))
  | .unlock k ret => some (.unlock (mem.sync k).syncMutex (.executeSync args (.exiting k ret)))
  | .exiting k ret =>
      some (.compute (mem.setSync k { mem.sync k with returned := true })
        (.executeSync args (.returning ret)))
  | .returning ret => some (.ret ret)

def onReceiveStmt (mem : Memory) : ReceiveStage → Option Statement
  | .begin data =>
      if data.length < sizeofMsg then some (.compute mem (.onReceive (.returning (-1))))
      else
        let msg := UrilProtocolMsg.ofImage data
        if msg.isIndication ≠ 0 then
          some (.call (.handleReceiveInd msg .begin) (.onReceive .handling))
        else some (.call (.handleReceiveRsp msg .lock) (.onReceive .handling))
  | .handling => none
  | .returning ret => some (.ret ret)

def handleReceiveIndStmt (mem : Memory) (ind : UrilProtocolMsg) :
    IndStage → Option Statement
  | .begin =>
      match Client.handleReceiveInd mem.context ind with
      | some upcall =>
          some (.call (.outside (.callback upcall)) (.handleReceiveInd ind .returning))
      | none => some (.compute mem (.handleReceiveInd ind .returning))
  | .returning => some (.ret (-1))

def invokeStmt (mem : Memory) (resp : UrilProtocolMsg) (clientData : Option ClientData) :
    Callback → Option Statement
  | .application f =>
      (responseUpcall mem.context.handle (some (.application f)) clientData resp).map
        fun upcall =>
          .call (.outside (.callback upcall)) (.handleReceiveRsp resp (.returning 0))
  | .asyncCb =>
      match clientData with
      | none =>
          some (.call (.asyncCb none resp.payload none) (.handleReceiveRsp resp (.returning 0)))
      | some (.params k) =>
          some (.call (.asyncCb (some k) resp.payload (some .copy))
            (.handleReceiveRsp resp (.returning 0)))
      | some (.application _) => none

def handleReceiveRspStmt (mem : Memory) (resp : UrilProtocolMsg) (ok : Bool) :
    RspStage → Option Statement
  | .lock =>
      some (.lock cmdMutex ok
        (.handleReceiveRsp resp (if ok then .lookup else .returning (-1))))
  | .lookup =>
      some (.compute { mem with context := (Client.handleReceiveRsp mem.context resp).1 }
        (.handleReceiveRsp resp (.unlock
          ((lookupPendingOp mem.context.pendingOps resp.uniqueId).map fun i =>
            ((mem.context.pendingOps i).asyncRespCb, (mem.context.pendingOps i).clientData)))))
  | .unlock op =>
      match op with
      | some (asyncRespCb, clientData) =>
          some (.unlock cmdMutex (.handleReceiveRsp resp (.invoke asyncRespCb clientData)))
      | none => some (.unlock cmdMutex (.handleReceiveRsp resp (.invoke none none)))
  | .invoke asyncRespCb clientData =>
      match asyncRespCb with
      | some cb => invokeStmt mem resp clientData cb
      | none => some (.compute mem (.handleReceiveRsp resp (.returning (-1))))
  | .returning ret => some (.ret ret)

/-- `async_cb` with `&params` of call `k`. It does not look at the result of its
lock operation. -/
def asyncCbStmt (mem : Memory) (resp : Vector UInt8 maxUrilPayloadSize) (ok : Bool) (k : Nat)
    (stage : CbStage) : Statement :=
  let y := mem.sync (mem.occupant k)
  match stage with
  | .copy =>
      .compute
        (mem.setSync (mem.occupant k) { y with
          resp := resp.toList.take (min y.respLen maxUrilPayloadSize)
          success := true })
        (.asyncCb (some k) resp (some .lock))
  | .lock => .lock y.syncMutex ok (.asyncCb (some k) resp (some .setCondition))
  | .setCondition =>
      .compute (mem.setSync (mem.occupant k) { y with condition := true })
        (.asyncCb (some k) resp (some .unlock))
  | .unlock => .unlock y.syncMutex (.asyncCb (some k) resp (some .signal))
  | .signal => .compute mem (.asyncCb (some k) resp none)

def libraryStmt (mem : Memory) (ok : Bool) : Frame → Option Statement
  | .outside _ => none
  | .setServiceConnector connector stage => setServiceConnectorStmt mem connector stage
  | .init hndl indCb defaultRespCb stage => initStmt mem hndl indCb defaultRespCb ok stage
  | .executeAsync args stage => executeAsyncStmt mem args ok stage
  | .executeSync args stage => executeSyncStmt mem args ok stage
  | .release none =>
      let (context, ret) := clientRelease mem.context
      some (.compute { mem with context := context } (.release (some ret)))
  | .release (some ret) => some (.ret ret)
  | .onReceive stage => onReceiveStmt mem stage
  | .onDisconnect => some (.ret (-1))
  | .handleReceiveInd ind stage => handleReceiveIndStmt mem ind stage
  | .handleReceiveRsp resp stage => handleReceiveRspStmt mem resp ok stage
  | .asyncCb params resp stage =>
      match params, stage with
      | some k, some stage => some (asyncCbStmt mem resp ok k stage)
      | _, _ => some (.ret 0)

/-- The next statement of a process that has not crashed. -/
def frameStmt (mem : Memory) (f : Frame) : Choice → Option Statement
  | .enter entry =>
      match f with
      | .outside code => some (.call entry.frame (.outside code))
      | _ => none
  | .leave ret =>
      match f with
      | .outside _ => some (.ret ret)
      | _ => none
  | .statement ok => libraryStmt mem ok f

def stmt (mem : Memory) (f : Frame) (choice : Choice) : Option Statement :=
  if mem.crashed then none else frameStmt mem f choice

/-- A function goes on with the value of a call it made. -/
def resume : Frame → Int → Frame
  | .init hndl indCb defaultRespCb (.connecting attempts), ret =>
      .init hndl indCb defaultRespCb (if ret = 0 then .connected else .connect attempts)
  | .executeAsync args .sending, ret => .executeAsync args (.returning ret)
  | .executeSync args (.executing k), ret =>
      .executeSync args (if ret ≠ 0 then .exiting k (-1) else .lock k)
  | .onReceive .handling, ret => .onReceive (.returning ret)
  | f, _ => f

def program : Program Memory Mutex Frame Int Choice := ⟨stmt, resume⟩

def initial (θ : Type) : State Memory Mutex Frame θ where
  memory :=
    { context := .zeroed, serviceConnector := none, uniqueHandle := 0, uniqueMsgId := 0
      sync := fun _ =>
        { place := 0, returned := false, syncMutex := .null, success := false
          condition := false, resp := [], respLen := 0 }
      nextSync := 0, frames := fun _ => none, crashed := false }
  owner := fun _ => none
  stack := fun _ => [.outside .thread]

/-- The next statement is one after a lock and up to the unlock of
`s_default_mutex`. -/
def Critical : Frame → Prop
  | .init _ _ _ .allocateHandle | .init _ _ _ .unlock => True
  | .executeAsync _ .allocateId | .executeAsync _ (.unlockIdGen _) => True
  | .executeAsync _ (.acquire _) | .executeAsync _ (.unlockCmd _ _) => True
  | .handleReceiveRsp _ .lookup | .handleReceiveRsp _ (.unlock _) => True
  | _ => False

/-- The mutex of a synchronous call was initialized, so it is not the one that
`UNIX_MUTEX` names. -/
def MutexInitialized (mem : Memory) (k : Nat) : Prop :=
  k < mem.nextSync ∧ (mem.sync k).syncMutex ≠ .default

/-- The number of a synchronous call whose parameters may be used elsewhere. -/
def Published (mem : Memory) (clientData : Option ClientData) : Prop :=
  ∀ k, clientData = some (.params k) → MutexInitialized mem k

def SyncAdmitted (mem : Memory) : SyncStage → Prop
  | .begin | .returning _ => True
  | .initMutex k => k < mem.nextSync
  | .initCondition k | .execute k | .executing k | .lock k | .test k | .waiting k | .woken k
  | .unlock k _ | .exiting k _ => MutexInitialized mem k

/-- The pointers to parameters of synchronous calls in a frame. -/
def Admitted (mem : Memory) : Frame → Prop
  | .executeAsync args _ => Published mem args.clientData
  | .executeSync _ stage => SyncAdmitted mem stage
  | .handleReceiveRsp _ (.unlock (some (_, clientData))) => Published mem clientData
  | .handleReceiveRsp _ (.invoke _ clientData) => Published mem clientData
  | .asyncCb params _ _ => ∀ k, params = some k → MutexInitialized mem k
  | _ => True

def TablePublished (mem : Memory) : Prop :=
  ∀ i, Published mem (mem.context.pendingOps i).clientData

/-- The locals of a call that has not returned are still at their place. -/
def Placed (mem : Memory) : Prop :=
  ∀ k, k < mem.nextSync → (mem.sync k).returned = false →
    mem.frames (mem.sync k).place = some k

structure Valid (mem : Memory) : Prop where
  placed : Placed mem
  table : TablePublished mem

def sections : Sections Memory Frame := ⟨Critical, Valid, Admitted⟩

/-- What was initialized stays so, and there are no fewer synchronous calls. -/
structure Extends (mem mem' : Memory) : Prop where
  nextSync : mem.nextSync ≤ mem'.nextSync
  initialized : ∀ k, MutexInitialized mem k → MutexInitialized mem' k

theorem Extends.of_eq {mem mem' : Memory} (hsync : mem'.sync = mem.sync)
    (hnext : mem'.nextSync = mem.nextSync) : Extends mem mem' := by
  refine ⟨hnext.ge, fun k hk => ?_⟩
  rw [MutexInitialized, hsync, hnext]
  exact hk

theorem Extends.published {mem mem' : Memory} (h : Extends mem mem')
    {clientData : Option ClientData} (hdata : Published mem clientData) :
    Published mem' clientData := fun k hk => h.initialized k (hdata k hk)

theorem Extends.admitted {mem mem' : Memory} (h : Extends mem mem') (f : Frame)
    (hf : Admitted mem f) : Admitted mem' f := by
  cases f with
  | executeAsync args stage => exact h.published hf
  | executeSync args stage =>
      cases stage with
      | begin => trivial
      | returning ret => trivial
      | initMutex k => exact Nat.lt_of_lt_of_le hf h.nextSync
      | _ => exact h.initialized _ hf
  | handleReceiveRsp resp stage =>
      cases stage with
      | unlock op =>
          cases op with
          | none => trivial
          | some op => exact h.published hf
      | invoke asyncRespCb clientData => exact h.published hf
      | _ => trivial
  | asyncCb params resp stage => exact fun k hk => h.initialized k (hf k hk)
  | _ => trivial

theorem obeyed_compute {mem mem' : Memory} {f next : Frame} (hext : Extends mem mem')
    (hplaced : Placed mem') (htable : TablePublished mem') (hnext : Admitted mem' next)
    (hcritical : Critical next ↔ Critical f) :
    sections.Obeyed Mutex.default mem f (.compute mem' next : Statement) :=
  ⟨⟨hplaced, htable⟩, hnext, hext.admitted, hcritical⟩

theorem obeyed_library {mem mem' : Memory} {f next : Frame} (hplaced : Placed mem)
    (hsync : mem'.sync = mem.sync) (hnextSync : mem'.nextSync = mem.nextSync)
    (hframes : mem'.frames = mem.frames) (htable : TablePublished mem')
    (hnext : Admitted mem' next) (hcritical : Critical next ↔ Critical f) :
    sections.Obeyed Mutex.default mem f (.compute mem' next : Statement) := by
  refine obeyed_compute (.of_eq hsync hnextSync) ?_ htable hnext hcritical
  rw [Placed, hsync, hnextSync, hframes]
  exact hplaced

theorem initStmt_obeyed {mem : Memory} {hndl : Bool} {indCb defaultRespCb : Option Nat}
    {ok : Bool} {stage : InitStage} {c : Statement} (hplaced : Placed mem) (htable : TablePublished mem)
    (h : initStmt mem hndl indCb defaultRespCb ok stage = some c) :
    sections.Obeyed Mutex.default mem (.init hndl indCb defaultRespCb stage) c := by
  cases stage with
  | begin =>
      simp only [initStmt] at h
      split at h
      · cases h
        refine obeyed_library hplaced rfl rfl rfl ?_ trivial Iff.rfl
        intro i k hk
        cases hk
      · cases h
        exact obeyed_library hplaced rfl rfl rfl htable trivial Iff.rfl
  | connect attempts =>
      simp only [initStmt] at h
      split at h
      · obtain ⟨connector, -, rfl⟩ := Option.map_eq_some_iff.mp h
        exact ⟨trivial, trivial, id, id, id⟩
      · cases h
        exact obeyed_library hplaced rfl rfl rfl htable trivial Iff.rfl
  | connecting attempts => cases h
  | connected =>
      cases h
      exact obeyed_library hplaced rfl rfl rfl htable trivial Iff.rfl
  | lock =>
      cases h
      cases ok with
      | true => exact ⟨trivial, id, iff_of_true trivial ⟨rfl, rfl⟩⟩
      | false => exact ⟨trivial, id, iff_of_false id (by simp)⟩
  | allocateHandle =>
      cases h
      exact obeyed_library hplaced rfl rfl rfl htable trivial Iff.rfl
  | unlock =>
      cases h
      exact ⟨trivial, id, iff_of_true trivial rfl⟩
  | returning ret =>
      cases h
      exact id

theorem setServiceConnectorStmt_obeyed {mem : Memory} {connector : Option Nat}
    {stage : SetConnectorStage} {c : Statement} (hplaced : Placed mem) (htable : TablePublished mem)
    (h : setServiceConnectorStmt mem connector stage = some c) :
    sections.Obeyed Mutex.default mem (.setServiceConnector connector stage) c := by
  cases stage with
  | begin =>
      cases connector with
      | some connector =>
          cases h
          exact ⟨trivial, trivial, id, id, id⟩
      | none =>
          cases h
          exact obeyed_library hplaced rfl rfl rfl htable trivial Iff.rfl
  | traced =>
      cases h
      exact obeyed_library hplaced rfl rfl rfl htable trivial Iff.rfl
  | returning =>
      cases h
      exact id

theorem assign_clientData {ctx : Context Callback ClientData}
    {call : ClientRuns.Call Callback ClientData} {u : UInt32}
    {op op' : PendingOp Callback ClientData} {stage stage' : ClientRuns.Stage}
    (h : ClientRuns.assign ctx call u op stage = some (stage', op')) :
    op'.clientData = op.clientData ∨ op'.clientData = call.clientData := by
  cases stage with
  | acquired => cases h; exact .inl rfl
  | callbackWritten => cases h; exact .inr rfl
  | clientDataWritten => cases h; exact .inl rfl
  | _ => cases h

theorem tablePublished_update {mem : Memory} (htable : TablePublished mem)
    {i : Fin urilMaxPendingOps} {op : PendingOp Callback ClientData}
    (hop : Published mem op.clientData) (j : Fin urilMaxPendingOps) :
    Published mem (Function.update mem.context.pendingOps i op j).clientData := by
  by_cases hj : j = i
  · subst hj
    rwa [Function.update_self]
  · rw [Function.update_of_ne hj]
    exact htable j

theorem acquireFreeOpSlot_published {mem : Memory} (htable : TablePublished mem)
    (i : Fin urilMaxPendingOps) :
    Published mem ((acquireFreeOpSlot mem.context.pendingOps).2 i).clientData := by
  unfold acquireFreeOpSlot
  split
  · rename_i j _
    refine tablePublished_update htable ?_ i
    exact htable j
  · exact htable i

theorem executeAsyncStmt_obeyed {mem : Memory} {args : AsyncArgs} {ok : Bool}
    {stage : AsyncStage} {c : Statement} (hplaced : Placed mem) (htable : TablePublished mem)
    (hargs : Published mem args.clientData)
    (h : executeAsyncStmt mem args ok stage = some c) :
    sections.Obeyed Mutex.default mem (.executeAsync args stage) c := by
  cases stage with
  | begin =>
      simp only [executeAsyncStmt] at h
      split at h
      · cases h
        exact obeyed_library hplaced rfl rfl rfl htable hargs Iff.rfl
      · cases h
        exact obeyed_library hplaced rfl rfl rfl htable hargs Iff.rfl
  | lockIdGen =>
      cases h
      cases ok with
      | true => exact ⟨hargs, id, iff_of_true trivial ⟨rfl, rfl⟩⟩
      | false => exact ⟨hargs, id, iff_of_false id (by simp)⟩
  | allocateId =>
      cases h
      exact obeyed_library hplaced rfl rfl rfl htable hargs Iff.rfl
  | unlockIdGen u =>
      cases h
      exact ⟨hargs, id, iff_of_true trivial rfl⟩
  | lockCmd u =>
      cases h
      cases ok with
      | true => exact ⟨hargs, id, iff_of_true trivial ⟨rfl, rfl⟩⟩
      | false => exact ⟨hargs, id, iff_of_false id (by simp)⟩
  | acquire u =>
      cases h
      refine obeyed_library hplaced rfl rfl rfl ?_ hargs Iff.rfl
      exact acquireFreeOpSlot_published htable
  | unlockCmd u op =>
      cases op with
      | some i =>
          cases h
          exact ⟨hargs, id, iff_of_true trivial rfl⟩
      | none =>
          cases h
          exact ⟨hargs, id, iff_of_true trivial rfl⟩
  | fill stage u i =>
      simp only [executeAsyncStmt] at h
      split at h
      · rename_i stage' op hassign
        cases h
        refine obeyed_library hplaced rfl rfl rfl ?_ hargs Iff.rfl
        apply tablePublished_update htable
        rcases assign_clientData hassign with hdata | hdata
        · rw [hdata]
          exact htable i
        · rw [hdata]
          exact hargs
      · obtain ⟨connector, -, rfl⟩ := Option.map_eq_some_iff.mp h
        exact ⟨trivial, hargs, id, id, id⟩
  | sending => cases h
  | returning ret =>
      cases h
      exact id

theorem Extends.setSync {mem : Memory} {k : Nat} {y : SyncLocals}
    (hy : MutexInitialized mem k → y.syncMutex ≠ .default) : Extends mem (mem.setSync k y) := by
  refine ⟨le_rfl, fun k' hk' => ⟨hk'.1, ?_⟩⟩
  by_cases heq : k' = k
  · subst heq
    rw [Memory.setSync_self]
    exact hy hk'
  · rw [Memory.setSync_other _ _ heq]
    exact hk'.2

theorem Placed.setSync {mem : Memory} (h : Placed mem) {k : Nat} {y : SyncLocals}
    (hplace : y.place = (mem.sync k).place)
    (hlive : y.returned = false → (mem.sync k).returned = false) :
    Placed (mem.setSync k y) := by
  intro k' hk' hk''
  by_cases heq : k' = k
  · subst heq
    rw [Memory.setSync_self] at hk'' ⊢
    rw [hplace]
    exact h k' hk' (hlive hk'')
  · rw [Memory.setSync_other _ _ heq] at hk'' ⊢
    exact h k' hk' hk''

theorem Placed.begin {mem : Memory} (h : Placed mem) {place : Nat} {y : SyncLocals}
    (hfree : ∀ k, mem.frames place = some k → (mem.sync k).returned = true)
    (hplace : y.place = place) :
    Placed { mem.setSync mem.nextSync y with
      nextSync := mem.nextSync + 1
      frames := Function.update mem.frames place (some mem.nextSync) } := by
  intro k hk hlive
  dsimp only at hk hlive ⊢
  by_cases heq : k = mem.nextSync
  · subst heq
    rw [Memory.setSync_self, hplace, Function.update_self]
  · rw [Memory.setSync_other _ _ heq] at hlive ⊢
    have hplaced := h k (by omega) hlive
    have hother : (mem.sync k).place ≠ place := by
      rintro rfl
      cases (hfree k hplaced).symm.trans hlive
    rw [Function.update_of_ne hother]
    exact hplaced

theorem obeyed_setSync {mem : Memory} {f next : Frame} {k : Nat} {y : SyncLocals}
    (hplaced : Placed mem) (htable : TablePublished mem)
    (hplace : y.place = (mem.sync k).place)
    (hlive : y.returned = false → (mem.sync k).returned = false)
    (hmutex : MutexInitialized mem k → y.syncMutex ≠ .default)
    (hnext : Extends mem (mem.setSync k y) → Admitted (mem.setSync k y) next)
    (hcritical : Critical next ↔ Critical f) :
    sections.Obeyed Mutex.default mem f (.compute (mem.setSync k y) next : Statement) :=
  have hext : Extends mem (mem.setSync k y) := .setSync hmutex
  obeyed_compute hext (hplaced.setSync hplace hlive) (fun i => hext.published (htable i))
    (hnext hext) hcritical

theorem executeSyncStmt_obeyed {mem : Memory} {args : SyncArgs} {ok : Bool}
    {stage : SyncStage} {c : Statement} (hplaced : Placed mem) (htable : TablePublished mem)
    (hstage : SyncAdmitted mem stage) (h : executeSyncStmt mem args ok stage = some c) :
    sections.Obeyed Mutex.default mem (.executeSync args stage) c := by
  cases stage with
  | begin =>
      simp only [executeSyncStmt, Option.ite_none_right_eq_some, Option.some.injEq,
        Option.all_eq_true] at h
      obtain ⟨hfree, rfl⟩ := h
      have hext : Extends mem
          { mem.setSync mem.nextSync
              { place := args.place, returned := false, syncMutex := unixMutex, success := false
                condition := false, resp := [], respLen := args.respLen } with
            nextSync := mem.nextSync + 1
            frames := Function.update mem.frames args.place (some mem.nextSync) } := by
        refine ⟨Nat.le_succ _, fun k hk => ⟨Nat.lt_succ_of_lt hk.1, ?_⟩⟩
        dsimp only
        rw [Memory.setSync_other _ _ (Nat.ne_of_lt hk.1)]
        exact hk.2
      refine obeyed_compute hext (hplaced.begin hfree rfl) ?_ (Nat.lt_succ_self _) Iff.rfl
      exact fun i => hext.published (htable i)
  | initMutex k =>
      cases ok with
      | true =>
          cases h
          refine obeyed_setSync hplaced htable rfl id (fun _ => nofun) (fun _ => ⟨hstage, ?_⟩)
            Iff.rfl
          rw [Memory.setSync_self]
          exact nofun
      | false =>
          cases h
          exact obeyed_library hplaced rfl rfl rfl htable trivial Iff.rfl
  | initCondition k =>
      cases ok with
      | true =>
          cases h
          exact obeyed_setSync hplaced htable rfl id And.right
            (fun hext => hext.initialized k hstage) Iff.rfl
      | false =>
          cases h
          exact obeyed_library hplaced rfl rfl rfl htable trivial Iff.rfl
  | execute k =>
      cases h
      refine ⟨?_, hstage, id, id, id⟩
      rintro _ ⟨⟩
      exact hstage
  | executing k => cases h
  | lock k =>
      cases h
      cases ok with
      | true => exact ⟨hstage, id, iff_of_false id fun hm => hstage.2 hm.1⟩
      | false => exact ⟨hstage, id, iff_of_false id fun hm => hstage.2 hm.1⟩
  | test k =>
      simp only [executeSyncStmt] at h
      split at h
      · cases h
        exact obeyed_library hplaced rfl rfl rfl htable hstage Iff.rfl
      · cases h
        exact ⟨hstage, id, iff_of_false id hstage.2⟩
  | waiting k =>
      cases h
      cases ok with
      | true => exact ⟨hstage, id, iff_of_false id fun hm => hstage.2 hm.1⟩
      | false => exact ⟨hstage, id, iff_of_false id fun hm => hstage.2 hm.1⟩
  | woken k =>
      cases h
      exact obeyed_library hplaced rfl rfl rfl htable hstage Iff.rfl
  | unlock k ret =>
      cases h
      exact ⟨hstage, id, iff_of_false id hstage.2⟩
  | exiting k ret =>
      cases h
      exact obeyed_setSync hplaced htable rfl (by simp) And.right (fun _ => trivial) Iff.rfl
  | returning ret =>
      cases h
      exact id

theorem onReceiveStmt_obeyed {mem : Memory} {stage : ReceiveStage} {c : Statement}
    (hplaced : Placed mem) (htable : TablePublished mem) (h : onReceiveStmt mem stage = some c) :
    sections.Obeyed Mutex.default mem (.onReceive stage) c := by
  cases stage with
  | begin data =>
      simp only [onReceiveStmt] at h
      split at h
      · cases h
        exact obeyed_library hplaced rfl rfl rfl htable trivial Iff.rfl
      · split at h
        · cases h
          exact ⟨trivial, trivial, id, id, id⟩
        · cases h
          exact ⟨trivial, trivial, id, id, id⟩
  | handling => cases h
  | returning ret =>
      cases h
      exact id

theorem handleReceiveIndStmt_obeyed {mem : Memory} {ind : UrilProtocolMsg} {stage : IndStage}
    {c : Statement} (hplaced : Placed mem) (htable : TablePublished mem)
    (h : handleReceiveIndStmt mem ind stage = some c) :
    sections.Obeyed Mutex.default mem (.handleReceiveInd ind stage) c := by
  cases stage with
  | begin =>
      simp only [handleReceiveIndStmt] at h
      split at h
      · cases h
        exact ⟨trivial, trivial, id, id, id⟩
      · cases h
        exact obeyed_library hplaced rfl rfl rfl htable trivial Iff.rfl
  | returning =>
      cases h
      exact id

theorem invokeStmt_obeyed {mem : Memory} {resp : UrilProtocolMsg} {cb : Option Callback}
    {clientData : Option ClientData} {f : Callback} {c : Statement}
    (hdata : Published mem clientData) (h : invokeStmt mem resp clientData f = some c) :
    sections.Obeyed Mutex.default mem (.handleReceiveRsp resp (.invoke cb clientData)) c := by
  cases f with
  | application f =>
      cases h
      exact ⟨trivial, trivial, id, id, id⟩
  | asyncCb =>
      cases clientData with
      | none =>
          cases h
          exact ⟨nofun, trivial, id, id, id⟩
      | some data =>
          cases data with
          | application d => cases h
          | params k =>
              cases h
              refine ⟨?_, trivial, id, id, id⟩
              rintro _ ⟨⟩
              exact hdata k rfl

theorem handleReceiveRspStmt_obeyed {mem : Memory} {resp : UrilProtocolMsg} {ok : Bool}
    {stage : RspStage} {c : Statement} (hplaced : Placed mem) (htable : TablePublished mem)
    (hstage : Admitted mem (.handleReceiveRsp resp stage))
    (h : handleReceiveRspStmt mem resp ok stage = some c) :
    sections.Obeyed Mutex.default mem (.handleReceiveRsp resp stage) c := by
  cases stage with
  | lock =>
      cases h
      cases ok with
      | true => exact ⟨trivial, id, iff_of_true trivial ⟨rfl, rfl⟩⟩
      | false => exact ⟨trivial, id, iff_of_false id (by simp)⟩
  | lookup =>
      cases h
      cases hlookup : lookupPendingOp mem.context.pendingOps resp.uniqueId with
      | none =>
          rw [handleReceiveRsp_none hlookup]
          exact obeyed_library hplaced rfl rfl rfl htable trivial Iff.rfl
      | some i =>
          rw [handleReceiveRsp_some hlookup]
          refine obeyed_library hplaced rfl rfl rfl ?_ (htable i) Iff.rfl
          exact tablePublished_update htable (htable i)
  | unlock op =>
      cases op with
      | none =>
          cases h
          exact ⟨nofun, id, iff_of_true trivial rfl⟩
      | some op =>
          cases h
          exact ⟨hstage, id, iff_of_true trivial rfl⟩
  | invoke asyncRespCb clientData =>
      cases asyncRespCb with
      | some f => exact invokeStmt_obeyed hstage h
      | none =>
          cases h
          exact obeyed_library hplaced rfl rfl rfl htable trivial Iff.rfl
  | returning ret =>
      cases h
      exact id

theorem asyncCbStmt_obeyed {mem : Memory} {resp : Vector UInt8 maxUrilPayloadSize} {ok : Bool}
    {k : Nat} {stage : CbStage} (hplaced : Placed mem) (htable : TablePublished mem)
    (hk : MutexInitialized mem k) (hlive : (mem.sync k).returned = false) :
    sections.Obeyed Mutex.default mem (.asyncCb (some k) resp (some stage))
      (asyncCbStmt mem resp ok k stage) := by
  have hoccupant : mem.occupant k = k := by
    rw [Memory.occupant, hplaced k hk.1 hlive]
    rfl
  have hparams : ∀ k', some k = some k' → MutexInitialized mem k' := by
    rintro _ ⟨⟩
    exact hk
  have hwrite : ∀ {y : SyncLocals} {stage' : CbStage}, y.place = (mem.sync k).place →
      y.returned = (mem.sync k).returned → y.syncMutex = (mem.sync k).syncMutex →
        sections.Obeyed Mutex.default mem (.asyncCb (some k) resp (some stage))
          (.compute (mem.setSync k y) (.asyncCb (some k) resp (some stage')) : Statement) := by
    intro y stage' hplace hreturned hmutex
    refine obeyed_setSync hplaced htable hplace (fun h => hreturned ▸ h)
      (fun hinit => hmutex ▸ hinit.2) (fun hext => ?_) Iff.rfl
    exact fun k' hk' => hext.initialized k' (hparams k' hk')
  unfold asyncCbStmt
  rw [hoccupant]
  cases stage with
  | copy => exact hwrite rfl rfl rfl
  | lock => exact ⟨hparams, id, iff_of_false id fun hm => hk.2 hm.1⟩
  | setCondition => exact hwrite rfl rfl rfl
  | unlock => exact ⟨hparams, id, iff_of_false id hk.2⟩
  | signal => exact obeyed_library hplaced rfl rfl rfl htable hparams Iff.rfl

/-- A statement of `async_cb` uses parameters of a call that has not returned. -/
def Lawful (mem : Memory) : Frame → Prop
  | .asyncCb (some k) _ (some _) => (mem.sync k).returned = false
  | _ => True

theorem not_critical_of_not_lawful {mem : Memory} {f : Frame} (h : ¬ Lawful mem f) :
    ¬ Critical f := by
  cases f with
  | asyncCb params resp stage => exact id
  | _ => exact absurd trivial h

theorem libraryStmt_obeyed {mem : Memory} {ok : Bool} {f : Frame} {c : Statement}
    (hplaced : Placed mem) (htable : TablePublished mem) (hf : Admitted mem f)
    (hlawful : Lawful mem f) (h : libraryStmt mem ok f = some c) :
    sections.Obeyed Mutex.default mem f c := by
  cases f with
  | outside code => cases h
  | setServiceConnector connector stage => exact setServiceConnectorStmt_obeyed hplaced htable h
  | init hndl indCb defaultRespCb stage => exact initStmt_obeyed hplaced htable h
  | executeAsync args stage => exact executeAsyncStmt_obeyed hplaced htable hf h
  | executeSync args stage => exact executeSyncStmt_obeyed hplaced htable hf h
  | release returning =>
      cases returning with
      | some ret =>
          cases h
          exact id
      | none =>
          simp only [libraryStmt, Option.some.injEq] at h
          subst h
          refine obeyed_library hplaced rfl rfl rfl (fun i => ?_) trivial Iff.rfl
          dsimp only
          rw [clientRelease_pendingOps]
          exact htable i
  | onReceive stage => exact onReceiveStmt_obeyed hplaced htable h
  | onDisconnect =>
      cases h
      exact id
  | handleReceiveInd ind stage => exact handleReceiveIndStmt_obeyed hplaced htable h
  | handleReceiveRsp resp stage => exact handleReceiveRspStmt_obeyed hplaced htable hf h
  | asyncCb params resp stage =>
      cases params with
      | none =>
          cases h
          exact id
      | some k =>
          cases stage with
          | none =>
              cases h
              exact id
          | some stage =>
              cases h
              exact asyncCbStmt_obeyed hplaced htable (hf k rfl) hlawful

theorem entry_admitted (mem : Memory) (entry : Entry) :
    Admitted mem entry.frame ∧ ¬ Critical entry.frame := by
  cases entry with
  | executeAsync hndl req asyncRespCb clientData =>
      refine ⟨fun k hk => ?_, id⟩
      obtain ⟨d, -, hd⟩ := Option.map_eq_some_iff.mp hk
      cases hd
  | _ => exact ⟨trivial, id⟩

theorem stmt_obeyed {mem : Memory} {f : Frame} {choice : Choice} {c : Statement}
    (hvalid : Valid mem) (hf : Admitted mem f) (hlawful : Lawful mem f)
    (hstmt : stmt mem f choice = some c) : sections.Obeyed Mutex.default mem f c := by
  obtain ⟨-, h⟩ := Option.ite_none_left_eq_some.mp hstmt
  cases choice with
  | statement ok => exact libraryStmt_obeyed hvalid.placed hvalid.table hf hlawful h
  | enter entry =>
      cases f with
      | outside code =>
          cases h
          obtain ⟨hentry, hcritical⟩ := entry_admitted mem entry
          exact ⟨hentry, trivial, id, hcritical, id⟩
      | _ => cases h
  | leave ret =>
      cases f with
      | outside code =>
          cases h
          exact id
      | _ => cases h

theorem resume_obeyed {mem : Memory} {f : Frame} (ret : Int) (hf : Admitted mem f)
    (hcritical : ¬ Critical f) : Admitted mem (resume f ret) ∧ ¬ Critical (resume f ret) := by
  unfold resume
  split
  · split
    · exact ⟨trivial, id⟩
    · exact ⟨trivial, id⟩
  · exact ⟨hf, id⟩
  · split
    · exact ⟨hf, id⟩
    · exact ⟨hf, id⟩
  · exact ⟨trivial, id⟩
  · exact ⟨hf, hcritical⟩

def discipline : Discipline program Mutex.default where
  toSections := sections
  lawful := Lawful
  outside := not_critical_of_not_lawful
  obeyed := stmt_obeyed
  resume := resume_obeyed

/-- What no thread does with `s_default_mutex`. -/
structure MutexDiscipline {θ : Type} (s : State Memory Mutex Frame θ) : Prop where
  noSelfDeadlock : ∀ t f taken next,
    program.Next s t f (.lock .default taken next) → s.owner .default ≠ some t
  releasedAtReturn : ∀ t f ret, program.Next s t f (.ret ret) → s.owner .default ≠ some t
  notHeldOutside : ∀ t f code next,
    program.Next s t f (.call (.outside code) next) → s.owner .default ≠ some t

theorem invariant_initial (θ : Type) : discipline.Invariant (initial θ) := by
  constructor
  · refine ⟨fun k hk => ?_, fun i k hk => ?_⟩
    · cases hk
    · cases hk
  · intro t f hf
    obtain rfl := List.mem_singleton.mp hf
    trivial
  · intro t
    exact iff_of_false nofun (criticalStack_cons.not.mpr id)
  · intro t f hf
    cases hf

/-- The thread that takes a step does not use parameters of a synchronous call that
has returned, as `async_cb` would. -/
def UsesLive {θ : Type} (s : State Memory Mutex Frame θ) (a : θ × Choice) : Prop :=
  ∀ k resp stage callers, s.stack a.1 = .asyncCb (some k) resp (some stage) :: callers →
    (s.memory.sync k).returned = false

theorem lawful_of_usesLive {θ : Type} {s : State Memory Mutex Frame θ} {a : θ × Choice}
    (h : UsesLive s a) : discipline.Lawful s a := by
  intro f callers hstack
  cases f with
  | asyncCb params resp stage =>
      match params, stage with
      | some k, some stage => exact h k resp stage callers hstack
      | some k, none | none, _ => trivial
  | _ => trivial

/-- In runs in which `async_cb` does not use parameters of calls that have returned,
every thread keeps to the discipline of the default mutex. -/
theorem default_mutex_discipline {θ : Type} [DecidableEq θ] {s : State Memory Mutex Frame θ}
    (hrun : Reaches program.step UsesLive (initial θ) s) : MutexDiscipline s := by
  have hlawful : Reaches program.step discipline.Lawful (initial θ) s :=
    hrun.imp (fun _ => True) trivial (fun _ _ _ _ _ _ => trivial)
      fun _ _ _ _ hlive _ => lawful_of_usesLive hlive
  have h : discipline.Invariant s := Discipline.invariant_of_run hlawful (invariant_initial θ)
  constructor
  · intro t f taken next hnext
    exact h.not_held_at_lock hnext
  · intro t f ret hnext
    exact h.not_held_at_ret hnext
  · intro t f code next hnext
    exact h.not_held_at_call hnext

/-- `UsesLive` as a test. -/
def usesLive {θ : Type} (s : State Memory Mutex Frame θ) (a : θ × Choice) : Bool :=
  match s.stack a.1 with
  | .asyncCb (some k) _ (some _) :: _ => !(s.memory.sync k).returned
  | _ => true

theorem usesLive_sound {θ : Type} (s : State Memory Mutex Frame θ) (a : θ × Choice)
    (h : usesLive s a = true) : UsesLive s a := by
  intro k resp stage callers hstack
  simpa [usesLive, hstack] using h

def statements (thread : Bool) (count : Nat) : List (Bool × Choice) :=
  List.replicate count (thread, .statement true)

/-- The application initializes the library. -/
def initActions : List (Bool × Choice) :=
  [(true, .enter (.init true none none))] ++ statements true 2 ++ [(true, .leave 0)] ++
    statements true 5

/-- A synchronous call at place 0, up to its wait. -/
def waitActions : List (Bool × Choice) :=
  [(true, .enter (.executeSync 1 true 8 0))] ++ statements true 15 ++ [(true, .leave 0)] ++
    statements true 3

/-- The image of the response to the first request. -/
def firstResponse : List UInt8 := [0, 0, 0, 0, 1] ++ List.replicate 1039 0

/-- The response comes during the wait, and `async_cb` has the mutex of the call. -/
theorem default_mutex_discipline_answered : ∃ s,
    Reaches program.step UsesLive (initial Bool) s ∧ MutexDiscipline s ∧
      s.owner (.allocated 0) = some false ∧ s.owner .default = none := by
  obtain ⟨s, hrun, hcheck⟩ := exists_reaches_of_exec program.step usesLive usesLive_sound
    (initial Bool)
    (initActions ++ waitActions ++ [(false, .enter (.onReceive firstResponse))] ++
      statements false 7)
    (fun s => s.owner (.allocated 0) = some false ∧ s.owner .default = none) (by decide +kernel)
  exact ⟨s, hrun, default_mutex_discipline hrun, of_decide_eq_true hcheck⟩

/-- The wait of the first call ends at its deadline. The next one has its place, and
has not initialized its mutex when `async_cb` locks it for the response to the first;
what `async_cb` unlocks is another mutex. Then there is one more message. -/
def lateActions : List (Bool × Choice) :=
  initActions ++ waitActions ++ [(true, .statement false)] ++ statements true 2 ++
    [(true, .enter (.executeSync 1 true 8 0))] ++ statements true 1 ++
    [(false, .enter (.onReceive firstResponse))] ++ statements false 7 ++
    statements true 1 ++ statements false 6 ++
    [(false, .enter (.onReceive firstResponse))] ++ statements false 1

/-- The receive thread has the default mutex and comes to take it. -/
def locksTwice (s : State Memory Mutex Frame Bool) : Bool :=
  s.owner .default = some false && !s.memory.crashed &&
    match s.stack false with
    | .handleReceiveRsp _ .lock :: _ => true
    | _ => false

theorem not_discipline_of_locksTwice {s : State Memory Mutex Frame Bool}
    (h : locksTwice s = true) : ¬ MutexDiscipline s := by
  simp only [locksTwice, Bool.and_eq_true, decide_eq_true_eq, Bool.not_eq_true'] at h
  obtain ⟨⟨howner, halive⟩, htop⟩ := h
  intro hdiscipline
  split at htop
  · rename_i resp callers hstack
    have hstmt : stmt s.memory (.handleReceiveRsp resp .lock) (.statement true) =
        some (.lock .default true (.handleReceiveRsp resp .lookup)) := by
      simp only [stmt, halive]
      rfl
    exact hdiscipline.noSelfDeadlock false _ true _
      ⟨callers, .statement true, hstack, hstmt⟩ howner
  · cases htop

/-- A late response to a call that timed out makes the receive thread wait for
itself. -/
theorem late_response_deadlocks :
    ¬ ∀ s, Reaches program.step anyAction (initial Bool) s → MutexDiscipline s := by
  intro hdiscipline
  obtain ⟨s, hrun, hlocks⟩ := exists_run program.step (initial Bool) lateActions locksTwice
    (by decide +kernel)
  exact not_discipline_of_locksTwice hlocks (hdiscipline s hrun)

end UnifiedRil.ClientMutex

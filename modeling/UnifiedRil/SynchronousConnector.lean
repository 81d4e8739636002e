import UnifiedRil.EntryPoints
import UnifiedRil.Messages
import UnifiedRil.SynchronousCommand

/-!
A service connector that answers while it is given the request, as the one of
`tests/client` does: its `send` calls `connector_on_receive` before it returns. The
application's callback then runs inside the call that issued the command, and may
itself call the library, to any depth. There is one thread.

The library is compared with one that has no table of pending operations, where the
connector's answer goes to the callback of the call it is made in.
-/

namespace UnifiedRil.SynchronousConnector

open UnifiedRil.Library.Bytes
open UnifiedRil.Library.Layout
open UnifiedRil.Protocol
open UnifiedRil.Messages
open UnifiedRil.Client
open UnifiedRil.Connection
open UnifiedRil.RequestFidelity
open UnifiedRil.EntryPoints (InitArgs clearedContext)
open UnifiedRil.SynchronousCommand (Callback ClientData)

/-- `URIL_NW_CELL_ACCESS_ALL_CALLS_V01` -/
def cellAccessAllCalls : UInt32 := 4

/-- `URIL_ERROR_OEM_ERROR_OFFSET_V01` -/
def oemErrorOffset : UInt32 := 501

/-- A connector whose `send` answers each message with a response to it. -/
structure ServiceConnector where
  reply : UrilProtocolMsg → UrilProtocolMsg
  uniqueId_reply : ∀ msg, (reply msg).uniqueId = msg.uniqueId
  isIndication_reply : ∀ msg, (reply msg).isIndication = 0
  padding : Nat → UInt8

/-- `mock_service_connector_send_routine`: the response it makes in a struct that
holds `stack`, and the error field of the body, which it leaves as it was. Only the
first branch sets `is_indication`. -/
def mockReply (stack : UrilProtocolMsg) (error : UInt32) (msg : UrilProtocolMsg) :
    UrilProtocolMsg :=
  let resp := { stack with uniqueId := msg.uniqueId, simId := msg.simId }
  if msg.msgId = MsgId.nwGetCellAccessState then
    { resp with
      msgId := MsgId.nwGetCellAccessState
      isIndication := 0
      payload := overwrite resp.payload
        (encode ({ result := UrilResult.success, error } : UrilResponse) ++
          (encode (1 : UInt8) ++ encode cellAccessAllCalls)) }
  else
    { resp with
      payload := overwrite resp.payload
        (encode ({ result := UrilResult.failure, error := oemErrorOffset } : UrilResponse)) }

/-- The connector of the tests. -/
def mockServiceConnector (stack : UrilProtocolMsg) (hstack : stack.isIndication = 0)
    (error : UInt32) (padding : Nat → UInt8) : ServiceConnector where
  reply := mockReply stack error
  uniqueId_reply msg := by
    unfold mockReply
    split
    · rfl
    · rfl
  isIndication_reply msg := by
    unfold mockReply
    split
    · rfl
    · exact hstack
  padding := padding

/-- The arguments that `uril_client_execute_command_async` and
`uril_client_execute_command_sync` share. A request that does not fit is copied
beyond the local message. -/
structure Request where
  hndl : UInt32
  simId : UInt8
  msgId : UInt32
  req : Option (Nat → UInt8)
  reqLen : Nat
  fits : reqLen ≤ maxUrilPayloadSize

def Request.command (r : Request) (asyncRespCb : Option Callback)
    (clientData : Option ClientData) : Command Callback ClientData :=
  { hndl := r.hndl, simId := r.simId, msgId := r.msgId, req := r.req, reqLen := r.reqLen
    asyncRespCb, clientData }

/-- What an application does: a call of the library, and what it does with the
result. Where the library can call back, `callback` is the code of the function that
is called, with its arguments. -/
inductive App
  | done
  | init (hndl : Bool) (indCb defaultRespCb : Option Nat) (next : Option UInt32 → App)
  | executeAsync (r : Request) (asyncRespCb clientData : Option Nat)
      (callback : Upcall Callback ClientData → App) (next : UInt32 → App)
  | executeSync (r : Request) (respLen : Nat)
      (callback : Upcall Callback ClientData → App) (next : UInt32 → List UInt8 → App)
  | release (next : Int → App)

/-- What the connector and the application see. -/
inductive Event
  | sent (msg : UrilProtocolMsg)
  | called (upcall : Upcall Callback ClientData)
  | initReturned (handle : Option UInt32)
  | asyncReturned (ret : UInt32)
  /-- with what was copied to `resp` -/
  | syncReturned (ret : UInt32) (resp : List UInt8)
  | releaseReturned (ret : Int)

/-- `struct async_params` -/
structure AsyncParams where
  success : Bool
  condition : Bool
  resp : List UInt8
  respLen : Nat

structure State where
  context : Context Callback ClientData
  uniqueHandle : UInt32
  uniqueMsgId : UInt32
  /-- the `params` of the synchronous calls in progress, innermost last -/
  params : List AsyncParams

def State.initial : State :=
  { context := .zeroed, uniqueHandle := 0, uniqueMsgId := 0, params := [] }

/-- `uril_client_init`, and the handle it hands out. The connector connects at once. -/
def State.init (s : State) (hndl : Bool) (indCb defaultRespCb : Option Nat) :
    State × Option UInt32 :=
  if hndl then
    ({ s with
        context :=
          { clearedContext ⟨hndl, indCb.map .application, defaultRespCb.map .application⟩ with
            initialized := true, handle := s.uniqueHandle + 1 }
        uniqueHandle := s.uniqueHandle + 1 },
      some (s.uniqueHandle + 1))
  else (s, none)

/-- `async_cb`, which needs parameters that still exist. -/
def State.asyncCb (s : State) (resp : Vector UInt8 maxUrilPayloadSize) (respLen : Nat) :
    Option ClientData → Option State
  | some (.params k) =>
      (s.params[k]?).map fun p =>
        { s with
          params := s.params.set k
            { p with
              resp := resp.toList.take (min p.respLen respLen)
              success := true
              condition := true } }
  | some (.application _) => none
  | none => some s

/-- The function that the library calls. -/
def State.invoke (app : Upcall Callback ClientData → State → Option (State × List Event))
    (s : State) : Upcall Callback ClientData → Option (State × List Event)
  | .response .asyncCb _ _ _ resp respLen clientData =>
      (s.asyncCb resp respLen clientData).map fun t => (t, [])
  | .response (.application f) handle simId msgId resp respLen clientData =>
      let upcall := .response (.application f) handle simId msgId resp respLen clientData
      (app upcall s).map fun (t, log) => (t, .called upcall :: log)
  | .indication .asyncCb _ _ _ => none
  | .indication (.application f) handle simId msgId =>
      let upcall := .indication (.application f) handle simId msgId
      (app upcall s).map fun (t, log) => (t, .called upcall :: log)

/-- The mutexes can be taken, and the connector takes the whole message. -/
def environment (connector : ServiceConnector) : Environment :=
  { idMutexLocks := true, cmdMutexLocks := true, cmdMutexUnlocks := true
    send := some sizeofMsg, padding := connector.padding }

/-- `uril_client_execute_command_async`, with what happens during its `send`. -/
def State.execute (connector : ServiceConnector)
    (app : Upcall Callback ClientData → State → Option (State × List Event)) (s : State)
    (cmd : Command Callback ClientData) : Option (State × List Event × UInt32) :=
  let r := executeCommandAsync (environment connector) s.context s.uniqueMsgId cmd
  if r.ret ≠ 0 then
    some ({ s with context := r.context, uniqueMsgId := r.uniqueMsgId }, [], r.ret)
  else
    let msg := UrilProtocolMsg.ofImage r.stream
    let (context, upcall) :=
      connectorOnReceive r.context ((connector.reply msg).image connector.padding)
    let s := { s with context, uniqueMsgId := r.uniqueMsgId }
    match upcall with
    | none => some (s, [.sent msg], 0)
    | some upcall => (s.invoke app upcall).map fun (t, log) => (t, .sent msg :: log, 0)

/-- A synchronous call begins. -/
def State.withParams (s : State) (respLen : Nat) : State :=
  { s with
    params := s.params ++ [{ success := false, condition := false, resp := [], respLen }] }

/-- What `uril_client_execute_command_sync` returns. Nobody signals during its wait. -/
def syncRet (ret : UInt32) (params : AsyncParams) : UInt32 :=
  if ret ≠ 0 then errorRet else if params.condition then 0 else errorRet

/-- `none` where `async_cb` is called with parameters that do not exist. -/
def run (connector : ServiceConnector) : App → State → Option (State × List Event)
  | .done, s => some (s, [])
  | .init hndl indCb defaultRespCb next, s => do
      let (s, handle) := s.init hndl indCb defaultRespCb
      let (t, log) ← run connector (next handle) s
      return (t, .initReturned handle :: log)
  | .executeAsync r asyncRespCb clientData callback next, s => do
      let (t, log, ret) ← s.execute connector (fun upcall s => run connector (callback upcall) s)
        (r.command (asyncRespCb.map .application) (clientData.map .application))
      let (u, rest) ← run connector (next ret) t
      return (u, log ++ .asyncReturned ret :: rest)
  | .executeSync r respLen callback next, s => do
      let k := s.params.length
      let (t, log, ret) ← (s.withParams respLen).execute connector
        (fun upcall s => run connector (callback upcall) s)
        (r.command (some .asyncCb) (some (.params k)))
      let p ← t.params[k]?
      let ret := syncRet ret p
      let (u, rest) ← run connector (next ret p.resp) { t with params := t.params.take k }
      return (u, log ++ .syncReturned ret p.resp :: rest)
  | .release next, s => do
      let (context, ret) := clientRelease s.context
      let (t, log) ← run connector (next ret) { s with context }
      return (t, .releaseReturned ret :: log)

structure Session where
  handle : UInt32
  initialized : Bool
  defaultAsyncCb : Option Callback
  uniqueHandle : UInt32
  uniqueMsgId : UInt32

def Session.initial : Session :=
  { handle := 0, initialized := false, defaultAsyncCb := none, uniqueHandle := 0
    uniqueMsgId := 0 }

/-- The message that a request is sent in, if it passes the checks. -/
def Session.message (σ : Session) (r : Request) : Option UrilProtocolMsg :=
  if σ.initialized ∧ r.hndl = σ.handle then
    r.req.map fun memory => requestMsg (r.command none none) memory (σ.uniqueMsgId + 1)
  else none

/-- The call that an answer leads to. -/
def Session.upcall (σ : Session) (asyncRespCb clientData : Option Nat)
    (resp : UrilProtocolMsg) : Option (Upcall Callback ClientData) :=
  responseUpcall σ.handle ((asyncRespCb.map .application).or σ.defaultAsyncCb)
    (clientData.map .application) resp

def Session.counted (σ : Session) : Session := { σ with uniqueMsgId := σ.uniqueMsgId + 1 }

/-- The application is called with the answer of the connector. -/
def direct (connector : ServiceConnector) : App → Session → Session × List Event
  | .done, σ => (σ, [])
  | .init false _ _ next, σ =>
      let (τ, log) := direct connector (next none) σ
      (τ, .initReturned none :: log)
  | .init true _ defaultRespCb next, σ =>
      let handle := σ.uniqueHandle + 1
      let (τ, log) := direct connector (next (some handle))
        { handle, initialized := true, defaultAsyncCb := defaultRespCb.map .application
          uniqueHandle := handle, uniqueMsgId := σ.uniqueMsgId }
      (τ, .initReturned (some handle) :: log)
  | .executeAsync r asyncRespCb clientData callback next, σ =>
      match σ.message r with
      | none =>
          let (τ, log) := direct connector (next errorRet) σ
          (τ, .asyncReturned errorRet :: log)
      | some msg =>
          match σ.upcall asyncRespCb clientData (connector.reply msg) with
          | none =>
              let (τ, rest) := direct connector (next 0) σ.counted
              (τ, .sent msg :: .asyncReturned 0 :: rest)
          | some upcall =>
              let (τ, log) := direct connector (callback upcall) σ.counted
              let (υ, rest) := direct connector (next 0) τ
              (υ, .sent msg :: .called upcall :: log ++ .asyncReturned 0 :: rest)
  | .executeSync r respLen _ next, σ =>
      match σ.message r with
      | none =>
          let (τ, log) := direct connector (next errorRet []) σ
          (τ, .syncReturned errorRet [] :: log)
      | some msg =>
          let resp := (connector.reply msg).payload.toList.take
            (min respLen maxUrilPayloadSize)
          let (τ, rest) := direct connector (next 0 resp) σ.counted
          (τ, .sent msg :: .syncReturned 0 resp :: rest)
  | .release next, σ =>
      if σ.initialized then
        let (τ, log) := direct connector (next 0)
          { σ with initialized := false, defaultAsyncCb := none }
        (τ, .releaseReturned 0 :: log)
      else
        let (τ, log) := direct connector (next (-1)) σ
        (τ, .releaseReturned (-1) :: log)

def State.session (s : State) : Session :=
  { handle := s.context.handle, initialized := s.context.initialized
    defaultAsyncCb := s.context.defaultAsyncCb, uniqueHandle := s.uniqueHandle
    uniqueMsgId := s.uniqueMsgId }

/-- No operation is pending; what the slots hold otherwise is left over. -/
structure State.Idle (s : State) : Prop where
  free : ∀ i, (s.context.pendingOps i).busy = false
  default : s.context.defaultAsyncCb ≠ some .asyncCb

variable {connector : ServiceConnector} {s : State}
  {app : Upcall Callback ClientData → State → Option (State × List Event)}

theorem acquireFreeOpSlot_idle {φ δ : Type} {ops : PendingOps φ δ}
    (h : ∀ i, (ops i).busy = false) :
    ∃ i, acquireFreeOpSlot ops = (some i, Function.update ops i { ops i with busy := true }) ∧
      ∀ j, ¬ j < i := by
  cases hslot : (acquireFreeOpSlot ops).1 with
  | none =>
      have hbusy := acquireFreeOpSlot_none hslot ⟨0, by decide⟩
      exact absurd (hbusy.symm.trans (h _)) (by decide)
  | some i =>
      refine ⟨i, Prod.ext hslot (acquireFreeOpSlot_some hslot).2, fun j hj => ?_⟩
      have hbusy := acquireFreeOpSlot_lowest hslot j hj
      exact absurd (hbusy.symm.trans (h j)) (by decide)

theorem execute_refused {r : Request} (cb : Option Callback) (data : Option ClientData)
    (h : s.session.message r = none) :
    s.execute connector app (r.command cb data) = some (s, [], errorRet) := by
  have hrejected : Rejected s.context (r.command cb data) := by
    unfold Session.message at h
    split at h
    · exact .inr (.inr (Option.map_eq_none_iff.mp h))
    · rename_i hchecks
      by_cases hinit : s.context.initialized = true
      · exact .inr (.inl fun hhndl => hchecks ⟨hinit, hhndl⟩)
      · exact .inl (Bool.not_eq_true _ ▸ hinit)
  unfold State.execute
  rw [execute_rejected hrejected]
  rfl

/-- The context of a call that filled in the slot `i`. -/
def State.filled (s : State) (i : Fin urilMaxPendingOps) (cb : Option Callback)
    (data : Option ClientData) (busy : Bool) : Context Callback ClientData :=
  { s.context with
    pendingOps := Function.update s.context.pendingOps i
      { busy, uniqueId := s.uniqueMsgId + 1, clientData := data
        asyncRespCb := storedCallback s.context cb } }

theorem message_some {r : Request} {msg : UrilProtocolMsg}
    (h : s.session.message r = some msg) :
    s.context.initialized = true ∧ r.hndl = s.context.handle ∧ ∃ memory, r.req = some memory ∧
      msg = requestMsg (r.command none none) memory (s.uniqueMsgId + 1) := by
  obtain ⟨⟨hinit, hhndl⟩, hmap⟩ := Option.ite_none_right_eq_some.mp h
  obtain ⟨memory, hmemory, hmsg⟩ := Option.map_eq_some_iff.mp hmap
  exact ⟨hinit, hhndl, memory, hmemory, hmsg.symm⟩

theorem executeCommandAsync_idle (connector : ServiceConnector) {r : Request}
    (cb : Option Callback) (data : Option ClientData) {msg : UrilProtocolMsg} (hidle : s.Idle)
    (hmessage : s.session.message r = some msg) :
    ∃ i, (∀ j, ¬ j < i) ∧
      executeCommandAsync (environment connector) s.context s.uniqueMsgId (r.command cb data) =
        { ret := 0, context := s.filled i cb data true, uniqueMsgId := s.uniqueMsgId + 1
          copied := r.reqLen, stream := msg.image connector.padding } := by
  obtain ⟨hinit, hhndl, memory, hmemory, rfl⟩ := message_some hmessage
  obtain ⟨i, hslot, hfirst⟩ := acquireFreeOpSlot_idle hidle.free
  refine ⟨i, hfirst, ?_⟩
  have hready : ¬ s.context.initialized = false := by simp [hinit]
  have hhandle : ¬ r.hndl ≠ s.context.handle := not_not_intro hhndl
  unfold executeCommandAsync
  simp only [Request.command, environment, if_neg hready, if_neg hhandle, hmemory, hslot,
    Bool.true_eq_false, if_false, Function.update_idem, Function.update_self]
  rw [sendMessage_whole _ _ le_rfl]
  rfl

theorem handleReceive_filled {i : Fin urilMaxPendingOps} (cb : Option Callback)
    (data : Option ClientData) {resp : UrilProtocolMsg} (hfirst : ∀ j, ¬ j < i)
    (hid : resp.uniqueId = s.uniqueMsgId + 1) (hind : resp.isIndication = 0) :
    handleReceive (s.filled i cb data true) resp =
      (s.filled i cb data false,
        responseUpcall s.context.handle (storedCallback s.context cb) data resp) := by
  have hlookup : lookupPendingOp (s.filled i cb data true).pendingOps resp.uniqueId = some i :=
    lookupPendingOp_eq_some_iff.mpr
      ⟨by simp [State.filled, hid], fun j hj => absurd hj (hfirst j)⟩
  rw [handleReceive, if_neg (not_not_intro hind), handleReceiveRsp_some hlookup]
  simp only [State.filled, Function.update_idem, Function.update_self]

/-- The answer goes to the callback of the call that is being made, and its slot is
free again before that callback runs. -/
theorem execute_accepted (connector : ServiceConnector)
    (app : Upcall Callback ClientData → State → Option (State × List Event)) {r : Request}
    (cb : Option Callback) (data : Option ClientData) {msg : UrilProtocolMsg}
    (hidle : s.Idle) (hmessage : s.session.message r = some msg) :
    ∃ t : State, t.session = s.session.counted ∧ t.Idle ∧ t.params = s.params ∧
      s.execute connector app (r.command cb data) =
        match responseUpcall s.context.handle (storedCallback s.context cb) data
          (connector.reply msg) with
        | none => some (t, [.sent msg], 0)
        | some upcall =>
            (t.invoke app upcall).map fun (u, log) => (u, .sent msg :: log, 0) := by
  obtain ⟨i, hfirst, hexecute⟩ := executeCommandAsync_idle connector cb data hidle hmessage
  obtain ⟨-, -, memory, -, rfl⟩ := message_some hmessage
  refine ⟨{ s with context := s.filled i cb data false, uniqueMsgId := s.uniqueMsgId + 1 },
    rfl, ⟨fun j => ?_, hidle.default⟩, rfl, ?_⟩
  · obtain rfl | hj := eq_or_ne j i
    · simp [State.filled]
    · simpa [State.filled, hj] using hidle.free j
  · have hreceive := handleReceive_filled (s := s) cb data hfirst
      (connector.uniqueId_reply (requestMsg (r.command none none) memory (s.uniqueMsgId + 1)))
      (connector.isIndication_reply _)
    unfold State.execute
    rw [hexecute]
    simp only [ne_eq, not_true_eq_false, if_false, ofImage_image, connectorOnReceive,
      image_length, lt_irrefl, hreceive]

theorem map_application_ne (cb : Option Nat) : cb.map Callback.application ≠ some .asyncCb := by
  cases cb with
  | none => rintro ⟨⟩
  | some f => rintro ⟨⟩

theorem invoke_application {upcall : Upcall Callback ClientData}
    (h : upcall.target.1 ≠ .asyncCb) :
    s.invoke app upcall = (app upcall s).map fun (t, log) => (t, .called upcall :: log) := by
  cases upcall with
  | indication cb handle simId msgId =>
      cases cb with
      | asyncCb => exact absurd rfl h
      | application f => rfl
  | response cb handle simId msgId resp respLen clientData =>
      cases cb with
      | asyncCb => exact absurd rfl h
      | application f => rfl

theorem target_upcall {σ : Session} (h : σ.defaultAsyncCb ≠ some .asyncCb)
    {asyncRespCb clientData : Option Nat} {resp : UrilProtocolMsg}
    {upcall : Upcall Callback ClientData}
    (hupcall : σ.upcall asyncRespCb clientData resp = some upcall) :
    upcall.target.1 ≠ .asyncCb := by
  obtain ⟨cb, hcb, rfl⟩ := Option.map_eq_some_iff.mp hupcall
  rintro (rfl : cb = .asyncCb)
  cases asyncRespCb with
  | none => exact h hcb
  | some f => cases hcb

theorem upcall_stored (asyncRespCb clientData : Option Nat) (resp : UrilProtocolMsg) :
    responseUpcall s.context.handle (storedCallback s.context (asyncRespCb.map .application))
        (clientData.map .application) resp =
      s.session.upcall asyncRespCb clientData resp := by
  cases asyncRespCb <;> rfl

/-- What the application and the connector see is what they would see without the
table, and afterwards the library is as it would be, with no operation pending. -/
def Refines (connector : ServiceConnector) (app : App) (s : State) : Prop :=
  ∃ t, run connector app s = some (t, (direct connector app s.session).2) ∧
    t.session = (direct connector app s.session).1 ∧ t.Idle ∧ t.params = s.params

theorem refines_init {next : Option UInt32 → App} (hidle : s.Idle)
    (ih : ∀ handle s, s.Idle → Refines connector (next handle) s) (hndl : Bool)
    (indCb defaultRespCb : Option Nat) :
    Refines connector (.init hndl indCb defaultRespCb next) s := by
  cases hndl with
  | false =>
      obtain ⟨t, hrun, hsession, ht, hparams⟩ := ih none s hidle
      refine ⟨t, ?_, hsession, ht, hparams⟩
      simp only [run, State.init, Bool.false_eq_true, if_false, hrun]
      rfl
  | true =>
      obtain ⟨t, hrun, hsession, ht, hparams⟩ := ih (some (s.uniqueHandle + 1))
        (s.init true indCb defaultRespCb).1 ⟨fun _ => rfl, map_application_ne defaultRespCb⟩
      refine ⟨t, ?_, hsession, ht, hparams⟩
      change (run connector (next (some (s.uniqueHandle + 1)))
        (s.init true indCb defaultRespCb).1 >>= _) = _
      rw [hrun]
      rfl

theorem refines_release {next : Int → App} (hidle : s.Idle)
    (ih : ∀ ret s, s.Idle → Refines connector (next ret) s) :
    Refines connector (.release next) s := by
  cases hinit : s.context.initialized with
  | false =>
      obtain ⟨t, hrun, hsession, ht, hparams⟩ := ih (-1) s hidle
      have hnot : ¬ s.session.initialized = true := by simp [State.session, hinit]
      refine ⟨t, ?_, ?_, ht, hparams⟩
      · simp only [run, clientRelease, hinit, direct, if_neg hnot, Bool.false_eq_true, if_false]
        rw [hrun]
        rfl
      · rwa [direct, if_neg hnot]
  | true =>
      obtain ⟨t, hrun, hsession, ht, hparams⟩ :=
        ih 0
          { s with
            context := { s.context with
              indCb := none, defaultAsyncCb := none, initialized := false } }
          ⟨hidle.free, by rintro ⟨⟩⟩
      have hready : s.session.initialized = true := hinit
      refine ⟨t, ?_, ?_, ht, hparams⟩
      · simp only [run, clientRelease, hinit, direct, if_pos hready, if_true]
        rw [hrun]
        rfl
      · rw [direct, if_pos hready]
        exact hsession

theorem refines_executeAsync {r : Request} {asyncRespCb clientData : Option Nat}
    {callback : Upcall Callback ClientData → App} {next : UInt32 → App} (hidle : s.Idle)
    (ihcallback : ∀ upcall s, s.Idle → Refines connector (callback upcall) s)
    (ihnext : ∀ ret s, s.Idle → Refines connector (next ret) s) :
    Refines connector (.executeAsync r asyncRespCb clientData callback next) s := by
  cases hmessage : s.session.message r with
  | none =>
      obtain ⟨t, hrun, hsession, ht, hparams⟩ := ihnext errorRet s hidle
      refine ⟨t, ?_, ?_, ht, hparams⟩
      · simp only [run, execute_refused _ _ hmessage, direct, hmessage]
        change (run connector (next errorRet) s >>= _) = _
        rw [hrun]
        rfl
      · simpa only [direct, hmessage] using hsession
  | some msg =>
      obtain ⟨u, husession, huidle, huparams, hexecute⟩ := execute_accepted connector
        (fun upcall s => run connector (callback upcall) s) (asyncRespCb.map .application)
        (clientData.map .application) hidle hmessage
      rw [upcall_stored] at hexecute
      cases hupcall : s.session.upcall asyncRespCb clientData (connector.reply msg) with
      | none =>
          rw [hupcall] at hexecute
          obtain ⟨t, hrun, hsession, ht, hparams⟩ := ihnext 0 u huidle
          rw [husession] at hrun hsession
          refine ⟨t, ?_, ?_, ht, hparams.trans huparams⟩
          · simp only [run, hexecute, direct, hmessage, hupcall]
            change (run connector (next 0) u >>= _) = _
            rw [hrun]
            rfl
          · simpa only [direct, hmessage, hupcall] using hsession
      | some upcall =>
          rw [hupcall] at hexecute
          have htarget := target_upcall (σ := s.session) hidle.default hupcall
          obtain ⟨v, hcallback, hvsession, hvidle, hvparams⟩ := ihcallback upcall u huidle
          obtain ⟨t, hrun, hsession, ht, hparams⟩ := ihnext 0 v hvidle
          rw [husession] at hcallback hvsession
          rw [hvsession] at hrun hsession
          refine ⟨t, ?_, ?_, ht, hparams.trans (hvparams.trans huparams)⟩
          · simp only [run, hexecute, invoke_application htarget, hcallback, direct, hmessage,
              hupcall]
            change (run connector (next 0) v >>= _) = _
            rw [hrun]
            rfl
          · simpa only [direct, hmessage, hupcall] using hsession

theorem run_executeSync {r : Request} {respLen : Nat}
    {callback : Upcall Callback ClientData → App} {next : UInt32 → List UInt8 → App}
    {t u : State} {p : AsyncParams} {log rest : List Event} {ret : UInt32}
    (hexecute : (s.withParams respLen).execute connector
      (fun upcall s => run connector (callback upcall) s)
      (r.command (some .asyncCb) (some (.params s.params.length))) = some (t, log, ret))
    (hparams : t.params = s.params ++ [p])
    (hrun : run connector (next (syncRet ret p) p.resp) { t with params := s.params } =
      some (u, rest)) :
    run connector (.executeSync r respLen callback next) s =
      some (u, log ++ .syncReturned (syncRet ret p) p.resp :: rest) := by
  have hread : t.params[s.params.length]? = some p := by
    rw [hparams]
    exact List.getElem?_concat_length
  have htake : t.params.take s.params.length = s.params := by
    rw [hparams]
    exact List.take_left
  simp only [run, hexecute, Option.bind_eq_bind, Option.bind_some, hread, htake, hrun]
  rfl

/-- `async_cb` with the parameters of the innermost synchronous call. -/
theorem asyncCb_innermost {before : List AsyncParams} {p : AsyncParams}
    (h : s.params = before ++ [p]) (resp : Vector UInt8 maxUrilPayloadSize) (respLen : Nat) :
    s.asyncCb resp respLen (some (.params before.length)) =
      some { s with
        params := before ++
          [{ p with
              resp := resp.toList.take (min p.respLen respLen)
              success := true
              condition := true }] } := by
  simp [State.asyncCb, h, List.set_append_right]

theorem refines_executeSync {r : Request} {respLen : Nat}
    {callback : Upcall Callback ClientData → App} {next : UInt32 → List UInt8 → App}
    (hidle : s.Idle) (ihnext : ∀ ret resp s, s.Idle → Refines connector (next ret resp) s) :
    Refines connector (.executeSync r respLen callback next) s := by
  have hcalled : (s.withParams respLen).Idle := ⟨hidle.free, hidle.default⟩
  cases hmessage : s.session.message r with
  | none =>
      obtain ⟨t, hrun, hsession, ht, hparams⟩ := ihnext errorRet [] s hidle
      refine ⟨t, ?_, ?_, ht, hparams⟩
      · rw [run_executeSync (execute_refused (s := s.withParams respLen) _ _ hmessage) rfl hrun]
        simp only [direct, hmessage]
        rfl
      · simpa only [direct, hmessage] using hsession
  | some msg =>
      obtain ⟨u, husession, huidle, huparams, hexecute⟩ := execute_accepted connector
        (fun upcall s => run connector (callback upcall) s) (some .asyncCb)
        (some (.params s.params.length)) hcalled hmessage
      have hcb := asyncCb_innermost huparams (connector.reply msg).payload maxUrilPayloadSize
      obtain ⟨t, hrun, hsession, ht, hparams⟩ := ihnext 0
        ((connector.reply msg).payload.toList.take (min respLen maxUrilPayloadSize))
        { u with params := s.params } ⟨huidle.free, huidle.default⟩
      replace hexecute := hexecute.trans (congrArg (Option.map _) (congrArg (Option.map _) hcb))
      change { u with params := s.params }.session = s.session.counted at husession
      rw [husession] at hrun hsession
      refine ⟨t, ?_, ?_, ht, hparams⟩
      · rw [run_executeSync hexecute rfl hrun]
        simp only [direct, hmessage]
        rfl
      · simpa only [direct, hmessage] using hsession

/-- Whatever the application does, to any depth of callbacks. -/
theorem run_refines (connector : ServiceConnector) (app : App) :
    ∀ s : State, s.Idle → Refines connector app s := by
  induction app with
  | done => exact fun s hidle => ⟨s, rfl, rfl, hidle, rfl⟩
  | init hndl indCb defaultRespCb next ih =>
      exact fun s hidle => refines_init hidle ih hndl indCb defaultRespCb
  | executeAsync r asyncRespCb clientData callback next ihcallback ihnext =>
      exact fun s hidle => refines_executeAsync hidle ihcallback ihnext
  | executeSync r respLen callback next _ ihnext =>
      exact fun s hidle => refines_executeSync hidle ihnext
  | release next ih => exact fun s hidle => refines_release hidle ih

/-- An application that runs on such a connector cannot tell that there is a table:
every command it is right to issue succeeds and is answered in its own callback, also
one issued in a callback, and in the end no operation is pending. -/
theorem runs_directly (connector : ServiceConnector) (app : App) :
    ∃ t, run connector app .initial = some (t, (direct connector app .initial).2) ∧
      t.session = (direct connector app .initial).1 ∧
      (∀ i, (t.context.pendingOps i).busy = false) ∧ t.params = [] := by
  obtain ⟨t, hrun, hsession, hidle, hparams⟩ :=
    run_refines connector app .initial ⟨fun _ => rfl, by rintro ⟨⟩⟩
  exact ⟨t, hrun, hsession, hidle.free, hparams⟩

end UnifiedRil.SynchronousConnector

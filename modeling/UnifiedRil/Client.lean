import Mathlib.Data.List.FinRange
import Mathlib.Logic.Function.Basic
import UnifiedRil.Protocol

/-!
`uril_client.c`: the client's context, its table of pending operations, and
what it does with a message from the service. Function pointers are the
elements of a type `φ`, pointers to client data those of a type `δ`; a null
pointer is `none`.

The mutexes are default ones, each released by the thread that took it; where
the client runs next to other threads, taking and releasing them is modelled as
always successful.
-/

namespace UnifiedRil.Client

open UnifiedRil.Protocol

variable {φ δ : Type}

def urilMaxPendingOps : Nat := 16

/-- `uril_cli_pending_op_t` -/
structure PendingOp (φ δ : Type) where
  busy : Bool
  uniqueId : UInt32
  clientData : Option δ
  asyncRespCb : Option φ
  deriving DecidableEq

abbrev PendingOps (φ δ : Type) := Fin urilMaxPendingOps → PendingOp φ δ

/-- `uril_cli_ctx_t` -/
structure Context (φ δ : Type) where
  handle : UInt32
  initialized : Bool
  indCb : Option φ
  defaultAsyncCb : Option φ
  pendingOps : PendingOps φ δ

/-- `memset(&context, 0, sizeof(context))` -/
def Context.zeroed : Context φ δ :=
  { handle := 0, initialized := false, indCb := none, defaultAsyncCb := none
    pendingOps := fun _ =>
      { busy := false, uniqueId := 0, clientData := none, asyncRespCb := none } }

def acquireFreeOpSlot (ops : PendingOps φ δ) :
    Option (Fin urilMaxPendingOps) × PendingOps φ δ :=
  match (List.finRange urilMaxPendingOps).find? fun i => !(ops i).busy with
  | some i => (some i, Function.update ops i { ops i with busy := true })
  | none => (none, ops)

def lookupPendingOp (ops : PendingOps φ δ) (uniqueId : UInt32) :
    Option (Fin urilMaxPendingOps) :=
  (List.finRange urilMaxPendingOps).find? fun i => (ops i).uniqueId == uniqueId

/-- A call of one of the application's callbacks. -/
inductive Upcall (φ δ : Type)
  | indication (cb : φ) (handle : UInt32) (simId : UInt8) (msgId : UInt32)
  | response (cb : φ) (handle : UInt32) (simId : UInt8) (msgId : UInt32)
      (resp : Vector UInt8 maxUrilPayloadSize) (respLen : Nat) (clientData : Option δ)
  deriving DecidableEq

/-- The function that is called, and the client data it is given. -/
def Upcall.target : Upcall φ δ → φ × Option δ
  | .indication cb _ _ _ => (cb, none)
  | .response cb _ _ _ _ _ clientData => (cb, clientData)

def handleReceiveInd (ctx : Context φ δ) (ind : UrilProtocolMsg) : Option (Upcall φ δ) :=
  ctx.indCb.map fun cb => .indication cb ctx.handle ind.simId ind.msgId

/-- The call that `handle_receive_rsp` makes for the operation it found. -/
def responseUpcall (handle : UInt32) (asyncRespCb : Option φ) (clientData : Option δ)
    (resp : UrilProtocolMsg) : Option (Upcall φ δ) :=
  asyncRespCb.map fun cb =>
    .response cb handle resp.simId resp.msgId resp.payload maxUrilPayloadSize clientData

def handleReceiveRsp (ctx : Context φ δ) (resp : UrilProtocolMsg) :
    Context φ δ × Option (Upcall φ δ) :=
  match lookupPendingOp ctx.pendingOps resp.uniqueId with
  | some i =>
      let op := ctx.pendingOps i
      ({ ctx with pendingOps := Function.update ctx.pendingOps i { op with busy := false } },
        responseUpcall ctx.handle op.asyncRespCb op.clientData resp)
  | none => (ctx, none)

/-- The part of `connector_on_receive` that follows its length check. -/
def handleReceive (ctx : Context φ δ) (msg : UrilProtocolMsg) :
    Context φ δ × Option (Upcall φ δ) :=
  if msg.isIndication ≠ 0 then (ctx, handleReceiveInd ctx msg) else handleReceiveRsp ctx msg

def connectorOnReceive (ctx : Context φ δ) (data : List UInt8) :
    Context φ δ × Option (Upcall φ δ) :=
  if data.length < sizeofMsg then (ctx, none)
  else handleReceive ctx (UrilProtocolMsg.ofImage data)

/-- The callback that `uril_client_execute_command_async` stores. -/
def storedCallback (ctx : Context φ δ) (asyncRespCb : Option φ) : Option φ :=
  match asyncRespCb with
  | some cb => some cb
  | none => ctx.defaultAsyncCb

@[simp] theorem storedCallback_pendingOps (ctx : Context φ δ) (ops : PendingOps φ δ)
    (asyncRespCb : Option φ) :
    storedCallback { ctx with pendingOps := ops } asyncRespCb =
      storedCallback ctx asyncRespCb := by
  cases asyncRespCb <;> rfl

/-- `uril_client_release` -/
def clientRelease (ctx : Context φ δ) : Context φ δ × Int :=
  if ctx.initialized then
    ({ ctx with indCb := none, defaultAsyncCb := none, initialized := false }, 0)
  else (ctx, -1)

theorem clientRelease_pendingOps (ctx : Context φ δ) :
    (clientRelease ctx).1.pendingOps = ctx.pendingOps := by
  unfold clientRelease
  split
  · rfl
  · rfl

theorem acquireFreeOpSlot_none {ops : PendingOps φ δ}
    (h : (acquireFreeOpSlot ops).1 = none) : ∀ i, (ops i).busy = true := by
  unfold acquireFreeOpSlot at h
  split at h
  · cases h
  · rename_i hfind
    intro i
    simpa using List.find?_eq_none.mp hfind i (List.mem_finRange i)

theorem acquireFreeOpSlot_some {ops : PendingOps φ δ} {i : Fin urilMaxPendingOps}
    (h : (acquireFreeOpSlot ops).1 = some i) :
    (ops i).busy = false ∧
      (acquireFreeOpSlot ops).2 = Function.update ops i { ops i with busy := true } := by
  unfold acquireFreeOpSlot at h ⊢
  split at h
  · rename_i j hfind
    cases h
    exact ⟨by simpa using List.find?_some hfind, rfl⟩
  · cases h

theorem acquireFreeOpSlot_lowest {ops : PendingOps φ δ} {i : Fin urilMaxPendingOps}
    (h : (acquireFreeOpSlot ops).1 = some i) : ∀ j < i, (ops j).busy = true := by
  unfold acquireFreeOpSlot at h
  split at h
  · rename_i j hfind
    cases h
    rw [← Fin.find?_eq_find?_finRange] at hfind
    simpa using Fin.eq_false_of_find?_eq_some_of_lt hfind
  · cases h

theorem lookupPendingOp_eq_some_iff {ops : PendingOps φ δ} {u : UInt32}
    {i : Fin urilMaxPendingOps} :
    lookupPendingOp ops u = some i ↔
      (ops i).uniqueId = u ∧ ∀ j < i, (ops j).uniqueId ≠ u := by
  rw [lookupPendingOp, ← Fin.find?_eq_find?_finRange, Fin.find?_eq_some_iff]
  simp

theorem lookupPendingOp_unique {ops : PendingOps φ δ} {u : UInt32}
    {i : Fin urilMaxPendingOps} (hi : (ops i).uniqueId = u)
    (honly : ∀ j, (ops j).uniqueId = u → j = i) : lookupPendingOp ops u = some i :=
  lookupPendingOp_eq_some_iff.mpr ⟨hi, fun j hlt hj => hlt.ne (honly j hj)⟩

theorem handleReceiveRsp_some {ctx : Context φ δ} {resp : UrilProtocolMsg}
    {i : Fin urilMaxPendingOps} (h : lookupPendingOp ctx.pendingOps resp.uniqueId = some i) :
    handleReceiveRsp ctx resp =
      ({ ctx with
          pendingOps := Function.update ctx.pendingOps i
            { ctx.pendingOps i with busy := false } },
        responseUpcall ctx.handle (ctx.pendingOps i).asyncRespCb
          (ctx.pendingOps i).clientData resp) := by
  rw [handleReceiveRsp, h]

theorem handleReceiveRsp_none {ctx : Context φ δ} {resp : UrilProtocolMsg}
    (h : lookupPendingOp ctx.pendingOps resp.uniqueId = none) :
    handleReceiveRsp ctx resp = (ctx, none) := by
  rw [handleReceiveRsp, h]

end UnifiedRil.Client

import Mathlib.Logic.Function.Basic
import UnifiedRil.Protocol

namespace UnifiedRil.MessageTracker

open UnifiedRil.Protocol

variable {κ : Type}

/-- `mPendingRequests`. An entry can hold a null pointer. -/
abbrev PendingRequests (κ : Type) := UInt32 → Option (Option κ)

/-- The map of a new tracker. -/
def PendingRequests.empty : PendingRequests κ := fun _ => none

/-- `mPendingRequests[id] = &connection` -/
def PendingRequests.assign (m : PendingRequests κ) (id : UInt32) (connection : κ) :
    PendingRequests κ :=
  Function.update m id (some (some connection))

/-- Reading `mPendingRequests[id]`: `operator[]` inserts a null pointer where
there is no entry. -/
def PendingRequests.index (m : PendingRequests κ) (id : UInt32) :
    Option κ × PendingRequests κ :=
  match m id with
  | some pointer => (pointer, m)
  | none => (none, Function.update m id (some none))

/-- `mPendingRequests.erase(id)` -/
def PendingRequests.erase (m : PendingRequests κ) (id : UInt32) : PendingRequests κ :=
  Function.update m id none

/-- The critical section of `processResponse`: look the connection up and
erase the entry. -/
def takeConnection (m : PendingRequests κ) (id : UInt32) : Option κ × PendingRequests κ :=
  let (connection, m') := m.index id
  (connection, m'.erase id)

@[simp] theorem takeConnection_fst (m : PendingRequests κ) (id : UInt32) :
    (takeConnection m id).1 = (m id).join := by
  unfold takeConnection PendingRequests.index
  cases m id <;> rfl

@[simp] theorem takeConnection_snd (m : PendingRequests κ) (id : UInt32) :
    (takeConnection m id).2 = m.erase id := by
  unfold takeConnection PendingRequests.index
  cases m id <;> simp [PendingRequests.erase]

theorem erase_of_none {m : PendingRequests κ} {id : UInt32} (h : m id = none) :
    m.erase id = m := by
  simp [PendingRequests.erase, ← h]

/-- `trackAndDispatchRequest`. The next processor takes the message and says
whether it is responsible for it. -/
def trackAndDispatchRequest (m : PendingRequests κ) (connection : κ) (msg : UrilProtocolMsg)
    (nextProcessor : Option (UrilProtocolMsg → Bool)) : PendingRequests κ × Bool :=
  (m.assign msg.uniqueId connection,
    match nextProcessor with
    | some processRequest => processRequest msg
    | none => false)

/-- The loop over the connections for an indication: the connections the
message was handed to, and `ret`. A failed send does not end it, since
`ret &= ...` has no short circuit. -/
def sendToAll (send : κ → Bool) (connections : List κ) : List κ × Bool :=
  connections.foldl (fun (sent, ret) connection => (sent ++ [connection], ret && send connection))
    ([], true)

theorem sendToAll_fst (send : κ → Bool) (connections : List κ) :
    (sendToAll send connections).1 = connections := by
  have hloop : ∀ (rest sent : List κ) (ret : Bool),
      (rest.foldl (fun (sent, ret) connection =>
        (sent ++ [connection], ret && send connection)) (sent, ret)).1 = sent ++ rest := by
    intro rest
    induction rest with
    | nil => simp
    | cons connection rest ih => intro sent ret; simp [ih]
  exact hloop connections [] true

/-- `processResponse`: the map afterwards, the connections the message was
handed to, and the value returned. `send` is the result of
`sendMessageToClient` on a connection. -/
def processResponse (m : PendingRequests κ) (connections : List κ) (send : κ → Bool)
    (msg : Option UrilProtocolMsg) : PendingRequests κ × List κ × Bool :=
  match msg with
  | none => (m, [], false)
  | some msg =>
      if msg.isIndication ≠ 0 then (m, sendToAll send connections)
      else
        let (connection, m') := takeConnection m msg.uniqueId
        match connection with
        | some connection => (m', [connection], send connection)
        | none => (m', [], true)

end UnifiedRil.MessageTracker

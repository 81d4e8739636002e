import UnifiedRil.ConnectionLifecycle
import UnifiedRil.Library.FlatLocking
import UnifiedRil.RequestProcessors

/-!
The mutexes of the service. The accept loop, the pumps, the threads of the vendor
and the detached threads run statement by statement. Where the service calls the
vendor, and at any time on a thread of its own, the vendor may call back, to any
depth. What a `lock_guard` spans is a block, and is entered like a function.
-/

namespace UnifiedRil.ServiceMutexes

open UnifiedRil.Library.Runs
open UnifiedRil.Library.CallStacks
open UnifiedRil.Library.FlatLocking
open UnifiedRil.Protocol
open UnifiedRil.MessageTracker
open UnifiedRil.Ril
open UnifiedRil.RilAdapter
open UnifiedRil.ConnectionLifecycle (Observer ObserverVector)

variable {κ : Type} [DecidableEq κ]

inductive Mutex (κ : Type)
  | requests
  | connections
  | connectorObservers
  | observers (c : κ)
  | socket (c : κ)
  deriving DecidableEq

structure Memory (κ : Type) where
  pendingRequests : PendingRequests κ
  connections : List κ
  connectorObservers : List Observer
  observers : κ → ObserverVector
  /-- the connections whose pump was started -/
  ignited : κ → Bool
  sent : List (κ × UrilProtocolMsg)

/-- What a `lock_guard` spans. -/
inductive Block (κ : Type)
  | registerObserver (c : κ) (observer : Observer)
  | unregisterObserver (c : κ) (observer : Observer)
  | registerConnectorObserver (observer : Observer)
  | list (c : κ)
  | unlist (c : κ)
  | assign (uniqueId : UInt32) (c : κ)
  | take (uniqueId : UInt32)
  | send (c : κ) (msg : UrilProtocolMsg)

def Block.mutex : Block κ → Mutex κ
  | .registerObserver c _ | .unregisterObserver c _ => .observers c
  | .registerConnectorObserver _ => .connectorObservers
  | .list _ | .unlist _ => .connections
  | .assign _ _ | .take _ => .requests
  | .send c _ => .socket c

/-- What a function returns. -/
inductive Value (κ : Type)
  | ret (value : Bool)
  | connection (c : Option κ)

inductive BlockStage (κ : Type)
  | lock
  | first
  | erase (connection : Option κ)
  | unlock (value : Value κ)
  | returning (value : Value κ)

inductive ResponseStage (κ : Type)
  | begin
  /-- the connections that the indication was not sent to, and `ret` -/
  | broadcast (rest : List κ) (value : Bool)
  | taking
  | send (connection : Option κ)
  | returning (value : Bool)

inductive RequestStage
  | track
  | dispatch
  | dispatching
  | returning (value : Bool)

inductive DisconnectedStage
  | unregister
  | unlist
  | returning

inductive AcceptStage (κ : Type)
  | waiting
  | list (c : κ)
  | observe (c : κ)
  | notify (c : κ) (i : Nat)
  | ignite (c : κ)

/-- The loops over the observers read the size once. -/
inductive PumpStage
  | recv
  | received (msg : UrilProtocolMsg) (i stop : Nat)
  | disconnected (i stop : Nat)
  | deleting

inductive RadioStage
  | ask
  | respond
  | returning

/-- A function that was called, and its next statement. -/
inductive Frame (κ : Type)
  | outside
  | block (b : Block κ) (stage : BlockStage κ)
  | newTracker (registered : Bool)
  | acceptLoop (stage : AcceptStage κ)
  | pumpLoop (c : κ) (stage : PumpStage)
  | onClientDisconnected (observer : Observer) (c : κ) (stage : DisconnectedStage)
  | trackAndDispatchRequest (c : κ) (msg : UrilProtocolMsg) (stage : RequestStage)
  | processRequest (effects : List Effect) (value : Bool)
  | onRequestComplete (rsp : Option UrilProtocolMsg)
  | onUnsolicitedResponse (event : Option RilUnsol)
  | requestTimedCallback
  | processResponse (msg : UrilProtocolMsg) (stage : ResponseStage κ)
  | radioThread (uniqueId : UInt32) (simId : UInt8) (stage : RadioStage)
  | followUp (submitted : Bool)

/-- What the vendor may call. -/
inductive Entry
  | onRequestComplete (rsp : Option UrilProtocolMsg)
  | onUnsolicitedResponse (event : RilUnsol)
  | requestTimedCallback

def Entry.frame : Entry → Frame κ
  | .onRequestComplete rsp => .onRequestComplete rsp
  | .onUnsolicitedResponse event => .onUnsolicitedResponse (some event)
  | .requestTimedCallback => .requestTimedCallback

inductive Choice (κ : Type)
  | enter (entry : Entry)
  | leave
  /-- a statement of the service, and whether the system does what it asks for -/
  | statement (ok : Bool)
  | message (msg : UrilProtocolMsg)
  | closed
  | client (c : κ)
  | failed
  | radioState (state : RadioState)

abbrev Statement (κ : Type) := Stmt (Memory κ) (Mutex κ) (Frame κ) (Value κ)

/-- The first statement of a block, its result, and the stage behind it. -/
def Block.first (mem : Memory κ) (ok : Bool) : Block κ → Memory κ × BlockStage κ
  | .registerObserver c observer =>
      ({ mem with
          observers := Function.update mem.observers c
            ((mem.observers c).registerObserver observer) },
        .unlock (.ret true))
  | .unregisterObserver c observer =>
      ({ mem with
          observers := Function.update mem.observers c
            ((mem.observers c).unregisterObserver observer) },
        .unlock (.ret true))
  | .registerConnectorObserver observer =>
      ({ mem with connectorObservers := mem.connectorObservers ++ [observer] },
        .unlock (.ret true))
  | .list c => ({ mem with connections := mem.connections ++ [c] }, .unlock (.ret true))
  | .unlist c =>
      ({ mem with connections := mem.connections.filter (· ≠ c) }, .unlock (.ret true))
  | .assign uniqueId c =>
      ({ mem with pendingRequests := mem.pendingRequests.assign uniqueId c }, .unlock (.ret true))
  | .take uniqueId =>
      let (connection, pendingRequests) := mem.pendingRequests.index uniqueId
      ({ mem with pendingRequests := pendingRequests }, .erase connection)
  | .send c msg =>
      ({ mem with sent := if ok then (c, msg) :: mem.sent else mem.sent }, .unlock (.ret ok))

/-- `mPendingRequests.erase(unique_id)` -/
def Block.erase (mem : Memory κ) : Block κ → Memory κ
  | .take uniqueId => { mem with pendingRequests := mem.pendingRequests.erase uniqueId }
  | _ => mem

def blockStmt (mem : Memory κ) (ok : Bool) (b : Block κ) : BlockStage κ → Statement κ
  | .lock => .lock b.mutex true (.block b .first)
  | .first =>
      let (mem, stage) := b.first mem ok
      .compute mem (.block b stage)
  | .erase connection => .compute (b.erase mem) (.block b (.unlock (.connection connection)))
  | .unlock value => .unlock b.mutex (.block b (.returning value))
  | .returning value => .ret value

/-- The block is entered. -/
def enter (b : Block κ) (next : Frame κ) : Statement κ := .call (.block b .lock) next

def acceptLoopStmt (mem : Memory κ) : AcceptStage κ → Option (Statement κ)
  | .waiting => none
  | .list c => some (enter (.list c) (.acceptLoop (.observe c)))
  | .observe c => some (enter (.registerObserver c .connector) (.acceptLoop (.notify c 0)))
  | .notify c i =>
      match mem.connectorObservers[i]? with
      -- `onNewConnection`
      | some observer =>
          some (enter (.registerObserver c observer) (.acceptLoop (.notify c (i + 1))))
      | none => some (.compute mem (.acceptLoop (.ignite c)))
  | .ignite c =>
      some (.compute { mem with ignited := Function.update mem.ignited c true }
        (.acceptLoop .waiting))

def pumpLoopStmt (mem : Memory κ) (c : κ) : PumpStage → Option (Statement κ)
  | .recv => none
  | .received msg i stop =>
      if i = stop then some (.compute mem (.pumpLoop c .recv))
      else
        match (mem.observers c).slots[i]? with
        | some .connector => some (.compute mem (.pumpLoop c (.received msg (i + 1) stop)))
        | some .tracker =>
            some (.call (.trackAndDispatchRequest c msg .track)
              (.pumpLoop c (.received msg (i + 1) stop)))
        | none => none
  | .disconnected i stop =>
      if i = stop then some (.compute mem (.pumpLoop c .deleting))
      else
        (mem.observers c).slots[i]?.map fun observer =>
          .call (.onClientDisconnected observer c .unregister)
            (.pumpLoop c (.disconnected (i + 1) stop))
  | .deleting => none

def onClientDisconnectedStmt (mem : Memory κ) (observer : Observer) (c : κ) :
    DisconnectedStage → Statement κ
  | .unregister =>
      enter (.unregisterObserver c observer) (.onClientDisconnected observer c .unlist)
  | .unlist =>
      match observer with
      | .connector => enter (.unlist c) (.onClientDisconnected observer c .returning)
      | .tracker => .compute mem (.onClientDisconnected observer c .returning)
  | .returning => .ret (.ret true)

def trackAndDispatchRequestStmt (c : κ) (msg : UrilProtocolMsg) :
    RequestStage → Option (Statement κ)
  | .track =>
      some (enter (.assign msg.uniqueId c) (.trackAndDispatchRequest c msg .dispatch))
  | .dispatch =>
      match RequestProcessors.processRequest msg with
      | .ok p =>
          some (.call (.processRequest p.effects p.ret)
            (.trackAndDispatchRequest c msg .dispatching))
      | .error _ => none
  | .dispatching => none
  | .returning value => some (.ret (.ret value))

def processRequestStmt (mem : Memory κ) (value : Bool) : List Effect → Statement κ
  | [] => .ret (.ret value)
  | .submit _ _ :: rest => .call .outside (.processRequest rest value)
  | .radioThread _ _ :: rest => .compute mem (.processRequest rest value)

def processResponseStmt (mem : Memory κ) (msg : UrilProtocolMsg) :
    ResponseStage κ → Option (Statement κ)
  | .begin =>
      if msg.isIndication ≠ 0 then
        some (.compute mem (.processResponse msg (.broadcast mem.connections true)))
      else some (enter (.take msg.uniqueId) (.processResponse msg .taking))
  | .broadcast (c :: rest) value =>
      some (enter (.send c msg) (.processResponse msg (.broadcast rest value)))
  | .broadcast [] value => some (.compute mem (.processResponse msg (.returning value)))
  | .taking => none
  | .send (some c) => some (enter (.send c msg) (.processResponse msg (.returning true)))
  | .send none => some (.compute mem (.processResponse msg (.returning true)))
  | .returning value => some (.ret (.ret value))

def serviceStmt (mem : Memory κ) (ok : Bool) : Frame κ → Option (Statement κ)
  | .outside => none
  | .block b stage => some (blockStmt mem ok b stage)
  | .newTracker false => some (enter (.registerConnectorObserver .tracker) (.newTracker true))
  | .newTracker true => some (.ret (.ret true))
  | .acceptLoop stage => acceptLoopStmt mem stage
  | .pumpLoop c stage => pumpLoopStmt mem c stage
  | .onClientDisconnected observer c stage => some (onClientDisconnectedStmt mem observer c stage)
  | .trackAndDispatchRequest c msg stage => trackAndDispatchRequestStmt c msg stage
  | .processRequest effects value => some (processRequestStmt mem value effects)
  | .onRequestComplete (some rsp) =>
      some (.call (.processResponse rsp .begin) (.onRequestComplete none))
  | .onRequestComplete none => some (.ret (.ret true))
  | .onUnsolicitedResponse (some event) =>
      some (.call (.processResponse (handleRilUnsolicitedResponse event) .begin)
        (.onUnsolicitedResponse none))
  | .onUnsolicitedResponse none => some (.ret (.ret true))
  | .requestTimedCallback => some (.ret (.ret true))
  | .processResponse msg stage => processResponseStmt mem msg stage
  | .radioThread uniqueId simId .ask => some (.call .outside (.radioThread uniqueId simId .respond))
  | .radioThread _ _ .respond => none
  | .radioThread _ _ .returning => some (.ret (.ret true))
  | .followUp false => some (.call .outside (.followUp true))
  | .followUp true => some (.ret (.ret true))

def stmt (mem : Memory κ) (f : Frame κ) : Choice κ → Option (Statement κ)
  | .enter entry =>
      match f with
      | .outside => some (.call entry.frame .outside)
      | _ => none
  | .leave =>
      match f with
      | .outside => some (.ret (.ret true))
      | _ => none
  | .statement ok => serviceStmt mem ok f
  | .message msg =>
      match f with
      | .pumpLoop c .recv =>
          if mem.ignited c then
            some (.compute mem (.pumpLoop c (.received msg 0 (mem.observers c).size)))
          else none
      | _ => none
  | .closed =>
      match f with
      | .pumpLoop c .recv =>
          if mem.ignited c then
            some (.compute mem (.pumpLoop c (.disconnected 0 (mem.observers c).size)))
          else none
      | _ => none
  | .client c =>
      match f with
      | .acceptLoop .waiting =>
          some (.compute { mem with observers := Function.update mem.observers c ⟨[], 0⟩ }
            (.acceptLoop (.list c)))
      | _ => none
  | .failed =>
      match f with
      | .pumpLoop _ .recv | .acceptLoop .waiting => some (.ret (.ret false))
      | _ => none
  | .radioState state =>
      match f with
      | .radioThread uniqueId simId .respond =>
          match radioModeResponse uniqueId simId state with
          | .ok h =>
              some (.call (.processResponse h.rsp .begin) (.radioThread uniqueId simId .returning))
          | .error _ => none
      | _ => none

/-- A function goes on with the value of a call it made. -/
def resume : Frame κ → Value κ → Frame κ
  | .trackAndDispatchRequest c msg .dispatching, .ret value =>
      .trackAndDispatchRequest c msg (.returning value)
  | .processResponse msg (.broadcast rest value), .ret sent =>
      .processResponse msg (.broadcast rest (value && sent))
  | .processResponse msg .taking, .connection c => .processResponse msg (.send c)
  | .processResponse msg (.returning _), .ret value => .processResponse msg (.returning value)
  | f, _ => f

def program (κ : Type) [DecidableEq κ] :
    Program (Memory κ) (Mutex κ) (Frame κ) (Value κ) (Choice κ) :=
  ⟨stmt, resume⟩

def within : Frame κ → Option (Mutex κ)
  | .block b .first | .block b (.erase _) | .block b (.unlock _) => some b.mutex
  | _ => none

def left : Frame κ → Nat
  | .block _ .first => 3
  | .block _ (.erase _) => 2
  | .block _ (.unlock _) => 1
  | _ => 0

theorem first_flat (mem : Memory κ) (ok : Bool) (b : Block κ) :
    within (.block b (b.first mem ok).2) = some b.mutex ∧
      left (.block b (b.first mem ok).2) < 3 := by
  cases b <;> simp [Block.first, within, left, Block.mutex]

theorem blockStmt_flat (mem : Memory κ) (ok : Bool) (b : Block κ) (stage : BlockStage κ) :
    Flat within left (.block b stage) (blockStmt mem ok b stage) := by
  cases stage with
  | lock => exact ⟨rfl, rfl⟩
  | first =>
      obtain ⟨hwithin, hleft⟩ := first_flat mem ok b
      exact ⟨hwithin, fun _ => hleft⟩
  | erase connection => exact ⟨rfl, fun _ => Nat.lt_succ_self 1⟩
  | unlock value => exact ⟨rfl, rfl⟩
  | returning value => rfl

/-- Outside of the blocks a statement computes, calls or returns, and the map
stays. -/
def Plain (mem : Memory κ) (f : Frame κ) : Statement κ → Prop
  | .compute mem' next =>
      within f = none ∧ within next = none ∧ mem'.pendingRequests = mem.pendingRequests
  | .call callee next => within f = none ∧ within callee = none ∧ within next = none
  | .ret _ => within f = none
  | _ => False

section Plain

variable {mem : Memory κ} {f : Frame κ} {c : Statement κ}

omit [DecidableEq κ] in
theorem flat_of_plain (h : Plain mem f c) : Flat within left f c := by
  cases c with
  | compute mem next => exact ⟨h.2.1.trans h.1.symm, fun hne => absurd h.1 hne⟩
  | lock m taken next => exact h.elim
  | unlock m next => exact h.elim
  | call callee next => exact h
  | ret value => exact h

omit [DecidableEq κ] in
theorem plain_enter {next : Frame κ} (b : Block κ) (hf : within f = none)
    (hnext : within next = none) : Plain mem f (enter b next) :=
  ⟨hf, rfl, hnext⟩

theorem acceptLoopStmt_plain {stage : AcceptStage κ} (h : acceptLoopStmt mem stage = some c) :
    Plain mem (.acceptLoop stage) c := by
  cases stage with
  | waiting => cases h
  | list c' => cases h; exact plain_enter _ rfl rfl
  | observe c' => cases h; exact plain_enter _ rfl rfl
  | notify c' i =>
      simp only [acceptLoopStmt] at h
      split at h
      · cases h; exact plain_enter _ rfl rfl
      · cases h; exact ⟨rfl, rfl, rfl⟩
  | ignite c' => cases h; exact ⟨rfl, rfl, rfl⟩

omit [DecidableEq κ] in
theorem pumpLoopStmt_plain {c' : κ} {stage : PumpStage} (h : pumpLoopStmt mem c' stage = some c) :
    Plain mem (.pumpLoop c' stage) c := by
  cases stage with
  | recv => cases h
  | received msg i stop =>
      simp only [pumpLoopStmt] at h
      split at h
      · cases h; exact ⟨rfl, rfl, rfl⟩
      · split at h <;> cases h <;> exact ⟨rfl, rfl, rfl⟩
  | disconnected i stop =>
      simp only [pumpLoopStmt] at h
      split at h
      · cases h; exact ⟨rfl, rfl, rfl⟩
      · obtain ⟨observer, -, rfl⟩ := Option.map_eq_some_iff.mp h
        exact ⟨rfl, rfl, rfl⟩
  | deleting => cases h

omit [DecidableEq κ] in
theorem onClientDisconnectedStmt_plain (observer : Observer) (c : κ) (stage : DisconnectedStage) :
    Plain mem (.onClientDisconnected observer c stage)
      (onClientDisconnectedStmt mem observer c stage) := by
  cases stage with
  | unregister => exact plain_enter _ rfl rfl
  | unlist =>
      cases observer with
      | connector => exact plain_enter _ rfl rfl
      | tracker => exact ⟨rfl, rfl, rfl⟩
  | returning => rfl

omit [DecidableEq κ] in
theorem trackAndDispatchRequestStmt_plain {c' : κ} {msg : UrilProtocolMsg} {stage : RequestStage}
    (h : trackAndDispatchRequestStmt c' msg stage = some c) :
    Plain mem (.trackAndDispatchRequest c' msg stage) c := by
  cases stage with
  | track => cases h; exact plain_enter _ rfl rfl
  | dispatch =>
      simp only [trackAndDispatchRequestStmt] at h
      split at h
      · cases h; exact ⟨rfl, rfl, rfl⟩
      · cases h
  | dispatching => cases h
  | returning value => cases h; rfl

omit [DecidableEq κ] in
theorem processRequestStmt_plain (value : Bool) (effects : List Effect) :
    Plain mem (.processRequest effects value) (processRequestStmt mem value effects) := by
  match effects with
  | [] => rfl
  | .submit _ _ :: _ => exact ⟨rfl, rfl, rfl⟩
  | .radioThread _ _ :: _ => exact ⟨rfl, rfl, rfl⟩

omit [DecidableEq κ] in
theorem processResponseStmt_plain {msg : UrilProtocolMsg} {stage : ResponseStage κ}
    (h : processResponseStmt mem msg stage = some c) : Plain mem (.processResponse msg stage) c := by
  cases stage with
  | begin =>
      simp only [processResponseStmt] at h
      split at h <;> cases h
      · exact ⟨rfl, rfl, rfl⟩
      · exact plain_enter _ rfl rfl
  | broadcast rest value =>
      cases rest with
      | nil => cases h; exact ⟨rfl, rfl, rfl⟩
      | cons c' rest => cases h; exact plain_enter _ rfl rfl
  | taking => cases h
  | send connection =>
      cases connection with
      | none => cases h; exact ⟨rfl, rfl, rfl⟩
      | some c' => cases h; exact plain_enter _ rfl rfl
  | returning value => cases h; rfl

omit [DecidableEq κ] in
theorem within_entry (entry : Entry) : within (entry.frame : Frame κ) = none := by
  cases entry <;> rfl

theorem serviceStmt_cases {ok : Bool} (h : serviceStmt mem ok f = some c) :
    Plain mem f c ∨ ∃ b stage, f = .block b stage ∧ c = blockStmt mem ok b stage := by
  cases f with
  | outside => cases h
  | block b stage => exact .inr ⟨b, stage, rfl, (Option.some.inj h).symm⟩
  | newTracker registered =>
      refine .inl ?_
      cases registered <;> cases h
      · exact plain_enter _ rfl rfl
      · rfl
  | acceptLoop stage => exact .inl (acceptLoopStmt_plain h)
  | pumpLoop c' stage => exact .inl (pumpLoopStmt_plain h)
  | onClientDisconnected observer c' stage =>
      obtain rfl := Option.some.inj h
      exact .inl (onClientDisconnectedStmt_plain observer c' stage)
  | trackAndDispatchRequest c' msg stage => exact .inl (trackAndDispatchRequestStmt_plain h)
  | processRequest effects value =>
      obtain rfl := Option.some.inj h
      exact .inl (processRequestStmt_plain value effects)
  | onRequestComplete rsp =>
      refine .inl ?_
      cases rsp <;> cases h
      · rfl
      · exact ⟨rfl, rfl, rfl⟩
  | onUnsolicitedResponse event =>
      refine .inl ?_
      cases event <;> cases h
      · rfl
      · exact ⟨rfl, rfl, rfl⟩
  | requestTimedCallback =>
      cases h
      exact .inl rfl
  | processResponse msg stage => exact .inl (processResponseStmt_plain h)
  | radioThread uniqueId simId stage =>
      refine .inl ?_
      cases stage <;> cases h
      · exact ⟨rfl, rfl, rfl⟩
      · rfl
  | followUp submitted =>
      refine .inl ?_
      cases submitted <;> cases h
      · exact ⟨rfl, rfl, rfl⟩
      · rfl

theorem stmt_cases {choice : Choice κ} (h : stmt mem f choice = some c) :
    Plain mem f c ∨ ∃ b stage ok, f = .block b stage ∧ c = blockStmt mem ok b stage := by
  cases choice with
  | statement ok =>
      obtain hplain | ⟨b, stage, hf, hc⟩ := serviceStmt_cases h
      · exact .inl hplain
      · exact .inr ⟨b, stage, ok, hf, hc⟩
  | enter entry =>
      simp only [stmt] at h
      split at h <;> cases h
      exact .inl ⟨rfl, within_entry entry, rfl⟩
  | leave =>
      simp only [stmt] at h
      split at h <;> cases h
      exact .inl rfl
  | message msg | closed =>
      simp only [stmt] at h
      split at h
      · split at h <;> cases h
        exact .inl ⟨rfl, rfl, rfl⟩
      · cases h
  | client c' =>
      simp only [stmt] at h
      split at h <;> cases h
      exact .inl ⟨rfl, rfl, rfl⟩
  | failed =>
      simp only [stmt] at h
      split at h <;> cases h <;> exact .inl rfl
  | radioState state =>
      simp only [stmt] at h
      split at h
      · split at h <;> cases h
        exact .inl ⟨rfl, rfl, rfl⟩
      · cases h

end Plain

omit [DecidableEq κ] in
theorem within_resume (f : Frame κ) (value : Value κ) :
    within (resume f value) = within f := by
  unfold resume
  split <;> rfl

theorem goesOn {f : Frame κ} {m : Mutex κ} (mem : Memory κ) (h : within f = some m) :
    ∃ choice c, stmt mem f choice = some c := by
  cases f with
  | block b stage => exact ⟨.statement true, _, rfl⟩
  | _ => cases h

def flatProgram (κ : Type) [DecidableEq κ] : FlatProgram (program κ) where
  within := within
  left := left
  flat := by
    intro mem f choice c h
    obtain hplain | ⟨b, stage, ok, rfl, rfl⟩ := stmt_cases h
    · exact flat_of_plain hplain
    · exact blockStmt_flat mem ok b stage
  goesOn := goesOn
  resume := within_resume

inductive Role (κ : Type)
  | main
  | vendor
  | accept
  | pump (c : κ)
  | radio (uniqueId : UInt32) (simId : UInt8)
  | followUp

def Role.frame : Role κ → Frame κ
  | .main => .newTracker false
  | .vendor => .outside
  | .accept => .acceptLoop .waiting
  | .pump c => .pumpLoop c .recv
  | .radio uniqueId simId => .radioThread uniqueId simId .ask
  | .followUp => .followUp false

def Memory.initial : Memory κ :=
  { pendingRequests := .empty, connections := [], connectorObservers := []
    observers := fun _ => ⟨[], 0⟩, ignited := fun _ => false, sent := [] }

variable {θ : Type}

def initial (roles : θ → Role κ) : State (Memory κ) (Mutex κ) (Frame κ) θ where
  memory := .initial
  owner := fun _ => none
  stack t := [(roles t).frame]

theorem invariant_initial (roles : θ → Role κ) : (flatProgram κ).Invariant (initial roles) := by
  intro m
  refine ⟨trivial, fun _ _ _ => trivial, fun t => ?_, fun t f hf => by cases hf⟩
  have hnone : within (roles t).frame = none := by cases roles t <;> rfl
  refine iff_of_false (fun h => by cases h) ?_
  rw [show (initial roles).stack t = [(roles t).frame] from rfl, criticalStack_cons]
  exact fun hwithin => by cases hnone.symm.trans hwithin

/-- Between its two statements the entry is there as it was read. -/
def FoundStays (s : State (Memory κ) (Mutex κ) (Frame κ) θ) : Prop :=
  ∀ t uniqueId connection callers,
    s.stack t = .block (.take uniqueId) (.erase connection) :: callers →
      s.memory.pendingRequests uniqueId = some connection

omit [DecidableEq κ] in
theorem index_found (m : PendingRequests κ) (uniqueId : UInt32) :
    (m.index uniqueId).2 uniqueId = some (m.index uniqueId).1 := by
  unfold PendingRequests.index
  split
  · assumption
  · exact Function.update_self ..

section Found

variable {mem mem' : Memory κ} {f next : Frame κ} {choice : Choice κ}

theorem pending_of_compute (h : stmt mem f choice = some (.compute mem' next)) :
    mem'.pendingRequests = mem.pendingRequests ∨ within f = some .requests := by
  obtain hplain | ⟨b, stage, ok, rfl, hc⟩ := stmt_cases h
  · exact .inl hplain.2.2
  · cases stage with
    | first =>
        obtain ⟨rfl, -⟩ := Stmt.compute.inj hc
        cases b with
        | assign uniqueId c => exact .inr rfl
        | take uniqueId => exact .inr rfl
        | _ => exact .inl rfl
    | erase connection =>
        obtain ⟨rfl, -⟩ := Stmt.compute.inj hc
        cases b with
        | take uniqueId => exact .inr rfl
        | _ => exact .inl rfl
    | _ => cases hc

theorem found_of_stmt {c : Statement κ} {uniqueId : UInt32} {connection : Option κ}
    (h : stmt mem f choice = some c) :
    (∀ mem', c = .compute mem' (.block (.take uniqueId) (.erase connection)) →
      mem'.pendingRequests uniqueId = some connection) ∧
    (∀ m taken, c ≠ .lock m taken (.block (.take uniqueId) (.erase connection))) ∧
    ∀ m, c ≠ .unlock m (.block (.take uniqueId) (.erase connection)) := by
  obtain hplain | ⟨b, stage, ok, rfl, rfl⟩ := stmt_cases h
  · refine ⟨?_, ?_, ?_⟩
    · rintro mem' rfl
      cases hplain.2.1
    · rintro m taken rfl
      exact hplain
    · rintro m rfl
      exact hplain
  · refine ⟨?_, ?_, ?_⟩
    · intro mem' hc
      cases stage with
      | first =>
          obtain ⟨hmem, hnext⟩ := Stmt.compute.inj hc
          obtain ⟨rfl, hstage⟩ := Frame.block.inj hnext
          have hread := index_found mem.pendingRequests uniqueId
          rw [← hmem]
          rw [BlockStage.erase.inj hstage] at hread
          exact hread
      | erase connection' => cases (Stmt.compute.inj hc).2
      | _ => cases hc
    · intro m taken hc
      cases stage <;> cases hc
    · intro m hc
      cases stage <;> cases hc

end Found

section Runs

variable [DecidableEq θ] {s s' : State (Memory κ) (Mutex κ) (Frame κ) θ}

omit [DecidableEq κ] in
theorem found_replace (hfound : FoundStays s) {t : θ} {frames : List (Frame κ)}
    (hmemory : s'.memory = s.memory) (hstack : s'.stack = Function.update s.stack t frames)
    (hnot : ∀ uniqueId connection callers,
      frames ≠ .block (.take uniqueId) (.erase connection) :: callers) : FoundStays s' := by
  intro u uniqueId connection callers hframes
  rw [hstack] at hframes
  obtain rfl | hu := eq_or_ne u t
  · rw [Function.update_self] at hframes
    exact absurd hframes (hnot uniqueId connection callers)
  · rw [Function.update_of_ne hu] at hframes
    rw [hmemory]
    exact hfound u uniqueId connection callers hframes

theorem found_compute (h : (flatProgram κ).Invariant s) (hfound : FoundStays s) {t : θ}
    {choice : Choice κ} {f next : Frame κ} {callers : List (Frame κ)} {mem : Memory κ}
    (hstack : s.stack t = f :: callers)
    (hstmt : stmt s.memory f choice = some (.compute mem next)) :
    FoundStays { s with
      memory := mem, stack := Function.update s.stack t (next :: callers) } := by
  intro u uniqueId connection frames hframes
  obtain rfl | hu := eq_or_ne u t
  · simp only [Function.update_self, List.cons.injEq] at hframes
    obtain ⟨rfl, -⟩ := hframes
    exact (found_of_stmt hstmt).1 mem rfl
  · simp only [Function.update_of_ne hu] at hframes
    have hold := hfound u uniqueId connection frames hframes
    rcases pending_of_compute hstmt with hsame | hwithin
    · simpa only [hsame] using hold
    · -- both threads would hold the mutex
      have howner := (h.holder hstack .requests).mpr hwithin
      have howner' : s.owner .requests = some u := (h.holder hframes .requests).mpr rfl
      exact absurd (Option.some.inj (howner'.symm.trans howner)) hu

theorem found_step (h : (flatProgram κ).Invariant s) (hfound : FoundStays s) {a : θ × Choice κ}
    (hstep : (program κ).step s a = some s') : FoundStays s' := by
  unfold Program.step at hstep
  split at hstep
  · cases hstep
  rename_i f callers hstack
  obtain ⟨c, hstmt, hperform⟩ := Option.bind_eq_some_iff.mp hstep
  obtain ⟨t, choice⟩ := a
  cases c with
  | compute mem next =>
      cases hperform
      exact found_compute h hfound hstack hstmt
  | lock m taken next =>
      have hnot : ∀ uniqueId connection frames,
          next :: callers ≠ .block (.take uniqueId) (.erase connection) :: frames := by
        rintro uniqueId connection frames heq
        obtain ⟨rfl, -⟩ := List.cons.inj heq
        exact (found_of_stmt hstmt).2.1 m taken rfl
      cases taken with
      | false =>
          cases hperform
          exact found_replace hfound rfl rfl hnot
      | true =>
          obtain ⟨-, hs⟩ := Option.ite_none_right_eq_some.mp hperform
          cases hs
          exact found_replace hfound rfl rfl hnot
  | unlock m next =>
      cases hperform
      refine found_replace hfound rfl rfl ?_
      rintro uniqueId connection frames heq
      obtain ⟨rfl, -⟩ := List.cons.inj heq
      exact (found_of_stmt hstmt).2.2 m rfl
  | call callee next =>
      cases hperform
      have hflat := (flatProgram κ).flat hstmt
      refine found_replace hfound rfl rfl ?_
      rintro uniqueId connection frames heq
      obtain ⟨rfl, -⟩ := List.cons.inj heq
      cases hflat.2.1
  | ret value =>
      cases callers with
      | nil => cases hperform
      | cons caller callers =>
          cases hperform
          have hout := (h .requests).callers t caller (by rw [hstack]; exact List.mem_cons_self)
          refine found_replace hfound rfl rfl ?_
          rintro uniqueId connection frames heq
          obtain ⟨hcaller, -⟩ := List.cons.inj heq
          refine hout ?_
          show within caller = some .requests
          rw [← within_resume caller value]
          exact congrArg within hcaller

/-- What holds in every state of the service. -/
structure MutexDiscipline (s : State (Memory κ) (Mutex κ) (Frame κ) θ) : Prop where
  lock : ∀ {t f m taken next}, (program κ).Next s t f (.lock m taken next) →
    ∀ m', s.owner m' ≠ some t
  call : ∀ {t f callee next}, (program κ).Next s t f (.call callee next) →
    ∀ m, s.owner m ≠ some t
  ret : ∀ {t f value}, (program κ).Next s t f (.ret value) → ∀ m, s.owner m ≠ some t
  /-- who waits for a mutex waits for another thread, which needs nobody to give it up -/
  wait : ∀ {t f m next u}, (program κ).Next s t f (.lock m true next) → s.owner m = some u →
    u ≠ t ∧ ∃ s', Reaches (program κ).step (fun _ a => a.1 = u) s s' ∧ s'.owner m = none
  found : FoundStays s

/-- Whatever the threads do and however the vendor calls back. -/
theorem mutex_discipline {roles : θ → Role κ}
    (hrun : Reaches (program κ).step anyAction (initial roles) s) : MutexDiscipline s := by
  have hboth : (flatProgram κ).Invariant s ∧ FoundStays s := by
    refine hrun.invariant (fun s => (flatProgram κ).Invariant s ∧ FoundStays s)
      ⟨invariant_initial roles, ?_⟩ ?_
    · intro t uniqueId connection callers hframes
      cases hrole : roles t <;> simp [initial, hrole, Role.frame] at hframes
    · rintro t a u ⟨hinv, hfound⟩ - hstep
      exact ⟨hinv.step hstep, found_step hinv hfound hstep⟩
  obtain ⟨hinv, hfound⟩ := hboth
  exact
    { lock := fun hnext => hinv.none_at_lock hnext
      call := fun hnext => hinv.none_at_call hnext
      ret := fun hnext => hinv.none_at_ret hnext
      wait := fun hnext hheld => hinv.no_deadlock hnext hheld
      found := hfound }

end Runs

/-- One thread of the vendor is between the two statements of `processResponse`, and
another one is about to enter. -/
def contendingActions : List (Bool × Choice Bool) :=
  [(false, .enter (.onRequestComplete (some UrilProtocolMsg.zeroed))), (false, .statement true),
    (false, .statement true), (false, .statement true), (false, .statement true),
    (true, .enter (.onRequestComplete (some UrilProtocolMsg.zeroed))), (true, .statement true),
    (true, .statement true)]

theorem mutex_discipline_contended : ∃ s,
    Reaches (program Bool).step anyAction (initial fun _ : Bool => .vendor) s ∧
      MutexDiscipline s ∧ s.owner .requests = some false ∧
        ∃ f next, (program Bool).Next s true f (.lock .requests true next) := by
  obtain ⟨s, hexec, howner, f, next, hnext⟩ : ∃ s,
      exec (program Bool).step (fun _ _ => true) (initial fun _ : Bool => .vendor)
          contendingActions = some s ∧
        s.owner .requests = some false ∧
          ∃ f next, (program Bool).Next s true f (.lock .requests true next) :=
    ⟨_, rfl, rfl, _, _, _, .statement true, rfl, rfl⟩
  have hrun := reaches_of_exec _ (fun _ _ _ => trivial) _ hexec
  exact ⟨s, hrun, mutex_discipline hrun, howner, f, next, hnext⟩

end UnifiedRil.ServiceMutexes

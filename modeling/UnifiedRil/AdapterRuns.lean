import UnifiedRil.Library.Runs
import UnifiedRil.RequestProcessors
import UnifiedRil.RilHazards

/-!
The request processors and the adapter between the tracker and the vendor, as a
transition system: requests come in, the vendor answers what was submitted to
it, in any order, and the detached threads of the registration handlers submit
their requests. An answer is one step, from `RIL_onRequestComplete` to the end
of `handleRilResponse`. Contexts are numbered in the order of their creation.

The responses are objects in memory. An answer whose handler writes behind its
response changes the response that happens to lie there; other memory is not
modelled.
-/

namespace UnifiedRil.AdapterRuns

open UnifiedRil.Library.Layout
open UnifiedRil.Protocol
open UnifiedRil.Messages
open UnifiedRil.Ril
open UnifiedRil.RilHandlers
open UnifiedRil.RilAdapter
open UnifiedRil.RequestProcessors
open UnifiedRil.RilHazards

/-- An answer of the vendor to one of its requests. -/
structure Answer where
  error : RilErrno
  data : RilData

/-- A context that exists. -/
structure Entry where
  ctx : RilRequestContext
  address : Nat
  request : UrilProtocolMsg
  answers : List Answer

/-- What happened. -/
inductive Event
  /-- `processRequest` returned true, after it submitted these requests -/
  | accepted (request : UrilProtocolMsg) (submissions : List (Nat × VendorRequest))
  | refused (request : UrilProtocolMsg)
  /-- a pointer to a context was used, and the context existed or not -/
  | used (token : Nat) (alive : Bool)
  | emitted (token : Nat) (request : UrilProtocolMsg) (answers : List Answer)
      (rsp : UrilProtocolMsg)
  | released (token : Nat)

structure State where
  next : Nat
  contexts : Nat → Option Entry
  outstanding : List (Nat × RilReqId)
  /-- the detached threads that did not submit their request yet -/
  followUps : List (Nat × RilReqId)
  log : List Event

def State.initial : State :=
  { next := 0, contexts := fun _ => none, outstanding := [], followUps := [], log := [] }

/-- `makeTokenForMessage` and `sendToVendorRil` -/
def State.submit (s : State) (request : UrilProtocolMsg) (ctx : RilRequestContext)
    (v : VendorRequest) : State :=
  { s with
    next := s.next + 1
    contexts := Function.update s.contexts s.next (some ⟨ctx, 0, request, []⟩)
    outstanding := s.outstanding ++ [(s.next, v.request)] }

/-- The effects of a request method, and the requests that it submitted. -/
def State.perform (s : State) (request : UrilProtocolMsg) :
    List Effect → State × List (Nat × VendorRequest)
  | [] => (s, [])
  | .submit ctx v :: effects =>
      let (t, submissions) := (s.submit request ctx v).perform request effects
      (t, (s.next, v) :: submissions)
  | .radioThread _ _ :: effects => s.perform request effects

/-- A message that was processed. -/
def State.dispatch (s : State) (request : UrilProtocolMsg) (p : Processed) : State :=
  let (t, submissions) := s.perform request p.effects
  { t with
    log := (if p.ret then .accepted request submissions else .refused request) :: t.log }

/-- No response object overlaps a new one at the address. -/
def State.isFree (s : State) (address : Nat) : Bool :=
  (List.range s.next).all fun t =>
    match s.contexts t with
    | some entry =>
        entry.ctx.rsp.isNone || decide (address + sizeofMsg ≤ entry.address) ||
          decide (entry.address + sizeofMsg ≤ address)
    | none => true

/-- The byte that a handler stored at an address, its response being at
`base`. -/
def storedByte (h : Handled) (base : Nat) (address : Nat) : Option UInt8 :=
  let off := address - (base + payloadOffset)
  if base + payloadOffset ≤ address ∧ ∃ x ∈ h.extents, off ∈ x then h.structBytes[off]? else none

/-- A response at an address, after bytes were stored in memory. -/
def overwritten (stored : Nat → Option UInt8) (address : Nat) (msg : UrilProtocolMsg) :
    UrilProtocolMsg :=
  .ofImage ((msg.image fun _ => 0).zipIdx.map fun (b, i) => (stored (address + i)).getD b)

/-- Another context, after bytes were stored in memory. -/
def Entry.hit (stored : Nat → Option UInt8) (entry : Entry) : Entry :=
  { entry with
    ctx := { entry.ctx with rsp := entry.ctx.rsp.map (overwritten stored entry.address) } }

/-- The effects of an answer that its handler dealt with, and the message that
was handed to `processResponse`. -/
def State.settle (s : State) (token : Nat) (entry : Entry) (address : Nat) (answer : Answer)
    (ctx : RilRequestContext) (handled : Option Handled) : State × Option UrilProtocolMsg :=
  let answers := entry.answers ++ [answer]
  let stored a := handled.bind fun h => storedByte h address a
  let others t := (s.contexts t).map (Entry.hit stored)
  let followUps :=
    s.followUps ++ ((handled.bind fun h => h.followUp).map fun id => (token, id)).toList
  match completedResponse ctx handled with
  | some rsp =>
      ({ s with
          contexts := Function.update others token none
          followUps := followUps
          log := .released token :: .emitted token entry.request answers rsp ::
            .used token true :: s.log },
        some rsp)
  | none =>
      ({ s with
          contexts := Function.update others token (some ⟨ctx, address, entry.request, answers⟩)
          followUps := followUps
          log := .used token true :: s.log },
        none)

/-- `handleRilResponse` for the answer to a submission, with the value of the
uninitialised variable and the address that `new` returns where it is called. A
run ends before a failing assertion, and before a read outside the answer. -/
def State.answer (s : State) (submission : Nat × RilReqId) (answer : Answer)
    (uninitialised : UInt32) (address : Nat) : Option (State × Option UrilProtocolMsg) :=
  if submission ∈ s.outstanding then
    let s := { s with outstanding := s.outstanding.erase submission }
    match s.contexts submission.1 with
    | none => some ({ s with log := .used submission.1 false :: s.log }, none)
    | some entry =>
        let address := if entry.ctx.rsp.isNone then address else entry.address
        if entry.ctx.rsp.isSome ∨ s.isFree address then
          match runHandler entry.ctx answer.error answer.data uninitialised with
          | .ok (ctx, handled) =>
              some (s.settle submission.1 entry address answer ctx handled)
          | .error _ => none
        else none
  else none

/-- The detached thread of a registration handler. -/
def State.submitFollowUp (s : State) (thread : Nat × RilReqId) : Option State :=
  if thread ∈ s.followUps then
    some { s with
      followUps := s.followUps.erase thread
      outstanding := s.outstanding ++ [thread]
      log := .used thread.1 (s.contexts thread.1).isSome :: s.log }
  else none

inductive Action
  | request (msg : UrilProtocolMsg)
  | answer (submission : Nat × RilReqId) (answer : Answer) (uninitialised : UInt32)
      (address : Nat)
  | followUp (thread : Nat × RilReqId)

def step (s : State) : Action → Option State
  | .request msg =>
      if msg.msgId = MsgId.radioGetRadioMode then none
      else
        match processRequest msg with
        | .ok p => some (s.dispatch msg p)
        | .error _ => none
  | .answer submission answer uninitialised address =>
      (s.answer submission answer uninitialised address).map (·.1)
  | .followUp thread => s.submitFollowUp thread

/-- The answer keeps its handler inside of its response, and to values that it
computed. -/
def isSound (rilReqId : RilReqId) (answer : Answer) : Bool :=
  !overruns rilReqId answer.error answer.data &&
    !usesUninitialised rilReqId answer.error answer.data

/-- The answers of a run are sound for the contexts that they come to. -/
def SoundAnswer (s : State) : Action → Prop
  | .answer submission answer _ _ =>
      ∀ entry, s.contexts submission.1 = some entry → isSound entry.ctx.rilReqId answer = true
  | _ => True

/-- How often `processResponse` was called for a context. -/
def emissions (token : Nat) (log : List Event) : Nat :=
  log.countP fun
    | .emitted t _ _ _ => t == token
    | _ => false

/-- How often a context was deleted. -/
def releases (token : Nat) (log : List Event) : Nat :=
  log.countP fun
    | .released t => t == token
    | _ => false

/-- The contexts that were made, newest first. -/
def made (log : List Event) : List Nat :=
  log.flatMap fun
    | .accepted _ submissions => (submissions.map (·.1)).reverse
    | _ => []

/-- The submissions to be answered and the threads that will submit, for a
context. -/
def State.obligations (s : State) (token : Nat) : Nat :=
  (s.outstanding ++ s.followUps).countP fun p => p.1 == token

/-- The context that a request is given. -/
def initialContext (request : UrilProtocolMsg) : Option RilRequestContext :=
  match processRequest request with
  | .ok ⟨[.submit ctx _], true⟩ => some ctx
  | _ => none

/-- The next answer of a context without neighbours, and the value of the
uninitialised variable. -/
def aloneStep (r : Option (RilRequestContext × Option UrilProtocolMsg))
    (answer : Answer × UInt32) : Option (RilRequestContext × Option UrilProtocolMsg) :=
  match r with
  | some (ctx, none) =>
      match runHandler ctx answer.1.error answer.1.data answer.2 with
      | .ok (ctx, handled) => some (ctx, completedResponse ctx handled)
      | .error _ => none
  | _ => none

/-- A request that is alone in the service, after these answers: its context and
the response that was emitted for it. -/
def serveAlone (request : UrilProtocolMsg) (answers : List (Answer × UInt32)) :
    Option (RilRequestContext × Option UrilProtocolMsg) :=
  answers.foldl aloneStep ((initialContext request).map fun ctx => (ctx, none))

theorem serveAlone_append (request : UrilProtocolMsg) (answers : List (Answer × UInt32))
    (answer : Answer × UInt32) :
    serveAlone request (answers ++ [answer]) = aloneStep (serveAlone request answers) answer := by
  simp [serveAlone, List.foldl_append]

end UnifiedRil.AdapterRuns

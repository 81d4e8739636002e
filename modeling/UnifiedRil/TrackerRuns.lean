import Mathlib.Data.List.Basic
import UnifiedRil.Library.Runs
import UnifiedRil.MessageTracker

/-!
The service between its sockets and its request processor, as a transition
system: the accept loop, one pump thread per connection, and any number of
threads inside `MessageTracker::processResponse`. What the processors answer,
and when, is left open; an answer may come while the request that it answers
is still being dispatched.

A call of `processResponse` is one action up to the end of its critical
section or of `getConnections`, and one further action for each send.
-/

namespace UnifiedRil.TrackerRuns

open UnifiedRil.Library.Runs
open UnifiedRil.Protocol
open UnifiedRil.MessageTracker

variable {κ : Type} [DecidableEq κ]

/-- The life of a connection object, as its pump loop drives it. -/
inductive Pump
  | running
  | notified
  /-- left the loop on a receive error, without notifying anybody -/
  | failed
  | deleted
  deriving DecidableEq

/-- A response whose connection was taken from the map and that is not yet
sent. -/
structure Delivery (κ : Type) where
  serial : Nat
  uniqueId : UInt32
  connection : κ
  deriving DecidableEq

/-- What happened. Calls of `processResponse` are numbered; `alive` says
whether the connection object existed when it was used. -/
inductive Event (κ : Type)
  | received (connection : κ) (uniqueId : UInt32)
  | answered (serial : Nat) (uniqueId : UInt32) (connection : Option κ)
  | sent (serial : Nat) (uniqueId : UInt32) (connection : κ) (alive : Bool)
  | listed (serial : Nat) (connections : List κ)
  | indicated (serial : Nat) (connection : κ) (alive : Bool)
  deriving DecidableEq

structure State (κ : Type) where
  pendingRequests : PendingRequests κ
  connections : List κ
  pump : κ → Option Pump
  deliveries : List (Delivery κ)
  /-- for each broadcast, the connections it has still to visit -/
  broadcasts : Nat → List κ
  nextSerial : Nat
  log : List (Event κ)

def State.initial : State κ :=
  { pendingRequests := .empty, connections := [], pump := fun _ => none
    deliveries := [], broadcasts := fun _ => [], nextSerial := 0, log := [] }

/-- The connection object exists: it was created and is not deleted. -/
def State.alive (s : State κ) (c : κ) : Bool :=
  s.pump c ≠ none && s.pump c ≠ some .deleted

inductive Action (κ : Type)
  | accept (c : κ)
  | receive (c : κ) (msg : UrilProtocolMsg)
  /-- `processResponse` up to the choice of the receivers -/
  | process (msg : UrilProtocolMsg)
  | send (d : Delivery κ) (ok : Bool)
  | sendIndication (serial : Nat) (ok : Bool)
  | hangUp (c : κ)
  | receiveError (c : κ)
  | deleteThis (c : κ)

def step (s : State κ) : Action κ → Option (State κ)
  | .accept c =>
      if s.pump c = none then
        some { s with
          connections := s.connections ++ [c]
          pump := Function.update s.pump c (some .running) }
      else none
  | .receive c msg =>
      if s.pump c = some .running then
        some { s with
          pendingRequests := (trackAndDispatchRequest s.pendingRequests c msg none).1
          log := .received c msg.uniqueId :: s.log }
      else none
  | .process msg =>
      if msg.isIndication ≠ 0 then
        some { s with
          broadcasts := Function.update s.broadcasts s.nextSerial s.connections
          nextSerial := s.nextSerial + 1
          log := .listed s.nextSerial s.connections :: s.log }
      else
        let (connection, pendingRequests) := takeConnection s.pendingRequests msg.uniqueId
        some { s with
          pendingRequests := pendingRequests
          deliveries := s.deliveries ++
            (connection.map fun c => ⟨s.nextSerial, msg.uniqueId, c⟩).toList
          nextSerial := s.nextSerial + 1
          log := .answered s.nextSerial msg.uniqueId connection :: s.log }
  | .send d _ =>
      if d ∈ s.deliveries then
        some { s with
          deliveries := s.deliveries.erase d
          log := .sent d.serial d.uniqueId d.connection (s.alive d.connection) :: s.log }
      else none
  | .sendIndication n _ =>
      match s.broadcasts n with
      | c :: rest =>
          some { s with
            broadcasts := Function.update s.broadcasts n rest
            log := .indicated n c (s.alive c) :: s.log }
      | [] => none
  | .hangUp c =>
      if s.pump c = some .running then
        -- of the two observers only the connector keeps something about the connection
        some { s with
          connections := s.connections.filter (· ≠ c)
          pump := Function.update s.pump c (some .notified) }
      else none
  | .receiveError c =>
      if s.pump c = some .running then
        some { s with pump := Function.update s.pump c (some .failed) }
      else none
  | .deleteThis c =>
      if s.pump c = some .notified then
        some { s with pump := Function.update s.pump c (some .deleted) }
      else none

/-- The connection that an id was last received from, unless the id was
answered since. -/
def registrant : List (Event κ) → UInt32 → Option κ
  | [], _ => none
  | .received c id :: log, u => if id = u then some c else registrant log u
  | .answered _ id _ :: log, u => if id = u then none else registrant log u
  | _ :: log, u => registrant log u

/-- The connector lists each connection once, and only those that no observer
has been told to forget. -/
structure Listing (s : State κ) : Prop where
  nodup : s.connections.Nodup
  listed : ∀ c ∈ s.connections, s.pump c = some .running ∨ s.pump c = some .failed
  logged : ∀ n cs, .listed n cs ∈ s.log → cs.Nodup

omit [DecidableEq κ] in
theorem alive_of_running {s : State κ} {c : κ} (h : s.pump c = some .running) :
    s.alive c = true := by
  simp [State.alive, h]

omit [DecidableEq κ] in
theorem Listing.alive {s : State κ} (h : Listing s) {c : κ} (hc : c ∈ s.connections) :
    s.alive c = true := by
  rcases h.listed c hc with hc | hc <;> simp [State.alive, hc]

theorem listing_step {s t : State κ} {a : Action κ} (h : Listing s)
    (hstep : step s a = some t) : Listing t := by
  cases a with
  | accept c =>
      simp only [step, Option.ite_none_right_eq_some, Option.some.injEq] at hstep
      obtain ⟨hnew, rfl⟩ := hstep
      have hc : c ∉ s.connections := fun hmem => by simpa [hnew] using h.listed c hmem
      refine ⟨?_, ?_, h.logged⟩
      · simpa [List.nodup_append] using ⟨h.nodup, fun c' hc' => by rintro rfl; exact hc hc'⟩
      · intro c' hc'
        by_cases heq : c' = c
        · simp [heq]
        · simpa [heq] using h.listed c' (by simpa [heq] using hc')
  | hangUp c =>
      simp only [step, Option.ite_none_right_eq_some, Option.some.injEq] at hstep
      obtain ⟨-, rfl⟩ := hstep
      refine ⟨h.nodup.filter _, ?_, h.logged⟩
      intro c' hc'
      simp only [List.mem_filter, decide_eq_true_eq] at hc'
      simpa [hc'.2] using h.listed c' hc'.1
  | receiveError c =>
      simp only [step, Option.ite_none_right_eq_some, Option.some.injEq] at hstep
      obtain ⟨-, rfl⟩ := hstep
      refine ⟨h.nodup, ?_, h.logged⟩
      intro c' hc'
      by_cases heq : c' = c
      · simp [heq]
      · simpa [heq] using h.listed c' hc'
  | deleteThis c =>
      simp only [step, Option.ite_none_right_eq_some, Option.some.injEq] at hstep
      obtain ⟨hnotified, rfl⟩ := hstep
      refine ⟨h.nodup, ?_, h.logged⟩
      intro c' hc'
      have hne : c' ≠ c := by
        rintro rfl
        simpa [hnotified] using h.listed _ hc'
      simpa [hne] using h.listed c' hc'
  | receive c msg =>
      simp only [step, Option.ite_none_right_eq_some, Option.some.injEq] at hstep
      obtain ⟨-, rfl⟩ := hstep
      exact ⟨h.nodup, h.listed, fun n cs hmem => h.logged n cs (by simpa using hmem)⟩
  | process msg =>
      simp only [step] at hstep
      split at hstep
      · simp only [Option.some.injEq] at hstep
        subst hstep
        refine ⟨h.nodup, h.listed, fun n cs hmem => ?_⟩
        rcases List.mem_cons.mp hmem with heq | hmem
        · cases heq
          exact h.nodup
        · exact h.logged n cs hmem
      · simp only [Option.some.injEq] at hstep
        subst hstep
        exact ⟨h.nodup, h.listed, fun n cs hmem => h.logged n cs (by simpa using hmem)⟩
  | send d ok =>
      simp only [step, Option.ite_none_right_eq_some, Option.some.injEq] at hstep
      obtain ⟨-, rfl⟩ := hstep
      exact ⟨h.nodup, h.listed, fun n cs hmem => h.logged n cs (by simpa using hmem)⟩
  | sendIndication n ok =>
      simp only [step] at hstep
      split at hstep
      · simp only [Option.some.injEq] at hstep
        subst hstep
        exact ⟨h.nodup, h.listed, fun n cs hmem => h.logged n cs (by simpa using hmem)⟩
      · cases hstep

omit [DecidableEq κ] in
theorem listing_initial : Listing (State.initial : State κ) :=
  ⟨List.nodup_nil, by simp [State.initial], by simp [State.initial]⟩

theorem listing_reached {allowed : State κ → Action κ → Prop} {s : State κ}
    (hrun : Reaches step allowed (State.initial : State κ) s) : Listing s :=
  hrun.invariant Listing listing_initial fun _ _ _ h _ hstep => listing_step h hstep

end UnifiedRil.TrackerRuns

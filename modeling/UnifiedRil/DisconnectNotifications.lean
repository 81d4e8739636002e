import UnifiedRil.ConnectionLifecycle
import UnifiedRil.Library.RangeFor

namespace UnifiedRil.DisconnectNotifications

open UnifiedRil.Library.RangeFor
open UnifiedRil.Library.Runs
open UnifiedRil.ConnectionLifecycle

variable {ι : Type} [DecidableEq ι]

def registerObserver (mObservers : Storage ι) (observer : ι) : Storage ι :=
  mObservers.pushBack observer

def unregisterObserver (mObservers : Storage ι) (observer : ι) : Storage ι :=
  mObservers.eraseRemove observer

/-- What `onClientDisconnected` of an observer does to the connection. -/
def onClientDisconnected (mObservers : Storage ι) (observer : ι) : Storage ι :=
  unregisterObserver mObservers observer

/-- `for (IClientConnectionObserver* obs : mObservers)` when `recv` returned 0:
what the rounds read, and what is left of the vector. -/
def notifyDisconnected (mObservers : Storage ι) : Option (List (Read ι) × Storage ι) :=
  rangeFor onClientDisconnected mObservers

/-- Every observer is told once, by a loop that reads elements only, and none
is left. -/
def ToldOnce (mObservers : Storage ι) : Prop :=
  ∃ reads left, notifyDisconnected mObservers = some (reads, left) ∧
    (∀ observer ∈ mObservers.elements, (reads.map (·.element)).count observer = 1) ∧
    (∀ r ∈ reads, r.inside = true) ∧ left.elements = []

theorem notifyDisconnected_single (observer : ι) (spare : List ι) :
    notifyDisconnected ⟨[observer], spare⟩ =
      some ([⟨observer, true⟩], ⟨[], observer :: spare⟩) := by
  simp [notifyDisconnected, rangeFor, rounds, onClientDisconnected, unregisterObserver,
    Storage.eraseRemove, Storage.slots]

theorem toldOnce_of_short {mObservers : Storage ι} (hshort : mObservers.elements.length ≤ 1) :
    ToldOnce mObservers := by
  obtain ⟨elements, spare⟩ := mObservers
  cases elements with
  | nil => exact ⟨[], ⟨[], spare⟩, rfl, by simp⟩
  | cons observer rest =>
      obtain rfl : rest = [] := List.eq_nil_of_length_eq_zero (by simpa using hshort)
      exact ⟨_, _, notifyDisconnected_single observer spare, by simp⟩

/-- The observers at even positions are told, and then the last one from behind
the end; those at odd positions but the last stay registered. -/
theorem notifyDisconnected_eq {mObservers : Storage ι} (hdistinct : mObservers.elements.Nodup)
    {last : ι} (hlast : mObservers.elements.getLast? = some last) :
    ∃ left, notifyDisconnected mObservers =
        some ((everyOther mObservers.elements).map (⟨·, true⟩) ++
          List.replicate (skipped mObservers.elements).length ⟨last, false⟩, left) ∧
      left.elements = (skipped mObservers.elements).filter (· ≠ last) :=
  rangeFor_erasing hdistinct hlast

/-- The second of three observers is never told. -/
example : notifyDisconnected ⟨[0, 1, 2], []⟩ =
    some ([⟨0, true⟩, ⟨2, true⟩, ⟨2, false⟩], ⟨[1], [2, 2]⟩) := by decide

theorem reads_outside {mObservers : Storage ι} (hdistinct : mObservers.elements.Nodup)
    (hlong : 1 < mObservers.elements.length) :
    ∃ reads left observer, notifyDisconnected mObservers = some (reads, left) ∧
      ⟨observer, false⟩ ∈ reads := by
  have hne : mObservers.elements ≠ [] := List.ne_nil_of_length_pos (by omega)
  obtain ⟨left, hreads, -⟩ :=
    notifyDisconnected_eq hdistinct (List.getLast?_eq_some_getLast hne)
  refine ⟨_, left, mObservers.elements.getLast hne, hreads, List.mem_append_right _ ?_⟩
  rw [List.mem_replicate]
  refine ⟨?_, rfl⟩
  intro hnone
  have hshort := skipped_eq_nil_iff.mp (List.eq_nil_of_length_eq_zero hnone)
  omega

/-- Every one of distinct observers is told once and no other memory read if
and only if there is at most one. -/
theorem told_once_iff (mObservers : Storage ι) (hdistinct : mObservers.elements.Nodup) :
    ToldOnce mObservers ↔ mObservers.elements.length ≤ 1 := by
  constructor
  · rintro ⟨reads, left, hreads, -, hinside, -⟩
    by_contra hlong
    obtain ⟨reads', left', observer, hreads', hmem⟩ := reads_outside hdistinct (by omega)
    rw [hreads, Option.some.injEq, Prod.mk.injEq] at hreads'
    obtain ⟨rfl, -⟩ := hreads'
    have htrue := hinside _ hmem
    cases htrue
  · exact toldOnce_of_short

/-- One observer, and three. -/
theorem told_once_iff_both :
    ToldOnce (registerObserver ⟨[], []⟩ Observer.tracker) ∧
      ¬ ToldOnce (⟨[0, 1, 2], []⟩ : Storage Nat) := by
  refine ⟨(told_once_iff _ (by decide)).mpr (by decide), ?_⟩
  intro htold
  exact absurd ((told_once_iff _ (by decide)).mp htold) (by decide)

/-- The connector and the tracker observe every connection, and the tracker is
told from behind the end of the vector. -/
theorem second_observer_read_outside :
    ¬ ∀ mObservers : Storage Observer, mObservers.elements.Nodup → ToldOnce mObservers := by
  intro hreached
  obtain ⟨reads, left, hreads, -, hinside, -⟩ := hreached
    (registerObserver (registerObserver ⟨[], []⟩ .connector) .tracker) (by decide)
  have heq : notifyDisconnected
      (registerObserver (registerObserver ⟨[], []⟩ Observer.connector) .tracker) =
        some ([⟨.connector, true⟩, ⟨.tracker, false⟩], ⟨[], [.tracker, .tracker]⟩) := by decide
  rw [hreads, Option.some.injEq, Prod.mk.injEq] at heq
  obtain ⟨rfl, -⟩ := heq
  have htrue := hinside ⟨.tracker, false⟩ (by simp)
  cases htrue

/-- The vector as the connections of the lifecycle have it. -/
def observerVector (mObservers : Storage Observer) : ObserverVector where
  slots := mObservers.slots
  size := mObservers.elements.length

theorem observerVector_unregister (mObservers : Storage Observer) (observer : Observer) :
    observerVector (onClientDisconnected mObservers observer) =
      (observerVector mObservers).unregisterObserver observer := by
  have hregistered : (observerVector mObservers).registered = mObservers.elements := by
    simp [observerVector, ObserverVector.registered, Storage.slots]
  simp only [ObserverVector.unregisterObserver, hregistered]
  rfl

theorem step_notify {κ : Type} [DecidableEq κ] {s : State κ} {c : κ}
    {connection : SocketClientConnection} {i stop : Nat} {mObservers : Storage Observer}
    {observer : Observer} (haborted : s.aborted = false) (hconn : s.conn c = some connection)
    (hpump : connection.pump = .notifying i stop) (hnext : i ≠ stop)
    (hobservers : connection.observers = observerVector mObservers)
    (hread : mObservers.slots[i]? = some observer) :
    ∃ t, step s (.notify c) = some t ∧ t.aborted = false ∧
      t.conn c = some { connection with
        pump := .notifying (i + 1) stop
        observers := observerVector (onClientDisconnected mObservers observer) } := by
  refine ⟨s.onClientDisconnected c { connection with pump := .notifying (i + 1) stop } observer,
    ?_, ?_, ?_⟩
  · have hread' : connection.observers.slots[i]? = some observer := hobservers ▸ hread
    simp [step, haborted, State.perform, hconn, hpump, hnext, hread']
  · cases observer <;> exact haborted
  · rw [observerVector_unregister, ← hobservers]
    cases observer <;> simp [State.onClientDisconnected, State.setConn]

theorem reaches_of_rounds {κ : Type} [DecidableEq κ] {c : κ} {left : Storage Observer}
    {stop : Nat} (remaining : Nat) {i : Nat} {s : State κ} {connection : SocketClientConnection}
    {mObservers : Storage Observer} {reads : List (Read Observer)}
    (hrounds : rounds onClientDisconnected remaining i mObservers = some (reads, left))
    (hstop : i + remaining = stop) (haborted : s.aborted = false)
    (hconn : s.conn c = some connection) (hpump : connection.pump = .notifying i stop)
    (hobservers : connection.observers = observerVector mObservers) :
    ∃ t, Reaches step anyAction s t ∧ t.aborted = false ∧
      t.conn c = some { connection with
        pump := .notifying stop stop, observers := observerVector left } := by
  induction remaining generalizing i s connection mObservers reads with
  | zero =>
      obtain ⟨-, rfl⟩ : [] = reads ∧ mObservers = left := by simpa [rounds] using hrounds
      obtain rfl : i = stop := hstop
      refine ⟨s, .refl, haborted, ?_⟩
      rw [hconn, ← hobservers, ← hpump]
  | succ remaining ih =>
      simp only [rounds] at hrounds
      split at hrounds
      · rename_i observer hread
        obtain ⟨⟨reads', left'⟩, hrest, heq⟩ := Option.map_eq_some_iff.mp hrounds
        obtain ⟨-, rfl⟩ := Prod.mk.inj heq
        obtain ⟨t, hstep, haborted', hconn'⟩ :=
          step_notify haborted hconn hpump (by omega) hobservers hread
        obtain ⟨u, hreaches, hdone⟩ := ih hrest (by omega) haborted' hconn' rfl rfl
        exact ⟨u, .head (.notify c) trivial hstep hreaches, hdone⟩
      · cases hrounds

theorem pump_notifies {κ : Type} [DecidableEq κ] {s : State κ} {c : κ}
    {connection : SocketClientConnection} {mObservers left : Storage Observer}
    {reads : List (Read Observer)}
    (hloop : notifyDisconnected mObservers = some (reads, left)) (haborted : s.aborted = false)
    (hconn : s.conn c = some connection) (hpump : connection.pump = .running)
    (hobservers : connection.observers = observerVector mObservers) :
    ∃ t, Reaches step anyAction s t ∧ t.conn c = some { connection with
      pump := .deleting, observers := observerVector left } := by
  have hsize : connection.observers.size = mObservers.elements.length := by
    rw [hobservers]
    rfl
  have hhangUp : step s (.hangUp c) = some (s.setConn c { connection with
      pump := .notifying 0 mObservers.elements.length }) := by
    simp [step, haborted, State.perform, hconn, hpump, hsize]
  have hconn₀ : (s.setConn c { connection with
      pump := .notifying 0 mObservers.elements.length }).conn c = some { connection with
      pump := .notifying 0 mObservers.elements.length } := by
    simp [State.setConn]
  have haborted₀ : (s.setConn c { connection with
      pump := .notifying 0 mObservers.elements.length }).aborted = false := haborted
  obtain ⟨t, hreaches, haborted', hconn'⟩ := reaches_of_rounds mObservers.elements.length hloop
    (Nat.zero_add _) haborted₀ hconn₀ rfl hobservers
  have hend : step t (.notify c) = some (t.setConn c { connection with
      pump := .deleting, observers := observerVector left }) := by
    simp [step, haborted', State.perform, hconn']
  refine ⟨_, .head (.hangUp c) trivial hhangUp (.tail (.notify c) hreaches trivial hend), ?_⟩
  simp [State.setConn]

end UnifiedRil.DisconnectNotifications

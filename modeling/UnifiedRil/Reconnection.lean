import Mathlib.Data.List.Count
import Mathlib.Data.List.Nodup
import UnifiedRil.Client
import UnifiedRil.Library.Runs

/-!
One process that initializes and releases the library again and again, over the
connector of `unix_socket_service_connector.c`. A release leaves the connection
and its receive thread as they are, and the connector keeps its latest context
only.

Sockets, contexts of the connector and receive threads are numbered by the
attempt to connect that made them. Indications are numbered as the adapter emits
them, and travel whole.
-/

namespace UnifiedRil.Reconnection

open UnifiedRil.Library.Runs
open UnifiedRil.Protocol
open UnifiedRil.Client

variable {φ δ : Type}

def urilConnectAttemptsCount : Nat := 20

/-- Where the thread is that calls the library. -/
inductive Place
  | outside
  /-- in `uril_client_init`, after this many failed attempts -/
  | attempting (failed : Nat)
  /-- the connector stored context `i`, and is to connect the socket -/
  | connecting (failed i : Nat)
  | connected (failed i : Nat)
  | finishing
  deriving DecidableEq

inductive Socket
  | created
  | connected
  | closed
  deriving DecidableEq

/-- `receive_routine` -/
inductive Thread
  /-- it did not read `connector->ctx` yet -/
  | created
  | receiving (i : Nat)
  | ended
  deriving DecidableEq

structure State (φ δ : Type) where
  place : Place
  context : Context φ δ
  uniqueHandle : UInt32
  connectorCtx : Option Nat
  sockets : Nat → Option Socket
  nextSocket : Nat
  threads : Nat → Option Thread
  backlog : List Nat
  connections : List Nat
  /-- the indications that wait in each socket -/
  queue : Nat → List Nat
  /-- for each indication, the connections that `processResponse` has still to visit -/
  broadcasts : Nat → List Nat
  indications : Nat → UrilProtocolMsg
  nextSerial : Nat
  invoked : List (Nat × Upcall φ δ)

def State.initial : State φ δ :=
  { place := .outside, context := .zeroed, uniqueHandle := 0, connectorCtx := none
    sockets := fun _ => none, nextSocket := 0, threads := fun _ => none, backlog := []
    connections := [], queue := fun _ => [], broadcasts := fun _ => []
    indications := fun _ => .zeroed, nextSerial := 0, invoked := [] }

inductive Action (φ : Type)
  | callInit (indCb defaultRespCb : Option φ)
  | attempt (ok : Bool)
  | connect (ok : Bool)
  | createThread (ok : Bool)
  | giveUp
  | finish
  | callRelease
  | beginThread (t : Nat)
  | receive (t : Nat)
  | endThread (t : Nat)
  | accept
  | indicate (msg : UrilProtocolMsg)
  /-- `sendMessageToClient` for the next connection of a broadcast, with its result -/
  | sendIndication (n : Nat) (ok : Bool)
  | drop (i : Nat)

/-- The connector closes the socket and frees its context, and reports failure. -/
def State.failAttempt (s : State φ δ) (failed i : Nat) : State φ δ :=
  { s with
    sockets := Function.update s.sockets i (some .closed)
    place := .attempting (failed + 1) }

def step (s : State φ δ) : Action φ → Option (State φ δ)
  | .callInit indCb defaultRespCb =>
      if s.place = .outside then
        some { s with
          context := { Context.zeroed with indCb := indCb, defaultAsyncCb := defaultRespCb }
          place := .attempting 0 }
      else none
  | .attempt ok =>
      match s.place with
      | .attempting failed =>
          if failed < urilConnectAttemptsCount then
            some (if ok then
              { s with
                sockets := Function.update s.sockets s.nextSocket (some .created)
                connectorCtx := some s.nextSocket
                nextSocket := s.nextSocket + 1
                place := .connecting failed s.nextSocket }
            else { s with place := .attempting (failed + 1) })
          else none
      | _ => none
  | .connect ok =>
      match s.place with
      | .connecting failed i =>
          some (if ok then
            { s with
              sockets := Function.update s.sockets i (some .connected)
              backlog := s.backlog ++ [i]
              place := .connected failed i }
          else s.failAttempt failed i)
      | _ => none
  | .createThread ok =>
      match s.place with
      | .connected failed i =>
          some (if ok then
            { s with
              threads := Function.update s.threads i (some .created)
              place := .finishing }
          else s.failAttempt failed i)
      | _ => none
  | .giveUp =>
      if s.place = .attempting urilConnectAttemptsCount then
        some { s with place := .outside }
      else none
  | .finish =>
      if s.place = .finishing then
        some { s with
          context := { s.context with initialized := true, handle := s.uniqueHandle + 1 }
          uniqueHandle := s.uniqueHandle + 1
          place := .outside }
      else none
  | .callRelease =>
      if s.place = .outside then some { s with context := (clientRelease s.context).1 }
      else none
  | .beginThread t =>
      if s.threads t = some .created then
        s.connectorCtx.map fun i =>
          { s with threads := Function.update s.threads t (some (.receiving i)) }
      else none
  | .receive t =>
      match s.threads t with
      | some (.receiving i) =>
          match s.queue i with
          | n :: rest =>
              if s.sockets i = some .connected then
                some { s with
                  context := (handleReceive s.context (s.indications n)).1
                  queue := Function.update s.queue i rest
                  invoked := ((handleReceive s.context (s.indications n)).2.map
                    fun upcall => (n, upcall)).toList ++ s.invoked }
              else none
          | [] => none
      | _ => none
  | .endThread t =>
      match s.threads t with
      | some (.receiving _) =>
          some { s with threads := Function.update s.threads t (some .ended) }
      | _ => none
  | .accept =>
      match s.backlog with
      | i :: rest => some { s with backlog := rest, connections := s.connections ++ [i] }
      | [] => none
  | .indicate msg =>
      if msg.isIndication ≠ 0 then
        some { s with
          broadcasts := Function.update s.broadcasts s.nextSerial s.connections
          indications := Function.update s.indications s.nextSerial msg
          nextSerial := s.nextSerial + 1 }
      else none
  | .sendIndication n ok =>
      match s.broadcasts n with
      | i :: rest =>
          some { s with
            broadcasts := Function.update s.broadcasts n rest
            queue := if ok then Function.update s.queue i (s.queue i ++ [n]) else s.queue }
      | [] => none
  | .drop i => some { s with connections := s.connections.filter (· ≠ i) }

/-- A receive thread delivers what comes on connection `i`. -/
def Delivers (s : State φ δ) (i : Nat) : Prop :=
  s.sockets i = some .connected ∧ ∃ t, s.threads t = some (.receiving i)

/-- One callback for one indication, and one connection that delivers. -/
structure OneCallback (s : State φ δ) : Prop where
  once : ∀ n, (s.invoked.map Prod.fst).count n ≤ 1
  oneConnection : ∀ i j, Delivers s i → Delivers s j → i = j

/-- The places where indication `n` is on its way through connection `i`. -/
def inFlight (s : State φ δ) (i n : Nat) : Nat :=
  (s.queue i).count n + (s.broadcasts n).count i

/-- No other connection delivers, and nothing that was called back is still on
its way through connection `i`. -/
structure Alone (s : State φ δ) (i : Nat) : Prop where
  delivers : ∀ j, Delivers s j → j = i
  unanswered : ∀ n ∈ s.invoked.map Prod.fst, inFlight s i n = 0

/-- A connection comes to deliver alone only: when a thread reads it from the
connector's context, or when it is connected after a thread read it. -/
def DeliversAlone (s : State φ δ) : Action φ → Prop
  | .beginThread _ => ∀ i, s.connectorCtx = some i → s.sockets i = some .connected → Alone s i
  | .connect true => ∀ failed i t, s.place = .connecting failed i →
      s.threads t = some (.receiving i) → Alone s i
  | _ => True

/-- A thread that reads a connection beside one that delivers makes two of them. -/
theorem not_oneCallback_of_beside {s t : State φ δ} {k i j : Nat}
    (hctx : s.connectorCtx = some i) (hconnected : s.sockets i = some .connected)
    (hdelivers : Delivers s j) (hne : j ≠ i) (hstep : step s (.beginThread k) = some t) :
    ¬ OneCallback t := by
  intro h
  simp only [step, hctx, Option.map_some, Option.ite_none_right_eq_some,
    Option.some.injEq] at hstep
  obtain ⟨hcreated, rfl⟩ := hstep
  obtain ⟨hj, k', hk'⟩ := hdelivers
  have hkk' : k' ≠ k := by
    rintro rfl
    simp [hcreated] at hk'
  exact hne (h.oneConnection j i ⟨hj, k', by simpa [hkk'] using hk'⟩ ⟨hconnected, k, by simp⟩)

/-- Nothing has gone to this socket. -/
structure Untouched (s : State φ δ) (i : Nat) : Prop where
  queue : s.queue i = []
  backlog : i ∉ s.backlog
  connections : i ∉ s.connections
  broadcasts : ∀ n, i ∉ s.broadcasts n

/-- `active` is the connection that came to deliver last. Whatever is to reach a
callback goes through it. -/
structure Orderly (s : State φ δ) (active : Option Nat) : Prop where
  fresh : ∀ i, s.nextSocket ≤ i → s.sockets i = none
  connecting : ∀ failed i, s.place = .connecting failed i → s.sockets i = some .created
  connected : ∀ failed i, s.place = .connected failed i → i < s.nextSocket
  unconnected : ∀ i, s.sockets i = none ∨ s.sockets i = some .created → Untouched s i
  receiving : ∀ t i, s.threads t = some (.receiving i) → s.sockets i = some .connected →
    active = some i
  listedOnce : (s.backlog ++ s.connections).Nodup
  unsent : ∀ n, s.nextSerial ≤ n →
    n ∉ s.invoked.map Prod.fst ∧ (∀ i, n ∉ s.queue i) ∧ s.broadcasts n = []
  each : ∀ i n, inFlight s i n ≤ 1
  once : ∀ n, (s.invoked.map Prod.fst).count n ≤ 1
  unanswered : ∀ i, active = some i → ∀ n ∈ s.invoked.map Prod.fst, inFlight s i n = 0

theorem Orderly.lt_nextSocket {s : State φ δ} {active : Option Nat} (h : Orderly s active)
    {i : Nat} (hi : s.sockets i ≠ none) : i < s.nextSocket := by
  by_contra hge
  exact hi (h.fresh i (by omega))

theorem orderly_initial : Orderly (State.initial : State φ δ) none := by
  constructor <;> simp [State.initial, inFlight]
  intro i
  constructor <;> simp

theorem Orderly.activate {s : State φ δ} {active : Option Nat} (h : Orderly s active) {i : Nat}
    (halone : Alone s i) : Orderly s (some i) := by
  refine { h with receiving := ?_, unanswered := ?_ }
  · intro t j ht hj
    rw [halone.delivers j ⟨hj, t, ht⟩]
  · intro j hj
    obtain rfl := Option.some.inj hj
    exact halone.unanswered

theorem oneCallback_of_orderly {s : State φ δ} {active : Option Nat} (h : Orderly s active) :
    OneCallback s := by
  refine ⟨h.once, ?_⟩
  rintro i j ⟨hi, t, ht⟩ ⟨hj, t', ht'⟩
  exact Option.some.inj ((h.receiving t i ht hi).symm.trans (h.receiving t' j ht' hj))

theorem orderly_attempt {s : State φ δ} {active : Option Nat} (h : Orderly s active)
    (failed : Nat) :
    Orderly { s with
      sockets := Function.update s.sockets s.nextSocket (some .created)
      connectorCtx := some s.nextSocket
      nextSocket := s.nextSocket + 1
      place := .connecting failed s.nextSocket } active := by
  have hnew : s.sockets s.nextSocket = none := h.fresh _ le_rfl
  have hconnected : ∀ i, Function.update s.sockets s.nextSocket (some .created) i =
      some .connected → s.sockets i = some .connected := by
    intro i hi
    obtain rfl | hne := eq_or_ne i s.nextSocket
    · simp at hi
    · simpa [hne] using hi
  refine { h with
    fresh := ?_, connecting := ?_, connected := ?_, unconnected := ?_, receiving := ?_ }
  · intro i hi
    change s.nextSocket + 1 ≤ i at hi
    have hne : i ≠ s.nextSocket := by omega
    simpa [hne] using h.fresh i (by omega)
  · intro failed' i hplace
    obtain ⟨rfl, rfl⟩ : failed = failed' ∧ s.nextSocket = i := by simpa using hplace
    simp
  · exact fun _ _ hi => by cases hi
  · intro i hi
    obtain rfl | hne := eq_or_ne i s.nextSocket
    · exact { h.unconnected s.nextSocket (.inl hnew) with }
    · exact { h.unconnected i (by simpa [hne] using hi) with }
  · intro k i hk hi
    exact h.receiving k i hk (hconnected i hi)

theorem orderly_connect {s : State φ δ} {active : Option Nat} (h : Orderly s active)
    {failed i : Nat} (hplace : s.place = .connecting failed i)
    (hactive : ∀ k, s.threads k = some (.receiving i) → active = some i) :
    Orderly { s with
      sockets := Function.update s.sockets i (some .connected)
      backlog := s.backlog ++ [i]
      place := .connected failed i } active := by
  have hcreated := h.connecting failed i hplace
  have huntouched := h.unconnected i (.inr hcreated)
  refine { h with
    fresh := ?_, connecting := ?_, connected := ?_, unconnected := ?_, receiving := ?_,
    listedOnce := ?_ }
  · intro j hj
    have hnone := h.fresh j hj
    have hne : j ≠ i := by
      rintro rfl
      simp [hcreated] at hnone
    simpa [hne] using hnone
  · exact fun _ _ hi => by cases hi
  · intro failed' j hj
    obtain ⟨rfl, rfl⟩ : failed = failed' ∧ i = j := by simpa using hj
    exact h.lt_nextSocket (by simp [hcreated])
  · intro j hj
    have hne : j ≠ i := by
      rintro rfl
      simp at hj
    obtain ⟨hqueue, hbacklog, hconnections, hbroadcasts⟩ :=
      h.unconnected j (by simpa [hne] using hj)
    exact ⟨hqueue, by simp [hbacklog, hne], hconnections, hbroadcasts⟩
  · intro k j hk hj
    obtain rfl | hne := eq_or_ne j i
    · exact hactive k hk
    · exact h.receiving k j hk (by simpa [hne] using hj)
  · change (s.backlog ++ [i] ++ s.connections).Nodup
    have hperm : (s.backlog ++ [i] ++ s.connections).Perm (i :: (s.backlog ++ s.connections)) := by
      rw [List.append_assoc]
      exact List.perm_middle
    rw [hperm.nodup_iff]
    exact List.nodup_cons.mpr
      ⟨by simp [huntouched.backlog, huntouched.connections], h.listedOnce⟩

theorem orderly_failAttempt {s : State φ δ} {active : Option Nat} (h : Orderly s active)
    {failed i : Nat} (hsocket : i < s.nextSocket) :
    Orderly (s.failAttempt failed i) active := by
  have hupdate : ∀ j x, x ≠ Socket.closed →
      Function.update s.sockets i (some .closed) j = some x → s.sockets j = some x := by
    intro j x hx hj
    obtain rfl | hne := eq_or_ne j i
    · simp_all
    · simpa [hne] using hj
  refine { h with
    fresh := ?_, connecting := ?_, connected := ?_, unconnected := ?_, receiving := ?_ }
  · intro j hj
    change s.nextSocket ≤ j at hj
    have hne : j ≠ i := by omega
    simpa [State.failAttempt, hne] using h.fresh j hj
  · exact fun _ _ hi => by cases hi
  · exact fun _ _ hi => by cases hi
  · intro j hj
    have hne : j ≠ i := by
      rintro rfl
      simp [State.failAttempt] at hj
    exact { h.unconnected j (by simpa [State.failAttempt, hne] using hj) with }
  · exact fun k j hk hj => h.receiving k j hk (hupdate j _ (by decide) hj)

theorem inFlight_receive {s : State φ δ} {i n : Nat} {rest : List Nat}
    (context : Context φ δ) (invoked : List (Nat × Upcall φ δ))
    (hqueue : s.queue i = n :: rest) (j m : Nat) :
    inFlight { s with
      context := context
      queue := Function.update s.queue i rest
      invoked := invoked } j m + (if m = n ∧ j = i then 1 else 0) = inFlight s j m := by
  obtain rfl | hj := eq_or_ne j i
  · rcases eq_or_ne m n with rfl | hm
    · simp [inFlight, hqueue, Nat.add_right_comm]
    · simp [inFlight, hqueue, hm, hm.symm]
  · simp [inFlight, hj]

theorem orderly_receive {s : State φ δ} {active : Option Nat} (h : Orderly s active)
    {i n : Nat} {rest : List Nat} (context : Context φ δ) (upcall : Option (Upcall φ δ))
    (hactive : active = some i) (hqueue : s.queue i = n :: rest) :
    Orderly { s with
      context := context
      queue := Function.update s.queue i rest
      invoked := (upcall.map fun upcall => (n, upcall)).toList ++ s.invoked } active := by
  have hsent : n < s.nextSerial := by
    by_contra hge
    exact (h.unsent n (by omega)).2.1 i (by simp [hqueue])
  have hnew : n ∉ s.invoked.map Prod.fst := by
    intro hmem
    have hflight := h.unanswered i hactive n hmem
    simp [inFlight, hqueue] at hflight
  have hflight := inFlight_receive context
    ((upcall.map fun upcall => (n, upcall)).toList ++ s.invoked) hqueue
  refine { h with unconnected := ?_, unsent := ?_, each := ?_, once := ?_, unanswered := ?_ }
  · intro j hj
    have huntouched := h.unconnected j hj
    have hne : j ≠ i := by
      rintro rfl
      simp [huntouched.queue] at hqueue
    exact { huntouched with queue := by simpa [hne] using huntouched.queue }
  · intro m hm
    obtain ⟨hinvoked, hqueues, hbroadcasts⟩ := h.unsent m hm
    have hmn : m ≠ n := by
      rintro rfl
      exact absurd hsent (Nat.not_lt.mpr hm)
    refine ⟨?_, ?_, hbroadcasts⟩
    · cases upcall with
      | none => simpa using hinvoked
      | some upcall => simpa [hmn] using hinvoked
    · intro j
      obtain rfl | hj := eq_or_ne j i
      · have hrest := hqueues j
        rw [hqueue] at hrest
        simpa using fun hmem => hrest (List.mem_cons_of_mem n hmem)
      · simpa [hj] using hqueues j
  · intro j m
    exact le_trans (Nat.le.intro (hflight j m)) (h.each j m)
  · intro m
    cases upcall with
    | none => exact h.once m
    | some upcall =>
        obtain rfl | hm := eq_or_ne m n
        · simp [List.count_eq_zero.mpr hnew]
        · simpa [hm.symm] using h.once m
  · intro j hj m hm
    obtain rfl : i = j := Option.some.inj (hactive.symm.trans hj)
    have hbefore := hflight i m
    obtain rfl | hmn := eq_or_ne m n
    · have heach := h.each i m
      simp only [and_self, if_true] at hbefore
      omega
    · have hmem : m ∈ s.invoked.map Prod.fst := by
        cases upcall with
        | none => exact hm
        | some upcall => simpa [hmn] using hm
      exact Nat.le_zero.mp
        (le_trans (Nat.le.intro hbefore) (h.unanswered i hj m hmem).le)

theorem orderly_indicate {s : State φ δ} {active : Option Nat} (h : Orderly s active)
    (msg : UrilProtocolMsg) :
    Orderly { s with
      broadcasts := Function.update s.broadcasts s.nextSerial s.connections
      indications := Function.update s.indications s.nextSerial msg
      nextSerial := s.nextSerial + 1 } active := by
  obtain ⟨hinvoked, hqueues, hbroadcasts⟩ := h.unsent s.nextSerial le_rfl
  refine { h with unconnected := ?_, unsent := ?_, each := ?_, unanswered := ?_ }
  · intro i hi
    have huntouched := h.unconnected i hi
    refine { huntouched with broadcasts := ?_ }
    intro n
    obtain rfl | hn := eq_or_ne n s.nextSerial
    · simpa using huntouched.connections
    · simpa [hn] using huntouched.broadcasts n
  · intro n hn
    change s.nextSerial + 1 ≤ n at hn
    have hne : n ≠ s.nextSerial := by omega
    simpa [hne] using h.unsent n (by omega)
  · intro i n
    obtain rfl | hne := eq_or_ne n s.nextSerial
    · have hcount := List.nodup_iff_count_le_one.mp (List.nodup_append.mp h.listedOnce).2.1 i
      simpa [inFlight, List.count_eq_zero.mpr (hqueues i)] using hcount
    · simpa [inFlight, hne] using h.each i n
  · intro i hi n hmem
    have hne : n ≠ s.nextSerial := by
      rintro rfl
      exact hinvoked hmem
    simpa [inFlight, hne] using h.unanswered i hi n hmem

theorem inFlight_send {s : State φ δ} {n i : Nat} {rest : List Nat} (ok : Bool)
    (hrest : s.broadcasts n = i :: rest) (m j : Nat) :
    inFlight { s with
      broadcasts := Function.update s.broadcasts n rest
      queue := if ok then Function.update s.queue i (s.queue i ++ [n]) else s.queue } j m ≤
      inFlight s j m := by
  have hqueue : ((if ok then Function.update s.queue i (s.queue i ++ [n]) else s.queue) j).count m ≤
      (s.queue j).count m + if m = n ∧ j = i then 1 else 0 := by
    cases ok with
    | false => exact Nat.le_add_right _ _
    | true =>
        obtain rfl | hj := eq_or_ne j i
        · rcases eq_or_ne m n with rfl | hm
          · simp
          · simp [hm, hm.symm]
        · simp [hj]
  have hbroadcast : (Function.update s.broadcasts n rest m).count j +
      (if m = n ∧ j = i then 1 else 0) ≤ (s.broadcasts m).count j := by
    obtain rfl | hm := eq_or_ne m n
    · rcases eq_or_ne j i with rfl | hj
      · simp [hrest]
      · simp [hrest, hj, hj.symm]
    · simp [hm]
  simp only [inFlight]
  omega

theorem orderly_sendIndication {s : State φ δ} {active : Option Nat} (h : Orderly s active)
    {n i : Nat} {rest : List Nat} (ok : Bool) (hrest : s.broadcasts n = i :: rest) :
    Orderly { s with
      broadcasts := Function.update s.broadcasts n rest
      queue := if ok then Function.update s.queue i (s.queue i ++ [n]) else s.queue } active := by
  have hsent : n < s.nextSerial := by
    by_contra hge
    simp [(h.unsent n (by omega)).2.2] at hrest
  have hsub : ∀ m j, j ∈ Function.update s.broadcasts n rest m → j ∈ s.broadcasts m := by
    intro m j hj
    obtain rfl | hm := eq_or_ne m n
    · rw [hrest]
      exact List.mem_cons_of_mem _ (by simpa using hj)
    · simpa [hm] using hj
  refine { h with unconnected := ?_, unsent := ?_, each := ?_, unanswered := ?_ }
  · intro j hj
    have huntouched := h.unconnected j hj
    have hne : j ≠ i := by
      rintro rfl
      exact huntouched.broadcasts n (by simp [hrest])
    refine { huntouched with queue := ?_, broadcasts := ?_ }
    · cases ok <;> simpa [hne] using huntouched.queue
    · exact fun m hmem => huntouched.broadcasts m (hsub m j hmem)
  · intro m hm
    obtain ⟨hinvoked, hqueues, hbroadcasts⟩ := h.unsent m hm
    have hmn : m ≠ n := by
      rintro rfl
      exact absurd hsent (Nat.not_lt.mpr hm)
    refine ⟨hinvoked, ?_, by simpa [hmn] using hbroadcasts⟩
    intro j
    cases ok with
    | false => exact hqueues j
    | true =>
        obtain rfl | hj := eq_or_ne j i
        · simpa [hmn] using hqueues j
        · simpa [hj] using hqueues j
  · exact fun j m => le_trans (inFlight_send ok hrest m j) (h.each j m)
  · intro j hj m hmem
    exact Nat.le_zero.mp (le_trans (inFlight_send ok hrest m j) (h.unanswered j hj m hmem).le)

theorem orderly_listing {s : State φ δ} {active : Option Nat} (h : Orderly s active)
    {backlog connections : List Nat} (hnodup : (backlog ++ connections).Nodup)
    (hsub : ∀ i, i ∈ backlog ++ connections → i ∈ s.backlog ++ s.connections) :
    Orderly { s with backlog := backlog, connections := connections } active := by
  refine { h with unconnected := ?_, listedOnce := hnodup }
  intro i hi
  have huntouched := h.unconnected i hi
  have hnot : i ∉ backlog ++ connections := by
    intro hmem
    rcases List.mem_append.mp (hsub i hmem) with hbacklog | hconnections
    · exact huntouched.backlog hbacklog
    · exact huntouched.connections hconnections
  exact { huntouched with
    backlog := fun hmem => hnot (List.mem_append_left _ hmem)
    connections := fun hmem => hnot (List.mem_append_right _ hmem) }

theorem orderly_thread {s : State φ δ} {active : Option Nat} (h : Orderly s active) (k : Nat)
    (thread : Thread)
    (hreceiving : ∀ i, thread = .receiving i → s.sockets i = some .connected →
      active = some i) :
    Orderly { s with threads := Function.update s.threads k (some thread) } active := by
  refine { h with unconnected := fun i hi => { h.unconnected i hi with }, receiving := ?_ }
  intro k' i hk' hi
  obtain rfl | hne := eq_or_ne k' k
  · exact hreceiving i (by simpa using hk') hi
  · exact h.receiving k' i (by simpa [hne] using hk') hi

theorem orderly_place {s : State φ δ} {active : Option Nat} (h : Orderly s active)
    (context : Context φ δ) (uniqueHandle : UInt32) {place : Place}
    (hconnecting : ∀ failed i, place ≠ .connecting failed i)
    (hconnected : ∀ failed i, place ≠ .connected failed i) :
    Orderly { s with context := context, uniqueHandle := uniqueHandle, place := place }
      active := by
  refine { h with
    connecting := fun failed i hi => absurd hi (hconnecting failed i)
    connected := fun failed i hi => absurd hi (hconnected failed i)
    unconnected := fun i hi => { h.unconnected i hi with } }

theorem orderly_connectStep {s t : State φ δ} {ok : Bool} {active : Option Nat}
    (h : Orderly s active) (halone : DeliversAlone s (.connect ok))
    (hstep : step s (.connect ok) = some t) : ∃ active', Orderly t active' := by
  simp only [step] at hstep
  split at hstep
  · rename_i failed i hplace
    obtain rfl := Option.some.inj hstep
    cases ok with
    | true =>
        by_cases hthread : ∃ k, s.threads k = some (.receiving i)
        · obtain ⟨k, hk⟩ := hthread
          exact ⟨some i, orderly_connect (h.activate (halone failed i k hplace hk)) hplace
            fun _ _ => rfl⟩
        · exact ⟨active, orderly_connect h hplace fun k hk => absurd ⟨k, hk⟩ hthread⟩
    | false =>
        have hcreated := h.connecting failed i hplace
        exact ⟨active, orderly_failAttempt h (h.lt_nextSocket (by simp [hcreated]))⟩
  · cases hstep

theorem orderly_beginThread {s t : State φ δ} {k : Nat} {active : Option Nat}
    (h : Orderly s active) (halone : DeliversAlone s (.beginThread k))
    (hstep : step s (.beginThread k) = some t) : ∃ active', Orderly t active' := by
  simp only [step, Option.ite_none_right_eq_some, Option.map_eq_some_iff] at hstep
  obtain ⟨-, i, hctx, rfl⟩ := hstep
  by_cases hconnected : s.sockets i = some .connected
  · refine ⟨some i, orderly_thread (h.activate (halone i hctx hconnected)) k _ ?_⟩
    rintro j hj -
    simpa using hj
  · refine ⟨active, orderly_thread h k _ ?_⟩
    intro j hj hconnected'
    obtain rfl : i = j := by simpa using hj
    exact absurd hconnected' hconnected

theorem orderly_step {s t : State φ δ} {a : Action φ} {active : Option Nat}
    (h : Orderly s active) (halone : DeliversAlone s a) (hstep : step s a = some t) :
    ∃ active', Orderly t active' := by
  cases a with
  | callInit indCb defaultRespCb =>
      simp only [step, Option.ite_none_right_eq_some, Option.some.injEq] at hstep
      obtain ⟨-, rfl⟩ := hstep
      exact ⟨active, orderly_place h _ _ (by simp) (by simp)⟩
  | attempt ok =>
      simp only [step] at hstep
      split at hstep
      · rename_i failed hplace
        simp only [Option.ite_none_right_eq_some, Option.some.injEq] at hstep
        obtain ⟨-, rfl⟩ := hstep
        cases ok with
        | true => exact ⟨active, orderly_attempt h failed⟩
        | false => exact ⟨active, orderly_place h _ _ (by simp) (by simp)⟩
      · cases hstep
  | connect ok => exact orderly_connectStep h halone hstep
  | createThread ok =>
      simp only [step] at hstep
      split at hstep
      · rename_i failed i hplace
        obtain rfl := Option.some.inj hstep
        cases ok with
        | true =>
            exact ⟨active, orderly_place (orderly_thread h i .created nofun) _ _
              (by simp) (by simp)⟩
        | false => exact ⟨active, orderly_failAttempt h (h.connected failed i hplace)⟩
      · cases hstep
  | giveUp | finish =>
      simp only [step, Option.ite_none_right_eq_some, Option.some.injEq] at hstep
      obtain ⟨-, rfl⟩ := hstep
      exact ⟨active, orderly_place h _ _ (by simp) (by simp)⟩
  | callRelease =>
      simp only [step, Option.ite_none_right_eq_some, Option.some.injEq] at hstep
      obtain ⟨hplace, rfl⟩ := hstep
      exact ⟨active, orderly_place h _ _ (by simp [hplace]) (by simp [hplace])⟩
  | beginThread k => exact orderly_beginThread h halone hstep
  | receive k =>
      simp only [step] at hstep
      split at hstep
      · rename_i i hthread
        split at hstep
        · rename_i n rest hqueue
          simp only [Option.ite_none_right_eq_some, Option.some.injEq] at hstep
          obtain ⟨hconnected, rfl⟩ := hstep
          exact ⟨active, orderly_receive h _ _ (h.receiving k i hthread hconnected) hqueue⟩
        · cases hstep
      · cases hstep
  | endThread k =>
      simp only [step] at hstep
      split at hstep
      · obtain rfl := Option.some.inj hstep
        exact ⟨active, orderly_thread h k .ended nofun⟩
      · cases hstep
  | accept =>
      simp only [step] at hstep
      split at hstep
      · rename_i i rest hbacklog
        obtain rfl := Option.some.inj hstep
        have hperm : (rest ++ (s.connections ++ [i])).Perm (s.backlog ++ s.connections) := by
          rw [hbacklog, ← List.append_assoc]
          exact List.perm_append_singleton i (rest ++ s.connections)
        exact ⟨active, orderly_listing h (hperm.nodup_iff.mpr h.listedOnce)
          fun j hj => hperm.mem_iff.mp hj⟩
      · cases hstep
  | indicate msg =>
      simp only [step, Option.ite_none_right_eq_some, Option.some.injEq] at hstep
      obtain ⟨-, rfl⟩ := hstep
      exact ⟨active, orderly_indicate h msg⟩
  | sendIndication n ok =>
      simp only [step] at hstep
      split at hstep
      · rename_i i rest hrest
        obtain rfl := Option.some.inj hstep
        exact ⟨active, orderly_sendIndication h ok hrest⟩
      · cases hstep
  | drop i =>
      obtain rfl := Option.some.inj hstep
      have hsub : (s.backlog ++ s.connections.filter (· ≠ i)).Sublist
          (s.backlog ++ s.connections) :=
        List.Sublist.append_left List.filter_sublist s.backlog
      exact ⟨active, orderly_listing h (h.listedOnce.sublist hsub) fun j hj => hsub.subset hj⟩

/-- Along runs in which every connection delivers alone, every indication is
called back at most once. -/
theorem one_indication_one_callback {s : State φ δ}
    (hrun : Reaches step DeliversAlone (State.initial : State φ δ) s) : OneCallback s := by
  obtain ⟨active, horderly⟩ : ∃ active, Orderly s active := by
    refine hrun.invariant (fun s => ∃ active, Orderly s active) ⟨none, orderly_initial⟩ ?_
    rintro t a u ⟨active, h⟩ halone hstep
    exact orderly_step h halone hstep
  exact oneCallback_of_orderly horderly

/-- The service disconnects the client before it initializes the library again. -/
theorem one_indication_one_callback_sample :
    ∃ s : State Nat Nat, s.invoked.map Prod.fst = [1, 0] ∧ OneCallback s := by
  let ind : UrilProtocolMsg := { UrilProtocolMsg.zeroed with isIndication := 1 }
  let unread : State Nat Nat → Action Nat → Bool
    | _, .connect true | _, .beginThread _ => false
    | _, _ => true
  have hunread : ∀ s a, unread s a = true → DeliversAlone s a := by
    intro s a hok
    unfold DeliversAlone
    split
    · cases hok
    · cases hok
    · trivial
  have hidle : ∀ {s : State Nat Nat} (a : Action Nat),
      (∀ k, s.threads k ∈ [none, some .created, some .ended]) →
      (∀ i, s.connectorCtx = some i → ∀ n ∈ s.invoked.map Prod.fst, inFlight s i n = 0) →
      DeliversAlone s a := by
    intro s a hthreads hanswered
    have hnone : ∀ k i, s.threads k ≠ some (.receiving i) := by
      intro k i hk
      simpa [hk] using hthreads k
    unfold DeliversAlone
    split
    · rintro i hctx -
      refine ⟨?_, hanswered i hctx⟩
      rintro j ⟨-, k, hk⟩
      exact absurd hk (hnone k j)
    · rintro failed i k - hk
      exact absurd hk (hnone k i)
    · trivial
  obtain ⟨s₁, t₁, s₂, t₂, s₃, t₃, s₄, t₄, s, h₁, hthreads₁, hinvoked₁, hconnect₁, h₂, hthreads₂,
      hinvoked₂, hbegin₂, h₃, hthreads₃, hctx₃, hinvoked₃, hflight₃, hconnect₃, h₄, hthreads₄,
      hctx₄, hinvoked₄, hflight₄, hbegin₄, hlast, hinvoked⟩ : ∃ s₁ t₁ s₂ t₂ s₃ t₃ s₄ t₄ s,
      exec step unread State.initial [.callInit (some 5) none, .attempt true] = some s₁ ∧
      s₁.threads = (fun _ => none) ∧ s₁.invoked = [] ∧ step s₁ (.connect true) = some t₁ ∧
      exec step unread t₁ [.createThread true, .finish, .accept] = some s₂ ∧
      s₂.threads = Function.update s₁.threads 0 (some .created) ∧ s₂.invoked = [] ∧
      step s₂ (.beginThread 0) = some t₂ ∧
      exec step unread t₂ [.indicate ind, .sendIndication 0 true, .receive 0, .drop 0,
        .endThread 0, .callRelease, .callInit (some 5) none, .attempt true] = some s₃ ∧
      s₃.threads = Function.update (Function.update s₂.threads 0 (some (.receiving 0)))
        0 (some .ended) ∧
      s₃.connectorCtx = some 1 ∧ s₃.invoked.map Prod.fst = [0] ∧ inFlight s₃ 1 0 = 0 ∧
      step s₃ (.connect true) = some t₃ ∧
      exec step unread t₃ [.createThread true, .finish, .accept] = some s₄ ∧
      s₄.threads = Function.update s₃.threads 1 (some .created) ∧
      s₄.connectorCtx = some 1 ∧ s₄.invoked.map Prod.fst = [0] ∧ inFlight s₄ 1 0 = 0 ∧
      step s₄ (.beginThread 1) = some t₄ ∧
      exec step unread t₄ [.indicate ind, .sendIndication 1 true, .receive 1] = some s ∧
      s.invoked.map Prod.fst = [1, 0] :=
    ⟨_, _, _, _, _, _, _, _, _, rfl, rfl, rfl, rfl, rfl, rfl, rfl, rfl, rfl, rfl, rfl, rfl, rfl,
      rfl, rfl, rfl, rfl, rfl, rfl, rfl, rfl, rfl⟩
  have hidle₂ : ∀ k, s₂.threads k ∈ [none, some .created, some .ended] := by
    intro k
    rw [hthreads₂, hthreads₁, Function.update_apply]
    split <;> simp
  have hidle₃ : ∀ k, s₃.threads k ∈ [none, some .created, some .ended] := by
    intro k
    rw [hthreads₃, Function.update_idem, Function.update_apply]
    split
    · simp
    · exact hidle₂ k
  have hidle₄ : ∀ k, s₄.threads k ∈ [none, some .created, some .ended] := by
    intro k
    rw [hthreads₄, Function.update_apply]
    split
    · simp
    · exact hidle₃ k
  have hnext : ∀ {s t u : State Nat Nat} {actions : List (Action Nat)} {a : Action Nat},
      Reaches step DeliversAlone State.initial s → exec step unread s actions = some t →
      DeliversAlone t a → step t a = some u → Reaches step DeliversAlone State.initial u :=
    fun hs hexec ha hu => (hs.trans (reaches_of_exec _ hunread _ hexec)).tail _ ha hu
  have hrun₁ := hnext .refl h₁ (hidle _ (by simp [hthreads₁]) (by simp [hinvoked₁])) hconnect₁
  have hrun₂ := hnext hrun₁ h₂ (hidle _ hidle₂ (by simp [hinvoked₂])) hbegin₂
  have hrun₃ := hnext hrun₂ h₃
    (hidle _ hidle₃ (by simpa [hctx₃, hinvoked₃] using hflight₃)) hconnect₃
  have hrun₄ := hnext hrun₃ h₄
    (hidle _ hidle₄ (by simpa [hctx₄, hinvoked₄] using hflight₄)) hbegin₄
  exact ⟨s, hinvoked, one_indication_one_callback
    (hrun₄.trans (reaches_of_exec _ hunread _ hlast))⟩

/-- Two life cycles in a row: the service sends the indication to both
connections, and both receive threads are there. -/
theorem indication_called_back_twice :
    ¬ ∀ s : State Nat Nat, Reaches step anyAction State.initial s → OneCallback s := by
  intro honly
  let ind : UrilProtocolMsg := { UrilProtocolMsg.zeroed with isIndication := 1 }
  let lifeCycle (i : Nat) : List (Action Nat) :=
    [.callInit (some 5) none, .attempt true, .connect true, .createThread true, .finish,
      .beginThread i, .accept]
  obtain ⟨s, hexec, hinvoked⟩ : ∃ s : State Nat Nat,
      exec step (fun _ _ => true) State.initial (lifeCycle 0 ++ .callRelease :: lifeCycle 1 ++
        [.indicate ind, .sendIndication 0 true, .sendIndication 0 true, .receive 0,
          .receive 1]) = some s ∧ s.invoked.map Prod.fst = [0, 0] := ⟨_, rfl, rfl⟩
  have hrun : Reaches _ anyAction _ s := reaches_of_exec _ (fun _ _ _ => trivial) _ hexec
  have honce := (honly s hrun).once 0
  simp [hinvoked] at honce

end UnifiedRil.Reconnection

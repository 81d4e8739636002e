import Mathlib.Data.List.Count
import UnifiedRil.TrackerRuns

namespace UnifiedRil.TrackerConservation

open UnifiedRil.Library.Runs
open UnifiedRil.Protocol
open UnifiedRil.MessageTracker
open UnifiedRil.TrackerRuns

variable {κ : Type} [DecidableEq κ]

/-- Requests with id `u` received from `c`. -/
def requests (c : κ) (u : UInt32) : List (Event κ) → Nat
  | [] => 0
  | .received c' u' :: log => requests c u log + if c' = c ∧ u' = u then 1 else 0
  | _ :: log => requests c u log

/-- Responses with id `u` sent to `c`. -/
def responses (c : κ) (u : UInt32) : List (Event κ) → Nat
  | [] => 0
  | .sent _ u' c' _ :: log => responses c u log + if c' = c ∧ u' = u then 1 else 0
  | _ :: log => responses c u log

/-- Responses with id `u` about to be sent to `c`. -/
def inFlight (c : κ) (u : UInt32) (deliveries : List (Delivery κ)) : Nat :=
  deliveries.countP fun d => d.connection = c ∧ d.uniqueId = u

/-- The connections that the `n`-th call of `processResponse` sent its response
to. -/
def sendsOf (n : Nat) : List (Event κ) → List κ
  | [] => []
  | .sent n' _ c _ :: log => if n' = n then sendsOf n log ++ [c] else sendsOf n log
  | _ :: log => sendsOf n log

/-- The connections that the `n`-th call has still to send its response to. -/
def unsentOf (n : Nat) (deliveries : List (Delivery κ)) : List κ :=
  (deliveries.filter fun d => d.serial = n).map Delivery.connection

/-- The connections that the `n`-th call sent its indication to, in order. -/
def indicationsOf (n : Nat) : List (Event κ) → List κ
  | [] => []
  | .indicated n' c _ :: log =>
      if n' = n then indicationsOf n log ++ [c] else indicationsOf n log
  | _ :: log => indicationsOf n log

/-- What holds of the tracker in every state reached. -/
structure Conserved (s : State κ) : Prop where
  pending : ∀ u, s.pendingRequests u = (registrant s.log u).map some
  count : ∀ c u, responses c u s.log + inFlight c u s.deliveries +
    (if registrant s.log u = some c then 1 else 0) ≤ requests c u s.log
  answered : ∀ n u o, .answered n u o ∈ s.log →
    sendsOf n s.log ++ unsentOf n s.deliveries = o.toList
  delivery : ∀ d ∈ s.deliveries, .answered d.serial d.uniqueId (some d.connection) ∈ s.log
  listed : ∀ n cs, .listed n cs ∈ s.log → indicationsOf n s.log ++ s.broadcasts n = cs
  fresh : ∀ n, s.nextSerial ≤ n →
    sendsOf n s.log = [] ∧ indicationsOf n s.log = [] ∧ s.broadcasts n = [] ∧
      (∀ u o, .answered n u o ∉ s.log) ∧ (∀ cs, .listed n cs ∉ s.log)

theorem Conserved.unsent_fresh {s : State κ} (h : Conserved s) {n : Nat}
    (hn : s.nextSerial ≤ n) : unsentOf n s.deliveries = [] := by
  simp only [unsentOf, List.map_eq_nil_iff, List.filter_eq_nil_iff, decide_eq_true_eq]
  rintro d hd rfl
  exact (h.fresh _ hn).2.2.2.1 _ _ (h.delivery d hd)

theorem inFlight_append_owner (c : κ) (u : UInt32) (deliveries : List (Delivery κ)) (n : Nat)
    (id : UInt32) (owner : Option κ) :
    inFlight c u (deliveries ++ (owner.map fun c' => ⟨n, id, c'⟩).toList) =
      inFlight c u deliveries + if owner = some c ∧ id = u then 1 else 0 := by
  cases owner with
  | none => simp [inFlight]
  | some c' => simp [inFlight, List.countP_singleton]

theorem inFlight_erase {d : Delivery κ} {deliveries : List (Delivery κ)} (hd : d ∈ deliveries)
    (c : κ) (u : UInt32) :
    inFlight c u (deliveries.erase d) + (if d.connection = c ∧ d.uniqueId = u then 1 else 0) =
      inFlight c u deliveries := by
  have hperm := (List.perm_cons_erase hd).countP_eq
    fun d => decide (d.connection = c ∧ d.uniqueId = u)
  simp only [inFlight]
  rw [hperm, List.countP_cons]
  simp

theorem conserved_initial : Conserved (State.initial : State κ) where
  pending u := rfl
  count c u := by simp [State.initial, responses, inFlight, registrant]
  answered n u o h := by simp [State.initial] at h
  delivery d h := by simp [State.initial] at h
  listed n cs h := by simp [State.initial] at h
  fresh n _ := by simp [State.initial, sendsOf, indicationsOf]

theorem conserved_frame {s t : State κ} (h : Conserved s)
    (hpending : t.pendingRequests = s.pendingRequests) (hlog : t.log = s.log)
    (hdeliveries : t.deliveries = s.deliveries) (hbroadcasts : t.broadcasts = s.broadcasts)
    (hserial : t.nextSerial = s.nextSerial) : Conserved t where
  pending := by simpa only [hpending, hlog] using h.pending
  count := by simpa only [hlog, hdeliveries] using h.count
  answered := by simpa only [hlog, hdeliveries] using h.answered
  delivery := by simpa only [hlog, hdeliveries] using h.delivery
  listed := by simpa only [hlog, hbroadcasts] using h.listed
  fresh := by simpa only [hlog, hbroadcasts, hserial] using h.fresh

theorem conserved_receive {s t : State κ} {c : κ} {msg : UrilProtocolMsg}
    (h : Conserved s) (hstep : step s (.receive c msg) = some t) : Conserved t := by
  simp only [step, Option.ite_none_right_eq_some, Option.some.injEq] at hstep
  obtain ⟨-, rfl⟩ := hstep
  constructor
  case pending =>
    intro u
    by_cases hu : msg.uniqueId = u
    · subst hu
      simp [trackAndDispatchRequest, PendingRequests.assign, registrant]
    · simp [trackAndDispatchRequest, PendingRequests.assign, registrant, hu, Ne.symm hu,
        h.pending u]
  case count =>
    intro c' u
    have hcount := h.count c' u
    simp only [responses, requests, registrant]
    by_cases hu : msg.uniqueId = u
    · simp only [hu, if_true, Option.some.injEq, and_true]
      split at hcount <;> omega
    · simpa [hu] using hcount
  case answered =>
    intro n u o hmem
    simp only [List.mem_cons, reduceCtorEq, false_or] at hmem
    exact h.answered n u o hmem
  case delivery =>
    intro d hd
    exact List.mem_cons_of_mem _ (h.delivery d hd)
  case listed =>
    intro n cs hmem
    simp only [List.mem_cons, reduceCtorEq, false_or] at hmem
    exact h.listed n cs hmem
  case fresh =>
    intro n hn
    simpa [sendsOf, indicationsOf] using h.fresh n hn

theorem conserved_indication {s t : State κ} {msg : UrilProtocolMsg} (h : Conserved s)
    (hind : msg.isIndication ≠ 0) (hstep : step s (.process msg) = some t) : Conserved t := by
  simp only [step, hind, ne_eq, not_false_eq_true, if_true, Option.some.injEq] at hstep
  subst hstep
  constructor
  case pending => exact h.pending
  case count => exact h.count
  case answered =>
    intro n u o hmem
    simp only [List.mem_cons, reduceCtorEq, false_or] at hmem
    exact h.answered n u o hmem
  case delivery =>
    intro d hd
    exact List.mem_cons_of_mem _ (h.delivery d hd)
  case listed =>
    intro n cs hmem
    rcases List.mem_cons.mp hmem with heq | hmem
    · cases heq
      simp [indicationsOf, (h.fresh s.nextSerial le_rfl).2.1]
    · have hne : n ≠ s.nextSerial := by
        rintro rfl
        exact (h.fresh s.nextSerial le_rfl).2.2.2.2 cs hmem
      simpa [indicationsOf, hne] using h.listed n cs hmem
  case fresh =>
    intro n hn
    have hne : n ≠ s.nextSerial := Nat.ne_of_gt hn
    simpa [sendsOf, indicationsOf, hne] using h.fresh n (Nat.le_of_succ_le hn)

theorem conserved_response {s t : State κ} {msg : UrilProtocolMsg} (h : Conserved s)
    (hrsp : msg.isIndication = 0) (hstep : step s (.process msg) = some t) : Conserved t := by
  simp only [step, hrsp, ne_eq, not_true_eq_false, if_false, Option.some.injEq] at hstep
  subst hstep
  have howner : (s.pendingRequests msg.uniqueId).join = registrant s.log msg.uniqueId := by
    rw [h.pending]
    cases registrant s.log msg.uniqueId <;> rfl
  simp only [takeConnection_fst, takeConnection_snd, howner]
  constructor
  case pending =>
    intro u
    by_cases hu : msg.uniqueId = u
    · subst hu
      simp [PendingRequests.erase, registrant]
    · simp [PendingRequests.erase, registrant, hu, Ne.symm hu, h.pending u]
  case count =>
    intro c u
    have hcount := h.count c u
    rw [inFlight_append_owner]
    simp only [responses, requests, registrant]
    by_cases hu : msg.uniqueId = u
    · simp only [hu, if_true, reduceCtorEq, if_false, and_true]
      omega
    · simpa only [hu, and_false, if_false, Nat.add_zero] using hcount
  case answered =>
    intro n u o hmem
    rcases List.mem_cons.mp hmem with heq | hmem
    · cases heq
      have hunsent := h.unsent_fresh (n := s.nextSerial) le_rfl
      simp only [unsentOf] at hunsent
      simp only [sendsOf, unsentOf, List.filter_append, List.map_append, hunsent,
        (h.fresh s.nextSerial le_rfl).1]
      cases registrant s.log msg.uniqueId <;> simp
    · have hne : s.nextSerial ≠ n := by
        rintro rfl
        exact (h.fresh _ le_rfl).2.2.2.1 u o hmem
      have hnew : unsentOf n ((registrant s.log msg.uniqueId).map fun c =>
          (⟨s.nextSerial, msg.uniqueId, c⟩ : Delivery κ)).toList = [] := by
        cases registrant s.log msg.uniqueId <;> simp [unsentOf, hne]
      have hold := h.answered n u o hmem
      simp only [sendsOf, unsentOf, List.filter_append, List.map_append] at hnew hold ⊢
      rw [hnew, List.append_nil, hold]
  case delivery =>
    intro d hd
    rcases List.mem_append.mp hd with hd | hd
    · exact List.mem_cons_of_mem _ (h.delivery d hd)
    · cases hreg : registrant s.log msg.uniqueId with
      | none => simp [hreg] at hd
      | some c =>
          simp only [hreg, Option.map_some, Option.toList_some, List.mem_singleton] at hd
          subst hd
          exact List.mem_cons_self
  case listed =>
    intro n cs hmem
    simp only [List.mem_cons, reduceCtorEq, false_or] at hmem
    exact h.listed n cs hmem
  case fresh =>
    intro n hn
    have hne : n ≠ s.nextSerial := Nat.ne_of_gt hn
    simpa [sendsOf, indicationsOf, hne] using h.fresh n (Nat.le_of_succ_le hn)

theorem Conserved.of_delivery {s : State κ} (h : Conserved s) {d : Delivery κ}
    (hd : d ∈ s.deliveries) :
    sendsOf d.serial s.log = [] ∧ unsentOf d.serial s.deliveries = [d.connection] := by
  have hmem : d.connection ∈ unsentOf d.serial s.deliveries :=
    List.mem_map_of_mem (List.mem_filter.mpr ⟨hd, by simp⟩)
  have htotal := h.answered _ _ _ (h.delivery d hd)
  rcases List.append_eq_singleton_iff.mp htotal with ⟨hnil, hone⟩ | ⟨-, hnil⟩
  · exact ⟨hnil, hone⟩
  · rw [hnil] at hmem
    simp at hmem

theorem unsentOf_erase {d : Delivery κ} {deliveries : List (Delivery κ)}
    (hone : unsentOf d.serial deliveries = [d.connection]) (hd : d ∈ deliveries) (n : Nat) :
    unsentOf n (deliveries.erase d) =
      if d.serial = n then [] else unsentOf n deliveries := by
  simp only [unsentOf, ← List.erase_filter] at hone ⊢
  split
  · rename_i hn
    subst hn
    obtain ⟨d', hd'⟩ := List.map_eq_singleton_iff.mp hone
    have hmem : d ∈ deliveries.filter fun d' => d'.serial = d.serial :=
      List.mem_filter.mpr ⟨hd, by simp⟩
    rw [hd'.1, List.mem_singleton] at hmem
    rw [hd'.1, hmem]
    simp
  · rename_i hn
    rw [List.erase_of_not_mem]
    simp [hn]

theorem conserved_send {s t : State κ} {d : Delivery κ} {ok : Bool} (h : Conserved s)
    (hstep : step s (.send d ok) = some t) : Conserved t := by
  simp only [step, Option.ite_none_right_eq_some, Option.some.injEq] at hstep
  obtain ⟨hd, rfl⟩ := hstep
  obtain ⟨hsends, hunsent⟩ := h.of_delivery hd
  constructor
  case pending => exact h.pending
  case count =>
    intro c u
    have hcount := h.count c u
    have herase := inFlight_erase hd c u
    change responses c u s.log + (if d.connection = c ∧ d.uniqueId = u then 1 else 0) +
      inFlight c u (s.deliveries.erase d) + (if registrant s.log u = some c then 1 else 0) ≤
        requests c u s.log
    omega
  case answered =>
    intro n u o hmem
    simp only [List.mem_cons, reduceCtorEq, false_or] at hmem
    have hold := h.answered n u o hmem
    simp only [sendsOf]
    rw [unsentOf_erase hunsent hd]
    split
    · rename_i hn
      subst hn
      rw [hsends, hunsent] at hold
      simpa [hsends] using hold
    · exact hold
  case delivery =>
    intro d' hd'
    exact List.mem_cons_of_mem _ (h.delivery d' (List.mem_of_mem_erase hd'))
  case listed =>
    intro n cs hmem
    simp only [List.mem_cons, reduceCtorEq, false_or] at hmem
    exact h.listed n cs hmem
  case fresh =>
    intro n hn
    have hne : d.serial ≠ n := by
      rintro rfl
      exact (h.fresh _ hn).2.2.2.1 _ _ (h.delivery d hd)
    simpa [sendsOf, indicationsOf, hne] using h.fresh n hn

theorem conserved_sendIndication {s t : State κ} {n : Nat} {ok : Bool} (h : Conserved s)
    (hstep : step s (.sendIndication n ok) = some t) : Conserved t := by
  simp only [step] at hstep
  split at hstep
  · rename_i c rest hrest
    simp only [Option.some.injEq] at hstep
    subst hstep
    constructor
    case pending => exact h.pending
    case count => exact h.count
    case answered =>
      intro n' u o hmem
      simp only [List.mem_cons, reduceCtorEq, false_or] at hmem
      exact h.answered n' u o hmem
    case delivery =>
      intro d hd
      exact List.mem_cons_of_mem _ (h.delivery d hd)
    case listed =>
      intro n' cs hmem
      simp only [List.mem_cons, reduceCtorEq, false_or] at hmem
      have hold := h.listed n' cs hmem
      by_cases hn : n' = n
      · subst hn
        simpa [indicationsOf, hrest] using hold
      · simpa [indicationsOf, hn, Ne.symm hn] using hold
    case fresh =>
      intro n' hn'
      have hne : n' ≠ n := by
        rintro rfl
        simp [(h.fresh _ hn').2.2.1] at hrest
      simpa [sendsOf, indicationsOf, hne, Ne.symm hne] using h.fresh n' hn'
  · cases hstep

theorem conserved_step {s t : State κ} {a : Action κ} (h : Conserved s)
    (hstep : step s a = some t) : Conserved t := by
  cases a with
  | receive c msg => exact conserved_receive h hstep
  | process msg =>
      by_cases hind : msg.isIndication = 0
      · exact conserved_response h hind hstep
      · exact conserved_indication h hind hstep
  | send d ok => exact conserved_send h hstep
  | sendIndication n ok => exact conserved_sendIndication h hstep
  | accept c | hangUp c | receiveError c | deleteThis c =>
      simp only [step, Option.ite_none_right_eq_some, Option.some.injEq] at hstep
      obtain ⟨-, rfl⟩ := hstep
      exact conserved_frame h rfl rfl rfl rfl rfl

theorem conserved_reached {s : State κ}
    (hrun : Reaches step anyAction (State.initial : State κ) s) : Conserved s :=
  hrun.invariant Conserved conserved_initial fun _ _ _ h _ hstep => conserved_step h hstep

/-- The action that starts a call of `processResponse` chooses the receivers
that the sequential function sends to, and leaves the same map. -/
theorem process_eq_processResponse {s t : State κ} {msg : UrilProtocolMsg} (h : Conserved s)
    (hstep : step s (.process msg) = some t) (send : κ → Bool) :
    t.pendingRequests =
        (processResponse s.pendingRequests s.connections send (some msg)).1 ∧
      unsentOf s.nextSerial t.deliveries ++ t.broadcasts s.nextSerial =
        (processResponse s.pendingRequests s.connections send (some msg)).2.1 := by
  have hunsent := h.unsent_fresh (n := s.nextSerial) le_rfl
  have hbroadcast := (h.fresh s.nextSerial le_rfl).2.2.1
  by_cases hind : msg.isIndication = 0
  · simp only [step, hind, ne_eq, not_true_eq_false, if_false, Option.some.injEq] at hstep
    subst hstep
    simp only [unsentOf] at hunsent
    simp only [processResponse, hind, unsentOf, List.filter_append, List.map_append, hunsent,
      hbroadcast]
    cases (takeConnection s.pendingRequests msg.uniqueId).1 <;> simp
  · simp only [step, hind, ne_eq, not_false_eq_true, if_true, Option.some.injEq] at hstep
    subst hstep
    simp [processResponse, hind, hunsent, sendToAll_fst]

/-- The tracker's process: the clients that have closed their sockets, and whether a signal
has ended it. -/
structure Service (κ : Type) where
  tracker : State κ
  gone : κ → Bool
  killed : Bool

def Service.initial : Service κ :=
  { tracker := .initial, gone := fun _ => false, killed := false }

inductive ServiceAction (κ : Type)
  | tracker (a : Action κ)
  | closes (c : κ)

/-- The connection on which a step fails to send. -/
def refusedBy (s : State κ) : Action κ → Option κ
  | .send d false => some d.connection
  | .sendIndication n false => (s.broadcasts n).head?
  | _ => none

/-- The service neither ignores `SIGPIPE` nor passes `MSG_NOSIGNAL`: a send to a client that
has closed its socket does not return. -/
def serviceStep (s : Service κ) : ServiceAction κ → Option (Service κ)
  | .closes c => if s.killed then none else some { s with gone := Function.update s.gone c true }
  | .tracker a =>
      if s.killed then none
      else
        (step s.tracker a).map fun tracker =>
          if (refusedBy s.tracker a).any s.gone then { s with killed := true }
          else { s with tracker := tracker }

/-- No send fails because the client has closed its socket. -/
def FailsByReturning (s : Service κ) : ServiceAction κ → Prop
  | .tracker a => ∀ c ∈ refusedBy s.tracker a, s.gone c = false
  | .closes _ => True

theorem serviceStep_tracker {s : Service κ} {t : State κ} {a : Action κ}
    (hkilled : s.killed = false) (hreturns : FailsByReturning s (.tracker a))
    (hstep : step s.tracker a = some t) :
    serviceStep s (.tracker a) = some { s with tracker := t } := by
  have hnone : (refusedBy s.tracker a).any s.gone = false := by
    rw [Bool.eq_false_iff, ne_eq, Option.any_eq_true]
    rintro ⟨c, hc, hgone⟩
    exact Bool.false_ne_true ((hreturns c hc).symm.trans hgone)
  simp [serviceStep, hkilled, hstep, hnone]

/-- The tracker as the rest of the process sees it. -/
theorem tracker_reached {s : Service κ}
    (hrun : Reaches serviceStep FailsByReturning (Service.initial : Service κ) s) :
    s.killed = false ∧ Reaches step anyAction State.initial s.tracker := by
  refine hrun.invariant
    (fun s => s.killed = false ∧ Reaches step anyAction State.initial s.tracker)
    ⟨rfl, .refl⟩ ?_
  rintro s a u ⟨hkilled, hbefore⟩ hreturns hstep
  cases a with
  | closes c =>
      simp only [serviceStep, hkilled, Bool.false_eq_true, if_false] at hstep
      obtain rfl := Option.some.inj hstep
      exact ⟨rfl, hbefore⟩
  | tracker a =>
      cases hnext : step s.tracker a with
      | none => simp [serviceStep, hkilled, hnext] at hstep
      | some t =>
          rw [serviceStep_tracker hkilled hreturns hnext] at hstep
          obtain rfl := Option.some.inj hstep
          exact ⟨hkilled, hbefore.tail a trivial hnext⟩

omit [DecidableEq κ] in
theorem failsByReturning_of_none {s : Service κ} {a : TrackerRuns.Action κ}
    (h : refusedBy s.tracker a = none) : FailsByReturning s (.tracker a) := by
  intro c hc
  cases h.symm.trans hc

theorem serviceStep_process {s : Service κ} (hkilled : s.killed = false) (msg : UrilProtocolMsg) :
    ∃ t, step s.tracker (.process msg) = some t ∧
      serviceStep s (.tracker (.process msg)) = some { s with tracker := t } := by
  obtain ⟨t, hstep⟩ : ∃ t, step s.tracker (.process msg) = some t := by
    by_cases hind : msg.isIndication = 0
    · exact ⟨_, by simp only [step, hind, ne_eq, not_true_eq_false, if_false]; rfl⟩
    · exact ⟨_, by simp only [step, hind, ne_eq, not_false_eq_true, if_true]; rfl⟩
  exact ⟨t, hstep, serviceStep_tracker hkilled (failsByReturning_of_none rfl) hstep⟩

/-- What is left of a broadcast is sent, whatever the sends return. -/
theorem broadcast_completes {s : Service κ} {n : Nat} (hkilled : s.killed = false)
    (oks : List Bool) (hlength : oks.length = (s.tracker.broadcasts n).length)
    (hreturns : ∀ p ∈ (s.tracker.broadcasts n).zip oks, p.2 = false → s.gone p.1 = false) :
    ∃ t, exec serviceStep (fun _ _ => true) s
        (oks.map fun ok => .tracker (.sendIndication n ok)) = some t ∧
      t.killed = false ∧ t.tracker.pendingRequests = s.tracker.pendingRequests ∧
      t.tracker.broadcasts n = [] ∧
      indicationsOf n t.tracker.log =
        indicationsOf n s.tracker.log ++ s.tracker.broadcasts n := by
  induction oks generalizing s with
  | nil =>
      have hnil : s.tracker.broadcasts n = [] := List.eq_nil_of_length_eq_zero hlength.symm
      exact ⟨s, rfl, hkilled, rfl, hnil, by rw [hnil, List.append_nil]⟩
  | cons ok oks ih =>
      cases hrest : s.tracker.broadcasts n with
      | nil => simp [hrest] at hlength
      | cons c rest =>
          rw [hrest] at hlength hreturns
          let t : State κ :=
            { s.tracker with
              broadcasts := Function.update s.tracker.broadcasts n rest
              log := .indicated n c (s.tracker.alive c) :: s.tracker.log }
          have hstep : step s.tracker (.sendIndication n ok) = some t := by
            simp only [step, hrest]
            rfl
          have hfirst : FailsByReturning s (.tracker (.sendIndication n ok)) := by
            intro c' hc'
            cases ok with
            | true => cases hc'
            | false =>
                rw [refusedBy, hrest] at hc'
                obtain rfl := Option.some.inj hc'
                exact hreturns (c, false) List.mem_cons_self rfl
          have hleft : t.broadcasts n = rest := Function.update_self ..
          obtain ⟨u, hexec, hkilled', hpending, hdone, hsent⟩ :=
            ih (s := { s with tracker := t }) hkilled
              (by rw [hleft]; exact Nat.succ.inj hlength)
              (fun p hp => hreturns p (List.mem_cons_of_mem _ (hleft ▸ hp)))
          refine ⟨u, ?_, hkilled', hpending, hdone, ?_⟩
          · simp only [List.map_cons, exec, if_true, serviceStep_tracker hkilled hfirst hstep]
            exact hexec
          · rw [hsent, hleft]
            simp [t, indicationsOf]

/-- What the tracker keeps of requests, responses and indications, and goes on to do. -/
structure Conserves (s : Service κ) : Prop where
  counted : ∀ c u, responses c u s.tracker.log ≤ requests c u s.tracker.log
  answered : ∀ n u o, .answered n u o ∈ s.tracker.log →
    sendsOf n s.tracker.log ++ unsentOf n s.tracker.deliveries = o.toList
  listed : ∀ n cs, .listed n cs ∈ s.tracker.log →
    cs.Nodup ∧ indicationsOf n s.tracker.log ++ s.tracker.broadcasts n = cs
  tracks : ∀ c msg nextProcessor, s.tracker.pump c = some .running →
    ∃ t, serviceStep s (.tracker (.receive c msg)) = some t ∧
      t.tracker.log = .received c msg.uniqueId :: s.tracker.log ∧
      t.tracker.pendingRequests =
        (trackAndDispatchRequest s.tracker.pendingRequests c msg nextProcessor).1
  responds : ∀ msg, msg.isIndication = 0 →
    ∃ t, serviceStep s (.tracker (.process msg)) = some t ∧
      t.tracker.log = .answered s.tracker.nextSerial msg.uniqueId
        (registrant s.tracker.log msg.uniqueId) :: s.tracker.log ∧
      (s.tracker.pendingRequests msg.uniqueId = none →
        t.tracker.pendingRequests = s.tracker.pendingRequests ∧
          t.tracker.deliveries = s.tracker.deliveries)
  indicates : ∀ msg, msg.isIndication ≠ 0 →
    ∃ t, serviceStep s (.tracker (.process msg)) = some t ∧
      t.tracker.log = .listed s.tracker.nextSerial s.tracker.connections :: s.tracker.log ∧
      t.tracker.pendingRequests = s.tracker.pendingRequests
  processes : ∀ msg send, ∃ t, serviceStep s (.tracker (.process msg)) = some t ∧
    t.tracker.pendingRequests =
        (processResponse s.tracker.pendingRequests s.tracker.connections send (some msg)).1 ∧
      unsentOf s.tracker.nextSerial t.tracker.deliveries ++
          t.tracker.broadcasts s.tracker.nextSerial =
        (processResponse s.tracker.pendingRequests s.tracker.connections send (some msg)).2.1
  sends : ∀ d ∈ s.tracker.deliveries, ∀ ok, (ok = false → s.gone d.connection = false) →
    ∃ t, serviceStep s (.tracker (.send d ok)) = some t ∧
      t.tracker.pendingRequests = s.tracker.pendingRequests ∧
      t.tracker.log = .sent d.serial d.uniqueId d.connection
        (s.tracker.alive d.connection) :: s.tracker.log
  completes : ∀ n oks, oks.length = (s.tracker.broadcasts n).length →
    (∀ p ∈ (s.tracker.broadcasts n).zip oks, p.2 = false → s.gone p.1 = false) →
      ∃ t, exec serviceStep (fun _ _ => true) s
          (oks.map fun ok => .tracker (.sendIndication n ok)) = some t ∧
        t.killed = false ∧ t.tracker.pendingRequests = s.tracker.pendingRequests ∧
        t.tracker.broadcasts n = [] ∧
        indicationsOf n t.tracker.log =
          indicationsOf n s.tracker.log ++ s.tracker.broadcasts n

/-- Conservation by the tracker, over every interleaving of requests, responses,
indications and connections coming and going in which a send that fails returns. -/
theorem tracker_conservation {s : Service κ}
    (hrun : Reaches serviceStep FailsByReturning (Service.initial : Service κ) s) :
    Conserves s := by
  obtain ⟨hkilled, htracker⟩ := tracker_reached hrun
  have h := conserved_reached htracker
  constructor
  case counted =>
    intro c u
    have hcount := h.count c u
    omega
  case answered => exact h.answered
  case listed =>
    exact fun n cs hmem => ⟨(listing_reached htracker).logged n cs hmem, h.listed n cs hmem⟩
  case tracks =>
    intro c msg nextProcessor hrunning
    refine ⟨_, serviceStep_tracker hkilled (failsByReturning_of_none rfl) (if_pos hrunning), rfl, rfl⟩
  case responds =>
    intro msg hrsp
    obtain ⟨t, hstep, hservice⟩ := serviceStep_process hkilled msg
    simp only [step, hrsp, ne_eq, not_true_eq_false, if_false, Option.some.injEq] at hstep
    subst hstep
    refine ⟨_, hservice, ?_, fun hnone => ?_⟩
    · simp only [takeConnection_fst, h.pending]
      cases registrant s.tracker.log msg.uniqueId <;> rfl
    · simp [erase_of_none, hnone]
  case indicates =>
    intro msg hind
    obtain ⟨t, hstep, hservice⟩ := serviceStep_process hkilled msg
    simp only [step, hind, ne_eq, not_false_eq_true, if_true, Option.some.injEq] at hstep
    subst hstep
    exact ⟨_, hservice, rfl, rfl⟩
  case processes =>
    intro msg send
    obtain ⟨t, hstep, hservice⟩ := serviceStep_process hkilled msg
    exact ⟨_, hservice, process_eq_processResponse h hstep send⟩
  case sends =>
    intro d hd ok hreturns
    have hfails : FailsByReturning s (.tracker (.send d ok)) := by
      rintro c hc
      cases ok with
      | true => cases hc
      | false =>
          obtain rfl := Option.some.inj hc
          exact hreturns rfl
    exact ⟨_, serviceStep_tracker hkilled hfails (if_pos hd), rfl, rfl⟩
  case completes => exact fun n oks => broadcast_completes hkilled oks

/-- Two clients use the same id; an answer follows, and an indication whose first send
fails. -/
def sampleActions : List (ServiceAction Nat) :=
  [.tracker (.accept 1), .tracker (.accept 2),
    .tracker (.receive 1 { UrilProtocolMsg.zeroed with uniqueId := 7 }),
    .tracker (.receive 2 { UrilProtocolMsg.zeroed with uniqueId := 7 }),
    .tracker (.process { UrilProtocolMsg.zeroed with uniqueId := 7 }),
    .tracker (.send ⟨0, 7, 2⟩ true),
    .tracker (.process { UrilProtocolMsg.zeroed with isIndication := 1 }),
    .tracker (.sendIndication 1 false)]

theorem tracker_conservation_sample :
    ∃ s : Service Nat, Reaches serviceStep FailsByReturning Service.initial s ∧
      s.tracker.log = [.indicated 1 1 true, .listed 1 [1, 2], .sent 0 7 2 true,
        .answered 0 7 (some 2), .received 2 7, .received 1 7] ∧ Conserves s := by
  let stays : Service Nat → ServiceAction Nat → Bool
    | s, .tracker a => !(refusedBy s.tracker a).any s.gone
    | _, .closes _ => true
  have hstays : ∀ s a, stays s a = true → FailsByReturning s a := by
    intro s a hok
    cases a with
    | closes c => trivial
    | tracker a =>
        intro c hc
        have hc' : refusedBy s.tracker a = some c := hc
        simpa [stays, hc'] using hok
  obtain ⟨s, hrun, hlog⟩ := exists_reaches_of_exec (@serviceStep Nat _) stays hstays
    Service.initial sampleActions
    (fun s => s.tracker.log = [.indicated 1 1 true, .listed 1 [1, 2], .sent 0 7 2 true,
        .answered 0 7 (some 2), .received 2 7, .received 1 7]) (by decide)
  exact ⟨s, hrun, of_decide_eq_true hlog, tracker_conservation hrun⟩

/-- The first of two clients has closed its socket when an indication is sent to both: the
second gets nothing, then or later. -/
theorem broadcast_ends_at_gone :
    ∃ s : Service Nat, Reaches serviceStep anyAction Service.initial s ∧
      .listed 0 [1, 2] ∈ s.tracker.log ∧ indicationsOf 0 s.tracker.log = [] ∧
      (∀ a, serviceStep s a = none) ∧ ¬ Conserves s := by
  obtain ⟨s, hrun, hend⟩ := exists_run (@serviceStep Nat _) Service.initial
    [.tracker (.accept 1), .tracker (.accept 2), .closes 1,
      .tracker (.process { UrilProtocolMsg.zeroed with isIndication := 1 }),
      .tracker (.sendIndication 0 false)]
    (fun s => s.tracker.log = [.listed 0 [1, 2]] && s.tracker.broadcasts 0 = [1, 2] && s.killed)
    (by decide)
  simp only [Bool.and_eq_true, decide_eq_true_eq] at hend
  obtain ⟨⟨hlog, hleft⟩, hkilled⟩ := hend
  have hdead : ∀ a, serviceStep s a = none := by
    intro a
    cases a with
    | tracker a => simp [serviceStep, hkilled]
    | closes c => simp [serviceStep, hkilled]
  refine ⟨s, hrun, by simp [hlog], by simp [hlog, indicationsOf], hdead, fun h => ?_⟩
  obtain ⟨t, hexec, -⟩ := h.completes 0 [true, true] (by rw [hleft]; rfl) (by simp [hleft])
  simp [exec, hdead] at hexec

end UnifiedRil.TrackerConservation

import UnifiedRil.TrackerConservation

/-!
Whether the tracker uses connections that no longer exist. Its
`onClientDisconnected` only unregisters it from the connection: entries of
`mPendingRequests` that point to the connection stay, and so do calls of
`processResponse` that already hold the pointer. An object counts as deleted
from the start of its destructor on.
-/

namespace UnifiedRil.ConnectionLiveness

open UnifiedRil.Library.Runs
open UnifiedRil.Protocol
open UnifiedRil.MessageTracker
open UnifiedRil.TrackerRuns
open UnifiedRil.TrackerConservation

variable {κ : Type} [DecidableEq κ]

/-- Every connection that the tracker stores, holds or has still to visit
exists, and so did every one that it used. -/
structure UsesLiveConnections (s : State κ) : Prop where
  pending : ∀ u c, s.pendingRequests u = some (some c) → s.alive c = true
  delivery : ∀ d ∈ s.deliveries, s.alive d.connection = true
  broadcast : ∀ n, ∀ c ∈ s.broadcasts n, s.alive c = true
  sent : ∀ n u c alive, .sent n u c alive ∈ s.log → alive = true
  indicated : ∀ n c alive, .indicated n c alive ∈ s.log → alive = true

/-- A connection is deleted only once every id it registered last is answered
and no response or indication for it is under way. -/
def DisconnectsIdle (s : State κ) : Action κ → Prop
  | .deleteThis c =>
      (∀ u, registrant s.log u ≠ some c) ∧ (∀ d ∈ s.deliveries, d.connection ≠ c) ∧
        ∀ n, c ∉ s.broadcasts n
  | _ => True

omit [DecidableEq κ] in
theorem live_frame {s t : State κ} (h : UsesLiveConnections s)
    (halive : ∀ c, s.alive c = true → t.alive c = true)
    (hpending : t.pendingRequests = s.pendingRequests) (hlog : t.log = s.log)
    (hdeliveries : t.deliveries = s.deliveries) (hbroadcasts : t.broadcasts = s.broadcasts) :
    UsesLiveConnections t where
  pending u c hu := halive c (h.pending u c (hpending ▸ hu))
  delivery d hd := halive _ (h.delivery d (hdeliveries ▸ hd))
  broadcast n c hc := halive c (h.broadcast n c (hbroadcasts ▸ hc))
  sent := hlog ▸ h.sent
  indicated := hlog ▸ h.indicated

theorem alive_update {s : State κ} {c : κ} {p : Pump} (hp : p ≠ .deleted) {c' : κ}
    {t : State κ} (ht : t.pump = Function.update s.pump c (some p))
    (h : s.alive c' = true) : t.alive c' = true := by
  by_cases hc : c' = c
  · simp [State.alive, ht, hc, hp]
  · simpa [State.alive, ht, hc] using h

theorem live_deleteThis {s t : State κ} {c : κ} (h : UsesLiveConnections s)
    (hconserved : Conserved s) (hidle : DisconnectsIdle s (.deleteThis c))
    (hstep : step s (.deleteThis c) = some t) : UsesLiveConnections t := by
  simp only [step, Option.ite_none_right_eq_some, Option.some.injEq] at hstep
  obtain ⟨-, rfl⟩ := hstep
  obtain ⟨hanswered, hdelivery, hbroadcast⟩ := hidle
  have hother : ∀ c', c' ≠ c → s.alive c' = true →
      State.alive { s with pump := Function.update s.pump c (some .deleted) } c' = true := by
    intro c' hc' halive
    simpa [State.alive, hc'] using halive
  constructor
  case pending =>
    intro u c' hu
    have hreg : registrant s.log u = some c' := by
      have hpending := hconserved.pending u
      rw [show s.pendingRequests u = some (some c') from hu] at hpending
      cases hr : registrant s.log u <;> simp_all
    refine hother c' ?_ (h.pending u c' hu)
    rintro rfl
    exact hanswered u hreg
  case delivery =>
    intro d hd
    exact hother _ (hdelivery d hd) (h.delivery d hd)
  case broadcast =>
    intro n c' hc'
    refine hother c' ?_ (h.broadcast n c' hc')
    rintro rfl
    exact hbroadcast n hc'
  case sent => exact h.sent
  case indicated => exact h.indicated

theorem live_process {s t : State κ} {msg : UrilProtocolMsg} (h : UsesLiveConnections s)
    (hlisting : Listing s) (hstep : step s (.process msg) = some t) :
    UsesLiveConnections t := by
  simp only [step] at hstep
  split at hstep
  · simp only [Option.some.injEq] at hstep
    subst hstep
    refine ⟨h.pending, h.delivery, ?_, ?_, ?_⟩
    · intro n c hc
      by_cases hn : n = s.nextSerial
      · subst hn
        exact hlisting.alive (by simpa using hc)
      · exact h.broadcast n c (by simpa [hn] using hc)
    · intro n u c alive hmem
      exact h.sent n u c alive (by simpa using hmem)
    · intro n c alive hmem
      exact h.indicated n c alive (by simpa using hmem)
  · simp only [Option.some.injEq] at hstep
    subst hstep
    refine ⟨?_, ?_, h.broadcast, ?_, ?_⟩
    · intro u c hu
      rw [takeConnection_snd] at hu
      by_cases hid : u = msg.uniqueId
      · simp [PendingRequests.erase, hid] at hu
      · exact h.pending u c (by simpa [PendingRequests.erase, hid] using hu)
    · intro d hd
      rcases List.mem_append.mp hd with hd | hd
      · exact h.delivery d hd
      · rw [takeConnection_fst] at hd
        cases hentry : s.pendingRequests msg.uniqueId with
        | none => simp [hentry] at hd
        | some pointer =>
            cases pointer with
            | none => simp [hentry] at hd
            | some c =>
                simp only [hentry, Option.join_some, Option.map_some, Option.toList_some,
                  List.mem_singleton] at hd
                subst hd
                exact h.pending _ c hentry
    · intro n u c alive hmem
      exact h.sent n u c alive (by simpa using hmem)
    · intro n c alive hmem
      exact h.indicated n c alive (by simpa using hmem)

theorem live_step {s t : State κ} {a : Action κ} (h : UsesLiveConnections s)
    (hconserved : Conserved s) (hlisting : Listing s) (hidle : DisconnectsIdle s a)
    (hstep : step s a = some t) : UsesLiveConnections t := by
  cases a with
  | deleteThis c => exact live_deleteThis h hconserved hidle hstep
  | process msg => exact live_process h hlisting hstep
  | accept c | hangUp c | receiveError c =>
      simp only [step, Option.ite_none_right_eq_some, Option.some.injEq] at hstep
      obtain ⟨-, rfl⟩ := hstep
      exact live_frame h (fun _ => alive_update (by decide) rfl) rfl rfl rfl rfl
  | receive c msg =>
      simp only [step, Option.ite_none_right_eq_some, Option.some.injEq] at hstep
      obtain ⟨hrunning, rfl⟩ := hstep
      refine ⟨?_, h.delivery, h.broadcast, ?_, ?_⟩
      · intro u c' hu
        by_cases hid : u = msg.uniqueId
        · have hc : c' = c := by
            simpa [trackAndDispatchRequest, PendingRequests.assign, hid, eq_comm] using hu
          subst hc
          exact alive_of_running hrunning
        · refine h.pending u c' ?_
          simpa [trackAndDispatchRequest, PendingRequests.assign, hid] using hu
      · intro n u c' alive hmem
        exact h.sent n u c' alive (by simpa using hmem)
      · intro n c' alive hmem
        exact h.indicated n c' alive (by simpa using hmem)
  | send d ok =>
      simp only [step, Option.ite_none_right_eq_some, Option.some.injEq] at hstep
      obtain ⟨hd, rfl⟩ := hstep
      refine ⟨h.pending, fun d' hd' => h.delivery d' (List.mem_of_mem_erase hd'),
        h.broadcast, ?_, ?_⟩
      · intro n u c alive hmem
        rcases List.mem_cons.mp hmem with heq | hmem
        · cases heq
          exact h.delivery d hd
        · exact h.sent n u c alive hmem
      · intro n c alive hmem
        exact h.indicated n c alive (by simpa using hmem)
  | sendIndication n ok =>
      simp only [step] at hstep
      split at hstep
      · rename_i c rest hrest
        simp only [Option.some.injEq] at hstep
        subst hstep
        have hlive := h.broadcast n
        rw [hrest] at hlive
        refine ⟨h.pending, h.delivery, ?_, ?_, ?_⟩
        · intro n' c' hc'
          by_cases hn : n' = n
          · subst hn
            exact hlive c' (List.mem_cons_of_mem _ (by simpa using hc'))
          · exact h.broadcast n' c' (by simpa [hn] using hc')
        · intro n' u c' alive hmem
          exact h.sent n' u c' alive (by simpa using hmem)
        · intro n' c' alive hmem
          rcases List.mem_cons.mp hmem with heq | hmem
          · cases heq
            exact hlive c List.mem_cons_self
          · exact h.indicated n' c' alive hmem
      · cases hstep

/-- Along runs in which connections are deleted only when idle, the tracker
uses and keeps live connections only. -/
theorem uses_live_connections_of_idle {s : State κ}
    (hrun : Reaches step DisconnectsIdle (State.initial : State κ) s) :
    UsesLiveConnections s := by
  have hall : Conserved s ∧ Listing s ∧ UsesLiveConnections s := by
    refine hrun.invariant (fun s => Conserved s ∧ Listing s ∧ UsesLiveConnections s)
      ⟨conserved_initial, listing_initial, ?_⟩ ?_
    · constructor <;> simp [State.initial, PendingRequests.empty]
    · rintro t a u ⟨hconserved, hlisting, h⟩ hidle hstep
      exact ⟨conserved_step hconserved hstep, listing_step hlisting hstep,
        live_step h hconserved hlisting hidle hstep⟩
  exact hall.2.2

/-- A client that waits for its answer before it leaves. -/
theorem uses_live_connections_of_idle_sample :
    ∃ s : State Nat, s.pump 1 = some .deleted ∧ s.log = [.sent 0 7 1 true,
        .answered 0 7 (some 1), .received 1 7] ∧ UsesLiveConnections s := by
  have hsent :=
    @reaches_of_exec _ _ (@step Nat _) DisconnectsIdle
      (fun _ a => match a with | .deleteThis _ => false | _ => true)
      (fun _ a h => by cases a <;> simp_all [DisconnectsIdle])
      [.accept 1, .receive 1 { UrilProtocolMsg.zeroed with uniqueId := 7 },
        .process { UrilProtocolMsg.zeroed with uniqueId := 7 }, .send ⟨0, 7, 1⟩ true,
        .hangUp 1] State.initial _ rfl
  refine ⟨_, ?_, ?_, uses_live_connections_of_idle (hsent.tail (.deleteThis 1) ?_ rfl)⟩
  · rfl
  · rfl
  · refine ⟨fun u => ?_, ?_, ?_⟩
    · change registrant [.sent 0 7 1 true, .answered 0 7 (some 1), .received 1 7] u ≠ some 1
      simp only [registrant]
      split <;> simp
    · change ∀ d ∈ ([] : List (Delivery Nat)), d.connection ≠ 1
      simp
    · intro n
      change 1 ∉ ([] : List Nat)
      simp

/-- A client leaves while its request is unanswered: the entry keeps pointing
to the deleted connection, and the late answer is sent through it. -/
theorem late_answer_uses_deleted_connection :
    ¬ ∀ s : State Nat, Reaches step anyAction State.initial s →
      UsesLiveConnections s := by
  intro hlive
  obtain ⟨s, hrun, hlog⟩ := exists_run (@step Nat _) State.initial
    [.accept 1, .receive 1 { UrilProtocolMsg.zeroed with uniqueId := 7 }, .hangUp 1,
      .deleteThis 1, .process { UrilProtocolMsg.zeroed with uniqueId := 7 },
      .send ⟨0, 7, 1⟩ true]
    (fun s => s.log = [.sent 0 7 1 false, .answered 0 7 (some 1), .received 1 7]) (by decide)
  have hused := (hlive s hrun).sent 0 7 1 false (by simp [of_decide_eq_true hlog])
  cases hused

end UnifiedRil.ConnectionLiveness

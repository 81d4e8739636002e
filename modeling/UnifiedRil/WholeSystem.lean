import Mathlib.Data.List.Perm.Basic
import UnifiedRil.ClientDispatch
import UnifiedRil.RequestHolders

/-!
Any number of client processes, the service and the vendor, composed of the
transition systems of the client and of the service. A connection keeps the
order of the requests; responses may overtake each other on their way back,
since `processResponse` sends after it released the lock of the map. Indications
go to any of the connections.

The clients assume that an id is answered at most once and only after it was
sent. Here this is what the service guarantees.
-/

namespace UnifiedRil.WholeSystem

open UnifiedRil.Library.Runs
open UnifiedRil.Protocol
open UnifiedRil.Messages
open UnifiedRil.MessageTracker
open UnifiedRil.Client
open UnifiedRil.ClientDispatch
open UnifiedRil.Ril
open UnifiedRil.RilAdapter
open UnifiedRil.RequestProcessors
open UnifiedRil.RequestHolders

variable {κ φ δ : Type} [DecidableEq κ]

structure State (κ φ δ : Type) where
  clients : κ → ClientRuns.State φ δ
  toService : κ → List UrilProtocolMsg
  service : OrphanRequests.State κ
  /-- the responses and indications on their way to a client -/
  toClient : κ → List UrilProtocolMsg
  /-- what the calls of a client have sent -/
  requests : κ → List (Nat × UrilProtocolMsg)

/-- The clients have initialized the library, and nothing is sent yet. -/
def State.initial (indCb defaultRespCb : κ → Option φ) : State κ φ δ :=
  { clients := fun j => ClientDispatch.State.ready (indCb j) (defaultRespCb j)
    toService := fun _ => [], service := .initial, toClient := fun _ => []
    requests := fun _ => [] }

inductive Action (κ φ δ : Type)
  | client (j : κ) (a : ClientRuns.Action φ δ)
  | send (j : κ) (k : Nat) (request : UrilProtocolMsg)
  | track (j : κ)
  | service (a : OrphanRequests.Action κ)
  /-- an unsolicited response is broadcast -/
  | unsolicited (event : RilUnsol) (connections : List κ)
  | deliver (j : κ) (i : Nat)

/-- The step touches neither channel. -/
def isLocal : ClientRuns.Action φ δ → Bool
  | .send _ ok => !ok
  | .receive _ => false
  | _ => true

/-- Requests come in through a channel. -/
def isTrack : OrphanRequests.Action κ → Bool
  | .track _ _ => true
  | _ => false

/-- What a step of the service sent to a connection. -/
def sentTo (j : κ) (s t : OrphanRequests.State κ) : List UrilProtocolMsg :=
  ((t.sent.take (t.sent.length - s.sent.length)).filter (·.1 = j)).map (·.2)

/-- The message is the one that the call fills in and is about to send. -/
def isRequestOf (s : ClientRuns.State φ δ) (k : Nat) (request : UrilProtocolMsg) : Bool :=
  match s.calls k with
  | some ⟨_, _, .holding .filled u _⟩ => request.uniqueId == u && request.isIndication == 0
  | _ => false

def step (s : State κ φ δ) : Action κ φ δ → Option (State κ φ δ)
  | .client j a =>
      if isLocal a then
        (ClientRuns.step (s.clients j) a).map fun client =>
          { s with clients := Function.update s.clients j client }
      else none
  | .send j k request =>
      if isRequestOf (s.clients j) k request then
        (ClientRuns.step (s.clients j) (.send k true)).map fun client =>
          { s with
            clients := Function.update s.clients j client
            toService := Function.update s.toService j (s.toService j ++ [request])
            requests := Function.update s.requests j ((k, request) :: s.requests j) }
      else none
  | .track j =>
      match s.toService j with
      | request :: rest =>
          (OrphanRequests.step s.service (.track j request)).map fun service =>
            { s with
              service := service
              toService := Function.update s.toService j rest }
      | [] => none
  | .service a =>
      if isTrack a then none
      else
        (OrphanRequests.step s.service a).map fun service =>
          { s with
            service := service
            toClient := fun j => s.toClient j ++ sentTo j s.service service }
  | .unsolicited event connections =>
      some { s with
        toClient := fun j =>
          if j ∈ connections then s.toClient j ++ [handleRilUnsolicitedResponse event]
          else s.toClient j }
  | .deliver j i =>
      match (s.toClient j)[i]? with
      | some msg =>
          (ClientRuns.step (s.clients j) (.receive msg)).map fun client =>
            { s with
              clients := Function.update s.clients j client
              toClient := Function.update s.toClient j ((s.toClient j).eraseIdx i) }
      | none => none

/-- No client releases or initializes the library again, or allocates 2^32 ids;
the requests are supported, and tracked only while no other one has their id;
the vendor's answers are sound, and the radio threads read the ids of their
requests. -/
def Orderly (s : State κ φ δ) : Action κ φ δ → Prop
  | .client j a => AnswersOnce (s.clients j) a
  | .send _ _ request => Supported request
  | .track j => ∀ request rest, s.toService j = request :: rest →
      s.service.pendingRequests request.uniqueId = none
  | .service a => Sound s.service a
  | _ => True

/-- The message is the response to the id. -/
def isResponseTo (u : UInt32) (msg : UrilProtocolMsg) : Bool :=
  msg.isIndication == 0 && msg.uniqueId == u

/-- Where the answer to an id of a client is to come from: a request that is not
tracked yet, an entry of the map, or a response. -/
def onTheWay (s : State κ φ δ) (j : κ) (u : UInt32) : Nat :=
  (s.toService j).countP (·.uniqueId == u) +
    (if s.service.pendingRequests u = some (some j) then 1 else 0) +
    (s.toClient j).countP (isResponseTo u)

def answered (s : State κ φ δ) (j : κ) (u : UInt32) : Nat :=
  (s.clients j).responses.countP (·.msg.uniqueId == u)

def requested (s : State κ φ δ) (j : κ) (u : UInt32) : Nat :=
  (s.requests j).countP (·.2.uniqueId == u)

section Clients

open UnifiedRil.ClientRuns (Call Phase callsStep_of_step responses_step step_indication
  step_response)

variable {s t : ClientRuns.State φ δ}

theorem sent_congr (hcalls : t.calls = s.calls) (k : Nat) (u : UInt32) :
    Sent t k u ↔ Sent s k u := by
  rw [Sent, hcalls, Sent]

theorem sent_setPhase {k : Nat} {c : Call φ δ} {phase : Phase} (hc : s.calls k = some c)
    (hopen : c.phase.isFinal = false)
    (hcalls : t.calls = (s.setPhase k c phase).calls) (k' : Nat) (u : UInt32) :
    Sent t k' u ↔ Sent s k' u ∨ k' = k ∧ ∃ i, phase = .holding .sent u i := by
  rw [sent_congr hcalls]
  obtain rfl | hk := eq_or_ne k' k
  · constructor
    · rintro ⟨c', i, hc', hphase⟩
      simp only [ClientRuns.State.setPhase, Function.update_self, Option.some.injEq] at hc'
      subst hc'
      exact .inr ⟨rfl, i, hphase⟩
    · rintro (⟨c', i, hc', hphase⟩ | ⟨-, i, hphase⟩)
      · obtain rfl : c' = c := Option.some.inj (hc'.symm.trans hc)
        rw [hphase] at hopen
        cases hopen
      · exact ⟨_, i, Function.update_self .., hphase⟩
  · simp [Sent, ClientRuns.State.setPhase, hk]

theorem sent_begin (hfresh : s.calls s.nextCall = none) {cb : Option φ} {data : Option δ}
    (hcalls : t.calls = Function.update s.calls s.nextCall (some ⟨cb, data, .begun⟩))
    (k : Nat) (u : UInt32) : Sent t k u ↔ Sent s k u := by
  obtain rfl | hk := eq_or_ne k s.nextCall
  · simp [Sent, hcalls, hfresh]
  · simp [Sent, hcalls, hk]

theorem sent_step {a : ClientRuns.Action φ δ} (hfresh : s.calls s.nextCall = none)
    (hstep : ClientRuns.step s a = some t) (k : Nat) (u : UInt32) :
    Sent t k u ↔ Sent s k u ∨
      a = .send k true ∧ ∃ c i, s.calls k = some c ∧ c.phase = .holding .filled u i := by
  cases callsStep_of_step hstep with
  | same hnot hsend hcalls =>
      rw [sent_congr hcalls, iff_self_or]
      rintro ⟨ha, -⟩
      exact absurd ha (hsend k true)
  | begun hndl cb data ha hcalls =>
      rw [sent_begin hfresh hcalls, iff_self_or]
      rintro ⟨ha', -⟩
      cases ha.symm.trans ha'
  | moved k' c phase hnot hc hmoves hsend hcalls =>
      rw [sent_setPhase hc hmoves.isFinal_eq_false hcalls]
      refine or_congr_right ⟨?_, ?_⟩
      · rintro ⟨rfl, hphase⟩
        obtain ⟨ha, i, hfilled⟩ := (hmoves.sent_iff u).mp hphase
        exact ⟨ha, c, i, hc, hfilled⟩
      · rintro ⟨ha, c', i, hc', hfilled⟩
        obtain rfl := hsend k true ha
        obtain rfl := Option.some.inj (hc'.symm.trans hc)
        exact ⟨rfl, (hmoves.sent_iff u).mpr ⟨ha, i, hfilled⟩⟩

theorem responses_of_local {a : ClientRuns.Action φ δ} (hlocal : isLocal a = true)
    (hstep : ClientRuns.step s a = some t) : t.responses = s.responses := by
  refine responses_step hstep ?_
  rintro msg rfl
  cases hlocal

theorem sent_of_local {a : ClientRuns.Action φ δ} (hfresh : s.calls s.nextCall = none)
    (hlocal : isLocal a = true) (hstep : ClientRuns.step s a = some t) (k : Nat) (u : UInt32) :
    Sent t k u ↔ Sent s k u := by
  rw [sent_step hfresh hstep, or_iff_left]
  rintro ⟨rfl, -⟩
  cases hlocal

theorem isRequestOf_iff {k : Nat} {request : UrilProtocolMsg} :
    isRequestOf s k request = true ↔
      request.isIndication = 0 ∧
        ∃ c i, s.calls k = some c ∧ c.phase = .holding .filled request.uniqueId i := by
  unfold isRequestOf
  constructor
  · intro h
    split at h
    · rename_i cb data u i hc
      simp only [Bool.and_eq_true, beq_iff_eq] at h
      exact ⟨h.2, _, i, hc, by rw [h.1]⟩
    · cases h
  · rintro ⟨hind, ⟨cb, data, phase⟩, i, hc, rfl⟩
    simp [hc, hind]

end Clients

/-- What holds in every state of an orderly run. -/
structure Whole (indCb defaultRespCb : κ → Option φ) (s : State κ φ δ) : Prop where
  clients : ∀ j, Reaches ClientRuns.step AnswersOnce
    (ClientDispatch.State.ready (indCb j) (defaultRespCb j)) (s.clients j)
  kept : Kept s.service
  served : OrphanRequests.Inv s.service
  owned : Owned (fun j request => ∃ k, (k, request) ∈ s.requests j) s.service
  sent : ∀ j k u, Sent (s.clients j) k u ↔
    ∃ request, (k, request) ∈ s.requests j ∧ request.uniqueId = u
  queued : ∀ j, ∀ request ∈ s.toService j,
    Supported request ∧ ∃ k, (k, request) ∈ s.requests j
  arriving : ∀ j, ∀ msg ∈ s.toClient j, msg.isIndication = 0 →
    ∃ k request, (k, request) ∈ s.requests j ∧ Answers request msg
  responses : ∀ j, ∀ r ∈ (s.clients j).responses, ∃ k request,
    (k, request) ∈ s.requests j ∧ r.owner = some k ∧ Answers request r.msg
  distinct : ∀ j, ((s.requests j).map (·.2.uniqueId)).Nodup
  conserved : ∀ j u, onTheWay s j u + answered s j u = requested s j u

theorem whole_initial (indCb defaultRespCb : κ → Option φ) :
    Whole indCb defaultRespCb (State.initial indCb defaultRespCb : State κ φ δ) := by
  refine ⟨fun j => .refl, kept_initial, OrphanRequests.inv_initial, owned_initial _, ?_, ?_, ?_,
    ?_, ?_, ?_⟩
  · simp [State.initial, ClientDispatch.State.ready, ClientRuns.State.initial, Sent]
  · simp [State.initial]
  · simp [State.initial]
  · simp [State.initial, ClientDispatch.State.ready, ClientRuns.State.initial]
  · simp [State.initial]
  · intro j u
    rfl

section Steps

variable {indCb defaultRespCb : κ → Option φ} {s : State κ φ δ}

theorem Whole.dispatching (h : Whole indCb defaultRespCb s) (j : κ) :
    Dispatching (defaultRespCb j) (s.clients j) :=
  dispatching_reached (h.clients j)

theorem Whole.fresh (h : Whole indCb defaultRespCb s) (j : κ) :
    (s.clients j).calls (s.clients j).nextCall = none :=
  (h.dispatching j).numbered.fresh _ le_rfl

theorem clients_update (h : Whole indCb defaultRespCb s) {j : κ} {client : ClientRuns.State φ δ}
    {a : ClientRuns.Action φ δ} (hallowed : AnswersOnce (s.clients j) a)
    (hstep : ClientRuns.step (s.clients j) a = some client) (j' : κ) :
    Reaches ClientRuns.step AnswersOnce
      (ClientDispatch.State.ready (indCb j') (defaultRespCb j'))
      (Function.update s.clients j client j') := by
  obtain rfl | hj := eq_or_ne j' j
  · rw [Function.update_self]
    exact .tail a (h.clients j') hallowed hstep
  · rw [Function.update_of_ne hj]
    exact h.clients j'

theorem whole_client (h : Whole indCb defaultRespCb s) {j : κ} {client : ClientRuns.State φ δ}
    {a : ClientRuns.Action φ δ} (hlocal : isLocal a = true)
    (hallowed : AnswersOnce (s.clients j) a)
    (hstep : ClientRuns.step (s.clients j) a = some client) :
    Whole indCb defaultRespCb { s with clients := Function.update s.clients j client } := by
  have hresponses : ∀ j', (Function.update s.clients j client j').responses =
      (s.clients j').responses := by
    intro j'
    obtain rfl | hj := eq_or_ne j' j
    · rw [Function.update_self, responses_of_local hlocal hstep]
    · rw [Function.update_of_ne hj]
  refine ⟨clients_update h hallowed hstep, h.kept, h.served, h.owned, ?_, h.queued, h.arriving,
    ?_, h.distinct, ?_⟩
  · intro j' k u
    obtain rfl | hj := eq_or_ne j' j
    · simp only [Function.update_self, sent_of_local (h.fresh j') hlocal hstep]
      exact h.sent j' k u
    · simp only [Function.update_of_ne hj]
      exact h.sent j' k u
  · intro j' r hr
    rw [hresponses] at hr
    exact h.responses j' r hr
  · intro j' u
    have hconserved := h.conserved j' u
    rw [answered] at hconserved ⊢
    rwa [hresponses]

theorem Whole.unsent (h : Whole indCb defaultRespCb s) {j : κ} {k : Nat}
    {request : UrilProtocolMsg} (hrequest : isRequestOf (s.clients j) k request = true)
    {k' : Nat} {request' : UrilProtocolMsg} (hmem : (k', request') ∈ s.requests j) :
    request'.uniqueId ≠ request.uniqueId := by
  intro hid
  obtain ⟨-, c, i, hc, hphase⟩ := isRequestOf_iff.mp hrequest
  obtain ⟨c', i', hc', hphase'⟩ := (h.sent j k' request.uniqueId).mpr ⟨request', hmem, hid⟩
  obtain rfl := (h.dispatching j).numbered.distinct k k' c c' request.uniqueId hc hc'
    (by rw [hphase]; rfl) (by rw [hphase']; rfl)
  obtain rfl := Option.some.inj (hc.symm.trans hc')
  rw [hphase] at hphase'
  cases hphase'

theorem whole_send (h : Whole indCb defaultRespCb s) {j : κ} {client : ClientRuns.State φ δ}
    {k : Nat} {request : UrilProtocolMsg} (hsupported : Supported request)
    (hrequest : isRequestOf (s.clients j) k request = true)
    (hstep : ClientRuns.step (s.clients j) (.send k true) = some client) :
    Whole indCb defaultRespCb
      { s with
        clients := Function.update s.clients j client
        toService := Function.update s.toService j (s.toService j ++ [request])
        requests := Function.update s.requests j ((k, request) :: s.requests j) } := by
  have hmore : ∀ j' p, p ∈ s.requests j' →
      p ∈ Function.update s.requests j ((k, request) :: s.requests j) j' := by
    intro j' p hp
    obtain rfl | hj := eq_or_ne j' j
    · rw [Function.update_self]
      exact List.mem_cons_of_mem _ hp
    · rwa [Function.update_of_ne hj]
  have hresponses : ∀ j', (Function.update s.clients j client j').responses =
      (s.clients j').responses := by
    intro j'
    obtain rfl | hj := eq_or_ne j' j
    · obtain ⟨c, u, i, -, -, rfl⟩ := ClientRuns.step_send hstep
      rw [Function.update_self]
      rfl
    · rw [Function.update_of_ne hj]
  have hallowed : AnswersOnce (s.clients j) (.send k true) := trivial
  obtain ⟨-, c, i, hc, hphase⟩ := isRequestOf_iff.mp hrequest
  refine ⟨clients_update h hallowed hstep, h.kept, h.served, ?_, ?_, ?_, ?_, ?_, ?_, ?_⟩
  · exact h.owned.mono fun j' r ⟨k', hk'⟩ => ⟨k', hmore j' _ hk'⟩
  · intro j' k' u
    obtain rfl | hj := eq_or_ne j' j
    · simp only [Function.update_self]
      rw [sent_step (h.fresh j') hstep, h.sent j' k' u]
      constructor
      · rintro (⟨r, hr, hid⟩ | ⟨hk, c', i', hc', hphase'⟩)
        · exact ⟨r, List.mem_cons_of_mem _ hr, hid⟩
        · obtain rfl : k = k' := by simpa using hk
          obtain rfl := Option.some.inj (hc.symm.trans hc')
          rw [hphase, ClientRuns.Phase.holding.injEq] at hphase'
          exact ⟨request, List.mem_cons_self, hphase'.2.1⟩
      · rintro ⟨r, hr, rfl⟩
        rcases List.mem_cons.mp hr with heq | hr
        · cases heq
          exact .inr ⟨rfl, c, i, hc, hphase⟩
        · exact .inl ⟨r, hr, rfl⟩
    · simp only [Function.update_of_ne hj]
      exact h.sent j' k' u
  · intro j' r hr
    obtain rfl | hj := eq_or_ne j' j
    · simp only [Function.update_self, List.mem_append, List.mem_singleton] at hr ⊢
      rcases hr with hr | rfl
      · obtain ⟨hr, k', hk'⟩ := h.queued j' r hr
        exact ⟨hr, k', List.mem_cons_of_mem _ hk'⟩
      · exact ⟨hsupported, k, List.mem_cons_self⟩
    · simp only [Function.update_of_ne hj] at hr ⊢
      exact h.queued j' r hr
  · intro j' msg hmsg hind
    obtain ⟨k', r, hr, hanswers⟩ := h.arriving j' msg hmsg hind
    exact ⟨k', r, hmore j' _ hr, hanswers⟩
  · intro j' r hr
    rw [hresponses] at hr
    obtain ⟨k', r', hr', howner, hanswers⟩ := h.responses j' r hr
    exact ⟨k', r', hmore j' _ hr', howner, hanswers⟩
  · intro j'
    obtain rfl | hj := eq_or_ne j' j
    · simp only [Function.update_self, List.map_cons]
      refine List.nodup_cons.mpr ⟨fun hmem => ?_, h.distinct j'⟩
      obtain ⟨⟨k', r⟩, hr, hid⟩ := List.mem_map.mp hmem
      exact h.unsent hrequest hr hid
    · simp only [Function.update_of_ne hj]
      exact h.distinct j'
  · intro j' u
    have hconserved := h.conserved j' u
    simp only [onTheWay, answered, requested, hresponses] at hconserved ⊢
    obtain rfl | hj := eq_or_ne j' j
    · simp only [Function.update_self, List.countP_append, List.countP_cons, List.countP_nil]
      omega
    · simp only [Function.update_of_ne hj]
      exact hconserved

omit [DecidableEq κ] in
theorem served_of_sound {service : OrphanRequests.State κ} {a : OrphanRequests.Action κ}
    (h : Sound service a) : OrphanRequests.Served service a := by
  cases a with
  | track c request => exact h.1
  | answer submission answer u address =>
      intro entry hentry
      have hsound := h entry hentry
      simp only [AdapterRuns.isSound, Bool.and_eq_true, Bool.not_eq_true'] at hsound
      exact hsound.1
  | readIds i leftover =>
      intro thread hthread
      exact (h thread hthread).imp_right fun heq => by rw [heq]
  | dispatch c | ret c | followUp thread | radioMode i radioState => trivial

theorem whole_track (h : Whole indCb defaultRespCb s) {j : κ} {request : UrilProtocolMsg}
    {rest : List UrilProtocolMsg} {service : OrphanRequests.State κ}
    (hchannel : s.toService j = request :: rest)
    (hnew : s.service.pendingRequests request.uniqueId = none)
    (hstep : OrphanRequests.step s.service (.track j request) = some service) :
    Whole indCb defaultRespCb
      { s with service := service, toService := Function.update s.toService j rest } := by
  obtain ⟨hsupported, k, hk⟩ := h.queued j request (by rw [hchannel]; exact List.mem_cons_self)
  have hsound : Sound s.service (.track j request) := ⟨hsupported, hnew⟩
  obtain ⟨hkept, hmoves⟩ := step_moves h.kept hsound hstep
  have hserved := OrphanRequests.inv_step h.served (served_of_sound hsound) hstep
  have howned := owned_moves h.owned hsound hmoves (fun c r ha => by cases ha; exact ⟨k, hk⟩)
  have hpending : service.pendingRequests = s.service.pendingRequests.assign request.uniqueId j := by
    simp only [OrphanRequests.step, Option.ite_none_right_eq_some, Option.some.injEq] at hstep
    rw [← hstep.2]
  refine ⟨h.clients, hkept, hserved, howned, h.sent, ?_, h.arriving, h.responses, h.distinct, ?_⟩
  · intro j' r hr
    obtain rfl | hj := eq_or_ne j' j
    · simp only [Function.update_self] at hr
      exact h.queued j' r (by rw [hchannel]; exact List.mem_cons_of_mem _ hr)
    · simp only [Function.update_of_ne hj] at hr
      exact h.queued j' r hr
  · intro j' u
    have hconserved := h.conserved j' u
    simp only [onTheWay, answered, requested, hpending, PendingRequests.assign] at hconserved ⊢
    obtain rfl | hu := eq_or_ne u request.uniqueId
    · obtain rfl | hj := eq_or_ne j' j
      · simp [hchannel, hnew] at hconserved ⊢
        omega
      · simpa [hj, hj.symm, hnew] using hconserved
    · obtain rfl | hj := eq_or_ne j' j
      · simpa [hchannel, hu, hu.symm] using hconserved
      · simpa [hj, hu] using hconserved

omit [DecidableEq κ] in
theorem sent_length {s t : OrphanRequests.State κ} (new : List (κ × UrilProtocolMsg))
    (h : t.sent = new ++ s.sent) : t.sent.take (t.sent.length - s.sent.length) = new := by
  have hlength : t.sent.length - s.sent.length = new.length := by
    rw [h, List.length_append]
    omega
  rw [hlength, h, List.take_left' rfl]

theorem sentTo_same {s t : OrphanRequests.State κ} (h : t.sent = s.sent) (j : κ) :
    sentTo j s t = [] := by
  rw [sentTo, sent_length [] h]
  rfl

theorem sentTo_one {s t : OrphanRequests.State κ} {c : κ} {rsp : UrilProtocolMsg}
    (h : t.sent = (c, rsp) :: s.sent) (j : κ) :
    sentTo j s t = if c = j then [rsp] else [] := by
  rw [sentTo, sent_length [(c, rsp)] h]
  by_cases hc : c = j <;> simp [hc]

theorem Answers.isResponseTo {request rsp : UrilProtocolMsg} (h : Answers request rsp)
    (u : UInt32) : isResponseTo u rsp = (request.uniqueId == u) := by
  simp [WholeSystem.isResponseTo, h.header.isIndication, h.header.uniqueId]

theorem whole_service (h : Whole indCb defaultRespCb s) {a : OrphanRequests.Action κ}
    {service : OrphanRequests.State κ} (htrack : isTrack a = false)
    (hsound : Sound s.service a) (hstep : OrphanRequests.step s.service a = some service) :
    Whole indCb defaultRespCb
      { s with
        service := service
        toClient := fun j => s.toClient j ++ sentTo j s.service service } := by
  obtain ⟨hkept, hmoves⟩ := step_moves h.kept hsound hstep
  have hserved := OrphanRequests.inv_step h.served (served_of_sound hsound) hstep
  have howned := owned_moves h.owned hsound hmoves (fun c r ha => by subst ha; cases htrack)
  cases hmoves with
  | tracked c request hidle => cases htrack
  | kept before hfollows hpending hsent =>
      have hnothing := sentTo_same hsent
      refine ⟨h.clients, hkept, hserved, howned, h.sent, h.queued, ?_, h.responses,
        h.distinct, ?_⟩
      · intro j msg hmsg
        simp only [hnothing, List.append_nil] at hmsg
        exact h.arriving j msg hmsg
      · intro j u
        have hconserved := h.conserved j u
        simp only [onTheWay, answered, requested, hpending, hnothing, List.append_nil]
          at hconserved ⊢
        exact hconserved
  | emitted gone before request rsp hgone hanswers hfollows hpending hsent =>
      obtain ⟨c, hc, k, hk⟩ := h.owned.pending gone request hgone
      have hone : ∀ j, sentTo j s.service service = if c = j then [rsp] else [] := by
        rw [hc] at hsent
        exact sentTo_one hsent
      refine ⟨h.clients, hkept, hserved, howned, h.sent, h.queued, ?_, h.responses,
        h.distinct, ?_⟩
      · intro j msg hmsg hind
        rcases List.mem_append.mp hmsg with hold | hnew
        · exact h.arriving j msg hold hind
        · rw [hone] at hnew
          split at hnew
          · rename_i hcj
            obtain rfl := List.mem_singleton.mp hnew
            exact ⟨k, request, hcj ▸ hk, hanswers⟩
          · cases hnew
      · intro j u
        have hconserved := h.conserved j u
        simp only [onTheWay, answered, requested, hpending, PendingRequests.erase, hone,
          List.countP_append] at hconserved ⊢
        obtain rfl | hu := eq_or_ne u request.uniqueId
        · obtain rfl | hj := eq_or_ne c j
          · simp [hc, Answers.isResponseTo hanswers] at hconserved ⊢
            omega
          · simpa [hc, hj] using hconserved
        · obtain rfl | hj := eq_or_ne c j
          · simpa [hu, hu.symm, Answers.isResponseTo hanswers] using hconserved
          · simpa [hj, hu] using hconserved

theorem whole_unsolicited (h : Whole indCb defaultRespCb s) (event : RilUnsol)
    (connections : List κ) :
    Whole indCb defaultRespCb
      { s with
        toClient := fun j =>
          if j ∈ connections then s.toClient j ++ [handleRilUnsolicitedResponse event]
          else s.toClient j } := by
  refine ⟨h.clients, h.kept, h.served, h.owned, h.sent, h.queued, ?_, h.responses,
    h.distinct, ?_⟩
  · intro j msg hmsg hind
    by_cases hj : j ∈ connections
    · simp only [if_pos hj] at hmsg
      rcases List.mem_append.mp hmsg with hold | hnew
      · exact h.arriving j msg hold hind
      · obtain rfl := List.mem_singleton.mp hnew
        cases hind
    · simp only [if_neg hj] at hmsg
      exact h.arriving j msg hmsg hind
  · intro j u
    have hnot : isResponseTo u (handleRilUnsolicitedResponse event) = false := rfl
    have hconserved := h.conserved j u
    by_cases hj : j ∈ connections
    · simp only [onTheWay, if_pos hj, List.countP_append, List.countP_singleton, hnot]
      exact hconserved
    · simp only [onTheWay, if_neg hj]
      exact hconserved

/-- A response that is on its way was asked for and not received before, which is
what the client relies on. -/
theorem answersOnce_deliver (h : Whole indCb defaultRespCb s) {j : κ} {msg : UrilProtocolMsg}
    (hmsg : msg ∈ s.toClient j) : AnswersOnce (s.clients j) (.receive msg) := by
  intro hind
  obtain ⟨k, request, hk, hanswers⟩ := h.arriving j msg hmsg hind
  refine ⟨⟨k, (h.sent j k _).mpr ⟨request, hk, hanswers.header.uniqueId.symm⟩⟩, ?_⟩
  rintro ⟨r, hr, hid⟩
  have hconserved := h.conserved j msg.uniqueId
  have harriving : 0 < (s.toClient j).countP (isResponseTo msg.uniqueId) :=
    List.countP_pos_iff.mpr ⟨msg, hmsg, by simp [isResponseTo, hind]⟩
  have hanswered : 0 < answered s j msg.uniqueId :=
    List.countP_pos_iff.mpr ⟨r, hr, beq_iff_eq.mpr hid⟩
  have honce : requested s j msg.uniqueId ≤ 1 := by
    have hcount := List.nodup_iff_count_le_one.mp (h.distinct j) msg.uniqueId
    rwa [List.count, List.countP_map] at hcount
  rw [onTheWay] at hconserved
  omega

theorem whole_deliver (h : Whole indCb defaultRespCb s) {j : κ} {i : Nat}
    {msg : UrilProtocolMsg} {client : ClientRuns.State φ δ} (hi : (s.toClient j)[i]? = some msg)
    (hstep : ClientRuns.step (s.clients j) (.receive msg) = some client) :
    Whole indCb defaultRespCb
      { s with
        clients := Function.update s.clients j client
        toClient := Function.update s.toClient j ((s.toClient j).eraseIdx i) } := by
  have hmsg := List.mem_of_getElem? hi
  have hallowed := answersOnce_deliver h hmsg
  have hcount : ∀ u, (s.toClient j).countP (isResponseTo u) =
      ((s.toClient j).eraseIdx i).countP (isResponseTo u) +
        if isResponseTo u msg then 1 else 0 := by
    intro u
    obtain ⟨hlt, rfl⟩ := List.getElem?_eq_some_iff.mp hi
    rw [← (List.getElem_cons_eraseIdx_perm hlt).countP_eq, List.countP_cons]
  have hsent : ∀ k u, Sent client k u ↔ Sent (s.clients j) k u := by
    intro k u
    rw [sent_step (h.fresh j) hstep]
    simp
  have hresponses : (∀ r ∈ client.responses, r ∈ (s.clients j).responses ∨
        ∃ k request, (k, request) ∈ s.requests j ∧ r.owner = some k ∧ Answers request r.msg) ∧
      ∀ u, client.responses.countP (·.msg.uniqueId == u) =
        (s.clients j).responses.countP (·.msg.uniqueId == u) +
          if isResponseTo u msg then 1 else 0 := by
    by_cases hind : msg.isIndication = 0
    · obtain ⟨k, request, hk, hanswers⟩ := h.arriving j msg hmsg hind
      have hsent : Sent (s.clients j) k msg.uniqueId :=
        (h.sent j k _).mpr ⟨request, hk, hanswers.header.uniqueId.symm⟩
      obtain ⟨c, i, hc, hphase, hholder, hwritten, hlookup⟩ :=
        lookup_sent (h.dispatching j) hsent (hallowed hind).2
      rcases ClientRuns.step_response hind hstep with ⟨i', hi', rfl⟩ | ⟨hnone, -⟩
      · obtain rfl := Option.some.inj (hlookup.symm.trans hi')
        refine ⟨fun r hr => ?_, fun u => ?_⟩
        · rcases List.mem_cons.mp hr with rfl | hr
          · exact .inr ⟨k, request, hk, hwritten.2.1, hanswers⟩
          · exact .inl hr
        · simp [isResponseTo, hind, List.countP_cons]
      · cases hlookup.symm.trans hnone
    · obtain rfl := ClientRuns.step_indication hind hstep
      exact ⟨fun r hr => .inl hr, fun u => by simp [isResponseTo, hind]⟩
  refine ⟨clients_update h hallowed hstep, h.kept, h.served, h.owned, ?_, h.queued, ?_, ?_,
    h.distinct, ?_⟩
  · intro j' k u
    obtain rfl | hj := eq_or_ne j' j
    · simp only [Function.update_self, hsent]
      exact h.sent j' k u
    · simp only [Function.update_of_ne hj]
      exact h.sent j' k u
  · intro j' msg' hmsg' hind
    obtain rfl | hj := eq_or_ne j' j
    · simp only [Function.update_self] at hmsg'
      exact h.arriving j' msg' (List.mem_of_mem_eraseIdx hmsg') hind
    · simp only [Function.update_of_ne hj] at hmsg'
      exact h.arriving j' msg' hmsg' hind
  · intro j' r hr
    obtain rfl | hj := eq_or_ne j' j
    · simp only [Function.update_self] at hr
      rcases hresponses.1 r hr with hold | hnew
      · exact h.responses j' r hold
      · exact hnew
    · simp only [Function.update_of_ne hj] at hr
      exact h.responses j' r hr
  · intro j' u
    have hconserved := h.conserved j' u
    simp only [onTheWay, answered, requested] at hconserved ⊢
    obtain rfl | hj := eq_or_ne j' j
    · simp only [Function.update_self]
      rw [hresponses.2 u]
      rw [hcount u] at hconserved
      omega
    · simp only [Function.update_of_ne hj]
      exact hconserved

theorem whole_step {t : State κ φ δ} {a : Action κ φ δ} (h : Whole indCb defaultRespCb s)
    (horderly : Orderly s a) (hstep : step s a = some t) : Whole indCb defaultRespCb t := by
  cases a with
  | client j a =>
      simp only [step, Option.ite_none_right_eq_some, Option.map_eq_some_iff] at hstep
      obtain ⟨hlocal, client, hclient, rfl⟩ := hstep
      exact whole_client h hlocal horderly hclient
  | send j k request =>
      simp only [step, Option.ite_none_right_eq_some, Option.map_eq_some_iff] at hstep
      obtain ⟨hrequest, client, hclient, rfl⟩ := hstep
      exact whole_send h horderly hrequest hclient
  | track j =>
      simp only [step] at hstep
      split at hstep
      · rename_i request rest hchannel
        obtain ⟨service, hservice, rfl⟩ := Option.map_eq_some_iff.mp hstep
        exact whole_track h hchannel (horderly request rest hchannel) hservice
      · cases hstep
  | service a =>
      simp only [step, Option.ite_none_left_eq_some, Option.map_eq_some_iff] at hstep
      obtain ⟨htrack, service, hservice, rfl⟩ := hstep
      exact whole_service h (Bool.not_eq_true _ ▸ htrack) horderly hservice
  | unsolicited event connections =>
      obtain rfl := Option.some.inj hstep
      exact whole_unsolicited h event connections
  | deliver j i =>
      simp only [step] at hstep
      split at hstep
      · rename_i msg hi
        obtain ⟨client, hclient, rfl⟩ := Option.map_eq_some_iff.mp hstep
        exact whole_deliver h hi hclient
      · cases hstep

theorem whole_reached (hrun : Reaches step Orderly (State.initial indCb defaultRespCb) s) :
    Whole indCb defaultRespCb s :=
  hrun.invariant (Whole indCb defaultRespCb) (whole_initial indCb defaultRespCb)
    fun _ _ _ => whole_step

theorem Whole.requested_eq (h : Whole indCb defaultRespCb s) (j : κ) (u : UInt32) :
    ((∃ k, Sent (s.clients j) k u) → requested s j u = 1) ∧
      ((∀ k, ¬ Sent (s.clients j) k u) → requested s j u = 0) := by
  constructor
  · rintro ⟨k, hk⟩
    obtain ⟨request, hmem, hid⟩ := (h.sent j k u).mp hk
    have hpos : 0 < requested s j u :=
      List.countP_pos_iff.mpr ⟨(k, request), hmem, beq_iff_eq.mpr hid⟩
    have honce := List.nodup_iff_count_le_one.mp (h.distinct j) u
    rw [List.count, List.countP_map] at honce
    exact le_antisymm honce hpos
  · intro hnone
    refine List.countP_eq_zero.mpr ?_
    rintro ⟨k, request⟩ hmem hid
    exact hnone k ((h.sent j k u).mpr ⟨request, hmem, beq_iff_eq.mp hid⟩)

end Steps

/-- `Sound` as a test. -/
def soundTest (s : OrphanRequests.State κ) : OrphanRequests.Action κ → Bool
  | .track _ request => decide (Supported request) && (s.pendingRequests request.uniqueId).isNone
  | .answer submission answer _ _ =>
      (s.adapter.contexts submission.1).all fun entry =>
        AdapterRuns.isSound entry.ctx.rilReqId answer
  | .readIds i _ => (s.radioThreads[i]?).all (·.frame)
  | _ => true

omit [DecidableEq κ] in
theorem soundTest_sound (s : OrphanRequests.State κ) (a : OrphanRequests.Action κ)
    (h : soundTest s a = true) : Sound s a := by
  cases a with
  | track c request => simpa [soundTest, Sound] using h
  | answer submission answer u address =>
      intro entry hentry
      rw [soundTest, hentry] at h
      exact h
  | readIds i leftover =>
      intro thread hthread
      rw [soundTest, hthread] at h
      exact .inl h
  | dispatch c | ret c | followUp thread | radioMode i radioState => trivial

/-- `Orderly` as a test. -/
def orderlyTest (s : State κ φ δ) : Action κ φ δ → Bool
  | .client j a => answersOnce (s.clients j) a
  | .send _ _ request => decide (Supported request)
  | .track j => (s.toService j).head?.all fun request =>
      (s.service.pendingRequests request.uniqueId).isNone
  | .service a => soundTest s.service a
  | _ => true

omit [DecidableEq κ] in
theorem orderlyTest_sound (s : State κ φ δ) (a : Action κ φ δ) (h : orderlyTest s a = true) :
    Orderly s a := by
  cases a with
  | client j a => exact answersOnce_sound _ _ h
  | send j k request =>
      have hsupported : Supported request := of_decide_eq_true h
      exact hsupported
  | track j =>
      intro request rest hchannel
      simpa [orderlyTest, hchannel] using h
  | service a => exact soundTest_sound _ _ h
  | unsolicited event connections | deliver j i => trivial

/-- The steps of a call of client `j` up to its sending. -/
def callSteps (j : κ) (k : Nat) (cb : Option φ) (data : Option δ) : List (Action κ φ δ) :=
  [.client j (.begin 1 cb data), .client j (.allocateId k), .client j (.acquireSlot k),
    .client j (.fill k), .client j (.fill k), .client j (.fill k)]

/-- Two clients use the id 1 one after the other, while an event is broadcast. -/
def sampleActions : List (Action Nat Nat Nat) :=
  callSteps 1 0 (some 5) (some 7) ++ callSteps 2 0 none none ++
    [.send 1 0 (OrphanRequests.emptyRequest MsgId.radioGetRadioMode 1), .track 1,
      .service (.dispatch 1), .send 2 0 (OrphanRequests.emptyRequest MsgId.radioGetRadioMode 1),
      .service (.readIds 0 (0, 0)), .service (.ret 1), .service (.radioMode 0 .on), .track 2,
      .unsolicited .signalStrength [1, 2], .deliver 1 0, .deliver 1 0, .service (.dispatch 2),
      .service (.readIds 0 (0, 0)), .service (.radioMode 0 .off), .deliver 2 1]

/-- The answered ids of a client, by the calls they belong to. -/
def sampleResponses (s : State Nat Nat Nat) (j : Nat) :
    List (UInt32 × Option Nat × Option (Nat × Option Nat)) :=
  (s.clients j).responses.map fun r => (r.msg.uniqueId, r.owner, r.upcall.map Upcall.target)

theorem sample_run :
    ∃ s : State Nat Nat Nat,
      Reaches step Orderly (State.initial (fun _ => some 3) fun _ => some 9) s ∧
      sampleResponses s 1 = [(1, some 0, some (5, some 7))] ∧
      sampleResponses s 2 = [(1, some 0, some (9, none))] := by
  obtain ⟨s, hrun, hresponses⟩ := exists_reaches_of_exec step orderlyTest orderlyTest_sound
    (State.initial (fun _ => some 3) fun _ => some 9) sampleActions
    (fun s => sampleResponses s 1 = [(1, some 0, some (5, some 7))] ∧
      sampleResponses s 2 = [(1, some 0, some (9, none))])
    (by rfl)
  exact ⟨s, hrun, of_decide_eq_true hresponses⟩

end UnifiedRil.WholeSystem

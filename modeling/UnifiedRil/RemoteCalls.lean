import UnifiedRil.Library.Calls
import UnifiedRil.Quiescence

namespace UnifiedRil.RemoteCalls

open UnifiedRil.Library
open UnifiedRil.Library.Runs
open UnifiedRil.Protocol
open UnifiedRil.Messages
open UnifiedRil.RequestProcessors
open UnifiedRil.RequestHolders (Answers Sound Holds)
open UnifiedRil.ClientDispatch (AnswersOnce)
open UnifiedRil.WholeSystem
open UnifiedRil.Quiescence

variable {κ φ δ : Type} [DecidableEq κ]

/-- As in an orderly run, but for what is said of the requests that are tracked:
instead, every id belongs to one client, which alone sends it. -/
def IdsApart (clientOf : UInt32 → κ) (s : State κ φ δ) : Action κ φ δ → Prop
  | .client j a => AnswersOnce (s.clients j) a
  | .send j _ request => Supported request ∧ clientOf request.uniqueId = j
  | .service a => Sound s.service a
  | _ => True

/-- The ids that were sent. -/
def SentApart (clientOf : UInt32 → κ) (s : State κ φ δ) : Prop :=
  ∀ j, ∀ p ∈ s.requests j, clientOf p.2.uniqueId = j

section Ids

variable {indCb defaultRespCb : κ → Option φ} {clientOf : UInt32 → κ} {s t : State κ φ δ}

theorem pending_none (h : Whole indCb defaultRespCb s) (hapart : SentApart clientOf s) {j : κ}
    {request : UrilProtocolMsg} {rest : List UrilProtocolMsg}
    (hchannel : s.toService j = request :: rest) :
    s.service.pendingRequests request.uniqueId = none := by
  by_contra hpending
  obtain ⟨k, hk⟩ := (h.queued j request (by rw [hchannel]; exact List.mem_cons_self)).2
  obtain ⟨holder, r, hr, hid⟩ : ∃ holder r, Holds s.service holder r ∧
      r.uniqueId = request.uniqueId := by
    rcases h.served.held _ hpending with ⟨token, entry, hentry, hid⟩ | ⟨thread, hmem, hid⟩ |
      ⟨c, r, hcall, hid⟩
    · exact ⟨_, _, .context hentry, hid⟩
    · obtain ⟨i, hi⟩ := List.mem_iff_getElem?.mp hmem
      exact ⟨_, _, .thread hi, hid⟩
    · exact ⟨_, _, .call hcall, hid⟩
  obtain ⟨c, hc, k', hk'⟩ := h.owned.pending holder r hr
  obtain rfl : c = j := by rw [← hapart c _ hk', ← hapart j _ hk, hid]
  rw [hid] at hc
  -- the id is in the channel and in the map, but was sent once
  have hconserved := h.conserved c request.uniqueId
  have honce : requested s c request.uniqueId ≤ 1 := by
    have hcount := List.nodup_iff_count_le_one.mp (h.distinct c) request.uniqueId
    rwa [List.count, List.countP_map] at hcount
  rw [onTheWay, if_pos hc, hchannel] at hconserved
  simp only [List.countP_cons, beq_self_eq_true, if_true] at hconserved
  omega

omit [DecidableEq κ] in
theorem sentApart_initial :
    SentApart clientOf (State.initial indCb defaultRespCb : State κ φ δ) := by
  intro j p hp
  cases hp

theorem orderly_of_apart (h : Whole indCb defaultRespCb s) (hapart : SentApart clientOf s)
    {a : Action κ φ δ} (hallowed : IdsApart clientOf s a) : Orderly s a := by
  cases a with
  | client j a => exact hallowed
  | send j k request => exact hallowed.1
  | track j => exact fun request rest hchannel => pending_none h hapart hchannel
  | service a => exact hallowed
  | unsolicited event connections => trivial
  | deliver j i => trivial

theorem sentApart_step (hapart : SentApart clientOf s) {a : Action κ φ δ}
    (hallowed : IdsApart clientOf s a) (hstep : step s a = some t) : SentApart clientOf t := by
  cases a with
  | client j a =>
      simp only [step, Option.ite_none_right_eq_some, Option.map_eq_some_iff] at hstep
      obtain ⟨-, client, -, rfl⟩ := hstep
      exact hapart
  | send j k request =>
      simp only [step, Option.ite_none_right_eq_some, Option.map_eq_some_iff] at hstep
      obtain ⟨-, client, -, rfl⟩ := hstep
      intro j' p hp
      obtain rfl | hj := eq_or_ne j' j
      · simp only [Function.update_self, List.mem_cons] at hp
        rcases hp with rfl | hp
        · exact hallowed.2
        · exact hapart j' p hp
      · simp only [Function.update_of_ne hj] at hp
        exact hapart j' p hp
  | track j =>
      simp only [step] at hstep
      split at hstep
      · obtain ⟨service, -, rfl⟩ := Option.map_eq_some_iff.mp hstep
        exact hapart
      · cases hstep
  | service a =>
      simp only [step, Option.ite_none_left_eq_some, Option.map_eq_some_iff] at hstep
      obtain ⟨-, service, -, rfl⟩ := hstep
      exact hapart
  | unsolicited event connections =>
      obtain rfl := Option.some.inj hstep
      exact hapart
  | deliver j i =>
      simp only [step] at hstep
      split at hstep
      · obtain ⟨client, -, rfl⟩ := Option.map_eq_some_iff.mp hstep
        exact hapart
      · cases hstep

/-- What every state of such a run is. -/
theorem apart_reached
    (hrun : Reaches step (IdsApart clientOf) (State.initial indCb defaultRespCb) s) :
    Whole indCb defaultRespCb s ∧ SentApart clientOf s := by
  refine hrun.invariant (fun s => Whole indCb defaultRespCb s ∧ SentApart clientOf s)
    ⟨whole_initial indCb defaultRespCb, sentApart_initial⟩ ?_
  rintro t a u ⟨hwhole, hapart⟩ hallowed hstep
  have horderly := orderly_of_apart hwhole hapart hallowed
  exact ⟨whole_step hwhole horderly hstep, sentApart_step hapart hallowed hstep⟩

end Ids

/-- The calls that were replied to. -/
def repliesOf (responses : List (ClientRuns.Response φ δ)) : List (Nat × UrilProtocolMsg) :=
  responses.filterMap fun r => r.owner.map fun k => (k, r.msg)

def view (s : State κ φ δ) : Calls.State (κ × Nat) UrilProtocolMsg UrilProtocolMsg where
  asked i := (s.requests i.1).lookup i.2
  replied i := (repliesOf (s.clients i.1).responses).lookup i.2

theorem lookup_update {α : Type} {entries entries' : κ → List (Nat × α)} {j : κ} {k : Nat} {a : α}
    (h : entries' = Function.update entries j ((k, a) :: entries j)) :
    (fun i : κ × Nat => (entries' i.1).lookup i.2) =
      Function.update (fun i : κ × Nat => (entries i.1).lookup i.2) (j, k) (some a) := by
  funext ⟨j', k'⟩
  subst h
  obtain rfl | hj := eq_or_ne j' j
  · obtain rfl | hk := eq_or_ne k' k
    · simp
    · simp [hk, List.lookup_cons, beq_false_of_ne hk]
  · simp [hj]

theorem mem_of_lookup {α : Type} {entries : List (Nat × α)} {k : Nat} {a : α}
    (h : entries.lookup k = some a) : (k, a) ∈ entries := by
  obtain ⟨before, after, rfl, -⟩ := List.lookup_eq_some_iff.mp h
  exact List.mem_append_right _ List.mem_cons_self

section View

variable {indCb defaultRespCb : κ → Option φ} {s t : State κ φ δ}

theorem request_unique (h : Whole indCb defaultRespCb s) {j : κ} {k : Nat}
    {request request' : UrilProtocolMsg} (hmem : (k, request) ∈ s.requests j)
    (hmem' : (k, request') ∈ s.requests j) : request = request' := by
  obtain ⟨c, i, hc, hphase⟩ := (h.sent j k _).mpr ⟨request, hmem, rfl⟩
  obtain ⟨c', i', hc', hphase'⟩ := (h.sent j k _).mpr ⟨request', hmem', rfl⟩
  obtain rfl := Option.some.inj (hc.symm.trans hc')
  rw [hphase, ClientRuns.Phase.holding.injEq] at hphase'
  exact congrArg Prod.snd
    (List.inj_on_of_nodup_map (h.distinct j) hmem hmem' hphase'.2.1)

theorem asked_iff (h : Whole indCb defaultRespCb s) {j : κ} {k : Nat} {request : UrilProtocolMsg} :
    (view s).asked (j, k) = some request ↔ (k, request) ∈ s.requests j := by
  constructor
  · exact mem_of_lookup
  · intro hmem
    cases hasked : (view s).asked (j, k) with
    | none =>
        have hnot := List.lookup_eq_none_iff.mp hasked _ hmem
        simp at hnot
    | some request' => rw [request_unique h hmem (mem_of_lookup hasked)]

theorem mem_repliesOf {responses : List (ClientRuns.Response φ δ)} {k : Nat}
    {msg : UrilProtocolMsg} :
    (k, msg) ∈ repliesOf responses ↔ ∃ r ∈ responses, r.owner = some k ∧ r.msg = msg := by
  simp only [repliesOf, List.mem_filterMap, Option.map_eq_some_iff, Prod.mk.injEq]
  constructor
  · rintro ⟨r, hr, k', howner, rfl, hmsg⟩
    exact ⟨r, hr, howner, hmsg⟩
  · rintro ⟨r, hr, howner, hmsg⟩
    exact ⟨r, hr, k, howner, rfl, hmsg⟩

theorem replied_none (h : Whole indCb defaultRespCb s) {j : κ} {k : Nat}
    {request : UrilProtocolMsg} (hmem : (k, request) ∈ s.requests j)
    (hopen : ¬ ClientDispatch.Answered (s.clients j) request.uniqueId) :
    (view s).replied (j, k) = none := by
  by_contra hreplied
  obtain ⟨msg, hmsg⟩ := Option.ne_none_iff_exists'.mp hreplied
  obtain ⟨r, hr, howner, -⟩ := mem_repliesOf.mp (mem_of_lookup hmsg)
  obtain ⟨k', request', hmem', howner', hanswers⟩ := h.responses j r hr
  obtain rfl := Option.some.inj (howner.symm.trans howner')
  obtain rfl := request_unique h hmem hmem'
  exact hopen ⟨r, hr, hanswers.header.uniqueId⟩

theorem response_received (h : Whole indCb defaultRespCb s) {j : κ} {msg : UrilProtocolMsg}
    {client : ClientRuns.State φ δ} (hmsg : msg ∈ s.toClient j) (hind : msg.isIndication = 0)
    (hstep : ClientRuns.step (s.clients j) (.receive msg) = some client) :
    ∃ k request, (k, request) ∈ s.requests j ∧ Answers request msg ∧
      ¬ ClientDispatch.Answered (s.clients j) request.uniqueId ∧
      repliesOf client.responses = (k, msg) :: repliesOf (s.clients j).responses := by
  obtain ⟨k, request, hk, hanswers⟩ := h.arriving j msg hmsg hind
  have hid := hanswers.header.uniqueId
  have hopen := (answersOnce_deliver h hmsg hind).2
  have hsent := (h.sent j k _).mpr ⟨request, hk, hid.symm⟩
  obtain ⟨c, i, -, -, -, hwritten, hlookup⟩ :=
    ClientDispatch.lookup_sent (h.dispatching j) hsent hopen
  refine ⟨k, request, hk, hanswers, hid ▸ hopen, ?_⟩
  rcases ClientRuns.step_response hind hstep with ⟨i', hi', rfl⟩ | ⟨hnone, -⟩
  · obtain rfl := Option.some.inj (hlookup.symm.trans hi')
    simp [repliesOf, hwritten.2.1]
  · cases hlookup.symm.trans hnone

omit [DecidableEq κ] in
theorem view_congr (hrequests : t.requests = s.requests)
    (hresponses : ∀ j, repliesOf (t.clients j).responses = repliesOf (s.clients j).responses) :
    view t = view s := by
  simp only [view, hrequests, hresponses]

theorem responses_update {j : κ} {client : ClientRuns.State φ δ}
    (h : client.responses = (s.clients j).responses) (j' : κ) :
    repliesOf (Function.update s.clients j client j').responses =
      repliesOf (s.clients j').responses := by
  obtain rfl | hj := eq_or_ne j' j
  · rw [Function.update_self, h]
  · rw [Function.update_of_ne hj]

/-- The step is one of the calls, or nothing to them. -/
def Seen (s t : State κ φ δ) : Prop :=
  view t = view s ∨ ∃ b, Calls.Fitting Answers (view s) b ∧ Calls.step (view s) b = some (view t)

theorem seen_send (h : Whole indCb defaultRespCb s) {j : κ} {k : Nat} {request : UrilProtocolMsg}
    {client : ClientRuns.State φ δ} (hrequest : isRequestOf (s.clients j) k request = true)
    (hstep : ClientRuns.step (s.clients j) (.send k true) = some client) :
    Seen s { s with
      clients := Function.update s.clients j client
      toService := Function.update s.toService j (s.toService j ++ [request])
      requests := Function.update s.requests j ((k, request) :: s.requests j) } := by
  have hresponses : client.responses = (s.clients j).responses := by
    obtain ⟨c, u, i, -, -, rfl⟩ := ClientRuns.step_send hstep
    rfl
  have hnew : (view s).asked (j, k) = none := by
    by_contra hasked
    obtain ⟨request', hrequest'⟩ := Option.ne_none_iff_exists'.mp hasked
    have hmem := mem_of_lookup hrequest'
    obtain ⟨-, c, i, hc, hphase⟩ := isRequestOf_iff.mp hrequest
    obtain ⟨c', i', hc', hphase'⟩ := (h.sent j k _).mpr ⟨request', hmem, rfl⟩
    obtain rfl := Option.some.inj (hc.symm.trans hc')
    cases hphase.symm.trans hphase'
  refine .inr ⟨.ask (j, k) request, trivial, ?_⟩
  rw [Calls.step_ask hnew, Option.some.injEq]
  ext1
  · exact (lookup_update rfl).symm
  · funext i
    simp only [view, responses_update hresponses]

theorem seen_deliver (h : Whole indCb defaultRespCb s) {j : κ} {i : Nat} {msg : UrilProtocolMsg}
    {client : ClientRuns.State φ δ} (hi : (s.toClient j)[i]? = some msg)
    (hstep : ClientRuns.step (s.clients j) (.receive msg) = some client) :
    Seen s { s with
      clients := Function.update s.clients j client
      toClient := Function.update s.toClient j ((s.toClient j).eraseIdx i) } := by
  by_cases hind : msg.isIndication = 0
  · obtain ⟨k, request, hk, hanswers, hopen, hreplies⟩ :=
      response_received h (List.mem_of_getElem? hi) hind hstep
    have hasked : (view s).asked (j, k) = some request := (asked_iff h).mpr hk
    refine .inr ⟨.reply (j, k) msg, fun request' hrequest' => ?_, ?_⟩
    · obtain rfl := Option.some.inj (hasked.symm.trans hrequest')
      exact hanswers
    · rw [Calls.step_reply hasked (replied_none h hk hopen), Option.some.injEq]
      have hentries : (fun j' => repliesOf (Function.update s.clients j client j').responses) =
          Function.update (fun j' => repliesOf (s.clients j').responses) j
            ((k, msg) :: repliesOf (s.clients j).responses) := by
        funext j'
        obtain rfl | hj := eq_or_ne j' j
        · simp only [Function.update_self]
          exact hreplies
        · simp only [Function.update_of_ne hj]
      ext1
      · rfl
      · exact (lookup_update hentries).symm
  · obtain rfl := ClientRuns.step_indication hind hstep
    exact .inl (view_congr rfl (responses_update rfl))

theorem seen_step (h : Whole indCb defaultRespCb s) {a : Action κ φ δ}
    (hstep : step s a = some t) : Seen s t := by
  cases a with
  | client j a =>
      simp only [step, Option.ite_none_right_eq_some, Option.map_eq_some_iff] at hstep
      obtain ⟨hlocal, client, hclient, rfl⟩ := hstep
      exact .inl (view_congr rfl (responses_update (responses_of_local hlocal hclient)))
  | send j k request =>
      simp only [step, Option.ite_none_right_eq_some, Option.map_eq_some_iff] at hstep
      obtain ⟨hrequest, client, hclient, rfl⟩ := hstep
      exact seen_send h hrequest hclient
  | track j =>
      simp only [step] at hstep
      split at hstep
      · obtain ⟨service, -, rfl⟩ := Option.map_eq_some_iff.mp hstep
        exact .inl rfl
      · cases hstep
  | service a =>
      simp only [step, Option.ite_none_left_eq_some, Option.map_eq_some_iff] at hstep
      obtain ⟨-, service, -, rfl⟩ := hstep
      exact .inl rfl
  | unsolicited event connections =>
      obtain rfl := Option.some.inj hstep
      exact .inl rfl
  | deliver j i =>
      simp only [step] at hstep
      split at hstep
      · rename_i msg hi
        obtain ⟨client, hclient, rfl⟩ := Option.map_eq_some_iff.mp hstep
        exact seen_deliver h hi hclient
      · cases hstep

theorem response_at_rest (h : Whole indCb defaultRespCb s) (hquiet : Quiescent s) {j : κ} {k : Nat}
    {request : UrilProtocolMsg} (hmem : (k, request) ∈ s.requests j) :
    ∃ r ∈ (s.clients j).responses, r.owner = some k := by
  have hanswered := answered_of_quiescent h hquiet ((h.sent j k _).mpr ⟨request, hmem, rfl⟩)
  obtain ⟨r, hr, hid⟩ := List.countP_pos_iff.mp (hanswered ▸ Nat.one_pos)
  obtain ⟨k', request', hmem', howner, hanswers⟩ := h.responses j r hr
  have hsame : (k', request') = (k, request) := by
    refine List.inj_on_of_nodup_map (h.distinct j) hmem' hmem ?_
    rw [← hanswers.header.uniqueId]
    exact beq_iff_eq.mp hid
  obtain ⟨rfl, rfl⟩ := Prod.mk.inj hsame
  exact ⟨r, hr, howner⟩

theorem replied_at_rest (h : Whole indCb defaultRespCb s) (hquiet : Quiescent s) {j : κ} {k : Nat}
    {request : UrilProtocolMsg} (hmem : (k, request) ∈ s.requests j) :
    ∃ answer, (view s).replied (j, k) = some answer := by
  obtain ⟨r, hr, howner⟩ := response_at_rest h hquiet hmem
  by_contra hnone
  have hlookup : (view s).replied (j, k) = none := by
    simpa [Option.eq_none_iff_forall_ne_some] using hnone
  have hnot := List.lookup_eq_none_iff.mp hlookup _ (mem_repliesOf.mpr ⟨r, hr, howner, rfl⟩)
  simp at hnot

end View

/-- `IdsApart` as a test, where one client has all the ids. -/
def aloneTest (j : κ) (s : State κ φ δ) : Action κ φ δ → Bool
  | .send j' _ request => decide (Supported request ∧ j = j')
  | .track _ => true
  | a => orderlyTest s a

theorem aloneTest_sound (j : κ) (s : State κ φ δ) (a : Action κ φ δ)
    (h : aloneTest j s a = true) : IdsApart (fun _ => j) s a := by
  cases a with
  | send j' k request =>
      have hsent : Supported request ∧ j = j' := of_decide_eq_true h
      exact hsent
  | track j' => trivial
  | client j' a => exact orderlyTest_sound s (.client j' a) h
  | service a => exact orderlyTest_sound s (.service a) h
  | unsolicited event connections | deliver j' i => trivial

/-- A client asks for the radio mode. -/
def aloneActions : List (Action Nat Nat Nat) :=
  callSteps 1 0 (some 5) (some 7) ++
    [.send 1 0 (OrphanRequests.emptyRequest MsgId.radioGetRadioMode 1), .track 1,
      .service (.dispatch 1), .unsolicited .signalStrength [1], .service (.readIds 0 (0, 0)),
      .service (.radioMode 0 .on), .service (.ret 1), .deliver 1 1]

end UnifiedRil.RemoteCalls

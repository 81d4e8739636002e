import Mathlib.Logic.Equiv.Basic
import UnifiedRil.OrphanRequests

namespace UnifiedRil.RequestHolders

open UnifiedRil.Protocol
open UnifiedRil.Messages
open UnifiedRil.MessageTracker
open UnifiedRil.Ril
open UnifiedRil.RilHandlers
open UnifiedRil.RilAdapter
open UnifiedRil.RilHazards
open UnifiedRil.RequestProcessors
open UnifiedRil.AdapterInvariant
open UnifiedRil.OrphanRequests

variable {κ : Type} [DecidableEq κ]

inductive Holder (κ : Type)
  | call (c : κ)
  | context (token : Nat)
  | thread (i : Nat)
  deriving DecidableEq

/-- The holder is to answer the request. -/
inductive Holds (s : State κ) : Holder κ → UrilProtocolMsg → Prop
  | call {c : κ} {request : UrilProtocolMsg} :
      s.calls c = some (.tracked request) → Holds s (.call c) request
  | context {token : Nat} {entry : AdapterRuns.Entry} :
      s.adapter.contexts token = some entry → Holds s (.context token) entry.request
  | thread {i : Nat} {thread : RadioThread κ} :
      s.radioThreads[i]? = some thread → Holds s (.thread i) thread.request

/-- The response is what the request gets when it is alone. -/
structure Answers (request rsp : UrilProtocolMsg) : Prop where
  header : HeaderOf request rsp
  msgId : rsp.msgId = request.msgId
  content : (∃ answers ctx, LeadsAlone request answers (ctx, some rsp)) ∨
    ∃ radioState h, radioModeResponse request.uniqueId request.simId radioState = .ok h ∧
      rsp = h.rsp

/-- A request is supported, and tracked only while no other one has its id; the
vendor's answers are sound, and the radio threads read the ids of their requests. -/
def Sound (s : State κ) : Action κ → Prop
  | .track _ request => Supported request ∧ s.pendingRequests request.uniqueId = none
  | .answer submission answer u address =>
      AdapterRuns.SoundAnswer s.adapter (.answer submission answer u address)
  | .readIds i leftover => ∀ thread, s.radioThreads[i]? = some thread →
      thread.frame = true ∨ leftover = (thread.request.uniqueId, thread.request.simId)
  | _ => True

/-- What is known about the holders. -/
structure Kept (s : State κ) : Prop where
  contexts : ContextsOk s.adapter
  entry : ∀ t e, s.adapter.contexts t = some e → EntryOk e
  /-- the vendor is to answer, or a thread to submit, once for each context -/
  attended : ∀ t, s.adapter.obligations t = lives s.adapter t
  ids : ∀ thread ∈ s.radioThreads, ∀ ids, thread.ids = some ids →
    ids = (thread.request.uniqueId, thread.request.simId)
  mode : ∀ thread ∈ s.radioThreads, thread.request.msgId = MsgId.radioGetRadioMode

/-- Every holder of the one state was one of the other state, under another name
perhaps, and not the one that is gone. -/
structure Follows (s t : State κ) (gone : Option (Holder κ)) (before : Holder κ → Holder κ) :
    Prop where
  injective : Function.Injective before
  holds : ∀ h request, Holds t h request → Holds s (before h) request ∧ some (before h) ≠ gone

/-- What a step does to the holders, the map and the responses. -/
inductive Moves (s : State κ) : Action κ → State κ → Prop
  | tracked (c : κ) (request : UrilProtocolMsg) : s.calls c = none →
      Moves s (.track c request)
        { s with
          pendingRequests := s.pendingRequests.assign request.uniqueId c
          calls := Function.update s.calls c (some (.tracked request)) }
  | kept {a : Action κ} {t : State κ} (before : Holder κ → Holder κ) :
      Follows s t none before → t.pendingRequests = s.pendingRequests → t.sent = s.sent →
      Moves s a t
  | emitted {a : Action κ} {t : State κ} (gone : Holder κ) (before : Holder κ → Holder κ)
      (request rsp : UrilProtocolMsg) :
      Holds s gone request → Answers request rsp → Follows s t (some gone) before →
      t.pendingRequests = s.pendingRequests.erase request.uniqueId →
      t.sent =
        ((s.pendingRequests request.uniqueId).join.map fun c => (c, rsp)).toList ++ s.sent →
      Moves s a t

omit [DecidableEq κ] in
theorem kept_initial : Kept (State.initial : State κ) := by
  have hcontexts : ∀ t e, (State.initial : State κ).adapter.contexts t ≠ some e := by
    intro t e he
    cases he
  refine ⟨?_, fun t e he => absurd he (hcontexts t e), fun _ => rfl, by simp [State.initial],
    by simp [State.initial]⟩
  constructor
  · exact fun t e he => absurd he (hcontexts t e)
  · exact fun t e he => absurd he (hcontexts t e)
  · exact fun t e he => absurd he (hcontexts t e)
  · exact fun t t' e e' he => absurd he (hcontexts t e)

omit [DecidableEq κ] in
theorem follows_id {s t : State κ} (gone : Option (Holder κ))
    (h : ∀ holder request, Holds t holder request →
      Holds s holder request ∧ some holder ≠ gone) : Follows s t gone id :=
  ⟨Function.injective_id, h⟩

/-- One holder takes over from the pump of `c`. -/
theorem follows_dispatch {s t : State κ} {c : κ} {request : UrilProtocolMsg} (new : Holder κ)
    (hcall : s.calls c = some (.tracked request))
    (hholds : ∀ h r, Holds t h r → h = new ∧ r = request ∨ h ≠ .call c ∧ h ≠ new ∧ Holds s h r) :
    Follows s t none (Equiv.swap new (.call c)) := by
  refine ⟨Equiv.injective _, fun h r hr => ⟨?_, Option.some_ne_none _⟩⟩
  rcases hholds h r hr with ⟨rfl, rfl⟩ | ⟨hcaller, hnew, hold⟩
  · rw [Equiv.swap_apply_left]
    exact .call hcall
  · rwa [Equiv.swap_apply_of_ne_of_ne hnew hcaller]

theorem follows_submitted {s : State κ} {c : κ} {request : UrilProtocolMsg}
    {ctx : RilRequestContext} {v : VendorRequest} (hcall : s.calls c = some (.tracked request)) :
    Follows s
      { s with
        adapter := s.adapter.dispatch request ⟨[.submit ctx v], true⟩
        calls := Function.update s.calls c (some (.processed request true))
        radioThreads := s.radioThreads ++ radioThreadsOf c request [.submit ctx v] }
      none (Equiv.swap (.context s.adapter.next) (.call c)) := by
  refine follows_dispatch _ hcall fun holder r hholds => ?_
  cases hholds with
  | call hc' =>
      obtain ⟨-, ⟨⟩⟩ | ⟨hne, hc'⟩ := update_eq_some hc'
      exact .inr ⟨by simpa using hne, nofun, .call hc'⟩
  | context he =>
      obtain ⟨rfl, ⟨⟩⟩ | ⟨hne, he⟩ := update_eq_some he
      · exact .inl ⟨rfl, rfl⟩
      · exact .inr ⟨nofun, by simpa using hne, .context he⟩
  | thread hi =>
      refine .inr ⟨nofun, nofun, .thread ?_⟩
      simpa [radioThreadsOf] using hi

theorem follows_radioThread {s : State κ} {c : κ} {request : UrilProtocolMsg}
    (hcall : s.calls c = some (.tracked request)) (uniqueId : UInt32) (simId : UInt8) :
    Follows s
      { s with
        adapter := s.adapter.dispatch request ⟨[.radioThread uniqueId simId], true⟩
        calls := Function.update s.calls c (some (.processed request true))
        radioThreads :=
          s.radioThreads ++ radioThreadsOf c request [.radioThread uniqueId simId] }
      none (Equiv.swap (.thread s.radioThreads.length) (.call c)) := by
  refine follows_dispatch _ hcall fun holder r hholds => ?_
  cases hholds with
  | call hc' =>
      obtain ⟨-, ⟨⟩⟩ | ⟨hne, hc'⟩ := update_eq_some hc'
      exact .inr ⟨by simpa using hne, nofun, .call hc'⟩
  | context he => exact .inr ⟨nofun, nofun, .context he⟩
  | @thread i thread hi =>
      obtain hlt | hge := Nat.lt_or_ge i s.radioThreads.length
      · refine .inr ⟨nofun, by simpa using hlt.ne, .thread ?_⟩
        rwa [List.getElem?_append_left hlt] at hi
      · have hnew : radioThreadsOf c request [.radioThread uniqueId simId] =
            [⟨c, request, true, none⟩] := rfl
        rw [List.getElem?_append_right hge, hnew, List.getElem?_singleton] at hi
        obtain ⟨hzero, hthread⟩ := Option.ite_none_right_eq_some.mp hi
        obtain rfl := Option.some.inj hthread
        exact .inl ⟨congrArg _ (by omega), rfl⟩

theorem attended_submit {a : AdapterRuns.State} (h : ∀ t, a.obligations t = lives a t)
    (hfresh : a.contexts a.next = none) (request : UrilProtocolMsg) (ctx : RilRequestContext)
    (v : VendorRequest) (t : Nat) :
    (a.submit request ctx v).obligations t = lives (a.submit request ctx v) t := by
  have hold := h t
  simp only [AdapterRuns.State.obligations, AdapterRuns.State.submit, List.countP_append,
    List.countP_cons, List.countP_nil, beq_iff_eq] at hold ⊢
  obtain rfl | ht := eq_or_ne t a.next
  · rw [lives_none hfresh] at hold
    rw [lives_some (Function.update_self ..), if_pos rfl]
    omega
  · rw [lives_congr (Function.update_of_ne ht ..), if_neg ht.symm]
    omega

omit [DecidableEq κ] in
theorem Kept.fresh {s : State κ} (h : Kept s) : s.adapter.contexts s.adapter.next = none := by
  cases he : s.adapter.contexts s.adapter.next with
  | none => rfl
  | some e => exact absurd (h.contexts.bound _ _ he) (Nat.lt_irrefl _)

theorem dispatch_moves {s t : State κ} (h : Kept s) {c : κ}
    (hstep : step s (.dispatch c) = some t) : Kept t ∧ Moves s (.dispatch c) t := by
  simp only [step] at hstep
  split at hstep
  case h_2 => cases hstep
  rename_i request hcall
  split at hstep
  case h_2 => cases hstep
  rename_i p hp
  obtain rfl := Option.some.inj hstep
  have houtcome := processRequest_outcome request p hp
  have hcontexts := contextsOk_dispatch h.contexts houtcome
  cases houtcome with
  | refused =>
      refine ⟨⟨hcontexts, h.entry, h.attended, ?_, ?_⟩, .kept id (follows_id none ?_) rfl rfl⟩
      · simpa [radioThreadsOf] using h.ids
      · simpa [radioThreadsOf] using h.mode
      · refine fun holder r hholds => ⟨?_, Option.some_ne_none _⟩
        cases hholds with
        | call hc' =>
            obtain ⟨-, ⟨⟩⟩ | ⟨-, hc'⟩ := update_eq_some hc'
            exact .call hc'
        | context he => exact .context he
        | thread hi => exact .thread (by simpa [radioThreadsOf] using hi)
  | radioThread hmode =>
      have hthread : ∀ thread ∈ s.radioThreads ++ radioThreadsOf c request
          [.radioThread request.uniqueId request.simId],
          thread ∈ s.radioThreads ∨ thread = ⟨c, request, true, none⟩ := by
        simp [radioThreadsOf]
      refine ⟨⟨hcontexts, h.entry, h.attended, ?_, ?_⟩,
        .kept _ (follows_radioThread hcall request.uniqueId request.simId) rfl rfl⟩
      · intro thread hmem ids hids
        rcases hthread thread hmem with hold | rfl
        · exact h.ids thread hold ids hids
        · cases hids
      · intro thread hmem
        rcases hthread thread hmem with hold | rfl
        · exact h.mode thread hold
        · exact hmode
  | submitted v hknown hid =>
      refine ⟨⟨hcontexts, ?_, ?_, ?_, ?_⟩, .kept _ (follows_submitted hcall) rfl rfl⟩
      · intro token e he
        obtain ⟨-, ⟨⟩⟩ | ⟨-, he⟩ := update_eq_some he
        · exact entryOk_new hp hknown hid
        · exact h.entry token e he
      · exact attended_submit h.attended h.fresh request _ v
      · simpa [radioThreadsOf] using h.ids
      · simpa [radioThreadsOf] using h.mode

theorem attended_answered {a : AdapterRuns.State} (h : ∀ t, a.obligations t = lives a t)
    {submission : Nat × RilReqId} {answer : AdapterRuns.Answer}
    {r : AdapterRuns.State × Option UrilProtocolMsg} (hmem : submission ∈ a.outstanding)
    (hanswered : AdapterInvariant.Answered a submission answer r) (t : Nat) :
    r.1.obligations t = lives r.1 t := by
  have hold := h t
  have herase := countP_erase_add hmem t
  cases hanswered with
  | completed entry u hd hentry hrun hlast =>
      simp only [AdapterRuns.State.obligations, List.countP_append] at hold ⊢
      obtain rfl | ht := eq_or_ne t submission.1
      · rw [lives_some hentry] at hold
        rw [lives_none (Function.update_self ..)]
        rw [if_pos rfl] at herase
        omega
      · rw [lives_congr (Function.update_of_ne ht ..)]
        rw [if_neg ht.symm] at herase
        omega
  | continued entry entry' u hd next hentry hrun hnext heq hapart =>
      simp only [AdapterRuns.State.obligations, List.countP_append, List.countP_cons,
        List.countP_nil, beq_iff_eq] at hold ⊢
      obtain rfl | ht := eq_or_ne t submission.1
      · rw [lives_some hentry] at hold
        rw [lives_some (Function.update_self ..)]
        omega
      · rw [lives_congr (Function.update_of_ne ht ..)]
        omega

omit [DecidableEq κ] in
theorem Kept.alive {s : State κ} (h : Kept s) {p : Nat × RilReqId}
    (hp : p ∈ s.adapter.outstanding ++ s.adapter.followUps) :
    ∃ e, s.adapter.contexts p.1 = some e := by
  have hpos : 0 < s.adapter.obligations p.1 :=
    List.countP_pos_iff.mpr ⟨p, hp, beq_self_eq_true p.1⟩
  cases he : s.adapter.contexts p.1 with
  | none =>
      rw [h.attended, lives_none he] at hpos
      exact absurd hpos (Nat.lt_irrefl 0)
  | some e => exact ⟨e, rfl⟩

theorem answers_completed {entry : AdapterRuns.Entry} {answer : AdapterRuns.Answer} {u : UInt32}
    {hd : Handled} (hentry : EntryOk entry)
    (hrun : runHandler entry.ctx answer.error answer.data u =
      .ok (afterHandler entry.ctx hd, some hd))
    (hsound : AdapterRuns.isSound entry.ctx.rilReqId answer = true) (hlast : hd.followUp = none) :
    Answers entry.request hd.rsp := by
  obtain ⟨hheader, hid⟩ := header_answered hentry hrun
  exact ⟨hheader, hid, .inl ⟨_, _, leadsAlone_completed hentry hrun hsound hlast⟩⟩

theorem answer_moves {s t : State κ} (h : Kept s) {submission : Nat × RilReqId}
    {answer : AdapterRuns.Answer} {u : UInt32} {address : Nat}
    (hsound : Sound s (.answer submission answer u address))
    (hstep : step s (.answer submission answer u address) = some t) :
    Kept t ∧ Moves s (.answer submission answer u address) t := by
  obtain ⟨⟨adapter, rsp⟩, hanswer, rfl⟩ := Option.map_eq_some_iff.mp hstep
  have hmem : submission ∈ s.adapter.outstanding := by
    unfold AdapterRuns.State.answer at hanswer
    exact (Option.ite_none_right_eq_some.mp hanswer).1
  obtain ⟨entry, hentry⟩ := h.alive (List.mem_append_left _ hmem)
  have hok := h.entry _ _ hentry
  have hsoundAnswer := hsound entry hentry
  have hsafe : overruns entry.ctx.rilReqId answer.error answer.data = false := by
    simp only [AdapterRuns.isSound, Bool.and_eq_true, Bool.not_eq_true'] at hsoundAnswer
    exact hsoundAnswer.1
  obtain ⟨-, hanswered⟩ := AdapterInvariant.answered_of_entry h.contexts.bound h.contexts.apart
    hentry hok.known hsafe hanswer
  obtain ⟨uniqueId, hcontexts, -⟩ := answeredFor_of_answered h.contexts hanswered
  have hattended := attended_answered h.attended hmem hanswered
  cases hanswered with
  | completed entry' u hd hentry' hrun hlast =>
      obtain rfl := Option.some.inj (hentry.symm.trans hentry')
      have hanswers := answers_completed hok hrun hsoundAnswer hlast
      have hkept : Kept { s with
          adapter := { s.adapter with
            contexts := Function.update s.adapter.contexts submission.1 none
            outstanding := s.adapter.outstanding.erase submission
            log := .released submission.1 ::
              .emitted submission.1 entry.request (entry.answers ++ [answer]) hd.rsp ::
              .used submission.1 true :: s.adapter.log } } := by
        refine ⟨hcontexts, ?_, hattended, h.ids, h.mode⟩
        intro token e he
        obtain ⟨-, ⟨⟩⟩ | ⟨-, he⟩ := update_eq_some he
        exact h.entry token e he
      refine ⟨?_, .emitted (.context submission.1) id entry.request hd.rsp (.context hentry)
        hanswers (follows_id _ ?_) ?_ ?_⟩
      · exact ⟨by simpa using hkept.contexts, by simpa using hkept.entry,
          by simpa using hkept.attended, by simpa using hkept.ids, by simpa using hkept.mode⟩
      · intro holder r hholds
        cases hholds with
        | call hc => exact ⟨.call (by simpa using hc), by simp⟩
        | context he =>
            obtain ⟨-, ⟨⟩⟩ | ⟨hne, he⟩ := update_eq_some
              (f := s.adapter.contexts) (x := none) (by simpa using he)
            exact ⟨.context he, by simpa using hne⟩
        | thread hi => exact ⟨.thread (by simpa using hi), by simp⟩
      · rw [processResponse_pendingRequests _ _ hanswers.header.isIndication,
          hanswers.header.uniqueId]
      · rw [processResponse_sent _ _ hanswers.header.isIndication, hanswers.header.uniqueId]
  | continued entry' entry'' u hd next hentry' hrun hnext heq hapart =>
      obtain rfl := Option.some.inj (hentry.symm.trans hentry')
      refine ⟨⟨hcontexts, ?_, hattended, h.ids, h.mode⟩, .kept id (follows_id none ?_) rfl rfl⟩
      · intro token e he
        obtain ⟨-, ⟨⟩⟩ | ⟨-, he⟩ := update_eq_some he
        · rw [heq]
          exact entryOk_continued hok hrun hsoundAnswer hnext _
        · exact h.entry token e he
      · refine fun holder r hholds => ⟨?_, Option.some_ne_none _⟩
        cases hholds with
        | call hc => exact .call hc
        | context he =>
            obtain ⟨rfl, ⟨⟩⟩ | ⟨-, he⟩ := update_eq_some he
            · have hrequest : entry''.request = entry.request := by rw [heq]
              rw [hrequest]
              exact .context hentry
            · exact .context he
        | thread hi => exact .thread hi

theorem followUp_moves {s t : State κ} (h : Kept s) {thread : Nat × RilReqId}
    (hstep : step s (.followUp thread) = some t) : Kept t ∧ Moves s (.followUp thread) t := by
  obtain ⟨adapter, hadapter, rfl⟩ := Option.map_eq_some_iff.mp hstep
  simp only [AdapterRuns.State.submitFollowUp, Option.ite_none_right_eq_some, Option.some.injEq]
    at hadapter
  obtain ⟨hmem, rfl⟩ := hadapter
  refine ⟨⟨⟨h.contexts.known, h.contexts.header, h.contexts.bound, h.contexts.apart⟩, h.entry,
    fun t => ?_, h.ids, h.mode⟩, .kept id (follows_id none ?_) rfl rfl⟩
  · refine Eq.trans ?_ (h.attended t)
    have herase := countP_erase_add hmem t
    simp only [AdapterRuns.State.obligations, List.countP_append, List.countP_cons,
      List.countP_nil, beq_iff_eq]
    omega
  · refine fun holder r hholds => ⟨?_, Option.some_ne_none _⟩
    cases hholds with
    | call hc => exact .call hc
    | context he => exact .context he
    | thread hi => exact .thread hi

theorem ret_moves {s t : State κ} (h : Kept s) {c : κ} (hstep : step s (.ret c) = some t) :
    Kept t ∧ Moves s (.ret c) t := by
  simp only [step] at hstep
  split at hstep
  case h_2 => cases hstep
  rename_i request ret hcall
  obtain rfl := Option.some.inj hstep
  refine ⟨⟨h.contexts, h.entry, h.attended, ?_, ?_⟩, .kept id (follows_id none ?_) rfl rfl⟩
  · intro thread hmem
    obtain ⟨thread', hmem', rfl⟩ := List.mem_map.mp hmem
    exact h.ids thread' hmem'
  · intro thread hmem
    obtain ⟨thread', hmem', rfl⟩ := List.mem_map.mp hmem
    exact h.mode thread' hmem'
  · refine fun holder r hholds => ⟨?_, Option.some_ne_none _⟩
    cases hholds with
    | call hc =>
        obtain ⟨-, ⟨⟩⟩ | ⟨-, hc⟩ := update_eq_some hc
        exact .call hc
    | context he => exact .context he
    | @thread i thread hi =>
        rw [List.getElem?_map] at hi
        obtain ⟨thread, hthread, rfl⟩ := Option.map_eq_some_iff.mp hi
        have hold : Holds s (.thread i) thread.request := .thread hthread
        exact hold

theorem readIds_moves {s t : State κ} (h : Kept s) {i : Nat} {leftover : UInt32 × UInt8}
    (hsound : Sound s (.readIds i leftover)) (hstep : step s (.readIds i leftover) = some t) :
    Kept t ∧ Moves s (.readIds i leftover) t := by
  simp only [step] at hstep
  split at hstep
  case h_2 => cases hstep
  rename_i thread hthread
  simp only [Option.ite_none_right_eq_some, Option.some.injEq] at hstep
  obtain ⟨-, rfl⟩ := hstep
  have hread : ∀ ids, (thread.read leftover).ids = some ids →
      ids = (thread.request.uniqueId, thread.request.simId) := by
    intro ids hids
    obtain rfl := Option.some.inj hids
    rcases hsound thread hthread with hframe | hleftover
    · rw [if_pos hframe]
    · rw [hleftover, ite_self]
  refine ⟨⟨h.contexts, h.entry, h.attended, ?_, ?_⟩, .kept id (follows_id none ?_) rfl rfl⟩
  · intro thread' hmem ids hids
    rcases List.mem_or_eq_of_mem_set hmem with hmem | rfl
    · exact h.ids thread' hmem ids hids
    · exact hread ids hids
  · intro thread' hmem
    rcases List.mem_or_eq_of_mem_set hmem with hmem | rfl
    · exact h.mode thread' hmem
    · exact h.mode thread (List.mem_of_getElem? hthread)
  · refine fun holder r hholds => ⟨?_, Option.some_ne_none _⟩
    cases hholds with
    | call hc => exact .call hc
    | context he => exact .context he
    | @thread j thread' hj =>
        obtain rfl | hne := eq_or_ne j i
        · have hlt := (List.getElem?_eq_some_iff.mp hthread).1
          rw [List.getElem?_set_self hlt] at hj
          obtain rfl := Option.some.inj hj
          have hold : Holds s (.thread j) thread.request := .thread hthread
          exact hold
        · rw [List.getElem?_set_ne hne.symm] at hj
          exact .thread hj

/-- Where the threads behind the one at `i` were. -/
def shifted (i : Nat) : Holder κ → Holder κ
  | .thread j => .thread (if j < i then j else j + 1)
  | h => h

omit [DecidableEq κ] in
theorem shifted_injective (i : Nat) : Function.Injective (shifted i : Holder κ → Holder κ) := by
  intro h h' heq
  cases h <;> cases h' <;> simp only [shifted, Holder.thread.injEq, reduceCtorEq] at heq ⊢
  case call.call | context.context => exact heq
  case thread.thread =>
    split at heq <;> split at heq <;> omega

theorem radioMode_moves {s t : State κ} (h : Kept s) {i : Nat} {radioState : RadioState}
    (hstep : step s (.radioMode i radioState) = some t) :
    Kept t ∧ Moves s (.radioMode i radioState) t := by
  simp only [step] at hstep
  split at hstep
  case h_2 => cases hstep
  rename_i caller request frame uid sid hthread
  split at hstep
  case h_2 => cases hstep
  rename_i hd hbuilt
  obtain rfl := Option.some.inj hstep
  have hmem := List.mem_of_getElem? hthread
  obtain ⟨rfl, rfl⟩ : uid = request.uniqueId ∧ sid = request.simId :=
    Prod.mk.inj (h.ids _ hmem (uid, sid) rfl)
  have hrsp := (ResponseFidelity.radioModeResponse_answers hbuilt).rsp_eq
  have hanswers : Answers request hd.rsp := by
    refine ⟨?_, ?_, .inr ⟨radioState, hd, hbuilt, rfl⟩⟩
    · rw [hrsp]
      exact ⟨rfl, rfl, rfl⟩
    · rw [hrsp, h.mode _ hmem]
  refine ⟨⟨by simpa using h.contexts, by simpa using h.entry, by simpa using h.attended, ?_, ?_⟩,
    .emitted (.thread i) (shifted i) request hd.rsp (.thread hthread) hanswers
      ⟨shifted_injective i, ?_⟩ ?_ ?_⟩
  · intro thread hthread
    exact h.ids thread (List.mem_of_mem_eraseIdx (by simpa using hthread))
  · intro thread hthread
    exact h.mode thread (List.mem_of_mem_eraseIdx (by simpa using hthread))
  · intro holder r hholds
    cases hholds with
    | call hc => exact ⟨.call (by simpa using hc), by simp [shifted]⟩
    | context he => exact ⟨.context (by simpa using he), by simp [shifted]⟩
    | thread hj =>
        simp only [processResponse_radioThreads, List.getElem?_eraseIdx] at hj
        refine ⟨.thread ?_, ?_⟩
        · split at hj <;> rename_i hlt
          · rwa [if_pos hlt]
          · rwa [if_neg hlt]
        · simp only [shifted, ne_eq, Option.some.injEq, Holder.thread.injEq]
          split <;> omega
  · rw [processResponse_pendingRequests _ _ hanswers.header.isIndication,
      hanswers.header.uniqueId]
  · rw [processResponse_sent _ _ hanswers.header.isIndication, hanswers.header.uniqueId]

theorem step_moves {s t : State κ} {a : Action κ} (h : Kept s) (hsound : Sound s a)
    (hstep : step s a = some t) : Kept t ∧ Moves s a t := by
  cases a with
  | track c request =>
      simp only [step, Option.ite_none_right_eq_some, Option.some.injEq,
        Option.isNone_iff_eq_none] at hstep
      obtain ⟨hidle, rfl⟩ := hstep
      exact ⟨⟨h.contexts, h.entry, h.attended, h.ids, h.mode⟩, .tracked c request hidle⟩
  | dispatch c => exact dispatch_moves h hstep
  | ret c => exact ret_moves h hstep
  | answer submission answer u address => exact answer_moves h hsound hstep
  | followUp thread => exact followUp_moves h hstep
  | readIds i leftover => exact readIds_moves h hsound hstep
  | radioMode i radioState => exact radioMode_moves h hstep

/-- A request that is held has its entry, for a connection that it belongs to,
and has one holder. -/
structure Owned (owned : κ → UrilProtocolMsg → Prop) (s : State κ) : Prop where
  pending : ∀ h r, Holds s h r →
    ∃ c, s.pendingRequests r.uniqueId = some (some c) ∧ owned c r
  unique : ∀ h h' r r', Holds s h r → Holds s h' r' → r.uniqueId = r'.uniqueId → h = h'

omit [DecidableEq κ] in
theorem owned_initial (owned : κ → UrilProtocolMsg → Prop) : Owned owned (State.initial) := by
  have hnone : ∀ h r, ¬ Holds (State.initial : State κ) h r := by
    rintro h r (hc | he | hi)
    · cases hc
    · cases he
    · cases hi
  exact ⟨fun h r hr => absurd hr (hnone h r), fun h h' r r' hr => absurd hr (hnone h r)⟩

omit [DecidableEq κ] in
theorem Owned.mono {owned owned' : κ → UrilProtocolMsg → Prop} {s : State κ}
    (h : Owned owned s) (himp : ∀ c r, owned c r → owned' c r) : Owned owned' s := by
  refine ⟨fun holder r hr => ?_, h.unique⟩
  obtain ⟨c, hc, hown⟩ := h.pending holder r hr
  exact ⟨c, hc, himp c r hown⟩

theorem owned_track {owned : κ → UrilProtocolMsg → Prop} {s : State κ} (h : Owned owned s)
    {c : κ} {request : UrilProtocolMsg} (hnew : s.pendingRequests request.uniqueId = none)
    (hown : owned c request) :
    Owned owned { s with
      pendingRequests := s.pendingRequests.assign request.uniqueId c
      calls := Function.update s.calls c (some (.tracked request)) } := by
  have hcases : ∀ holder r, Holds { s with
      pendingRequests := s.pendingRequests.assign request.uniqueId c
      calls := Function.update s.calls c (some (.tracked request)) } holder r →
      holder = .call c ∧ r = request ∨ Holds s holder r := by
    intro holder r hholds
    cases hholds with
    | call hc =>
        obtain ⟨rfl, ⟨⟩⟩ | ⟨-, hc⟩ := update_eq_some hc
        · exact .inl ⟨rfl, rfl⟩
        · exact .inr (.call hc)
    | context he => exact .inr (.context he)
    | thread hi => exact .inr (.thread hi)
  have hother : ∀ holder r, Holds s holder r → r.uniqueId ≠ request.uniqueId := by
    intro holder r hholds heq
    obtain ⟨c', hc', -⟩ := h.pending holder r hholds
    rw [heq, hnew] at hc'
    cases hc'
  constructor
  case pending =>
    intro holder r hholds
    rcases hcases holder r hholds with ⟨-, rfl⟩ | hold
    · exact ⟨c, Function.update_self .., hown⟩
    · obtain ⟨c', hc', hown'⟩ := h.pending holder r hold
      exact ⟨c', (Function.update_of_ne (hother holder r hold) ..).trans hc', hown'⟩
  case unique =>
    intro holder holder' r r' hr hr' hid
    rcases hcases holder r hr with ⟨rfl, rfl⟩ | hold <;>
      rcases hcases holder' r' hr' with ⟨rfl, rfl⟩ | hold'
    · rfl
    · exact absurd hid.symm (hother holder' r' hold')
    · exact absurd hid (hother holder r hold)
    · exact h.unique holder holder' r r' hold hold' hid

omit [DecidableEq κ] in
theorem owned_kept {owned : κ → UrilProtocolMsg → Prop} {s t : State κ} (h : Owned owned s)
    {gone : Option (Holder κ)} {before : Holder κ → Holder κ}
    (hfollows : Follows s t gone before)
    (hpending : ∀ holder r, Holds t holder r →
      t.pendingRequests r.uniqueId = s.pendingRequests r.uniqueId) : Owned owned t := by
  constructor
  case pending =>
    intro holder r hr
    rw [hpending holder r hr]
    exact h.pending (before holder) r (hfollows.holds holder r hr).1
  case unique =>
    intro holder holder' r r' hr hr' hid
    exact hfollows.injective (h.unique _ _ r r' (hfollows.holds holder r hr).1
      (hfollows.holds holder' r' hr').1 hid)

omit [DecidableEq κ] in
theorem owned_emitted {owned : κ → UrilProtocolMsg → Prop} {s t : State κ} (h : Owned owned s)
    {gone : Holder κ} {before : Holder κ → Holder κ} {request : UrilProtocolMsg}
    (hgone : Holds s gone request) (hfollows : Follows s t (some gone) before)
    (hpending : t.pendingRequests = s.pendingRequests.erase request.uniqueId) :
    Owned owned t := by
  refine owned_kept h hfollows fun holder r hr => ?_
  obtain ⟨hold, hne⟩ := hfollows.holds holder r hr
  have hid : r.uniqueId ≠ request.uniqueId := by
    intro hid
    exact hne (congrArg some (h.unique _ _ r request hold hgone hid))
  rw [hpending]
  exact Function.update_of_ne hid ..

theorem owned_moves {owned : κ → UrilProtocolMsg → Prop} {s t : State κ} {a : Action κ}
    (h : Owned owned s) (hsound : Sound s a) (hmoves : Moves s a t)
    (hown : ∀ c request, a = .track c request → owned c request) : Owned owned t := by
  cases hmoves with
  | tracked c request hidle => exact owned_track h hsound.2 (hown c request rfl)
  | kept before hfollows hpending hsent =>
      exact owned_kept h hfollows fun holder r hr => by rw [hpending]
  | emitted gone before request rsp hgone hanswers hfollows hpending hsent =>
      exact owned_emitted h hgone hfollows hpending

end UnifiedRil.RequestHolders

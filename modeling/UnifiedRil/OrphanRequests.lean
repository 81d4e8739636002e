import UnifiedRil.AdapterInvariant
import UnifiedRil.MessageTracker
import UnifiedRil.ResponseFidelity

/-!
The tracker, the request processors and the adapter together. The pump thread of
a connection tracks a request, dispatches it and returns, in three steps, among
those of the other pumps, of the vendor's threads and of the detached threads.
The thread that asks for the radio mode holds references to parameters of
`getRadioModeV1`, which are there until that returns.
-/

namespace UnifiedRil.OrphanRequests

open UnifiedRil.Library.Runs
open UnifiedRil.Protocol
open UnifiedRil.Messages
open UnifiedRil.MessageTracker
open UnifiedRil.Ril
open UnifiedRil.RilHandlers
open UnifiedRil.RilAdapter
open UnifiedRil.RilResponses
open UnifiedRil.RilHazards
open UnifiedRil.RequestProcessors
open UnifiedRil.ResponseFidelity
open UnifiedRil.AdapterInvariant

variable {κ : Type} [DecidableEq κ]

/-- How far `trackAndDispatchRequest` has come. -/
inductive Call
  | tracked (request : UrilProtocolMsg)
  /-- the request is processed, with this result -/
  | processed (request : UrilProtocolMsg) (ret : Bool)

/-- A detached thread of `getRadioModeV1`. -/
structure RadioThread (κ : Type) where
  caller : κ
  request : UrilProtocolMsg
  /-- `getRadioModeV1` did not return yet -/
  frame : Bool
  ids : Option (UInt32 × UInt8)

structure State (κ : Type) where
  pendingRequests : PendingRequests κ
  adapter : AdapterRuns.State
  calls : κ → Option Call
  radioThreads : List (RadioThread κ)
  refused : List (κ × UrilProtocolMsg)
  sent : List (κ × UrilProtocolMsg)

def State.initial : State κ :=
  { pendingRequests := .empty, adapter := .initial, calls := fun _ => none
    radioThreads := [], refused := [], sent := [] }

/-- `processResponse`. Where a response is taken for an indication, it goes to
all connections and the map stays. -/
def State.processResponse (s : State κ) (rsp : UrilProtocolMsg) : State κ :=
  if rsp.isIndication ≠ 0 then s
  else
    let (connection, pendingRequests) := takeConnection s.pendingRequests rsp.uniqueId
    { s with
      pendingRequests := pendingRequests
      sent := (connection.map fun c => (c, rsp)).toList ++ s.sent }

/-- The threads that the effects of a request method start. -/
def radioThreadsOf (c : κ) (request : UrilProtocolMsg) (effects : List Effect) :
    List (RadioThread κ) :=
  effects.filterMap fun
    | .radioThread _ _ => some ⟨c, request, true, none⟩
    | .submit _ _ => none

/-- The frames of the calls of `c` are gone. -/
def RadioThread.returned (thread : RadioThread κ) (c : κ) : RadioThread κ :=
  { thread with frame := thread.frame && thread.caller ≠ c }

/-- What the thread reads through its references: the parameters, or what is
left in their place. -/
def RadioThread.read (thread : RadioThread κ) (leftover : UInt32 × UInt8) : RadioThread κ :=
  { thread with
    ids := some (if thread.frame then (thread.request.uniqueId, thread.request.simId)
      else leftover) }

inductive Action (κ : Type)
  | track (c : κ) (request : UrilProtocolMsg)
  | dispatch (c : κ)
  | ret (c : κ)
  | answer (submission : Nat × RilReqId) (answer : AdapterRuns.Answer)
      (uninitialised : UInt32) (address : Nat)
  | followUp (thread : Nat × RilReqId)
  | readIds (i : Nat) (leftover : UInt32 × UInt8)
  | radioMode (i : Nat) (radioState : RadioState)

def step (s : State κ) : Action κ → Option (State κ)
  | .track c request =>
      if (s.calls c).isNone then
        some { s with
          pendingRequests := s.pendingRequests.assign request.uniqueId c
          calls := Function.update s.calls c (some (.tracked request)) }
      else none
  | .dispatch c =>
      match s.calls c with
      | some (.tracked request) =>
          match processRequest request with
          | .ok p =>
              some { s with
                adapter := s.adapter.dispatch request p
                calls := Function.update s.calls c (some (.processed request p.ret))
                radioThreads := s.radioThreads ++ radioThreadsOf c request p.effects }
          | .error _ => none
      | _ => none
  | .ret c =>
      match s.calls c with
      | some (.processed request ret) =>
          some { s with
            calls := Function.update s.calls c none
            radioThreads := s.radioThreads.map (·.returned c)
            refused := if ret then s.refused else (c, request) :: s.refused }
      | _ => none
  | .answer submission answer uninitialised address =>
      (s.adapter.answer submission answer uninitialised address).map fun (adapter, rsp) =>
        let s := { s with adapter := adapter }
        match rsp with
        | some rsp => s.processResponse rsp
        | none => s
  | .followUp thread =>
      (s.adapter.submitFollowUp thread).map fun adapter => { s with adapter := adapter }
  | .readIds i leftover =>
      match s.radioThreads[i]? with
      | some thread =>
          if thread.ids.isNone then
            some { s with radioThreads := s.radioThreads.set i (thread.read leftover) }
          else none
      | none => none
  | .radioMode i radioState =>
      match s.radioThreads[i]? with
      | some ⟨_, _, _, some (uid, sid)⟩ =>
          match radioModeResponse uid sid radioState with
          | .ok h =>
              some (({ s with radioThreads := s.radioThreads.eraseIdx i }).processResponse h.rsp)
          | .error _ => none
      | _ => none

/-- Somebody is to answer a request with this id: the adapter has a context for
it, a radio thread runs for it, or it is being dispatched. -/
def Held (s : State κ) (uniqueId : UInt32) : Prop :=
  (∃ token entry, s.adapter.contexts token = some entry ∧ entry.request.uniqueId = uniqueId) ∨
    (∃ thread ∈ s.radioThreads, thread.request.uniqueId = uniqueId) ∨
    ∃ c request, s.calls c = some (.tracked request) ∧ request.uniqueId = uniqueId

/-- A response that tells of a failure. -/
def IsFailure (rsp : UrilProtocolMsg) : Prop :=
  (requestOf UrilResponse rsp.payload).result = UrilResult.failure

structure NoOrphans (s : State κ) : Prop where
  held : ∀ u, s.pendingRequests u ≠ none → Held s u
  refusals : ∀ c request, (c, request) ∈ s.refused →
    ∃ rsp, (c, rsp) ∈ s.sent ∧ rsp.uniqueId = request.uniqueId ∧ IsFailure rsp

/-- Requests are supported, radio threads read the ids of their requests, and no
handler writes behind its response. -/
def Served (s : State κ) : Action κ → Prop
  | .track _ request => Supported request
  | .readIds i leftover =>
      ∀ thread, s.radioThreads[i]? = some thread →
        thread.frame = true ∨ leftover.1 = thread.request.uniqueId
  | .answer submission answer _ _ =>
      ∀ entry, s.adapter.contexts submission.1 = some entry →
        overruns entry.ctx.rilReqId answer.error answer.data = false
  | _ => True

/-- What is known about the contexts of the adapter. -/
structure ContextsOk (s : AdapterRuns.State) : Prop where
  known : ∀ t e, s.contexts t = some e → ∀ number, e.ctx.rilReqId ≠ .other number
  header : ∀ t e, s.contexts t = some e → HeaderOf e.request (responseOf e.ctx)
  bound : ∀ t e, s.contexts t = some e → t < s.next
  apart : ∀ t t' e e', s.contexts t = some e → s.contexts t' = some e' → t ≠ t' → Apart e e'

theorem contextsOk_update {s t : AdapterRuns.State} (h : ContextsOk s) {token : Nat}
    {x : Option AdapterRuns.Entry} (hcontexts : t.contexts = Function.update s.contexts token x)
    (hnext : s.next ≤ t.next)
    (hknown : ∀ e, x = some e → ∀ number, e.ctx.rilReqId ≠ .other number)
    (hheader : ∀ e, x = some e → HeaderOf e.request (responseOf e.ctx))
    (hbound : ∀ e, x = some e → token < t.next)
    (hapart : ∀ e, x = some e → ∀ token' e', s.contexts token' = some e' → token' ≠ token →
      Apart e' e) : ContextsOk t := by
  constructor
  case known =>
    intro token' e he
    rw [hcontexts] at he
    obtain ⟨-, hx⟩ | ⟨-, he⟩ := update_eq_some he
    · exact hknown e hx
    · exact h.known token' e he
  case header =>
    intro token' e he
    rw [hcontexts] at he
    obtain ⟨-, hx⟩ | ⟨-, he⟩ := update_eq_some he
    · exact hheader e hx
    · exact h.header token' e he
  case bound =>
    intro token' e he
    rw [hcontexts] at he
    obtain ⟨rfl, hx⟩ | ⟨-, he⟩ := update_eq_some he
    · exact hbound e hx
    · exact (h.bound token' e he).trans_le hnext
  case apart =>
    rw [hcontexts]
    exact apart_update h.apart hapart

theorem contextsOk_submit {s t : AdapterRuns.State} (h : ContextsOk s) (request : UrilProtocolMsg)
    {v : VendorRequest} (hknown : ∀ number, v.request ≠ .other number)
    (hcontexts : t.contexts = (s.submit request
      (makeTokenForMessage v.request request.uniqueId request.simId) v).contexts)
    (hnext : t.next = s.next + 1) : ContextsOk t := by
  refine contextsOk_update h hcontexts (by omega) ?_ ?_ ?_ ?_
  · rintro e ⟨⟩
    exact hknown
  · rintro e ⟨⟩
    exact ⟨rfl, rfl, rfl⟩
  · exact fun _ _ => by omega
  · rintro e ⟨⟩ token' e' - -
    exact apart_of_rsp_none rfl

theorem contextsOk_dispatch {s : AdapterRuns.State} (h : ContextsOk s)
    {request : UrilProtocolMsg} {p : Processed} (houtcome : Outcome request p) :
    ContextsOk (s.dispatch request p) := by
  cases houtcome with
  | refused => exact ⟨h.known, h.header, h.bound, h.apart⟩
  | radioThread hmode => exact ⟨h.known, h.header, h.bound, h.apart⟩
  | submitted v hknown hid => exact contextsOk_submit h request hknown rfl rfl

theorem header_of_run {request : UrilProtocolMsg} {ctx : RilRequestContext} {e : RilErrno}
    {data : RilData} {u : UInt32} {h : Handled} (hheader : HeaderOf request (responseOf ctx))
    (hrun : runHandler ctx e data u = .ok (afterHandler ctx h, some h)) :
    HeaderOf request h.rsp := by
  rw [(runHandler_some hrun).2.rsp_eq]
  exact ⟨hheader.isIndication, hheader.uniqueId, hheader.simId⟩

/-- What an answer leaves: its context and the response emitted are those of one
request, and the other contexts stay. -/
structure AnsweredFor (s t : AdapterRuns.State) (rsp : Option UrilProtocolMsg)
    (uniqueId : UInt32) : Prop where
  contexts : ContextsOk t
  others : ∀ token entry, s.contexts token = some entry → entry.request.uniqueId ≠ uniqueId →
    t.contexts token = some entry
  emitted : ∀ r, rsp = some r → r.isIndication = 0 ∧ r.uniqueId = uniqueId
  continued : rsp = none → ∀ token entry, s.contexts token = some entry →
    ∃ entry', t.contexts token = some entry' ∧ entry'.request = entry.request

theorem update_of_id_ne {contexts : Nat → Option AdapterRuns.Entry} {token token' : Nat}
    {entry entry' : AdapterRuns.Entry} (x : Option AdapterRuns.Entry)
    (hentry : contexts token = some entry) (hentry' : contexts token' = some entry')
    (hne : entry'.request.uniqueId ≠ entry.request.uniqueId) :
    Function.update contexts token x token' = some entry' := by
  have htoken : token' ≠ token := by
    rintro rfl
    obtain rfl := Option.some.inj (hentry.symm.trans hentry')
    exact hne rfl
  rwa [Function.update_of_ne htoken]

theorem answeredFor_of_answered {s : AdapterRuns.State} (h : ContextsOk s)
    {submission : Nat × RilReqId} {answer : AdapterRuns.Answer}
    {r : AdapterRuns.State × Option UrilProtocolMsg}
    (hanswered : AdapterInvariant.Answered s submission answer r) :
    ∃ uniqueId, AnsweredFor s r.1 r.2 uniqueId := by
  cases hanswered with
  | completed entry u hd hentry hrun hlast =>
      have hheader := header_of_run (h.header _ _ hentry) hrun
      refine ⟨entry.request.uniqueId, ⟨?_, ?_, ?_, nofun⟩⟩
      · refine contextsOk_update (x := none) h rfl le_rfl ?_ ?_ ?_ ?_
        all_goals rintro e ⟨⟩
      · exact fun token entry' hentry' hne => update_of_id_ne none hentry hentry' hne
      · rintro r hr
        obtain rfl : hd.rsp = r := by simpa using hr
        exact ⟨hheader.isIndication, hheader.uniqueId⟩
  | continued entry entry' u hd next hentry hrun hnext heq hapart =>
      have hheader := header_of_run (h.header _ _ hentry) hrun
      have hfollows : nextRequest entry.ctx.rilReqId answer.error = some next := by
        rw [← (runHandler_some hrun).2.followUp_eq, hnext]
      refine ⟨entry.request.uniqueId, ⟨?_, ?_, nofun, ?_⟩⟩
      · refine contextsOk_update h rfl le_rfl ?_ ?_ ?_ ?_
        · rintro e ⟨⟩
          rw [heq]
          simpa [afterHandler, hnext] using (nextRequest_some hfollows).2.1
        · rintro e ⟨⟩
          rw [heq]
          exact hheader
        · exact fun _ _ => h.bound _ _ hentry
        · rintro e ⟨⟩
          exact hapart
      · exact fun token e he hne => update_of_id_ne _ hentry he hne
      · rintro - token e he
        obtain rfl | htoken := eq_or_ne token submission.1
        · obtain rfl := Option.some.inj (hentry.symm.trans he)
          exact ⟨entry', by simp, by rw [heq]⟩
        · exact ⟨e, by simpa [htoken] using he, rfl⟩

section ProcessResponse

variable (s : State κ) (rsp : UrilProtocolMsg)

omit [DecidableEq κ]

@[simp] theorem processResponse_adapter : (s.processResponse rsp).adapter = s.adapter := by
  unfold State.processResponse
  split <;> rfl

@[simp] theorem processResponse_calls : (s.processResponse rsp).calls = s.calls := by
  unfold State.processResponse
  split <;> rfl

@[simp] theorem processResponse_radioThreads :
    (s.processResponse rsp).radioThreads = s.radioThreads := by
  unfold State.processResponse
  split <;> rfl

@[simp] theorem processResponse_refused : (s.processResponse rsp).refused = s.refused := by
  unfold State.processResponse
  split <;> rfl

theorem processResponse_pendingRequests (hrsp : rsp.isIndication = 0) :
    (s.processResponse rsp).pendingRequests = s.pendingRequests.erase rsp.uniqueId := by
  simp [State.processResponse, hrsp]

theorem processResponse_sent (hrsp : rsp.isIndication = 0) :
    (s.processResponse rsp).sent =
      ((s.pendingRequests rsp.uniqueId).join.map fun c => (c, rsp)).toList ++ s.sent := by
  simp [State.processResponse, hrsp]

end ProcessResponse

/-- What holds of the service besides its map. -/
structure Working (s : State κ) : Prop where
  contexts : ContextsOk s.adapter
  supported : ∀ c request, s.calls c = some (.tracked request) → Supported request
  accepted : ∀ c request ret, s.calls c = some (.processed request ret) → ret = true
  ids : ∀ thread ∈ s.radioThreads, ∀ ids, thread.ids = some ids →
    ids.1 = thread.request.uniqueId
  refused : s.refused = []

/-- Every entry is held, and nothing was refused. -/
structure Inv (s : State κ) : Prop where
  working : Working s
  held : ∀ u, s.pendingRequests u ≠ none → Held s u

omit [DecidableEq κ] in
theorem inv_initial : Inv (State.initial : State κ) := by
  have hcontexts : ∀ t e, AdapterRuns.State.initial.contexts t ≠ some e := by
    intro t e he
    cases he
  refine ⟨⟨⟨?_, ?_, ?_, ?_⟩, by simp [State.initial], by simp [State.initial],
    by simp [State.initial], rfl⟩, fun u hu => absurd rfl hu⟩
  · exact fun t e he => absurd he (hcontexts t e)
  · exact fun t e he => absurd he (hcontexts t e)
  · exact fun t e he => absurd he (hcontexts t e)
  · exact fun t t' e e' he => absurd he (hcontexts t e)

omit [DecidableEq κ] in
theorem noOrphans_of_inv {s : State κ} (h : Inv s) : NoOrphans s where
  held := h.held
  refusals c request hmem := by simp [h.working.refused] at hmem

omit [DecidableEq κ] in
theorem working_processResponse {s : State κ} (h : Working s) (rsp : UrilProtocolMsg) :
    Working (s.processResponse rsp) := by
  constructor
  · simpa using h.contexts
  · simpa using h.supported
  · simpa using h.accepted
  · simpa using h.ids
  · simpa using h.refused

omit [DecidableEq κ] in
/-- The answer for an id takes the entry, so that nobody has to hold it. -/
theorem inv_processResponse {s : State κ} (h : Working s) {rsp : UrilProtocolMsg}
    (hrsp : rsp.isIndication = 0)
    (hheld : ∀ u, u ≠ rsp.uniqueId → s.pendingRequests u ≠ none → Held s u) :
    Inv (s.processResponse rsp) := by
  refine ⟨working_processResponse h rsp, ?_⟩
  intro u hu
  rw [processResponse_pendingRequests s rsp hrsp, PendingRequests.erase] at hu
  have hne : u ≠ rsp.uniqueId := by
    rintro rfl
    simp at hu
  rw [Function.update_of_ne hne] at hu
  simpa [Held] using hheld u hne hu

theorem inv_track {s : State κ} (h : Inv s) {c : κ} {request : UrilProtocolMsg}
    (hsupported : Supported request) (hidle : s.calls c = none) :
    Inv { s with
      pendingRequests := s.pendingRequests.assign request.uniqueId c
      calls := Function.update s.calls c (some (.tracked request)) } := by
  constructor
  case working =>
    refine ⟨h.working.contexts, ?_, ?_, h.working.ids, h.working.refused⟩
    · intro c' request' hc'
      obtain ⟨-, ⟨⟩⟩ | ⟨-, hc'⟩ := update_eq_some hc'
      · exact hsupported
      · exact h.working.supported c' request' hc'
    · intro c' request' ret hc'
      obtain ⟨-, ⟨⟩⟩ | ⟨-, hc'⟩ := update_eq_some hc'
      exact h.working.accepted c' request' ret hc'
  case held =>
    intro u hu
    obtain rfl | hne := eq_or_ne u request.uniqueId
    · exact .inr (.inr ⟨c, request, by simp, rfl⟩)
    · rcases h.held u (by simpa [PendingRequests.assign, hne] using hu) with
        hcontext | hthread | ⟨c', request', hc', hid⟩
      · exact .inl hcontext
      · exact .inr (.inl hthread)
      · have hne : c' ≠ c := by
          rintro rfl
          simp [hidle] at hc'
        exact .inr (.inr ⟨c', request', by simpa [hne] using hc', hid⟩)

omit [DecidableEq κ] in
theorem held_dispatch {s t : State κ} {c : κ} {request : UrilProtocolMsg} {u : UInt32}
    (hcall : s.calls c = some (.tracked request)) (hrequest : Held t request.uniqueId)
    (hcontexts : ∀ token entry, s.adapter.contexts token = some entry →
      t.adapter.contexts token = some entry)
    (hthreads : ∀ thread ∈ s.radioThreads, thread ∈ t.radioThreads)
    (hcalls : ∀ c', c' ≠ c → t.calls c' = s.calls c') (h : Held s u) : Held t u := by
  rcases h with ⟨token, entry, hentry, hid⟩ | ⟨thread, hthread, hid⟩ | ⟨c', request', hc', hid⟩
  · exact .inl ⟨token, entry, hcontexts token entry hentry, hid⟩
  · exact .inr (.inl ⟨thread, hthreads thread hthread, hid⟩)
  · obtain rfl | hne := eq_or_ne c' c
    · obtain rfl : request = request' := by simpa [hcall] using hc'
      rwa [← hid]
    · exact .inr (.inr ⟨c', request', (hcalls c' hne).trans hc', hid⟩)

theorem working_dispatch {s : State κ} (h : Working s) {c : κ} {request : UrilProtocolMsg}
    {adapter : AdapterRuns.State} (hcontexts : ContextsOk adapter)
    {threads : List (RadioThread κ)}
    (hthreads : ∀ thread ∈ threads, thread ∈ s.radioThreads ∨ thread.ids = none) :
    Working { s with
      adapter := adapter
      calls := Function.update s.calls c (some (.processed request true))
      radioThreads := threads } := by
  refine ⟨hcontexts, ?_, ?_, ?_, h.refused⟩
  · intro c' request' hc'
    obtain ⟨-, ⟨⟩⟩ | ⟨-, hc'⟩ := update_eq_some hc'
    exact h.supported c' request' hc'
  · intro c' request' ret hc'
    obtain ⟨-, ⟨⟩⟩ | ⟨-, hc'⟩ := update_eq_some hc'
    · rfl
    · exact h.accepted c' request' ret hc'
  · intro thread hthread ids hids
    rcases hthreads thread hthread with hold | hnone
    · exact h.ids thread hold ids hids
    · cases hnone.symm.trans hids

theorem inv_dispatch {s t : State κ} (h : Inv s) {c : κ}
    (hstep : step s (.dispatch c) = some t) : Inv t := by
  simp only [step] at hstep
  split at hstep
  case h_2 => cases hstep
  rename_i request hcall
  split at hstep
  case h_2 => cases hstep
  rename_i p hp
  obtain rfl := Option.some.inj hstep
  have hret : p.ret = true :=
    (processRequest_ret request p hp).mpr (h.working.supported c request hcall)
  have houtcome := processRequest_outcome request p hp
  have hcontexts := contextsOk_dispatch h.working.contexts houtcome
  rcases houtcome with _ | hmode | ⟨v, hknown, hid⟩
  · cases hret
  · -- a thread runs for the request
    constructor
    case working =>
      refine working_dispatch h.working hcontexts ?_
      intro thread hthread
      rcases List.mem_append.mp hthread with hold | hnew
      · exact .inl hold
      · obtain rfl := List.mem_singleton.mp hnew
        exact .inr rfl
    case held =>
      intro u hu
      refine held_dispatch hcall (.inr (.inl ⟨⟨c, request, true, none⟩, ?_, rfl⟩))
        (fun _ _ => id) (fun thread hthread => List.mem_append_left _ hthread)
        (fun c' hc' => Function.update_of_ne hc' _ _) (h.held u hu)
      exact List.mem_append_right _ List.mem_cons_self
  · -- the adapter has a context for the request
    constructor
    case working =>
      refine working_dispatch h.working hcontexts ?_
      intro thread hthread
      exact .inl (by simpa [radioThreadsOf] using hthread)
    case held =>
      intro u hu
      have hkept : ∀ token entry, s.adapter.contexts token = some entry →
          token ≠ s.adapter.next := fun token entry hentry =>
        Nat.ne_of_lt (h.working.contexts.bound token entry hentry)
      refine held_dispatch hcall (.inl ⟨s.adapter.next, _, Function.update_self .., rfl⟩)
        (fun token entry hentry => ?_) (fun thread hthread => List.mem_append_left _ hthread)
        (fun c' hc' => Function.update_of_ne hc' _ _) (h.held u hu)
      exact (Function.update_of_ne (hkept token entry hentry) ..).trans hentry

theorem inv_ret {s t : State κ} (h : Inv s) {c : κ} (hstep : step s (.ret c) = some t) :
    Inv t := by
  simp only [step] at hstep
  split at hstep
  case h_2 => cases hstep
  rename_i request ret hcall
  obtain rfl := Option.some.inj hstep
  obtain rfl := h.working.accepted c request ret hcall
  constructor
  case working =>
    refine ⟨h.working.contexts, ?_, ?_, ?_, h.working.refused⟩
    · intro c' request' hc'
      obtain ⟨-, ⟨⟩⟩ | ⟨-, hc'⟩ := update_eq_some hc'
      exact h.working.supported c' request' hc'
    · intro c' request' ret hc'
      obtain ⟨-, ⟨⟩⟩ | ⟨-, hc'⟩ := update_eq_some hc'
      exact h.working.accepted c' request' ret hc'
    · intro thread hthread
      obtain ⟨thread', hthread', rfl⟩ := List.mem_map.mp hthread
      exact h.working.ids thread' hthread'
  case held =>
    intro u hu
    rcases h.held u hu with hcontext | ⟨thread, hthread, hid⟩ | ⟨c', request', hc', hid⟩
    · exact .inl hcontext
    · exact .inr (.inl ⟨thread.returned c, List.mem_map_of_mem hthread, hid⟩)
    · have hne : c' ≠ c := by
        rintro rfl
        simp [hcall] at hc'
      exact .inr (.inr ⟨c', request', by simpa [hne] using hc', hid⟩)

omit [DecidableEq κ] in
theorem inv_adapter {s : State κ} (h : Inv s) {adapter : AdapterRuns.State}
    (hcontexts : adapter.contexts = s.adapter.contexts) (hnext : adapter.next = s.adapter.next) :
    Inv { s with adapter := adapter } := by
  obtain ⟨⟨hknown, hheader, hbound, hapart⟩, hsupported, haccepted, hids, hrefused⟩ := h.working
  refine ⟨⟨⟨?_, ?_, ?_, ?_⟩, hsupported, haccepted, hids, hrefused⟩, ?_⟩
  · rwa [hcontexts]
  · rwa [hcontexts]
  · rwa [hcontexts, hnext]
  · rwa [hcontexts]
  · intro u hu
    have hu := h.held u hu
    rw [Held] at hu ⊢
    rwa [hcontexts]

theorem answer_without_context {s : AdapterRuns.State} {submission : Nat × RilReqId}
    {answer : AdapterRuns.Answer} {u : UInt32} {address : Nat}
    {r : AdapterRuns.State × Option UrilProtocolMsg} (hnone : s.contexts submission.1 = none)
    (hstep : s.answer submission answer u address = some r) :
    r.1.contexts = s.contexts ∧ r.1.next = s.next ∧ r.2 = none := by
  simp only [AdapterRuns.State.answer, hnone, Option.ite_none_right_eq_some, Option.some.injEq]
    at hstep
  obtain ⟨-, rfl⟩ := hstep
  exact ⟨rfl, rfl, rfl⟩

theorem inv_answer {s t : State κ} (h : Inv s) {submission : Nat × RilReqId}
    {answer : AdapterRuns.Answer} {u : UInt32} {address : Nat}
    (hsafe : Served s (.answer submission answer u address))
    (hstep : step s (.answer submission answer u address) = some t) : Inv t := by
  obtain ⟨⟨adapter, rsp⟩, hanswer, rfl⟩ := Option.map_eq_some_iff.mp hstep
  cases hentry : s.adapter.contexts submission.1 with
  | none =>
      obtain ⟨hcontexts, hnext, hrsp⟩ := answer_without_context hentry hanswer
      obtain rfl : rsp = none := hrsp
      exact inv_adapter h hcontexts hnext
  | some entry =>
      have hok := h.working.contexts
      obtain ⟨-, hanswered⟩ := AdapterInvariant.answered_of_entry hok.bound hok.apart hentry
        (hok.known _ _ hentry) (hsafe entry hentry) hanswer
      obtain ⟨uniqueId, hcontexts, hothers, hemitted, hcontinued⟩ :=
        answeredFor_of_answered hok hanswered
      have hworking : Working { s with adapter := adapter } :=
        ⟨hcontexts, h.working.supported, h.working.accepted, h.working.ids, h.working.refused⟩
      cases rsp with
      | none =>
          refine ⟨hworking, fun v hv => ?_⟩
          rcases h.held v hv with ⟨token, e, he, hid⟩ | hrest
          · obtain ⟨e', he', hrequest⟩ := hcontinued rfl token e he
            exact .inl ⟨token, e', he', hrequest ▸ hid⟩
          · exact .inr hrest
      | some rsp =>
          obtain ⟨hindication, hrsp⟩ := hemitted rsp rfl
          refine inv_processResponse hworking hindication fun v hne hv => ?_
          rcases h.held v hv with ⟨token, e, he, hid⟩ | hrest
          · refine .inl ⟨token, e, hothers token e he ?_, hid⟩
            rw [hid, ← hrsp]
            exact hne
          · exact .inr hrest

theorem inv_readIds {s t : State κ} (h : Inv s) {i : Nat} {leftover : UInt32 × UInt8}
    (hserved : Served s (.readIds i leftover)) (hstep : step s (.readIds i leftover) = some t) :
    Inv t := by
  simp only [step] at hstep
  split at hstep
  case h_2 => cases hstep
  rename_i thread hthread
  simp only [Option.ite_none_right_eq_some, Option.some.injEq] at hstep
  obtain ⟨-, rfl⟩ := hstep
  have hlt : i < s.radioThreads.length := (List.getElem?_eq_some_iff.mp hthread).1
  have hread : ∀ ids, (thread.read leftover).ids = some ids →
      ids.1 = thread.request.uniqueId := by
    intro ids hids
    obtain rfl := Option.some.inj hids
    rcases hserved thread hthread with hframe | hleftover
    · simp [hframe]
    · split
      · rfl
      · exact hleftover
  constructor
  case working =>
    refine ⟨h.working.contexts, h.working.supported, h.working.accepted, ?_, h.working.refused⟩
    intro thread' hmem ids hids
    rcases List.mem_or_eq_of_mem_set hmem with hmem | rfl
    · exact h.working.ids thread' hmem ids hids
    · exact hread ids hids
  case held =>
    intro u hu
    rcases h.held u hu with hcontext | ⟨thread', hmem, hid⟩ | hcall
    · exact .inl hcontext
    · refine .inr (.inl ?_)
      obtain ⟨j, hj⟩ := List.getElem?_of_mem hmem
      obtain rfl | hne := eq_or_ne j i
      · obtain rfl : thread = thread' := Option.some.inj (hthread.symm.trans hj)
        exact ⟨thread.read leftover, List.mem_set hlt _, hid⟩
      · exact ⟨thread', List.mem_of_getElem? ((List.getElem?_set_ne hne.symm).trans hj), hid⟩
    · exact .inr (.inr hcall)

theorem inv_radioMode {s t : State κ} (h : Inv s) {i : Nat} {radioState : RadioState}
    (hstep : step s (.radioMode i radioState) = some t) : Inv t := by
  simp only [step] at hstep
  split at hstep
  case h_2 => cases hstep
  rename_i caller request frame uid sid hthread
  split at hstep
  case h_2 => cases hstep
  rename_i hd hbuilt
  obtain rfl := Option.some.inj hstep
  have hid : uid = request.uniqueId :=
    h.working.ids _ (List.mem_of_getElem? hthread) (uid, sid) rfl
  have hrsp : hd.rsp.isIndication = 0 ∧ hd.rsp.uniqueId = uid := by
    rw [(radioModeResponse_answers hbuilt).rsp_eq]
    exact ⟨rfl, rfl⟩
  refine inv_processResponse ?_ hrsp.1 ?_
  · refine ⟨h.working.contexts, h.working.supported, h.working.accepted, ?_, h.working.refused⟩
    exact fun thread hmem => h.working.ids thread (List.mem_of_mem_eraseIdx hmem)
  · intro u hne hu
    rcases h.held u hu with hcontext | ⟨thread, hmem, hthreadId⟩ | hcall
    · exact .inl hcontext
    · refine .inr (.inl ⟨thread, ?_, hthreadId⟩)
      obtain ⟨j, hj⟩ := List.getElem?_of_mem hmem
      refine List.mem_eraseIdx_iff_getElem?.mpr ⟨j, ?_, hj⟩
      rintro rfl
      obtain rfl := Option.some.inj (hthread.symm.trans hj)
      exact hne (hthreadId.symm.trans (hid.symm.trans hrsp.2.symm))
    · exact .inr (.inr hcall)

theorem inv_step {s t : State κ} {a : Action κ} (h : Inv s) (hserved : Served s a)
    (hstep : step s a = some t) : Inv t := by
  cases a with
  | track c request =>
      simp only [step, Option.ite_none_right_eq_some, Option.some.injEq,
        Option.isNone_iff_eq_none] at hstep
      obtain ⟨hidle, rfl⟩ := hstep
      exact inv_track h hserved hidle
  | dispatch c => exact inv_dispatch h hstep
  | ret c => exact inv_ret h hstep
  | answer submission answer u address => exact inv_answer h hserved hstep
  | followUp thread =>
      obtain ⟨adapter, hadapter, rfl⟩ := Option.map_eq_some_iff.mp hstep
      simp only [AdapterRuns.State.submitFollowUp, Option.ite_none_right_eq_some,
        Option.some.injEq] at hadapter
      obtain ⟨-, rfl⟩ := hadapter
      exact inv_adapter h rfl rfl
  | readIds i leftover => exact inv_readIds h hserved hstep
  | radioMode i radioState => exact inv_radioMode h hstep

/-- Along runs that are served, no request is orphaned. -/
theorem no_orphans {s : State κ} (hrun : Reaches step Served (State.initial : State κ) s) :
    NoOrphans s :=
  noOrphans_of_inv (hrun.invariant Inv inv_initial fun _ _ _ => inv_step)

/-- The test of `Served`. -/
def servedTest (s : State κ) : Action κ → Bool
  | .track _ request => decide (Supported request)
  | .readIds i _ => (s.radioThreads[i]?).all (·.frame)
  | .answer submission answer _ _ =>
      (s.adapter.contexts submission.1).all fun entry =>
        !overruns entry.ctx.rilReqId answer.error answer.data
  | _ => true

omit [DecidableEq κ] in
theorem servedTest_sound (s : State κ) (a : Action κ) (h : servedTest s a = true) :
    Served s a := by
  cases a with
  | track c request =>
      have hsupported : Supported request := of_decide_eq_true h
      exact hsupported
  | readIds i leftover =>
      intro thread hthread
      rw [servedTest, hthread] at h
      exact .inl h
  | answer submission answer u address =>
      intro entry hentry
      rw [servedTest, hentry] at h
      simpa using h
  | dispatch c | ret c | followUp thread | radioMode i radioState => trivial

/-- A request with this id and an empty payload. -/
def emptyRequest (msgId uniqueId : UInt32) : UrilProtocolMsg :=
  { UrilProtocolMsg.zeroed with msgId := msgId, uniqueId := uniqueId }

/-- The radio mode is asked for and told, and another request waits. -/
theorem no_orphans_waiting :
    ∃ s : State Nat, Reaches step Served State.initial s ∧
      s.pendingRequests 7 = some (some 1) ∧ s.pendingRequests 8 = none ∧
      s.sent.map (fun m => (m.1, m.2.uniqueId)) = [(2, 8)] ∧ NoOrphans s := by
  obtain ⟨s, hexec, hwaiting, htold, hsent⟩ : ∃ s : State Nat, exec step servedTest State.initial
      [.track 1 (emptyRequest MsgId.nwSetScreen 7), .dispatch 1, .ret 1,
        .track 2 (emptyRequest MsgId.radioGetRadioMode 8), .dispatch 2, .readIds 0 (0, 0),
        .ret 2, .radioMode 0 .on] = some s ∧
      s.pendingRequests 7 = some (some 1) ∧ s.pendingRequests 8 = none ∧
      s.sent.map (fun m => (m.1, m.2.uniqueId)) = [(2, 8)] := ⟨_, rfl, rfl, rfl, rfl⟩
  have hrun : Reaches step Served State.initial s :=
    reaches_of_exec _ servedTest_sound _ hexec
  exact ⟨s, hrun, hwaiting, htold, hsent, no_orphans hrun⟩

/-- A request that is not supported leaves the service as it was tracked:
nothing will come for its entry, and nothing is sent. -/
theorem dispatch_refused {s t : State κ} {c : κ} {request : UrilProtocolMsg}
    (hcall : s.calls c = some (.tracked request)) (hunsupported : ¬ Supported request)
    (hstep : step s (.dispatch c) = some t) :
    t.calls c = some (.processed request false) ∧ t.pendingRequests = s.pendingRequests ∧
      t.adapter.contexts = s.adapter.contexts ∧ t.radioThreads = s.radioThreads ∧
      t.sent = s.sent := by
  simp only [step, hcall] at hstep
  split at hstep
  case h_2 => cases hstep
  rename_i p hp
  obtain rfl := Option.some.inj hstep
  have hret : p.ret ≠ true := mt (processRequest_ret request p hp).mp hunsupported
  cases processRequest_outcome request p hp with
  | refused => exact ⟨Function.update_self .., rfl, rfl, List.append_nil _, rfl⟩
  | radioThread hmode => exact absurd rfl hret
  | submitted v hknown hid => exact absurd rfl hret

/-- No processor takes the message: its entry stays, and its sender is told
nothing. -/
theorem unknown_request_is_orphaned :
    ¬ ∀ s : State Nat, Reaches step anyAction State.initial s → NoOrphans s := by
  intro hnone
  obtain ⟨s, hexec, hpending, hcontexts, hthreads, hcalls⟩ : ∃ s : State Nat,
      exec step (fun _ _ => true) State.initial
        [.track 1 (emptyRequest 0xffff 7), .dispatch 1, .ret 1] = some s ∧
      s.pendingRequests 7 = some (some 1) ∧ s.adapter.contexts = (fun _ => none) ∧
      s.radioThreads = [] ∧
      s.calls = Function.update (Function.update (Function.update (fun _ => none) 1
        (some (.tracked (emptyRequest 0xffff 7)))) 1
        (some (.processed (emptyRequest 0xffff 7) false))) 1 none :=
    ⟨_, rfl, rfl, rfl, rfl, rfl⟩
  have hrun : Reaches _ anyAction _ s := reaches_of_exec _ (fun _ _ _ => trivial) _ hexec
  rcases (hnone s hrun).held 7 (by simp [hpending]) with
    ⟨token, entry, hentry, -⟩ | ⟨thread, hmem, -⟩ | ⟨c, request, hc, -⟩
  · simp [hcontexts] at hentry
  · simp [hthreads] at hmem
  · obtain rfl | hne := eq_or_ne c 1
    · simp [hcalls] at hc
    · simp [hcalls, hne] at hc

end UnifiedRil.OrphanRequests

import Mathlib.Algebra.BigOperators.Ring.Finset
import UnifiedRil.FailureAnswers
import UnifiedRil.RequestAssertions
import UnifiedRil.WholeSystem

namespace UnifiedRil.Quiescence

open UnifiedRil.Library.Runs
open UnifiedRil.Library.Results
open UnifiedRil.Protocol
open UnifiedRil.Messages
open UnifiedRil.MessageTracker
open UnifiedRil.Ril
open UnifiedRil.RilHandlers
open UnifiedRil.RilAdapter
open UnifiedRil.RilResponses
open UnifiedRil.RilHazards
open UnifiedRil.RequestProcessors
open UnifiedRil.RequestAssertions
open UnifiedRil.AdapterInvariant
open UnifiedRil.ClientDispatch
open UnifiedRil.OrphanRequests (Call RadioThread)
open UnifiedRil.RequestHolders
open UnifiedRil.WholeSystem

variable {κ φ δ : Type} [DecidableEq κ]

/-- Clients make no calls, and the modem reports no events. -/
def Internal (s : State κ φ δ) (a : Action κ φ δ) : Prop :=
  Orderly s a ∧
    match a with
    | .track _ | .service _ | .deliver _ _ => True
    | _ => False

/-- Nothing is on its way, and nobody is about to do something. -/
structure Quiescent (s : State κ φ δ) : Prop where
  toService : ∀ j, s.toService j = []
  toClient : ∀ j, s.toClient j = []
  calls : ∀ j, s.service.calls j = none
  contexts : ∀ t, s.service.adapter.contexts t = none
  radioThreads : s.service.radioThreads = []

def callWork : Option Call → Nat
  | none => 0
  | some (.tracked _) => 8
  | some (.processed _ _) => 1

def contextWork : Option AdapterRuns.Entry → Nat
  | none => 0
  | some entry => 2 * answersLeft entry.ctx.rilReqId

def threadWork (thread : RadioThread κ) : Nat := if thread.ids.isNone then 3 else 2

def adapterWork (s : AdapterRuns.State) : Nat :=
  ∑ t ∈ Finset.range s.next, contextWork (s.contexts t) + s.followUps.length

section Work

variable [Fintype κ]

def serviceWork (s : OrphanRequests.State κ) : Nat :=
  ∑ j, callWork (s.calls j) + adapterWork s.adapter + (s.radioThreads.map threadWork).sum

/-- How many steps are left at most. -/
def work (s : State κ φ δ) : Nat :=
  ∑ j, (9 * (s.toService j).length + (s.toClient j).length) + serviceWork s.service

end Work

section Sums

variable {ι α : Type*} [DecidableEq ι]

theorem sum_update {S : Finset ι} {i : ι} (hi : i ∈ S) (w : α → Nat) (f : ι → α) (x : α) :
    ∑ j ∈ S, w (Function.update f i x j) + w (f i) = ∑ j ∈ S, w (f j) + w x := by
  have hrest : ∑ j ∈ S.erase i, w (Function.update f i x j) = ∑ j ∈ S.erase i, w (f j) := by
    refine Finset.sum_congr rfl fun j hj => ?_
    rw [Function.update_of_ne (Finset.ne_of_mem_erase hj)]
  rw [← Finset.add_sum_erase S (fun j => w (Function.update f i x j)) hi,
    ← Finset.add_sum_erase S (fun j => w (f j)) hi, hrest, Function.update_self]
  omega

theorem sum_filter_length [Fintype ι] (l : List (ι × α)) :
    ∑ i, ((l.filter (·.1 = i)).map (·.2)).length = l.length := by
  induction l with
  | nil => simp
  | cons a l ih =>
      have hcons : ∀ i, (((a :: l).filter (·.1 = i)).map (·.2)).length =
          (if a.1 = i then 1 else 0) + ((l.filter (·.1 = i)).map (·.2)).length := by
        intro i
        by_cases hi : a.1 = i <;> simp [hi, Nat.add_comm]
      rw [Finset.sum_congr rfl fun i _ => hcons i, Finset.sum_add_distrib, ih,
        Finset.sum_ite_eq, if_pos (Finset.mem_univ _), List.length_cons, Nat.add_comm]

end Sums

section Service

variable [Fintype κ]

@[simp] theorem callWork_none : callWork none = 0 := rfl

@[simp] theorem callWork_tracked (request : UrilProtocolMsg) :
    callWork (some (.tracked request)) = 8 := rfl

@[simp] theorem callWork_processed (request : UrilProtocolMsg) (ret : Bool) :
    callWork (some (.processed request ret)) = 1 := rfl

@[simp] theorem contextWork_none : contextWork none = 0 := rfl

@[simp] theorem contextWork_some (entry : AdapterRuns.Entry) :
    contextWork (some entry) = 2 * answersLeft entry.ctx.rilReqId := rfl

theorem contextWork_le (entry : AdapterRuns.Entry) : contextWork (some entry) ≤ 6 := by
  have hleft := answersLeft_le entry.ctx.rilReqId
  rw [contextWork_some]
  omega

theorem callWork_update (calls : κ → Option Call) (c : κ) (call : Option Call) :
    ∑ j, callWork (Function.update calls c call j) + callWork (calls c) =
      ∑ j, callWork (calls j) + callWork call :=
  sum_update (Finset.mem_univ c) callWork calls call

omit [DecidableEq κ] [Fintype κ] in
theorem adapterWork_dispatch {s : AdapterRuns.State} {request : UrilProtocolMsg} {p : Processed}
    (c : κ) (houtcome : Outcome request p) :
    adapterWork (s.dispatch request p) +
      ((OrphanRequests.radioThreadsOf c request p.effects).map threadWork).sum ≤
      adapterWork s + 6 := by
  cases houtcome with
  | refused =>
      exact Nat.le_add_right _ _
  | radioThread hmode =>
      have hthread : ((OrphanRequests.radioThreadsOf c request
          [.radioThread request.uniqueId request.simId]).map threadWork).sum = 3 := rfl
      rw [hthread]
      exact Nat.add_le_add_left (by decide) _
  | submitted v hknown hid =>
      have hthreads : ((OrphanRequests.radioThreadsOf c request
          [.submit (makeTokenForMessage v.request request.uniqueId request.simId) v]).map
            threadWork).sum = 0 := rfl
      have hnew := contextWork_le
        ⟨makeTokenForMessage v.request request.uniqueId request.simId, 0, request, []⟩
      have hold : ∑ t ∈ Finset.range s.next, contextWork (Function.update s.contexts s.next
            (some ⟨makeTokenForMessage v.request request.uniqueId request.simId, 0, request, []⟩)
              t) = ∑ t ∈ Finset.range s.next, contextWork (s.contexts t) := by
        refine Finset.sum_congr rfl fun t ht => ?_
        rw [Function.update_of_ne (Finset.mem_range.mp ht).ne]
      rw [hthreads]
      simp only [adapterWork, AdapterRuns.State.dispatch, AdapterRuns.State.perform,
        AdapterRuns.State.submit, Finset.sum_range_succ, hold, Function.update_self]
      omega

theorem dispatch_work {s t : OrphanRequests.State κ} {c : κ}
    (hstep : OrphanRequests.step s (.dispatch c) = some t) :
    serviceWork t + (t.sent.length - s.sent.length) < serviceWork s := by
  simp only [OrphanRequests.step] at hstep
  split at hstep
  case h_2 => cases hstep
  rename_i request hcall
  split at hstep
  case h_2 => cases hstep
  rename_i p hp
  obtain rfl := Option.some.inj hstep
  have hcalls := callWork_update s.calls c (some (.processed request p.ret))
  have hadapter := adapterWork_dispatch (s := s.adapter) c (processRequest_outcome request p hp)
  simp only [hcall, callWork_tracked, callWork_processed] at hcalls
  simp only [serviceWork, List.map_append, List.sum_append]
  omega

theorem ret_work {s t : OrphanRequests.State κ} {c : κ}
    (hstep : OrphanRequests.step s (.ret c) = some t) :
    serviceWork t + (t.sent.length - s.sent.length) < serviceWork s := by
  simp only [OrphanRequests.step] at hstep
  split at hstep
  case h_2 => cases hstep
  rename_i request ret hcall
  obtain rfl := Option.some.inj hstep
  have hcalls := callWork_update s.calls c none
  have hthreads : (s.radioThreads.map (·.returned c)).map threadWork =
      s.radioThreads.map threadWork := by
    rw [List.map_map]
    exact List.map_congr_left fun thread _ => rfl
  simp only [hcall, callWork_none, callWork_processed] at hcalls
  simp only [serviceWork, hthreads]
  omega

omit [DecidableEq κ] in
theorem serviceWork_processResponse (s : OrphanRequests.State κ) (rsp : UrilProtocolMsg) :
    serviceWork (s.processResponse rsp) = serviceWork s := by
  simp [serviceWork]

omit [DecidableEq κ] [Fintype κ] in
theorem processResponse_sent_length (s : OrphanRequests.State κ) (rsp : UrilProtocolMsg) :
    (s.processResponse rsp).sent.length ≤ s.sent.length + 1 := by
  unfold OrphanRequests.State.processResponse
  split
  · exact Nat.le_succ _
  · rw [List.length_append, Nat.add_comm]
    exact Nat.add_le_add_left (Option.length_toList_le) _

theorem answer_work {s t : OrphanRequests.State κ} (h : Kept s) {submission : Nat × RilReqId}
    {answer : AdapterRuns.Answer} {u : UInt32} {address : Nat}
    (hsound : Sound s (.answer submission answer u address))
    (hstep : OrphanRequests.step s (.answer submission answer u address) = some t) :
    serviceWork t + (t.sent.length - s.sent.length) < serviceWork s := by
  obtain ⟨⟨adapter, rsp⟩, hanswer, rfl⟩ := Option.map_eq_some_iff.mp hstep
  have hmem : submission ∈ s.adapter.outstanding := by
    unfold AdapterRuns.State.answer at hanswer
    exact (Option.ite_none_right_eq_some.mp hanswer).1
  obtain ⟨entry, hentry⟩ := h.alive (List.mem_append_left _ hmem)
  have hok := h.entry _ _ hentry
  have hsoundAnswer := hsound entry hentry
  have hsafe : overruns entry.ctx.rilReqId answer.error answer.data = false := by
    simp only [AdapterRuns.isSound, Bool.and_eq_true, Bool.not_eq_true'] at hsoundAnswer
    exact hsoundAnswer.1
  obtain ⟨-, hanswered⟩ := AdapterInvariant.answered_of_entry h.contexts.bound h.contexts.apart
    hentry hok.known hsafe hanswer
  have hrange := Finset.mem_range.mpr (h.contexts.bound _ _ hentry)
  have hleft := answersLeft_pos entry.ctx.rilReqId
  cases hanswered with
  | completed entry' u hd hentry' hrun hlast =>
      have hcontexts := sum_update hrange contextWork s.adapter.contexts none
      have hlength := processResponse_sent_length { s with
        adapter := { s.adapter with
          contexts := Function.update s.adapter.contexts submission.1 none
          outstanding := s.adapter.outstanding.erase submission
          log := .released submission.1 ::
            .emitted submission.1 entry'.request (entry'.answers ++ [answer]) hd.rsp ::
            .used submission.1 true :: s.adapter.log } } hd.rsp
      simp only [hentry, contextWork_none, contextWork_some] at hcontexts
      simp only [serviceWork_processResponse] at hlength ⊢
      simp only [serviceWork, adapterWork]
      omega
  | continued entry' entry'' u hd next hentry' hrun hnext heq hapart =>
      obtain rfl := Option.some.inj (hentry.symm.trans hentry')
      have hcontexts := sum_update hrange contextWork s.adapter.contexts (some entry'')
      have hfollows : nextRequest entry.ctx.rilReqId answer.error = some next := by
        rw [← (runHandler_some hrun).2.followUp_eq, hnext]
      have hrilReqId : entry''.ctx.rilReqId = next := by
        rw [heq]
        simp [afterHandler, hnext]
      have hfewer := (nextRequest_some hfollows).2.2
      simp only [hentry, contextWork_some, hrilReqId] at hcontexts
      simp only [serviceWork, adapterWork, List.length_append, List.length_singleton]
      omega

theorem followUp_work {s t : OrphanRequests.State κ} {thread : Nat × RilReqId}
    (hstep : OrphanRequests.step s (.followUp thread) = some t) :
    serviceWork t + (t.sent.length - s.sent.length) < serviceWork s := by
  obtain ⟨adapter, hadapter, rfl⟩ := Option.map_eq_some_iff.mp hstep
  simp only [AdapterRuns.State.submitFollowUp, Option.ite_none_right_eq_some, Option.some.injEq]
    at hadapter
  obtain ⟨hmem, rfl⟩ := hadapter
  have hlength := List.length_erase_of_mem hmem
  have hpos := List.length_pos_of_mem hmem
  simp only [serviceWork, adapterWork]
  omega

omit [Fintype κ] [DecidableEq κ] in
theorem sum_set {l : List (RadioThread κ)} {i : Nat} {thread : RadioThread κ}
    (hi : l[i]? = some thread) (thread' : RadioThread κ) :
    ((l.set i thread').map threadWork).sum + threadWork thread =
      (l.map threadWork).sum + threadWork thread' := by
  induction l generalizing i with
  | nil => cases hi
  | cons a l ih =>
      cases i with
      | zero =>
          obtain rfl := Option.some.inj hi
          simp only [List.set_cons_zero, List.map_cons, List.sum_cons]
          omega
      | succ i =>
          have hrest := ih hi
          simp only [List.set_cons_succ, List.map_cons, List.sum_cons]
          omega

omit [Fintype κ] [DecidableEq κ] in
theorem sum_eraseIdx {l : List (RadioThread κ)} {i : Nat} {thread : RadioThread κ}
    (hi : l[i]? = some thread) :
    ((l.eraseIdx i).map threadWork).sum + threadWork thread = (l.map threadWork).sum := by
  obtain ⟨hlt, rfl⟩ := List.getElem?_eq_some_iff.mp hi
  have hperm := ((List.getElem_cons_eraseIdx_perm hlt).map threadWork).sum_eq
  rw [List.map_cons, List.sum_cons] at hperm
  omega

theorem readIds_work {s t : OrphanRequests.State κ} {i : Nat} {leftover : UInt32 × UInt8}
    (hstep : OrphanRequests.step s (.readIds i leftover) = some t) :
    serviceWork t + (t.sent.length - s.sent.length) < serviceWork s := by
  simp only [OrphanRequests.step] at hstep
  split at hstep
  case h_2 => cases hstep
  rename_i thread hthread
  simp only [Option.ite_none_right_eq_some, Option.some.injEq] at hstep
  obtain ⟨hunread, rfl⟩ := hstep
  have hthreads := sum_set hthread (thread.read leftover)
  have hbefore : threadWork thread = 3 := if_pos hunread
  have hafter : threadWork (thread.read leftover) = 2 := rfl
  simp only [serviceWork]
  omega

theorem radioMode_work {s t : OrphanRequests.State κ} {i : Nat} {radioState : RadioState}
    (hstep : OrphanRequests.step s (.radioMode i radioState) = some t) :
    serviceWork t + (t.sent.length - s.sent.length) < serviceWork s := by
  simp only [OrphanRequests.step] at hstep
  split at hstep
  case h_2 => cases hstep
  rename_i caller request frame uid sid hthread
  split at hstep
  case h_2 => cases hstep
  rename_i hd hbuilt
  obtain rfl := Option.some.inj hstep
  have hthreads := sum_eraseIdx hthread
  have hbefore : threadWork (⟨caller, request, frame, some (uid, sid)⟩ : RadioThread κ) = 2 := rfl
  have hlength := processResponse_sent_length
    { s with radioThreads := s.radioThreads.eraseIdx i } hd.rsp
  rw [serviceWork_processResponse]
  simp only [serviceWork] at hlength ⊢
  omega

theorem service_work {s t : OrphanRequests.State κ} {a : OrphanRequests.Action κ} (h : Kept s)
    (htrack : isTrack a = false) (hsound : Sound s a)
    (hstep : OrphanRequests.step s a = some t) :
    serviceWork t + (t.sent.length - s.sent.length) < serviceWork s := by
  cases a with
  | track c request => cases htrack
  | dispatch c => exact dispatch_work hstep
  | ret c => exact ret_work hstep
  | answer submission answer u address => exact answer_work h hsound hstep
  | followUp thread => exact followUp_work hstep
  | readIds i leftover => exact readIds_work hstep
  | radioMode i radioState => exact radioMode_work hstep

theorem track_work {s t : OrphanRequests.State κ} {c : κ} {request : UrilProtocolMsg}
    (hstep : OrphanRequests.step s (.track c request) = some t) :
    serviceWork t = serviceWork s + 8 := by
  simp only [OrphanRequests.step, Option.ite_none_right_eq_some, Option.some.injEq,
    Option.isNone_iff_eq_none] at hstep
  obtain ⟨hidle, rfl⟩ := hstep
  have hcalls := callWork_update s.calls c (some (.tracked request))
  simp only [hidle, callWork_none, callWork_tracked] at hcalls
  simp only [serviceWork]
  omega

end Service

section System

variable [Fintype κ]

theorem sentTo_length (s t : OrphanRequests.State κ) :
    ∑ j, (sentTo j s t).length ≤ t.sent.length - s.sent.length := by
  calc ∑ j, (sentTo j s t).length
      = (t.sent.take (t.sent.length - s.sent.length)).length := sum_filter_length _
    _ ≤ t.sent.length - s.sent.length := List.length_take_le ..

theorem internal_work {indCb defaultRespCb : κ → Option φ} {s t : State κ φ δ}
    {a : Action κ φ δ} (h : Whole indCb defaultRespCb s) (hinternal : Internal s a)
    (hstep : step s a = some t) : work t < work s := by
  obtain ⟨horderly, hkind⟩ := hinternal
  cases a with
  | client j a => exact hkind.elim
  | send j k request => exact hkind.elim
  | unsolicited event connections => exact hkind.elim
  | track j =>
      simp only [step] at hstep
      split at hstep
      · rename_i request rest hchannel
        obtain ⟨service, hservice, rfl⟩ := Option.map_eq_some_iff.mp hstep
        have hqueue := sum_update (Finset.mem_univ j) List.length s.toService rest
        have htracked := track_work hservice
        simp only [hchannel, List.length_cons] at hqueue
        simp only [work, Finset.sum_add_distrib, ← Finset.mul_sum, htracked]
        omega
      · cases hstep
  | service a =>
      simp only [step, Option.ite_none_left_eq_some, Option.map_eq_some_iff] at hstep
      obtain ⟨htrack, service, hservice, rfl⟩ := hstep
      have hless := service_work h.kept (Bool.not_eq_true _ ▸ htrack) horderly hservice
      have hsent := sentTo_length s.service service
      simp only [work, List.length_append, Finset.sum_add_distrib, ← Finset.mul_sum]
      omega
  | deliver j i =>
      simp only [step] at hstep
      split at hstep
      · rename_i msg hi
        obtain ⟨client, hclient, rfl⟩ := Option.map_eq_some_iff.mp hstep
        have hlt := (List.getElem?_eq_some_iff.mp hi).1
        have hchannel := sum_update (Finset.mem_univ j) List.length s.toClient
          ((s.toClient j).eraseIdx i)
        rw [List.length_eraseIdx_of_lt hlt] at hchannel
        simp only [work, Finset.sum_add_distrib, ← Finset.mul_sum]
        omega
      · cases hstep

end System

section Progress

theorem exists_free (s : AdapterRuns.State) : ∃ address, s.isFree address = true := by
  let address (t : Nat) := ((s.contexts t).map (·.address)).getD 0
  refine ⟨(Finset.range s.next).sup address + sizeofMsg, List.all_eq_true.mpr fun t ht => ?_⟩
  have hbelow := Finset.le_sup (f := address) (Finset.mem_range.mpr (List.mem_range.mp ht))
  cases hentry : s.contexts t with
  | none => rfl
  | some entry =>
      have haddress : address t = entry.address := by simp [address, hentry]
      rw [haddress] at hbelow
      simp [hbelow]

theorem failure_enabled {s : AdapterRuns.State} {submission : Nat × RilReqId}
    {entry : AdapterRuns.Entry} (hmem : submission ∈ s.outstanding)
    (hentry : s.contexts submission.1 = some entry)
    (hknown : ∀ number, entry.ctx.rilReqId ≠ .other number) :
    ∃ address r, s.answer submission ⟨.radioNotAvailable, .null⟩ 0 address = some r := by
  obtain ⟨address, hfree⟩ := exists_free s
  obtain ⟨handled, -, -, hhandler⟩ :=
    FailureAnswers.responseHandler_failed hknown (responseOf entry.ctx)
      (nofun : RilErrno.radioNotAvailable ≠ .success)
  have hrun : runHandler entry.ctx .radioNotAvailable .null 0 =
      .ok (afterHandler entry.ctx handled, some handled) := by
    rw [runHandler, hhandler]
    rfl
  have hplace : entry.ctx.rsp.isSome ∨
      { s with outstanding := s.outstanding.erase submission }.isFree
        (if entry.ctx.rsp.isNone then address else entry.address) := by
    cases hrsp : entry.ctx.rsp with
    | none => exact .inr hfree
    | some rsp => exact .inl rfl
  refine ⟨address, ?_⟩
  unfold AdapterRuns.State.answer
  rw [if_pos hmem]
  dsimp only
  rw [hentry]
  dsimp only
  rw [hrun, if_pos hplace]
  exact ⟨_, rfl⟩

variable {indCb defaultRespCb : κ → Option φ} {s : State κ φ δ}

/-- The service or a channel can go on. -/
def CanGoOn (s : State κ φ δ) : Prop := ∃ a, Internal s a ∧ (step s a).isSome

theorem service_goesOn {a : OrphanRequests.Action κ} (htrack : isTrack a = false)
    (hsound : Sound s.service a) (hstep : (OrphanRequests.step s.service a).isSome) :
    CanGoOn s := by
  refine ⟨.service a, ⟨hsound, trivial⟩, ?_⟩
  rw [step, htrack, if_neg Bool.false_ne_true, Option.isSome_map]
  exact hstep

theorem deliver_goesOn {j : κ} (h : s.toClient j ≠ []) : CanGoOn s := by
  obtain ⟨msg, rest, hchannel⟩ := List.exists_cons_of_ne_nil h
  have hfirst : (s.toClient j)[0]? = some msg := by
    rw [hchannel]
    rfl
  refine ⟨.deliver j 0, ⟨trivial, trivial⟩, ?_⟩
  rw [step, hfirst]
  dsimp only
  rw [Option.isSome_map, ClientRuns.step]
  split <;> rfl

theorem call_goesOn (h : Whole indCb defaultRespCb s)
    (hknown : ∀ j, ∀ p ∈ s.requests j, EnumsKnown p.2) {j : κ} (hcall : s.service.calls j ≠ none) :
    CanGoOn s := by
  obtain ⟨call, hcall⟩ := Option.ne_none_iff_exists'.mp hcall
  cases call with
  | tracked request =>
      obtain ⟨c, -, k, hmem⟩ := h.owned.pending _ _ (.call hcall)
      obtain ⟨p, hp⟩ := (processRequest_succeeds request).mpr (hknown c _ hmem)
      refine service_goesOn (a := .dispatch j) rfl trivial ?_
      simp only [OrphanRequests.step, hcall, hp, Option.isSome_some]
  | processed request ret =>
      refine service_goesOn (a := .ret j) rfl trivial ?_
      simp only [OrphanRequests.step, hcall, Option.isSome_some]

theorem context_goesOn (h : Whole indCb defaultRespCb s) {token : Nat}
    (hentry : s.service.adapter.contexts token ≠ none) : CanGoOn s := by
  obtain ⟨entry, hentry⟩ := Option.ne_none_iff_exists'.mp hentry
  have hattended : 0 < s.service.adapter.obligations token := by
    rw [h.kept.attended, lives_some hentry]
    exact Nat.one_pos
  obtain ⟨⟨t, request⟩, hmem, ht⟩ := List.countP_pos_iff.mp hattended
  obtain rfl : t = token := beq_iff_eq.mp ht
  rcases List.mem_append.mp hmem with houtstanding | hfollowUp
  · -- the vendor answers
    obtain ⟨address, r, hanswer⟩ :=
      failure_enabled houtstanding hentry (h.kept.entry _ _ hentry).known
    refine service_goesOn
      (a := .answer (t, request) ⟨.radioNotAvailable, .null⟩ 0 address) rfl ?_ ?_
    · intro entry' _
      rfl
    · simp only [OrphanRequests.step, hanswer, Option.map_some, Option.isSome_some]
  · -- the detached thread submits its request
    refine service_goesOn (a := .followUp (t, request)) rfl trivial ?_
    simp only [OrphanRequests.step, AdapterRuns.State.submitFollowUp, if_pos hfollowUp,
      Option.map_some, Option.isSome_some]

theorem thread_goesOn (h : s.service.radioThreads ≠ []) : CanGoOn s := by
  obtain ⟨⟨caller, request, frame, ids⟩, rest, hthreads⟩ := List.exists_cons_of_ne_nil h
  cases ids with
  | none =>
      refine service_goesOn (a := .readIds 0 (request.uniqueId, request.simId)) rfl ?_ ?_
      · intro thread hthread
        rw [hthreads] at hthread
        obtain rfl := Option.some.inj hthread
        exact .inr rfl
      · rw [OrphanRequests.step, hthreads]
        rfl
  | some ids =>
      refine service_goesOn (a := .radioMode 0 .on) rfl trivial ?_
      rw [OrphanRequests.step, hthreads]
      rfl

/-- A pump that may not track the next request yet waits for an answer. -/
theorem track_goesOn (h : Whole indCb defaultRespCb s) {j : κ} (hchannel : s.toService j ≠ [])
    (hcalls : ∀ c, s.service.calls c = none)
    (hcontexts : ∀ t, s.service.adapter.contexts t = none)
    (hthreads : s.service.radioThreads = []) : CanGoOn s := by
  obtain ⟨request, rest, hchannel⟩ := List.exists_cons_of_ne_nil hchannel
  refine ⟨.track j, ⟨fun request' rest' hchannel' => ?_, trivial⟩, ?_⟩
  · by_contra hpending
    rcases h.served.held _ hpending with ⟨t, e, he, -⟩ | ⟨thread, hmem, -⟩ | ⟨c, r, hc, -⟩
    · cases (hcontexts t).symm.trans he
    · rw [hthreads] at hmem
      cases hmem
    · cases (hcalls c).symm.trans hc
  · simp only [step, hchannel, OrphanRequests.step, hcalls, Option.isNone_none, if_true,
      Option.map_some, Option.isSome_some]

theorem goesOn_of_not_quiescent (h : Whole indCb defaultRespCb s)
    (hknown : ∀ j, ∀ p ∈ s.requests j, EnumsKnown p.2) (hbusy : ¬ Quiescent s) : CanGoOn s := by
  by_contra hstuck
  have hcalls : ∀ j, s.service.calls j = none := fun j =>
    not_not.mp fun hcall => hstuck (call_goesOn h hknown hcall)
  have hcontexts : ∀ t, s.service.adapter.contexts t = none := fun t =>
    not_not.mp fun hentry => hstuck (context_goesOn h hentry)
  have hthreads : s.service.radioThreads = [] :=
    not_not.mp fun hthread => hstuck (thread_goesOn hthread)
  refine hbusy ⟨fun j => ?_, fun j => ?_, hcalls, hcontexts, hthreads⟩
  · exact not_not.mp fun hchannel => hstuck (track_goesOn h hchannel hcalls hcontexts hthreads)
  · exact not_not.mp fun hchannel => hstuck (deliver_goesOn hchannel)

/-- At rest the answers are nowhere else than at the calls. -/
theorem answered_of_quiescent (h : Whole indCb defaultRespCb s) (hquiet : Quiescent s) {j : κ}
    {k : Nat} {u : UInt32} (hsent : Sent (s.clients j) k u) : answered s j u = 1 := by
  have hconserved := h.conserved j u
  have hnone : s.service.pendingRequests u = none := by
    by_contra hpending
    rcases h.served.held _ hpending with ⟨t, e, he, -⟩ | ⟨thread, hmem, -⟩ | ⟨c, r, hc, -⟩
    · cases (hquiet.contexts t).symm.trans he
    · rw [hquiet.radioThreads] at hmem
      cases hmem
    · cases (hquiet.calls c).symm.trans hc
  have hnowhere : onTheWay s j u = 0 := by
    rw [onTheWay, hquiet.toService, hquiet.toClient, hnone]
    rfl
  rw [hnowhere, Nat.zero_add, (h.requested_eq j u).1 ⟨k, hsent⟩] at hconserved
  exact hconserved

end Progress

theorem internal_whole {indCb defaultRespCb : κ → Option φ} {s t : State κ φ δ}
    (h : Whole indCb defaultRespCb s)
    (hrun : Reaches step Internal s t) : Whole indCb defaultRespCb t :=
  hrun.invariant (Whole indCb defaultRespCb) h fun _ _ _ hs hinternal hnext =>
    whole_step hs hinternal.1 hnext

theorem internal_requests {s t : State κ φ δ} {a : Action κ φ δ} (hinternal : Internal s a)
    (hstep : step s a = some t) : t.requests = s.requests := by
  cases a with
  | client j a => exact hinternal.2.elim
  | send j k request => exact hinternal.2.elim
  | unsolicited event connections => exact hinternal.2.elim
  | track j =>
      simp only [step] at hstep
      split at hstep
      · obtain ⟨service, -, rfl⟩ := Option.map_eq_some_iff.mp hstep
        rfl
      · cases hstep
  | service a =>
      simp only [step, Option.ite_none_left_eq_some, Option.map_eq_some_iff] at hstep
      obtain ⟨-, service, -, rfl⟩ := hstep
      rfl
  | deliver j i =>
      simp only [step] at hstep
      split at hstep
      · obtain ⟨client, -, rfl⟩ := Option.map_eq_some_iff.mp hstep
        rfl
      · cases hstep

end UnifiedRil.Quiescence

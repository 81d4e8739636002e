import UnifiedRil.AdapterRuns

namespace UnifiedRil.AdapterInvariant

open UnifiedRil.Library.Layout
open UnifiedRil.Library.Runs
open UnifiedRil.Protocol
open UnifiedRil.Messages
open UnifiedRil.Ril
open UnifiedRil.RilHandlers
open UnifiedRil.RilAdapter
open UnifiedRil.RilResponses
open UnifiedRil.RilHazards
open UnifiedRil.RequestProcessors
open UnifiedRil.AdapterRuns

/-- The answers lead to a context and a response when the request is alone,
whatever the uninitialised variable holds. -/
def LeadsAlone (request : UrilProtocolMsg) (answers : List Answer)
    (r : RilRequestContext × Option UrilProtocolMsg) : Prop :=
  ∀ l : List (Answer × UInt32), l.map (·.1) = answers → serveAlone request l = some r

theorem leadsAlone_append {request : UrilProtocolMsg} {answers : List Answer}
    {ctx ctx' : RilRequestContext} {answer : Answer} {u : UInt32} {handled : Option Handled}
    (h : LeadsAlone request answers (ctx, none))
    (hrun : runHandler ctx answer.error answer.data u = .ok (ctx', handled))
    (hsound : isSound ctx.rilReqId answer = true) :
    LeadsAlone request (answers ++ [answer]) (ctx', completedResponse ctx' handled) := by
  intro l hl
  obtain ⟨before, last, rfl, hbefore, hlast⟩ := List.map_eq_append_iff.mp hl
  obtain ⟨⟨a, u'⟩, rfl, rfl⟩ := List.map_eq_singleton_iff.mp hlast
  have huninit : usesUninitialised ctx.rilReqId a.error a.data = false := by
    simp only [isSound, Bool.and_eq_true, Bool.not_eq_true'] at hsound
    exact hsound.2
  rw [serveAlone_append, h before hbefore]
  simp only [aloneStep]
  rw [runHandler_congr huninit u' u, hrun]

/-- The message answers the request. -/
structure HeaderOf (request rsp : UrilProtocolMsg) : Prop where
  isIndication : rsp.isIndication = 0
  uniqueId : rsp.uniqueId = request.uniqueId
  simId : rsp.simId = request.simId

/-- How many answers a context is still to be given at most. -/
def answersLeft : RilReqId → Nat
  | .voiceRegistrationState => 3
  | .dataRegistrationState => 2
  | _ => 1

theorem answersLeft_pos (rilReqId : RilReqId) : 0 < answersLeft rilReqId := by
  unfold answersLeft
  split <;> decide

theorem answersLeft_le (rilReqId : RilReqId) : answersLeft rilReqId ≤ 3 := by
  unfold answersLeft
  split <;> decide

/-- What is known about a context that exists. -/
structure EntryOk (entry : Entry) : Prop where
  bounded : entry.answers.length + answersLeft entry.ctx.rilReqId ≤ 3
  known : ∀ number, entry.ctx.rilReqId ≠ .other number
  msgId : responseMsgId entry.ctx.rilReqId = entry.request.msgId
  header : HeaderOf entry.request (responseOf entry.ctx)
  alone : LeadsAlone entry.request entry.answers (entry.ctx, none)

theorem initialContext_submitted {msg : UrilProtocolMsg} {ctx : RilRequestContext}
    {v : VendorRequest} (h : processRequest msg = .ok ⟨[.submit ctx v], true⟩) :
    initialContext msg = some ctx := by
  rw [initialContext, h]

theorem entryOk_new {msg : UrilProtocolMsg} {v : VendorRequest}
    (h : processRequest msg =
      .ok ⟨[.submit (makeTokenForMessage v.request msg.uniqueId msg.simId) v], true⟩)
    (hknown : ∀ number, v.request ≠ .other number) (hid : responseMsgId v.request = msg.msgId) :
    EntryOk ⟨makeTokenForMessage v.request msg.uniqueId msg.simId, 0, msg, []⟩ where
  bounded := (Nat.zero_add _).trans_le (answersLeft_le v.request)
  known := hknown
  msgId := hid
  header := ⟨rfl, rfl, rfl⟩
  alone l hl := by
    obtain rfl := List.map_eq_nil_iff.mp hl
    simp [serveAlone, initialContext_submitted h]

theorem nextRequest_some {rilReqId next : RilReqId} {e : RilErrno}
    (h : nextRequest rilReqId e = some next) :
    responseMsgId next = responseMsgId rilReqId ∧ (∀ number, next ≠ .other number) ∧
      answersLeft next + 1 = answersLeft rilReqId := by
  cases rilReqId with
  | voiceRegistrationState =>
      simp only [nextRequest, Option.ite_none_right_eq_some, Option.some.injEq] at h
      obtain ⟨-, rfl⟩ := h
      exact ⟨rfl, nofun, rfl⟩
  | dataRegistrationState =>
      simp only [nextRequest, Option.ite_none_right_eq_some, Option.some.injEq] at h
      obtain ⟨-, rfl⟩ := h
      exact ⟨rfl, nofun, rfl⟩
  | _ => cases h

theorem runHandler_known {ctx ctx' : RilRequestContext} {e : RilErrno} {data : RilData}
    {u : UInt32} {handled : Option Handled} (hknown : ∀ number, ctx.rilReqId ≠ .other number)
    (hrun : runHandler ctx e data u = .ok (ctx', handled)) : ∃ h, handled = some h := by
  unfold runHandler at hrun
  split at hrun
  · rename_i hnone
    cases hid : ctx.rilReqId with
    | other number => exact absurd hid (hknown number)
    | _ => rw [hid] at hnone; cases hnone
  · rename_i run hhandler
    cases run with
    | error fault => cases hrun
    | ok h => cases hrun; exact ⟨h, rfl⟩

theorem completedResponse_afterHandler (ctx : RilRequestContext) (h : Handled) :
    completedResponse (afterHandler ctx h) (some h) =
      if h.followUp.isNone then some h.rsp else none := by
  simp [completedResponse, afterHandler]

section Answered

variable {entry : Entry} {answer : Answer} {u : UInt32} {h : Handled}

theorem header_answered (hentry : EntryOk entry)
    (hrun : runHandler entry.ctx answer.error answer.data u =
      .ok (afterHandler entry.ctx h, some h)) :
    HeaderOf entry.request h.rsp ∧ h.rsp.msgId = entry.request.msgId := by
  have hanswers := (runHandler_some hrun).2
  rw [hanswers.rsp_eq]
  exact ⟨⟨hentry.header.isIndication, hentry.header.uniqueId, hentry.header.simId⟩, hentry.msgId⟩

theorem leadsAlone_completed (hentry : EntryOk entry)
    (hrun : runHandler entry.ctx answer.error answer.data u =
      .ok (afterHandler entry.ctx h, some h))
    (hsound : isSound entry.ctx.rilReqId answer = true) (hlast : h.followUp = none) :
    LeadsAlone entry.request (entry.answers ++ [answer])
      (afterHandler entry.ctx h, some h.rsp) := by
  have halone := leadsAlone_append hentry.alone hrun hsound
  rwa [completedResponse_afterHandler, hlast, if_pos Option.isNone_none] at halone

theorem entryOk_continued (hentry : EntryOk entry)
    (hrun : runHandler entry.ctx answer.error answer.data u =
      .ok (afterHandler entry.ctx h, some h))
    (hsound : isSound entry.ctx.rilReqId answer = true) {next : RilReqId}
    (hnext : h.followUp = some next) (address : Nat) :
    EntryOk ⟨afterHandler entry.ctx h, address, entry.request, entry.answers ++ [answer]⟩ := by
  have hfollows : nextRequest entry.ctx.rilReqId answer.error = some next := by
    rw [← (runHandler_some hrun).2.followUp_eq, hnext]
  obtain ⟨hid, hknown, hleft⟩ := nextRequest_some hfollows
  have hrilReqId : (afterHandler entry.ctx h).rilReqId = next := by simp [afterHandler, hnext]
  have halone := leadsAlone_append hentry.alone hrun hsound
  rw [completedResponse_afterHandler, hnext, if_neg (by simp)] at halone
  refine ⟨?_, ?_, ?_, (header_answered hentry hrun).1, halone⟩
  · have hbounded := hentry.bounded
    rw [hrilReqId, List.length_append, List.length_singleton]
    omega
  · rwa [hrilReqId]
  · rw [hrilReqId, hid]
    exact hentry.msgId

end Answered

theorem storedByte_outside {h : Handled} (hinside : ∀ x ∈ h.extents, x.stop ≤ maxUrilPayloadSize)
    {base address : Nat} (hout : address < base ∨ base + sizeofMsg ≤ address) :
    storedByte h base address = none := by
  have hnot : ¬ (base + payloadOffset ≤ address ∧
      ∃ x ∈ h.extents, address - (base + payloadOffset) ∈ x) := by
    rintro ⟨hbase, x, hx, hmem⟩
    have hstop := hinside x hx
    rw [Extent.mem_iff] at hmem
    simp only [maxUrilPayloadSize, payloadOffset, sizeofMsg] at *
    omega
  exact if_neg hnot

theorem overwritten_none {stored : Nat → Option UInt8} {address : Nat}
    (h : ∀ i < sizeofMsg, stored (address + i) = none) (msg : UrilProtocolMsg) :
    overwritten stored address msg = msg := by
  have himage : ((msg.image fun _ => 0).zipIdx.map fun p =>
      (stored (address + p.2)).getD p.1) = msg.image fun _ => 0 := by
    apply List.ext_getElem
    · rw [List.length_map, List.length_zipIdx]
    · intro i h₁ h₂
      rw [image_length] at h₂
      simp [h i h₂]
  exact (congrArg UrilProtocolMsg.ofImage himage).trans (ofImage_image ..)

theorem hit_none {stored : Nat → Option UInt8} {entry : Entry}
    (h : entry.ctx.rsp.isSome → ∀ i < sizeofMsg, stored (entry.address + i) = none) :
    entry.hit stored = entry := by
  obtain ⟨ctx, address, request, answers⟩ := entry
  obtain ⟨rilReqId, uniqueId, simId, rsp, isCompleted⟩ := ctx
  cases rsp with
  | none => rfl
  | some msg => simp [Entry.hit, overwritten_none (h rfl)]

/-- One for a context that exists. -/
def lives (s : State) (token : Nat) : Nat := if (s.contexts token).isSome then 1 else 0

theorem lives_some {s : State} {token : Nat} {e : Entry} (h : s.contexts token = some e) :
    lives s token = 1 := by
  rw [lives, h, Option.isSome_some, if_pos rfl]

theorem lives_none {s : State} {token : Nat} (h : s.contexts token = none) :
    lives s token = 0 := by
  rw [lives, h, Option.isSome_none, if_neg Bool.false_ne_true]

theorem lives_congr {s s' : State} {token : Nat} (h : s'.contexts token = s.contexts token) :
    lives s' token = lives s token := by
  rw [lives, lives, h]

/-- Two responses in memory do not overlap. -/
def Apart (e e' : Entry) : Prop :=
  e.ctx.rsp.isSome → e'.ctx.rsp.isSome →
    e.address + sizeofMsg ≤ e'.address ∨ e'.address + sizeofMsg ≤ e.address

/-- A response that was emitted is the one for its request. -/
structure Emitted (s : State) (token : Nat) (request : UrilProtocolMsg) (answers : List Answer)
    (rsp : UrilProtocolMsg) : Prop where
  made : ∃ v, .accepted request [(token, v)] ∈ s.log
  header : HeaderOf request rsp
  msgId : rsp.msgId = request.msgId
  alone : ∃ ctx, LeadsAlone request answers (ctx, some rsp)

structure Inv (s : State) : Prop where
  entry : ∀ t e, s.contexts t = some e → EntryOk e
  owner : ∀ t e, s.contexts t = some e → ∃ v, .accepted e.request [(t, v)] ∈ s.log
  apart : ∀ t t' e e', s.contexts t = some e → s.contexts t' = some e' → t ≠ t' → Apart e e'
  obligations : ∀ t, s.obligations t = lives s t
  emissions_eq : ∀ t, emissions t s.log + lives s t = if t < s.next then 1 else 0
  releases_eq : ∀ t, releases t s.log = emissions t s.log
  made_eq : made s.log = (List.range s.next).reverse
  accepted : ∀ request submissions, .accepted request submissions ∈ s.log →
    ∃ t v, submissions = [(t, v)]
  used : ∀ t, .used t false ∉ s.log
  emitted : ∀ t request answers rsp, .emitted t request answers rsp ∈ s.log →
    Emitted s t request answers rsp

theorem inv_initial : Inv State.initial where
  entry t e h := by cases h
  owner t e h := by cases h
  apart t t' e e' h := by cases h
  obligations t := rfl
  emissions_eq t := rfl
  releases_eq t := rfl
  made_eq := rfl
  accepted request submissions h := by cases h
  used t h := by cases h
  emitted t request answers rsp h := by cases h

theorem Inv.alive {s : State} (h : Inv s) {p : Nat × RilReqId}
    (hp : p ∈ s.outstanding ++ s.followUps) : ∃ e, s.contexts p.1 = some e := by
  have hpos : 0 < s.obligations p.1 :=
    List.countP_pos_iff.mpr ⟨p, hp, beq_self_eq_true p.1⟩
  cases he : s.contexts p.1 with
  | none =>
      rw [h.obligations, lives_none he] at hpos
      exact absurd hpos (Nat.lt_irrefl 0)
  | some e => exact ⟨e, rfl⟩

theorem Inv.lt_next {s : State} (h : Inv s) {t : Nat} {e : Entry}
    (he : s.contexts t = some e) : t < s.next := by
  have hsum := h.emissions_eq t
  rw [lives_some he] at hsum
  split at hsum
  · assumption
  · omega

/-- What an answer does in a run with sound answers. -/
inductive Answered (s : State) (submission : Nat × RilReqId) (answer : Answer) :
    State × Option UrilProtocolMsg → Prop
  | completed (entry : Entry) (u : UInt32) (h : Handled) :
      s.contexts submission.1 = some entry →
      runHandler entry.ctx answer.error answer.data u = .ok (afterHandler entry.ctx h, some h) →
      h.followUp = none →
      Answered s submission answer
        ({ s with
            contexts := Function.update s.contexts submission.1 none
            outstanding := s.outstanding.erase submission
            log := .released submission.1 ::
              .emitted submission.1 entry.request (entry.answers ++ [answer]) h.rsp ::
              .used submission.1 true :: s.log },
          some h.rsp)
  | continued (entry entry' : Entry) (u : UInt32) (h : Handled) (next : RilReqId) :
      s.contexts submission.1 = some entry →
      runHandler entry.ctx answer.error answer.data u = .ok (afterHandler entry.ctx h, some h) →
      h.followUp = some next →
      entry' = ⟨afterHandler entry.ctx h, entry'.address, entry.request,
        entry.answers ++ [answer]⟩ →
      (∀ t e, s.contexts t = some e → t ≠ submission.1 → Apart e entry') →
      Answered s submission answer
        ({ s with
            contexts := Function.update s.contexts submission.1 (some entry')
            outstanding := s.outstanding.erase submission
            followUps := s.followUps ++ [(submission.1, next)]
            log := .used submission.1 true :: s.log },
          none)

theorem isFree_apart {s : State} (hbound : ∀ t e, s.contexts t = some e → t < s.next)
    {address : Nat} (hfree : s.isFree address = true) {t : Nat} {e : Entry}
    (he : s.contexts t = some e) (hrsp : e.ctx.rsp.isSome) :
    address + sizeofMsg ≤ e.address ∨ e.address + sizeofMsg ≤ address := by
  have hmem := List.all_eq_true.mp hfree t (List.mem_range.mpr (hbound t e he))
  simp only [he, Bool.or_eq_true, decide_eq_true_eq, Option.isNone_iff_eq_none] at hmem
  rcases hmem with (hnone | hbelow) | habove
  · rw [hnone] at hrsp
    cases hrsp
  · exact .inl hbelow
  · exact .inr habove

theorem answered_of_entry {s : State} (hbound : ∀ t e, s.contexts t = some e → t < s.next)
    (hapart : ∀ t t' e e', s.contexts t = some e → s.contexts t' = some e' → t ≠ t' → Apart e e')
    {submission : Nat × RilReqId} {answer : Answer} {u : UInt32} {address : Nat} {entry : Entry}
    (hentry : s.contexts submission.1 = some entry)
    (hknown : ∀ number, entry.ctx.rilReqId ≠ .other number)
    (hsafe : overruns entry.ctx.rilReqId answer.error answer.data = false)
    {r : State × Option UrilProtocolMsg} (hstep : s.answer submission answer u address = some r) :
    submission ∈ s.outstanding ∧ Answered s submission answer r := by
  unfold State.answer at hstep
  rw [Option.ite_none_right_eq_some] at hstep
  obtain ⟨hmem, hstep⟩ := hstep
  refine ⟨hmem, ?_⟩
  dsimp only at hstep
  rw [hentry] at hstep
  dsimp only at hstep
  rw [Option.ite_none_right_eq_some] at hstep
  obtain ⟨hplace, hstep⟩ := hstep
  generalize haddress : (if entry.ctx.rsp.isNone = true then address else entry.address) = place
    at hplace hstep
  split at hstep
  · rename_i ctx handled hrun
    obtain ⟨hd, rfl⟩ := runHandler_known hknown hrun
    obtain ⟨rfl, hanswers⟩ := runHandler_some hrun
    have hinside := inside_of_not_overruns hrun hsafe
    have hclear : ∀ t e, s.contexts t = some e → t ≠ submission.1 → e.ctx.rsp.isSome →
        place + sizeofMsg ≤ e.address ∨ e.address + sizeofMsg ≤ place := by
      intro t e he ht hrsp
      cases hold : entry.ctx.rsp with
      | none =>
          have hfree : s.isFree place = true := by simpa [hold, State.isFree] using hplace
          exact isFree_apart hbound hfree he hrsp
      | some msg =>
          rw [hold] at haddress
          obtain rfl : entry.address = place := haddress
          exact (hapart _ _ _ _ hentry he ht.symm (by rw [hold]; rfl) hrsp)
    have hothers : ∀ x, Function.update
        (fun t => (s.contexts t).map (Entry.hit fun a => storedByte hd place a))
        submission.1 x = Function.update s.contexts submission.1 x := by
      intro x
      funext t
      obtain rfl | ht := eq_or_ne t submission.1
      · rw [Function.update_self, Function.update_self]
      · rw [Function.update_of_ne ht, Function.update_of_ne ht]
        cases he : s.contexts t with
        | none => rfl
        | some e =>
            refine congrArg some (hit_none fun hrsp i hi => ?_)
            have hdisjoint := hclear t e he ht hrsp
            refine storedByte_outside hinside ?_
            omega
    obtain rfl := Option.some.inj hstep
    unfold State.settle
    rw [completedResponse_afterHandler]
    cases hnext : hd.followUp with
    | none =>
        simp only [Option.bind_some, hothers, hnext, Option.map_none, Option.toList_none,
          List.append_nil, Option.isNone_none, if_true]
        exact .completed entry u hd hentry hrun hnext
    | some next =>
        simp only [Option.bind_some, hothers, hnext, Option.map_some, Option.toList_some,
          Option.isNone_some, Bool.false_eq_true, if_false]
        refine .continued entry
          ⟨afterHandler entry.ctx hd, place, entry.request, entry.answers ++ [answer]⟩
          u hd next hentry hrun hnext rfl ?_
        intro t e he ht hrsp _
        exact (hclear t e he ht hrsp).symm
  · cases hstep

theorem answered_of_answer {s : State} (h : Inv s) {submission : Nat × RilReqId}
    {answer : Answer} {u : UInt32} {address : Nat} {r : State × Option UrilProtocolMsg}
    (hstep : s.answer submission answer u address = some r)
    (hsound : SoundAnswer s (.answer submission answer u address)) :
    submission ∈ s.outstanding ∧ Answered s submission answer r := by
  have hmem : submission ∈ s.outstanding := by
    unfold State.answer at hstep
    rw [Option.ite_none_right_eq_some] at hstep
    exact hstep.1
  obtain ⟨entry, hentry⟩ := h.alive (List.mem_append_left _ hmem)
  have hsafe : overruns entry.ctx.rilReqId answer.error answer.data = false := by
    have hs := hsound entry hentry
    simp only [isSound, Bool.and_eq_true, Bool.not_eq_true'] at hs
    exact hs.1
  exact answered_of_entry (fun _ _ => h.lt_next) h.apart hentry (h.entry _ _ hentry).known hsafe
    hstep

theorem Emitted.mono {s s' : State} {token : Nat} {request rsp : UrilProtocolMsg}
    {answers : List Answer} (h : Emitted s token request answers rsp)
    (hlog : ∀ e ∈ s.log, e ∈ s'.log) : Emitted s' token request answers rsp := by
  obtain ⟨v, hv⟩ := h.made
  exact ⟨⟨v, hlog _ hv⟩, h.header, h.msgId, h.alone⟩

theorem Inv.fresh {s : State} (h : Inv s) : s.contexts s.next = none := by
  cases he : s.contexts s.next with
  | none => rfl
  | some e => exact absurd (h.lt_next he) (Nat.lt_irrefl _)

@[simp]
theorem emissions_cons_emitted (token t : Nat) (request rsp : UrilProtocolMsg)
    (answers : List Answer) (log : List Event) :
    emissions token (.emitted t request answers rsp :: log) =
      emissions token log + if t = token then 1 else 0 := by
  simp [emissions, List.countP_cons]

@[simp]
theorem releases_cons_released (token t : Nat) (log : List Event) :
    releases token (.released t :: log) =
      releases token log + if t = token then 1 else 0 := by
  simp [releases, List.countP_cons]

theorem countP_erase_add {l : List (Nat × RilReqId)} {p : Nat × RilReqId} (hp : p ∈ l)
    (t : Nat) :
    (l.erase p).countP (fun q => q.1 == t) + (if p.1 = t then 1 else 0) =
      l.countP fun q => q.1 == t := by
  rw [(List.perm_cons_erase hp).countP_eq, List.countP_cons]
  simp only [beq_iff_eq]

theorem inv_refused {s : State} (h : Inv s) (msg : UrilProtocolMsg) :
    Inv { s with log := .refused msg :: s.log } where
  entry := h.entry
  owner t e he := (h.owner t e he).imp fun _ hv => List.mem_cons_of_mem _ hv
  apart := h.apart
  obligations := h.obligations
  emissions_eq := h.emissions_eq
  releases_eq := h.releases_eq
  made_eq := h.made_eq
  accepted request submissions hmem := by
    rcases List.mem_cons.mp hmem with heq | hmem
    · cases heq
    · exact h.accepted request submissions hmem
  used t hmem := by
    rcases List.mem_cons.mp hmem with heq | hmem
    · cases heq
    · exact h.used t hmem
  emitted t request answers rsp hmem := by
    rcases List.mem_cons.mp hmem with heq | hmem
    · cases heq
    · exact (h.emitted t request answers rsp hmem).mono fun _ => List.mem_cons_of_mem _

theorem update_eq_some {ι α : Type} [DecidableEq ι] {f : ι → Option α} {a i : ι} {x : Option α}
    {y : α} (h : Function.update f a x i = some y) :
    (i = a ∧ x = some y) ∨ (i ≠ a ∧ f i = some y) := by
  obtain rfl | hi := eq_or_ne i a
  · rw [Function.update_self] at h
    exact .inl ⟨rfl, h⟩
  · rw [Function.update_of_ne hi] at h
    exact .inr ⟨hi, h⟩

theorem apart_update {f : Nat → Option Entry}
    (h : ∀ t t' e e', f t = some e → f t' = some e' → t ≠ t' → Apart e e') {a : Nat}
    {x : Option Entry} (hx : ∀ e, x = some e → ∀ t e', f t = some e' → t ≠ a → Apart e' e) :
    ∀ t t' e e', Function.update f a x t = some e → Function.update f a x t' = some e' →
      t ≠ t' → Apart e e' := by
  intro t t' e e' he he' hne
  rcases update_eq_some he, update_eq_some he' with
    ⟨⟨ht, hxe⟩ | ⟨ht, hfe⟩, ⟨ht', hxe'⟩ | ⟨ht', hfe'⟩⟩
  · exact absurd (ht.trans ht'.symm) hne
  · exact fun hr hr' => (hx e hxe t' e' hfe' ht' hr' hr).symm
  · exact hx e' hxe' t e hfe ht
  · exact h t t' e e' hfe hfe' hne

theorem apart_of_rsp_none {e e' : Entry} (h : e'.ctx.rsp = none) : Apart e e' := by
  intro _ hr'
  simp [h] at hr'

theorem inv_submitted {s : State} (h : Inv s) {msg : UrilProtocolMsg} {ctx : RilRequestContext}
    (hctx : EntryOk ⟨ctx, 0, msg, []⟩) (hrsp : ctx.rsp = none) (v : VendorRequest) :
    Inv { s.submit msg ctx v with
      log := .accepted msg [(s.next, v)] :: (s.submit msg ctx v).log } where
  entry t e he := by
    obtain ⟨rfl, ⟨⟩⟩ | ⟨-, he⟩ := update_eq_some he
    · exact hctx
    · exact h.entry t e he
  owner t e he := by
    obtain ⟨rfl, ⟨⟩⟩ | ⟨-, he⟩ := update_eq_some he
    · exact ⟨v, List.mem_cons_self⟩
    · exact (h.owner t e he).imp fun _ hv => List.mem_cons_of_mem _ hv
  apart := by
    refine apart_update h.apart ?_
    rintro e ⟨⟩ t e' - -
    exact apart_of_rsp_none hrsp
  obligations t := by
    have hold := h.obligations t
    simp only [State.obligations, State.submit, List.countP_append, List.countP_cons,
      List.countP_nil, beq_iff_eq] at hold ⊢
    obtain rfl | ht := eq_or_ne t s.next
    · rw [lives_none h.fresh] at hold
      rw [lives_some (Function.update_self ..), if_pos rfl]
      omega
    · rw [lives_congr (Function.update_of_ne ht ..), if_neg ht.symm]
      omega
  emissions_eq t := by
    have hold := h.emissions_eq t
    change emissions t s.log + _ = if t < s.next + 1 then 1 else 0
    obtain rfl | ht := eq_or_ne t s.next
    · rw [lives_none h.fresh, if_neg (Nat.lt_irrefl _)] at hold
      rw [lives_some (Function.update_self ..), if_pos (Nat.lt_succ_self _)]
      omega
    · rw [lives_congr (Function.update_of_ne ht ..), hold]
      refine if_congr ?_ rfl rfl
      omega
  releases_eq := h.releases_eq
  made_eq := by
    change [s.next] ++ made s.log = (List.range (s.next + 1)).reverse
    rw [h.made_eq, List.range_succ, List.reverse_append, List.reverse_singleton]
  accepted request submissions hmem := by
    rcases List.mem_cons.mp hmem with heq | hmem
    · cases heq
      exact ⟨s.next, v, rfl⟩
    · exact h.accepted request submissions hmem
  used t hmem := by
    rcases List.mem_cons.mp hmem with heq | hmem
    · cases heq
    · exact h.used t hmem
  emitted t request answers rsp hmem := by
    rcases List.mem_cons.mp hmem with heq | hmem
    · cases heq
    · exact (h.emitted t request answers rsp hmem).mono fun _ => List.mem_cons_of_mem _

theorem inv_request {s t : State} (h : Inv s) {msg : UrilProtocolMsg}
    (hstep : step s (.request msg) = some t) : Inv t := by
  simp only [step] at hstep
  split at hstep
  · cases hstep
  · rename_i hradio
    split at hstep
    · rename_i p hp
      obtain rfl := Option.some.inj hstep
      rcases processRequest_outcome msg p hp with _ | hmode | ⟨v, hknown, hid⟩
      · exact inv_refused h msg
      · exact absurd hmode hradio
      · exact inv_submitted h (entryOk_new hp hknown hid) rfl v
    · cases hstep

theorem inv_followUp {s t : State} (h : Inv s) {thread : Nat × RilReqId}
    (hstep : step s (.followUp thread) = some t) : Inv t := by
  simp only [step, State.submitFollowUp, Option.ite_none_right_eq_some, Option.some.injEq]
    at hstep
  obtain ⟨hmem, rfl⟩ := hstep
  obtain ⟨entry, hentry⟩ := h.alive (List.mem_append_right _ hmem)
  refine
    { entry := h.entry
      owner := fun t e he => (h.owner t e he).imp fun _ hv => List.mem_cons_of_mem _ hv
      apart := h.apart
      obligations := fun t => ?_
      emissions_eq := h.emissions_eq
      releases_eq := h.releases_eq
      made_eq := h.made_eq
      accepted := fun request submissions hmem => ?_
      used := fun t hmem => ?_
      emitted := fun t request answers rsp hmem => ?_ }
  · refine Eq.trans ?_ (h.obligations t)
    have herase := countP_erase_add hmem t
    simp only [State.obligations, List.countP_append, List.countP_cons, List.countP_nil,
      beq_iff_eq]
    omega
  · rcases List.mem_cons.mp hmem with heq | hmem
    · cases heq
    · exact h.accepted request submissions hmem
  · rw [hentry] at hmem
    rcases List.mem_cons.mp hmem with heq | hmem
    · cases heq
    · exact h.used t hmem
  · rcases List.mem_cons.mp hmem with heq | hmem
    · cases heq
    · exact (h.emitted t request answers rsp hmem).mono fun _ => List.mem_cons_of_mem _

section AnswerSteps

variable {s : State} {submission : Nat × RilReqId} {answer : Answer} {entry : Entry} {u : UInt32}
  {hd : Handled}

theorem inv_completed (h : Inv s) (hmem : submission ∈ s.outstanding)
    (hentry : s.contexts submission.1 = some entry)
    (hrun : runHandler entry.ctx answer.error answer.data u =
      .ok (afterHandler entry.ctx hd, some hd))
    (hsound : isSound entry.ctx.rilReqId answer = true) (hlast : hd.followUp = none) :
    Inv
      { s with
        contexts := Function.update s.contexts submission.1 none
        outstanding := s.outstanding.erase submission
        log := .released submission.1 ::
          .emitted submission.1 entry.request (entry.answers ++ [answer]) hd.rsp ::
          .used submission.1 true :: s.log } where
  entry t e he := by
    obtain ⟨-, ⟨⟩⟩ | ⟨-, he⟩ := update_eq_some he
    exact h.entry t e he
  owner t e he := by
    obtain ⟨-, ⟨⟩⟩ | ⟨-, he⟩ := update_eq_some he
    obtain ⟨v, hv⟩ := h.owner t e he
    exact ⟨v, by simp [hv]⟩
  apart := by
    refine apart_update h.apart ?_
    rintro e ⟨⟩
  obligations t := by
    have hold := h.obligations t
    have herase := countP_erase_add hmem t
    simp only [State.obligations, List.countP_append] at hold ⊢
    obtain rfl | ht := eq_or_ne t submission.1
    · rw [lives_some hentry] at hold
      rw [lives_none (Function.update_self ..)]
      rw [if_pos rfl] at herase
      omega
    · rw [lives_congr (Function.update_of_ne ht ..)]
      rw [if_neg ht.symm] at herase
      omega
  emissions_eq t := by
    have hold := h.emissions_eq t
    rw [← hold]
    change emissions t (.emitted submission.1 entry.request (entry.answers ++ [answer])
      hd.rsp :: s.log) + _ = _
    rw [emissions_cons_emitted]
    obtain rfl | ht := eq_or_ne t submission.1
    · rw [lives_some hentry, lives_none (Function.update_self ..), if_pos rfl]
    · rw [lives_congr (Function.update_of_ne ht ..), if_neg ht.symm, Nat.add_zero]
  releases_eq t := by
    change releases t (.released submission.1 :: s.log) =
      emissions t (.emitted submission.1 entry.request (entry.answers ++ [answer])
      hd.rsp :: s.log)
    rw [releases_cons_released, emissions_cons_emitted, h.releases_eq]
  made_eq := h.made_eq
  accepted request submissions hmem := h.accepted request submissions (by simpa using hmem)
  used t hmem := h.used t (by simpa using hmem)
  emitted t request answers rsp hmem := by
    simp only [List.mem_cons, reduceCtorEq, false_or] at hmem
    rcases hmem with heq | hmem
    · cases heq
      obtain ⟨hheader, hid⟩ := header_answered (h.entry _ _ hentry) hrun
      obtain ⟨v, hv⟩ := h.owner _ _ hentry
      exact ⟨⟨v, by simp [hv]⟩, hheader, hid, _,
        leadsAlone_completed (h.entry _ _ hentry) hrun hsound hlast⟩
    · exact (h.emitted t request answers rsp hmem).mono fun e he => by simp [he]

theorem inv_continued (h : Inv s) (hmem : submission ∈ s.outstanding)
    (hentry : s.contexts submission.1 = some entry) {entry' : Entry} (hentry' : EntryOk entry')
    (hrequest : entry'.request = entry.request)
    (hapart : ∀ t e, s.contexts t = some e → t ≠ submission.1 → Apart e entry')
    (next : RilReqId) :
    Inv
      { s with
        contexts := Function.update s.contexts submission.1 (some entry')
        outstanding := s.outstanding.erase submission
        followUps := s.followUps ++ [(submission.1, next)]
        log := .used submission.1 true :: s.log } where
  entry t e he := by
    obtain ⟨-, ⟨⟩⟩ | ⟨-, he⟩ := update_eq_some he
    · exact hentry'
    · exact h.entry t e he
  owner t e he := by
    obtain ⟨rfl, ⟨⟩⟩ | ⟨-, he⟩ := update_eq_some he
    · rw [hrequest]
      exact (h.owner _ _ hentry).imp fun _ hv => List.mem_cons_of_mem _ hv
    · exact (h.owner t e he).imp fun _ hv => List.mem_cons_of_mem _ hv
  apart := by
    refine apart_update h.apart ?_
    rintro e ⟨⟩
    exact hapart
  obligations t := by
    have hold := h.obligations t
    have herase := countP_erase_add hmem t
    simp only [State.obligations, List.countP_append, List.countP_cons, List.countP_nil,
      beq_iff_eq] at hold ⊢
    obtain rfl | ht := eq_or_ne t submission.1
    · rw [lives_some hentry] at hold
      rw [lives_some (Function.update_self ..)]
      omega
    · rw [lives_congr (Function.update_of_ne ht ..)]
      omega
  emissions_eq t := by
    rw [← h.emissions_eq t]
    obtain rfl | ht := eq_or_ne t submission.1
    · rw [lives_some hentry, lives_some (Function.update_self ..)]
      rfl
    · rw [lives_congr (Function.update_of_ne ht ..)]
      rfl
  releases_eq := h.releases_eq
  made_eq := h.made_eq
  accepted request submissions hmem := h.accepted request submissions (by simpa using hmem)
  used t hmem := h.used t (by simpa using hmem)
  emitted t request answers rsp hmem :=
    (h.emitted t request answers rsp (by simpa using hmem)).mono fun _ => List.mem_cons_of_mem _

end AnswerSteps

theorem inv_answer {s t : State} (h : Inv s) {submission : Nat × RilReqId} {answer : Answer}
    {u : UInt32} {address : Nat} (hsound : SoundAnswer s (.answer submission answer u address))
    (hstep : step s (.answer submission answer u address) = some t) : Inv t := by
  simp only [step, Option.map_eq_some_iff] at hstep
  obtain ⟨r, hanswer, rfl⟩ := hstep
  obtain ⟨hmem, hanswered⟩ := answered_of_answer h hanswer hsound
  cases hanswered with
  | completed entry u hd hentry hrun hlast =>
      exact inv_completed h hmem hentry hrun (hsound entry hentry) hlast
  | continued entry entry' u hd next hentry hrun hnext heq hapart =>
      have hok := entryOk_continued (h.entry _ _ hentry) hrun (hsound entry hentry) hnext
        entry'.address
      rw [← heq] at hok
      refine inv_continued h hmem hentry hok ?_ hapart next
      rw [heq]

theorem inv_step {s t : State} {action : Action} (h : Inv s) (hsound : SoundAnswer s action)
    (hstep : step s action = some t) : Inv t := by
  cases action with
  | request msg => exact inv_request h hstep
  | answer submission answer u address => exact inv_answer h hsound hstep
  | followUp thread => exact inv_followUp h hstep

theorem inv_of_run {s : State} (hrun : Reaches step SoundAnswer State.initial s) : Inv s :=
  hrun.invariant Inv inv_initial fun _ _ _ => inv_step

end UnifiedRil.AdapterInvariant

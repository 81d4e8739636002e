import UnifiedRil.Library.Pairing
import UnifiedRil.OrphanRequests

/-!
The parameters that the detached threads of `getRadioModeV1` refer to, where
they lie on the stacks of the pump threads. A thread reads the unique id and
then the sim id of its response through its references, when the method may have
returned and its frame may be that of something else.
-/

namespace UnifiedRil.RadioModeThreads

open UnifiedRil.Library.Runs
open UnifiedRil.Library.Pairing
open UnifiedRil.Protocol
open UnifiedRil.Messages
open UnifiedRil.Ril
open UnifiedRil.RilAdapter
open UnifiedRil.RequestProcessors
open UnifiedRil.OrphanRequests

variable {κ : Type} [DecidableEq κ]

/-- Where `uniqueId` and `simId` of a request method lie. -/
structure Frame where
  uniqueId : Nat
  simId : Nat

def Frame.apart (frame frame' : Frame) : Bool :=
  frame.uniqueId ≠ frame'.uniqueId && frame.simId ≠ frame'.simId

/-- What `asyncFunc` has: its two references, and what it read through them. -/
structure Reader where
  refs : Frame
  uid : Option UInt32
  sid : Option UInt8

structure State (κ : Type) where
  service : OrphanRequests.State κ
  /-- the words and the bytes of the stacks -/
  uids : Nat → UInt32
  sids : Nat → UInt8
  frames : List (κ × Frame)
  readers : List Reader
  /-- the responses of radio threads, with the requests that started these -/
  emitted : List (UrilProtocolMsg × UrilProtocolMsg)

def State.initial (uids : Nat → UInt32) (sids : Nat → UInt8) : State κ :=
  { service := .initial, uids := uids, sids := sids, frames := [], readers := [], emitted := [] }

inductive Action (κ : Type)
  | track (c : κ) (request : UrilProtocolMsg)
  | dispatch (c : κ) (frame : Frame)
  | ret (c : κ)
  | answer (submission : Nat × RilReqId) (answer : AdapterRuns.Answer)
      (uninitialised : UInt32) (address : Nat)
  | followUp (thread : Nat × RilReqId)
  /-- anything else is written to a stack -/
  | writeUid (location : Nat) (value : UInt32)
  | writeSid (location : Nat) (value : UInt8)
  | readUid (i : Nat)
  | readSid (i : Nat)
  | radioMode (i : Nat) (radioState : RadioState)

/-- A step of the service in which no radio thread takes part. -/
def State.serve (s : State κ) (a : OrphanRequests.Action κ) : Option (State κ) :=
  (OrphanRequests.step s.service a).map fun service => { s with service := service }

/-- `getRadioModeV1` hands references to its parameters to the thread it starts. -/
def readersOf (c : κ) (request : UrilProtocolMsg) (effects : List Effect) (frame : Frame) :
    List Reader :=
  (radioThreadsOf c request effects).map fun _ => ⟨frame, none, none⟩

def step (s : State κ) : Action κ → Option (State κ)
  | .track c request => s.serve (.track c request)
  | .dispatch c frame =>
      match s.service.calls c with
      | some (.tracked request) =>
          match processRequest request with
          | .ok p =>
              if s.frames.all fun live => frame.apart live.2 then
                (s.serve (.dispatch c)).map fun s =>
                  { s with
                    uids := Function.update s.uids frame.uniqueId request.uniqueId
                    sids := Function.update s.sids frame.simId request.simId
                    frames := (c, frame) :: s.frames
                    readers := s.readers ++ readersOf c request p.effects frame }
              else none
          | .error _ => none
      | _ => none
  | .ret c =>
      (s.serve (.ret c)).map fun s => { s with frames := s.frames.filter (·.1 ≠ c) }
  | .answer submission answer uninitialised address =>
      s.serve (.answer submission answer uninitialised address)
  | .followUp thread => s.serve (.followUp thread)
  | .writeUid location value =>
      if s.frames.all fun live => live.2.uniqueId ≠ location then
        some { s with uids := Function.update s.uids location value }
      else none
  | .writeSid location value =>
      if s.frames.all fun live => live.2.simId ≠ location then
        some { s with sids := Function.update s.sids location value }
      else none
  | .readUid i =>
      match s.readers[i]? with
      | some ⟨refs, none, sid⟩ =>
          some { s with readers := s.readers.set i ⟨refs, some (s.uids refs.uniqueId), sid⟩ }
      | _ => none
  | .readSid i =>
      match s.readers[i]?, s.service.radioThreads[i]? with
      | some ⟨refs, some uid, none⟩, some thread =>
          let thread := { thread with ids := some (uid, s.sids refs.simId) }
          some { s with
            readers := s.readers.set i ⟨refs, some uid, some (s.sids refs.simId)⟩
            service := { s.service with radioThreads := s.service.radioThreads.set i thread } }
      | _, _ => none
  | .radioMode i radioState =>
      match s.service.radioThreads[i]? with
      | some ⟨_, request, _, some (uid, sid)⟩ =>
          match radioModeResponse uid sid radioState with
          | .ok h =>
              (s.serve (.radioMode i radioState)).map fun s =>
                { s with
                  readers := s.readers.eraseIdx i
                  emitted := (request, h.rsp) :: s.emitted }
          | .error _ => none
      | _ => none

/-- The response is that of the request. -/
def Carries (request rsp : UrilProtocolMsg) : Prop :=
  rsp.uniqueId = request.uniqueId ∧ rsp.simId = request.simId

/-- Every response of a radio thread carries the ids of its request. -/
def OwnIds (s : State κ) : Prop :=
  ∀ request rsp, (request, rsp) ∈ s.emitted → Carries request rsp

/-- No thread has still to read another unique id here. -/
def KeepsUids (s : State κ) (location : Nat) (value : UInt32) : Prop :=
  ∀ r ∈ s.readers, r.uid = none → r.refs.uniqueId = location → value = s.uids location

def KeepsSids (s : State κ) (location : Nat) (value : UInt8) : Prop :=
  ∀ r ∈ s.readers, r.sid = none → r.refs.simId = location → value = s.sids location

/-- What is written to a stack does not change a parameter that a radio thread has
still to read. -/
def Undisturbed (s : State κ) : Action κ → Prop
  | .dispatch c frame => ∀ request, s.service.calls c = some (.tracked request) →
      KeepsUids s frame.uniqueId request.uniqueId ∧ KeepsSids s frame.simId request.simId
  | .writeUid location value => KeepsUids s location value
  | .writeSid location value => KeepsSids s location value
  | _ => True

/-- What a step does. -/
inductive Moves (s : State κ) : Action κ → State κ → Prop
  | served {a : Action κ} (b : OrphanRequests.Action κ) (service : OrphanRequests.State κ) :
      Undisturbed s a → OrphanRequests.step s.service b = some service →
      service.radioThreads = s.service.radioThreads → Moves s a { s with service := service }
  | dispatched (c : κ) (frame : Frame) (request : UrilProtocolMsg) (effects : List Effect)
      (service : OrphanRequests.State κ) :
      s.service.calls c = some (.tracked request) →
      (∀ live ∈ s.frames, frame.apart live.2 = true) →
      OrphanRequests.step s.service (.dispatch c) = some service →
      service.radioThreads = s.service.radioThreads ++ radioThreadsOf c request effects →
      Moves s (.dispatch c frame)
        { s with
          service := service
          uids := Function.update s.uids frame.uniqueId request.uniqueId
          sids := Function.update s.sids frame.simId request.simId
          frames := (c, frame) :: s.frames
          readers := s.readers ++ readersOf c request effects frame }
  | returned (c : κ) (service : OrphanRequests.State κ) :
      OrphanRequests.step s.service (.ret c) = some service →
      service.radioThreads = s.service.radioThreads.map (·.returned c) →
      Moves s (.ret c) { s with service := service, frames := s.frames.filter (·.1 ≠ c) }
  | wroteUid (location : Nat) (value : UInt32) :
      (∀ live ∈ s.frames, live.2.uniqueId ≠ location) →
      Moves s (.writeUid location value) { s with uids := Function.update s.uids location value }
  | wroteSid (location : Nat) (value : UInt8) :
      (∀ live ∈ s.frames, live.2.simId ≠ location) →
      Moves s (.writeSid location value) { s with sids := Function.update s.sids location value }
  | readUid (i : Nat) (refs : Frame) (sid : Option UInt8) :
      s.readers[i]? = some ⟨refs, none, sid⟩ →
      Moves s (.readUid i)
        { s with readers := s.readers.set i ⟨refs, some (s.uids refs.uniqueId), sid⟩ }
  | readSid (i : Nat) (refs : Frame) (uid : UInt32) (thread : RadioThread κ) :
      s.readers[i]? = some ⟨refs, some uid, none⟩ → s.service.radioThreads[i]? = some thread →
      Moves s (.readSid i)
        { s with
          readers := s.readers.set i ⟨refs, some uid, some (s.sids refs.simId)⟩
          service := { s.service with
            radioThreads := s.service.radioThreads.set i
              { thread with ids := some (uid, s.sids refs.simId) } } }
  | emitted (i : Nat) (radioState : RadioState) (thread : RadioThread κ) (uid : UInt32)
      (sid : UInt8) (h : RilHandlers.Handled) (service : OrphanRequests.State κ) :
      s.service.radioThreads[i]? = some thread → thread.ids = some (uid, sid) →
      radioModeResponse uid sid radioState = .ok h →
      OrphanRequests.step s.service (.radioMode i radioState) = some service →
      service.radioThreads = s.service.radioThreads.eraseIdx i →
      Moves s (.radioMode i radioState)
        { s with
          service := service
          readers := s.readers.eraseIdx i
          emitted := (thread.request, h.rsp) :: s.emitted }

theorem moves_of_serve {s t : State κ} {a : Action κ} {b : OrphanRequests.Action κ}
    (hquiet : Undisturbed s a) (hstep : s.serve b = some t)
    (hthreads : ∀ service, OrphanRequests.step s.service b = some service →
      service.radioThreads = s.service.radioThreads) : Moves s a t := by
  obtain ⟨service, hservice, rfl⟩ := Option.map_eq_some_iff.mp hstep
  exact .served b service hquiet hservice (hthreads service hservice)

theorem moves_track {s t : State κ} {c : κ} {request : UrilProtocolMsg}
    (hstep : step s (.track c request) = some t) : Moves s (.track c request) t := by
  refine moves_of_serve trivial hstep fun service hservice => ?_
  simp only [OrphanRequests.step, Option.ite_none_right_eq_some, Option.some.injEq] at hservice
  obtain ⟨-, rfl⟩ := hservice
  rfl

theorem moves_answer {s t : State κ} {submission : Nat × RilReqId}
    {answer : AdapterRuns.Answer} {uninitialised : UInt32} {address : Nat}
    (hstep : step s (.answer submission answer uninitialised address) = some t) :
    Moves s (.answer submission answer uninitialised address) t := by
  refine moves_of_serve trivial hstep fun service hservice => ?_
  obtain ⟨⟨adapter, rsp⟩, -, rfl⟩ := Option.map_eq_some_iff.mp hservice
  cases rsp with
  | none => rfl
  | some rsp => exact processResponse_radioThreads _ rsp

theorem moves_followUp {s t : State κ} {thread : Nat × RilReqId}
    (hstep : step s (.followUp thread) = some t) : Moves s (.followUp thread) t := by
  refine moves_of_serve trivial hstep fun service hservice => ?_
  obtain ⟨adapter, -, rfl⟩ := Option.map_eq_some_iff.mp hservice
  rfl

theorem moves_dispatch {s t : State κ} {c : κ} {frame : Frame}
    (hstep : step s (.dispatch c frame) = some t) : Moves s (.dispatch c frame) t := by
  simp only [step] at hstep
  split at hstep
  case h_2 => cases hstep
  rename_i request hcall
  split at hstep
  case h_2 => cases hstep
  rename_i p hp
  simp only [Option.ite_none_right_eq_some, List.all_eq_true] at hstep
  obtain ⟨hapart, hstep⟩ := hstep
  simp only [State.serve, Option.map_map, Option.map_eq_some_iff] at hstep
  obtain ⟨service, hservice, rfl⟩ := hstep
  refine .dispatched c frame request p.effects service hcall hapart hservice ?_
  simp only [OrphanRequests.step, hcall, hp, Option.some.injEq] at hservice
  rw [← hservice]

theorem moves_ret {s t : State κ} {c : κ} (hstep : step s (.ret c) = some t) :
    Moves s (.ret c) t := by
  simp only [step, State.serve, Option.map_map, Option.map_eq_some_iff] at hstep
  obtain ⟨service, hservice, rfl⟩ := hstep
  refine .returned c service hservice ?_
  simp only [OrphanRequests.step] at hservice
  split at hservice
  case h_2 => cases hservice
  obtain rfl := Option.some.inj hservice
  rfl

theorem moves_readSid {s t : State κ} {i : Nat} (hstep : step s (.readSid i) = some t) :
    Moves s (.readSid i) t := by
  simp only [step] at hstep
  split at hstep
  case h_2 => cases hstep
  rename_i refs uid thread hreader hthread
  obtain rfl := Option.some.inj hstep
  exact .readSid i refs uid thread hreader hthread

theorem moves_radioMode {s t : State κ} {i : Nat} {radioState : RadioState}
    (hstep : step s (.radioMode i radioState) = some t) :
    Moves s (.radioMode i radioState) t := by
  simp only [step] at hstep
  split at hstep
  case h_2 => cases hstep
  rename_i caller request frame uid sid hthread
  split at hstep
  case h_2 => cases hstep
  rename_i h hbuilt
  simp only [State.serve, Option.map_map, Option.map_eq_some_iff] at hstep
  obtain ⟨service, hservice, rfl⟩ := hstep
  refine .emitted i radioState ⟨caller, request, frame, some (uid, sid)⟩ uid sid h service hthread
    rfl hbuilt hservice ?_
  simp only [OrphanRequests.step, hthread, hbuilt, Option.some.injEq] at hservice
  rw [← hservice, processResponse_radioThreads]

theorem moves_of_step {s t : State κ} {a : Action κ} (hstep : step s a = some t) :
    Moves s a t := by
  cases a with
  | track c request => exact moves_track hstep
  | dispatch c frame => exact moves_dispatch hstep
  | ret c => exact moves_ret hstep
  | answer submission answer uninitialised address => exact moves_answer hstep
  | followUp thread => exact moves_followUp hstep
  | writeUid location value =>
      simp only [step, Option.ite_none_right_eq_some, Option.some.injEq, List.all_eq_true,
        decide_eq_true_eq] at hstep
      obtain ⟨hdead, rfl⟩ := hstep
      exact .wroteUid location value hdead
  | writeSid location value =>
      simp only [step, Option.ite_none_right_eq_some, Option.some.injEq, List.all_eq_true,
        decide_eq_true_eq] at hstep
      obtain ⟨hdead, rfl⟩ := hstep
      exact .wroteSid location value hdead
  | readUid i =>
      simp only [step] at hstep
      split at hstep
      case h_2 => cases hstep
      rename_i refs sid hreader
      obtain rfl := Option.some.inj hstep
      exact .readUid i refs sid hreader
  | readSid i => exact moves_readSid hstep
  | radioMode i radioState => exact moves_radioMode hstep

/-- What the thread read is the request's, and so is what it has still to read. -/
structure Intact (uids : Nat → UInt32) (sids : Nat → UInt8) (thread : RadioThread κ)
    (r : Reader) : Prop where
  uidUnread : r.uid = none → uids r.refs.uniqueId = thread.request.uniqueId
  sidUnread : r.sid = none → sids r.refs.simId = thread.request.simId
  uidRead : ∀ uid, r.uid = some uid → uid = thread.request.uniqueId
  order : r.uid = none → r.sid = none
  ids : ∀ ids, thread.ids = some ids → ids = (thread.request.uniqueId, thread.request.simId)

structure Inv (s : State κ) : Prop where
  intact : List.Forall₂ (Intact s.uids s.sids) s.service.radioThreads s.readers
  ownIds : OwnIds s

omit [DecidableEq κ] in
theorem inv_initial (uids : Nat → UInt32) (sids : Nat → UInt8) :
    Inv (State.initial uids sids : State κ) :=
  ⟨.nil, by simp [OwnIds, State.initial]⟩

theorem update_kept {α : Type} {stack : Nat → α} {location location' : Nat} {value : α}
    (h : location' = location → value = stack location) :
    Function.update stack location value location' = stack location' := by
  obtain rfl | hlocation := eq_or_ne location' location
  · rw [Function.update_self]
    exact h rfl
  · exact Function.update_of_ne hlocation ..

omit [DecidableEq κ] in
theorem intact_writeUid {s : State κ} {location : Nat} {value : UInt32}
    (hkeeps : KeepsUids s location value)
    (h : List.Forall₂ (Intact s.uids s.sids) s.service.radioThreads s.readers) :
    List.Forall₂ (Intact (Function.update s.uids location value) s.sids)
      s.service.radioThreads s.readers := by
  refine forall₂_imp h fun i thread r _ hreader hintact => ⟨?_, hintact.sidUnread, hintact.uidRead,
    hintact.order, hintact.ids⟩
  intro hunread
  have hkept := hkeeps r (List.mem_of_getElem? hreader) hunread
  exact (update_kept hkept).trans (hintact.uidUnread hunread)

omit [DecidableEq κ] in
theorem intact_writeSid {s : State κ} {location : Nat} {value : UInt8} {uids : Nat → UInt32}
    (hkeeps : KeepsSids s location value)
    (h : List.Forall₂ (Intact uids s.sids) s.service.radioThreads s.readers) :
    List.Forall₂ (Intact uids (Function.update s.sids location value))
      s.service.radioThreads s.readers := by
  refine forall₂_imp h fun i thread r _ hreader hintact => ⟨hintact.uidUnread, ?_, hintact.uidRead,
    hintact.order, hintact.ids⟩
  intro hunread
  have hkept := hkeeps r (List.mem_of_getElem? hreader) hunread
  exact (update_kept hkept).trans (hintact.sidUnread hunread)

omit [DecidableEq κ] in
theorem mem_radioThreadsOf {c : κ} {request : UrilProtocolMsg} {effects : List Effect}
    {thread : RadioThread κ} (h : thread ∈ radioThreadsOf c request effects) :
    thread = ⟨c, request, true, none⟩ := by
  obtain ⟨effect, -, heffect⟩ := List.mem_filterMap.mp h
  cases effect with
  | radioThread uniqueId simId => exact (Option.some.inj heffect).symm
  | submit submission v => cases heffect

omit [DecidableEq κ] in
theorem forall₂_started {R : RadioThread κ → Reader → Prop} {c : κ} {request : UrilProtocolMsg}
    {frame : Frame} (effects : List Effect)
    (h : R ⟨c, request, true, none⟩ ⟨frame, none, none⟩) :
    List.Forall₂ R (radioThreadsOf c request effects) (readersOf c request effects frame) := by
  refine List.forall₂_map_right_iff.mpr (List.forall₂_same.mpr fun thread hthread => ?_)
  rw [mem_radioThreadsOf hthread]
  exact h

theorem carries_of_built {uid : UInt32} {sid : UInt8} {radioState : RadioState}
    {h : RilHandlers.Handled} (hbuilt : radioModeResponse uid sid radioState = .ok h) :
    h.rsp.uniqueId = uid ∧ h.rsp.simId = sid := by
  rw [(ResponseFidelity.radioModeResponse_answers hbuilt).rsp_eq]
  exact ⟨rfl, rfl⟩

theorem inv_moves {s t : State κ} {a : Action κ} (h : Inv s) (hundisturbed : Undisturbed s a)
    (hmoves : Moves s a t) : Inv t := by
  obtain ⟨hintact, hown⟩ := h
  cases hmoves with
  | served b service hquiet hservice hthreads => exact ⟨hthreads ▸ hintact, hown⟩
  | dispatched c frame request effects service hcall hapart hservice hthreads =>
      obtain ⟨huids, hsids⟩ := hundisturbed request hcall
      refine ⟨?_, hown⟩
      rw [hthreads]
      refine List.rel_append (intact_writeSid hsids (intact_writeUid huids hintact))
        (forall₂_started effects ?_)
      exact ⟨fun _ => Function.update_self .., fun _ => Function.update_self .., nofun,
        fun _ => rfl, nofun⟩
  | returned c service hservice hthreads =>
      refine ⟨?_, hown⟩
      rw [hthreads]
      refine List.forall₂_map_left_iff.mpr (hintact.imp fun thread r hthread => ?_)
      exact ⟨hthread.uidUnread, hthread.sidUnread, hthread.uidRead, hthread.order, hthread.ids⟩
  | wroteUid location value hdead => exact ⟨intact_writeUid hundisturbed hintact, hown⟩
  | wroteSid location value hdead => exact ⟨intact_writeSid hundisturbed hintact, hown⟩
  | readUid i refs sid hreader =>
      refine ⟨forall₂_set_right hintact i fun thread hthread => ?_, hown⟩
      have hbefore := rel_of_forall₂ hintact hthread hreader
      refine ⟨nofun, hbefore.sidUnread, ?_, nofun, hbefore.ids⟩
      rintro uid ⟨⟩
      exact hbefore.uidUnread rfl
  | readSid i refs uid thread hreader hthread =>
      have hbefore := rel_of_forall₂ hintact hthread hreader
      refine ⟨forall₂_set hintact i ⟨nofun, nofun, hbefore.uidRead, nofun, ?_⟩, hown⟩
      rintro ids ⟨⟩
      exact Prod.ext (hbefore.uidRead uid rfl) (hbefore.sidUnread rfl)
  | emitted i radioState thread uid sid hd service hthread hids hbuilt hservice hthreads =>
      refine ⟨?_, ?_⟩
      · rw [hthreads]
        exact forall₂_eraseIdx hintact i
      · intro request rsp hmem
        rcases List.mem_cons.mp hmem with heq | hmem
        · obtain ⟨rfl, rfl⟩ := Prod.mk.inj heq
          obtain ⟨r, hr⟩ := exists_of_forall₂ hintact hthread
          obtain ⟨huid, hsid⟩ := Prod.mk.inj ((rel_of_forall₂ hintact hthread hr).ids _ hids)
          obtain ⟨hrspUid, hrspSid⟩ := carries_of_built hbuilt
          exact ⟨hrspUid.trans huid, hrspSid.trans hsid⟩
        · exact hown request rsp hmem

theorem inv_reaches {uids : Nat → UInt32} {sids : Nat → UInt8} {s : State κ}
    (hrun : Reaches step Undisturbed (State.initial uids sids) s) : Inv s :=
  hrun.invariant Inv (inv_initial uids sids) fun _ _ _ h hundisturbed hstep =>
    inv_moves h hundisturbed (moves_of_step hstep)

/-- In every run in which no parameter is written over before it is read, the
responses of the radio threads carry the ids of their requests. -/
theorem radio_mode_ids {uids : Nat → UInt32} {sids : Nat → UInt8} {s : State κ}
    (hrun : Reaches step Undisturbed (State.initial uids sids) s) : OwnIds s :=
  (inv_reaches hrun).ownIds

instance (s : State κ) (location : Nat) (value : UInt32) :
    Decidable (KeepsUids s location value) :=
  inferInstanceAs (Decidable (∀ r ∈ s.readers, _))

instance (s : State κ) (location : Nat) (value : UInt8) :
    Decidable (KeepsSids s location value) :=
  inferInstanceAs (Decidable (∀ r ∈ s.readers, _))

/-- The test of `Undisturbed`. -/
def undisturbedTest (s : State κ) : Action κ → Bool
  | .dispatch c frame =>
      match s.service.calls c with
      | some (.tracked request) =>
          decide (KeepsUids s frame.uniqueId request.uniqueId) &&
            decide (KeepsSids s frame.simId request.simId)
      | _ => true
  | .writeUid location value => decide (KeepsUids s location value)
  | .writeSid location value => decide (KeepsSids s location value)
  | _ => true

omit [DecidableEq κ] in
theorem undisturbedTest_sound (s : State κ) (a : Action κ) (h : undisturbedTest s a = true) :
    Undisturbed s a := by
  cases a with
  | dispatch c frame =>
      intro request hcall
      simpa [undisturbedTest, hcall] using h
  | writeUid location value =>
      have hkeeps : KeepsUids s location value := of_decide_eq_true h
      exact hkeeps
  | writeSid location value =>
      have hkeeps : KeepsSids s location value := of_decide_eq_true h
      exact hkeeps
  | track | ret | answer | followUp | readUid | readSid | radioMode => trivial

/-- A request for the radio mode. -/
def radioModeRequest (uniqueId : UInt32) (simId : UInt8) : UrilProtocolMsg :=
  { emptyRequest MsgId.radioGetRadioMode uniqueId with simId := simId }

/-- One thread reads the sim id when its call has returned, and before the next
request has its parameters in the same place. -/
theorem radio_mode_ids_two_requests :
    ∃ s : State Nat,
      Reaches step Undisturbed (State.initial (fun _ => 0) (fun _ => 0)) s ∧
      s.emitted.map (fun e => (e.2.uniqueId, e.2.simId)) = [(8, 2), (7, 1)] ∧ OwnIds s := by
  obtain ⟨s, hexec, hemitted⟩ : ∃ s : State Nat,
      exec step undisturbedTest (State.initial (fun _ => 0) (fun _ => 0))
        [.track 1 (radioModeRequest 7 1), .dispatch 1 ⟨0, 0⟩, .readUid 0, .ret 1, .readSid 0,
          .track 1 (radioModeRequest 8 2), .dispatch 1 ⟨0, 0⟩, .radioMode 0 .on, .readUid 0,
          .readSid 0, .radioMode 0 .off, .ret 1] = some s ∧
      s.emitted.map (fun e => (e.2.uniqueId, e.2.simId)) = [(8, 2), (7, 1)] := ⟨_, rfl, rfl⟩
  have hrun : Reaches step Undisturbed _ s := reaches_of_exec _ undisturbedTest_sound _ hexec
  exact ⟨s, hrun, hemitted, radio_mode_ids hrun⟩

/-- The thread of the first request starts to read when the parameters of the
second one lie in their place. -/
theorem later_request_misroutes :
    ¬ ∀ s : State Nat, Reaches step anyAction (State.initial (fun _ => 0) (fun _ => 0)) s →
      OwnIds s := by
  intro hids
  obtain ⟨s, hexec, rsp, hmem, hid⟩ : ∃ s : State Nat,
      exec step (fun _ _ => true) (State.initial (fun _ => 0) (fun _ => 0))
        [.track 1 (radioModeRequest 7 1), .dispatch 1 ⟨0, 0⟩, .ret 1,
          .track 1 (radioModeRequest 8 2), .dispatch 1 ⟨0, 0⟩, .readUid 0, .readSid 0,
          .radioMode 0 .on] = some s ∧
      ∃ rsp, (radioModeRequest 7 1, rsp) ∈ s.emitted ∧ rsp.uniqueId = 8 :=
    ⟨_, rfl, _, List.mem_singleton.mpr rfl, rfl⟩
  have hrun := reaches_of_exec _ (fun _ _ _ => trivial) _ hexec
  have hown := (hids s hrun _ rsp hmem).1
  rw [hid] at hown
  exact absurd hown (by decide)

theorem reaches_emitted_of_ids {s : State κ} {i : Nat} {thread : RadioThread κ} {uid : UInt32}
    {sid : UInt8} (hthread : s.service.radioThreads[i]? = some thread)
    (hids : thread.ids = some (uid, sid)) :
    ∃ t rsp, Reaches step anyAction s t ∧ (thread.request, rsp) ∈ t.emitted ∧
      rsp.uniqueId = uid ∧ rsp.simId = sid := by
  obtain ⟨caller, request, frame, ids⟩ := thread
  obtain rfl : ids = some (uid, sid) := hids
  obtain ⟨h, hbuilt⟩ : ∃ h, radioModeResponse uid sid .on = .ok h := ⟨_, rfl⟩
  obtain ⟨service, hservice⟩ :
      ∃ service, OrphanRequests.step s.service (.radioMode i .on) = some service := by
    simp [OrphanRequests.step, hthread, hbuilt]
  have hstep : step s (.radioMode i .on) = some { s with
      service := service, readers := s.readers.eraseIdx i
      emitted := (request, h.rsp) :: s.emitted } := by
    simp only [step, hthread, hbuilt, State.serve, hservice, Option.map_some]
  exact ⟨_, h.rsp, .tail _ .refl trivial hstep, List.mem_cons_self, carries_of_built hbuilt⟩

theorem reaches_emitted_of_uid {s : State κ} {i : Nat} {thread : RadioThread κ} {refs : Frame}
    {uid : UInt32} (hthread : s.service.radioThreads[i]? = some thread)
    (hreader : s.readers[i]? = some ⟨refs, some uid, none⟩) :
    ∃ t rsp, Reaches step anyAction s t ∧ (thread.request, rsp) ∈ t.emitted ∧
      rsp.uniqueId = uid ∧ rsp.simId = s.sids refs.simId := by
  have hi : i < s.service.radioThreads.length := (List.getElem?_eq_some_iff.mp hthread).1
  let t : State κ := { s with
    readers := s.readers.set i ⟨refs, some uid, some (s.sids refs.simId)⟩
    service := { s.service with
      radioThreads := s.service.radioThreads.set i
        { thread with ids := some (uid, s.sids refs.simId) } } }
  have hstep : step s (.readSid i) = some t := by
    simp only [step, hreader, hthread]
    rfl
  have hread : t.service.radioThreads[i]? =
      some { thread with ids := some (uid, s.sids refs.simId) } := List.getElem?_set_self hi
  obtain ⟨u, rsp, hrun, hemitted⟩ := reaches_emitted_of_ids hread rfl
  exact ⟨u, rsp, .head _ trivial hstep hrun, hemitted⟩

/-- A thread that goes on alone emits what lies at its references. -/
theorem reaches_emitted {s : State κ} {i : Nat} {thread : RadioThread κ} {refs : Frame}
    {uid : Option UInt32} (hthread : s.service.radioThreads[i]? = some thread)
    (hreader : s.readers[i]? = some ⟨refs, uid, none⟩) :
    ∃ t rsp, Reaches step anyAction s t ∧ (thread.request, rsp) ∈ t.emitted ∧
      rsp.uniqueId = uid.getD (s.uids refs.uniqueId) ∧ rsp.simId = s.sids refs.simId := by
  cases uid with
  | some uid => exact reaches_emitted_of_uid hthread hreader
  | none =>
      have hi : i < s.readers.length := (List.getElem?_eq_some_iff.mp hreader).1
      let t : State κ := { s with
        readers := s.readers.set i ⟨refs, some (s.uids refs.uniqueId), none⟩ }
      have hstep : step s (.readUid i) = some t := by
        simp only [step, hreader]
        rfl
      have hread : t.readers[i]? = some ⟨refs, some (s.uids refs.uniqueId), none⟩ :=
        List.getElem?_set_self hi
      obtain ⟨u, rsp, hrun, hemitted⟩ := reaches_emitted_of_uid (s := t) hthread hread
      exact ⟨u, rsp, .head _ trivial hstep hrun, hemitted⟩

/-- The threads of a state are there in another one, with the same left to read. -/
structure Kept (s t : State κ) : Prop where
  threads : ∀ (i : Nat) thread, s.service.radioThreads[i]? = some thread →
    t.service.radioThreads[i]? = some thread
  readers : ∀ (i : Nat) r, s.readers[i]? = some r → t.readers[i]? = some r

theorem misrouted_uid {s t : State κ} (h : Inv s) (hkept : Kept s t) {location : Nat}
    {value : UInt32} (hlost : ¬ KeepsUids s location value) (hwritten : t.uids location = value) :
    ∃ u, Reaches step anyAction t u ∧ ¬ OwnIds u := by
  simp only [KeepsUids, not_forall] at hlost
  obtain ⟨⟨refs, uid, sid⟩, hmem, hunread, hlocation, hchanged⟩ := hlost
  obtain rfl : uid = none := hunread
  obtain ⟨i, thread, hthread, hreader, hintact⟩ := exists_of_mem_right h.intact hmem
  obtain rfl : sid = none := hintact.order rfl
  obtain ⟨u, rsp, hrun, hemitted, huid, -⟩ :=
    reaches_emitted (hkept.threads i thread hthread) (hkept.readers i _ hreader)
  refine ⟨u, hrun, fun hown => hchanged ?_⟩
  calc value = t.uids refs.uniqueId := by rw [← hwritten, ← hlocation]
    _ = rsp.uniqueId := huid.symm
    _ = thread.request.uniqueId := (hown _ _ hemitted).1
    _ = s.uids location := by rw [← hlocation, ← hintact.uidUnread rfl]

theorem misrouted_sid {s t : State κ} (h : Inv s) (hkept : Kept s t) {location : Nat}
    {value : UInt8} (hlost : ¬ KeepsSids s location value) (hwritten : t.sids location = value) :
    ∃ u, Reaches step anyAction t u ∧ ¬ OwnIds u := by
  simp only [KeepsSids, not_forall] at hlost
  obtain ⟨⟨refs, uid, sid⟩, hmem, hunread, hlocation, hchanged⟩ := hlost
  obtain rfl : sid = none := hunread
  obtain ⟨i, thread, hthread, hreader, hintact⟩ := exists_of_mem_right h.intact hmem
  obtain ⟨u, rsp, hrun, hemitted, -, hsid⟩ :=
    reaches_emitted (hkept.threads i thread hthread) (hkept.readers i _ hreader)
  refine ⟨u, hrun, fun hown => hchanged ?_⟩
  calc value = t.sids refs.simId := by rw [← hwritten, ← hlocation]
    _ = rsp.simId := hsid.symm
    _ = thread.request.simId := (hown _ _ hemitted).2
    _ = s.sids location := by rw [← hlocation, ← hintact.sidUnread rfl]

omit [DecidableEq κ] in
theorem kept_dispatched {s : State κ} {c : κ} {frame : Frame} {request : UrilProtocolMsg}
    {effects : List Effect} {service : OrphanRequests.State κ}
    (hthreads : service.radioThreads =
      s.service.radioThreads ++ radioThreadsOf c request effects) {uids : Nat → UInt32}
    {sids : Nat → UInt8} {frames : List (κ × Frame)} :
    Kept s { s with
      service := service, uids := uids, sids := sids, frames := frames
      readers := s.readers ++ readersOf c request effects frame } := by
  constructor
  · intro i thread hthread
    rw [hthreads]
    have hi := (List.getElem?_eq_some_iff.mp hthread).1
    exact (List.getElem?_append_left hi).trans hthread
  · intro i r hreader
    have hi := (List.getElem?_eq_some_iff.mp hreader).1
    exact (List.getElem?_append_left hi).trans hreader

/-- The first parameter that is written over too early is enough: the threads can
go on so that one answers with ids that are not those of its request. -/
theorem misrouted_of_disturbed {uids : Nat → UInt32} {sids : Nat → UInt8} {s t : State κ}
    {a : Action κ} (hrun : Reaches step Undisturbed (State.initial uids sids) s)
    (hdisturbed : ¬ Undisturbed s a) (hstep : step s a = some t) :
    ∃ u, Reaches step anyAction t u ∧ ¬ OwnIds u := by
  have h := inv_reaches hrun
  cases moves_of_step hstep with
  | dispatched c frame request effects service hcall hapart hservice hthreads =>
      have hlost : ¬ (KeepsUids s frame.uniqueId request.uniqueId ∧
          KeepsSids s frame.simId request.simId) := by
        intro hkeeps
        refine hdisturbed fun request' hcall' => ?_
        obtain rfl : request = request' := by simpa [hcall] using hcall'
        exact hkeeps
      rcases not_and_or.mp hlost with hlost | hlost
      · exact misrouted_uid h (kept_dispatched hthreads) hlost (Function.update_self ..)
      · exact misrouted_sid h (kept_dispatched hthreads) hlost (Function.update_self ..)
  | wroteUid location value hdead =>
      exact misrouted_uid h ⟨fun _ _ => id, fun _ _ => id⟩ hdisturbed (Function.update_self ..)
  | wroteSid location value hdead =>
      exact misrouted_sid h ⟨fun _ _ => id, fun _ _ => id⟩ hdisturbed (Function.update_self ..)
  | served b service hquiet => exact absurd hquiet hdisturbed
  | returned | readUid | readSid | emitted => exact absurd trivial hdisturbed

/-- While the call that started the thread is there, so are its parameters. -/
structure Framed (uids : Nat → UInt32) (sids : Nat → UInt8) (frames : List (κ × Frame))
    (thread : RadioThread κ) (r : Reader) : Prop where
  live : thread.frame = true → (thread.caller, r.refs) ∈ frames
  uidUnread : thread.frame = true → r.uid = none → uids r.refs.uniqueId = thread.request.uniqueId
  sidUnread : thread.frame = true → r.sid = none → sids r.refs.simId = thread.request.simId
  uidRead : thread.frame = true → ∀ uid, r.uid = some uid → uid = thread.request.uniqueId
  unread : r.sid = none → thread.ids = none

def AllFramed (s : State κ) : Prop :=
  List.Forall₂ (Framed s.uids s.sids s.frames) s.service.radioThreads s.readers

section Framed

variable {uids uids' : Nat → UInt32} {sids sids' : Nat → UInt8} {frames frames' : List (κ × Frame)}
  {thread : RadioThread κ} {r : Reader}

omit [DecidableEq κ] in
theorem framed_writes (h : Framed uids sids frames thread r) (hframes : frames ⊆ frames')
    (huids : ∀ live ∈ frames, uids' live.2.uniqueId = uids live.2.uniqueId)
    (hsids : ∀ live ∈ frames, sids' live.2.simId = sids live.2.simId) :
    Framed uids' sids' frames' thread r where
  live hframe := hframes (h.live hframe)
  uidUnread hframe hunread := (huids _ (h.live hframe)).trans (h.uidUnread hframe hunread)
  sidUnread hframe hunread := (hsids _ (h.live hframe)).trans (h.sidUnread hframe hunread)
  uidRead := h.uidRead
  unread := h.unread

omit [DecidableEq κ] in
theorem framed_pushed {c : κ} {frame : Frame} (h : Framed uids sids frames thread r)
    (hapart : ∀ live ∈ frames, frame.apart live.2 = true) (uid : UInt32) (sid : UInt8) :
    Framed (Function.update uids frame.uniqueId uid) (Function.update sids frame.simId sid)
      ((c, frame) :: frames) thread r := by
  simp only [Frame.apart, Bool.and_eq_true, decide_eq_true_eq] at hapart
  refine framed_writes h (List.subset_cons_self _ _) ?_ ?_
  · exact fun live hlive => Function.update_of_ne (hapart live hlive).1.symm ..
  · exact fun live hlive => Function.update_of_ne (hapart live hlive).2.symm ..

theorem framed_returned (h : Framed uids sids frames thread r) (c : κ) :
    Framed uids sids (frames.filter (·.1 ≠ c)) (thread.returned c) r := by
  have hframe : (thread.returned c).frame = true → thread.frame = true ∧ thread.caller ≠ c := by
    simp [RadioThread.returned]
  constructor
  case live =>
    intro hlive
    obtain ⟨hbefore, hne⟩ := hframe hlive
    exact List.mem_filter.mpr ⟨h.live hbefore, decide_eq_true hne⟩
  case uidUnread => exact fun hlive => h.uidUnread (hframe hlive).1
  case sidUnread => exact fun hlive => h.sidUnread (hframe hlive).1
  case uidRead => exact fun hlive => h.uidRead (hframe hlive).1
  case unread => exact h.unread

end Framed

theorem framed_moves {s t : State κ} {a : Action κ} (h : AllFramed s) (hmoves : Moves s a t) :
    AllFramed t := by
  cases hmoves with
  | served b service hquiet hservice hthreads =>
      rw [AllFramed, hthreads]
      exact h
  | dispatched c frame request effects service hcall hapart hservice hthreads =>
      rw [AllFramed, hthreads]
      refine List.rel_append (h.imp fun thread r hframed => ?_) (forall₂_started effects ?_)
      · exact framed_pushed hframed hapart request.uniqueId request.simId
      · exact ⟨fun _ => List.mem_cons_self, fun _ _ => Function.update_self ..,
          fun _ _ => Function.update_self .., nofun, fun _ => rfl⟩
  | returned c service hservice hthreads =>
      rw [AllFramed, hthreads]
      exact List.forall₂_map_left_iff.mpr (h.imp fun thread r hframed =>
        framed_returned hframed c)
  | wroteUid location value hdead =>
      refine List.Forall₂.imp (fun thread r hframed => ?_) h
      refine framed_writes hframed (List.Subset.refl _) ?_ fun _ _ => rfl
      exact fun live hlive => Function.update_of_ne (hdead live hlive) ..
  | wroteSid location value hdead =>
      refine List.Forall₂.imp (fun thread r hframed => ?_) h
      refine framed_writes hframed (List.Subset.refl _) (fun _ _ => rfl) ?_
      exact fun live hlive => Function.update_of_ne (hdead live hlive) ..
  | readUid i refs sid hreader =>
      refine forall₂_set_right h i fun thread hthread => ?_
      have hbefore := rel_of_forall₂ h hthread hreader
      refine ⟨hbefore.live, fun _ => nofun, hbefore.sidUnread, ?_, hbefore.unread⟩
      rintro hframe uid ⟨⟩
      exact hbefore.uidUnread hframe rfl
  | readSid i refs uid thread hreader hthread =>
      have hbefore := rel_of_forall₂ h hthread hreader
      exact forall₂_set h i ⟨hbefore.live, fun _ => nofun, fun _ => nofun, hbefore.uidRead, nofun⟩
  | emitted i radioState thread uid sid hd service hthread hids hbuilt hservice hthreads =>
      rw [AllFramed, hthreads]
      exact forall₂_eraseIdx h i

theorem service_moves {s t : State κ} {a : Action κ} (h : AllFramed s) (hmoves : Moves s a t) :
    Reaches OrphanRequests.step anyAction s.service t.service := by
  cases hmoves with
  | served b service hquiet hservice hthreads => exact .single b hservice
  | dispatched c frame request effects service hcall hapart hservice hthreads =>
      exact .single _ hservice
  | returned c service hservice hthreads => exact .single _ hservice
  | wroteUid | wroteSid | readUid => exact .refl
  | readSid i refs uid thread hreader hthread =>
      have hframed := rel_of_forall₂ h hthread hreader
      have hread : thread.read (uid, s.sids refs.simId) =
          { thread with ids := some (uid, s.sids refs.simId) } := by
        rw [RadioThread.read]
        split
        · rename_i hframe
          rw [hframed.uidRead hframe uid rfl, hframed.sidUnread hframe rfl]
        · rfl
      refine .single (.readIds i (uid, s.sids refs.simId)) ?_
      simp [OrphanRequests.step, hthread, hframed.unread rfl, hread]
  | emitted i radioState thread uid sid hd service hthread hids hbuilt hservice hthreads =>
      exact .single _ hservice

omit [DecidableEq κ] in
theorem allFramed_initial (uids : Nat → UInt32) (sids : Nat → UInt8) :
    AllFramed (State.initial uids sids : State κ) := .nil

/-- The service with its stacks refines the service in which the threads of calls
that returned read anything. -/
theorem reaches_service {uids : Nat → UInt32} {sids : Nat → UInt8} {s : State κ}
    (hrun : Reaches step anyAction (State.initial uids sids) s) :
    Reaches OrphanRequests.step anyAction OrphanRequests.State.initial s.service := by
  refine hrun.image AllFramed State.service (allFramed_initial uids sids) ?_ ?_
  · exact fun t a u h _ hstep => framed_moves h (moves_of_step hstep)
  · exact fun t a u h _ hstep => service_moves h (moves_of_step hstep)

/-- A call returns only when the threads it started have read their ids. -/
def Prompt (s : State κ) : Action κ → Prop
  | .ret c => ∀ (i : Nat) thread r, s.service.radioThreads[i]? = some thread →
      s.readers[i]? = some r → thread.caller = c → r.uid ≠ none ∧ r.sid ≠ none
  | _ => True

/-- What a thread has still to read is a parameter of a call. -/
def Waited (thread : RadioThread κ) (r : Reader) : Prop :=
  thread.frame = true ∨ r.uid ≠ none ∧ r.sid ≠ none

theorem waited_moves {s t : State κ} {a : Action κ}
    (h : List.Forall₂ Waited s.service.radioThreads s.readers) (hprompt : Prompt s a)
    (hmoves : Moves s a t) : List.Forall₂ Waited t.service.radioThreads t.readers := by
  cases hmoves with
  | served b service hquiet hservice hthreads => exact hthreads ▸ h
  | dispatched c frame request effects service hcall hapart hservice hthreads =>
      rw [hthreads]
      exact List.rel_append h (forall₂_started effects (.inl rfl))
  | returned c service hservice hthreads =>
      rw [hthreads]
      refine List.forall₂_map_left_iff.mpr (forall₂_imp h ?_)
      rintro i thread r hthread hreader (hframe | hread)
      · obtain hcaller | hcaller := eq_or_ne thread.caller c
        · exact .inr (hprompt i thread r hthread hreader hcaller)
        · exact .inl (by simp [RadioThread.returned, hframe, hcaller])
      · exact .inr hread
  | wroteUid | wroteSid => exact h
  | readUid i refs sid hreader =>
      refine forall₂_set_right h i fun thread hthread => ?_
      exact (rel_of_forall₂ h hthread hreader).imp_right fun hread => absurd rfl hread.1
  | readSid i refs uid thread hreader hthread => exact forall₂_set h i (.inr ⟨nofun, nofun⟩)
  | emitted i radioState thread uid sid hd service hthread hids hbuilt hservice hthreads =>
      rw [hthreads]
      exact forall₂_eraseIdx h i

theorem undisturbed_of_waited {s t : State κ} {a : Action κ} (hframed : AllFramed s)
    (h : List.Forall₂ Waited s.service.radioThreads s.readers) (hmoves : Moves s a t) :
    Undisturbed s a := by
  have hlive : ∀ r ∈ s.readers, r.uid = none ∨ r.sid = none → ∃ c, (c, r.refs) ∈ s.frames := by
    intro r hr hunread
    obtain ⟨i, thread, hthread, hreader, hwaited⟩ := exists_of_mem_right h hr
    have hread : ¬ (r.uid ≠ none ∧ r.sid ≠ none) := by
      rintro ⟨huid, hsid⟩
      exact hunread.elim huid hsid
    have hframe := hwaited.resolve_right hread
    exact ⟨_, (rel_of_forall₂ hframed hthread hreader).live hframe⟩
  cases hmoves with
  | served b service hquiet => exact hquiet
  | dispatched c frame request effects service hcall hapart hservice hthreads =>
      simp only [Frame.apart, Bool.and_eq_true, decide_eq_true_eq] at hapart
      refine fun request' hcall' => ⟨fun r hr hunread heq => ?_, fun r hr hunread heq => ?_⟩
      · obtain ⟨c', hc'⟩ := hlive r hr (.inl hunread)
        exact absurd heq.symm (hapart _ hc').1
      · obtain ⟨c', hc'⟩ := hlive r hr (.inr hunread)
        exact absurd heq.symm (hapart _ hc').2
  | wroteUid location value hdead =>
      intro r hr hunread heq
      obtain ⟨c', hc'⟩ := hlive r hr (.inl hunread)
      exact absurd heq (hdead _ hc')
  | wroteSid location value hdead =>
      intro r hr hunread heq
      obtain ⟨c', hc'⟩ := hlive r hr (.inr hunread)
      exact absurd heq (hdead _ hc')
  | returned | readUid | readSid | emitted => trivial

/-- Where the calls wait for their threads, no schedule misroutes an answer. -/
theorem ownIds_of_prompt {uids : Nat → UInt32} {sids : Nat → UInt8} {s : State κ}
    (hrun : Reaches step Prompt (State.initial uids sids) s) : OwnIds s := by
  refine (inv_reaches (hrun.imp
    (fun s => AllFramed s ∧ List.Forall₂ Waited s.service.radioThreads s.readers)
    ⟨allFramed_initial uids sids, .nil⟩ ?_ ?_)).ownIds
  · rintro t a u ⟨hframed, hwaited⟩ hprompt hstep
    have hmoves := moves_of_step hstep
    exact ⟨framed_moves hframed hmoves, waited_moves hwaited hprompt hmoves⟩
  · rintro t a u ⟨hframed, hwaited⟩ hprompt hstep
    exact undisturbed_of_waited hframed hwaited (moves_of_step hstep)

end UnifiedRil.RadioModeThreads

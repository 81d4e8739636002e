import UnifiedRil.Connection
import UnifiedRil.Library.Runs

/-!
What the receiving end makes of a byte stream: one that ends anywhere, and one
to which several threads send messages through a socket that may take less than
it was given.
-/

namespace UnifiedRil.Framing

open UnifiedRil.Library.Frames
open UnifiedRil.Library.Runs
open UnifiedRil.Protocol
open UnifiedRil.Connection

/-- What a call of `recv` with `MSG_WAITALL` returns: these bytes, none at the
end of the stream, or an error. -/
inductive Received
  | data (bytes : List UInt8)
  | error
  deriving DecidableEq

def Received.length : Received → Nat
  | .data bytes => bytes.length
  | .error => 0

/-- The results of successive calls on a stream that its writer closed or lost.
Less than was asked for is returned at the end only. -/
inductive Receives : List UInt8 → List Received → Prop
  | whole {frame rest : List UInt8} {results : List Received}
      (hframe : frame.length = sizeofMsg) (hrest : Receives rest results) :
      Receives (frame ++ rest) (.data frame :: results)
  | short {rest : List UInt8} {results : List Received} (hne : rest ≠ [])
      (hshort : rest.length < sizeofMsg) (hend : Receives [] results) :
      Receives rest (.data rest :: results)
  | closed : Receives [] [.data []]
  | error (stream : List UInt8) : Receives stream [.error]

/-- The messages that `pumpLoop` hands to its observers, by the results of its
calls of `recv`. Each is read into a zeroed message. -/
def dispatched : List Received → List UrilProtocolMsg
  | .data (b :: bytes) :: results => .ofImage (b :: bytes) :: dispatched results
  | _ => []

/-- Every call returned a frame or ended the loop, and an error did so only when
less than a frame was left. -/
def CompleteReads (stream : List UInt8) (results : List Received) : Prop :=
  (∀ bytes, .data bytes ∈ results → bytes = [] ∨ bytes.length = sizeofMsg) ∧
    stream.length < (results.map Received.length).sum + sizeofMsg

theorem dispatched_data {bytes : List UInt8} (h : bytes ≠ []) (results : List Received) :
    dispatched (.data bytes :: results) = .ofImage bytes :: dispatched results := by
  cases bytes with
  | nil => exact absurd rfl h
  | cons b bytes => rfl

theorem completeReads_whole {frame rest : List UInt8} {results : List Received}
    (hframe : frame.length = sizeofMsg) :
    CompleteReads (frame ++ rest) (.data frame :: results) ↔ CompleteReads rest results := by
  refine and_congr ?_ ?_
  · simp only [List.mem_cons, Received.data.injEq]
    constructor
    · intro h bytes hbytes
      exact h bytes (.inr hbytes)
    · rintro h bytes (rfl | hbytes)
      · exact .inr hframe
      · exact h bytes hbytes
  · rw [List.length_append, List.map_cons, List.sum_cons, Received.length]
    omega

/-- The loop dispatches the complete frames of the stream exactly when no call
returned a part of one, or failed before it returned them all. -/
theorem pumpLoop_dispatches {stream : List UInt8} {results : List Received}
    (h : Receives stream results) :
    dispatched results = (frames sizeofMsg stream).map UrilProtocolMsg.ofImage ↔
      CompleteReads stream results := by
  induction h with
  | @whole frame rest results hframe hrest ih =>
      have hne : frame ≠ [] := by
        rintro rfl
        exact absurd hframe (by decide)
      rw [dispatched_data hne, frames_append hframe sizeofMsg_pos, List.map_cons,
        completeReads_whole hframe, ← ih, List.cons.injEq, and_iff_right rfl]
  | @short rest results hne hshort hend ih =>
      rw [dispatched_data hne, (frames_eq_nil sizeofMsg_pos).mpr hshort]
      refine iff_of_false (List.cons_ne_nil _ _) fun h => ?_
      exact (h.1 rest List.mem_cons_self).elim hne hshort.ne
  | closed =>
      have hnone : frames sizeofMsg ([] : List UInt8) = [] :=
        (frames_eq_nil sizeofMsg_pos).mpr sizeofMsg_pos
      rw [hnone]
      refine iff_of_true rfl ⟨fun bytes hbytes => .inl ?_, sizeofMsg_pos⟩
      simpa using hbytes
  | error stream =>
      have hlength : ([Received.error].map Received.length).sum + sizeofMsg = sizeofMsg := rfl
      rw [CompleteReads, hlength, ← frames_eq_nil sizeofMsg_pos, and_iff_right (by simp)]
      exact eq_comm.trans List.map_eq_nil_iff

theorem pumpLoop_dispatches_frame :
    dispatched [.data (UrilProtocolMsg.zeroed.image fun _ => 0), .data []] =
      (frames sizeofMsg (UrilProtocolMsg.zeroed.image (fun _ => 0) ++ [])).map
        UrilProtocolMsg.ofImage := by
  refine (pumpLoop_dispatches (.whole (image_length _ _) .closed)).mpr ?_
  rw [completeReads_whole (image_length _ _)]
  exact ⟨fun bytes hbytes => .inl (by simpa using hbytes), sizeofMsg_pos⟩

/-- A client that writes one byte and closes has a message dispatched. -/
theorem pumpLoop_dispatches_byte :
    Receives [1] [.data [1], .data []] ∧
      dispatched [.data [1], .data []] = [.ofImage [1]] ∧
      (frames sizeofMsg [1]).map UrilProtocolMsg.ofImage = [] :=
  ⟨.short (List.cons_ne_nil _ _) (by decide) .closed, rfl, rfl⟩

/-- The calls on a stream that is read to its end. -/
def orderly (stream : List UInt8) : List Received :=
  (reads sizeofMsg true stream).map .data ++ [.data []]

theorem receives_orderly (stream : List UInt8) : Receives stream (orderly stream) := by
  unfold orderly
  fun_induction reads sizeofMsg true stream with
  | case1 stream h ih =>
      have hwhole := Receives.whole (List.length_take_of_le h.1) ih
      rwa [List.take_append_drop] at hwhole
  | case2 stream h hclosed =>
      refine .short hclosed.2 ?_ .closed
      have hpos := sizeofMsg_pos
      omega
  | case3 stream h hclosed =>
      obtain rfl : stream = [] := by simpa using hclosed
      exact .closed

theorem dispatched_orderly (stream : List UInt8) :
    dispatched (orderly stream) = pumpLoop true stream := by
  unfold orderly pumpLoop
  fun_induction reads sizeofMsg true stream with
  | case1 stream h ih =>
      have hne : stream.take sizeofMsg ≠ [] := by
        rw [← List.length_pos_iff, List.length_take_of_le h.1]
        exact h.2
      rw [List.map_cons, List.cons_append, dispatched_data hne, ih, List.map_cons]
  | case2 stream h hclosed => exact dispatched_data hclosed.2 _
  | case3 stream h hclosed => rfl

/-- A message whose sending was reported as a success, and how many of its bytes
the socket took. -/
structure Sent where
  msg : UrilProtocolMsg
  padding : Nat → UInt8
  count : Nat

def Sent.image (sent : Sent) : List UInt8 := sent.msg.image sent.padding

/-- The two functions that send a message. -/
inductive Routine
  /-- of the service, under `mSocketLock` -/
  | sendMessageToClient
  | sendRoutine
  deriving DecidableEq

/-- Where a thread is in its call. -/
inductive Phase
  | idle
  | called (msg : UrilProtocolMsg) (padding : Nat → UInt8)
  | ready (msg : UrilProtocolMsg) (padding : Nat → UInt8)
  | returning (success : Bool)

variable {Thread : Type} [DecidableEq Thread]

structure State (Thread : Type) where
  phase : Thread → Phase
  locked : Bool
  stream : List UInt8
  /-- the successes, in the order of the calls of `send` -/
  reported : List Sent

def State.initial : State Thread :=
  { phase := fun _ => .idle, locked := false, stream := [], reported := [] }

def State.enter (s : State Thread) (t : Thread) (phase : Phase) : State Thread :=
  { s with phase := Function.update s.phase t phase }

inductive Action (Thread : Type)
  | call (t : Thread) (msg : UrilProtocolMsg) (padding : Nat → UInt8)
  | lock (t : Thread)
  | send (t : Thread) (result : Option Nat)
  | ret (t : Thread)

def step (routine : Routine) (s : State Thread) : Action Thread → Option (State Thread)
  | .call t msg padding =>
      match s.phase t with
      | .idle =>
          match routine with
          | .sendMessageToClient => some (s.enter t (.called msg padding))
          | .sendRoutine => some (s.enter t (.ready msg padding))
      | _ => none
  | .lock t =>
      match s.phase t with
      | .called msg padding =>
          if s.locked then none
          else some { s.enter t (.ready msg padding) with locked := true }
      | _ => none
  | .send t result =>
      match s.phase t with
      | .ready msg padding =>
          match result with
          | none => some (s.enter t (.returning false))
          | some count =>
              if 0 < count ∧ count ≤ sizeofMsg then
                some { s.enter t (.returning true) with
                  stream := s.stream ++ sendMessage msg padding count
                  reported := s.reported ++ [⟨msg, padding, count⟩] }
              else none
      | _ => none
  | .ret t =>
      match s.phase t with
      | .returning _ =>
          match routine with
          | .sendMessageToClient => some { s.enter t .idle with locked := false }
          | .sendRoutine => some (s.enter t .idle)
      | _ => none

/-- The bytes that the socket took of the messages. -/
def taken (reported : List Sent) : List UInt8 :=
  (reported.map fun sent => sendMessage sent.msg sent.padding sent.count).flatten

/-- The stream consists of the bytes that were taken. -/
structure Inv (s : State Thread) : Prop where
  stream : s.stream = taken s.reported
  count : ∀ sent ∈ s.reported, sent.count ≤ sizeofMsg

theorem inv_step {routine : Routine} {s s' : State Thread} {action : Action Thread} (h : Inv s)
    (hstep : step routine s action = some s') : Inv s' := by
  cases action with
  | call t msg padding =>
      simp only [step] at hstep
      split at hstep
      · cases routine with
        | sendMessageToClient => cases hstep; exact ⟨h.stream, h.count⟩
        | sendRoutine => cases hstep; exact ⟨h.stream, h.count⟩
      · cases hstep
  | lock t =>
      simp only [step] at hstep
      split at hstep
      · split at hstep
        · cases hstep
        · cases hstep
          exact ⟨h.stream, h.count⟩
      · cases hstep
  | send t result =>
      simp only [step] at hstep
      split at hstep
      · rename_i msg padding hphase
        cases result with
        | none => cases hstep; exact ⟨h.stream, h.count⟩
        | some count =>
            simp only [Option.ite_none_right_eq_some, Option.some.injEq] at hstep
            obtain ⟨hcount, rfl⟩ := hstep
            constructor
            · simp [taken, h.stream]
            · intro sent hsent
              rcases List.mem_append.mp hsent with hsent | hsent
              · exact h.count sent hsent
              · rw [List.mem_singleton.mp hsent]
                exact hcount.2
      · cases hstep
  | ret t =>
      simp only [step] at hstep
      split at hstep
      · cases routine with
        | sendMessageToClient => cases hstep; exact ⟨h.stream, h.count⟩
        | sendRoutine => cases hstep; exact ⟨h.stream, h.count⟩
      · cases hstep

theorem inv_of_run {routine : Routine} {s : State Thread}
    (hrun : Reaches (step routine) anyAction State.initial s) : Inv s :=
  hrun.invariant Inv ⟨rfl, nofun⟩ fun _ _ _ h _ hstep => inv_step h hstep

theorem taken_cons (sent : Sent) (reported : List Sent) :
    taken (sent :: reported) = sendMessage sent.msg sent.padding sent.count ++ taken reported :=
  rfl

theorem length_image (sent : Sent) : sent.image.length = sizeofMsg := image_length _ _

theorem length_sendMessage {sent : Sent} (h : sent.count ≤ sizeofMsg) :
    (sendMessage sent.msg sent.padding sent.count).length = sent.count :=
  List.length_take_of_le (h.trans_eq (length_image sent).symm)

theorem length_taken_le {reported : List Sent}
    (hcount : ∀ sent ∈ reported, sent.count ≤ sizeofMsg) :
    (taken reported).length ≤ (reported.map Sent.image).flatten.length := by
  induction reported with
  | nil => exact le_rfl
  | cons sent reported ih =>
      have hsent := hcount sent List.mem_cons_self
      have hrest := ih fun other hother => hcount other (List.mem_cons_of_mem _ hother)
      rw [taken_cons, List.map_cons, List.flatten_cons, List.length_append, List.length_append,
        length_sendMessage hsent, length_image]
      exact Nat.add_le_add hsent hrest

theorem count_of_length {reported : List Sent}
    (hcount : ∀ sent ∈ reported, sent.count ≤ sizeofMsg)
    (hlength : (reported.map Sent.image).flatten.length ≤ (taken reported).length) :
    ∀ sent ∈ reported, sent.count = sizeofMsg := by
  induction reported with
  | nil => exact nofun
  | cons sent reported ih =>
      have hsent := hcount sent List.mem_cons_self
      have hrest := fun other hother => hcount other (List.mem_cons_of_mem _ hother)
      have hle := length_taken_le hrest
      rw [taken_cons, List.map_cons, List.flatten_cons, List.length_append, List.length_append,
        length_sendMessage hsent, length_image] at hlength
      intro other hother
      rcases List.mem_cons.mp hother with rfl | hother
      · omega
      · exact ih hrest (by omega) other hother

theorem reads_taken (closed : Bool) {reported : List Sent}
    (hcount : ∀ sent ∈ reported, sent.count ≤ sizeofMsg) :
    reads sizeofMsg closed (taken reported) = reported.map Sent.image ↔
      ∀ sent ∈ reported, sent.count = sizeofMsg := by
  constructor
  · intro h
    refine count_of_length hcount ?_
    rw [← h]
    exact (reads_flatten_initial _ _ _).length_le
  · intro h
    have hwhole : taken reported = (reported.map Sent.image).flatten ++ [] := by
      rw [List.append_nil, taken]
      refine congrArg List.flatten (List.map_congr_left fun sent hsent => ?_)
      exact sendMessage_whole _ _ (h sent hsent).ge
    have hframes : ∀ frame ∈ reported.map Sent.image, frame.length = sizeofMsg := by
      intro frame hframe
      obtain ⟨sent, -, rfl⟩ := List.mem_map.mp hframe
      exact length_image sent
    rw [hwhole, reads_flatten_append closed sizeofMsg_pos [] _ hframes, reads_nil,
      List.append_nil]

/-- The receiver finds the messages whose sending was reported as a success
exactly when the socket took all of them whole. -/
theorem frames_synchronised {routine : Routine} {s : State Thread}
    (hrun : Reaches (step routine) anyAction State.initial s) (closed : Bool) :
    reads sizeofMsg closed s.stream = s.reported.map Sent.image ↔
      ∀ sent ∈ s.reported, sent.count = sizeofMsg := by
  have h := inv_of_run hrun
  rw [h.stream]
  exact reads_taken closed h.count

theorem messages_synchronised {routine : Routine} {s : State Thread}
    (hrun : Reaches (step routine) anyAction State.initial s) (closed : Bool)
    (hwhole : ∀ sent ∈ s.reported, sent.count = sizeofMsg) :
    pumpLoop closed s.stream = s.reported.map Sent.msg := by
  have h := inv_of_run hrun
  rw [pumpLoop, h.stream, (reads_taken closed h.count).mpr hwhole, List.map_map]
  exact List.map_congr_left fun sent _ => ofImage_image sent.msg sent.padding

/-- A message for the tests, with an id of its own. -/
def numbered (n : UInt32) : UrilProtocolMsg := { UrilProtocolMsg.zeroed with uniqueId := n }

/-- Two threads, the second one of which fails at first. -/
def wholeActions : List (Action Nat) :=
  [.call 0 (numbered 1) fun _ => 0, .lock 0, .call 1 (numbered 2) fun _ => 0,
    .send 0 (some 1044), .ret 0, .lock 1, .send 1 none, .ret 1,
    .call 1 (numbered 2) fun _ => 0, .lock 1, .send 1 (some 1044), .ret 1]

theorem frames_synchronised_whole : ∃ s : State Nat,
    Reaches (step .sendMessageToClient) anyAction State.initial s ∧
      reads sizeofMsg false s.stream = s.reported.map Sent.image ∧
      s.reported.map Sent.msg = [numbered 1, numbered 2] := by
  obtain ⟨s, hexec, hwhole, hmsgs⟩ : ∃ s,
      exec (step .sendMessageToClient) (fun _ _ => true) State.initial wholeActions = some s ∧
        (∀ sent ∈ s.reported, sent.count = sizeofMsg) ∧
        s.reported.map Sent.msg = [numbered 1, numbered 2] := by
    refine ⟨_, rfl, ?_, rfl⟩
    decide
  have hrun : Reaches _ anyAction _ s := reaches_of_exec _ (fun _ _ _ => trivial) _ hexec
  exact ⟨s, hrun, (frames_synchronised hrun false).mpr hwhole, hmsgs⟩

/-- The socket takes all but one byte of a message, and the next message. -/
def shortActions : List (Action Nat) :=
  [.call 0 (numbered 1) fun _ => 0, .lock 0, .send 0 (some 1043), .ret 0,
    .call 1 (numbered 2) fun _ => 0, .lock 1, .send 1 (some 1044), .ret 1]

theorem short_send_tears_frames : ∃ s : State Nat,
    Reaches (step .sendMessageToClient) anyAction State.initial s ∧
      reads sizeofMsg false s.stream ≠ s.reported.map Sent.image := by
  obtain ⟨s, hexec, hshort⟩ : ∃ s,
      exec (step .sendMessageToClient) (fun _ _ => true) State.initial shortActions = some s ∧
        ⟨numbered 1, fun _ => 0, 1043⟩ ∈ s.reported := ⟨_, rfl, List.mem_cons_self⟩
  have hrun : Reaches _ anyAction _ s := reaches_of_exec _ (fun _ _ _ => trivial) _ hexec
  have h := inv_of_run hrun
  refine ⟨s, hrun, fun hreads => ?_⟩
  rw [h.stream, reads_taken false h.count] at hreads
  exact absurd (hreads _ hshort) (by decide)

end UnifiedRil.Framing

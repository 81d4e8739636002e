import UnifiedRil.Connection
import UnifiedRil.WholeSystem

/-!
The whole system with bytes on its connections. Each `send` is given the image of a
message, whatever its padding holds, and takes it whole; each `recv` waits for as many
bytes as an image has. Read as messages, the bytes make the system of messages that
are delivered in order.
-/

namespace UnifiedRil.ByteStreams

open UnifiedRil.Library.Frames
open UnifiedRil.Library.Runs
open UnifiedRil.Protocol
open UnifiedRil.Connection (pumpLoop sizeofMsg_pos)
open UnifiedRil.Ril
open UnifiedRil.RilAdapter
open UnifiedRil.WholeSystem (isLocal isTrack isRequestOf sentTo)

variable {κ φ δ : Type} [DecidableEq κ]

structure State (κ φ δ : Type) where
  clients : κ → ClientRuns.State φ δ
  /-- what the service did not read yet -/
  toService : κ → List UInt8
  service : OrphanRequests.State κ
  toClient : κ → List UInt8
  requests : κ → List (Nat × UrilProtocolMsg)

/-- The clients have initialized the library, and nothing is sent yet. -/
def State.initial (indCb defaultRespCb : κ → Option φ) : State κ φ δ :=
  { clients := fun j => ClientDispatch.State.ready (indCb j) (defaultRespCb j)
    toService := fun _ => [], service := .initial, toClient := fun _ => []
    requests := fun _ => [] }

inductive Action (κ φ δ : Type)
  | client (j : κ) (a : ClientRuns.Action φ δ)
  | send (j : κ) (k : Nat) (request : UrilProtocolMsg) (padding : Nat → UInt8)
  | track (j : κ)
  | service (a : OrphanRequests.Action κ) (padding : Nat → UInt8)
  | unsolicited (event : RilUnsol) (connections : List κ) (padding : Nat → UInt8)
  | deliver (j : κ)

def images (padding : Nat → UInt8) (msgs : List UrilProtocolMsg) : List UInt8 :=
  msgs.flatMap fun msg => msg.image padding

def step (s : State κ φ δ) : Action κ φ δ → Option (State κ φ δ)
  | .client j a =>
      if isLocal a then
        (ClientRuns.step (s.clients j) a).map fun client =>
          { s with clients := Function.update s.clients j client }
      else none
  | .send j k request padding =>
      if isRequestOf (s.clients j) k request then
        (ClientRuns.step (s.clients j) (.send k true)).map fun client =>
          { s with
            clients := Function.update s.clients j client
            toService := Function.update s.toService j (s.toService j ++ request.image padding)
            requests := Function.update s.requests j ((k, request) :: s.requests j) }
      else none
  | .track j =>
      match nextRead sizeofMsg (s.toService j) with
      | some (data, rest) =>
          (OrphanRequests.step s.service (.track j (.ofImage data))).map fun service =>
            { s with
              service := service
              toService := Function.update s.toService j rest }
      | none => none
  | .service a padding =>
      if isTrack a then none
      else
        (OrphanRequests.step s.service a).map fun service =>
          { s with
            service := service
            toClient := fun j => s.toClient j ++ images padding (sentTo j s.service service) }
  | .unsolicited event connections padding =>
      some { s with
        toClient := fun j =>
          if j ∈ connections then
            s.toClient j ++ (handleRilUnsolicitedResponse event).image padding
          else s.toClient j }
  | .deliver j =>
      match nextRead sizeofMsg (s.toClient j) with
      | some (data, rest) =>
          (ClientRuns.step (s.clients j) (.receive (.ofImage data))).map fun client =>
            { s with
              clients := Function.update s.clients j client
              toClient := Function.update s.toClient j rest }
      | none => none

/-- The system as one of messages. -/
def messages (s : State κ φ δ) : WholeSystem.State κ φ δ :=
  { clients := s.clients, toService := fun j => pumpLoop false (s.toService j)
    service := s.service, toClient := fun j => pumpLoop false (s.toClient j)
    requests := s.requests }

def messageAction : Action κ φ δ → WholeSystem.Action κ φ δ
  | .client j a => .client j a
  | .send j k request _ => .send j k request
  | .track j => .track j
  | .service a _ => .service a
  | .unsolicited event connections _ => .unsolicited event connections
  | .deliver j => .deliver j 0

def Orderly (s : State κ φ δ) (a : Action κ φ δ) : Prop :=
  WholeSystem.Orderly (messages s) (messageAction a)

/-- A message is received after those that were sent before it. -/
def InOrder : WholeSystem.Action κ φ δ → Prop
  | .deliver _ i => i = 0
  | _ => True

def Whole (stream : List UInt8) : Prop := sizeofMsg ∣ stream.length

section Streams

variable {stream data rest : List UInt8}

theorem whole_append_image (h : Whole stream) (msg : UrilProtocolMsg) (padding : Nat → UInt8) :
    Whole (stream ++ msg.image padding) := by
  rw [Whole, List.length_append, image_length]
  exact Nat.dvd_add h dvd_rfl

theorem pumpLoop_append_image (h : Whole stream) (msg : UrilProtocolMsg)
    (padding : Nat → UInt8) :
    pumpLoop false (stream ++ msg.image padding) = pumpLoop false stream ++ [msg] := by
  rw [pumpLoop, reads_append_frame sizeofMsg_pos h (image_length msg padding), List.map_append,
    List.map_singleton, ofImage_image, pumpLoop]

theorem append_images (h : Whole stream) (padding : Nat → UInt8) (msgs : List UrilProtocolMsg) :
    Whole (stream ++ images padding msgs) ∧
      pumpLoop false (stream ++ images padding msgs) = pumpLoop false stream ++ msgs := by
  induction msgs generalizing stream with
  | nil => simp [images, h]
  | cons msg msgs ih =>
      obtain ⟨hwhole, hloop⟩ := ih (whole_append_image h msg padding)
      have hsplit : stream ++ images padding (msg :: msgs) =
          stream ++ msg.image padding ++ images padding msgs := by
        simp [images]
      rw [hsplit]
      refine ⟨hwhole, ?_⟩
      rw [hloop, pumpLoop_append_image h, List.append_assoc, List.singleton_append]

theorem whole_nextRead (h : Whole stream) (hread : nextRead sizeofMsg stream = some (data, rest)) :
    Whole rest := by
  obtain ⟨hlength, rfl⟩ := nextRead_eq_some hread
  rw [Whole, List.length_append, hlength] at h
  exact (Nat.dvd_add_right dvd_rfl).mp h

theorem pumpLoop_nextRead (hread : nextRead sizeofMsg stream = some (data, rest)) :
    pumpLoop false stream = .ofImage data :: pumpLoop false rest := by
  rw [pumpLoop, reads_nextRead false sizeofMsg_pos hread, List.map_cons, pumpLoop]

theorem pumpLoop_nextRead_none (hread : nextRead sizeofMsg stream = none) :
    pumpLoop false stream = [] := by
  rw [pumpLoop, reads_nextRead_none hread, List.map_nil]

end Streams

structure Aligned (s : State κ φ δ) : Prop where
  toService : ∀ j, Whole (s.toService j)
  toClient : ∀ j, Whole (s.toClient j)

section Steps

variable {s t : State κ φ δ}

omit [DecidableEq κ] in
theorem aligned_initial (indCb defaultRespCb : κ → Option φ) :
    Aligned (State.initial indCb defaultRespCb : State κ φ δ) :=
  ⟨fun _ => dvd_zero _, fun _ => dvd_zero _⟩

omit [DecidableEq κ] in
theorem messages_initial (indCb defaultRespCb : κ → Option φ) :
    messages (State.initial indCb defaultRespCb : State κ φ δ) =
      WholeSystem.State.initial indCb defaultRespCb := by
  simp [messages, State.initial, WholeSystem.State.initial, pumpLoop, reads_nil]

theorem whole_update {streams : κ → List UInt8} (h : ∀ j, Whole (streams j)) {j : κ}
    {stream : List UInt8} (hstream : Whole stream) (j' : κ) :
    Whole (Function.update streams j stream j') := by
  obtain rfl | hj := eq_or_ne j' j
  · rwa [Function.update_self]
  · rw [Function.update_of_ne hj]
    exact h j'

theorem pumpLoop_update (streams : κ → List UInt8) (j : κ) (stream : List UInt8) :
    (fun j' => pumpLoop false (Function.update streams j stream j')) =
      Function.update (fun j' => pumpLoop false (streams j')) j (pumpLoop false stream) :=
  Function.comp_update (pumpLoop false) streams j stream

theorem aligned_step {a : Action κ φ δ} (h : Aligned s) (hstep : step s a = some t) :
    Aligned t := by
  cases a with
  | client j a =>
      simp only [step, Option.ite_none_right_eq_some, Option.map_eq_some_iff] at hstep
      obtain ⟨-, client, -, rfl⟩ := hstep
      exact ⟨h.toService, h.toClient⟩
  | send j k request padding =>
      simp only [step, Option.ite_none_right_eq_some, Option.map_eq_some_iff] at hstep
      obtain ⟨-, client, -, rfl⟩ := hstep
      exact ⟨whole_update h.toService (whole_append_image (h.toService j) request padding),
        h.toClient⟩
  | track j =>
      simp only [step] at hstep
      split at hstep
      · rename_i data rest hread
        obtain ⟨service, -, rfl⟩ := Option.map_eq_some_iff.mp hstep
        exact ⟨whole_update h.toService (whole_nextRead (h.toService j) hread), h.toClient⟩
      · cases hstep
  | service a padding =>
      simp only [step, Option.ite_none_left_eq_some, Option.map_eq_some_iff] at hstep
      obtain ⟨-, service, -, rfl⟩ := hstep
      exact ⟨h.toService, fun j => (append_images (h.toClient j) padding _).1⟩
  | unsolicited event connections padding =>
      obtain rfl := Option.some.inj hstep
      refine ⟨h.toService, fun j => ?_⟩
      by_cases hj : j ∈ connections
      · simp only [if_pos hj]
        exact whole_append_image (h.toClient j) _ padding
      · simp only [if_neg hj]
        exact h.toClient j
  | deliver j =>
      simp only [step] at hstep
      split at hstep
      · rename_i data rest hread
        obtain ⟨client, -, rfl⟩ := Option.map_eq_some_iff.mp hstep
        exact ⟨h.toService, whole_update h.toClient (whole_nextRead (h.toClient j) hread)⟩
      · cases hstep

/-- A step on bytes is the step on the messages they are. -/
theorem step_messages (h : Aligned s) (a : Action κ φ δ) :
    (step s a).map messages = WholeSystem.step (messages s) (messageAction a) := by
  cases a with
  | client j a =>
      simp only [step, messageAction, WholeSystem.step]
      split
      · rw [Option.map_map]
        rfl
      · rfl
  | send j k request padding =>
      cases hrequest : isRequestOf (s.clients j) k request with
      | false => simp [step, messageAction, WholeSystem.step, messages, hrequest]
      | true =>
          simp only [step, messageAction, WholeSystem.step, messages, hrequest, if_true,
            Option.map_map]
          refine congrArg (Option.map · _) ?_
          funext client
          simp only [Function.comp_apply, messages, pumpLoop_update,
            pumpLoop_append_image (h.toService j)]
  | track j =>
      simp only [step, messageAction, WholeSystem.step]
      cases hread : nextRead sizeofMsg (s.toService j) with
      | none => simp [messages, pumpLoop_nextRead_none hread]
      | some read =>
          obtain ⟨data, rest⟩ := read
          simp only [messages, pumpLoop_nextRead hread, Option.map_map]
          refine congrArg (Option.map · _) ?_
          funext service
          simp only [Function.comp_apply, messages, pumpLoop_update]
  | service a padding =>
      simp only [step, messageAction, WholeSystem.step]
      split
      · rfl
      · rw [Option.map_map]
        refine congrArg (Option.map · _) ?_
        funext service
        simp only [Function.comp_apply, messages, (append_images (h.toClient _) padding _).2]
  | unsolicited event connections padding =>
      simp only [step, messageAction, WholeSystem.step, Option.map_some, messages]
      congr 2
      funext j
      by_cases hj : j ∈ connections
      · simp only [if_pos hj, pumpLoop_append_image (h.toClient j)]
      · simp only [if_neg hj]
  | deliver j =>
      simp only [step, messageAction, WholeSystem.step]
      cases hread : nextRead sizeofMsg (s.toClient j) with
      | none => simp [messages, pumpLoop_nextRead_none hread]
      | some read =>
          obtain ⟨data, rest⟩ := read
          simp only [messages, pumpLoop_nextRead hread, Option.map_map]
          refine congrArg (Option.map · _) ?_
          funext client
          simp only [Function.comp_apply, messages, pumpLoop_update, List.eraseIdx_zero,
            List.tail_cons]

end Steps

/-- The action on bytes, where the padding is zero. -/
def imageAction : WholeSystem.Action κ φ δ → Action κ φ δ
  | .client j a => .client j a
  | .send j k request => .send j k request fun _ => 0
  | .track j => .track j
  | .service a => .service a fun _ => 0
  | .unsolicited event connections => .unsolicited event connections fun _ => 0
  | .deliver j _ => .deliver j

omit [DecidableEq κ] in
theorem messageAction_imageAction {a : WholeSystem.Action κ φ δ} (h : InOrder a) :
    messageAction (imageAction a) = a := by
  cases a with
  | deliver j i =>
      obtain rfl : i = 0 := h
      rfl
  | _ => rfl

omit [DecidableEq κ] in
theorem inOrder_messageAction (a : Action κ φ δ) : InOrder (messageAction a) := by
  cases a with
  | deliver j => exact rfl
  | _ => trivial

/-- What is known of a state on bytes and the state on messages that goes with it. -/
def Reads (s : State κ φ δ) (w : WholeSystem.State κ φ δ) : Prop := Aligned s ∧ messages s = w

end UnifiedRil.ByteStreams

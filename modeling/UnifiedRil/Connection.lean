import UnifiedRil.Library.Frames
import UnifiedRil.Client

/-!
The two ends of a connection: `pumpLoop` and `sendMessageToClient` of the
service, `receive_routine` of the client. A stream is the list of bytes that
were accepted by the sender's socket.
-/

namespace UnifiedRil.Connection

open UnifiedRil.Library.Frames
open UnifiedRil.Protocol
open UnifiedRil.Client

variable {φ δ : Type}

/-- The messages that `pumpLoop` hands to its observers. The message it reads
into is zeroed, so the end of a short last read is zero. -/
def pumpLoop (closed : Bool) (stream : List UInt8) : List UrilProtocolMsg :=
  (reads sizeofMsg closed stream).map UrilProtocolMsg.ofImage

/-- The calls that `receive_routine` makes, through `connector_on_receive`. -/
def receiveRoutine (closed : Bool) (ctx : Context φ δ) (stream : List UInt8) :
    Context φ δ × List (Upcall φ δ) :=
  (reads sizeofMsg closed stream).foldl
    (fun (ctx, upcalls) data =>
      ((connectorOnReceive ctx data).1, upcalls ++ (connectorOnReceive ctx data).2.toList))
    (ctx, [])

/-- `service_connector->send` and `sendMessageToClient` hand the image of a
message to the socket, which refuses it or takes `count` bytes of it. -/
def sendMessage (msg : UrilProtocolMsg) (padding : Nat → UInt8) (count : Nat) : List UInt8 :=
  (msg.image padding).take count

theorem sendMessage_whole (msg : UrilProtocolMsg) (padding : Nat → UInt8) {count : Nat}
    (h : sizeofMsg ≤ count) : sendMessage msg padding count = msg.image padding :=
  List.take_of_length_le (by rwa [image_length])

theorem sizeofMsg_pos : 0 < sizeofMsg := by decide

/-- The stream of messages that were sent whole. -/
def streamOf (sent : List (UrilProtocolMsg × (Nat → UInt8))) : List UInt8 :=
  (sent.map fun m => m.1.image m.2).flatten

theorem reads_streamOf (closed : Bool) (sent : List (UrilProtocolMsg × (Nat → UInt8)))
    (rest : List UInt8) :
    reads sizeofMsg closed (streamOf sent ++ rest) =
      (sent.map fun m => m.1.image m.2) ++ reads sizeofMsg closed rest := by
  refine reads_flatten_append closed sizeofMsg_pos rest _ ?_
  intro frame hframe
  obtain ⟨m, -, rfl⟩ := List.mem_map.mp hframe
  exact image_length m.1 m.2

theorem pumpLoop_streamOf (closed : Bool) (sent : List (UrilProtocolMsg × (Nat → UInt8)))
    (rest : List UInt8) :
    pumpLoop closed (streamOf sent ++ rest) = sent.map (·.1) ++ pumpLoop closed rest := by
  rw [pumpLoop, reads_streamOf, List.map_append, List.map_map, pumpLoop]
  congr 1
  exact List.map_congr_left fun m _ => ofImage_image m.1 m.2

theorem pumpLoop_image (msg : UrilProtocolMsg) (padding : Nat → UInt8) :
    pumpLoop false (msg.image padding) = [msg] := by
  rw [pumpLoop, reads_frame (image_length msg padding) sizeofMsg_pos, List.map_singleton,
    ofImage_image]

theorem pumpLoop_short {stream : List UInt8} (h : stream.length < sizeofMsg) :
    pumpLoop false stream = [] := by
  rw [pumpLoop, reads_short h, List.map_nil]

theorem receiveRoutine_image (ctx : Context φ δ) (msg : UrilProtocolMsg)
    (padding : Nat → UInt8) :
    receiveRoutine false ctx (msg.image padding) =
      ((handleReceive ctx msg).1, (handleReceive ctx msg).2.toList) := by
  rw [receiveRoutine, reads_frame (image_length msg padding) sizeofMsg_pos]
  simp [connectorOnReceive]

end UnifiedRil.Connection

import UnifiedRil.Library.Bytes

/-!
The message that clients and service exchange (`inc/internal/uril_protocol.h`)
and its image in memory. The struct is not packed, so its image has padding
after `is_indication`, after `sim_id` and at its end.
-/

namespace UnifiedRil.Protocol

open UnifiedRil.Library.Bytes

abbrev maxUrilPayloadSize : Nat := 1024

/-- `uril_protocol_msg_t` -/
structure UrilProtocolMsg where
  isIndication : UInt8
  uniqueId : UInt32
  simId : UInt8
  msgId : UInt32
  len : UInt16
  payload : Vector UInt8 maxUrilPayloadSize
  deriving DecidableEq

/-- Offset of `payload` in the struct. -/
def payloadOffset : Nat := 18

/-- `sizeof(uril_protocol_msg_t)` -/
def sizeofMsg : Nat := 1044

/-- A message whose bytes are all zero. -/
def UrilProtocolMsg.zeroed : UrilProtocolMsg :=
  { isIndication := 0, uniqueId := 0, simId := 0, msgId := 0, len := 0
    payload := zeros maxUrilPayloadSize }

/-- The bytes of a message in memory. What the padding bytes hold is
unspecified. -/
def UrilProtocolMsg.image (m : UrilProtocolMsg) (padding : Nat → UInt8) : List UInt8 :=
  m.isIndication :: padding 1 :: padding 2 :: padding 3 ::
    (leBytes 4 m.uniqueId.toNat ++
      (m.simId :: padding 9 :: padding 10 :: padding 11 ::
        (leBytes 4 m.msgId.toNat ++
          (leBytes 2 m.len.toNat ++ (m.payload.toList ++ [padding 1042, padding 1043])))))

/-- The struct read from an image, as `uril_protocol_msg_from_buffer` and
`recv` into a message fill it. Bytes the image lacks read as zero. -/
def UrilProtocolMsg.ofImage (image : List UInt8) : UrilProtocolMsg :=
  { isIndication := image.getD 0 0
    uniqueId := UInt32.ofNat (leValue (slice image 4 4))
    simId := image.getD 8 0
    msgId := UInt32.ofNat (leValue (slice image 12 4))
    len := UInt16.ofNat (leValue (slice image 16 2))
    payload := overwrite (zeros _) (slice image payloadOffset maxUrilPayloadSize) }

@[simp] theorem image_length (m : UrilProtocolMsg) (padding : Nat → UInt8) :
    (m.image padding).length = sizeofMsg := by
  simp [UrilProtocolMsg.image, sizeofMsg, maxUrilPayloadSize]

theorem slice_image_payload (m : UrilProtocolMsg) (padding : Nat → UInt8) :
    slice (m.image padding) payloadOffset maxUrilPayloadSize = m.payload.toList := by
  simp [slice, UrilProtocolMsg.image, List.drop_append, drop_leBytes, payloadOffset]

@[simp] theorem ofImage_image (m : UrilProtocolMsg) (padding : Nat → UInt8) :
    UrilProtocolMsg.ofImage (m.image padding) = m := by
  have hid : slice (m.image padding) 4 4 = leBytes 4 m.uniqueId.toNat := by
    simp [slice, UrilProtocolMsg.image]
  have hmsg : slice (m.image padding) 12 4 = leBytes 4 m.msgId.toNat := by
    simp [slice, UrilProtocolMsg.image, List.drop_append, drop_leBytes]
  have hlen : slice (m.image padding) 16 2 = leBytes 2 m.len.toNat := by
    simp [slice, UrilProtocolMsg.image, List.drop_append, drop_leBytes]
  have hsim : (m.image padding).getD 8 0 = m.simId := by
    simp [UrilProtocolMsg.image]
  unfold UrilProtocolMsg.ofImage
  rw [hid, hmsg, hlen, slice_image_payload, hsim, overwrite_toList,
    leValue_leBytes_of_lt (UInt32.toNat_lt _), leValue_leBytes_of_lt (UInt32.toNat_lt _),
    leValue_leBytes_of_lt (UInt16.toNat_lt _)]
  simp [UrilProtocolMsg.image]

end UnifiedRil.Protocol

import Mathlib.Logic.Equiv.Basic
import UnifiedRil.Library.Bytes

/-!
Packed structures in memory: types with a byte image, the fields of a
structure with their offsets, and a structure that is being filled in together
with the record of the bytes that were written.
-/

namespace UnifiedRil.Library.Layout

open UnifiedRil.Library.Bytes

/-- Replace the bytes of an image from offset `off` on. -/
def patch (image : List UInt8) (off : Nat) (bytes : List UInt8) : List UInt8 :=
  image.take off ++ bytes ++ image.drop (off + bytes.length)

theorem patch_append_right (front image bytes : List UInt8) (off : Nat) :
    patch (front ++ image) (front.length + off) bytes = front ++ patch image off bytes := by
  simp [patch, List.take_append, List.drop_append, Nat.add_assoc, List.take_of_length_le]

theorem patch_append_left {image bytes : List UInt8} {off : Nat} (rest : List UInt8)
    (h : off + bytes.length ≤ image.length) :
    patch (image ++ rest) off bytes = patch image off bytes ++ rest := by
  have htake : off - image.length = 0 := by omega
  have hdrop : off + bytes.length - image.length = 0 := by omega
  simp [patch, List.take_append, List.drop_append, htake, hdrop]

/-- Patching a slice and writing it back patches the whole. -/
theorem patch_slice {image bytes : List UInt8} {off n k : Nat}
    (himage : off + n ≤ image.length) (hbytes : k + bytes.length ≤ n) :
    patch image off (patch (slice image off n) k bytes) = patch image (off + k) bytes := by
  obtain ⟨front, rest, rfl, rfl⟩ : ∃ front rest, image = front ++ rest ∧ front.length = off :=
    ⟨image.take off, image.drop off, by simp, by simp; omega⟩
  obtain ⟨mid, back, rfl, rfl⟩ : ∃ mid back, rest = mid ++ back ∧ mid.length = n :=
    ⟨rest.take n, rest.drop n, by simp, by simp at himage ⊢; omega⟩
  have hslice : slice (front ++ (mid ++ back)) front.length mid.length = mid := by
    simp [slice]
  have hlength : (patch mid k bytes).length = mid.length := by
    simp [patch]
    omega
  rw [hslice, patch_append_right, patch_append_left back hbytes]
  have hwhole : patch (front ++ (mid ++ back)) (front.length + 0) (patch mid k bytes) =
      front ++ patch (mid ++ back) 0 (patch mid k bytes) := patch_append_right ..
  rw [Nat.add_zero] at hwhole
  have hback : patch (mid ++ back) 0 (patch mid k bytes) = patch mid k bytes ++ back := by
    rw [patch, hlength]
    simp
  rw [hwhole, hback]

theorem getElem?_patch {image bytes : List UInt8} {off : Nat}
    (h : off + bytes.length ≤ image.length) (i : Nat) :
    (patch image off bytes)[i]? =
      if off ≤ i ∧ i < off + bytes.length then bytes[i - off]? else image[i]? := by
  have hoff : (image.take off).length = off := by
    rw [List.length_take]
    omega
  rw [patch, List.append_assoc, List.getElem?_append, hoff, List.getElem?_append]
  split
  · rw [if_neg (by omega), List.getElem?_take_of_lt ‹_›]
  · split
    · rw [if_pos (by omega)]
    · rw [if_neg (by omega), List.getElem?_drop]
      congr 1
      omega

/-- A type whose values have an image of fixed size. Bytes that an image lacks
are read as zero. -/
class Packed (α : Type) where
  sizeof : Nat
  encode : α → List UInt8
  decode : List UInt8 → α
  length_encode : ∀ a, (encode a).length = sizeof
  decode_encode : ∀ a rest, decode (encode a ++ rest) = a

export Packed (sizeof encode decode)

attribute [simp] Packed.length_encode Packed.decode_encode

variable {α β γ : Type}

@[simp] theorem decode_encode_self [Packed α] (a : α) : decode (encode a) = a := by
  simpa using Packed.decode_encode a []

instance : Packed UInt8 where
  sizeof := 1
  encode b := [b]
  decode image := image.getD 0 0
  length_encode _ := rfl
  decode_encode _ _ := rfl

instance : Packed UInt16 where
  sizeof := 2
  encode n := leBytes 2 n.toNat
  decode image := UInt16.ofNat (leValue (image.take 2))
  length_encode _ := leBytes_length ..
  decode_encode n rest := by
    rw [List.take_left' (leBytes_length ..), leValue_leBytes_of_lt (UInt16.toNat_lt n)]
    simp

instance : Packed UInt32 where
  sizeof := 4
  encode n := leBytes 4 n.toNat
  decode image := UInt32.ofNat (leValue (image.take 4))
  length_encode _ := leBytes_length ..
  decode_encode n rest := by
    rw [List.take_left' (leBytes_length ..), leValue_leBytes_of_lt (UInt32.toNat_lt n)]
    simp

instance [Packed α] [Packed β] : Packed (α × β) where
  sizeof := sizeof α + sizeof β
  encode p := encode p.1 ++ encode p.2
  decode image := (decode image, decode (image.drop (sizeof α)))
  length_encode p := by simp
  decode_encode p rest := by simp [List.append_assoc]

@[simp] theorem sizeof_prod [Packed α] [Packed β] :
    sizeof (α × β) = sizeof α + sizeof β := rfl

theorem encode_pair [Packed α] [Packed β] (a : α) (b : β) :
    encode (a, b) = encode a ++ encode b := rfl

section Arrays

variable [Packed α]

theorem take_flatMap_encode (values : List α) (i : Nat) :
    (values.flatMap encode).take (i * sizeof α) = (values.take i).flatMap encode := by
  induction values generalizing i with
  | nil => simp
  | cons a values ih =>
      cases i with
      | zero => simp
      | succ i =>
          have hsize : (i + 1) * sizeof α - sizeof α = i * sizeof α := by
            rw [Nat.succ_mul, Nat.add_sub_cancel]
          have hle : sizeof α ≤ (i + 1) * sizeof α := Nat.le_mul_of_pos_left _ i.succ_pos
          rw [List.flatMap_cons, List.take_append, Packed.length_encode, hsize, ih,
            List.take_of_length_le (by rwa [Packed.length_encode])]
          simp

theorem drop_flatMap_encode (values : List α) (i : Nat) :
    (values.flatMap encode).drop (i * sizeof α) = (values.drop i).flatMap encode := by
  induction values generalizing i with
  | nil => simp
  | cons a values ih =>
      cases i with
      | zero => simp
      | succ i =>
          have hsize : (i + 1) * sizeof α - sizeof α = i * sizeof α := by
            rw [Nat.succ_mul, Nat.add_sub_cancel]
          have hle : sizeof α ≤ (i + 1) * sizeof α := Nat.le_mul_of_pos_left _ i.succ_pos
          rw [List.flatMap_cons, List.drop_append, Packed.length_encode, hsize, ih,
            List.drop_of_length_le (by rwa [Packed.length_encode])]
          simp

@[simp] theorem flatMap_encode_length (values : List α) :
    (values.flatMap encode).length = values.length * sizeof α := by
  induction values with
  | nil => simp
  | cons a values ih => rw [List.flatMap_cons, List.length_append, ih, Packed.length_encode,
      List.length_cons, Nat.succ_mul, Nat.add_comm]

end Arrays

instance {n : Nat} [Packed α] : Packed (Vector α n) where
  sizeof := n * sizeof α
  encode values := values.toList.flatMap encode
  decode image := Vector.ofFn fun i => decode (image.drop (i * sizeof α))
  length_encode values := by rw [flatMap_encode_length, Vector.length_toList]
  decode_encode values rest := by
    ext i hi
    have hle : i * sizeof α ≤ (values.toList.flatMap encode).length := by
      rw [flatMap_encode_length, Vector.length_toList]
      exact Nat.mul_le_mul_right _ hi.le
    rw [Vector.getElem_ofFn, List.drop_append_of_le_length hle, drop_flatMap_encode,
      List.drop_eq_getElem_cons (by simpa using hi)]
    simp

/-- The layout of a structure is that of its fields in their order. -/
@[reducible] def Packed.ofEquiv [Packed β] (e : α ≃ β) : Packed α where
  sizeof := sizeof β
  encode a := encode (e a)
  decode image := e.symm (decode image)
  length_encode a := Packed.length_encode (e a)
  decode_encode a rest := by simp

instance : Packed Int8 := .ofEquiv ⟨Int8.toUInt8, UInt8.toInt8, fun _ => rfl, fun _ => rfl⟩

instance : Packed Int16 := .ofEquiv ⟨Int16.toUInt16, UInt16.toInt16, fun _ => rfl, fun _ => rfl⟩

/-- Every byte string of the size of the type is the image of one of its
values. -/
class LawfulPacked (α : Type) [Packed α] : Prop where
  encode_decode : ∀ image : List UInt8, sizeof α ≤ image.length →
    encode (decode image : α) = image.take (sizeof α)

section LawfulPacked

variable [Packed α] [Packed β] [LawfulPacked α] [LawfulPacked β]

instance : LawfulPacked UInt8 where
  encode_decode image h := by
    obtain ⟨b, rest, rfl⟩ := List.exists_cons_of_length_pos h
    rfl

instance : LawfulPacked UInt16 where
  encode_decode image h := by
    change leBytes 2 (UInt16.ofNat _).toNat = _
    rw [UInt16.toNat_ofNat']
    exact leBytes_take h

instance : LawfulPacked UInt32 where
  encode_decode image h := by
    change leBytes 4 (UInt32.ofNat _).toNat = _
    rw [UInt32.toNat_ofNat']
    exact leBytes_take h

instance : LawfulPacked (α × β) where
  encode_decode image h := by
    rw [sizeof_prod] at h ⊢
    change encode (decode image : α) ++ encode (decode (image.drop (sizeof α)) : β) = _
    rw [LawfulPacked.encode_decode image (Nat.le_of_add_right_le h),
      LawfulPacked.encode_decode (image.drop (sizeof α)) (by simpa using Nat.le_sub_of_add_le' h),
      ← List.take_add]

theorem flatMap_encode_decode (n : Nat) (image : List UInt8) (h : n * sizeof α ≤ image.length) :
    (List.ofFn fun i : Fin n => (decode (image.drop (i * sizeof α)) : α)).flatMap encode =
      image.take (n * sizeof α) := by
  induction n generalizing image with
  | zero => simp
  | succ n ih =>
      rw [Nat.succ_mul] at h
      have hdrop : ∀ i : Fin n, image.drop (i.succ * sizeof α) =
          (image.drop (sizeof α)).drop (i * sizeof α) := by
        intro i
        rw [List.drop_drop, Fin.val_succ, Nat.succ_mul, Nat.add_comm]
      have hrest := ih (image.drop (sizeof α)) (by simpa using Nat.le_sub_of_add_le h)
      rw [List.ofFn_succ, List.flatMap_cons]
      simp only [hdrop]
      rw [hrest, Fin.val_zero, Nat.zero_mul, List.drop_zero,
        LawfulPacked.encode_decode image (Nat.le_of_add_left_le h), ← List.take_add,
        Nat.succ_mul, Nat.add_comm]

instance {n : Nat} : LawfulPacked (Vector α n) where
  encode_decode image h := by
    change (Vector.ofFn _).toList.flatMap encode = _
    rw [Vector.toList_ofFn]
    exact flatMap_encode_decode n image h

end LawfulPacked

theorem LawfulPacked.ofEquiv [Packed β] [LawfulPacked β] (e : α ≃ β) :
    @LawfulPacked α (Packed.ofEquiv e) := by
  refine @LawfulPacked.mk α (Packed.ofEquiv e) fun image h => ?_
  change encode (e (e.symm (decode image))) = _
  rw [Equiv.apply_symm_apply]
  exact LawfulPacked.encode_decode image h

instance : LawfulPacked Int8 := .ofEquiv _

instance : LawfulPacked Int16 := .ofEquiv _

section Blank

variable [Packed α] [Packed β]

/-- The value of memory that was zeroed. -/
def Blank (a : α) : Prop := encode a = List.replicate (sizeof α) 0

instance (a : α) : Decidable (Blank a) := inferInstanceAs (Decidable (_ = _))

theorem blank_uint8 : Blank (0 : UInt8) := rfl

theorem blank_uint16 : Blank (0 : UInt16) := rfl

theorem blank_uint32 : Blank (0 : UInt32) := rfl

theorem Blank.pair {a : α} {b : β} (ha : Blank a) (hb : Blank b) : Blank (a, b) := by
  rw [Blank, encode_pair, ha, hb, List.replicate_append_replicate, sizeof_prod]

theorem Blank.replicate {a : α} (h : Blank a) (n : Nat) : Blank (Vector.replicate n a) := by
  change (Vector.replicate n a).toList.flatMap encode = List.replicate (n * sizeof α) 0
  rw [Vector.toList_replicate, List.flatMap_replicate, h, List.flatten_replicate_replicate]

end Blank

/-- A part of a structure: how it is read and written, and where it is in the
structure's image. -/
structure Field (α β : Type) [Packed α] [Packed β] where
  offset : Nat
  get : α → β
  set : α → β → α
  encode_get : ∀ a, encode (get a) = slice (encode a) offset (sizeof β)
  encode_set : ∀ a b, encode (set a b) = patch (encode a) offset (encode b)
  fits : offset + sizeof β ≤ sizeof α

namespace Field

variable [Packed α] [Packed β] [Packed γ]

theorem getElem?_encode_set (f : Field α β) (a : α) (b : β) {i : Nat} (h : i < sizeof β) :
    (encode (f.set a b))[f.offset + i]? = (encode b)[i]? := by
  have hfits : f.offset + (encode b).length ≤ (encode a).length := by
    simpa using f.fits
  rw [f.encode_set, getElem?_patch hfits, if_pos (by simpa using h), Nat.add_sub_cancel_left]

/-- The structure seen as the tuple of its fields. -/
def ofEquiv (e : α ≃ β) (hencode : ∀ a : α, encode a = encode (e a))
    (hsize : sizeof β = sizeof α) : Field α β where
  offset := 0
  get := e
  set _ := e.symm
  encode_get a := by
    have hall : (encode (e a)).length ≤ sizeof β := (Packed.length_encode _).le
    rw [hencode, slice, List.drop_zero, List.take_of_length_le hall]
  encode_set a b := by
    have hall : (encode a).length ≤ 0 + (encode b).length := by
      rw [Packed.length_encode, Packed.length_encode, hsize, Nat.zero_add]
    rw [patch, List.take_zero, List.nil_append, List.drop_of_length_le hall, List.append_nil,
      hencode, Equiv.apply_symm_apply]
  fits := by rw [hsize, Nat.zero_add]

/-- The first of two neighbouring parts. -/
def fst (f : Field α (β × γ)) : Field α β where
  offset := f.offset
  get a := (f.get a).1
  set a b := f.set a (b, (f.get a).2)
  encode_get a := by
    have hpair := congrArg (List.take (sizeof β)) (f.encode_get a)
    rw [← Prod.eta (f.get a), encode_pair, List.take_left' (Packed.length_encode _), slice,
      List.take_take, sizeof_prod, min_eq_left (Nat.le_add_right ..)] at hpair
    exact hpair
  encode_set a b := by
    have hfits := f.fits
    rw [f.encode_set]
    have hpair : encode (b, (f.get a).2) = patch (encode (f.get a)) 0 (encode b) := by
      rw [← Prod.eta (f.get a), encode_pair, encode_pair, patch]
      simp
    rw [hpair, f.encode_get, patch_slice (by simpa using hfits) (by simp), Nat.add_zero]
  fits := (Nat.add_le_add_left (Nat.le_add_right ..) _).trans f.fits

/-- The second of two neighbouring parts. -/
def snd (f : Field α (β × γ)) : Field α γ where
  offset := f.offset + sizeof β
  get a := (f.get a).2
  set a c := f.set a ((f.get a).1, c)
  encode_get a := by
    have hpair := congrArg (List.drop (sizeof β)) (f.encode_get a)
    rw [← Prod.eta (f.get a), encode_pair, List.drop_left' (Packed.length_encode _), slice,
      List.drop_take, List.drop_drop, sizeof_prod, Nat.add_sub_cancel_left] at hpair
    exact hpair
  encode_set a c := by
    have hfits := f.fits
    rw [f.encode_set]
    have hpair : encode ((f.get a).1, c) = patch (encode (f.get a)) (sizeof β) (encode c) := by
      rw [← Prod.eta (f.get a), encode_pair, encode_pair, patch,
        List.take_left' (Packed.length_encode _), List.drop_of_length_le (by simp)]
      simp
    rw [hpair, f.encode_get, patch_slice (by simpa using hfits) (by simp)]
  fits := by
    rw [Nat.add_assoc]
    exact f.fits

/-- A part of a part. -/
def trans (f : Field α β) (g : Field β γ) : Field α γ where
  offset := f.offset + g.offset
  get a := g.get (f.get a)
  set a c := f.set a (g.set (f.get a) c)
  encode_get a := by
    have hfits := g.fits
    rw [g.encode_get, f.encode_get, slice_slice hfits]
  encode_set a c := by
    rw [f.encode_set, g.encode_set, f.encode_get,
      patch_slice (by simpa using f.fits) (by simpa using g.fits)]
  fits := by
    have hf := f.fits
    have hg := g.fits
    omega

/-- The part as far as the bytes of an image go: nothing, where they end before it. -/
def read (f : Field α β) (image : List UInt8) : Option β :=
  if f.offset + sizeof β ≤ image.length then some (decode (image.drop f.offset)) else none

theorem read_take (f : Field α β) (a : α) (n : Nat) :
    f.read ((encode a).take n) = if f.offset + sizeof β ≤ n then some (f.get a) else none := by
  have hfits := f.fits
  unfold read
  rw [List.length_take, Packed.length_encode]
  by_cases hn : f.offset + sizeof β ≤ n
  · have hpart : ((encode a).take n).drop f.offset =
        encode (f.get a) ++ (((encode a).take n).drop f.offset).drop (sizeof β) := by
      conv_lhs => rw [← List.take_append_drop (sizeof β) (((encode a).take n).drop f.offset)]
      congr 1
      rw [f.encode_get, slice, List.drop_take, List.take_take, min_eq_left (by omega)]
    rw [if_pos (by omega), if_pos hn, hpart, Packed.decode_encode]
  · rw [if_neg (by omega), if_neg hn]

/-- An element of an array. -/
def elem {n : Nat} (i : Fin n) : Field (Vector α n) α where
  offset := i * sizeof α
  get values := getElem values i i.isLt
  set values a := values.set i a i.isLt
  encode_get values := by
    have hdrop : (values.toList.drop i).flatMap (encode (α := α)) =
        encode (getElem values i i.isLt) ++ (values.toList.drop (i + 1)).flatMap encode := by
      rw [List.drop_eq_getElem_cons (by simp)]
      simp
    change encode (getElem values i i.isLt) = ((values.toList.flatMap encode).drop _).take _
    rw [drop_flatMap_encode, hdrop, List.take_left' (Packed.length_encode _)]
  encode_set values a := by
    change (values.set i a i.isLt).toList.flatMap encode = _
    rw [Vector.toList_set, List.set_eq_take_append_cons_drop, if_pos (by simp), patch,
      Packed.length_encode, ← Nat.succ_mul]
    change _ = (values.toList.flatMap encode).take _ ++ _ ++ (values.toList.flatMap encode).drop _
    rw [take_flatMap_encode, drop_flatMap_encode]
    simp
  fits := by
    have hsucc : (i : Nat) * sizeof α + sizeof α = (i + 1) * sizeof α := (Nat.succ_mul ..).symm
    rw [hsucc]
    exact Nat.mul_le_mul_right _ i.isLt

end Field

/-- A range of bytes. -/
structure Extent where
  start : Nat
  length : Nat
  deriving DecidableEq

/-- The offset after the last byte. -/
def Extent.stop (x : Extent) : Nat := x.start + x.length

def Extent.shift (x : Extent) (off : Nat) : Extent := { x with start := off + x.start }

@[simp] theorem Extent.stop_shift (x : Extent) (off : Nat) :
    (x.shift off).stop = off + x.stop := by
  simp [Extent.shift, Extent.stop, Nat.add_assoc]

instance : Membership Nat Extent := ⟨fun x i => x.start ≤ i ∧ i < x.stop⟩

instance (i : Nat) (x : Extent) : Decidable (i ∈ x) :=
  inferInstanceAs (Decidable (x.start ≤ i ∧ i < x.stop))

theorem Extent.mem_iff {x : Extent} {i : Nat} : i ∈ x ↔ x.start ≤ i ∧ i < x.stop := Iff.rfl

theorem Extent.mem_shift {x : Extent} {i off : Nat} :
    off + i ∈ x.shift off ↔ i ∈ x := by
  simp only [Extent.mem_iff, Extent.shift, Extent.stop]
  omega

/-- A structure that is being filled in, and the bytes of it that were written
so far. -/
structure Store [Packed α] (initial : α) where
  value : α
  extents : List Extent
  fits : ∀ x ∈ extents, x.stop ≤ sizeof α
  unchanged : ∀ i, (∀ x ∈ extents, i ∉ x) → (encode value)[i]? = (encode initial)[i]?

namespace Store

variable [Packed α] [Packed β] {a : α}

/-- Nothing is written yet. -/
def untouched (a : α) : Store a :=
  { value := a, extents := [], fits := by simp, unchanged := fun _ _ => rfl }

/-- The structure that a pointer to a field points to. -/
def view (s : Store a) (f : Field α β) : Store (f.get s.value) := untouched (f.get s.value)

/-- The whole structure, after a function was handed a pointer to the field. -/
def put (s : Store a) (f : Field α β) (part : Store (f.get s.value)) : Store a where
  value := f.set s.value part.value
  extents := s.extents ++ part.extents.map (·.shift f.offset)
  fits := by
    have hfits := f.fits
    intro x hx
    rcases List.mem_append.mp hx with hx | hx
    · exact s.fits x hx
    · obtain ⟨y, hy, rfl⟩ := List.mem_map.mp hx
      have hpart := part.fits y hy
      rw [Extent.stop_shift]
      omega
  unchanged i hi := by
    have hwhole := s.unchanged i fun x hx => hi x (List.mem_append_left _ hx)
    have hfits : f.offset + (encode part.value).length ≤ (encode s.value).length := by
      simpa using f.fits
    rw [f.encode_set, getElem?_patch hfits]
    split
    · rename_i hin
      obtain ⟨k, rfl⟩ : ∃ k, i = f.offset + k := ⟨i - f.offset, by omega⟩
      have hlt : k < sizeof β := by simpa using hin
      have hk : ∀ x ∈ part.extents, k ∉ x := by
        intro x hx hmem
        refine hi _ (List.mem_append_right _ (List.mem_map.mpr ⟨x, hx, rfl⟩)) ?_
        exact Extent.mem_shift.mpr hmem
      rw [Nat.add_sub_cancel_left, part.unchanged k hk, f.encode_get, slice,
        List.getElem?_take_of_lt hlt, List.getElem?_drop]
      exact hwhole
    · exact hwhole

/-- Assign a field. -/
def write (s : Store a) (f : Field α β) (b : β) : Store a :=
  s.put f
    { value := b, extents := [⟨0, sizeof β⟩]
      fits := by simp [Extent.stop]
      unchanged := fun i hi => by
        have hout : sizeof β ≤ i := by
          simpa [Extent.mem_iff, Extent.stop] using hi
        rw [List.getElem?_eq_none (by simpa), List.getElem?_eq_none (by simpa)] }

theorem encode_overwrite {n : Nat} (buffer : Vector UInt8 n) {bytes : List UInt8}
    (h : bytes.length ≤ n) :
    encode (overwrite buffer bytes) = patch (encode buffer) 0 bytes := by
  have hchars : ∀ v : Vector UInt8 n, encode v = v.toList := by
    intro v
    change v.toList.flatMap (fun b => [b]) = v.toList
    simp
  rw [hchars, hchars]
  apply List.ext_getElem?
  intro i
  rw [getElem?_patch (by simpa using h)]
  by_cases hi : i < bytes.length
  · have hn : i < n := by omega
    simp [hi, overwrite, hn]
  · by_cases hn : i < n
    · simp [hi, overwrite, hn]
    · simp [hi, hn]

/-- Copy bytes to the start of a character array. -/
def writeChars {n : Nat} (s : Store a) (f : Field α (Vector UInt8 n)) (bytes : List UInt8)
    (h : bytes.length ≤ n) : Store a :=
  s.put f
    { value := overwrite (f.get s.value) bytes, extents := [⟨0, bytes.length⟩]
      fits := by
        intro x hx
        obtain rfl := List.mem_singleton.mp hx
        rw [Extent.stop, Nat.zero_add]
        exact h.trans (Nat.mul_one n).ge
      unchanged := fun i hi => by
        have hout : bytes.length ≤ i := by
          simpa [Extent.mem_iff, Extent.stop] using hi
        have hfits : 0 + bytes.length ≤ (encode (f.get s.value)).length := by
          rw [Nat.zero_add, Packed.length_encode]
          exact h.trans (Nat.mul_one n).ge
        rw [encode_overwrite _ h, getElem?_patch hfits, if_neg (by omega)] }

/-- `snprintf(dst, sizeof(dst), "%s", src)` -/
def snprintf {n : Nat} (s : Store a) (f : Field α (Vector UInt8 n)) (src : List UInt8) :
    Store a :=
  s.writeChars f ((src.take (n - 1) ++ [0]).take n) (List.length_take_le ..)

/-- `strncpy(dst, src, count)` -/
def strncpy {n : Nat} (s : Store a) (f : Field α (Vector UInt8 n)) (src : List UInt8)
    (count : Nat) (h : count ≤ n) : Store a :=
  s.writeChars f ((src ++ List.replicate count 0).take count) ((List.length_take_le ..).trans h)

@[simp] theorem extents_write (s : Store a) (f : Field α β) (b : β) :
    (s.write f b).extents = s.extents ++ [⟨f.offset, sizeof β⟩] := rfl

theorem extents_put (s : Store a) (f : Field α β) (part : Store (f.get s.value)) :
    (s.put f part).extents = s.extents ++ part.extents.map (·.shift f.offset) := rfl

end Store

end UnifiedRil.Library.Layout

import UnifiedRil.RequestAssertions

namespace UnifiedRil.VendorStrings

open UnifiedRil.Library.Bytes
open UnifiedRil.Library.CStrings
open UnifiedRil.Library.Layout
open UnifiedRil.Library.Results
open UnifiedRil.Protocol
open UnifiedRil.Messages
open UnifiedRil.Ril
open UnifiedRil.RilConversion
open UnifiedRil.RilAdapter
open UnifiedRil.RequestAssertions

/-- The character fields of the two data requests. -/
inductive CharField
  | apn
  | user
  | password

/-- The strings that are passed to the vendor. -/
inductive VendorString
  | setupDataCall (field : CharField)
  | initialAttach (field : CharField)
  /-- `mcc` and `mnc` in one string -/
  | networkSelection

/-- A range of the payload. -/
structure Span where
  off : Nat
  len : Nat

def bytesOf (payload : Payload) (span : Span) : List UInt8 :=
  slice payload.toList span.off span.len

def setupSpan : CharField → Span
  | .apn => ⟨SetupDataCallReq.apnField.offset, 150⟩
  | .user => ⟨SetupDataCallReq.userField.offset, 127⟩
  | .password => ⟨SetupDataCallReq.passwordField.offset, 127⟩

def attachSpan : CharField → Span
  | .apn => ⟨SetInitialParamsReq.apnField.offset, 150⟩
  | .user => ⟨SetInitialParamsReq.userField.offset, 127⟩
  | .password => ⟨SetInitialParamsReq.passwordField.offset, 127⟩

def mccSpan : Span := ⟨SelectionReq.mccField.offset, 4⟩

def mncSpan : Span := ⟨SelectionReq.mncField.offset, 4⟩

/-- The fields that a string is made of. -/
def VendorString.spans : VendorString → List Span
  | .setupDataCall field => [setupSpan field]
  | .initialAttach field => [attachSpan field]
  | .networkSelection => [mccSpan, mncSpan]

/-- One of three values. -/
def CharField.pick {α : Type} (field : CharField) (apn user password : α) : α :=
  match field with
  | .apn => apn
  | .user => user
  | .password => password

/-- The string that the vendor is given, if the request gets there. -/
def passedString (v : VendorString) (payload : Payload) (uniqueId : UInt32) (simId : UInt8) :
    Option CharPtr :=
  match v with
  | .setupDataCall field =>
      match setupDataCallV1 payload uniqueId simId with
      | .ok ⟨[.submit _ ⟨_, .strings [_, _, apn, user, password, _, _, _], _⟩], _⟩ =>
          some (field.pick apn user password)
      | _ => none
  | .initialAttach field =>
      match setInitialAttachParamsV1 payload uniqueId simId with
      | .ok ⟨[.submit _ ⟨_, .attachApn apn _ _ user password, _⟩], _⟩ =>
          some (field.pick apn user password)
      | _ => none
  | .networkSelection =>
      match selectNetworkV1 payload uniqueId simId with
      | .ok ⟨[.submit _ ⟨_, .string s, _⟩], _⟩ => some (literal s)
      | _ => none

/-- The string in a field, as far as the field goes. -/
def ownPart (bytes : List UInt8) : List UInt8 := bytes.takeWhile (· ≠ 0)

/-- The string that the bytes of the fields themselves make up. -/
def ownString (v : VendorString) (payload : Payload) : List UInt8 :=
  match v with
  | .setupDataCall field => ownPart (bytesOf payload (setupSpan field))
  | .initialAttach field => ownPart (bytesOf payload (attachSpan field))
  | .networkSelection =>
      (ownPart (bytesOf payload mccSpan) ++ ownPart (bytesOf payload mncSpan)).take 6

/-- Two payloads have the same bytes in the fields of a string. -/
def Agree (v : VendorString) (payload payload' : Payload) : Prop :=
  ∀ span ∈ v.spans, bytesOf payload' span = bytesOf payload span

/-- The string that is passed is made of the bytes of its fields, and any
request with the same bytes there has the same string passed. -/
def Confined (v : VendorString) (payload : Payload) : Prop :=
  ∀ uniqueId simId s, passedString v payload uniqueId simId = some s →
    (∃ t, s = .to t ∧ t.chars = ownString v payload) ∧
      ∀ payload' uniqueId' simId' s', Agree v payload payload' →
        passedString v payload' uniqueId' simId' = some s' → s' = s

/-- Reading the string does not leave the fields: they are terminated, or what
is read behind `mcc` and `mnc` is cut off again. -/
def Terminated (v : VendorString) (payload : Payload) : Prop :=
  match v with
  | .setupDataCall field => 0 ∈ bytesOf payload (setupSpan field)
  | .initialAttach field => 0 ∈ bytesOf payload (attachSpan field)
  | .networkSelection =>
      let mcc := ownPart (bytesOf payload mccSpan)
      let mnc := ownPart (bytesOf payload mncSpan)
      (0 ∈ bytesOf payload mncSpan ∨ 2 ≤ mcc.length) ∧
        (0 ∈ bytesOf payload mccSpan ∨ mnc.length ≠ 1)

theorem ownPart_append_of_mem {bytes : List UInt8} (h : 0 ∈ bytes) (rest : List UInt8) :
    ownPart (bytes ++ rest) = ownPart bytes := by
  rw [ownPart, List.takeWhile_append, if_neg, ownPart]
  intro hlength
  have hall : bytes.takeWhile (· ≠ 0) = bytes :=
    (List.takeWhile_prefix _).eq_of_length hlength
  have hmem := hall.symm ▸ h
  simpa using List.mem_takeWhile_imp hmem

theorem ownPart_append_of_not_mem {bytes : List UInt8} (h : 0 ∉ bytes) (rest : List UInt8) :
    ownPart (bytes ++ rest) = bytes ++ ownPart rest :=
  List.takeWhile_append_of_pos fun _ ha => decide_eq_true (ne_of_mem_of_not_mem ha h)

theorem ownPart_of_not_mem {bytes : List UInt8} (h : 0 ∉ bytes) : ownPart bytes = bytes := by
  have happend := ownPart_append_of_not_mem h []
  rwa [List.append_nil, ownPart.eq_def [], List.takeWhile_nil, List.append_nil] at happend

/-- The string that starts at some bytes. -/
def pointerTo (bytes : List UInt8) : CharPtr :=
  match terminated bytes with
  | some s => .to s
  | none => .wild

theorem pointerTo_of_mem {bytes : List UInt8} (h : 0 ∈ bytes) :
    ∃ t, pointerTo bytes = .to t ∧ t.chars = ownPart bytes := by
  rw [pointerTo, terminated, if_pos h]
  exact ⟨_, rfl, rfl⟩

theorem pointerTo_congr {bytes bytes' : List UInt8} (h : 0 ∈ bytes) (h' : 0 ∈ bytes')
    (hown : ownPart bytes' = ownPart bytes) : pointerTo bytes' = pointerTo bytes := by
  obtain ⟨t, ht, hchars⟩ := pointerTo_of_mem h
  obtain ⟨t', ht', hchars'⟩ := pointerTo_of_mem h'
  have hsame : t'.chars = t.chars := hchars'.trans (hown.trans hchars.symm)
  rw [ht, ht']
  cases t
  cases t'
  cases hsame
  rfl

/-- A payload with the given bytes behind `off` zeros, and one more byte. -/
def filler (off : Nat) (bytes : List UInt8) (b : UInt8) : Payload :=
  overwrite (zeros _) (List.replicate off 0 ++ bytes ++ [b])

section Filler

variable {off : Nat} {bytes : List UInt8} {b : UInt8}

theorem filler_toList (hfits : off + bytes.length + 1 ≤ maxUrilPayloadSize) :
    (filler off bytes b).toList =
      List.replicate off 0 ++ (bytes ++ (b ::
        List.replicate (maxUrilPayloadSize - (off + bytes.length + 1)) 0)) := by
  have hlength : (List.replicate off (0 : UInt8) ++ bytes ++ [b]).length =
      off + bytes.length + 1 := by simp [Nat.add_assoc]
  rw [filler, overwrite_zeros_toList _ (hlength.trans_le hfits), hlength]
  simp

theorem bytesOf_filler (hfits : off + bytes.length + 1 ≤ maxUrilPayloadSize) :
    bytesOf (filler off bytes b) ⟨off, bytes.length⟩ = bytes := by
  rw [bytesOf, filler_toList hfits, slice, List.drop_left' List.length_replicate,
    List.take_left' rfl]

theorem pointerTo_filler (hfits : off + bytes.length + 1 < maxUrilPayloadSize) (hb : b ≠ 0)
    (hbytes : 0 ∉ bytes) :
    ∃ t, pointerTo ((filler off bytes b).toList.drop off) = .to t ∧ t.chars = bytes ++ [b] := by
  have hpos : 0 < maxUrilPayloadSize - (off + bytes.length + 1) := Nat.sub_pos_of_lt hfits
  rw [filler_toList hfits.le, List.drop_left' List.length_replicate]
  have hmem : 0 ∈ bytes ++
      b :: List.replicate (maxUrilPayloadSize - (off + bytes.length + 1)) 0 := by
    simp [Nat.ne_of_gt hpos]
  obtain ⟨t, ht, hchars⟩ := pointerTo_of_mem hmem
  refine ⟨t, ht, ?_⟩
  obtain ⟨n, hn⟩ := Nat.exists_eq_succ_of_ne_zero (Nat.ne_of_gt hpos)
  rw [hchars, ownPart_append_of_not_mem hbytes, hn]
  simp [ownPart, hb, List.replicate_succ]

/-- An enumeration value at an offset. -/
def enumAt (payload : Payload) (k : Nat) : UInt32 :=
  UInt32.ofNat (leValue (slice payload.toList k 4))

theorem leValue_replicate_zero (n : Nat) : leValue (List.replicate n 0) = 0 := by
  induction n with
  | zero => rfl
  | succ n ih => simp [List.replicate_succ, leValue, ih]

theorem enumAt_filler_le (hfits : off + bytes.length + 1 ≤ maxUrilPayloadSize) (hb : b ≤ 2)
    {k : Nat} (hk : k + 4 ≤ off ∨ off + bytes.length ≤ k) :
    enumAt (filler off bytes b) k ≤ 2 := by
  have hvalue : leValue (slice (filler off bytes b).toList k 4) ≤ 2 := by
    rw [filler_toList hfits, slice]
    rcases hk with hk | hk
    · rw [List.drop_append_of_le_length (by simp; omega), List.drop_replicate,
        List.take_append_of_le_length (by simp; omega), List.take_replicate,
        leValue_replicate_zero]
      exact Nat.zero_le 2
    · obtain ⟨j, rfl⟩ := Nat.exists_eq_add_of_le hk
      rw [← List.append_assoc, List.drop_append, List.drop_of_length_le (by simp)]
      cases j with
      | zero =>
          simp only [List.length_append, List.length_replicate, Nat.add_zero, Nat.sub_self,
            List.nil_append, List.drop_zero, List.take_succ_cons, List.take_replicate, leValue,
            leValue_replicate_zero, Nat.mul_zero]
          exact hb
      | succ j =>
          have hj : off + bytes.length + (j + 1) -
              (List.replicate off (0 : UInt8) ++ bytes).length = j + 1 := by simp
          rw [hj, List.nil_append, List.drop_succ_cons, List.drop_replicate, List.take_replicate,
            leValue_replicate_zero]
          exact Nat.zero_le 2
  rw [enumAt, UInt32.le_iff_toNat_le, UInt32.toNat_ofNat_of_lt' (hvalue.trans_lt (by decide))]
  exact hvalue

end Filler

/-- A string that is read from a field is confined to it exactly when the field
is terminated, provided that the requests with a field of the same bytes, a byte
behind it and small values elsewhere get to the vendor. -/
theorem confined_field (span : Span) {accepted : Payload → Prop}
    (hfits : span.off + span.len + 1 < maxUrilPayloadSize)
    (haccepted : ∀ bytes b, bytes.length = span.len → b ≤ 2 →
      accepted (filler span.off bytes b)) (payload : Payload) :
    ((∃ t, pointerTo (payload.toList.drop span.off) = .to t ∧
        t.chars = ownPart (bytesOf payload span)) ∧
      ∀ payload', bytesOf payload' span = bytesOf payload span → accepted payload' →
        pointerTo (payload'.toList.drop span.off) = pointerTo (payload.toList.drop span.off)) ↔
      0 ∈ bytesOf payload span := by
  have hsplit : ∀ payload : Payload, payload.toList.drop span.off =
      bytesOf payload span ++ payload.toList.drop (span.off + span.len) := by
    intro payload
    rw [bytesOf, slice, ← List.drop_drop, List.take_append_drop]
  have hlength : (bytesOf payload span).length = span.len := by
    rw [bytesOf, slice, List.length_take_of_le]
    rw [List.length_drop, Vector.length_toList]
    omega
  constructor
  · rintro ⟨-, hsame⟩
    by_contra hopen
    have hpointer : ∀ b ≤ 2, b ≠ 0 → ∃ t, pointerTo (payload.toList.drop span.off) = .to t ∧
        t.chars = bytesOf payload span ++ [b] := by
      intro b hb hne
      have hbytes : bytesOf (filler span.off (bytesOf payload span) b)
          ⟨span.off, (bytesOf payload span).length⟩ = bytesOf payload span :=
        bytesOf_filler (hlength ▸ hfits.le)
      rw [hlength] at hbytes
      rw [← hsame _ hbytes (haccepted _ b hlength hb)]
      exact pointerTo_filler (hlength ▸ hfits) hne hopen
    obtain ⟨t, ht, hchars⟩ := hpointer 1 (by decide) (by decide)
    obtain ⟨t', ht', hchars'⟩ := hpointer 2 (by decide) (by decide)
    obtain rfl := CharPtr.to.inj (ht.symm.trans ht')
    exact absurd (List.append_cancel_left (hchars.symm.trans hchars')) (by decide)
  · intro hmem
    have hwhole : ∀ payload : Payload, 0 ∈ bytesOf payload span →
        0 ∈ payload.toList.drop span.off := by
      intro payload hmem
      rw [hsplit]
      exact List.mem_append_left _ hmem
    have hown : ∀ payload : Payload, 0 ∈ bytesOf payload span →
        ownPart (payload.toList.drop span.off) = ownPart (bytesOf payload span) := by
      intro payload hmem
      rw [hsplit, ownPart_append_of_mem hmem]
    constructor
    · obtain ⟨t, ht, hchars⟩ := pointerTo_of_mem (hwhole payload hmem)
      exact ⟨t, ht, hchars.trans (hown payload hmem)⟩
    · intro payload' hagree _
      have hmem' := hagree.symm ▸ hmem
      refine pointerTo_congr (hwhole payload hmem) (hwhole payload' hmem') ?_
      rw [hown payload' hmem', hown payload hmem, hagree]

theorem passedString_setup {field : CharField} {payload : Payload} {uniqueId : UInt32}
    {simId : UInt8} {s : CharPtr} :
    passedString (.setupDataCall field) payload uniqueId simId = some s ↔
      Succeeds (setupDataCallV1 payload uniqueId simId) ∧
        pointerTo (payload.toList.drop (setupSpan field).off) = s := by
  have hshape : Ensures (setupDataCallV1 payload uniqueId simId) fun p =>
      ∃ ctx tech profile auth pdp n, p = ⟨[.submit ctx ⟨.setupDataCall, .strings
        [tech, profile, stringAt payload SetupDataCallReq.apnField,
          stringAt payload SetupDataCallReq.userField,
          stringAt payload SetupDataCallReq.passwordField, auth, pdp, .null], n⟩], true⟩ :=
    .bind fun _ => .bind fun _ => .bind fun _ => .ok ⟨_, _, _, _, _, _, rfl⟩
  unfold passedString
  cases hrun : setupDataCallV1 payload uniqueId simId with
  | error fault => exact iff_of_false nofun fun h => not_succeeds_error _ h.1
  | ok p =>
      obtain ⟨ctx, tech, profile, auth, pdp, n, rfl⟩ := hshape p hrun
      rw [and_iff_right (succeeds_ok _)]
      cases field with
      | apn => exact Option.some_inj
      | user => exact Option.some_inj
      | password => exact Option.some_inj

theorem passedString_attach {field : CharField} {payload : Payload} {uniqueId : UInt32}
    {simId : UInt8} {s : CharPtr} :
    passedString (.initialAttach field) payload uniqueId simId = some s ↔
      Succeeds (setInitialAttachParamsV1 payload uniqueId simId) ∧
        pointerTo (payload.toList.drop (attachSpan field).off) = s := by
  have hshape : Ensures (setInitialAttachParamsV1 payload uniqueId simId) fun p =>
      ∃ ctx pdp auth n, p = ⟨[.submit ctx ⟨.setInitialAttachApn, .attachApn
        (stringAt payload SetInitialParamsReq.apnField) pdp auth
        (stringAt payload SetInitialParamsReq.userField)
        (stringAt payload SetInitialParamsReq.passwordField), n⟩], true⟩ :=
    .bind fun _ => .bind fun _ => .ok ⟨_, _, _, _, rfl⟩
  unfold passedString
  cases hrun : setInitialAttachParamsV1 payload uniqueId simId with
  | error fault => exact iff_of_false nofun fun h => not_succeeds_error _ h.1
  | ok p =>
      obtain ⟨ctx, pdp, auth, n, rfl⟩ := hshape p hrun
      rw [and_iff_right (succeeds_ok _)]
      cases field with
      | apn => exact Option.some_inj
      | user => exact Option.some_inj
      | password => exact Option.some_inj

theorem setupDataCall_enums (payload : Payload) :
    (requestOf SetupDataCallReq payload).rat = enumAt payload 0 ∧
      (requestOf SetupDataCallReq payload).authType = enumAt payload 159 ∧
      (requestOf SetupDataCallReq payload).pdpType = enumAt payload 155 := by
  refine ⟨rfl, ?_, ?_⟩
  · change UInt32.ofNat (leValue ((((((payload.toList.drop 4).drop 1).drop 150).drop 4)).take 4)) =
      _
    simp [enumAt, slice]
  · change UInt32.ofNat (leValue (((((payload.toList.drop 4).drop 1).drop 150)).take 4)) = _
    simp [enumAt, slice]

theorem initialAttach_enums (payload : Payload) :
    (requestOf SetInitialParamsReq payload).authType = enumAt payload 154 ∧
      (requestOf SetInitialParamsReq payload).pdpType = enumAt payload 150 := by
  refine ⟨?_, rfl⟩
  change UInt32.ofNat (leValue (((payload.toList.drop 150).drop 4).take 4)) = _
  simp [enumAt, slice]

theorem setupDataCall_filler (field : CharField) (bytes : List UInt8) (b : UInt8)
    (hlength : bytes.length = (setupSpan field).len) (hb : b ≤ 2) (uniqueId : UInt32)
    (simId : UInt8) :
    Succeeds (setupDataCallV1 (filler (setupSpan field).off bytes b) uniqueId simId) := by
  have hfits : (setupSpan field).off + (setupSpan field).len + 1 ≤ maxUrilPayloadSize ∧
      (∀ k ∈ [0, 155, 159], k + 4 ≤ (setupSpan field).off ∨
        (setupSpan field).off + (setupSpan field).len ≤ k) := by
    cases field with
    | apn => decide
    | user => decide
    | password => decide
  rw [← hlength] at hfits
  have hsmall : ∀ k ∈ [0, 155, 159], enumAt (filler (setupSpan field).off bytes b) k ≤ 2 :=
    fun k hk => enumAt_filler_le hfits.1 hb (hfits.2 k hk)
  obtain ⟨hrat, hauth, hpdp⟩ := setupDataCall_enums (filler (setupSpan field).off bytes b)
  rw [setupDataCall_succeeds, hrat, hauth, hpdp]
  refine ⟨UInt32.le_trans (hsmall 0 List.mem_cons_self) ?_,
    UInt32.le_trans (hsmall 159 ?_) ?_, UInt32.le_trans (hsmall 155 ?_) ?_⟩ <;> decide

theorem initialAttach_filler (field : CharField) (bytes : List UInt8) (b : UInt8)
    (hlength : bytes.length = (attachSpan field).len) (hb : b ≤ 2) (uniqueId : UInt32)
    (simId : UInt8) :
    Succeeds (setInitialAttachParamsV1 (filler (attachSpan field).off bytes b) uniqueId
      simId) := by
  have hfits : (attachSpan field).off + (attachSpan field).len + 1 ≤ maxUrilPayloadSize ∧
      (∀ k ∈ [150, 154], k + 4 ≤ (attachSpan field).off ∨
        (attachSpan field).off + (attachSpan field).len ≤ k) := by
    cases field with
    | apn => decide
    | user => decide
    | password => decide
  rw [← hlength] at hfits
  have hsmall : ∀ k ∈ [150, 154], enumAt (filler (attachSpan field).off bytes b) k ≤ 2 :=
    fun k hk => enumAt_filler_le hfits.1 hb (hfits.2 k hk)
  obtain ⟨hauth, hpdp⟩ := initialAttach_enums (filler (attachSpan field).off bytes b)
  rw [setInitialAttachParams_succeeds, hauth, hpdp]
  refine ⟨UInt32.le_trans (hsmall 154 ?_) ?_, UInt32.le_trans (hsmall 150 ?_) ?_⟩ <;> decide

theorem confined_of_field {v : VendorString} {span : Span} {accepted : Payload → Prop}
    (hspans : v.spans = [span])
    (hown : ∀ payload, ownString v payload = ownPart (bytesOf payload span))
    (hpassed : ∀ payload uniqueId simId s, passedString v payload uniqueId simId = some s ↔
      accepted payload ∧ pointerTo (payload.toList.drop span.off) = s)
    (hfits : span.off + span.len + 1 < maxUrilPayloadSize)
    (haccepted : ∀ bytes b, bytes.length = span.len → b ≤ 2 →
      accepted (filler span.off bytes b)) (payload : Payload) :
    Confined v payload ↔
      ((∃ uniqueId simId s, passedString v payload uniqueId simId = some s) →
        0 ∈ bytesOf payload span) := by
  rw [← confined_field span hfits haccepted]
  simp only [Confined, Agree, hspans, List.forall_mem_singleton, hpassed, hown]
  constructor
  · rintro h ⟨uniqueId, simId, s, hrun⟩
    obtain ⟨hchars, hsame⟩ := h uniqueId simId s hrun
    obtain ⟨-, rfl⟩ := hrun
    exact ⟨hchars, fun payload' hagree hrun' =>
      hsame payload' uniqueId simId _ hagree ⟨hrun', rfl⟩⟩
  · rintro h uniqueId simId s hrun
    obtain ⟨hchars, hsame⟩ := h ⟨uniqueId, simId, s, hrun⟩
    obtain ⟨-, rfl⟩ := hrun
    refine ⟨hchars, ?_⟩
    rintro payload' uniqueId' simId' s' hagree ⟨hrun', rfl⟩
    exact hsame payload' hagree hrun'

theorem confined_setup (field : CharField) (payload : Payload) :
    Confined (.setupDataCall field) payload ↔
      ((∃ uniqueId simId s, passedString (.setupDataCall field) payload uniqueId simId = some s) →
        0 ∈ bytesOf payload (setupSpan field)) := by
  have hpassed : ∀ payload uniqueId simId s,
      passedString (.setupDataCall field) payload uniqueId simId = some s ↔
        Succeeds (setupDataCallV1 payload 0 0) ∧
          pointerTo (payload.toList.drop (setupSpan field).off) = s := by
    intro payload uniqueId simId s
    rw [passedString_setup, setupDataCall_succeeds, setupDataCall_succeeds]
  have hfits : (setupSpan field).off + (setupSpan field).len + 1 < maxUrilPayloadSize := by
    cases field with
    | apn => decide
    | user => decide
    | password => decide
  exact confined_of_field rfl (fun _ => rfl) hpassed hfits
    (fun bytes b hlength hb => setupDataCall_filler field bytes b hlength hb 0 0) payload

theorem confined_attach (field : CharField) (payload : Payload) :
    Confined (.initialAttach field) payload ↔
      ((∃ uniqueId simId s, passedString (.initialAttach field) payload uniqueId simId = some s) →
        0 ∈ bytesOf payload (attachSpan field)) := by
  have hpassed : ∀ payload uniqueId simId s,
      passedString (.initialAttach field) payload uniqueId simId = some s ↔
        Succeeds (setInitialAttachParamsV1 payload 0 0) ∧
          pointerTo (payload.toList.drop (attachSpan field).off) = s := by
    intro payload uniqueId simId s
    rw [passedString_attach, setInitialAttachParams_succeeds, setInitialAttachParams_succeeds]
  have hfits : (attachSpan field).off + (attachSpan field).len + 1 < maxUrilPayloadSize := by
    cases field with
    | apn => decide
    | user => decide
    | password => decide
  exact confined_of_field rfl (fun _ => rfl) hpassed hfits
    (fun bytes b hlength hb => initialAttach_filler field bytes b hlength hb 0 0) payload

/-! The network selection, whose two fields are printed into one string of six
characters. -/

/-- What is printed, from the bytes of the two fields and those behind them. -/
def printed (mcc mnc rest : List UInt8) : List UInt8 :=
  (ownPart (mcc ++ (mnc ++ rest)) ++ ownPart (mnc ++ rest)).take 6

theorem not_mem_ownPart (bytes : List UInt8) : 0 ∉ ownPart bytes := fun h => by
  simpa using List.mem_takeWhile_imp h

theorem length_ownPart {bytes : List UInt8} (h : (ownPart bytes).length < bytes.length) :
    0 ∈ bytes := by
  by_contra hnot
  rw [ownPart_of_not_mem hnot] at h
  exact h.false

section Printed

variable {mcc mnc : List UInt8} (hmcc : mcc.length = 4) (hmnc : mnc.length = 4)

include hmcc hmnc

theorem printed_eq (hn : 0 ∈ mnc ∨ 2 ≤ (ownPart mcc).length)
    (hm : 0 ∈ mcc ∨ (ownPart mnc).length ≠ 1) (rest : List UInt8) :
    printed mcc mnc rest = (ownPart mcc ++ ownPart mnc).take 6 := by
  unfold printed
  by_cases hmem : 0 ∈ mcc
  · rw [ownPart_append_of_mem hmem]
    by_cases hmem' : 0 ∈ mnc
    · rw [ownPart_append_of_mem hmem']
    · have hlong := hn.resolve_left hmem'
      rw [ownPart_append_of_not_mem hmem', ownPart_of_not_mem hmem', ← List.append_assoc,
        List.take_append_of_le_length]
      rw [List.length_append]
      omega
  · have hone := hm.resolve_left hmem
    have hsplit : ∀ l, (mcc ++ l).take 6 = mcc ++ l.take 2 := by
      intro l
      rw [List.take_append, hmcc, List.take_of_length_le (by omega)]
    rw [ownPart_append_of_not_mem hmem, ownPart_of_not_mem hmem, List.append_assoc, hsplit,
      hsplit]
    congr 1
    by_cases hmem' : 0 ∈ mnc
    · rw [ownPart_append_of_mem hmem']
      obtain hnil | hlong : (ownPart mnc).length = 0 ∨ 2 ≤ (ownPart mnc).length := by omega
      · rw [List.length_eq_zero_iff.mp hnil]
        rfl
      · exact List.take_append_of_le_length hlong
    · rw [ownPart_append_of_not_mem hmem', ownPart_of_not_mem hmem', List.append_assoc]
      exact List.take_append_of_le_length (by omega)

theorem printed_next (hn : 0 ∉ mnc) (hshort : (ownPart mcc).length < 2) {b : UInt8} (hb : b ≠ 0)
    (n : Nat) :
    printed mcc mnc (b :: List.replicate n 0) = ownPart mcc ++ (mnc ++ [b]) := by
  have hmem : 0 ∈ mcc := length_ownPart (by omega)
  have hrest : ownPart (b :: List.replicate n 0) = [b] := by
    cases n with
    | zero => simp [ownPart, hb]
    | succ n => simp [ownPart, hb, List.replicate_succ]
  rw [printed, ownPart_append_of_mem hmem, ownPart_append_of_not_mem hn, hrest]
  apply List.take_of_length_le
  simp only [List.length_append, List.length_singleton]
  omega

theorem printed_twice (hm : 0 ∉ mcc) (hone : (ownPart mnc).length = 1) (rest : List UInt8) :
    printed mcc mnc rest ≠ (ownPart mcc ++ ownPart mnc).take 6 := by
  have hmem : 0 ∈ mnc := length_ownPart (by omega)
  rw [printed, ownPart_append_of_not_mem hm, ownPart_append_of_mem hmem, ownPart_of_not_mem hm]
  intro h
  have hlength := congrArg List.length h
  simp only [List.length_take, List.length_append, hmcc, hone] at hlength
  omega

end Printed

/-- The bytes behind the two fields. -/
def restOf (payload : Payload) : List UInt8 := payload.toList.drop 12

theorem drop_split (payload : Payload) (k : Nat) :
    payload.toList.drop k = slice payload.toList k 4 ++ payload.toList.drop (k + 4) := by
  rw [slice, ← List.drop_drop, List.take_append_drop]

theorem drop_mnc (payload : Payload) : payload.toList.drop SelectionReq.mncField.offset =
    bytesOf payload mncSpan ++ restOf payload := drop_split payload 8

theorem drop_mcc (payload : Payload) : payload.toList.drop SelectionReq.mccField.offset =
    bytesOf payload mccSpan ++ (bytesOf payload mncSpan ++ restOf payload) :=
  (drop_split payload 4).trans (congrArg _ (drop_split payload 8))

theorem length_slice (payload : Payload) {k n : Nat} (h : k + n ≤ maxUrilPayloadSize) :
    (slice payload.toList k n).length = n := by
  rw [slice, List.length_take_of_le]
  rw [List.length_drop, Vector.length_toList]
  omega

theorem literal_of_not_mem {text : List UInt8} (h : 0 ∉ text) :
    ∃ t, literal text = .to t ∧ t.chars = text := by
  have hmem : 0 ∈ text ++ [0] := by simp
  obtain ⟨t, ht, hchars⟩ := pointerTo_of_mem hmem
  refine ⟨t, ht, ?_⟩
  rw [hchars, ownPart_append_of_not_mem h]
  simp [ownPart]

theorem literal_injective {text text' : List UInt8} (h : 0 ∉ text) (h' : 0 ∉ text')
    (heq : literal text = literal text') : text = text' := by
  obtain ⟨t, ht, rfl⟩ := literal_of_not_mem h
  obtain ⟨t', ht', rfl⟩ := literal_of_not_mem h'
  rw [CharPtr.to.inj (ht.symm.trans (heq.trans ht'))]

/-- The string of a manual selection. -/
def selected (payload : Payload) : List UInt8 :=
  printed (bytesOf payload mccSpan) (bytesOf payload mncSpan) (restOf payload)

theorem not_mem_selected (payload : Payload) : 0 ∉ selected payload := by
  intro h
  rcases List.mem_append.mp (List.mem_of_mem_take h) with h | h
  · exact not_mem_ownPart _ h
  · exact not_mem_ownPart _ h

theorem passedString_selection {payload : Payload} {uniqueId : UInt32} {simId : UInt8}
    {s : CharPtr} :
    passedString .networkSelection payload uniqueId simId = some s ↔
      enumAt payload 0 = UrilNwSelection.manual ∧ literal (selected payload) = s := by
  have htype : (requestOf SelectionReq payload).nwSelectionType = enumAt payload 0 := rfl
  have hselected : selected payload =
      (ownPart (payload.toList.drop SelectionReq.mccField.offset) ++
        ownPart (payload.toList.drop SelectionReq.mncField.offset)).take 6 := by
    rw [drop_mcc, drop_mnc]
    rfl
  rw [hselected, passedString, selectNetworkV1, htype]
  dsimp only
  by_cases hauto : enumAt payload 0 = UrilNwSelection.automatic
  · rw [if_pos hauto, hauto]
    exact iff_of_false nofun fun h => absurd h.1 (by decide)
  · rw [if_neg hauto]
    by_cases hmanual : enumAt payload 0 = UrilNwSelection.manual
    · rw [if_pos hmanual, and_iff_right hmanual]
      exact Option.some_inj
    · rw [if_neg hmanual]
      exact iff_of_false nofun fun h => hmanual h.1

/-- A payload with the same selection, and one more byte behind it. -/
def continued (payload : Payload) (b : UInt8) : Payload :=
  overwrite (zeros _) (payload.toList.take 12 ++ [b])

theorem length_selection (payload : Payload) : (payload.toList.take 12).length = 12 := by
  rw [List.length_take_of_le]
  rw [Vector.length_toList]
  decide

theorem continued_toList (payload : Payload) (b : UInt8) :
    (continued payload b).toList =
      payload.toList.take 12 ++ (b :: List.replicate (maxUrilPayloadSize - 13) 0) := by
  have hlength : (payload.toList.take 12 ++ [b]).length = 13 := by
    rw [List.length_append, length_selection, List.length_singleton]
  rw [continued, overwrite_zeros_toList _ (hlength.trans_le (by decide)), hlength,
    List.append_assoc, List.singleton_append]

theorem slice_continued (payload : Payload) (b : UInt8) {k : Nat} (hk : k + 4 ≤ 12) :
    slice (continued payload b).toList k 4 = slice payload.toList k 4 := by
  have hlength := length_selection payload
  rw [continued_toList, slice, slice, List.drop_append_of_le_length (by omega),
    List.take_append_of_le_length (by rw [List.length_drop]; omega), List.drop_take,
    List.take_take, min_eq_left (by omega)]

theorem restOf_continued (payload : Payload) (b : UInt8) :
    restOf (continued payload b) = b :: List.replicate (maxUrilPayloadSize - 13) 0 := by
  rw [restOf, continued_toList, List.drop_left' (length_selection payload)]

theorem confined_selection (payload : Payload) :
    Confined .networkSelection payload ↔
      ((∃ uniqueId simId s, passedString .networkSelection payload uniqueId simId = some s) →
        Terminated .networkSelection payload) := by
  have hmcc : (bytesOf payload mccSpan).length = 4 := length_slice payload (by decide)
  have hmnc : (bytesOf payload mncSpan).length = 4 := length_slice payload (by decide)
  have hown : ownString .networkSelection payload =
      (ownPart (bytesOf payload mccSpan) ++ ownPart (bytesOf payload mncSpan)).take 6 := rfl
  constructor
  · rintro h ⟨uniqueId, simId, s, hrun⟩
    obtain ⟨⟨t, ht, hchars⟩, hsame⟩ := h uniqueId simId s hrun
    obtain ⟨hmanual, rfl⟩ := passedString_selection.mp hrun
    obtain ⟨t', ht', hchars'⟩ := literal_of_not_mem (not_mem_selected payload)
    obtain rfl := CharPtr.to.inj (ht.symm.trans ht')
    constructor
    · by_contra hopen
      rw [not_or, not_le] at hopen
      have hnext : ∀ b, b ≠ 0 → selected payload =
          ownPart (bytesOf payload mccSpan) ++ (bytesOf payload mncSpan ++ [b]) := by
        intro b hb
        have hspans : Agree .networkSelection payload (continued payload b) := by
          simp only [Agree, VendorString.spans, List.forall_mem_cons]
          exact ⟨slice_continued payload b (by decide), slice_continued payload b (by decide),
            nofun⟩
        have hmanual' : enumAt (continued payload b) 0 = UrilNwSelection.manual := by
          rw [enumAt, slice_continued payload b (by decide)]
          exact hmanual
        have hrun' : passedString .networkSelection (continued payload b) 0 0 =
            some (literal (selected (continued payload b))) :=
          passedString_selection.mpr ⟨hmanual', rfl⟩
        have hmcc' : bytesOf (continued payload b) mccSpan = bytesOf payload mccSpan :=
          slice_continued payload b (by decide)
        have hmnc' : bytesOf (continued payload b) mncSpan = bytesOf payload mncSpan :=
          slice_continued payload b (by decide)
        rw [← literal_injective (not_mem_selected _) (not_mem_selected _)
          (hsame _ _ _ _ hspans hrun'), selected, restOf_continued, hmcc', hmnc']
        exact printed_next hmcc hmnc hopen.1 hopen.2 hb _
      have htwo := (hnext 1 (by decide)).symm.trans (hnext 2 (by decide))
      exact absurd (List.append_cancel_left (List.append_cancel_left htwo)) (by decide)
    · by_contra hopen
      rw [not_or, not_not] at hopen
      refine printed_twice hmcc hmnc hopen.1 hopen.2 (restOf payload) ?_
      rw [← hown, ← hchars, hchars']
      rfl
  · rintro h uniqueId simId s hrun
    obtain ⟨hn, hm⟩ := h ⟨uniqueId, simId, s, hrun⟩
    obtain ⟨-, rfl⟩ := passedString_selection.mp hrun
    have hselected : selected payload = ownString .networkSelection payload :=
      printed_eq hmcc hmnc hn hm _
    constructor
    · obtain ⟨t, ht, hchars⟩ := literal_of_not_mem (not_mem_selected payload)
      exact ⟨t, ht, hchars.trans hselected⟩
    · intro payload' uniqueId' simId' s' hagree hrun'
      obtain ⟨-, rfl⟩ := passedString_selection.mp hrun'
      simp only [Agree, VendorString.spans, List.forall_mem_cons] at hagree
      rw [hselected, hown, selected, hagree.1, hagree.2.1, printed_eq hmcc hmnc hn hm]

/-- A string that is passed to the vendor is confined to its fields exactly when
they are terminated. -/
theorem vendor_strings_confined (v : VendorString) (payload : Payload) :
    Confined v payload ↔
      ((∃ uniqueId simId s, passedString v payload uniqueId simId = some s) →
        Terminated v payload) := by
  cases v with
  | setupDataCall field => exact confined_setup field payload
  | initialAttach field => exact confined_attach field payload
  | networkSelection => exact confined_selection payload

/-- A request to set up a data call whose apn fills its field. -/
def openApn : Payload := filler 5 (List.replicate 150 0x41) 1

theorem openApn_not_confined : ¬ Confined (.setupDataCall .apn) openApn := by
  intro h
  have hlength : (List.replicate 150 (0x41 : UInt8)).length = 150 := List.length_replicate
  have hrun := setupDataCall_filler .apn (List.replicate 150 0x41) 1 hlength (by decide) 0 0
  have hmem := (confined_setup .apn openApn).mp h ⟨0, 0, _, passedString_setup.mpr ⟨hrun, rfl⟩⟩
  have hbytes : bytesOf openApn ⟨5, (List.replicate 150 (0x41 : UInt8)).length⟩ =
      List.replicate 150 0x41 := bytesOf_filler (by rw [hlength]; decide)
  rw [hlength] at hbytes
  have hopen : 0 ∈ List.replicate 150 (0x41 : UInt8) := hbytes ▸ hmem
  exact absurd (List.eq_of_mem_replicate hopen) (by decide)

end UnifiedRil.VendorStrings

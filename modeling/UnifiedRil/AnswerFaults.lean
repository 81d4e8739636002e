import UnifiedRil.ConversionDomains
import UnifiedRil.RilHazards

namespace UnifiedRil.AnswerFaults

open UnifiedRil.Library.Bytes
open UnifiedRil.Library.CStrings
open UnifiedRil.Library.Layout
open UnifiedRil.Library.Results
open UnifiedRil.Protocol
open UnifiedRil.Messages
open UnifiedRil.Ril
open UnifiedRil.RilConversion
open UnifiedRil.RilHandlers
open UnifiedRil.RilAdapter
open UnifiedRil.RilHazards
open UnifiedRil.ConversionDomains

theorem intBound_le (n : Nat) : intBound n ≤ n := by
  unfold intBound
  split
  · exact Nat.mod_le n _
  · exact Nat.zero_le n

theorem intBound_of_lt {n : Nat} (h : n < 2 ^ 31) : intBound n = n := by
  rw [intBound, Nat.mod_eq_of_lt (by omega), if_pos h]

theorem read_eq {data : RilData} {off n : Nat} (h : off + n ≤ data.bytes.length) :
    data.read off n = .ok (slice data.bytes off n) := if_pos h

theorem read_error {data : RilData} {off n : Nat} (h : ¬ off + n ≤ data.bytes.length) :
    data.read off n = .error .badRead := if_neg h

theorem length_of_readable {data : RilData} (h : data.bytes ≠ []) :
    data.bytes.length = data.dataLen := data.readable.resolve_left h

/-- The `int` at an offset. -/
def intAt (data : RilData) (off : Nat) : UInt32 :=
  UInt32.ofNat (leValue (slice data.bytes off 4))

/-- The pointer at an offset. -/
def charPtrAt (data : RilData) (off : Nat) : CharPtr :=
  charPtrOf data.strings (slice data.bytes off 8)

theorem int_eq {data : RilData} {off : Nat} (h : off + 4 ≤ data.bytes.length) :
    data.int off = .ok (intAt data off) := by
  rw [RilData.int, read_eq h]
  rfl

theorem int_error {data : RilData} {off : Nat} (h : ¬ off + 4 ≤ data.bytes.length) :
    data.int off = .error .badRead := by
  rw [RilData.int, read_error h]
  rfl

theorem charPtr_eq {data : RilData} {off : Nat} (h : off + 8 ≤ data.bytes.length) :
    data.charPtr off = .ok (charPtrAt data off) := by
  rw [RilData.charPtr, read_eq h]
  rfl

theorem charPtr_error {data : RilData} {off : Nat} (h : ¬ off + 8 ≤ data.bytes.length) :
    data.charPtr off = .error .badRead := by
  rw [RilData.charPtr, read_error h]
  rfl

/-- The number of pointers in an answer that is an array of them. -/
def numEntries (data : RilData) : Nat := intBound (data.dataLen / 8)

/-- The pointer at an index, null behind the last one. -/
def entryAt (data : RilData) (i : Nat) : CharPtr :=
  if i < numEntries data then charPtrAt data (8 * i) else .null

theorem entryOf_eq {data : RilData} {i : Nat} (h : i < numEntries data → data.bytes ≠ []) :
    entryOf data (numEntries data) i = .ok (entryAt data i) := by
  unfold entryOf entryAt
  split
  · rename_i hi
    apply charPtr_eq
    rw [length_of_readable (h hi)]
    have hbound := intBound_le (data.dataLen / 8)
    unfold numEntries at hi
    omega
  · rfl

theorem entryOf_error {data : RilData} {i : Nat} (hi : i < numEntries data)
    (hnone : data.bytes = []) : entryOf data (numEntries data) i = .error .badRead := by
  rw [entryOf, if_pos hi]
  apply charPtr_error
  rw [hnone]
  exact Nat.not_succ_le_zero _

/-- An answer that is an array of texts. The pointer to a text is one more than
its index. -/
def textArray (texts : List (Option CString)) : RilData where
  dataLen := 8 * texts.length
  bytes := (List.range texts.length).flatMap fun i =>
    leBytes 8 (if texts[i]?.join.isSome then i + 1 else 0)
  strings address := texts[address.toNat - 1]?.join
  readable := .inr <| by
    rw [length_flatMap_of fun _ => leBytes_length .., List.length_range, Nat.mul_comm]

theorem length_textArray (texts : List (Option CString)) :
    (textArray texts).bytes.length = texts.length * 8 := by
  rw [textArray, length_flatMap_of fun _ => leBytes_length .., List.length_range]

theorem textArray_bytes_ne {texts : List (Option CString)} (h : texts ≠ []) :
    (textArray texts).bytes ≠ [] := by
  refine List.ne_nil_of_length_pos ?_
  rw [length_textArray]
  exact Nat.mul_pos (List.length_pos_iff.mpr h) (by decide)

/-- A text that may be missing. -/
def textPtr : Option CString → CharPtr
  | some text => .to text
  | none => .null

theorem textPtr_ne_wild (text : Option CString) : textPtr text ≠ .wild := by
  cases text with
  | none => nofun
  | some text => nofun

theorem charPtrAt_textArray {texts : List (Option CString)} (hlength : texts.length < 2 ^ 63)
    {i : Nat} (hi : i < texts.length) :
    charPtrAt (textArray texts) (8 * i) = textPtr texts[i]?.join := by
  have hrange : i < (List.range texts.length).length := by rwa [List.length_range]
  rw [charPtrAt, textArray, slice_flatMap (fun _ => leBytes_length ..) hrange,
    List.getElem_range, charPtrOf]
  cases htext : texts[i]?.join with
  | none =>
      rw [Option.isSome_none, if_neg Bool.false_ne_true, leValue_leBytes_of_lt (by decide)]
      rfl
  | some text =>
      have hsmall : i + 1 < 2 ^ 64 := by omega
      have haddress : (UInt64.ofNat (i + 1)).toNat = i + 1 := by
        rw [UInt64.toNat_ofNat', Nat.mod_eq_of_lt hsmall]
      have hnonnull : UInt64.ofNat (i + 1) ≠ 0 := by
        intro h
        rw [h] at haddress
        cases haddress
      rw [Option.isSome_some, if_pos rfl, leValue_leBytes_of_lt hsmall]
      dsimp only
      rw [if_neg hnonnull, haddress, Nat.add_sub_cancel, htext]
      rfl

theorem entryAt_textArray {texts : List (Option CString)} (hlength : texts.length < 2 ^ 31)
    (i : Nat) : entryAt (textArray texts) i = textPtr texts[i]?.join := by
  have hcount : numEntries (textArray texts) = texts.length := by
    change intBound (8 * texts.length / 8) = _
    rw [Nat.mul_div_cancel_left _ (by decide), intBound_of_lt hlength]
  rw [entryAt, hcount]
  split
  · exact charPtrAt_textArray (hlength.trans (by decide)) ‹_›
  · rename_i hi
    rw [List.getElem?_eq_none (Nat.not_lt.mp hi)]
    rfl

/-- The answer to a registration request can be read. -/
def RegistrationAcceptable (data : RilData) : Prop :=
  (numEntries data = 0 ∨ data.bytes ≠ []) ∧
    RegistrationKnown (entryAt data 0) (entryAt data 3) (entryAt data 13) ∧
      CellReadable (entryAt data 3) (entryAt data 1) (entryAt data 2) (entryAt data 14)

/-- The preferred network mode is there and known. -/
def PrefAcceptable (data : RilData) : Prop :=
  4 ≤ data.bytes.length ∧ intAt data 0 ≤ PrefNetType.lteWcdma

/-- The operator's numeric name is long enough, where there is a cell to keep
it in. -/
def OperatorAcceptable (rsp : UrilProtocolMsg) (data : RilData) : Prop :=
  mccMncFields (structOf GetRegistrationStatusResp rsp) = none ∨
    (numEntries data ≤ 2 ∨ data.bytes ≠ []) ∧
      (entryAt data 2 = .null ∨ NumericReadable (entryAt data 2))

/-- Quadruple `i` of a scan has all three names. -/
def quadrupleNamed (data : RilData) (i : Nat) : Bool :=
  charPtrAt data (8 * (4 * i)) ≠ .null ∧ charPtrAt data (8 * (4 * i + 1)) ≠ .null ∧
    charPtrAt data (8 * (4 * i + 2)) ≠ .null

/-- The texts of a quadruple can be read, and its numeric name is long
enough. -/
def QuadrupleReadable (data : RilData) (i : Nat) : Prop :=
  quadrupleNamed data i →
    charPtrAt data (8 * (4 * i)) ≠ .wild ∧ charPtrAt data (8 * (4 * i + 1)) ≠ .wild ∧
      NumericReadable (charPtrAt data (8 * (4 * i + 2))) ∧
        charPtrAt data (8 * (4 * i + 3)) ≠ .wild

/-- A quadruple makes an entry of the list. -/
def quadrupleCounts (data : RilData) (i : Nat) : Bool :=
  quadrupleNamed data i &&
    match charPtrAt data (8 * (4 * i + 3)) with
    | .to status => (networkStatusOf status).isSome
    | _ => false

/-- The number of quadruples. -/
def numQuadruples (data : RilData) : Nat := intBound (data.dataLen / 8 / 4)

/-- The quadruples of a scan can be read, as far as there is room for them, and the
last of these has an index that an `int` can be multiplied to. -/
def ScanAcceptable (data : RilData) : Prop :=
  (numQuadruples data = 0 ∨ data.bytes ≠ []) ∧
    ∀ i < numQuadruples data,
      (List.range i).countP (quadrupleCounts data) < urilNwScanMaxEntryCount →
        i < 2 ^ 29 ∧ QuadrupleReadable data i

/-- The signal strength has the size of the oldest version, at least. -/
def SignalStrengthAcceptable (data : RilData) : Prop :=
  sizeofSignalStrengthV5 ≤ data.dataLen ∧ data.bytes ≠ []

/-- Data call `i` of a list. -/
def callAt (data : RilData) (size i : Nat) : RilDataCallResponse :=
  .ofBytes data.strings (slice data.bytes (i * size) size)

/-- The data call has the size of a known version. -/
def SetupDataCallAcceptable (data : RilData) : Prop :=
  sizeofDataCallResponseV6 ≤ data.dataLen ∧ data.dataLen ≤ sizeofDataCallResponseV11 ∧
    data.bytes ≠ [] ∧ CallAcceptable (callAt data data.dataLen 0)

/-- The size of a data call that divides the size of a list, if one does. -/
def callSize (dataLen : Nat) : Option Nat :=
  [sizeofDataCallResponseV6, sizeofDataCallResponseV9, sizeofDataCallResponseV11].find?
    fun size => dataLen % size = 0

/-- The list consists of data calls of one version, that can be read as far as
there is room for them. -/
def DataCallListAcceptable (data : RilData) : Prop :=
  ∃ size ∈ callSize data.dataLen,
    ∀ i < intBound (data.dataLen / size), i < urilDataMaxCallsCount →
      data.bytes ≠ [] ∧ CallAcceptable (callAt data size i)

/-- An answer that the service survives. -/
def AnswerAcceptable (ctx : RilRequestContext) (e : RilErrno) (data : RilData) : Prop :=
  e = .success →
    match ctx.rilReqId with
    | .getPreferredNetworkType => PrefAcceptable data
    | .voiceRegistrationState => RegistrationAcceptable data
    | .dataRegistrationState => RegistrationAcceptable data
    | .operator => OperatorAcceptable (responseOf ctx) data
    | .queryAvailableNetworks => ScanAcceptable data
    | .signalStrength => SignalStrengthAcceptable data
    | .setupDataCall => SetupDataCallAcceptable data
    | .dataCallList => DataCallListAcceptable data
    | _ => True

theorem assertThat_succeeds {p : Prop} [Decidable p] : Succeeds (assertThat p) ↔ p := by
  unfold assertThat
  rw [succeeds_ite]
  exact ⟨fun h => by_contra fun hp => not_succeeds_error _ (h.2 hp),
    fun hp => ⟨fun _ => succeeds_ok _, fun hn => absurd hp hn⟩⟩

theorem succeeds_on_success {α : Type} {e : RilErrno} {x y : Except Fault α} {acceptable : Prop}
    (hx : Succeeds x ↔ acceptable) (hy : Succeeds y) :
    Succeeds (if e = .success then x else y) ↔ (e = .success → acceptable) := by
  rw [succeeds_ite, hx]
  exact ⟨fun h => h.1, fun h => ⟨h, fun _ => hy⟩⟩

theorem succeeds_int_bind {α : Type} {data : RilData} {off : Nat} {f : UInt32 → Except Fault α} :
    Succeeds (data.int off >>= f) ↔
      off + 4 ≤ data.bytes.length ∧ Succeeds (f (intAt data off)) := by
  by_cases h : off + 4 ≤ data.bytes.length
  · rw [int_eq h, and_iff_right h]
    rfl
  · rw [int_error h]
    exact iff_of_false (not_succeeds_error _) fun h' => h h'.1

theorem succeeds_entry_bind {α : Type} {data : RilData} {i : Nat}
    {f : CharPtr → Except Fault α} :
    Succeeds (entryOf data (numEntries data) i >>= f) ↔
      (numEntries data ≤ i ∨ data.bytes ≠ []) ∧ Succeeds (f (entryAt data i)) := by
  by_cases hread : numEntries data ≤ i ∨ data.bytes ≠ []
  · rw [entryOf_eq fun hi => hread.resolve_left hi.not_ge, and_iff_right hread]
    rfl
  · rw [not_or, not_le, not_not] at hread
    rw [entryOf_error hread.1 hread.2]
    exact iff_of_false (not_succeeds_error _) fun h =>
      h.1.elim hread.1.not_ge (absurd hread.2)

theorem succeeds_entries_bind {α : Type} {data : RilData} {f : CharPtr → Except Fault α}
    {acceptable : Prop}
    (h : (∀ i, entryOf data (numEntries data) i = .ok (entryAt data i)) →
      (Succeeds (f (entryAt data 0)) ↔ acceptable)) :
    Succeeds (entryOf data (numEntries data) 0 >>= f) ↔
      (numEntries data = 0 ∨ data.bytes ≠ []) ∧ acceptable := by
  rw [succeeds_entry_bind, Nat.le_zero]
  refine and_congr_right fun hread => h fun i => entryOf_eq fun hi => ?_
  exact hread.resolve_left (Nat.ne_of_gt (Nat.zero_lt_of_lt hi))

theorem getNetworkPref_succeeds {rsp : UrilProtocolMsg} {e : RilErrno} {data : RilData} :
    Succeeds (handleRilGetNetworkPrefResponseV1 rsp e data) ↔
      (e = .success → PrefAcceptable data) := by
  refine succeeds_on_success ?_ (succeeds_pure _)
  refine succeeds_int_bind.trans (and_congr_right fun _ => ?_)
  rw [← rilNwPref_succeeds]
  exact succeeds_bind_of fun _ => succeeds_pure _

theorem voiceRegState_succeeds {rsp : UrilProtocolMsg} {e : RilErrno} {data : RilData}
    {u : UInt32} :
    Succeeds (handleRilVoiceRegStateResponseV1 rsp e data u) ↔
      (e = .success → RegistrationAcceptable data) := by
  refine succeeds_on_success ?_ (succeeds_pure _)
  refine succeeds_entries_bind fun hentries => ?_
  simp only [← numEntries.eq_def, hentries, ok_bind]
  rw [← rilNwRegToUrilNwReg_succeeds _ u]
  refine succeeds_bind_and fun _ _ => ?_
  rw [← rilCellToUrilCellVoice_succeeds]
  exact succeeds_bind_of fun _ => succeeds_pure _

theorem dataRegState_succeeds {rsp : UrilProtocolMsg} {e : RilErrno} {data : RilData}
    {u : UInt32} :
    Succeeds (handleRilDataRegStateResponseV1 rsp e data u) ↔
      (e = .success → RegistrationAcceptable data) := by
  refine succeeds_on_success ?_ (succeeds_pure _)
  refine succeeds_entries_bind fun hentries => ?_
  simp only [← numEntries.eq_def, hentries, ok_bind]
  rw [← rilNwRegToUrilNwReg_succeeds _ u]
  refine succeeds_bind_and fun _ _ => ?_
  rw [← rilCellToUrilCellData_succeeds]
  exact succeeds_bind_of fun _ => succeeds_pure _

theorem getOperator_succeeds {rsp : UrilProtocolMsg} {e : RilErrno} {data : RilData} :
    Succeeds (handleRilGetOperatorResponseV1 rsp e data) ↔
      (e = .success → OperatorAcceptable rsp data) := by
  refine succeeds_on_success ?_ (succeeds_pure _)
  have hcell : mccMncFields (startStruct GetRegistrationStatusResp.responseField rsp e).value =
      mccMncFields (structOf GetRegistrationStatusResp rsp) := rfl
  dsimp only
  rw [hcell, OperatorAcceptable]
  cases mccMncFields (structOf GetRegistrationStatusResp rsp) with
  | none => exact iff_of_true (succeeds_pure _) (.inl rfl)
  | some fields =>
      obtain ⟨mcc, mnc⟩ := fields
      rw [or_iff_right (Option.some_ne_none _)]
      dsimp only
      rw [← numEntries.eq_def, succeeds_entry_bind]
      refine and_congr_right fun _ => ?_
      generalize entryAt data 2 = numeric
      rcases numeric with _ | s | _
      · exact iff_of_true (succeeds_pure _) (.inl rfl)
      · rw [numericReadable_to, ← afterMcc_succeeds, or_iff_right nofun]
        exact succeeds_bind_of fun _ => succeeds_pure _
      · exact iff_of_false (not_succeeds_error _) nofun

theorem quadrupleNamed_iff {data : RilData} {i : Nat} :
    quadrupleNamed data i = true ↔
      charPtrAt data (8 * (4 * i)) ≠ .null ∧ charPtrAt data (8 * (4 * i + 1)) ≠ .null ∧
        charPtrAt data (8 * (4 * i + 2)) ≠ .null := decide_eq_true_iff

theorem status_succeeds {α : Type} {p : CharPtr} {a : α} {write : UInt32 → α} :
    Succeeds (match p with
      | .null => pure (a, false)
      | status => do
          match networkStatusOf (← status.string) with
          | some status => pure (write status, true)
          | none => pure (a, false) : Except Fault (α × Bool)) ↔ p ≠ .wild := by
  rcases p with _ | s | _
  · exact iff_of_true (succeeds_pure _) nofun
  · refine iff_of_true ?_ nofun
    change Succeeds (match networkStatusOf s with
      | some status => _
      | none => _)
    split
    · exact succeeds_pure _
    · exact succeeds_pure _
  · exact iff_of_false (not_succeeds_error _) (absurd rfl)

theorem operatorName_complete {initial : OperatorName} (name : Store initial)
    {long short numeric : CharPtr}
    (hpresent : long ≠ .null ∧ short ≠ .null ∧ numeric ≠ .null) :
    Ensures (rilOperatorNameToUrilOperatorName name long short numeric) fun r => r.2 = true := by
  unfold rilOperatorNameToUrilOperatorName
  rw [if_pos hpresent]
  exact .bind fun _ => .bind fun _ => .bind fun _ => .bind fun _ => .pure rfl

theorem scanQuadruple_succeeds {initial : ScanEntry} (entry : Store initial) {data : RilData}
    {i : Nat} (hi : 32 * (i + 1) ≤ data.bytes.length) :
    Succeeds (scanQuadruple entry data i) ↔ QuadrupleReadable data i := by
  unfold scanQuadruple QuadrupleReadable
  rw [charPtr_eq (by omega), ok_bind, charPtr_eq (by omega), ok_bind, charPtr_eq (by omega),
    ok_bind, charPtr_eq (by omega), quadrupleNamed_iff]
  by_cases hnamed : charPtrAt data (8 * (4 * i)) ≠ .null ∧
      charPtrAt data (8 * (4 * i + 1)) ≠ .null ∧ charPtrAt data (8 * (4 * i + 2)) ≠ .null
  · have hname := rilOperatorName_succeeds (entry.view ScanEntry.operatorNameField) hnamed
    rw [forall_prop_of_true hnamed, ← and_assoc, ← and_assoc, and_assoc (a := _ ≠ _), ← hname]
    apply succeeds_bind_and
    rintro ⟨name, complete⟩ hr
    obtain rfl : complete = true := operatorName_complete _ hnamed _ hr
    exact status_succeeds
  · rw [operatorName_untouched _ (by grind)]
    exact iff_of_true (succeeds_pure _) fun h => absurd h hnamed

theorem scanQuadruple_counts {initial : ScanEntry} (entry : Store initial) {data : RilData}
    {i : Nat} (hi : 32 * (i + 1) ≤ data.bytes.length) :
    Ensures (scanQuadruple entry data i) fun r => r.2 = quadrupleCounts data i := by
  unfold scanQuadruple quadrupleCounts
  rw [charPtr_eq (by omega), ok_bind, charPtr_eq (by omega), ok_bind, charPtr_eq (by omega),
    ok_bind, charPtr_eq (by omega)]
  by_cases hnamed : charPtrAt data (8 * (4 * i)) ≠ .null ∧
      charPtrAt data (8 * (4 * i + 1)) ≠ .null ∧ charPtrAt data (8 * (4 * i + 2)) ≠ .null
  · rw [quadrupleNamed_iff.mpr hnamed, Bool.true_and]
    refine .bind_of (operatorName_complete _ hnamed) ?_
    rintro ⟨name, complete⟩ rfl
    dsimp only
    rw [if_pos rfl, ok_bind]
    rcases charPtrAt data (8 * (4 * i + 3)) with _ | s | _
    · exact .pure rfl
    · dsimp only [CharPtr.string]
      rw [ok_bind]
      cases networkStatusOf s with
      | none => exact .pure rfl
      | some status => exact .pure rfl
    · exact .error _
  · rw [operatorName_untouched _ (by grind),
      Bool.eq_false_iff.mpr (quadrupleNamed_iff.not.mpr hnamed)]
    exact .pure rfl

theorem intProduct_succeeds {i : Nat} : Succeeds (intProduct (4 * i)) ↔ i < 2 ^ 29 := by
  unfold intProduct
  rw [succeeds_ite]
  constructor
  · intro h
    by_contra hlarge
    exact not_succeeds_error _ (h.2 (by omega))
  · intro h
    exact ⟨fun _ => succeeds_ok _, fun hlarge => absurd (by omega) hlarge⟩

/-- The room that is left decides which quadruples are looked at. -/
theorem scanLoop_succeeds {initial : ScanResp} {data : RilData} (left i numFilled : Nat)
    (irilRsp : Store initial) (hread : 32 * (i + left) ≤ data.bytes.length ∨ left = 0) :
    Succeeds (scanLoop data left i numFilled irilRsp) ↔
      ∀ j < left,
        numFilled + (List.range' i j).countP (quadrupleCounts data) < urilNwScanMaxEntryCount →
          i + j < 2 ^ 29 ∧ QuadrupleReadable data (i + j) := by
  induction left generalizing i numFilled irilRsp with
  | zero => exact iff_of_true (succeeds_ok _) nofun
  | succ left ih =>
      have hlen : 32 * (i + (left + 1)) ≤ data.bytes.length := hread.resolve_right left.succ_ne_zero
      unfold scanLoop
      split
      · rename_i hroom
        have hsplit : (∀ j < left + 1,
            numFilled + (List.range' i j).countP (quadrupleCounts data) <
              urilNwScanMaxEntryCount → i + j < 2 ^ 29 ∧ QuadrupleReadable data (i + j)) ↔
            (i < 2 ^ 29 ∧ QuadrupleReadable data i) ∧ ∀ j < left,
              (if quadrupleCounts data i then numFilled + 1 else numFilled) +
                  (List.range' (i + 1) j).countP (quadrupleCounts data) <
                urilNwScanMaxEntryCount →
                  i + 1 + j < 2 ^ 29 ∧ QuadrupleReadable data (i + 1 + j) := by
          rw [Nat.forall_lt_succ_left]
          refine and_congr ⟨fun h => h hroom, fun h _ => h⟩ (forall₂_congr fun j _ => ?_)
          have hcount : numFilled + (List.range' i (j + 1)).countP (quadrupleCounts data) =
              (if quadrupleCounts data i then numFilled + 1 else numFilled) +
                (List.range' (i + 1) j).countP (quadrupleCounts data) := by
            rw [List.range'_succ, List.countP_cons]
            split
            · omega
            · rfl
          rw [hcount, Nat.add_assoc i 1 j, Nat.add_comm 1 j]
        rw [hsplit, ← intProduct_succeeds, ← scanQuadruple_succeeds _ (by omega), and_assoc]
        refine succeeds_bind_and fun _ _ => ?_
        apply succeeds_bind_and
        rintro ⟨entry, counts⟩ hr
        obtain rfl : counts = quadrupleCounts data i := scanQuadruple_counts _ (by omega) _ hr
        exact ih (i + 1) _ _ (.inl (by omega))
      · rename_i hfull
        refine iff_of_true (succeeds_pure _) fun j _ hroom => absurd hroom ?_
        exact fun h => hfull (Nat.lt_of_le_of_lt (Nat.le_add_right _ _) h)

theorem scanLoop_unreadable {initial : ScanResp} {data : RilData} {left : Nat}
    (irilRsp : Store initial) (hleft : left ≠ 0) (hnone : data.bytes = []) :
    ¬ Succeeds (scanLoop data left 0 0 irilRsp) := by
  obtain ⟨left, rfl⟩ := Nat.exists_eq_succ_of_ne_zero hleft
  have hfirst : data.charPtr (8 * (4 * 0)) = .error .badRead := by
    apply charPtr_error
    rw [hnone]
    exact Nat.not_succ_le_zero _
  unfold scanLoop
  rw [dif_pos (by decide), intProduct, if_pos (by decide), ok_bind]
  unfold scanQuadruple
  rw [hfirst]
  exact not_succeeds_error _

theorem availableNetworks_succeeds {rsp : UrilProtocolMsg} {e : RilErrno} {data : RilData} :
    Succeeds (handleRilAvailableNetworksResponseV1 rsp e data) ↔
      (e = .success → ScanAcceptable data) := by
  refine succeeds_on_success ?_ (succeeds_pure _)
  unfold ScanAcceptable
  rw [← numQuadruples.eq_def]
  by_cases hread : numQuadruples data = 0 ∨ data.bytes ≠ []
  · rw [and_iff_right hread]
    have hroom : 32 * (0 + numQuadruples data) ≤ data.bytes.length ∨ numQuadruples data = 0 := by
      refine hread.symm.imp_left fun hbytes => ?_
      have hbound := intBound_le (data.dataLen / 8 / 4)
      rw [length_of_readable hbytes]
      unfold numQuadruples
      omega
    have hscan := scanLoop_succeeds (numQuadruples data) 0 0
      ((startStruct ScanResp.responseField rsp e).write ScanResp.entriesFollowsField 1) hroom
    simp only [Nat.zero_add, ← List.range_eq_range'] at hscan
    rw [← hscan]
    exact succeeds_bind_of fun _ => succeeds_pure _
  · rw [not_or, not_not] at hread
    refine iff_of_false (fun h => ?_) fun h => h.1.elim hread.1 (absurd hread.2)
    obtain ⟨filled, hfilled, -⟩ := succeeds_bind.mp h
    exact scanLoop_unreadable _ hread.1 hread.2 ⟨filled, hfilled⟩

theorem lteKnown_size {data : RilData} (h : lteKnown data = .ok true) :
    sizeofSignalStrengthV6 ≤ data.dataLen := by
  unfold lteKnown at h
  split at h
  · assumption
  · cases h

theorem tdscdmaKnown_size {data : RilData} (h : tdscdmaKnown data = .ok true) :
    sizeofSignalStrengthV10 ≤ data.dataLen := by
  unfold tdscdmaKnown at h
  split at h
  · assumption
  · cases h

theorem lteKnown_succeeds {data : RilData} (h : data.bytes ≠ []) : Succeeds (lteKnown data) := by
  unfold lteKnown
  refine succeeds_ite.mpr ⟨fun hsize => ?_, fun _ => succeeds_ok _⟩
  rw [← length_of_readable h] at hsize
  iterate 4 rw [int_eq (le_trans (by decide) hsize), ok_bind]
  exact succeeds_pure _

theorem tdscdmaKnown_succeeds {data : RilData} (h : data.bytes ≠ []) :
    Succeeds (tdscdmaKnown data) := by
  unfold tdscdmaKnown
  refine succeeds_ite.mpr ⟨fun hsize => ?_, fun _ => succeeds_ok _⟩
  rw [← length_of_readable h] at hsize
  rw [int_eq (le_trans (by decide) hsize), ok_bind]
  exact succeeds_pure _

theorem getSignalStrength_succeeds {rsp : UrilProtocolMsg} {e : RilErrno} {data : RilData} :
    Succeeds (handleRilGetSignalStrengthResponseV1 rsp e data) ↔
      (e = .success → SignalStrengthAcceptable data) := by
  refine succeeds_on_success ?_ (succeeds_pure _)
  refine (succeeds_bind_and fun _ hassert => ?_).trans (and_congr_left' assertThat_succeeds)
  have hsize : sizeofSignalStrengthV5 ≤ data.dataLen := assertThat_succeeds.mp ⟨_, hassert⟩
  by_cases hread : data.bytes ≠ []
  · have hlen := length_of_readable hread
    have hint : ∀ {off n : Nat}, n ≤ data.dataLen → off + 4 ≤ n →
        data.int off = .ok (intAt data off) := fun hn hoff => int_eq (hlen ▸ hoff.trans hn)
    refine iff_of_true ?_ hread
    rw [hint hsize (by decide), ok_bind, hint hsize (by decide), ok_bind]
    refine succeeds_ite.mpr ⟨fun _ => succeeds_pure _, fun _ => ?_⟩
    obtain ⟨lte, hlte⟩ := lteKnown_succeeds hread
    rw [hlte, ok_bind]
    refine succeeds_ite.mpr ⟨?_, fun _ => ?_⟩
    · rintro rfl
      have hsize := lteKnown_size hlte
      iterate 4 rw [hint hsize (by decide), ok_bind]
      exact succeeds_pure _
    · obtain ⟨tdscdma, htdscdma⟩ := tdscdmaKnown_succeeds hread
      rw [htdscdma, ok_bind]
      refine succeeds_ite.mpr ⟨?_, fun _ => succeeds_pure _⟩
      rintro rfl
      rw [hint (tdscdmaKnown_size htdscdma) (by decide), ok_bind]
      exact succeeds_pure _
  · refine iff_of_false ?_ hread
    rw [not_not] at hread
    rw [int_error (by rw [hread]; decide)]
    exact not_succeeds_error _

theorem setupDataCall_succeeds {rsp : UrilProtocolMsg} {e : RilErrno} {data : RilData} :
    Succeeds (handleRilSetupDataCallV1 rsp e data) ↔
      (e = .success → SetupDataCallAcceptable data) := by
  refine succeeds_on_success ?_ (succeeds_pure _)
  refine (succeeds_bind_and fun _ hassert => ?_).trans (and_congr_left' assertThat_succeeds)
  refine (succeeds_bind_and fun _ _ => ?_).trans (and_congr_left' assertThat_succeeds)
  have hsize : sizeofDataCallResponseV6 ≤ data.dataLen := assertThat_succeeds.mp ⟨_, hassert⟩
  by_cases hread : data.bytes ≠ []
  · rw [and_iff_right hread, read_eq (by rw [length_of_readable hread, Nat.zero_add]), ok_bind,
      callAt, Nat.zero_mul]
    rw [← callResponse_succeeds]
    exact succeeds_bind_of fun _ => succeeds_pure _
  · refine iff_of_false ?_ fun h => hread h.1
    rw [not_not] at hread
    have hshort : ¬ 0 + data.dataLen ≤ data.bytes.length := by
      rw [hread, Nat.zero_add]
      exact Nat.not_le.mpr (Nat.lt_of_lt_of_le (by decide) hsize)
    rw [read_error hshort]
    exact not_succeeds_error _

theorem dataCallSizeOf_eq {dataLen size : Nat} :
    dataCallSizeOf dataLen = .ok size ↔ size ∈ callSize dataLen := by
  unfold dataCallSizeOf callSize
  simp only [List.find?_cons, List.find?_nil]
  grind

theorem callSize_pos {dataLen size : Nat} (h : size ∈ callSize dataLen) : 0 < size := by
  have hsize : size ∈ [sizeofDataCallResponseV6, sizeofDataCallResponseV9,
      sizeofDataCallResponseV11] := List.mem_of_find?_eq_some h
  simp only [List.mem_cons, List.not_mem_nil, or_false] at hsize
  rcases hsize with rfl | rfl | rfl
  · decide
  · decide
  · decide

theorem dataCallsLoop_succeeds {initial : GetDataCallListResp} {data : RilData} {size : Nat}
    (left i : Nat) (irilRsp : Store initial) (hpos : 0 < size)
    (hsize : (i + left) * size ≤ data.dataLen) :
    Succeeds (dataCallsLoop data size left i irilRsp) ↔
      ∀ j < left, i + j < urilDataMaxCallsCount →
        data.bytes ≠ [] ∧ CallAcceptable (callAt data size (i + j)) := by
  induction left generalizing i irilRsp with
  | zero => exact iff_of_true (succeeds_ok _) nofun
  | succ left ih =>
      have hnext : (i + 1 + left) * size ≤ data.dataLen := by
        rwa [Nat.add_assoc, Nat.add_comm 1 left]
      have hfirst : i * size + size ≤ data.dataLen := by
        rw [← Nat.succ_mul]
        exact (Nat.mul_le_mul_right size (Nat.add_le_add_left (Nat.le_add_left 1 left) i)).trans
          hsize
      unfold dataCallsLoop
      split
      · rename_i hroom
        rw [Nat.forall_lt_succ_left, Nat.add_zero, forall_prop_of_true hroom]
        by_cases hread : data.bytes ≠ []
        · rw [read_eq (hfirst.trans_eq (length_of_readable hread).symm), ok_bind,
            and_iff_right hread, callAt, ← callResponse_succeeds]
          refine succeeds_bind_and fun info _ => (ih (i + 1) _ hnext).trans ?_
          refine forall₂_congr fun j _ => ?_
          rw [Nat.add_assoc i 1 j, Nat.add_comm 1 j]
        · refine iff_of_false ?_ fun h => hread h.1.1
          rw [not_not] at hread
          have hshort : ¬ i * size + size ≤ data.bytes.length := by
            rw [hread]
            exact Nat.not_le.mpr (Nat.add_pos_right _ hpos)
          rw [read_error hshort]
          exact not_succeeds_error _
      · rename_i hfull
        refine iff_of_true (succeeds_pure _) fun j _ hroom => absurd hroom ?_
        exact fun h => hfull (Nat.lt_of_le_of_lt (Nat.le_add_right _ _) h)

theorem getDataCallList_succeeds {rsp : UrilProtocolMsg} {e : RilErrno} {data : RilData} :
    Succeeds (handleRilGetDataCallListV1 rsp e data) ↔
      (e = .success → DataCallListAcceptable data) := by
  refine succeeds_on_success ?_ (succeeds_pure _)
  rw [succeeds_bind, DataCallListAcceptable]
  refine exists_congr fun size => ?_
  rw [dataCallSizeOf_eq]
  refine and_congr_right fun hsize => ?_
  have hfits : (0 + intBound (data.dataLen / size)) * size ≤ data.dataLen := by
    rw [Nat.zero_add]
    exact (Nat.mul_le_mul_right size (intBound_le _)).trans (Nat.div_mul_le_self _ _)
  have hloop := dataCallsLoop_succeeds (intBound (data.dataLen / size)) 0
    (startStruct GetDataCallListResp.responseField rsp e) (callSize_pos hsize) hfits
  simp only [Nat.zero_add] at hloop
  rw [← hloop]
  exact succeeds_bind_of fun _ => succeeds_pure _

theorem forall_handler {run : Except Fault Handled} {acceptable : Prop}
    (h : Succeeds run ↔ acceptable) : (∀ run' ∈ some run, Succeeds run') ↔ acceptable := by
  simp only [Option.mem_def, Option.some.injEq, forall_eq', h]

/-- The service survives an answer exactly when its handler can bear it. -/
theorem runHandler_succeeds (ctx : RilRequestContext) (e : RilErrno) (data : RilData)
    (u : UInt32) : Succeeds (runHandler ctx e data u) ↔ AnswerAcceptable ctx e data := by
  have hrun : Succeeds (runHandler ctx e data u) ↔
      ∀ run ∈ responseHandler ctx.rilReqId (responseOf ctx) e data u, Succeeds run := by
    unfold runHandler
    cases responseHandler ctx.rilReqId (responseOf ctx) e data u with
    | none => exact iff_of_true (succeeds_ok _) nofun
    | some run =>
        simp only [Option.mem_def, Option.some.injEq, forall_eq']
        exact succeeds_bind_of fun _ => succeeds_pure _
  rw [hrun, AnswerAcceptable]
  cases ctx.rilReqId with
  | getPreferredNetworkType => exact forall_handler getNetworkPref_succeeds
  | voiceRegistrationState => exact forall_handler voiceRegState_succeeds
  | dataRegistrationState => exact forall_handler dataRegState_succeeds
  | operator => exact forall_handler getOperator_succeeds
  | queryAvailableNetworks => exact forall_handler availableNetworks_succeeds
  | signalStrength => exact forall_handler getSignalStrength_succeeds
  | setupDataCall => exact forall_handler setupDataCall_succeeds
  | dataCallList => exact forall_handler getDataCallList_succeeds
  | other number => exact iff_of_true nofun fun _ => trivial
  | _ => exact forall_handler (iff_of_true (succeeds_ok _) fun _ => trivial)

/-- A preferred network type of 13, one more than the adapter knows. -/
def unknownPref : RilData where
  dataLen := 4
  bytes := [13, 0, 0, 0]
  strings := fun _ => none
  readable := .inr rfl

theorem getPref_answer_aborts :
    runHandler (makeTokenForMessage .getPreferredNetworkType 7 0) .success unknownPref 0 =
        .error .assertion ∧
      runHandler (makeTokenForMessage .getPreferredNetworkType 7 0) .success .null 0 =
        .error .badRead :=
  ⟨rfl, rfl⟩

end UnifiedRil.AnswerFaults

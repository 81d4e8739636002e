import UnifiedRil.AnswerFaults
import UnifiedRil.DataCallConversion

/-!
Lists of data calls. Their version is guessed from the size of the list. What is
built of them is taken to have storage of its own.
-/

namespace UnifiedRil.DataCallList

open UnifiedRil.Library.Bytes
open UnifiedRil.Library.CStrings
open UnifiedRil.Library.Layout
open UnifiedRil.Library.Results
open UnifiedRil.Protocol
open UnifiedRil.Messages
open UnifiedRil.Ril
open UnifiedRil.RilConversion
open UnifiedRil.RilHandlers
open UnifiedRil.RilAdapter
open UnifiedRil.RilResponses
open UnifiedRil.ConversionDomains
open UnifiedRil.AnswerFaults
open UnifiedRil.DataCallConversion

/-- The versions of `RIL_Data_Call_Response` -/
inductive CallVersion where
  | v6
  | v9
  | v11
  deriving DecidableEq

def CallVersion.size : CallVersion → Nat
  | .v6 => sizeofDataCallResponseV6
  | .v9 => sizeofDataCallResponseV9
  | .v11 => sizeofDataCallResponseV11

theorem blank_addr : Blank blankAddr :=
  Blank.pair (blank_uint8.replicate urilDataMaxAddrLen) blank_uint32

theorem blank_info : Blank blankInfo :=
  Blank.pair blank_uint32 <| blank_uint16.pair <| blank_uint8.pair <| blank_uint32.pair <|
    blank_uint32.pair <| (blank_uint8.replicate 13).pair <| blank_uint32.pair <|
      (blank_addr.replicate urilDataMaxAddrCount).pair <| blank_addr.pair <| blank_addr.pair <|
        blank_addr.pair <| blank_addr.pair blank_uint16

def blankCall : SetupDataCallResp := ⟨⟨0, 0⟩, blankInfo⟩

def blankList : GetDataCallListResp := ⟨⟨0, 0⟩, 0, .replicate _ blankInfo⟩

theorem structOf_call (uniqueId : UInt32) (simId : UInt8) :
    structOf SetupDataCallResp (responseOf (makeTokenForMessage .setupDataCall uniqueId simId)) =
      blankCall :=
  structOf_fresh rfl (blank_response.pair blank_info)

theorem structOf_list (uniqueId : UInt32) (simId : UInt8) :
    structOf GetDataCallListResp (responseOf (makeTokenForMessage .dataCallList uniqueId simId)) =
      blankList :=
  structOf_fresh rfl (blank_response.pair (blank_uint8.pair (blank_info.replicate _)))

theorem read_ok {data : RilData} {off n : Nat} {bytes : List UInt8}
    (h : data.read off n = .ok bytes) : bytes = slice data.bytes off n := by
  unfold RilData.read at h
  split at h
  · exact (Except.ok.inj h).symm
  · cases h

def callOf (handled : Handled) : DataCallInfo :=
  (decode handled.structBytes : SetupDataCallResp).dataCall

theorem setupDataCall_reported {uniqueId : UInt32} {simId : UInt8} {data : RilData} :
    Ensures (handleRilSetupDataCallV1
        (responseOf (makeTokenForMessage .setupDataCall uniqueId simId)) .success data) fun handled =>
      Converted blankInfo (callAt data data.dataLen 0) (callOf handled) := by
  unfold handleRilSetupDataCallV1
  dsimp only
  rw [if_pos rfl]
  refine .bind_eq fun _ _ => .bind_eq fun _ _ => .bind_eq fun bytes hbytes => ?_
  obtain rfl := read_ok hbytes
  refine .bind_of (callResponse_converted _ _) fun info hinfo => .pure ?_
  have hblank := congrArg SetupDataCallResp.dataCall (structOf_call uniqueId simId)
  rw [callOf, respond, decode_encode_self]
  rw [callAt, Nat.zero_mul]
  exact hinfo.congr hblank

/-- The first calls of a list are converted, and the others are blank. -/
structure Listed (data : RilData) (size count : Nat) (rsp : GetDataCallListResp) : Prop where
  done : ∀ i < count, ∃ info ∈ rsp.dataCalls[i]?, Converted blankInfo (callAt data size i) info
  blank : ∀ i, count ≤ i → i < urilDataMaxCallsCount → rsp.dataCalls[i]? = some blankInfo

theorem Listed.next {data : RilData} {size i : Nat} {rsp : GetDataCallListResp}
    {info : DataCallInfo} (h : Listed data size i rsp) (hi : i < urilDataMaxCallsCount)
    (hinfo : Converted blankInfo (callAt data size i) info) :
    Listed data size (i + 1) { rsp with dataCalls := rsp.dataCalls.set i info } where
  done j hj := by
    obtain hlt | rfl := Nat.lt_succ_iff_lt_or_eq.mp hj
    · have hsame : (rsp.dataCalls.set i info)[j]? = rsp.dataCalls[j]? :=
        Vector.getElem?_set_ne hi (Nat.ne_of_gt hlt)
      exact hsame ▸ h.done j hlt
    · exact ⟨info, Vector.getElem?_set_self hi, hinfo⟩
  blank j hj hlt := by
    have hsame : (rsp.dataCalls.set i info)[j]? = rsp.dataCalls[j]? :=
      Vector.getElem?_set_ne hi (Nat.ne_of_lt hj)
    exact hsame.trans (h.blank j (Nat.le_of_succ_le hj) hlt)

theorem dataCallsLoop_listed {initial : GetDataCallListResp} {data : RilData} {size : Nat}
    (left i : Nat) (irilRsp : Store initial) (hi : i ≤ urilDataMaxCallsCount)
    (h : Listed data size i irilRsp.value) :
    Ensures (dataCallsLoop data size left i irilRsp) fun r =>
      r.2 = min (i + left) urilDataMaxCallsCount ∧ Listed data size r.2 r.1.value := by
  induction left generalizing i irilRsp with
  | zero => exact .ok ⟨(Nat.min_eq_left hi).symm, h⟩
  | succ left ih =>
      unfold dataCallsLoop
      split
      · rename_i hroom
        refine .bind_eq fun bytes hbytes => ?_
        obtain rfl := read_ok hbytes
        refine .bind_of (callResponse_converted _ _) fun info hinfo => ?_
        have hblank : irilRsp.value.dataCalls[i] = blankInfo := by
          have hslot := h.blank i (Nat.le_refl i) hroom
          rw [Vector.getElem?_eq_getElem hroom] at hslot
          exact Option.some.inj hslot
        rw [show i + (left + 1) = i + 1 + left by omega]
        exact ih (i + 1) _ hroom (h.next hroom (hinfo.congr hblank))
      · rename_i hfull
        refine .pure ⟨?_, h⟩
        omega

def listOf (handled : Handled) : GetDataCallListResp := decode handled.structBytes

theorem listed_blank {data : RilData} {size : Nat} {rsp : GetDataCallListResp}
    (h : rsp.dataCalls = blankList.dataCalls) : Listed data size 0 rsp where
  done := nofun
  blank i _ hlt := by
    rw [h]
    exact Vector.getElem?_replicate.trans (if_pos hlt)

/-- The calls of a list are taken to have the size that divides the list. -/
theorem getDataCallList_reported {uniqueId : UInt32} {simId : UInt8} {data : RilData} :
    Ensures (handleRilGetDataCallListV1
        (responseOf (makeTokenForMessage .dataCallList uniqueId simId)) .success data) fun handled =>
      ∃ size ∈ callSize data.dataLen,
        (listOf handled).dataCallsLen.toNat =
            min (intBound (data.dataLen / size)) urilDataMaxCallsCount ∧
          Listed data size (min (intBound (data.dataLen / size)) urilDataMaxCallsCount)
            (listOf handled) := by
  unfold handleRilGetDataCallListV1
  dsimp only
  rw [if_pos rfl]
  refine .bind_eq fun size hsize => ?_
  have hblank := congrArg GetDataCallListResp.dataCalls (structOf_list uniqueId simId)
  refine .bind_of (dataCallsLoop_listed _ 0 _ (Nat.zero_le _) (listed_blank hblank)) ?_
  rintro ⟨irilRsp, count⟩ ⟨hcount, hlisted⟩
  dsimp only at hcount hlisted
  rw [Nat.zero_add] at hcount
  subst hcount
  refine .pure ⟨size, dataCallSizeOf_eq.mp hsize, ?_⟩
  rw [listOf, respond, decode_encode_self]
  refine ⟨?_, hlisted.done, hlisted.blank⟩
  change (UInt8.ofNat (min _ _)).toNat = _
  rw [UInt8.toNat_ofNat', Nat.mod_eq_of_lt]
  exact Nat.lt_of_le_of_lt (Nat.min_le_right ..) (by decide)

/-- Structure `i` of a list, as an answer of its own. -/
def callAlone (data : RilData) (size i : Nat) : RilData where
  dataLen := (slice data.bytes (i * size) size).length
  bytes := slice data.bytes (i * size) size
  strings := data.strings
  readable := .inr rfl

theorem callAt_callAlone (data : RilData) (size i : Nat) :
    callAt (callAlone data size i) (callAlone data size i).dataLen 0 = callAt data size i := by
  have hall : slice (slice data.bytes (i * size) size) 0 (slice data.bytes (i * size) size).length =
      slice data.bytes (i * size) size := List.take_length
  rw [callAt, Nat.zero_mul]
  exact congrArg (RilDataCallResponse.ofBytes data.strings) hall

/-- An answer that is an array of `n` data calls. -/
structure HoldsCalls (version : CallVersion) (n : Nat) (data : RilData) : Prop where
  dataLen : data.dataLen = n * version.size
  bytes : data.bytes.length = data.dataLen

/-- The list is decoded, and its calls are what they are one by one, where the
handler for one call can bear them. -/
def DecodedOneByOne (uniqueId : UInt32) (simId : UInt8) (version : CallVersion) (n : Nat)
    (data : RilData) : Prop :=
  (∀ i < min n urilDataMaxCallsCount,
      Succeeds (handleRilSetupDataCallV1
        (responseOf (makeTokenForMessage .setupDataCall uniqueId simId)) .success
        (callAlone data version.size i))) →
    ∃ handled,
      handleRilGetDataCallListV1 (responseOf (makeTokenForMessage .dataCallList uniqueId simId))
          .success data = .ok handled ∧
        (listOf handled).dataCallsLen.toNat = min n urilDataMaxCallsCount ∧
          ∀ i < min n urilDataMaxCallsCount, ∀ alone,
            handleRilSetupDataCallV1
                (responseOf (makeTokenForMessage .setupDataCall uniqueId simId)) .success
                (callAlone data version.size i) = .ok alone →
              (listOf handled).dataCalls[i]? = some (callOf alone)

/-- The size of a list tells the version of its calls, and their number is kept
by an `int`, as far as it matters. -/
def Recognised (version : CallVersion) (n : Nat) : Prop :=
  min (intBound n) urilDataMaxCallsCount = min n urilDataMaxCallsCount ∧
    (n = 0 ∨
      match version with
      | .v6 => True
      | .v9 => ¬ 7 ∣ n
      | .v11 => ¬ 7 ∣ n ∧ ¬ 8 ∣ n)

theorem callSize_eq {version : CallVersion} {n : Nat} :
    callSize (n * version.size) = some version.size ↔
      match version with
      | .v6 => True
      | .v9 => ¬ 7 ∣ n
      | .v11 => ¬ 7 ∣ n ∧ ¬ 8 ∣ n := by
  cases version with
  | v6 => simp [callSize, CallVersion.size, sizeofDataCallResponseV6]
  | v9 =>
      simp only [callSize, CallVersion.size, sizeofDataCallResponseV6, sizeofDataCallResponseV9,
        sizeofDataCallResponseV11, List.find?_cons, List.find?_nil]
      grind
  | v11 =>
      simp only [callSize, CallVersion.size, sizeofDataCallResponseV6, sizeofDataCallResponseV9,
        sizeofDataCallResponseV11, List.find?_cons, List.find?_nil]
      grind

theorem size_pos (version : CallVersion) : 0 < version.size := by
  cases version with
  | v6 => decide
  | v9 => decide
  | v11 => decide

theorem callAcceptable_of_alone {rsp : UrilProtocolMsg} {data : RilData} {size i : Nat}
    (h : Succeeds (handleRilSetupDataCallV1 rsp .success (callAlone data size i))) :
    CallAcceptable (callAt data size i) := by
  obtain ⟨-, -, -, hcall⟩ := setupDataCall_succeeds.mp h rfl
  rwa [callAt_callAlone] at hcall

theorem decoded_of_recognised {uniqueId : UInt32} {simId : UInt8} {version : CallVersion} {n : Nat}
    {data : RilData} (hdata : HoldsCalls version n data) (h : Recognised version n) :
    DecodedOneByOne uniqueId simId version n data := by
  intro halone
  obtain ⟨hcount, hversion⟩ := h
  have hsize : ∃ size ∈ callSize data.dataLen, data.dataLen / size = n ∧
      (n ≠ 0 → size = version.size) := by
    rw [hdata.dataLen]
    rcases hversion with rfl | hversion
    · rw [Nat.zero_mul]
      exact ⟨sizeofDataCallResponseV6, rfl, rfl, fun h => absurd rfl h⟩
    · exact ⟨version.size, callSize_eq.mpr hversion,
        Nat.mul_div_cancel n (size_pos version), fun _ => rfl⟩
  obtain ⟨size, hmem, hdiv, hsame⟩ := hsize
  have hacceptable : DataCallListAcceptable data := by
    refine ⟨size, hmem, fun i hi hroom => ?_⟩
    rw [hdiv] at hi
    have hin : i < min n urilDataMaxCallsCount := by
      rw [← hcount]
      exact Nat.lt_min.mpr ⟨hi, hroom⟩
    have hpos : 0 < n := Nat.lt_of_le_of_lt (Nat.zero_le i) (Nat.lt_min.mp hin).1
    rw [hsame (Nat.ne_of_gt hpos)]
    refine ⟨List.ne_nil_of_length_pos ?_, callAcceptable_of_alone (halone i hin)⟩
    rw [hdata.bytes, hdata.dataLen]
    exact Nat.mul_pos hpos (size_pos version)
  obtain ⟨handled, hhandled⟩ := getDataCallList_succeeds.mpr fun _ => hacceptable
  obtain ⟨size', hmem', hlength, hlisted⟩ := getDataCallList_reported handled hhandled
  obtain rfl : size = size' := Option.some.inj (hmem.symm.trans hmem')
  rw [hdiv, hcount] at hlength hlisted
  refine ⟨handled, hhandled, hlength, fun i hi alone hrun => ?_⟩
  obtain ⟨info, hinfo, hconverted⟩ := hlisted.done i hi
  have hreported := setupDataCall_reported alone hrun
  rw [callAt_callAlone, ← hsame (by omega)] at hreported
  rw [hreported.unique hconverted]
  exact hinfo

theorem callSize_wrong {version : CallVersion} {n size : Nat} (hn : n ≠ 0)
    (h : size ∈ callSize (n * version.size)) (hne : size ≠ version.size) :
    7 ≤ n ∧ 32 ≤ size ∧ (version.size = size + 8 ∨ version.size = size + 16) := by
  simp only [callSize, sizeofDataCallResponseV6, sizeofDataCallResponseV9,
    sizeofDataCallResponseV11, List.find?_cons, List.find?_nil, Option.mem_def] at h
  cases version with
  | v6 =>
      simp only [CallVersion.size, sizeofDataCallResponseV6] at h hne ⊢
      grind
  | v9 =>
      simp only [CallVersion.size, sizeofDataCallResponseV9] at h hne ⊢
      grind
  | v11 =>
      simp only [CallVersion.size, sizeofDataCallResponseV11] at h hne ⊢
      grind

def plainCall (version : CallVersion) : List UInt8 := List.replicate version.size 0

/-- The image of such a call with connection id 1. -/
def markedCall (version : CallVersion) : List UInt8 :=
  List.replicate 8 0 ++ leBytes 8 1 ++ List.replicate (version.size - 16) 0

def markedImage (version : CallVersion) (i : Nat) : List UInt8 :=
  if i = 1 then markedCall version else plainCall version

theorem length_markedImage (version : CallVersion) (i : Nat) :
    (markedImage version i).length = version.size := by
  unfold markedImage
  split
  · cases version with
    | v6 => rfl
    | v9 => rfl
    | v11 => rfl
  · exact List.length_replicate

/-- A list whose second call has a connection id that is not 0. -/
def markedList (version : CallVersion) (n : Nat) : RilData where
  dataLen := n * version.size
  bytes := (List.range n).flatMap (markedImage version)
  strings _ := none
  readable := .inr <| by
    rw [length_flatMap_of (length_markedImage version), List.length_range]

theorem holdsCalls_marked (version : CallVersion) (n : Nat) :
    HoldsCalls version n (markedList version n) where
  dataLen := rfl
  bytes := by
    rw [markedList, length_flatMap_of (length_markedImage version), List.length_range]

theorem slice_marked {version : CallVersion} {n i : Nat} (hi : i < n) :
    slice (markedList version n).bytes (i * version.size) version.size = markedImage version i := by
  have hrange : i < (List.range n).length := by rwa [List.length_range]
  have helem := slice_flatMap (length_markedImage version) hrange
  rw [List.getElem_range] at helem
  rw [Nat.mul_comm]
  exact helem

theorem callAcceptable_marked {version : CallVersion} {n i : Nat} (hi : i < n) :
    CallAcceptable (callAt (markedList version n) version.size i) := by
  rw [callAt, slice_marked hi, markedImage]
  split
  · have hcall : RilDataCallResponse.ofBytes (fun _ => none) (markedCall version) =
        { bareCall with cid := 1 } := by
      cases version with
      | v6 => rfl
      | v9 => rfl
      | v11 => rfl
    exact hcall ▸ { bareCall_acceptable with }
  · have hcall : RilDataCallResponse.ofBytes (fun _ => none) (plainCall version) = bareCall := by
      cases version with
      | v6 => rfl
      | v9 => rfl
      | v11 => rfl
    exact hcall ▸ bareCall_acceptable

theorem alone_marked {rsp : UrilProtocolMsg} {version : CallVersion} {n i : Nat} (hi : i < n) :
    Succeeds (handleRilSetupDataCallV1 rsp .success
      (callAlone (markedList version n) version.size i)) := by
  refine setupDataCall_succeeds.mpr fun _ => ?_
  have hlength : (callAlone (markedList version n) version.size i).dataLen = version.size := by
    change (slice (markedList version n).bytes (i * version.size) version.size).length = _
    rw [slice_marked hi, length_markedImage]
  have hsize : sizeofDataCallResponseV6 ≤ version.size ∧
      version.size ≤ sizeofDataCallResponseV11 := by
    cases version with
    | v6 => decide
    | v9 => decide
    | v11 => decide
  refine ⟨hsize.1.trans_eq hlength.symm, hlength.trans_le hsize.2, List.ne_nil_of_length_pos ?_, ?_⟩
  · exact Nat.lt_of_lt_of_eq (size_pos version) hlength.symm
  · rw [callAt_callAlone]
    exact callAcceptable_marked hi

theorem slice_marked_second {version : CallVersion} {n size k : Nat} (hn : 1 < n)
    (hk : k + 8 ≤ size) (hshift : version.size + 8 = size + k) :
    slice (slice (markedList version n).bytes (1 * size) size) k 8 = leBytes 8 1 := by
  have hmark : slice (markedImage version 1) 8 8 = leBytes 8 1 := by
    cases version with
    | v6 => rfl
    | v9 => rfl
    | v11 => rfl
  rw [← hmark, ← slice_marked hn, slice_slice hk, slice_slice, Nat.one_mul, Nat.one_mul, hshift]
  cases version with
  | v6 => decide
  | v9 => decide
  | v11 => decide

theorem not_acceptable_marked {version : CallVersion} {n size : Nat} (hn : 1 < n)
    (hsize : 32 ≤ size) (hshift : version.size = size + 8 ∨ version.size = size + 16) :
    ¬ CallAcceptable (callAt (markedList version n) size 1) := by
  intro h
  rcases hshift with hshift | hshift
  · have hslice : slice (slice (markedList version n).bytes (1 * size) size) 16 8 = leBytes 8 1 :=
      slice_marked_second hn (by omega) (by omega)
    exact h.type (congrArg (charPtrOf fun _ => none) hslice)
  · have hslice : slice (slice (markedList version n).bytes (1 * size) size) 24 8 = leBytes 8 1 :=
      slice_marked_second hn (by omega) (by omega)
    exact h.ifname (congrArg (charPtrOf fun _ => none) hslice)

theorem recognised_of_decoded {uniqueId : UInt32} {simId : UInt8} {version : CallVersion} {n : Nat}
    (h : DecodedOneByOne uniqueId simId version n (markedList version n)) :
    Recognised version n := by
  obtain ⟨handled, hhandled, hlength, -⟩ := h fun i hi => alone_marked (Nat.lt_min.mp hi).1
  obtain ⟨size, hmem, hlength', -⟩ := getDataCallList_reported handled hhandled
  have hcount := hlength'.symm.trans hlength
  by_cases hn : n = 0
  · rw [hn]
    exact ⟨rfl, .inl rfl⟩
  by_cases hsame : size = version.size
  · subst hsame
    have hdiv : (markedList version n).dataLen / version.size = n :=
      Nat.mul_div_cancel n (size_pos version)
    rw [hdiv] at hcount
    exact ⟨hcount, .inr (callSize_eq.mp hmem)⟩
  · exfalso
    obtain ⟨hmany, hsize, hshift⟩ := callSize_wrong hn hmem hsame
    have hfull : min n urilDataMaxCallsCount = urilDataMaxCallsCount :=
      Nat.min_eq_right (Nat.le_trans (by decide) hmany)
    rw [hfull] at hcount
    have hsecond : 1 < intBound ((markedList version n).dataLen / size) :=
      Nat.lt_of_lt_of_le (show 1 < urilDataMaxCallsCount by decide) (min_eq_right_iff.mp hcount)
    obtain ⟨size', hmem', hcalls⟩ := getDataCallList_succeeds.mp ⟨handled, hhandled⟩ rfl
    obtain rfl : size = size' := Option.some.inj (hmem.symm.trans hmem')
    exact not_acceptable_marked (Nat.lt_of_lt_of_le (by decide) hmany) hsize hshift
      (hcalls 1 hsecond (by decide)).2

/-- Lists are decoded, whatever is in them, exactly when their size tells the
version. -/
theorem list_decoded (uniqueId : UInt32) (simId : UInt8) (version : CallVersion) (n : Nat) :
    (∀ data, HoldsCalls version n data → DecodedOneByOne uniqueId simId version n data) ↔
      Recognised version n :=
  ⟨fun h => recognised_of_decoded (h _ (holdsCalls_marked version n)),
    fun h _ hdata => decoded_of_recognised hdata h⟩

/-- A list of seven calls of version 9 is taken for one of version 6. -/
theorem seven_calls_misread :
    HoldsCalls .v9 7 (markedList .v9 7) ∧
      ¬ DecodedOneByOne 1 0 .v9 7 (markedList .v9 7) :=
  ⟨holdsCalls_marked .v9 7, fun h =>
    absurd (recognised_of_decoded h).2 (by simp)⟩

end UnifiedRil.DataCallList

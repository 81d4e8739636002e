import Mathlib.Data.List.TakeDrop
import UnifiedRil.AddressLists
import UnifiedRil.DataCallList
import UnifiedRil.SignalStrength

namespace UnifiedRil.DataCallNarrowing

open UnifiedRil.Library.Bytes
open UnifiedRil.Library.CStrings
open UnifiedRil.Library.Layout
open UnifiedRil.Library.Results
open UnifiedRil.Protocol
open UnifiedRil.Messages
open UnifiedRil.Ril
open UnifiedRil.RilHandlers
open UnifiedRil.RilAdapter
open UnifiedRil.RilResponses
open UnifiedRil.ConversionDomains
open UnifiedRil.AnswerFaults
open UnifiedRil.DataCallConversion
open UnifiedRil.AddressLists
open UnifiedRil.DataCallList
open UnifiedRil.SignalStrength

/-- The members of a data call that a payload goes as far as. -/
structure SeenCall where
  suggestedRetryTime : Option UInt16
  cid : Option UInt8
  mtu : Option UInt16
  interfaceName : Option (Vector UInt8 13)

/-- What a client reads of the data call of a response. -/
def seenCall {α : Type} [Packed α] (call : Field α DataCallInfo) (payload : Payload) :
    SeenCall where
  suggestedRetryTime := (call.trans DataCallInfo.suggestedRetryTimeField).read payload.toList
  cid := (call.trans DataCallInfo.cidField).read payload.toList
  mtu := (call.trans DataCallInfo.mtuField).read payload.toList
  interfaceName := (call.trans DataCallInfo.interfaceNameField).read payload.toList

/-- The data calls of the modem that are reported: the place in the answer, the size of
the modem's structure, and what a client reads in the response. -/
inductive Reported : Nat → Nat → RilDataCallResponse → SeenCall → Prop
  | setup (uniqueId : UInt32) (simId : UInt8) (data : RilData) (handled : Handled)
      (hrun : handleRilSetupDataCallV1
        (responseOf (makeTokenForMessage .setupDataCall uniqueId simId)) .success data =
          .ok handled) :
      Reported 0 data.dataLen (callAt data data.dataLen 0)
        (seenCall SetupDataCallResp.dataCallField handled.rsp.payload)
  | listed (uniqueId : UInt32) (simId : UInt8) (data : RilData) (handled : Handled)
      (size : Nat) (i : Fin urilDataMaxCallsCount)
      (hrun : handleRilGetDataCallListV1
        (responseOf (makeTokenForMessage .dataCallList uniqueId simId)) .success data =
          .ok handled)
      (hsize : size ∈ callSize data.dataLen) (hi : i < (listOf handled).dataCallsLen.toNat) :
      Reported i size (callAt data size i)
        (seenCall (GetDataCallListResp.dataCallsField.trans (.elem i)) handled.rsp.payload)

/-- The client reads the modem's values. A structure that ends where version 9 does has
no mtu. -/
structure Unaltered (size : Nat) (call : RilDataCallResponse) (seen : SeenCall) : Prop where
  suggestedRetryTime : ∃ time ∈ seen.suggestedRetryTime,
    (time.toNat : Int) = signed call.suggestedRetryTime
  cid : ∃ cid ∈ seen.cid, (cid.toNat : Int) = signed call.cid
  mtu : sizeofDataCallResponseV9 < size → ∃ mtu ∈ seen.mtu, (mtu.toNat : Int) = signed call.mtu
  interfaceName : ∀ s, call.ifname = .to s → s.chars.length ≤ 15 →
    ∃ name ∈ seen.interfaceName, text name = s.chars

/-- The call is the first of its answer and has no mtu, and its values have room in the
members of the report. -/
structure HasRoom (i size : Nat) (call : RilDataCallResponse) : Prop where
  first : i = 0
  size : size ≤ sizeofDataCallResponseV9
  suggestedRetryTime : 0 ≤ signed call.suggestedRetryTime ∧
    signed call.suggestedRetryTime < 2 ^ 16
  cid : 0 ≤ signed call.cid ∧ signed call.cid < 2 ^ 8
  ifname : ∀ s, call.ifname = .to s → s.chars.length ≤ 15 → s.chars.length ≤ 12

theorem cut_eq_signed {value : UInt32} {m : Nat} (hm : 0 < m) :
    ((value.toNat % m : Nat) : Int) = signed value ↔ 0 ≤ signed value ∧ signed value < m := by
  have hlt : value.toNat < 2 ^ 32 := value.toNat_lt
  have hcut : value.toNat % m < m := Nat.mod_lt _ hm
  have hsame : (value.toNat : Int) % 4294967296 = value.toNat :=
    Int.emod_eq_of_lt (by omega) (by omega)
  rw [signed_eq_bmod, Int.bmod_def]
  push_cast
  rw [hsame]
  split_ifs with hsign
  · constructor
    · intro h
      omega
    · rintro ⟨-, h⟩
      exact Int.emod_eq_of_lt (by omega) h
  · constructor
    · intro h
      omega
    · intro h
      omega

theorem withAddresses_header {room : Nat} (hroom : room ≤ urilDataMaxAddrCount) (s : CString)
    (info : DataCallInfo) :
    (withAddresses room info s).suggestedRetryTime = info.suggestedRetryTime ∧
      (withAddresses room info s).cid = info.cid ∧
      (withAddresses room info s).interfaceName = info.interfaceName := by
  induction room generalizing s info with
  | zero => exact ⟨rfl, rfl, rfl⟩
  | succ room ih =>
      obtain ⟨hslot, hvalue⟩ := withSlot_succ (Nat.lt_of_succ_le hroom) info s
      rw [withAddresses, hvalue]
      cases nextAddress s with
      | none => exact ⟨rfl, rfl, rfl⟩
      | some next => exact ih (Nat.le_of_succ_le hroom) next _

theorem withList_header (addresses : CharPtr) (info : DataCallInfo) :
    (withList info addresses).suggestedRetryTime = info.suggestedRetryTime ∧
      (withList info addresses).cid = info.cid ∧
      (withList info addresses).interfaceName = info.interfaceName := by
  rcases addresses with _ | s | _
  · exact ⟨rfl, rfl, rfl⟩
  · exact withAddresses_header (Nat.le_refl _) s info
  · exact ⟨rfl, rfl, rfl⟩

/-- What the report has of the values. -/
structure Cut (call : RilDataCallResponse) (info : DataCallInfo) : Prop where
  suggestedRetryTime : info.suggestedRetryTime = call.suggestedRetryTime.toUInt16
  cid : info.cid = call.cid.toUInt8
  interfaceName : ∀ s, call.ifname = .to s → text info.interfaceName = s.chars.take 12

theorem cut_of_converted {call : RilDataCallResponse} {info : DataCallInfo}
    (h : Converted blankInfo call info) : Cut call info := by
  obtain ⟨state, type, -, -, rfl⟩ := h
  obtain ⟨hretry, hcid, hname⟩ :=
    withList_header call.addresses (withHeader blankInfo call state type)
  refine ⟨hretry, hcid, fun s hs => ?_⟩
  have hchars : (withHeader blankInfo call state type).interfaceName =
      withText blankInfo.interfaceName s.chars := by
    rw [withHeader, hs]
    rfl
  change text (withList _ call.addresses).interfaceName = _
  rw [hname, hchars]
  exact text_withText (by decide) _ s.noNul

section Seen

variable {α : Type} [Packed α] {call : Field α DataCallInfo} {a : α} {payload : Payload}

theorem seenCall_near (hpayload : payload.toList = (encode a).take maxUrilPayloadSize)
    (hnear : call.offset + 28 ≤ maxUrilPayloadSize) :
    seenCall call payload =
      ⟨some (call.get a).suggestedRetryTime, some (call.get a).cid, none,
        some (call.get a).interfaceName⟩ := by
  have hmember : ∀ {β : Type} [Packed β] (f : Field DataCallInfo β),
      (call.trans f).read payload.toList =
        if call.offset + f.offset + sizeof β ≤ maxUrilPayloadSize
          then some (f.get (call.get a)) else none := by
    intro β _ f
    rw [hpayload, Field.read_take]
    rfl
  change call.offset + 28 ≤ 1024 at hnear
  unfold seenCall
  rw [hmember, hmember, hmember, hmember, if_pos, if_pos, if_neg, if_pos]
  · rfl
  · change call.offset + 15 + 13 ≤ 1024
    omega
  · change ¬ call.offset + 2112 + 2 ≤ 1024
    omega
  · change call.offset + 6 + 1 ≤ 1024
    omega
  · change call.offset + 4 + 2 ≤ 1024
    omega

theorem seenCall_far (hfar : maxUrilPayloadSize ≤ call.offset) :
    seenCall call payload = ⟨none, none, none, none⟩ := by
  have hmember : ∀ {β : Type} [Packed β] (f : Field DataCallInfo β), 0 < sizeof β →
      (call.trans f).read payload.toList = none := by
    intro β _ f hsize
    refine if_neg ?_
    change ¬ call.offset + f.offset + sizeof β ≤ payload.toList.length
    rw [Vector.length_toList]
    omega
  unfold seenCall
  rw [hmember _ (by decide), hmember _ (by decide), hmember _ (by decide), hmember _ (by decide)]

end Seen

theorem payload_answered {rsp : UrilProtocolMsg} {msgId : UInt32} {size : Nat}
    {followUp : Option RilReqId} {handled : Handled}
    (h : Answers rsp msgId size followUp handled) (hsize : maxUrilPayloadSize ≤ size) :
    handled.rsp.payload.toList = handled.structBytes.take maxUrilPayloadSize := by
  rw [h.rsp_eq]
  exact overwrite_toList_of_le _ (h.length.symm ▸ hsize)

theorem encode_structBytes {α : Type} [Packed α] [LawfulPacked α] {bytes : List UInt8}
    (h : bytes.length = sizeof α) : encode (decode bytes : α) = bytes := by
  rw [LawfulPacked.encode_decode bytes h.ge, List.take_of_length_le h.le]

/-- A client sees the first call of an answer, except its mtu, and nothing of the
others. -/
theorem seen_of_reported {i size : Nat} {call : RilDataCallResponse} {seen : SeenCall}
    (h : Reported i size call seen) :
    (i = 0 ∧ ∃ info, Cut call info ∧
        seen = ⟨some info.suggestedRetryTime, some info.cid, none, some info.interfaceName⟩) ∨
      (i ≠ 0 ∧ seen = ⟨none, none, none, none⟩) := by
  cases h with
  | setup uniqueId simId data handled hrun =>
      have hanswers := setupDataCall_answers _ _ _ handled hrun
      have hpayload := payload_answered hanswers (by decide)
      rw [← encode_structBytes hanswers.length] at hpayload
      exact .inl ⟨rfl, callOf handled, cut_of_converted (setupDataCall_reported handled hrun),
        seenCall_near hpayload (by decide)⟩
  | listed uniqueId simId data handled size i hrun hsize hi =>
      have hanswers := getDataCallList_answers _ _ _ handled hrun
      have hpayload := payload_answered hanswers (by decide)
      rw [← encode_structBytes hanswers.length] at hpayload
      by_cases hfirst : (i : Nat) = 0
      · obtain ⟨size', hsize', hlength, hlisted⟩ := getDataCallList_reported handled hrun
        obtain rfl : size' = size := Option.some.inj (hsize'.symm.trans hsize)
        rw [hlength] at hi
        obtain ⟨info, hinfo, hconverted⟩ := hlisted.done i hi
        obtain rfl : (listOf handled).dataCalls[i] = info :=
          Option.some.inj ((Vector.getElem?_eq_getElem i.isLt).symm.trans hinfo)
        refine .inl ⟨hfirst, _, cut_of_converted hconverted, seenCall_near hpayload ?_⟩
        change 9 + (i : Nat) * 2114 + 28 ≤ 1024
        omega
      · refine .inr ⟨hfirst, seenCall_far ?_⟩
        change 1024 ≤ 9 + (i : Nat) * 2114
        omega

theorem mtu_of_reported {i size : Nat} {call : RilDataCallResponse} {seen : SeenCall}
    (h : Reported i size call seen) (hsize : size ≤ sizeofDataCallResponseV9) : call.mtu = 0 := by
  have hnone : ∀ (data : RilData) (i : Nat), (callAt data size i).mtu = 0 := by
    intro data i
    have hempty : slice (slice data.bytes (i * size) size) 64 4 = [] := by
      change size ≤ 64 at hsize
      apply List.eq_nil_of_length_eq_zero
      simp only [slice, List.length_take, List.length_drop]
      omega
    change UInt32.ofNat (leValue (slice (slice data.bytes (i * size) size) 64 4)) = 0
    rw [hempty]
    rfl
  cases h with
  | setup uniqueId simId data handled hrun => exact hnone data 0
  | listed uniqueId simId data handled size i hrun hsize' hi => exact hnone data i

theorem unaltered_iff_hasRoom {i size : Nat} {call : RilDataCallResponse} {seen : SeenCall}
    (h : Reported i size call seen) : Unaltered size call seen ↔ HasRoom i size call := by
  obtain ⟨hfirst, info, hcut, rfl⟩ | ⟨hlater, rfl⟩ := seen_of_reported h
  · have hretry : (info.suggestedRetryTime.toNat : Int) = signed call.suggestedRetryTime ↔
        0 ≤ signed call.suggestedRetryTime ∧ signed call.suggestedRetryTime < 2 ^ 16 := by
      rw [hcut.suggestedRetryTime, UInt32.toNat_toUInt16]
      exact cut_eq_signed (by decide)
    have hcid : (info.cid.toNat : Int) = signed call.cid ↔
        0 ≤ signed call.cid ∧ signed call.cid < 2 ^ 8 := by
      rw [hcut.cid, UInt32.toNat_toUInt8]
      exact cut_eq_signed (by decide)
    have hname : ∀ s, call.ifname = .to s →
        (text info.interfaceName = s.chars ↔ s.chars.length ≤ 12) := by
      intro s hs
      rw [hcut.interfaceName s hs, List.take_eq_self_iff]
    constructor
    · rintro ⟨⟨_, ⟨⟩, htime⟩, ⟨_, ⟨⟩, hcid'⟩, hmtu, hifname⟩
      refine ⟨hfirst, Nat.not_lt.mp fun hsize => ?_, hretry.mp htime, hcid.mp hcid', ?_⟩
      · obtain ⟨_, hnone, -⟩ := hmtu hsize
        cases hnone
      · intro s hs hlength
        obtain ⟨_, ⟨⟩, hchars⟩ := hifname s hs hlength
        exact (hname s hs).mp hchars
    · intro hroom
      exact ⟨⟨_, rfl, hretry.mpr hroom.suggestedRetryTime⟩, ⟨_, rfl, hcid.mpr hroom.cid⟩,
        fun hsize => absurd hsize (Nat.not_lt.mpr hroom.size),
        fun s hs hlength => ⟨_, rfl, (hname s hs).mpr (hroom.ifname s hs hlength)⟩⟩
  · refine iff_of_false (fun hall => ?_) fun hroom => hlater hroom.first
    obtain ⟨_, hnone, -⟩ := hall.suggestedRetryTime
    cases hnone

/-- Calls that differ in one of the numbers are told apart. -/
def SeenApart (call call' : RilDataCallResponse) (seen seen' : SeenCall) : Prop :=
  call.suggestedRetryTime ≠ call'.suggestedRetryTime ∨ call.cid ≠ call'.cid ∨
      call.mtu ≠ call'.mtu →
    seen ≠ seen'

theorem seenApart_of_unaltered {size size' : Nat} {call call' : RilDataCallResponse}
    {seen seen' : SeenCall} (h : Unaltered size call seen) (h' : Unaltered size' call' seen')
    (hmtu : call.mtu = call'.mtu) : SeenApart call call' seen seen' := by
  have hsame : ∀ {value value' : UInt32} {n n' : Nat}, (n : Int) = signed value →
      (n' : Int) = signed value' → n = n' → value = value' := by
    intro value value' n n' hn hn' heq
    have hsigned : signed value = signed value' := by rw [← hn, ← hn', heq]
    have hint := Int32.toInt_inj.mp hsigned
    simpa using congrArg Int32.toUInt32 hint
  obtain ⟨time, htime, hretry⟩ := h.suggestedRetryTime
  obtain ⟨time', htime', hretry'⟩ := h'.suggestedRetryTime
  obtain ⟨cid, hcid, hcid32⟩ := h.cid
  obtain ⟨cid', hcid', hcid32'⟩ := h'.cid
  rintro hdiffer rfl
  obtain rfl : time = time' := Option.some.inj (htime.symm.trans htime')
  obtain rfl : cid = cid' := Option.some.inj (hcid.symm.trans hcid')
  rcases hdiffer with hne | hne | hne
  · exact hne (hsame hretry hretry' rfl)
  · exact hne (hsame hcid32 hcid32' rfl)
  · exact hne hmtu

/-- A data call of version 6 with a retry time and a name for its interface. -/
def callData (suggestedRetryTime : Nat) (name : CString) : RilData where
  dataLen := 56
  bytes := leBytes 4 0 ++ leBytes 4 suggestedRetryTime ++ List.replicate 16 0 ++ leBytes 8 1 ++
    List.replicate 24 0
  strings address := if address = 1 then some name else none
  readable := .inr <| by simp

theorem callAt_callData {suggestedRetryTime : Nat} (h : suggestedRetryTime < 2 ^ 32)
    (name : CString) :
    callAt (callData suggestedRetryTime name) (callData suggestedRetryTime name).dataLen 0 =
      { bareCall with
        suggestedRetryTime := UInt32.ofNat suggestedRetryTime
        ifname := .to name } := by
  have hvalue : leValue (leBytes 4 suggestedRetryTime) = suggestedRetryTime :=
    leValue_leBytes_of_lt h
  have hretry : (callAt (callData suggestedRetryTime name)
      (callData suggestedRetryTime name).dataLen 0).suggestedRetryTime =
        UInt32.ofNat (leValue (leBytes 4 suggestedRetryTime)) := rfl
  rw [hvalue] at hretry
  rw [← hretry]
  rfl

theorem reported_callData {suggestedRetryTime : Nat} (h : suggestedRetryTime < 2 ^ 32)
    (name : CString) :
    ∃ seen, Reported 0 56 { bareCall with
      suggestedRetryTime := UInt32.ofNat suggestedRetryTime
      ifname := .to name } seen := by
  have hcall := callAt_callData h name
  have hacceptable : SetupDataCallAcceptable (callData suggestedRetryTime name) := by
    refine ⟨Nat.le_refl 56, show 56 ≤ 72 by decide, nofun, ?_⟩
    rw [hcall]
    exact { bareCall_acceptable with ifname := nofun }
  obtain ⟨handled, hrun⟩ := setupDataCall_succeeds.mpr fun _ => hacceptable
  rw [← hcall]
  exact ⟨_, .setup 7 0 _ handled hrun⟩

def shortName : CString := ⟨ascii ['r', 'm', 'n', 'e', 't', '0'], by decide⟩

/-- A name of thirteen characters. -/
def longName : CString :=
  ⟨ascii ['r', 'm', 'n', 'e', 't', '_', 'd', 'a', 't', 'a', '1', '2', '3'], by decide⟩

end UnifiedRil.DataCallNarrowing

import UnifiedRil.RilResponses

namespace UnifiedRil.RilHazards

open UnifiedRil.Library.Layout
open UnifiedRil.Library.Results
open UnifiedRil.Protocol
open UnifiedRil.Messages
open UnifiedRil.Ril
open UnifiedRil.RilConversion
open UnifiedRil.RilHandlers
open UnifiedRil.RilAdapter
open UnifiedRil.RilResponses

/-- Quadruple `i` of a scan answer has both names and the numeric name. -/
def namesNetwork (data : RilData) (i : Nat) : Bool :=
  [0, 1, 2].all fun k =>
    match data.charPtr (8 * (4 * i + k)) with
    | .ok .null | .error _ => false
    | .ok _ => true

/-- A data call list is not empty. -/
def listsCalls (data : RilData) : Bool :=
  match dataCallSizeOf data.dataLen with
  | .ok size => 0 < intBound (data.dataLen / size)
  | .error _ => false

/-- The answer makes its handler write behind the payload. -/
def overruns (rilReqId : RilReqId) (e : RilErrno) (data : RilData) : Bool :=
  e == .success &&
    match rilReqId with
    | .setupDataCall => true
    | .dataCallList => listsCalls data
    | .queryAvailableNetworks =>
        (List.range (intBound (data.dataLen / 8 / 4))).any (namesNetwork data)
    | _ => false

/-- A registration is denied, and the deny reason does not parse. -/
def unexplainedDenial (regstate radiotech denyreason : CharPtr) : Bool :=
  match rilStrToInt regstate, rilStrToInt radiotech, rilStrToInt denyreason with
  | .ok (some regState), .ok (some _), .ok none => regState ∈ [3, 13]
  | _, _, _ => false

/-- A registration answer reports a denial, and its deny reason does not
parse. -/
def deniedWithoutReason (data : RilData) : Bool :=
  let numEntries := intBound (data.dataLen / 8)
  match entryOf data numEntries 0, entryOf data numEntries 3, entryOf data numEntries 13 with
  | .ok regstate, .ok radiotech, .ok denyreason =>
      unexplainedDenial regstate radiotech denyreason
  | _, _, _ => false

/-- The answer makes its handler report the value of an uninitialised
variable. -/
def usesUninitialised (rilReqId : RilReqId) (e : RilErrno) (data : RilData) : Bool :=
  e == .success &&
    match rilReqId with
    | .voiceRegistrationState | .dataRegistrationState => deniedWithoutReason data
    | _ => false

variable {α : Type} [Packed α]

theorem startStruct_inside (response : Field α UrilResponse) (rsp : UrilProtocolMsg)
    (e : RilErrno) :
    ∀ x ∈ (startStruct response rsp e).extents, x.stop ≤ response.offset + 8 := by
  intro x hx
  rw [startStruct, Store.extents_put] at hx
  obtain ⟨y, hy, rfl⟩ := List.mem_map.mp ((List.mem_append.mp hx).resolve_left List.not_mem_nil)
  have hfits := Store.fits _ y hy
  rw [Extent.stop_shift]
  exact Nat.add_le_add_left hfits _

theorem put_untouched_extents {β : Type} [Packed β] {a : α} (s : Store a) (f : Field α β)
    {part : Store (f.get s.value)} (h : part.extents = []) :
    (s.put f part).extents = s.extents := by
  rw [Store.extents_put, h, List.map_nil, List.append_nil]

theorem operatorName_untouched {initial : OperatorName} (name : Store initial)
    {long short numeric : CharPtr} (h : long = .null ∨ short = .null ∨ numeric = .null) :
    rilOperatorNameToUrilOperatorName name long short numeric = .ok (name, false) := by
  have hnull : ¬ (long ≠ .null ∧ short ≠ .null ∧ numeric ≠ .null) := by
    rintro ⟨hlong, hshort, hnumeric⟩
    rcases h with h | h | h
    · exact hlong h
    · exact hshort h
    · exact hnumeric h
  rw [rilOperatorNameToUrilOperatorName, if_neg hnull]
  rfl

theorem scanQuadruple_unnamed {initial : ScanEntry} (entry : Store initial) {data : RilData}
    {i : Nat} (h : namesNetwork data i = false) :
    Ensures (scanQuadruple entry data i) fun r => r.1.extents = entry.extents ∧ r.2 = false := by
  unfold scanQuadruple
  refine .bind_eq ?_
  intro long hlong
  refine .bind_eq ?_
  intro short hshort
  refine .bind_eq ?_
  intro numeric hnumeric
  have hnull : long = .null ∨ short = .null ∨ numeric = .null := by
    cases long with
    | null => exact .inl rfl
    | _ =>
        cases short with
        | null => exact .inr (.inl rfl)
        | _ =>
            cases numeric with
            | null => exact .inr (.inr rfl)
            | _ => simp [namesNetwork, hlong, hshort, hnumeric] at h
  rw [operatorName_untouched _ hnull]
  exact .ok ⟨put_untouched_extents entry _ rfl, rfl⟩

theorem scanLoop_unnamed {initial : ScanResp} {data : RilData} (left i numFilled : Nat)
    (irilRsp : Store initial) (h : ∀ j < left, namesNetwork data (i + j) = false) :
    Ensures (scanLoop data left i numFilled irilRsp) fun r =>
      r.1.extents = irilRsp.extents := by
  induction left generalizing i irilRsp with
  | zero => exact .ok rfl
  | succ left ih =>
      unfold scanLoop
      split
      · rename_i hroom
        have hfirst : namesNetwork data i = false := h 0 left.succ_pos
        refine .bind fun _ => ?_
        refine .bind_of (scanQuadruple_unnamed _ hfirst) ?_
        rintro ⟨entry, counts⟩ ⟨hentry, rfl⟩
        have hput := put_untouched_extents irilRsp
          (ScanResp.entriesField.trans (.elem ⟨numFilled, hroom⟩)) hentry
        intro r hr
        rw [← hput]
        refine ih (i + 1) _ (fun j hj => ?_) r hr
        rw [Nat.add_assoc, Nat.add_comm 1]
        exact h (j + 1) (Nat.succ_lt_succ hj)
      · exact .ok rfl

theorem write_inside {β : Type} [Packed β] {a : α} {s : Store a} {f : Field α β} {b : β}
    {limit : Nat} (hs : ∀ x ∈ s.extents, x.stop ≤ limit) (hf : f.offset + sizeof β ≤ limit) :
    ∀ x ∈ (s.write f b).extents, x.stop ≤ limit := by
  intro x hx
  rw [Store.extents_write] at hx
  rcases List.mem_append.mp hx with hx | hx
  · exact hs x hx
  · obtain rfl := List.mem_singleton.mp hx
    exact hf

theorem setupDataCall_inside {rsp : UrilProtocolMsg} {e : RilErrno} {data : RilData}
    (h : overruns .setupDataCall e data = false) :
    Ensures (handleRilSetupDataCallV1 rsp e data) fun r =>
      ∀ x ∈ r.extents, x.stop ≤ maxUrilPayloadSize := by
  have he : e ≠ .success := by rintro rfl; cases h
  rw [handleRilSetupDataCallV1, if_neg he]
  refine .pure fun x hx => ?_
  exact (startStruct_inside SetupDataCallResp.responseField rsp e x hx).trans (by decide)

theorem getDataCallList_inside {rsp : UrilProtocolMsg} {e : RilErrno} {data : RilData}
    (h : overruns .dataCallList e data = false) :
    Ensures (handleRilGetDataCallListV1 rsp e data) fun r =>
      ∀ x ∈ r.extents, x.stop ≤ maxUrilPayloadSize := by
  have hstart : ∀ x ∈ (startStruct GetDataCallListResp.responseField rsp e).extents,
      x.stop ≤ maxUrilPayloadSize := fun x hx =>
    (startStruct_inside GetDataCallListResp.responseField rsp e x hx).trans (by decide)
  unfold handleRilGetDataCallListV1
  refine .ite (fun he => ?_) fun _ => .pure hstart
  refine .bind_eq ?_
  intro size hsize
  have hnone : intBound (data.dataLen / size) = 0 := by
    have hlist : listsCalls data = false := by simpa [overruns, he] using h
    simp only [listsCalls, hsize, decide_eq_false_iff_not] at hlist
    omega
  dsimp only
  rw [hnone]
  exact .pure (write_inside hstart (by decide))

theorem availableNetworks_inside {rsp : UrilProtocolMsg} {e : RilErrno} {data : RilData}
    (h : overruns .queryAvailableNetworks e data = false) :
    Ensures (handleRilAvailableNetworksResponseV1 rsp e data) fun r =>
      ∀ x ∈ r.extents, x.stop ≤ maxUrilPayloadSize := by
  have hstart : ∀ x ∈ (startStruct ScanResp.responseField rsp e).extents,
      x.stop ≤ maxUrilPayloadSize := fun x hx =>
    (startStruct_inside ScanResp.responseField rsp e x hx).trans (by decide)
  unfold handleRilAvailableNetworksResponseV1
  refine .ite (fun he => ?_) fun _ => .pure hstart
  have hnames : ∀ j < intBound (data.dataLen / 8 / 4),
      namesNetwork data (0 + j) = false := by
    intro j hj
    rw [Nat.zero_add, ← Bool.not_eq_true]
    intro hj'
    have hany : (List.range (intBound (data.dataLen / 8 / 4))).any (namesNetwork data) =
        true := List.any_eq_true.mpr ⟨j, List.mem_range.mpr hj, hj'⟩
    simp only [overruns, he, hany] at h
    cases h
  refine .bind_of (scanLoop_unnamed _ 0 0 _ hnames) ?_
  rintro ⟨filled, numFilled⟩ hfilled
  refine .pure (write_inside ?_ (by decide))
  rw [hfilled]
  exact write_inside hstart (by decide)

/-- Every other answer leaves the bytes behind the payload alone. -/
theorem inside_of_not_overruns {ctx ctx' : RilRequestContext} {e : RilErrno} {data : RilData}
    {u : UInt32} {h : Handled} (hrun : runHandler ctx e data u = .ok (ctx', some h))
    (hsafe : overruns ctx.rilReqId e data = false) :
    ∀ x ∈ h.extents, x.stop ≤ maxUrilPayloadSize := by
  have hanswers := (runHandler_some hrun).2
  have hsmall : ∀ n, structSize ctx.rilReqId = n → n ≤ maxUrilPayloadSize →
      ∀ x ∈ h.extents, x.stop ≤ maxUrilPayloadSize := by
    rintro n rfl hle x hx
    exact (hanswers.fits x hx).trans hle
  have hhandler := (runHandler_handled hrun).1
  cases hid : ctx.rilReqId with
  | queryAvailableNetworks =>
      rw [hid] at hhandler hsafe
      exact availableNetworks_inside hsafe h (Option.some.inj hhandler)
  | setupDataCall =>
      rw [hid] at hhandler hsafe
      exact setupDataCall_inside hsafe h (Option.some.inj hhandler)
  | dataCallList =>
      rw [hid] at hhandler hsafe
      exact getDataCallList_inside hsafe h (Option.some.inj hhandler)
  | other number => exact hsmall (sizeof ResponseMsg) (by rw [hid]; rfl) (by decide)
  | _ => exact hsmall _ (by rw [hid]) (by decide)

theorem writeRegState_congr {initial : RegistrationInfo} (regInfo : Store initial)
    {regState : UInt32} {denyreason : CharPtr}
    (h : regState ∈ [3, 13] → rilStrToInt denyreason ≠ .ok none) (u u' : UInt32) :
    writeRegState regInfo regState denyreason u = writeRegState regInfo regState denyreason u' := by
  refine ite_congr rfl (fun _ => rfl) fun _ => ite_congr rfl (fun hdenied => ?_) fun _ => rfl
  refine bind_congr_ok fun reason hreason => ?_
  cases reason with
  | none => exact absurd hreason (h hdenied)
  | some code => rfl

theorem rilNwRegToUrilNwReg_congr {initial : RegistrationInfo} (regInfo : Store initial)
    {regstate radiotech denyreason : CharPtr}
    (h : unexplainedDenial regstate radiotech denyreason = false) (u u' : UInt32) :
    rilNwRegToUrilNwReg regInfo regstate radiotech denyreason u =
      rilNwRegToUrilNwReg regInfo regstate radiotech denyreason u' := by
  unfold rilNwRegToUrilNwReg
  refine bind_congr_ok fun regState hstate => ?_
  cases regState with
  | none => rfl
  | some regState =>
      refine bind_congr_ok fun tech htech => ?_
      cases tech with
      | none => rfl
      | some tech =>
          have hexplained : regState ∈ [3, 13] → rilStrToInt denyreason ≠ .ok none := by
            intro hdenied hnone
            rw [unexplainedDenial, hstate, htech, hnone] at h
            exact of_decide_eq_false h hdenied
          dsimp only
          rw [writeRegState_congr _ hexplained u u']

theorem unexplainedDenial_of_data {data : RilData} (h : deniedWithoutReason data = false)
    {regstate radiotech denyreason : CharPtr}
    (hstate : entryOf data (intBound (data.dataLen / 8)) 0 = .ok regstate)
    (htech : entryOf data (intBound (data.dataLen / 8)) 3 = .ok radiotech)
    (hreason : entryOf data (intBound (data.dataLen / 8)) 13 = .ok denyreason) :
    unexplainedDenial regstate radiotech denyreason = false := by
  rw [← h, deniedWithoutReason, hstate, htech, hreason]

theorem runHandler_congr {ctx : RilRequestContext} {e : RilErrno} {data : RilData}
    (h : usesUninitialised ctx.rilReqId e data = false) (u u' : UInt32) :
    runHandler ctx e data u = runHandler ctx e data u' := by
  have hhandler : responseHandler ctx.rilReqId (responseOf ctx) e data u =
      responseHandler ctx.rilReqId (responseOf ctx) e data u' := by
    cases hid : ctx.rilReqId with
    | voiceRegistrationState =>
        change some _ = some _
        rw [handleRilVoiceRegStateResponseV1, handleRilVoiceRegStateResponseV1]
        split
        · rename_i he
          have hreason : deniedWithoutReason data = false := by
            rw [hid, he] at h
            simpa only [usesUninitialised, beq_self_eq_true, Bool.true_and] using h
          refine congrArg some ?_
          refine bind_congr_ok fun state hstate => bind_congr_ok fun tech htech => ?_
          refine bind_congr_ok fun reason hreason' => ?_
          have hexplained := unexplainedDenial_of_data hreason hstate htech hreason'
          rw [rilNwRegToUrilNwReg_congr _ hexplained u u']
        · rfl
    | dataRegistrationState =>
        change some _ = some _
        rw [handleRilDataRegStateResponseV1, handleRilDataRegStateResponseV1]
        split
        · rename_i he
          have hreason : deniedWithoutReason data = false := by
            rw [hid, he] at h
            simpa only [usesUninitialised, beq_self_eq_true, Bool.true_and] using h
          refine congrArg some ?_
          refine bind_congr_ok fun state hstate => bind_congr_ok fun tech htech => ?_
          refine bind_congr_ok fun reason hreason' => ?_
          have hexplained := unexplainedDenial_of_data hreason hstate htech hreason'
          rw [rilNwRegToUrilNwReg_congr _ hexplained u u']
        · rfl
    | _ => rfl
  rw [runHandler, runHandler, hhandler]

end UnifiedRil.RilHazards

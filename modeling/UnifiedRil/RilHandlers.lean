import UnifiedRil.Protocol
import UnifiedRil.RilConversion

/-!
The response handlers of `AndroidRilAdapter.cpp`. Each casts the payload of
`ctx->rsp` to the structure of its response and fills that in. The structure
may be larger than the payload: it is modelled in full, and the bytes that are
written are recorded.
-/

namespace UnifiedRil.RilHandlers

open UnifiedRil.Library.Bytes
open UnifiedRil.Library.Layout
open UnifiedRil.Library.CStrings
open UnifiedRil.Protocol
open UnifiedRil.Messages
open UnifiedRil.Ril
open UnifiedRil.RilConversion

/-- What a handler leaves behind. -/
structure Handled where
  rsp : UrilProtocolMsg
  structBytes : List UInt8
  /-- the bytes that were written, counted from the start of the payload -/
  extents : List Extent
  /-- the request that a detached thread submits for the context, where the
  response is not complete yet -/
  followUp : Option RilReqId
  deriving DecidableEq

/-- `(T *) ctx->rsp->payload`. Memory after the payload counts as zeroed. -/
def structOf (α : Type) [Packed α] (rsp : UrilProtocolMsg) : α :=
  decode (rsp.payload.toList ++ List.replicate (sizeof α) 0)

/-- The end of a handler that built its response in `filled`. -/
def respond {α : Type} [Packed α] {initial : α} (rsp : UrilProtocolMsg) (msgId : UInt32)
    (filled : Store initial) (followUp : Option RilReqId) : Handled where
  rsp :=
    { rsp with
      msgId := msgId
      len := UInt16.ofNat (sizeof α)
      payload := overwrite rsp.payload (encode filled.value) }
  structBytes := encode filled.value
  extents := filled.extents
  followUp := followUp

/-- The structure over the payload, with its `response` member filled in. -/
def startStruct {α : Type} [Packed α] (response : Field α UrilResponse) (rsp : UrilProtocolMsg)
    (e : RilErrno) : Store (structOf α rsp) :=
  let store := Store.untouched (structOf α rsp)
  store.put response (rilErrnoToUrilResponse e (store.view response))

/-- The handlers that report the error and nothing else. -/
def respondOnly (msgId : UInt32) (rsp : UrilProtocolMsg) (e : RilErrno) : Except Fault Handled :=
  .ok (respond rsp msgId (startStruct ResponseMsg.responseField rsp e) none)

/-- The pointer at an index of an array of strings, null where the array is too
short. -/
def entryOf (data : RilData) (numEntries : Nat) (i : Nat) : Except Fault CharPtr :=
  if i < numEntries then data.charPtr (8 * i) else .ok .null

def handleRilSetNetworkPrefResponseV1 : UrilProtocolMsg → RilErrno → Except Fault Handled :=
  respondOnly MsgId.nwSetPref

def handleRilGetNetworkPrefResponseV1 (rsp : UrilProtocolMsg) (e : RilErrno) (data : RilData) :
    Except Fault Handled := do
  let irilRsp := startStruct GetPrefResp.responseField rsp e
  if e = .success then
    let irilRsp := irilRsp.write GetPrefResp.preferredNwModeFollowsField 1
    let mode ← rilNwPrefToUrilNwPref (← data.int 0)
    let irilRsp := irilRsp.write GetPrefResp.preferredNwModeField mode
    return respond rsp MsgId.nwGetPref irilRsp none
  else return respond rsp MsgId.nwGetPref irilRsp none

def handleRilVoiceRegStateResponseV1 (rsp : UrilProtocolMsg) (e : RilErrno) (data : RilData)
    (uninitialised : UInt32) : Except Fault Handled := do
  let irilRsp := startStruct GetRegistrationStatusResp.responseField rsp e
  if e = .success then
    let numEntries := intBound (data.dataLen / 8)
    let info := GetRegistrationStatusResp.voiceRegistrationField
    let (registration, follows) ← rilNwRegToUrilNwReg (irilRsp.view info)
      (← entryOf data numEntries 0) (← entryOf data numEntries 3)
      (← entryOf data numEntries 13) uninitialised
    let irilRsp := irilRsp.put info registration
    let irilRsp := irilRsp.write GetRegistrationStatusResp.voiceRegistrationFollowsField
      (if follows then 1 else 0)
    let irilRsp ← rilCellToUrilCellVoice irilRsp
      (← entryOf data numEntries 3) (← entryOf data numEntries 1)
      (← entryOf data numEntries 2) (← entryOf data numEntries 14)
    return respond rsp MsgId.nwGetRegistrationStatus irilRsp (some .dataRegistrationState)
  else return respond rsp MsgId.nwGetRegistrationStatus irilRsp none

def handleRilDataRegStateResponseV1 (rsp : UrilProtocolMsg) (e : RilErrno) (data : RilData)
    (uninitialised : UInt32) : Except Fault Handled := do
  let irilRsp := startStruct GetRegistrationStatusResp.responseField rsp e
  if e = .success then
    let numEntries := intBound (data.dataLen / 8)
    let info := GetRegistrationStatusResp.dataRegistrationField
    let (registration, follows) ← rilNwRegToUrilNwReg (irilRsp.view info)
      (← entryOf data numEntries 0) (← entryOf data numEntries 3)
      (← entryOf data numEntries 13) uninitialised
    let irilRsp := irilRsp.put info registration
    let irilRsp := irilRsp.write GetRegistrationStatusResp.dataRegistrationFollowsField
      (if follows then 1 else 0)
    let irilRsp ← rilCellToUrilCellData irilRsp
      (← entryOf data numEntries 3) (← entryOf data numEntries 1)
      (← entryOf data numEntries 2) (← entryOf data numEntries 14)
    return respond rsp MsgId.nwGetRegistrationStatus irilRsp (some .operator)
  else return respond rsp MsgId.nwGetRegistrationStatus irilRsp none

/-- `mcc_ptr` and `mnc_ptr` of `handleRilGetOperatorResponseV1` -/
def mccMncFields (status : GetRegistrationStatusResp) :
    Option (Field GetRegistrationStatusResp (Vector UInt8 4) ×
      Field GetRegistrationStatusResp (Vector UInt8 4)) :=
  if status.nwCellIdentityGsmFollows ≠ 0 then
    let cell := GetRegistrationStatusResp.nwCellIdentityGsmField
    some (cell.trans CellIdentityGsm.mccField, cell.trans CellIdentityGsm.mncField)
  else if status.nwCellIdentityWcdmaFollows ≠ 0 then
    let cell := GetRegistrationStatusResp.nwCellIdentityWcdmaField
    some (cell.trans CellIdentityWcdma.mccField, cell.trans CellIdentityWcdma.mncField)
  else if status.nwCellIdentityLteFollows ≠ 0 then
    let cell := GetRegistrationStatusResp.nwCellIdentityLteField
    some (cell.trans CellIdentityLte.mccField, cell.trans CellIdentityLte.mncField)
  else if status.nwCellIdentityTdscdmaFollows ≠ 0 then
    let cell := GetRegistrationStatusResp.nwCellIdentityTdscdmaField
    some (cell.trans CellIdentityTdscdma.mccField, cell.trans CellIdentityTdscdma.mncField)
  else none

def handleRilGetOperatorResponseV1 (rsp : UrilProtocolMsg) (e : RilErrno) (data : RilData) :
    Except Fault Handled := do
  let irilRsp := startStruct GetRegistrationStatusResp.responseField rsp e
  if e = .success then
    let numEntries := intBound (data.dataLen / 8)
    match mccMncFields irilRsp.value with
    | none => return respond rsp MsgId.nwGetRegistrationStatus irilRsp none
    | some (mcc, mnc) =>
        match ← entryOf data numEntries 2 with
        | .null => return respond rsp MsgId.nwGetRegistrationStatus irilRsp none
        | entry => do
            let numeric ← entry.string
            let irilRsp := irilRsp.strncpy mcc numeric.chars 3 mccDigits_le
            let rest ← afterMcc numeric
            let irilRsp := irilRsp.strncpy mnc rest.chars 3 mccDigits_le
            return respond rsp MsgId.nwGetRegistrationStatus irilRsp none
  else return respond rsp MsgId.nwGetRegistrationStatus irilRsp none

/-- The chain of `strcmp` on the status of a network. -/
def networkStatusOf (status : CString) : Option UInt32 :=
  if status.chars = ascii ['u', 'n', 'k', 'n', 'o', 'w', 'n'] then
    some UrilNwNetworkStatus.none
  else if status.chars = ascii ['a', 'v', 'a', 'i', 'l', 'a', 'b', 'l', 'e'] then
    some UrilNwNetworkStatus.available
  else if status.chars = ascii ['c', 'u', 'r', 'r', 'e', 'n', 't'] then
    some UrilNwNetworkStatus.currentServing
  else if status.chars = ascii ['f', 'o', 'r', 'b', 'i', 'd', 'd', 'e', 'n'] then
    some UrilNwNetworkStatus.forbidden
  else none

/-- One turn of the loop of `handleRilAvailableNetworksResponseV1`, once `4 * i` is
computed: quadruple `i` is decoded into an entry, and the result says whether the entry
counts. -/
def scanQuadruple {initial : ScanEntry} (entry : Store initial) (data : RilData) (i : Nat) :
    Except Fault (Store initial × Bool) := do
  let long ← data.charPtr (8 * (4 * i))
  let short ← data.charPtr (8 * (4 * i + 1))
  let numeric ← data.charPtr (8 * (4 * i + 2))
  let (name, complete) ← rilOperatorNameToUrilOperatorName
    (entry.view ScanEntry.operatorNameField) long short numeric
  let entry := entry.put ScanEntry.operatorNameField name
  if complete then
    match ← data.charPtr (8 * (4 * i + 3)) with
    | .null => return (entry, false)
    | status => do
        match networkStatusOf (← status.string) with
        | some status => return (entry.write ScanEntry.networkStatusField status, true)
        | none => return (entry, false)
  else return (entry, false)

/-- The product is an `int`. -/
def intProduct (n : Nat) : Except Fault Unit := if n < 2 ^ 31 then .ok () else .error .overflow

/-- The loop of `handleRilAvailableNetworksResponseV1`, with the number of
quadruples left, the next one, and the number of entries filled. -/
def scanLoop {initial : ScanResp} (data : RilData) :
    Nat → Nat → Nat → Store initial → Except Fault (Store initial × Nat)
  | 0, _, numFilled, irilRsp => .ok (irilRsp, numFilled)
  | left + 1, i, numFilled, irilRsp => do
      if h : numFilled < urilNwScanMaxEntryCount then
        intProduct (4 * i)
        let slot := ScanResp.entriesField.trans (.elem ⟨numFilled, h⟩)
        let (entry, counts) ← scanQuadruple (irilRsp.view slot) data i
        scanLoop data left (i + 1) (if counts then numFilled + 1 else numFilled)
          (irilRsp.put slot entry)
      else return (irilRsp, numFilled)

def handleRilAvailableNetworksResponseV1 (rsp : UrilProtocolMsg) (e : RilErrno)
    (data : RilData) : Except Fault Handled := do
  let numEntries := intBound (data.dataLen / 8 / 4)
  let irilRsp := startStruct ScanResp.responseField rsp e
  if e = .success then
    let irilRsp := irilRsp.write ScanResp.entriesFollowsField 1
    let (irilRsp, numFilled) ← scanLoop data numEntries 0 0 irilRsp
    let irilRsp := irilRsp.write ScanResp.entriesLenField (UInt32.ofNat numFilled)
    return respond rsp MsgId.nwScan irilRsp none
  else return respond rsp MsgId.nwScan irilRsp none

def handleRilSetScreenStateResponseV1 : UrilProtocolMsg → RilErrno → Except Fault Handled :=
  respondOnly MsgId.nwSetScreen

def handleRilSetNetworkSelectionResponseV1 : UrilProtocolMsg → RilErrno → Except Fault Handled :=
  respondOnly MsgId.nwSelection

/-- An `int` narrowed to `int8_t` -/
def int8Of (value : UInt32) : Int8 := value.toUInt8.toInt8

/-- `assert` -/
def assertThat (p : Prop) [Decidable p] : Except Fault Unit :=
  if p then .ok () else .error .assertion

/-- Whether the answer has an LTE block with a known value in it. -/
def lteKnown (data : RilData) : Except Fault Bool :=
  if sizeofSignalStrengthV6 ≤ data.dataLen then do
    let signalStrength ← data.int 28
    let rsrp ← data.int 32
    let rsrq ← data.int 36
    let rssnr ← data.int 40
    return signalStrength ≠ 99 ∨ rsrp ≠ intMax ∨ rsrq ≠ intMax ∨ rssnr ≠ intMax
  else .ok false

/-- Whether the answer has a known TD-SCDMA value. -/
def tdscdmaKnown (data : RilData) : Except Fault Bool :=
  if sizeofSignalStrengthV10 ≤ data.dataLen then do
    let rscp ← data.int 52
    return rscp ≠ intMax
  else .ok false

/-- `handleRilGetSignalStrengthResponseV1`. The offsets are those of the members
of `RIL_SignalStrength_v10`. -/
def handleRilGetSignalStrengthResponseV1 (rsp : UrilProtocolMsg) (e : RilErrno)
    (data : RilData) : Except Fault Handled := do
  let irilRsp := startStruct GetSignalStrengthResp.responseField rsp e
  if e = .success then
    assertThat (sizeofSignalStrengthV5 ≤ data.dataLen)
    let gwSignalStrength ← data.int 0
    let gwBitErrorRate ← data.int 4
    if gwSignalStrength ≠ 99 ∨ gwBitErrorRate ≠ 99 then
      let irilRsp := irilRsp.write GetSignalStrengthResp.gsmSignalStrengthFollowsField 1
      let rssi := GetSignalStrengthResp.gsmSignalStrengthField.trans GsmSignalStrength.rssiField
      return respond rsp MsgId.nwGetSignalStrength
        (irilRsp.write rssi (int8Of gwSignalStrength)) none
    else if ← lteKnown data then
      let lte := GetSignalStrengthResp.lteSignalStrengthField
      let irilRsp := irilRsp.write GetSignalStrengthResp.lteSignalStrengthFollowsField 1
      let irilRsp := irilRsp.write (lte.trans LteSignalStrength.rssiField)
        (int8Of (← data.int 28))
      let irilRsp := irilRsp.write (lte.trans LteSignalStrength.rsrqField)
        (int8Of (← data.int 36))
      let irilRsp := irilRsp.write (lte.trans LteSignalStrength.rsrpField)
        (int8Of (← data.int 32))
      let irilRsp := irilRsp.write (lte.trans LteSignalStrength.snrField)
        (int8Of (← data.int 40))
      return respond rsp MsgId.nwGetSignalStrength irilRsp none
    else if ← tdscdmaKnown data then
      let tdscdma := GetSignalStrengthResp.tdscdmaSignalStrengthField
      let irilRsp := irilRsp.write GetSignalStrengthResp.tdscdmaSignalStrengthFollowsField 1
      let irilRsp := irilRsp.write (tdscdma.trans TdscdmaSignalStrength.rscpField)
        (int8Of (← data.int 52))
      return respond rsp MsgId.nwGetSignalStrength irilRsp none
    else return respond rsp MsgId.nwGetSignalStrength irilRsp none
  else return respond rsp MsgId.nwGetSignalStrength irilRsp none

def handleRilSetRadioModeV1 : UrilProtocolMsg → RilErrno → Except Fault Handled :=
  respondOnly MsgId.radioSetRadioMode

def handleRilSetupDataCallV1 (rsp : UrilProtocolMsg) (e : RilErrno) (data : RilData) :
    Except Fault Handled := do
  let irilRsp := startStruct SetupDataCallResp.responseField rsp e
  if e = .success then
    assertThat (sizeofDataCallResponseV6 ≤ data.dataLen)
    assertThat (data.dataLen ≤ sizeofDataCallResponseV11)
    let call := RilDataCallResponse.ofBytes data.strings (← data.read 0 data.dataLen)
    let info ← rilDataCallResponseToIRilDataCallInfo
      (irilRsp.view SetupDataCallResp.dataCallField) call
    return respond rsp MsgId.dataSetupDataCall
      (irilRsp.put SetupDataCallResp.dataCallField info) none
  else return respond rsp MsgId.dataSetupDataCall irilRsp none

def handleRilDeactivateDataCallV1 : UrilProtocolMsg → RilErrno → Except Fault Handled :=
  respondOnly MsgId.dataDeactivateDataCall

/-- The size of the structures in a list of data calls, guessed from the size of
the whole list. -/
def dataCallSizeOf (dataLen : Nat) : Except Fault Nat :=
  if dataLen % sizeofDataCallResponseV6 = 0 then .ok sizeofDataCallResponseV6
  else if dataLen % sizeofDataCallResponseV9 = 0 then .ok sizeofDataCallResponseV9
  else if dataLen % sizeofDataCallResponseV11 = 0 then .ok sizeofDataCallResponseV11
  else .error .assertion

/-- The loop of `handleRilGetDataCallListV1` with the number of calls left and
the next one. It ends with the number of calls reported. -/
def dataCallsLoop {initial : GetDataCallListResp} (data : RilData) (size : Nat) :
    Nat → Nat → Store initial → Except Fault (Store initial × Nat)
  | 0, i, irilRsp => .ok (irilRsp, i)
  | left + 1, i, irilRsp => do
      if h : i < urilDataMaxCallsCount then
        let call := RilDataCallResponse.ofBytes data.strings (← data.read (i * size) size)
        let slot := GetDataCallListResp.dataCallsField.trans (.elem ⟨i, h⟩)
        let info ← rilDataCallResponseToIRilDataCallInfo (irilRsp.view slot) call
        dataCallsLoop data size left (i + 1) (irilRsp.put slot info)
      else return (irilRsp, i)

def handleRilGetDataCallListV1 (rsp : UrilProtocolMsg) (e : RilErrno) (data : RilData) :
    Except Fault Handled := do
  let irilRsp := startStruct GetDataCallListResp.responseField rsp e
  if e = .success then
    let size ← dataCallSizeOf data.dataLen
    let numCalls := intBound (data.dataLen / size)
    let (irilRsp, i) ← dataCallsLoop data size numCalls 0 irilRsp
    let irilRsp := irilRsp.write GetDataCallListResp.dataCallsLenField (UInt8.ofNat i)
    return respond rsp MsgId.dataGetDataCallList irilRsp none
  else return respond rsp MsgId.dataGetDataCallList irilRsp none

def handleRilSetInitialAttachParamsV1 : UrilProtocolMsg → RilErrno → Except Fault Handled :=
  respondOnly MsgId.dataSetInitialAttachParams

end UnifiedRil.RilHandlers

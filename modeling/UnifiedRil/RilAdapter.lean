import UnifiedRil.RilHandlers

namespace UnifiedRil.RilAdapter

open UnifiedRil.Library.Layout
open UnifiedRil.Library.CStrings
open UnifiedRil.Protocol
open UnifiedRil.Messages
open UnifiedRil.Ril
open UnifiedRil.RilConversion
open UnifiedRil.RilHandlers

/-- `RilRequestContext`, less `msgId`, which nothing reads. -/
structure RilRequestContext where
  rilReqId : RilReqId
  uniqueId : UInt32
  simId : UInt8
  rsp : Option UrilProtocolMsg
  isCompleted : Bool
  deriving DecidableEq

def makeTokenForMessage (rilReqId : RilReqId) (uniqueId : UInt32) (simId : UInt8) :
    RilRequestContext :=
  { rilReqId := rilReqId, uniqueId := uniqueId, simId := simId, rsp := none
    isCompleted := false }

/-- What the `data` of a vendor request points to. -/
inductive RequestData
  | null
  | int (value : UInt32)
  | string (s : List UInt8)
  | strings (entries : List CharPtr)
  | attachApn (apn protocol : CharPtr) (authtype : UInt32) (username password : CharPtr)
  deriving DecidableEq

/-- The arguments of `sendToVendorRil` other than the token. -/
structure VendorRequest where
  request : RilReqId
  data : RequestData
  dataLen : Nat
  deriving DecidableEq

/-- What a request method does besides computing. -/
inductive Effect
  /-- `sendToVendorRil`, with a token made for it -/
  | submit (token : RilRequestContext) (request : VendorRequest)
  /-- the detached thread of `getRadioModeV1`, with references to parameters of
  these values -/
  | radioThread (uniqueId : UInt32) (simId : UInt8)
  deriving DecidableEq

/-- What a call does, and the value that it returns. -/
structure Processed where
  effects : List Effect
  ret : Bool
  deriving DecidableEq

/-- `sendToVendorRil` with a token made for the request. -/
def sendToVendorRil (request : RilReqId) (data : RequestData) (dataLen : Nat)
    (uniqueId : UInt32) (simId : UInt8) : Except Fault Processed :=
  .ok
    { effects := [.submit (makeTokenForMessage request uniqueId simId) ⟨request, data, dataLen⟩]
      ret := true }

/-- A method that is not implemented, or that refuses the request. -/
def refuse : Except Fault Processed := .ok { effects := [], ret := false }

abbrev Payload := Vector UInt8 maxUrilPayloadSize

/-- `(T *) msg->payload` -/
def requestOf (α : Type) [Packed α] (payload : Payload) : α := decode payload.toList

/-- The string at a field of the request. Where the field has no terminator the
string goes on in the bytes after it. -/
def stringAt {α : Type} [Packed α] {n : Nat} (payload : Payload)
    (field : Field α (Vector UInt8 n)) : CharPtr :=
  match terminated (payload.toList.drop field.offset) with
  | some s => .to s
  | none => .wild

/-- A string made by the adapter. -/
def literal (text : List UInt8) : CharPtr :=
  match terminated (text ++ [0]) with
  | some s => .to s
  | none => .wild

/-- `"%d"` for a number that is not negative -/
def decimal (n : UInt32) : CharPtr := literal (ascii (Nat.toDigits 10 n.toNat))

def setNetworkPreferenceV1 (payload : Payload) (uniqueId : UInt32) (simId : UInt8) :
    Except Fault Processed := do
  let rilData ← urilNwPrefToRilNwPref (requestOf UInt32 payload)
  sendToVendorRil .setPreferredNetworkType (.int rilData) 4 uniqueId simId

def getNetworkPreferenceV1 : UInt32 → UInt8 → Except Fault Processed :=
  sendToVendorRil .getPreferredNetworkType .null 0

def getNetworkRegistrationStatusV1 : UInt32 → UInt8 → Except Fault Processed :=
  sendToVendorRil .voiceRegistrationState .null 0

def scanNetworkV1 : UInt32 → UInt8 → Except Fault Processed :=
  sendToVendorRil .queryAvailableNetworks .null 0

def setScreenStateV1 (payload : Payload) : UInt32 → UInt8 → Except Fault Processed :=
  let rilData := if requestOf UInt8 payload ≠ 0 then 1 else 0
  sendToVendorRil .screenState (.int rilData) 4

def selectNetworkV1 (payload : Payload) (uniqueId : UInt32) (simId : UInt8) :
    Except Fault Processed :=
  let req := requestOf SelectionReq payload
  if req.nwSelectionType = UrilNwSelection.automatic then
    sendToVendorRil .setNetworkSelectionAutomatic .null 0 uniqueId simId
  else if req.nwSelectionType = UrilNwSelection.manual then
    -- `%s` reads up to the next terminator, and six characters fit
    let mcc := (payload.toList.drop SelectionReq.mccField.offset).takeWhile (· ≠ 0)
    let mnc := (payload.toList.drop SelectionReq.mncField.offset).takeWhile (· ≠ 0)
    sendToVendorRil .setNetworkSelectionManual (.string ((mcc ++ mnc).take 6)) 8 uniqueId simId
  else refuse

def getSignalStrengthV1 : UInt32 → UInt8 → Except Fault Processed :=
  sendToVendorRil .signalStrength .null 0

def getCellAccessV1 (_ : UInt32) (_ : UInt8) : Except Fault Processed := refuse

def getRadioModeV1 (uniqueId : UInt32) (simId : UInt8) : Except Fault Processed :=
  .ok { effects := [.radioThread uniqueId simId], ret := true }

def setRadioModeV1 (payload : Payload) (uniqueId : UInt32) (simId : UInt8) :
    Except Fault Processed := do
  let rilData ← switchOrAssert [(UrilRadioMode.offline, 0), (UrilRadioMode.online, 1)]
    (requestOf UInt32 payload)
  -- the length passed is that of a pointer
  sendToVendorRil .radioPower (.int rilData) 8 uniqueId simId

def setDataProfilesV1 (_ : UInt32) (_ : UInt8) : Except Fault Processed := refuse

def setupDataCallV1 (payload : Payload) (uniqueId : UInt32) (simId : UInt8) :
    Except Fault Processed := do
  let req := requestOf SetupDataCallReq payload
  let radioTech ← urilDataBearerTechTypeToRilRadioTech req.rat
  let authType ← urilAuthTypeToRilAuthType req.authType
  let pdpType ← urilPdpTypeToRilPdpType req.pdpType
  sendToVendorRil .setupDataCall
    (.strings
      [decimal radioTech, decimal req.profileId.toUInt32,
        stringAt payload SetupDataCallReq.apnField,
        stringAt payload SetupDataCallReq.userField,
        stringAt payload SetupDataCallReq.passwordField,
        decimal authType, literal pdpType, .null])
    64 uniqueId simId

def deactivateDataCallV1 (payload : Payload) (uniqueId : UInt32) (simId : UInt8) :
    Except Fault Processed :=
  let req := requestOf DeactivateDataCallReq payload
  let reason := if req.reason = UrilDataEndReason.radioOff then ascii ['1'] else ascii ['0']
  sendToVendorRil .deactivateDataCall
    (.strings [decimal req.cid.toUInt32, literal reason]) 16 uniqueId simId

def getDataCallListV1 : UInt32 → UInt8 → Except Fault Processed :=
  sendToVendorRil .dataCallList .null 0

def setInitialAttachParamsV1 (payload : Payload) (uniqueId : UInt32) (simId : UInt8) :
    Except Fault Processed := do
  let req := requestOf SetInitialParamsReq payload
  let pdpType ← urilPdpTypeToRilPdpType req.pdpType
  let authType ← urilAuthTypeToRilAuthType req.authType
  sendToVendorRil .setInitialAttachApn
    (.attachApn (stringAt payload SetInitialParamsReq.apnField) (literal pdpType) authType
      (stringAt payload SetInitialParamsReq.userField)
      (stringAt payload SetInitialParamsReq.passwordField))
    40 uniqueId simId

/-- The `switch` of `handleRilResponse`. -/
def responseHandler (rilReqId : RilReqId) (rsp : UrilProtocolMsg) (e : RilErrno)
    (data : RilData) (uninitialised : UInt32) : Option (Except Fault Handled) :=
  match rilReqId with
  | .setPreferredNetworkType => some (handleRilSetNetworkPrefResponseV1 rsp e)
  | .getPreferredNetworkType => some (handleRilGetNetworkPrefResponseV1 rsp e data)
  | .voiceRegistrationState => some (handleRilVoiceRegStateResponseV1 rsp e data uninitialised)
  | .dataRegistrationState => some (handleRilDataRegStateResponseV1 rsp e data uninitialised)
  | .operator => some (handleRilGetOperatorResponseV1 rsp e data)
  | .queryAvailableNetworks => some (handleRilAvailableNetworksResponseV1 rsp e data)
  | .screenState => some (handleRilSetScreenStateResponseV1 rsp e)
  | .setNetworkSelectionAutomatic => some (handleRilSetNetworkSelectionResponseV1 rsp e)
  | .setNetworkSelectionManual => some (handleRilSetNetworkSelectionResponseV1 rsp e)
  | .signalStrength => some (handleRilGetSignalStrengthResponseV1 rsp e data)
  | .radioPower => some (handleRilSetRadioModeV1 rsp e)
  | .setupDataCall => some (handleRilSetupDataCallV1 rsp e data)
  | .deactivateDataCall => some (handleRilDeactivateDataCallV1 rsp e)
  | .dataCallList => some (handleRilGetDataCallListV1 rsp e data)
  | .setInitialAttachApn => some (handleRilSetInitialAttachParamsV1 rsp e)
  | .other _ => none

/-- `ctx->rsp`, allocated at the first answer. -/
def responseOf (ctx : RilRequestContext) : UrilProtocolMsg :=
  ctx.rsp.getD { UrilProtocolMsg.zeroed with simId := ctx.simId, uniqueId := ctx.uniqueId }

/-- The context as a handler leaves it. -/
def afterHandler (ctx : RilRequestContext) (handled : Handled) : RilRequestContext :=
  { ctx with
    rilReqId := handled.followUp.getD ctx.rilReqId
    rsp := some handled.rsp
    isCompleted := handled.followUp.isNone }

/-- `handleRilResponse` up to the test of `isCompleted`: the context, and what
the handler left behind, if there is one. -/
def runHandler (ctx : RilRequestContext) (e : RilErrno) (data : RilData)
    (uninitialised : UInt32) : Except Fault (RilRequestContext × Option Handled) :=
  match responseHandler ctx.rilReqId (responseOf ctx) e data uninitialised with
  | none => .ok ({ ctx with rsp := some (responseOf ctx) }, none)
  | some run => do
      let handled ← run
      return (afterHandler ctx handled, some handled)

/-- The end of `handleRilResponse`: the message that goes to `processResponse`
before it and the context are deleted. -/
def completedResponse (ctx : RilRequestContext) (handled : Option Handled) :
    Option UrilProtocolMsg :=
  if handled.isSome ∧ ctx.isCompleted then ctx.rsp else none

/-- The response that the thread of `getRadioModeV1` builds. -/
def radioModeResponse (uid : UInt32) (sid : UInt8) (radioState : RadioState) :
    Except Fault Handled := do
  let rsp := { UrilProtocolMsg.zeroed with uniqueId := uid, simId := sid }
  let irilRsp := startStruct GetRadioModeResp.responseField rsp .success
  let irilRsp := irilRsp.write GetRadioModeResp.radioModeFollowsField 1
  let mode ←
    match radioState with
    | .off => pure UrilRadioMode.offline
    | .unavailable => pure UrilRadioMode.unavailable
    | .on => pure UrilRadioMode.online
    | .other _ => throw .assertion
  return respond rsp MsgId.radioGetRadioMode
    (irilRsp.write GetRadioModeResp.radioModeField mode) none

/-- The message that `handleRilUnsolicitedResponse` passes on. An event that the
adapter does not know is passed on as well, with the message id 0. -/
def handleRilUnsolicitedResponse (unsolResponseId : RilUnsol) : UrilProtocolMsg :=
  { UrilProtocolMsg.zeroed with
    isIndication := 1
    msgId :=
      match unsolResponseId with
      | .responseRadioStateChanged => MsgId.radioModeChangedEvent
      | .dataCallListChanged => MsgId.dataCallListChangedEvent
      | .responseVoiceNetworkStateChanged => MsgId.nwRegistrationEvent
      | .signalStrength => MsgId.nwSignalStrengthEvent
      | .other _ => 0 }

end UnifiedRil.RilAdapter

import UnifiedRil.Messages
import UnifiedRil.Ril

/-!
The conversions between the vendor's values and those of the clients, from the
first part of `AndroidRilAdapter.cpp`. A function that fills in a structure
through a pointer takes the structure as it is and returns it as it is left.
-/

namespace UnifiedRil.RilConversion

open UnifiedRil.Library.Layout
open UnifiedRil.Library.CStrings
open UnifiedRil.Messages
open UnifiedRil.Ril

/-- A `switch` without side effects whose `default` is a failing assertion. -/
def switchOrAssert (cases : List (UInt32 × UInt32)) (value : UInt32) : Except Fault UInt32 :=
  match cases.lookup value with
  | some result => .ok result
  | none => .error .assertion

/-- `rilStrToInt`, with `none` for `false`. -/
def rilStrToInt (rilStr : CharPtr) : Except Fault (Option UInt32) :=
  match rilStr with
  | .null => .ok none
  | .wild => .error .badRead
  | .to s =>
      if s.chars = [] then .ok none
      else
        let parsed := strtoul s
        if parsed.erange ∨ parsed.endPtr.chars ≠ [] then .ok none
        else .ok (some parsed.value.toUInt32)

def urilNwPrefToRilNwPref : UInt32 → Except Fault UInt32 :=
  switchOrAssert
    [(UrilNwPrefType.gsmWcdma, PrefNetType.gsmWcdma),
      (UrilNwPrefType.gsmOnly, PrefNetType.gsmOnly),
      (UrilNwPrefType.wcdma, PrefNetType.wcdma),
      (UrilNwPrefType.gsmWcdmaAuto, PrefNetType.gsmWcdmaAuto),
      (UrilNwPrefType.cdmaEvdoAuto, PrefNetType.cdmaEvdoAuto),
      (UrilNwPrefType.cdmaOnly, PrefNetType.cdmaOnly),
      (UrilNwPrefType.evdoOnly, PrefNetType.evdoOnly),
      (UrilNwPrefType.gsmWcdmaCdmaEvdoAuto, PrefNetType.gsmWcdmaCdmaEvdoAuto),
      (UrilNwPrefType.lteCdmaEvdo, PrefNetType.lteCdmaEvdo),
      (UrilNwPrefType.lteGsmWcdma, PrefNetType.lteGsmWcdma),
      (UrilNwPrefType.lteCmdaEvdoGsmWcdma, PrefNetType.lteCmdaEvdoGsmWcdma),
      (UrilNwPrefType.lteOnly, PrefNetType.lteOnly),
      (UrilNwPrefType.lteWcdma, PrefNetType.lteWcdma)]

def rilNwPrefToUrilNwPref : UInt32 → Except Fault UInt32 :=
  switchOrAssert
    [(PrefNetType.gsmWcdma, UrilNwPrefType.gsmWcdma),
      (PrefNetType.gsmOnly, UrilNwPrefType.gsmOnly),
      (PrefNetType.wcdma, UrilNwPrefType.wcdma),
      (PrefNetType.gsmWcdmaAuto, UrilNwPrefType.gsmWcdmaAuto),
      (PrefNetType.cdmaEvdoAuto, UrilNwPrefType.cdmaEvdoAuto),
      (PrefNetType.cdmaOnly, UrilNwPrefType.cdmaOnly),
      (PrefNetType.evdoOnly, UrilNwPrefType.evdoOnly),
      (PrefNetType.gsmWcdmaCdmaEvdoAuto, UrilNwPrefType.gsmWcdmaCdmaEvdoAuto),
      (PrefNetType.lteCdmaEvdo, UrilNwPrefType.lteCdmaEvdo),
      (PrefNetType.lteGsmWcdma, UrilNwPrefType.lteGsmWcdma),
      (PrefNetType.lteCmdaEvdoGsmWcdma, UrilNwPrefType.lteCmdaEvdoGsmWcdma),
      (PrefNetType.lteOnly, UrilNwPrefType.lteOnly),
      (PrefNetType.lteWcdma, UrilNwPrefType.lteWcdma)]

def rilRatToUrilRat : UInt32 → Except Fault UInt32 :=
  switchOrAssert
    [(RadioTech.unknown, UrilNwRat.none), (RadioTech.gprs, UrilNwRat.gprs),
      (RadioTech.edge, UrilNwRat.edge), (RadioTech.umts, UrilNwRat.umts),
      (RadioTech.is95a, UrilNwRat.is95a), (RadioTech.is95b, UrilNwRat.is95b),
      (RadioTech.oneXRtt, UrilNwRat.oneXRtt), (RadioTech.evdo0, UrilNwRat.evdo0),
      (RadioTech.evdoA, UrilNwRat.evdoA), (RadioTech.hsdpa, UrilNwRat.hsdpa),
      (RadioTech.hsupa, UrilNwRat.hsupa), (RadioTech.hspa, UrilNwRat.hspa),
      (RadioTech.evdoB, UrilNwRat.evdoB), (RadioTech.ehrpd, UrilNwRat.ehrpd),
      (RadioTech.lte, UrilNwRat.lte), (RadioTech.hspap, UrilNwRat.hspap),
      (RadioTech.gsm, UrilNwRat.gsm), (RadioTech.tdScdma, UrilNwRat.tdScdma),
      (RadioTech.iwlan, UrilNwRat.iwlan)]

def urilDataBearerTechTypeToRilRadioTech : UInt32 → Except Fault UInt32 :=
  switchOrAssert
    [(UrilDataBearerTech.unknown, RadioTech.unknown),
      (UrilDataBearerTech.cdma1x, RadioTech.oneXRtt),
      (UrilDataBearerTech.evdoRev0, RadioTech.evdo0),
      (UrilDataBearerTech.evdoRevA, RadioTech.evdoA),
      (UrilDataBearerTech.evdoRevB, RadioTech.evdoB),
      (UrilDataBearerTech.ehrpd, RadioTech.ehrpd),
      (UrilDataBearerTech.fmc, RadioTech.unknown),
      (UrilDataBearerTech.hrpd, RadioTech.unknown),
      (UrilDataBearerTech.wlan3gpp2, RadioTech.unknown),
      (UrilDataBearerTech.wcdma, RadioTech.umts),
      (UrilDataBearerTech.gprs, RadioTech.gprs),
      (UrilDataBearerTech.hsdpa, RadioTech.hsdpa),
      (UrilDataBearerTech.hsupa, RadioTech.hsupa),
      (UrilDataBearerTech.edge, RadioTech.edge),
      (UrilDataBearerTech.lte, RadioTech.lte),
      (UrilDataBearerTech.hsdpaPlus, RadioTech.hspap),
      (UrilDataBearerTech.dcHsdpaPlus, RadioTech.hspap),
      (UrilDataBearerTech.hspa, RadioTech.hspa),
      (UrilDataBearerTech.qam64, RadioTech.hspap),
      (UrilDataBearerTech.tdscdma, RadioTech.tdScdma),
      (UrilDataBearerTech.gsm, RadioTech.gsm),
      (UrilDataBearerTech.wlan3gpp, RadioTech.iwlan)]

def rilDataCallFailCauseToUrilDataFailCause (dataFailCause : UInt32) : UInt32 :=
  let cases :=
    [(PdpFail.none, UrilDataFailCause.none),
      (PdpFail.operatorBarred, UrilDataFailCause.operatorBarred),
      (PdpFail.insufficientResources, UrilDataFailCause.insufficientResources),
      (PdpFail.missingUknownApn, UrilDataFailCause.missingUknownApn),
      (PdpFail.unknownPdpAddressType, UrilDataFailCause.unknownPdpAddressType),
      (PdpFail.userAuthentication, UrilDataFailCause.userAuthentication),
      (PdpFail.activationRejectGgsn, UrilDataFailCause.activationRejectGgsn),
      (PdpFail.activationRejectUnspecified, UrilDataFailCause.activationRejectUnspecified),
      (PdpFail.serviceOptionNotSupported, UrilDataFailCause.serviceOptionNotSupported),
      (PdpFail.serviceOptionNotSubscribed, UrilDataFailCause.serviceOptionNotSubscribed),
      (PdpFail.serviceOptionOutOfOrder, UrilDataFailCause.serviceOptionOutOfOrder),
      (PdpFail.nsapiInUse, UrilDataFailCause.nsapiInUse),
      (PdpFail.regularDeactivation, UrilDataFailCause.regularDeactivation),
      (PdpFail.onlyIpv4Allowed, UrilDataFailCause.onlyIpv4Allowed),
      (PdpFail.onlyIpv6Allowed, UrilDataFailCause.onlyIpv6Allowed),
      (PdpFail.onlySingleBearerAllowed, UrilDataFailCause.onlySingleBearerAllowed),
      (PdpFail.protocolErrors, UrilDataFailCause.protocolErrors),
      (PdpFail.voiceRegistrationFail, UrilDataFailCause.voiceRegistrationFail),
      (PdpFail.dataRegistrationFail, UrilDataFailCause.dataRegistrationFail),
      (PdpFail.signalLost, UrilDataFailCause.signalLost),
      (PdpFail.prefRadioTechChanged, UrilDataFailCause.prefRadioTechChanged),
      (PdpFail.radioPowerOff, UrilDataFailCause.radioPowerOff),
      (PdpFail.tetheredCallActive, UrilDataFailCause.tetheredCallActive),
      (PdpFail.errorUnspecified, UrilDataFailCause.errorUnspecified)]
  -- 3GPP causes outside of the enumeration are passed on
  (cases.lookup dataFailCause).getD dataFailCause

def urilAuthTypeToRilAuthType : UInt32 → Except Fault UInt32 :=
  switchOrAssert
    [(UrilDataAuthType.none, 0), (UrilDataAuthType.pap, 1), (UrilDataAuthType.chap, 2),
      (UrilDataAuthType.papchap, 3)]

def urilPdpTypeToRilPdpType (pdpType : UInt32) : Except Fault (List UInt8) :=
  if pdpType = UrilDataPdpType.none then .ok []
  else if pdpType = UrilDataPdpType.ip then .ok (ascii ['I', 'P'])
  else if pdpType = UrilDataPdpType.ipv6 then .ok (ascii ['I', 'P', 'V', '6'])
  else if pdpType = UrilDataPdpType.ipv4v6 then .ok (ascii ['I', 'P', 'V', '4', 'V', '6'])
  else if pdpType = UrilDataPdpType.ppp then .ok (ascii ['P', 'P', 'P'])
  else .error .assertion

/-- `rilIpAddrToUrilDataAddr`. It returns `*endAddr` where the function returns
`true`. -/
def rilIpAddrToUrilDataAddr {initial : DataAddr} (irilAddr : Store initial) (addr : CharPtr) :
    Except Fault (Store initial × Option CString) :=
  match addr with
  | .null =>
      let irilAddr := irilAddr.writeChars DataAddr.addrField [0] (by decide)
      .ok (irilAddr.write DataAddr.prefixLenField 0, none)
  | .wild => .error .badRead
  | .to s =>
      let addr := s.drop (s.chars.takeWhile (· = 0x20)).length
      let token := addr.chars.takeWhile fun c => c ≠ 0x20 ∧ c ≠ 0x2f
      let tail := addr.drop token.length
      if token = [] then .ok (irilAddr, none)
      else if h : token.length < urilDataMaxAddrLen then
        let irilAddr := irilAddr.writeChars DataAddr.addrField (token ++ [0])
          (by simpa [Nat.succ_le_iff] using h)
        let plainPrefix := if 0x3a ∈ token then 128 else 32
        match tail.chars.head? with
        | none => .ok (irilAddr.write DataAddr.prefixLenField plainPrefix, some tail)
        | some 0x2f =>
            let parsed := strtoul (tail.drop 1)
            .ok (irilAddr.write DataAddr.prefixLenField parsed.value.toUInt32,
              some parsed.endPtr)
        | some _ => .ok (irilAddr.write DataAddr.prefixLenField plainPrefix, some (tail.drop 1))
      else .error .assertion

/-- The loop of `rilDataCallResponseToIRilDataCallInfo` over the addresses, with
`room` elements of `pdp_addrs` left. The room is looked at after the address
was parsed into the array. -/
def parseAddresses {initial : DataCallInfo} (room : Nat) (irilCall : Store initial)
    (addr : CString) : Except Fault (Store initial) := do
  let n := urilDataMaxAddrCount - room
  let slot := DataCallInfo.pdpAddrsSlot n
  let (parsed, next) ← rilIpAddrToUrilDataAddr (irilCall.view slot) (.to addr)
  let irilCall := irilCall.put slot parsed
  match next, room with
  | some next, room + 1 =>
      parseAddresses room
        (irilCall.write DataCallInfo.pdpAddrsLenField (UInt32.ofNat (n + 1))) next
  | _, _ => return irilCall

/-- The state of the physical link, from `active`. -/
def physLinkStateOf : UInt32 → Except Fault UInt32 :=
  switchOrAssert
    [(0, UrilDataPhysLinkState.inactive), (1, UrilDataPhysLinkState.activeDown),
      (2, UrilDataPhysLinkState.activeUp)]

/-- The chain of `strcmp` on the type of a data call. -/
def pdpTypeOf (type : CharPtr) : Except Fault UInt32 :=
  match type with
  | .null => .ok UrilDataPdpType.none
  | .wild => .error .badRead
  | .to s =>
      if s.chars = ascii ['I', 'P'] then .ok UrilDataPdpType.ip
      else if s.chars = ascii ['I', 'P', 'V', '6'] then .ok UrilDataPdpType.ipv6
      else if s.chars = ascii ['I', 'P', 'V', '4', 'V', '6'] then .ok UrilDataPdpType.ipv4v6
      else if s.chars = ascii ['P', 'P', 'P'] then .ok UrilDataPdpType.ppp
      else .ok UrilDataPdpType.none

def rilDataCallResponseToIRilDataCallInfo {initial : DataCallInfo} (irilCall : Store initial)
    (rilCall : RilDataCallResponse) : Except Fault (Store initial) := do
  let irilCall := irilCall.write DataCallInfo.failureCauseField
    (rilDataCallFailCauseToUrilDataFailCause rilCall.status)
  let irilCall := irilCall.write DataCallInfo.suggestedRetryTimeField
    rilCall.suggestedRetryTime.toUInt16
  let irilCall := irilCall.write DataCallInfo.cidField rilCall.cid.toUInt8
  let irilCall := irilCall.write DataCallInfo.phyLinkStateField (← physLinkStateOf rilCall.active)
  let irilCall := irilCall.write DataCallInfo.pdpTypeField (← pdpTypeOf rilCall.type)
  let irilCall ←
    match rilCall.ifname with
    | .null => pure (irilCall.writeChars DataCallInfo.interfaceNameField [0] (by decide))
    | ifname => do
        let ifname ← ifname.string
        pure (irilCall.snprintf DataCallInfo.interfaceNameField ifname.chars)
  let irilCall := irilCall.write DataCallInfo.pdpAddrsLenField 0
  let irilCall ←
    match rilCall.addresses with
    | .null => pure irilCall
    | addresses => do parseAddresses urilDataMaxAddrCount irilCall (← addresses.string)
  let (gtwy, _) ← rilIpAddrToUrilDataAddr (irilCall.view DataCallInfo.gtwyAddrField)
    rilCall.gateways
  let irilCall := irilCall.put DataCallInfo.gtwyAddrField gtwy
  let (dnsp, next) ← rilIpAddrToUrilDataAddr (irilCall.view DataCallInfo.dnspAddrField)
    rilCall.dnses
  let irilCall := irilCall.put DataCallInfo.dnspAddrField dnsp
  let irilCall ←
    match next with
    | none => pure irilCall
    | some next => do
        let (dnss, _) ← rilIpAddrToUrilDataAddr (irilCall.view DataCallInfo.dnssAddrField)
          (.to next)
        pure (irilCall.put DataCallInfo.dnssAddrField dnss)
  let (pcscf, _) ← rilIpAddrToUrilDataAddr (irilCall.view DataCallInfo.pcscfAddrField)
    rilCall.pcscf
  let irilCall := irilCall.put DataCallInfo.pcscfAddrField pcscf
  return irilCall.write DataCallInfo.mtuField rilCall.mtu.toUInt16

/-- The `switch` of `rilNwRegToUrilNwReg` on the registration state. The deny
reason is a local variable without initialiser, so where the text does not
parse its value is the one that the stack happens to hold. -/
def writeRegState {initial : RegistrationInfo} (regInfo : Store initial) (regState : UInt32)
    (denyreason : CharPtr) (uninitialised : UInt32) : Except Fault (Store initial) :=
  let service := if regState < 10 then UrilNwService.none else UrilNwService.limited
  if regState ∈ [0, 10, 2, 12, 4, 14] then
    let regInfo := regInfo.write RegistrationInfo.roamingField UrilNwRoamingState.off
    let regInfo := regInfo.write RegistrationInfo.registrationStateField service
    .ok (regInfo.write RegistrationInfo.deniedField 0)
  else if regState ∈ [3, 13] then do
    let regInfo := regInfo.write RegistrationInfo.roamingField UrilNwRoamingState.off
    let regInfo := regInfo.write RegistrationInfo.registrationStateField service
    let regInfo := regInfo.write RegistrationInfo.deniedField 1
    let denyReason :=
      match ← rilStrToInt denyreason with
      | some _ => UrilNwDenyReason.general
      | none => uninitialised
    return regInfo.write RegistrationInfo.denyReasonField denyReason
  else if regState ∈ [1, 5] then
    let regInfo := regInfo.write RegistrationInfo.roamingField
      (if regState = 1 then UrilNwRoamingState.off else UrilNwRoamingState.on)
    let regInfo := regInfo.write RegistrationInfo.registrationStateField UrilNwService.full
    .ok (regInfo.write RegistrationInfo.deniedField 0)
  else .error .assertion

def rilNwRegToUrilNwReg {initial : RegistrationInfo} (regInfo : Store initial)
    (regstate radiotech denyreason : CharPtr) (uninitialised : UInt32) :
    Except Fault (Store initial × Bool) := do
  match ← rilStrToInt regstate with
  | none => return (regInfo, false)
  | some regState =>
      match ← rilStrToInt radiotech with
      | none => return (regInfo, false)
      | some radioTech =>
          let regInfo := regInfo.write RegistrationInfo.techDomainField UrilNwTech.none
          let regInfo ← writeRegState regInfo regState denyreason uninitialised
          let rat ← rilRatToUrilRat radioTech
          return (regInfo.write RegistrationInfo.ratField rat, true)

/-- A number that is -1 unless the text denotes another one. -/
def rilStrToIntOrMinusOne (rilStr : CharPtr) : Except Fault UInt32 := do
  return (← rilStrToInt rilStr).getD (-1)

def rilCellToUrilCellVoice {initial : GetRegistrationStatusResp} (regStatus : Store initial)
    (rilRadiotech rilLac rilCid rilPsc : CharPtr) : Except Fault (Store initial) := do
  match ← rilStrToInt rilRadiotech with
  | none => return regStatus
  | some rat =>
      let lac ← rilStrToIntOrMinusOne rilLac
      let cid ← rilStrToIntOrMinusOne rilCid
      let psc ← rilStrToIntOrMinusOne rilPsc
      if rat ∈ [RadioTech.gprs, RadioTech.edge, RadioTech.gsm] then
        let cell := GetRegistrationStatusResp.nwCellIdentityGsmField
        let regStatus := regStatus.write GetRegistrationStatusResp.nwCellIdentityGsmFollowsField 1
        let regStatus := regStatus.write (cell.trans CellIdentityGsm.lacField) lac.toUInt16
        return regStatus.write (cell.trans CellIdentityGsm.cidField) cid
      else if rat ∈ [RadioTech.umts, RadioTech.hsdpa, RadioTech.hsupa, RadioTech.hspa,
          RadioTech.hspap] then
        let cell := GetRegistrationStatusResp.nwCellIdentityWcdmaField
        let regStatus :=
          regStatus.write GetRegistrationStatusResp.nwCellIdentityWcdmaFollowsField 1
        let regStatus := regStatus.write (cell.trans CellIdentityWcdma.lacField) lac.toUInt16
        let regStatus := regStatus.write (cell.trans CellIdentityWcdma.cidField) cid
        return regStatus.write (cell.trans CellIdentityWcdma.pscField) psc.toUInt16
      else if rat = RadioTech.tdScdma then
        let cell := GetRegistrationStatusResp.nwCellIdentityTdscdmaField
        let regStatus :=
          regStatus.write GetRegistrationStatusResp.nwCellIdentityTdscdmaFollowsField 1
        let regStatus := regStatus.write (cell.trans CellIdentityTdscdma.lacField) lac.toUInt16
        return regStatus.write (cell.trans CellIdentityTdscdma.cidField) cid
      else return regStatus

def rilCellToUrilCellData {initial : GetRegistrationStatusResp} (regStatus : Store initial)
    (rilRadiotech rilLtetac rilLtecid rilLteeci : CharPtr) : Except Fault (Store initial) := do
  match ← rilStrToInt rilRadiotech with
  | none => return regStatus
  | some rat =>
      let tac ← rilStrToIntOrMinusOne rilLtetac
      let cid ← rilStrToIntOrMinusOne rilLtecid
      let eci ← rilStrToIntOrMinusOne rilLteeci
      if rat = RadioTech.lte then
        let cell := GetRegistrationStatusResp.nwCellIdentityLteField
        let regStatus := regStatus.write GetRegistrationStatusResp.nwCellIdentityLteFollowsField 1
        let regStatus := regStatus.write (cell.trans CellIdentityLte.tacField) tac.toUInt16
        let regStatus := regStatus.write (cell.trans CellIdentityLte.ciField) eci
        return regStatus.write (cell.trans CellIdentityLte.pciField) cid.toUInt16
      else return regStatus

/-- The string that `numeric + 3` points to. It is read, so it must not lie
beyond the terminator. -/
def afterMcc (numeric : CString) : Except Fault CString :=
  if 3 ≤ numeric.chars.length then .ok (numeric.drop 3) else .error .badRead

theorem mccDigits_le : 3 ≤ 4 := by decide

def rilOperatorNameToUrilOperatorName {initial : OperatorName} (operatorName : Store initial)
    (rilLongName rilShortName rilMncmcc : CharPtr) : Except Fault (Store initial × Bool) := do
  if rilLongName ≠ .null ∧ rilShortName ≠ .null ∧ rilMncmcc ≠ .null then
    let long ← rilLongName.string
    let operatorName := operatorName.snprintf OperatorName.longEonsField long.chars
    let short ← rilShortName.string
    let operatorName := operatorName.snprintf OperatorName.shortEonsField short.chars
    let numeric ← rilMncmcc.string
    let operatorName := operatorName.strncpy OperatorName.mccField numeric.chars 3 mccDigits_le
    let mnc ← afterMcc numeric
    return (operatorName.strncpy OperatorName.mncField mnc.chars 3 mccDigits_le, true)
  else return (operatorName, false)

/-- The error of `rilErrnoToUrilResponse` for a failed request. -/
def urilErrorOf : RilErrno → UInt32
  | .success => UrilError.success
  | .radioNotAvailable => UrilError.radioNotAvailable
  | .passwordIncorrect => UrilError.passwordIncorrect
  | .simPin2 => UrilError.simPin2
  | .simPuk2 => UrilError.simPuk2
  | .requestNotSupported => UrilError.requestNotSupported
  | .cancelled => UrilError.cancelled
  | .opNotAllowedDuringVoiceCall => UrilError.opNotAllowedDuringVoiceCall
  | .opNotAllowedBeforeRegToNw => UrilError.opNotAllowedBeforeRegToNw
  | .smsSendFailRetry => UrilError.smsSendFailRetry
  | .simAbsent => UrilError.simAbsent
  | .subscriptionNotAvailable => UrilError.subscriptionNotAvailable
  | .modeNotSupported => UrilError.modeNotSupported
  | .fdnCheckFailure => UrilError.fdnCheckFailure
  | .illegalSimOrMe => UrilError.illegalSimOrMe
  | .missingResource => UrilError.missingResource
  | .noSuchElement => UrilError.noSuchElement
  | .dialModifiedToUssd => UrilError.dialModifiedToUssd
  | .dialModifiedToSs => UrilError.dialModifiedToSs
  | .dialModifiedToDial => UrilError.dialModifiedToDial
  | .ussdModifiedToDial => UrilError.ussdModifiedToDial
  | .ussdModifiedToSs => UrilError.ussdModifiedToSs
  | .ussdModifiedToUssd => UrilError.ussdModifiedToUssd
  | .ssModifiedToDial => UrilError.ssModifiedToDial
  | .ssModifiedToUssd => UrilError.ssModifiedToUssd
  | .subscriptionNotSupported => UrilError.subscriptionNotSupported
  | .ssModifiedToSs => UrilError.ssModifiedToSs
  | .other _ => UrilError.genericFailure

def rilErrnoToUrilResponse {initial : UrilResponse} (e : RilErrno) (rsp : Store initial) :
    Store initial :=
  let rsp := rsp.write UrilResponse.resultField
    (if e = .success then UrilResult.success else UrilResult.failure)
  rsp.write UrilResponse.errorField (urilErrorOf e)

end UnifiedRil.RilConversion

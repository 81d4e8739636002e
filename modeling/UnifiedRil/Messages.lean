import UnifiedRil.Library.Layout

/-!
The bodies of requests and responses (`inc/uril_common_v01.h`,
`inc/uril_nw_v01.h`, `inc/uril_data_v01.h`, `inc/uril_radio_v01.h`). All of
them are packed. An enumeration is 32 bits wide, and what a payload holds for
it need not be one of its constants.
-/

namespace UnifiedRil.Messages

open UnifiedRil.Library.Layout

/-- `URIL_NW_SCAN_MAX_ENTRY_COUNT_V01` -/
abbrev urilNwScanMaxEntryCount : Nat := 32

/-- `URIL_DATA_MAX_ADDR_LEN_V01` -/
abbrev urilDataMaxAddrLen : Nat := 256

/-- `URIL_DATA_MAX_ADDR_COUNT_V01` -/
abbrev urilDataMaxAddrCount : Nat := 4

/-- `URIL_DATA_MAX_CALLS_COUNT_V01` -/
abbrev urilDataMaxCallsCount : Nat := 6

namespace UrilResult

abbrev success : UInt32 := 0
abbrev failure : UInt32 := 1

end UrilResult

namespace UrilError

abbrev success : UInt32 := 0
abbrev radioNotAvailable : UInt32 := 1
abbrev genericFailure : UInt32 := 2
abbrev passwordIncorrect : UInt32 := 3
abbrev simPin2 : UInt32 := 4
abbrev simPuk2 : UInt32 := 5
abbrev requestNotSupported : UInt32 := 6
abbrev cancelled : UInt32 := 7
abbrev opNotAllowedDuringVoiceCall : UInt32 := 8
abbrev opNotAllowedBeforeRegToNw : UInt32 := 9
abbrev smsSendFailRetry : UInt32 := 10
abbrev simAbsent : UInt32 := 11
abbrev subscriptionNotAvailable : UInt32 := 12
abbrev modeNotSupported : UInt32 := 13
abbrev fdnCheckFailure : UInt32 := 14
abbrev illegalSimOrMe : UInt32 := 15
abbrev missingResource : UInt32 := 16
abbrev noSuchElement : UInt32 := 17
abbrev dialModifiedToUssd : UInt32 := 18
abbrev dialModifiedToSs : UInt32 := 19
abbrev dialModifiedToDial : UInt32 := 20
abbrev ussdModifiedToDial : UInt32 := 21
abbrev ussdModifiedToSs : UInt32 := 22
abbrev ussdModifiedToUssd : UInt32 := 23
abbrev ssModifiedToDial : UInt32 := 24
abbrev ssModifiedToUssd : UInt32 := 25
abbrev subscriptionNotSupported : UInt32 := 26
abbrev ssModifiedToSs : UInt32 := 27

end UrilError

namespace UrilNwService

abbrev none : UInt32 := 0
abbrev limited : UInt32 := 1
abbrev full : UInt32 := 2

end UrilNwService

namespace UrilNwSelection

abbrev automatic : UInt32 := 0
abbrev manual : UInt32 := 1

end UrilNwSelection

namespace UrilNwNetworkStatus

abbrev none : UInt32 := 0
abbrev currentServing : UInt32 := 1
abbrev available : UInt32 := 2
abbrev forbidden : UInt32 := 3

end UrilNwNetworkStatus

namespace UrilNwRat

abbrev none : UInt32 := 0
abbrev tdScdma : UInt32 := 1
abbrev gsm : UInt32 := 2
abbrev hspap : UInt32 := 3
abbrev lte : UInt32 := 4
abbrev ehrpd : UInt32 := 5
abbrev evdoB : UInt32 := 6
abbrev hspa : UInt32 := 7
abbrev hsupa : UInt32 := 8
abbrev hsdpa : UInt32 := 9
abbrev evdoA : UInt32 := 10
abbrev evdo0 : UInt32 := 11
abbrev oneXRtt : UInt32 := 12
abbrev is95b : UInt32 := 13
abbrev is95a : UInt32 := 14
abbrev umts : UInt32 := 15
abbrev edge : UInt32 := 16
abbrev gprs : UInt32 := 17
abbrev iwlan : UInt32 := 18

end UrilNwRat

namespace UrilNwPrefType

abbrev gsmWcdma : UInt32 := 0
abbrev gsmOnly : UInt32 := 1
abbrev wcdma : UInt32 := 2
abbrev gsmWcdmaAuto : UInt32 := 3
abbrev cdmaEvdoAuto : UInt32 := 4
abbrev cdmaOnly : UInt32 := 5
abbrev evdoOnly : UInt32 := 6
abbrev gsmWcdmaCdmaEvdoAuto : UInt32 := 7
abbrev lteCdmaEvdo : UInt32 := 8
abbrev lteGsmWcdma : UInt32 := 9
abbrev lteCmdaEvdoGsmWcdma : UInt32 := 10
abbrev lteOnly : UInt32 := 11
abbrev lteWcdma : UInt32 := 12

end UrilNwPrefType

namespace UrilNwRoamingState

abbrev off : UInt32 := 0
abbrev on : UInt32 := 1

end UrilNwRoamingState

namespace UrilNwTech

abbrev none : UInt32 := 0

end UrilNwTech

namespace UrilNwDenyReason

abbrev general : UInt32 := 0

end UrilNwDenyReason

namespace UrilDataPdpType

abbrev none : UInt32 := 0
abbrev ip : UInt32 := 1
abbrev ipv6 : UInt32 := 2
abbrev ipv4v6 : UInt32 := 3
abbrev ppp : UInt32 := 4

end UrilDataPdpType

namespace UrilDataAuthType

abbrev none : UInt32 := 0
abbrev pap : UInt32 := 1
abbrev chap : UInt32 := 2
abbrev papchap : UInt32 := 3

end UrilDataAuthType

namespace UrilDataBearerTech

abbrev unknown : UInt32 := 0x00
abbrev cdma1x : UInt32 := 0x01
abbrev evdoRev0 : UInt32 := 0x02
abbrev evdoRevA : UInt32 := 0x03
abbrev evdoRevB : UInt32 := 0x04
abbrev ehrpd : UInt32 := 0x05
abbrev fmc : UInt32 := 0x06
abbrev hrpd : UInt32 := 0x07
abbrev wlan3gpp2 : UInt32 := 0x08
abbrev wcdma : UInt32 := 0x09
abbrev gprs : UInt32 := 0x0a
abbrev hsdpa : UInt32 := 0x0b
abbrev hsupa : UInt32 := 0x0c
abbrev edge : UInt32 := 0x0d
abbrev lte : UInt32 := 0x0e
abbrev hsdpaPlus : UInt32 := 0x0f
abbrev dcHsdpaPlus : UInt32 := 0x10
abbrev hspa : UInt32 := 0x11
abbrev qam64 : UInt32 := 0x12
abbrev tdscdma : UInt32 := 0x13
abbrev gsm : UInt32 := 0x14
abbrev wlan3gpp : UInt32 := 0x15

end UrilDataBearerTech

namespace UrilDataFailCause

abbrev none : UInt32 := 0
abbrev operatorBarred : UInt32 := 0x08
abbrev insufficientResources : UInt32 := 0x1a
abbrev missingUknownApn : UInt32 := 0x1b
abbrev unknownPdpAddressType : UInt32 := 0x1c
abbrev userAuthentication : UInt32 := 0x1d
abbrev activationRejectGgsn : UInt32 := 0x1e
abbrev activationRejectUnspecified : UInt32 := 0x1f
abbrev serviceOptionNotSupported : UInt32 := 0x20
abbrev serviceOptionNotSubscribed : UInt32 := 0x21
abbrev serviceOptionOutOfOrder : UInt32 := 0x22
abbrev nsapiInUse : UInt32 := 0x23
abbrev regularDeactivation : UInt32 := 0x24
abbrev onlyIpv4Allowed : UInt32 := 0x32
abbrev onlyIpv6Allowed : UInt32 := 0x33
abbrev onlySingleBearerAllowed : UInt32 := 0x34
abbrev protocolErrors : UInt32 := 0x6f
abbrev voiceRegistrationFail : UInt32 := -1
abbrev dataRegistrationFail : UInt32 := -2
abbrev signalLost : UInt32 := -3
abbrev prefRadioTechChanged : UInt32 := -4
abbrev radioPowerOff : UInt32 := -5
abbrev tetheredCallActive : UInt32 := -6
abbrev errorUnspecified : UInt32 := 0xffff

end UrilDataFailCause

namespace UrilDataPhysLinkState

abbrev inactive : UInt32 := 0
abbrev activeDown : UInt32 := 1
abbrev activeUp : UInt32 := 2

end UrilDataPhysLinkState

namespace UrilDataEndReason

abbrev none : UInt32 := 0
abbrev radioOff : UInt32 := 1

end UrilDataEndReason

namespace UrilRadioMode

abbrev offline : UInt32 := 1
abbrev online : UInt32 := 2
abbrev unavailable : UInt32 := 3

end UrilRadioMode

-- A request and its response have the same id.
namespace MsgId

abbrev radioGetRadioMode : UInt32 := 0x0101
abbrev radioSetRadioMode : UInt32 := 0x0102
abbrev nwSetPref : UInt32 := 0x0500
abbrev nwGetPref : UInt32 := 0x0501
abbrev nwGetRegistrationStatus : UInt32 := 0x0502
abbrev nwScan : UInt32 := 0x0503
abbrev nwSetScreen : UInt32 := 0x0504
abbrev nwSelection : UInt32 := 0x0505
abbrev nwGetSignalStrength : UInt32 := 0x0506
abbrev nwGetCellAccessState : UInt32 := 0x0507
abbrev dataSetDataProfiles : UInt32 := 0x0600
abbrev dataSetupDataCall : UInt32 := 0x0601
abbrev dataDeactivateDataCall : UInt32 := 0x0602
abbrev dataGetDataCallList : UInt32 := 0x0603
abbrev dataSetInitialAttachParams : UInt32 := 0x0604
abbrev radioModeChangedEvent : UInt32 := 0x0120
abbrev nwRegistrationEvent : UInt32 := 0x0520
abbrev nwSignalStrengthEvent : UInt32 := 0x0521
abbrev dataCallListChangedEvent : UInt32 := 0x0620

end MsgId

/-- `uril_response_t_v01` -/
structure UrilResponse where
  result : UInt32
  error : UInt32
  deriving DecidableEq

namespace UrilResponse

def layout : UrilResponse ≃ UInt32 × UInt32 where
  toFun s := (s.result, s.error)
  invFun := fun (a, b) => ⟨a, b⟩
  left_inv _ := rfl
  right_inv _ := rfl

instance : Packed UrilResponse := .ofEquiv layout

def fields : Field UrilResponse (UInt32 × UInt32) :=
  .ofEquiv layout (fun _ => rfl) rfl

def resultField : Field UrilResponse UInt32 := fields.fst

def errorField : Field UrilResponse UInt32 := fields.snd

end UrilResponse

/-- The responses that consist of a `uril_response_t_v01` only. -/
structure ResponseMsg where
  response : UrilResponse
  deriving DecidableEq

namespace ResponseMsg

def layout : ResponseMsg ≃ UrilResponse :=
  ⟨fun s => s.response, fun a => ⟨a⟩, fun _ => rfl, fun _ => rfl⟩

instance : Packed ResponseMsg := .ofEquiv layout

def fields : Field ResponseMsg UrilResponse := .ofEquiv layout (fun _ => rfl) rfl

def responseField : Field ResponseMsg UrilResponse := fields

end ResponseMsg

/-- `uril_nw_get_pref_resp_msg_v01` -/
structure GetPrefResp where
  response : UrilResponse
  preferredNwModeFollows : UInt8
  preferredNwMode : UInt32
  deriving DecidableEq

namespace GetPrefResp

def layout : GetPrefResp ≃ UrilResponse × UInt8 × UInt32 where
  toFun s := (s.response, s.preferredNwModeFollows, s.preferredNwMode)
  invFun := fun (a, b, c) => ⟨a, b, c⟩
  left_inv _ := rfl
  right_inv _ := rfl

instance : Packed GetPrefResp := .ofEquiv layout

def fields : Field GetPrefResp (UrilResponse × UInt8 × UInt32) :=
  .ofEquiv layout (fun _ => rfl) rfl

def responseField : Field GetPrefResp UrilResponse := fields.fst

def preferredNwModeFollowsField : Field GetPrefResp UInt8 := fields.snd.fst

def preferredNwModeField : Field GetPrefResp UInt32 := fields.snd.snd

end GetPrefResp

/-- `uril_nw_registration_info_t_v01` -/
structure RegistrationInfo where
  techDomain : UInt32
  rat : UInt32
  roaming : UInt32
  denied : UInt8
  denyReason : UInt32
  registrationState : UInt32
  deriving DecidableEq

namespace RegistrationInfo

def layout : RegistrationInfo ≃ UInt32 × UInt32 × UInt32 × UInt8 × UInt32 × UInt32 where
  toFun s := (s.techDomain, s.rat, s.roaming, s.denied, s.denyReason, s.registrationState)
  invFun := fun (a, b, c, d, e, f) => ⟨a, b, c, d, e, f⟩
  left_inv _ := rfl
  right_inv _ := rfl

instance : Packed RegistrationInfo := .ofEquiv layout

def fields : Field RegistrationInfo (UInt32 × UInt32 × UInt32 × UInt8 × UInt32 × UInt32) :=
  .ofEquiv layout (fun _ => rfl) rfl

def techDomainField : Field RegistrationInfo UInt32 := fields.fst

def ratField : Field RegistrationInfo UInt32 := fields.snd.fst

def roamingField : Field RegistrationInfo UInt32 := fields.snd.snd.fst

def deniedField : Field RegistrationInfo UInt8 := fields.snd.snd.snd.fst

def denyReasonField : Field RegistrationInfo UInt32 := fields.snd.snd.snd.snd.fst

def registrationStateField : Field RegistrationInfo UInt32 := fields.snd.snd.snd.snd.snd

end RegistrationInfo

/-- `uril_cell_identity_gsm_t_v01` -/
structure CellIdentityGsm where
  mcc : Vector UInt8 4
  mnc : Vector UInt8 4
  lac : UInt16
  cid : UInt32
  deriving DecidableEq

namespace CellIdentityGsm

def layout : CellIdentityGsm ≃ (Vector UInt8 4) × (Vector UInt8 4) × UInt16 × UInt32 where
  toFun s := (s.mcc, s.mnc, s.lac, s.cid)
  invFun := fun (a, b, c, d) => ⟨a, b, c, d⟩
  left_inv _ := rfl
  right_inv _ := rfl

instance : Packed CellIdentityGsm := .ofEquiv layout

def fields : Field CellIdentityGsm ((Vector UInt8 4) × (Vector UInt8 4) × UInt16 × UInt32) :=
  .ofEquiv layout (fun _ => rfl) rfl

def mccField : Field CellIdentityGsm (Vector UInt8 4) := fields.fst

def mncField : Field CellIdentityGsm (Vector UInt8 4) := fields.snd.fst

def lacField : Field CellIdentityGsm UInt16 := fields.snd.snd.fst

def cidField : Field CellIdentityGsm UInt32 := fields.snd.snd.snd

end CellIdentityGsm

/-- `uril_cell_identity_lte_t_v01` -/
structure CellIdentityLte where
  mcc : Vector UInt8 4
  mnc : Vector UInt8 4
  ci : UInt32
  pci : UInt16
  tac : UInt16
  deriving DecidableEq

namespace CellIdentityLte

def layout : CellIdentityLte ≃ (Vector UInt8 4) × (Vector UInt8 4) × UInt32 × UInt16 × UInt16 where
  toFun s := (s.mcc, s.mnc, s.ci, s.pci, s.tac)
  invFun := fun (a, b, c, d, e) => ⟨a, b, c, d, e⟩
  left_inv _ := rfl
  right_inv _ := rfl

instance : Packed CellIdentityLte := .ofEquiv layout

def fields : Field CellIdentityLte ((Vector UInt8 4) × (Vector UInt8 4) × UInt32 × UInt16 ×
    UInt16) :=
  .ofEquiv layout (fun _ => rfl) rfl

def mccField : Field CellIdentityLte (Vector UInt8 4) := fields.fst

def mncField : Field CellIdentityLte (Vector UInt8 4) := fields.snd.fst

def ciField : Field CellIdentityLte UInt32 := fields.snd.snd.fst

def pciField : Field CellIdentityLte UInt16 := fields.snd.snd.snd.fst

def tacField : Field CellIdentityLte UInt16 := fields.snd.snd.snd.snd

end CellIdentityLte

/-- `uril_cell_identity_wcdma_t_v01` -/
structure CellIdentityWcdma where
  mcc : Vector UInt8 4
  mnc : Vector UInt8 4
  lac : UInt16
  cid : UInt32
  psc : UInt16
  deriving DecidableEq

namespace CellIdentityWcdma

def layout : CellIdentityWcdma ≃ (Vector UInt8 4) × (Vector UInt8 4) × UInt16 × UInt32 × UInt16 where
  toFun s := (s.mcc, s.mnc, s.lac, s.cid, s.psc)
  invFun := fun (a, b, c, d, e) => ⟨a, b, c, d, e⟩
  left_inv _ := rfl
  right_inv _ := rfl

instance : Packed CellIdentityWcdma := .ofEquiv layout

def fields : Field CellIdentityWcdma ((Vector UInt8 4) × (Vector UInt8 4) × UInt16 × UInt32 ×
    UInt16) :=
  .ofEquiv layout (fun _ => rfl) rfl

def mccField : Field CellIdentityWcdma (Vector UInt8 4) := fields.fst

def mncField : Field CellIdentityWcdma (Vector UInt8 4) := fields.snd.fst

def lacField : Field CellIdentityWcdma UInt16 := fields.snd.snd.fst

def cidField : Field CellIdentityWcdma UInt32 := fields.snd.snd.snd.fst

def pscField : Field CellIdentityWcdma UInt16 := fields.snd.snd.snd.snd

end CellIdentityWcdma

/-- `uril_cell_identity_tdscdma_t_v01` -/
structure CellIdentityTdscdma where
  mcc : Vector UInt8 4
  mnc : Vector UInt8 4
  lac : UInt16
  cid : UInt32
  cpid : UInt8
  deriving DecidableEq

namespace CellIdentityTdscdma

def layout : CellIdentityTdscdma ≃ (Vector UInt8 4) × (Vector UInt8 4) × UInt16 × UInt32 × UInt8 where
  toFun s := (s.mcc, s.mnc, s.lac, s.cid, s.cpid)
  invFun := fun (a, b, c, d, e) => ⟨a, b, c, d, e⟩
  left_inv _ := rfl
  right_inv _ := rfl

instance : Packed CellIdentityTdscdma := .ofEquiv layout

def fields : Field CellIdentityTdscdma ((Vector UInt8 4) × (Vector UInt8 4) × UInt16 × UInt32 ×
    UInt8) :=
  .ofEquiv layout (fun _ => rfl) rfl

def mccField : Field CellIdentityTdscdma (Vector UInt8 4) := fields.fst

def mncField : Field CellIdentityTdscdma (Vector UInt8 4) := fields.snd.fst

def lacField : Field CellIdentityTdscdma UInt16 := fields.snd.snd.fst

def cidField : Field CellIdentityTdscdma UInt32 := fields.snd.snd.snd.fst

end CellIdentityTdscdma

/-- `uril_nw_get_registration_status_resp_msg_v01` -/
structure GetRegistrationStatusResp where
  response : UrilResponse
  nwCellIdentityGsmFollows : UInt8
  nwCellIdentityGsm : CellIdentityGsm
  nwCellIdentityLteFollows : UInt8
  nwCellIdentityLte : CellIdentityLte
  nwCellIdentityWcdmaFollows : UInt8
  nwCellIdentityWcdma : CellIdentityWcdma
  nwCellIdentityTdscdmaFollows : UInt8
  nwCellIdentityTdscdma : CellIdentityTdscdma
  voiceRegistrationFollows : UInt8
  voiceRegistration : RegistrationInfo
  dataRegistrationFollows : UInt8
  dataRegistration : RegistrationInfo
  deriving DecidableEq

namespace GetRegistrationStatusResp

def layout : GetRegistrationStatusResp ≃ UrilResponse × UInt8 × CellIdentityGsm × UInt8 ×
    CellIdentityLte × UInt8 × CellIdentityWcdma × UInt8 × CellIdentityTdscdma × UInt8 ×
    RegistrationInfo × UInt8 × RegistrationInfo where
  toFun s := (s.response, s.nwCellIdentityGsmFollows, s.nwCellIdentityGsm,
    s.nwCellIdentityLteFollows, s.nwCellIdentityLte, s.nwCellIdentityWcdmaFollows,
    s.nwCellIdentityWcdma, s.nwCellIdentityTdscdmaFollows, s.nwCellIdentityTdscdma,
    s.voiceRegistrationFollows, s.voiceRegistration, s.dataRegistrationFollows,
    s.dataRegistration)
  invFun := fun (a, b, c, d, e, f, g, h, i, j, k, l, m) => ⟨a, b, c, d, e, f, g, h, i, j, k, l, m⟩
  left_inv _ := rfl
  right_inv _ := rfl

instance : Packed GetRegistrationStatusResp := .ofEquiv layout

def fields : Field GetRegistrationStatusResp (UrilResponse × UInt8 × CellIdentityGsm × UInt8 ×
    CellIdentityLte × UInt8 × CellIdentityWcdma × UInt8 × CellIdentityTdscdma × UInt8 ×
    RegistrationInfo × UInt8 × RegistrationInfo) :=
  .ofEquiv layout (fun _ => rfl) rfl

def responseField : Field GetRegistrationStatusResp UrilResponse := fields.fst

def nwCellIdentityGsmFollowsField : Field GetRegistrationStatusResp UInt8 := fields.snd.fst

def nwCellIdentityGsmField : Field GetRegistrationStatusResp CellIdentityGsm := fields.snd.snd.fst

def nwCellIdentityLteFollowsField : Field GetRegistrationStatusResp UInt8 :=
  fields.snd.snd.snd.fst

def nwCellIdentityLteField : Field GetRegistrationStatusResp CellIdentityLte :=
  fields.snd.snd.snd.snd.fst

def nwCellIdentityWcdmaFollowsField : Field GetRegistrationStatusResp UInt8 :=
  fields.snd.snd.snd.snd.snd.fst

def nwCellIdentityWcdmaField : Field GetRegistrationStatusResp CellIdentityWcdma :=
  fields.snd.snd.snd.snd.snd.snd.fst

def nwCellIdentityTdscdmaFollowsField : Field GetRegistrationStatusResp UInt8 :=
  fields.snd.snd.snd.snd.snd.snd.snd.fst

def nwCellIdentityTdscdmaField : Field GetRegistrationStatusResp CellIdentityTdscdma :=
  fields.snd.snd.snd.snd.snd.snd.snd.snd.fst

def voiceRegistrationFollowsField : Field GetRegistrationStatusResp UInt8 :=
  fields.snd.snd.snd.snd.snd.snd.snd.snd.snd.fst

def voiceRegistrationField : Field GetRegistrationStatusResp RegistrationInfo :=
  fields.snd.snd.snd.snd.snd.snd.snd.snd.snd.snd.fst

def dataRegistrationFollowsField : Field GetRegistrationStatusResp UInt8 :=
  fields.snd.snd.snd.snd.snd.snd.snd.snd.snd.snd.snd.fst

def dataRegistrationField : Field GetRegistrationStatusResp RegistrationInfo :=
  fields.snd.snd.snd.snd.snd.snd.snd.snd.snd.snd.snd.snd

end GetRegistrationStatusResp

/-- `uril_nw_operator_name_t_v01` -/
structure OperatorName where
  longEons : Vector UInt8 513
  shortEons : Vector UInt8 513
  mcc : Vector UInt8 4
  mnc : Vector UInt8 4
  deriving DecidableEq

namespace OperatorName

def layout : OperatorName ≃ (Vector UInt8 513) × (Vector UInt8 513) × (Vector UInt8 4) ×
    (Vector UInt8 4) where
  toFun s := (s.longEons, s.shortEons, s.mcc, s.mnc)
  invFun := fun (a, b, c, d) => ⟨a, b, c, d⟩
  left_inv _ := rfl
  right_inv _ := rfl

instance : Packed OperatorName := .ofEquiv layout

def fields : Field OperatorName ((Vector UInt8 513) × (Vector UInt8 513) × (Vector UInt8 4) ×
    (Vector UInt8 4)) :=
  .ofEquiv layout (fun _ => rfl) rfl

def longEonsField : Field OperatorName (Vector UInt8 513) := fields.fst

def shortEonsField : Field OperatorName (Vector UInt8 513) := fields.snd.fst

def mccField : Field OperatorName (Vector UInt8 4) := fields.snd.snd.fst

def mncField : Field OperatorName (Vector UInt8 4) := fields.snd.snd.snd

end OperatorName

/-- `uril_nw_scan_entry_t_v01` -/
structure ScanEntry where
  operatorName : OperatorName
  networkStatus : UInt32
  rat : UInt32
  deriving DecidableEq

namespace ScanEntry

def layout : ScanEntry ≃ OperatorName × UInt32 × UInt32 where
  toFun s := (s.operatorName, s.networkStatus, s.rat)
  invFun := fun (a, b, c) => ⟨a, b, c⟩
  left_inv _ := rfl
  right_inv _ := rfl

instance : Packed ScanEntry := .ofEquiv layout

def fields : Field ScanEntry (OperatorName × UInt32 × UInt32) :=
  .ofEquiv layout (fun _ => rfl) rfl

def operatorNameField : Field ScanEntry OperatorName := fields.fst

def networkStatusField : Field ScanEntry UInt32 := fields.snd.fst

end ScanEntry

/-- `uril_nw_scan_resp_msg_v01` -/
structure ScanResp where
  response : UrilResponse
  entriesFollows : UInt8
  entriesLen : UInt32
  entries : Vector ScanEntry urilNwScanMaxEntryCount
  deriving DecidableEq

namespace ScanResp

def layout : ScanResp ≃ UrilResponse × UInt8 × UInt32 ×
    (Vector ScanEntry urilNwScanMaxEntryCount) where
  toFun s := (s.response, s.entriesFollows, s.entriesLen, s.entries)
  invFun := fun (a, b, c, d) => ⟨a, b, c, d⟩
  left_inv _ := rfl
  right_inv _ := rfl

instance : Packed ScanResp := .ofEquiv layout

def fields : Field ScanResp (UrilResponse × UInt8 × UInt32 ×
    (Vector ScanEntry urilNwScanMaxEntryCount)) :=
  .ofEquiv layout (fun _ => rfl) rfl

def responseField : Field ScanResp UrilResponse := fields.fst

def entriesFollowsField : Field ScanResp UInt8 := fields.snd.fst

def entriesLenField : Field ScanResp UInt32 := fields.snd.snd.fst

def entriesField : Field ScanResp (Vector ScanEntry urilNwScanMaxEntryCount) := fields.snd.snd.snd

end ScanResp

/-- `uril_nw_gsm_signal_strength_t_v01` -/
structure GsmSignalStrength where
  rssi : Int8
  deriving DecidableEq

namespace GsmSignalStrength

def layout : GsmSignalStrength ≃ Int8 :=
  ⟨fun s => s.rssi, fun a => ⟨a⟩, fun _ => rfl, fun _ => rfl⟩

instance : Packed GsmSignalStrength := .ofEquiv layout

def fields : Field GsmSignalStrength Int8 := .ofEquiv layout (fun _ => rfl) rfl

def rssiField : Field GsmSignalStrength Int8 := fields

end GsmSignalStrength

/-- `uril_nw_wcdma_signal_strength_t_v01` -/
structure WcdmaSignalStrength where
  rssi : Int8
  ecio : Int16
  deriving DecidableEq

namespace WcdmaSignalStrength

def layout : WcdmaSignalStrength ≃ Int8 × Int16 where
  toFun s := (s.rssi, s.ecio)
  invFun := fun (a, b) => ⟨a, b⟩
  left_inv _ := rfl
  right_inv _ := rfl

instance : Packed WcdmaSignalStrength := .ofEquiv layout

end WcdmaSignalStrength

/-- `uril_nw_tdscdma_signal_strength_t_v01` -/
structure TdscdmaSignalStrength where
  rssi : Int8
  rscp : Int8
  ecio : Int16
  sinr : Int8
  deriving DecidableEq

namespace TdscdmaSignalStrength

def layout : TdscdmaSignalStrength ≃ Int8 × Int8 × Int16 × Int8 where
  toFun s := (s.rssi, s.rscp, s.ecio, s.sinr)
  invFun := fun (a, b, c, d) => ⟨a, b, c, d⟩
  left_inv _ := rfl
  right_inv _ := rfl

instance : Packed TdscdmaSignalStrength := .ofEquiv layout

def fields : Field TdscdmaSignalStrength (Int8 × Int8 × Int16 × Int8) :=
  .ofEquiv layout (fun _ => rfl) rfl

def rscpField : Field TdscdmaSignalStrength Int8 := fields.snd.fst

end TdscdmaSignalStrength

/-- `uril_nw_lte_signal_strength_t_v01` -/
structure LteSignalStrength where
  rssi : Int8
  rsrq : Int8
  rsrp : Int8
  snr : Int8
  deriving DecidableEq

namespace LteSignalStrength

def layout : LteSignalStrength ≃ Int8 × Int8 × Int8 × Int8 where
  toFun s := (s.rssi, s.rsrq, s.rsrp, s.snr)
  invFun := fun (a, b, c, d) => ⟨a, b, c, d⟩
  left_inv _ := rfl
  right_inv _ := rfl

instance : Packed LteSignalStrength := .ofEquiv layout

def fields : Field LteSignalStrength (Int8 × Int8 × Int8 × Int8) :=
  .ofEquiv layout (fun _ => rfl) rfl

def rssiField : Field LteSignalStrength Int8 := fields.fst

def rsrqField : Field LteSignalStrength Int8 := fields.snd.fst

def rsrpField : Field LteSignalStrength Int8 := fields.snd.snd.fst

def snrField : Field LteSignalStrength Int8 := fields.snd.snd.snd

end LteSignalStrength

/-- `uril_nw_get_signal_strength_resp_msg_v01` -/
structure GetSignalStrengthResp where
  response : UrilResponse
  gsmSignalStrengthFollows : UInt8
  gsmSignalStrength : GsmSignalStrength
  wcdmaSignalStrengthFollows : UInt8
  wcdmaSignalStrength : WcdmaSignalStrength
  tdscdmaSignalStrengthFollows : UInt8
  tdscdmaSignalStrength : TdscdmaSignalStrength
  lteSignalStrengthFollows : UInt8
  lteSignalStrength : LteSignalStrength
  deriving DecidableEq

namespace GetSignalStrengthResp

def layout : GetSignalStrengthResp ≃ UrilResponse × UInt8 × GsmSignalStrength × UInt8 ×
    WcdmaSignalStrength × UInt8 × TdscdmaSignalStrength × UInt8 × LteSignalStrength where
  toFun s := (s.response, s.gsmSignalStrengthFollows, s.gsmSignalStrength,
    s.wcdmaSignalStrengthFollows, s.wcdmaSignalStrength, s.tdscdmaSignalStrengthFollows,
    s.tdscdmaSignalStrength, s.lteSignalStrengthFollows, s.lteSignalStrength)
  invFun := fun (a, b, c, d, e, f, g, h, i) => ⟨a, b, c, d, e, f, g, h, i⟩
  left_inv _ := rfl
  right_inv _ := rfl

instance : Packed GetSignalStrengthResp := .ofEquiv layout

def fields : Field GetSignalStrengthResp (UrilResponse × UInt8 × GsmSignalStrength × UInt8 ×
    WcdmaSignalStrength × UInt8 × TdscdmaSignalStrength × UInt8 × LteSignalStrength) :=
  .ofEquiv layout (fun _ => rfl) rfl

def responseField : Field GetSignalStrengthResp UrilResponse := fields.fst

def gsmSignalStrengthFollowsField : Field GetSignalStrengthResp UInt8 := fields.snd.fst

def gsmSignalStrengthField : Field GetSignalStrengthResp GsmSignalStrength := fields.snd.snd.fst

def tdscdmaSignalStrengthFollowsField : Field GetSignalStrengthResp UInt8 :=
  fields.snd.snd.snd.snd.snd.fst

def tdscdmaSignalStrengthField : Field GetSignalStrengthResp TdscdmaSignalStrength :=
  fields.snd.snd.snd.snd.snd.snd.fst

def lteSignalStrengthFollowsField : Field GetSignalStrengthResp UInt8 :=
  fields.snd.snd.snd.snd.snd.snd.snd.fst

def lteSignalStrengthField : Field GetSignalStrengthResp LteSignalStrength :=
  fields.snd.snd.snd.snd.snd.snd.snd.snd

end GetSignalStrengthResp

/-- `uril_data_addr_t_v01` -/
structure DataAddr where
  addr : Vector UInt8 urilDataMaxAddrLen
  prefixLen : UInt32
  deriving DecidableEq

namespace DataAddr

def layout : DataAddr ≃ (Vector UInt8 urilDataMaxAddrLen) × UInt32 where
  toFun s := (s.addr, s.prefixLen)
  invFun := fun (a, b) => ⟨a, b⟩
  left_inv _ := rfl
  right_inv _ := rfl

instance : Packed DataAddr := .ofEquiv layout

def fields : Field DataAddr ((Vector UInt8 urilDataMaxAddrLen) × UInt32) :=
  .ofEquiv layout (fun _ => rfl) rfl

def addrField : Field DataAddr (Vector UInt8 urilDataMaxAddrLen) := fields.fst

def prefixLenField : Field DataAddr UInt32 := fields.snd

end DataAddr

/-- `uril_data_call_info_t_v01` -/
structure DataCallInfo where
  failureCause : UInt32
  suggestedRetryTime : UInt16
  cid : UInt8
  phyLinkState : UInt32
  pdpType : UInt32
  interfaceName : Vector UInt8 13
  pdpAddrsLen : UInt32
  pdpAddrs : Vector DataAddr urilDataMaxAddrCount
  gtwyAddr : DataAddr
  dnspAddr : DataAddr
  dnssAddr : DataAddr
  pcscfAddr : DataAddr
  mtu : UInt16
  deriving DecidableEq

namespace DataCallInfo

def layout : DataCallInfo ≃ UInt32 × UInt16 × UInt8 × UInt32 × UInt32 × (Vector UInt8 13) ×
    UInt32 × (Vector DataAddr urilDataMaxAddrCount) × DataAddr × DataAddr × DataAddr ×
    DataAddr × UInt16 where
  toFun s := (s.failureCause, s.suggestedRetryTime, s.cid, s.phyLinkState, s.pdpType,
    s.interfaceName, s.pdpAddrsLen, s.pdpAddrs, s.gtwyAddr, s.dnspAddr, s.dnssAddr, s.pcscfAddr,
    s.mtu)
  invFun := fun (a, b, c, d, e, f, g, h, i, j, k, l, m) => ⟨a, b, c, d, e, f, g, h, i, j, k, l, m⟩
  left_inv _ := rfl
  right_inv _ := rfl

instance : Packed DataCallInfo := .ofEquiv layout

def fields : Field DataCallInfo (UInt32 × UInt16 × UInt8 × UInt32 × UInt32 × (Vector UInt8 13) ×
    UInt32 × (Vector DataAddr urilDataMaxAddrCount) × DataAddr × DataAddr × DataAddr ×
    DataAddr × UInt16) :=
  .ofEquiv layout (fun _ => rfl) rfl

def failureCauseField : Field DataCallInfo UInt32 := fields.fst

def suggestedRetryTimeField : Field DataCallInfo UInt16 := fields.snd.fst

def cidField : Field DataCallInfo UInt8 := fields.snd.snd.fst

def phyLinkStateField : Field DataCallInfo UInt32 := fields.snd.snd.snd.fst

def pdpTypeField : Field DataCallInfo UInt32 := fields.snd.snd.snd.snd.fst

def interfaceNameField : Field DataCallInfo (Vector UInt8 13) := fields.snd.snd.snd.snd.snd.fst

def pdpAddrsLenField : Field DataCallInfo UInt32 := fields.snd.snd.snd.snd.snd.snd.fst

def pdpAddrsField : Field DataCallInfo (Vector DataAddr urilDataMaxAddrCount) :=
  fields.snd.snd.snd.snd.snd.snd.snd.fst

def gtwyAddrField : Field DataCallInfo DataAddr := fields.snd.snd.snd.snd.snd.snd.snd.snd.fst

def dnspAddrField : Field DataCallInfo DataAddr := fields.snd.snd.snd.snd.snd.snd.snd.snd.snd.fst

def dnssAddrField : Field DataCallInfo DataAddr :=
  fields.snd.snd.snd.snd.snd.snd.snd.snd.snd.snd.fst

def pcscfAddrField : Field DataCallInfo DataAddr :=
  fields.snd.snd.snd.snd.snd.snd.snd.snd.snd.snd.snd.fst

def mtuField : Field DataCallInfo UInt16 := fields.snd.snd.snd.snd.snd.snd.snd.snd.snd.snd.snd.snd

/-- What `&pdp_addrs[i]` points to. The element after the last one is where the
next field is. -/
def pdpAddrsSlot (i : Nat) : Field DataCallInfo DataAddr :=
  if h : i < urilDataMaxAddrCount then pdpAddrsField.trans (.elem ⟨i, h⟩) else gtwyAddrField

theorem pdpAddrsSlot_offset {i : Nat} (h : i ≤ urilDataMaxAddrCount) :
    (pdpAddrsSlot i).offset = pdpAddrsField.offset + i * sizeof DataAddr := by
  obtain hlt | rfl := h.lt_or_eq
  · rw [pdpAddrsSlot, dif_pos hlt]
    rfl
  · rfl

end DataCallInfo

/-- `uril_data_setup_data_call_resp_msg_v01` -/
structure SetupDataCallResp where
  response : UrilResponse
  dataCall : DataCallInfo
  deriving DecidableEq

namespace SetupDataCallResp

def layout : SetupDataCallResp ≃ UrilResponse × DataCallInfo where
  toFun s := (s.response, s.dataCall)
  invFun := fun (a, b) => ⟨a, b⟩
  left_inv _ := rfl
  right_inv _ := rfl

instance : Packed SetupDataCallResp := .ofEquiv layout

def fields : Field SetupDataCallResp (UrilResponse × DataCallInfo) :=
  .ofEquiv layout (fun _ => rfl) rfl

def responseField : Field SetupDataCallResp UrilResponse := fields.fst

def dataCallField : Field SetupDataCallResp DataCallInfo := fields.snd

end SetupDataCallResp

/-- `uril_data_get_data_call_list_resp_msg_v01` -/
structure GetDataCallListResp where
  response : UrilResponse
  dataCallsLen : UInt8
  dataCalls : Vector DataCallInfo urilDataMaxCallsCount
  deriving DecidableEq

namespace GetDataCallListResp

def layout : GetDataCallListResp ≃ UrilResponse × UInt8 ×
    (Vector DataCallInfo urilDataMaxCallsCount) where
  toFun s := (s.response, s.dataCallsLen, s.dataCalls)
  invFun := fun (a, b, c) => ⟨a, b, c⟩
  left_inv _ := rfl
  right_inv _ := rfl

instance : Packed GetDataCallListResp := .ofEquiv layout

def fields : Field GetDataCallListResp (UrilResponse × UInt8 ×
    (Vector DataCallInfo urilDataMaxCallsCount)) :=
  .ofEquiv layout (fun _ => rfl) rfl

def responseField : Field GetDataCallListResp UrilResponse := fields.fst

def dataCallsLenField : Field GetDataCallListResp UInt8 := fields.snd.fst

def dataCallsField : Field GetDataCallListResp (Vector DataCallInfo urilDataMaxCallsCount) :=
  fields.snd.snd

end GetDataCallListResp

/-- `uril_radio_get_radio_mode_resp_msg_v01` -/
structure GetRadioModeResp where
  response : UrilResponse
  radioModeFollows : UInt8
  radioMode : UInt32
  deriving DecidableEq

namespace GetRadioModeResp

def layout : GetRadioModeResp ≃ UrilResponse × UInt8 × UInt32 where
  toFun s := (s.response, s.radioModeFollows, s.radioMode)
  invFun := fun (a, b, c) => ⟨a, b, c⟩
  left_inv _ := rfl
  right_inv _ := rfl

instance : Packed GetRadioModeResp := .ofEquiv layout

def fields : Field GetRadioModeResp (UrilResponse × UInt8 × UInt32) :=
  .ofEquiv layout (fun _ => rfl) rfl

def responseField : Field GetRadioModeResp UrilResponse := fields.fst

def radioModeFollowsField : Field GetRadioModeResp UInt8 := fields.snd.fst

def radioModeField : Field GetRadioModeResp UInt32 := fields.snd.snd

end GetRadioModeResp

/-- `uril_nw_selection_req_msg_v01`, which holds a `uril_nw_selection_t_v01` -/
structure SelectionReq where
  nwSelectionType : UInt32
  mcc : Vector UInt8 4
  mnc : Vector UInt8 4
  deriving DecidableEq

namespace SelectionReq

def layout : SelectionReq ≃ UInt32 × (Vector UInt8 4) × (Vector UInt8 4) where
  toFun s := (s.nwSelectionType, s.mcc, s.mnc)
  invFun := fun (a, b, c) => ⟨a, b, c⟩
  left_inv _ := rfl
  right_inv _ := rfl

instance : Packed SelectionReq := .ofEquiv layout

def fields : Field SelectionReq (UInt32 × (Vector UInt8 4) × (Vector UInt8 4)) :=
  .ofEquiv layout (fun _ => rfl) rfl

def mccField : Field SelectionReq (Vector UInt8 4) := fields.snd.fst

def mncField : Field SelectionReq (Vector UInt8 4) := fields.snd.snd

end SelectionReq

/-- `uril_data_setup_data_call_req_msg_v01` -/
structure SetupDataCallReq where
  rat : UInt32
  profileId : UInt8
  apn : Vector UInt8 150
  pdpType : UInt32
  authType : UInt32
  user : Vector UInt8 127
  password : Vector UInt8 127
  deriving DecidableEq

namespace SetupDataCallReq

def layout : SetupDataCallReq ≃ UInt32 × UInt8 × (Vector UInt8 150) × UInt32 × UInt32 ×
    (Vector UInt8 127) × (Vector UInt8 127) where
  toFun s := (s.rat, s.profileId, s.apn, s.pdpType, s.authType, s.user, s.password)
  invFun := fun (a, b, c, d, e, f, g) => ⟨a, b, c, d, e, f, g⟩
  left_inv _ := rfl
  right_inv _ := rfl

instance : Packed SetupDataCallReq := .ofEquiv layout

def fields : Field SetupDataCallReq (UInt32 × UInt8 × (Vector UInt8 150) × UInt32 × UInt32 ×
    (Vector UInt8 127) × (Vector UInt8 127)) :=
  .ofEquiv layout (fun _ => rfl) rfl

def apnField : Field SetupDataCallReq (Vector UInt8 150) := fields.snd.snd.fst

def userField : Field SetupDataCallReq (Vector UInt8 127) := fields.snd.snd.snd.snd.snd.fst

def passwordField : Field SetupDataCallReq (Vector UInt8 127) := fields.snd.snd.snd.snd.snd.snd

end SetupDataCallReq

/-- `uril_data_deactivate_data_call_req_msg_v01` -/
structure DeactivateDataCallReq where
  cid : UInt8
  reason : UInt32
  deriving DecidableEq

namespace DeactivateDataCallReq

def layout : DeactivateDataCallReq ≃ UInt8 × UInt32 where
  toFun s := (s.cid, s.reason)
  invFun := fun (a, b) => ⟨a, b⟩
  left_inv _ := rfl
  right_inv _ := rfl

instance : Packed DeactivateDataCallReq := .ofEquiv layout

end DeactivateDataCallReq

/-- `uril_data_set_initial_params_req_msg_v01` -/
structure SetInitialParamsReq where
  apn : Vector UInt8 150
  pdpType : UInt32
  authType : UInt32
  user : Vector UInt8 127
  password : Vector UInt8 127
  deriving DecidableEq

namespace SetInitialParamsReq

def layout : SetInitialParamsReq ≃ (Vector UInt8 150) × UInt32 × UInt32 × (Vector UInt8 127) ×
    (Vector UInt8 127) where
  toFun s := (s.apn, s.pdpType, s.authType, s.user, s.password)
  invFun := fun (a, b, c, d, e) => ⟨a, b, c, d, e⟩
  left_inv _ := rfl
  right_inv _ := rfl

instance : Packed SetInitialParamsReq := .ofEquiv layout

def fields : Field SetInitialParamsReq ((Vector UInt8 150) × UInt32 × UInt32 ×
    (Vector UInt8 127) × (Vector UInt8 127)) :=
  .ofEquiv layout (fun _ => rfl) rfl

def apnField : Field SetInitialParamsReq (Vector UInt8 150) := fields.fst

def userField : Field SetInitialParamsReq (Vector UInt8 127) := fields.snd.snd.snd.fst

def passwordField : Field SetInitialParamsReq (Vector UInt8 127) := fields.snd.snd.snd.snd

end SetInitialParamsReq

example : sizeof ScanResp = 33357 ∧ sizeof SetupDataCallResp = 2122 ∧
    sizeof GetDataCallListResp = 12693 := ⟨rfl, rfl, rfl⟩

instance : LawfulPacked UrilResponse := .ofEquiv UrilResponse.layout

instance : LawfulPacked ResponseMsg := .ofEquiv ResponseMsg.layout

instance : LawfulPacked GetPrefResp := .ofEquiv GetPrefResp.layout

instance : LawfulPacked RegistrationInfo := .ofEquiv RegistrationInfo.layout

instance : LawfulPacked CellIdentityGsm := .ofEquiv CellIdentityGsm.layout

instance : LawfulPacked CellIdentityLte := .ofEquiv CellIdentityLte.layout

instance : LawfulPacked CellIdentityWcdma := .ofEquiv CellIdentityWcdma.layout

instance : LawfulPacked CellIdentityTdscdma := .ofEquiv CellIdentityTdscdma.layout

instance : LawfulPacked GetRegistrationStatusResp := .ofEquiv GetRegistrationStatusResp.layout

instance : LawfulPacked OperatorName := .ofEquiv OperatorName.layout

instance : LawfulPacked ScanEntry := .ofEquiv ScanEntry.layout

instance : LawfulPacked ScanResp := .ofEquiv ScanResp.layout

instance : LawfulPacked GsmSignalStrength := .ofEquiv GsmSignalStrength.layout

instance : LawfulPacked WcdmaSignalStrength := .ofEquiv WcdmaSignalStrength.layout

instance : LawfulPacked TdscdmaSignalStrength := .ofEquiv TdscdmaSignalStrength.layout

instance : LawfulPacked LteSignalStrength := .ofEquiv LteSignalStrength.layout

instance : LawfulPacked GetSignalStrengthResp := .ofEquiv GetSignalStrengthResp.layout

instance : LawfulPacked DataAddr := .ofEquiv DataAddr.layout

instance : LawfulPacked DataCallInfo := .ofEquiv DataCallInfo.layout

instance : LawfulPacked SetupDataCallResp := .ofEquiv SetupDataCallResp.layout

instance : LawfulPacked GetDataCallListResp := .ofEquiv GetDataCallListResp.layout

end UnifiedRil.Messages

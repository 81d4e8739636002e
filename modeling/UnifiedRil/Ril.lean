import UnifiedRil.Library.Bytes
import UnifiedRil.Library.CStrings

/-!
The vendor's side of the interface, `telephony/ril.h`, with the values and the
layouts it has on a 64-bit Android: the requests, the errors, and the data
that an answer points to.
-/

namespace UnifiedRil.Ril

open UnifiedRil.Library.Bytes
open UnifiedRil.Library.CStrings

/-- The requests that the adapter knows; any other number selects no handler. -/
inductive RilReqId
  | setPreferredNetworkType
  | getPreferredNetworkType
  | voiceRegistrationState
  | dataRegistrationState
  | operator
  | queryAvailableNetworks
  | screenState
  | setNetworkSelectionAutomatic
  | setNetworkSelectionManual
  | signalStrength
  | radioPower
  | setupDataCall
  | deactivateDataCall
  | dataCallList
  | setInitialAttachApn
  | other (number : Int)
  deriving DecidableEq

/-- `RIL_Errno`, with `other` for every error that the adapter does not name. -/
inductive RilErrno
  | success
  | radioNotAvailable
  | passwordIncorrect
  | simPin2
  | simPuk2
  | requestNotSupported
  | cancelled
  | opNotAllowedDuringVoiceCall
  | opNotAllowedBeforeRegToNw
  | smsSendFailRetry
  | simAbsent
  | subscriptionNotAvailable
  | modeNotSupported
  | fdnCheckFailure
  | illegalSimOrMe
  | missingResource
  | noSuchElement
  | dialModifiedToUssd
  | dialModifiedToSs
  | dialModifiedToDial
  | ussdModifiedToDial
  | ussdModifiedToSs
  | ussdModifiedToUssd
  | ssModifiedToDial
  | ssModifiedToUssd
  | subscriptionNotSupported
  | ssModifiedToSs
  | other (number : Int)
  deriving DecidableEq

/-- The unsolicited responses that the adapter knows. -/
inductive RilUnsol
  | responseRadioStateChanged
  | responseVoiceNetworkStateChanged
  | signalStrength
  | dataCallListChanged
  | other (number : Int)
  deriving DecidableEq

namespace RadioTech

abbrev unknown : UInt32 := 0
abbrev gprs : UInt32 := 1
abbrev edge : UInt32 := 2
abbrev umts : UInt32 := 3
abbrev is95a : UInt32 := 4
abbrev is95b : UInt32 := 5
abbrev oneXRtt : UInt32 := 6
abbrev evdo0 : UInt32 := 7
abbrev evdoA : UInt32 := 8
abbrev hsdpa : UInt32 := 9
abbrev hsupa : UInt32 := 10
abbrev hspa : UInt32 := 11
abbrev evdoB : UInt32 := 12
abbrev ehrpd : UInt32 := 13
abbrev lte : UInt32 := 14
abbrev hspap : UInt32 := 15
abbrev gsm : UInt32 := 16
abbrev tdScdma : UInt32 := 17
abbrev iwlan : UInt32 := 18

end RadioTech

namespace PrefNetType

abbrev gsmWcdma : UInt32 := 0
abbrev gsmOnly : UInt32 := 1
abbrev wcdma : UInt32 := 2
abbrev gsmWcdmaAuto : UInt32 := 3
abbrev cdmaEvdoAuto : UInt32 := 4
abbrev cdmaOnly : UInt32 := 5
abbrev evdoOnly : UInt32 := 6
abbrev gsmWcdmaCdmaEvdoAuto : UInt32 := 7
abbrev lteCdmaEvdo : UInt32 := 8
abbrev lteGsmWcdma : UInt32 := 9
abbrev lteCmdaEvdoGsmWcdma : UInt32 := 10
abbrev lteOnly : UInt32 := 11
abbrev lteWcdma : UInt32 := 12

end PrefNetType

namespace PdpFail

abbrev none : UInt32 := 0
abbrev operatorBarred : UInt32 := 0x08
abbrev insufficientResources : UInt32 := 0x1a
abbrev missingUknownApn : UInt32 := 0x1b
abbrev unknownPdpAddressType : UInt32 := 0x1c
abbrev userAuthentication : UInt32 := 0x1d
abbrev activationRejectGgsn : UInt32 := 0x1e
abbrev activationRejectUnspecified : UInt32 := 0x1f
abbrev serviceOptionNotSupported : UInt32 := 0x20
abbrev serviceOptionNotSubscribed : UInt32 := 0x21
abbrev serviceOptionOutOfOrder : UInt32 := 0x22
abbrev nsapiInUse : UInt32 := 0x23
abbrev regularDeactivation : UInt32 := 0x24
abbrev onlyIpv4Allowed : UInt32 := 0x32
abbrev onlyIpv6Allowed : UInt32 := 0x33
abbrev onlySingleBearerAllowed : UInt32 := 0x34
abbrev protocolErrors : UInt32 := 0x6f
abbrev voiceRegistrationFail : UInt32 := -1
abbrev dataRegistrationFail : UInt32 := -2
abbrev signalLost : UInt32 := -3
abbrev prefRadioTechChanged : UInt32 := -4
abbrev radioPowerOff : UInt32 := -5
abbrev tetheredCallActive : UInt32 := -6
abbrev errorUnspecified : UInt32 := 0xffff

end PdpFail

/-- `RIL_RadioState`, with `other` for the states that the adapter does not
name. -/
inductive RadioState
  | off
  | unavailable
  | on
  | other (number : Int)
  deriving DecidableEq

/-- What stops the service: a failing assertion, or a read outside the memory
that may be read. -/
inductive Fault
  | assertion
  | badRead
  | overflow
  deriving DecidableEq

/-- A `char *` that came with an answer: null, to a string, or to memory that
must not be read. -/
inductive CharPtr
  | null
  | to (s : CString)
  | wild
  deriving DecidableEq

/-- The string behind a pointer that is not null. -/
def CharPtr.string : CharPtr → Except Fault CString
  | .to s => .ok s
  | _ => .error .badRead

/-- The data of an answer: `data` points to `dataLen` bytes, or to nothing that
may be read. The pointers among these bytes lead to the strings given. -/
structure RilData where
  dataLen : Nat
  bytes : List UInt8
  strings : UInt64 → Option CString
  readable : bytes = [] ∨ bytes.length = dataLen

/-- No data at all: a null pointer and length 0. -/
def RilData.null : RilData :=
  { dataLen := 0, bytes := [], strings := fun _ => none, readable := .inl rfl }

/-- Where a pointer with the given bytes leads. -/
def charPtrOf (strings : UInt64 → Option CString) (address : List UInt8) : CharPtr :=
  let address := UInt64.ofNat (leValue address)
  if address = 0 then .null
  else
    match strings address with
    | some s => .to s
    | none => .wild

/-- `n` bytes of the data from an offset on. -/
def RilData.read (data : RilData) (off n : Nat) : Except Fault (List UInt8) :=
  if off + n ≤ data.bytes.length then .ok (slice data.bytes off n) else .error .badRead

/-- The `int` at an offset of the data. -/
def RilData.int (data : RilData) (off : Nat) : Except Fault UInt32 := do
  let bytes ← data.read off 4
  return UInt32.ofNat (leValue bytes)

/-- The `char *` at an offset of the data. -/
def RilData.charPtr (data : RilData) (off : Nat) : Except Fault CharPtr := do
  let bytes ← data.read off 8
  return charPtrOf data.strings bytes

/-- A size assigned to an `int` that bounds indexes from 0 on: where the `int` is
negative it admits none. -/
def intBound (n : Nat) : Nat := if n % 2 ^ 32 < 2 ^ 31 then n % 2 ^ 32 else 0

/-- `RIL_Data_Call_Response_v11`. Its predecessors v6 and v9 are prefixes. -/
structure RilDataCallResponse where
  status : UInt32
  suggestedRetryTime : UInt32
  cid : UInt32
  active : UInt32
  type : CharPtr
  ifname : CharPtr
  addresses : CharPtr
  dnses : CharPtr
  gateways : CharPtr
  pcscf : CharPtr
  mtu : UInt32

def sizeofDataCallResponseV6 : Nat := 56

def sizeofDataCallResponseV9 : Nat := 64

def sizeofDataCallResponseV11 : Nat := 72

/-- The structure after `bytes` were copied over its start and the rest was
zeroed. -/
def RilDataCallResponse.ofBytes (strings : UInt64 → Option CString) (bytes : List UInt8) :
    RilDataCallResponse where
  status := int 0
  suggestedRetryTime := int 4
  cid := int 8
  active := int 12
  type := charPtr 16
  ifname := charPtr 24
  addresses := charPtr 32
  dnses := charPtr 40
  gateways := charPtr 48
  pcscf := charPtr 56
  mtu := int 64
where
  int (off : Nat) : UInt32 := UInt32.ofNat (leValue (slice bytes off 4))
  charPtr (off : Nat) : CharPtr := charPtrOf strings (slice bytes off 8)

def sizeofSignalStrengthV5 : Nat := 28

def sizeofSignalStrengthV6 : Nat := 48

def sizeofSignalStrengthV10 : Nat := 56

def intMax : UInt32 := 0x7fffffff

end UnifiedRil.Ril

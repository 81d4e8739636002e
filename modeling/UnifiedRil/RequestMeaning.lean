import UnifiedRil.RequestFidelity
import UnifiedRil.VendorStrings

/-!
What the vendor is asked for. A command of an application is a value with its
arguments; the library's callers write it into the structure of its message, the
adapter reads the structure and hands numerals, strings and enumeration values
to the vendor, and the vendor reads the command from these again.
-/

namespace UnifiedRil.RequestMeaning

open UnifiedRil.Library.Bytes
open UnifiedRil.Library.CStrings
open UnifiedRil.Library.Layout
open UnifiedRil.Library.Results
open UnifiedRil.Protocol
open UnifiedRil.Messages
open UnifiedRil.Client
open UnifiedRil.Connection
open UnifiedRil.Ril
open UnifiedRil.RilConversion
open UnifiedRil.RilAdapter
open UnifiedRil.RequestProcessors
open UnifiedRil.RequestFidelity (Environment executeCommandAsync Rejected NothingSent requestMsg
  reqBytes reqBytes_length execute_sent handed_over)
open UnifiedRil.VendorStrings (ownPart ownPart_append_of_mem pointerTo pointerTo_of_mem)

/-- A text that fits into an array of `n` characters with its terminator. -/
@[ext] structure Text (n : Nat) where
  chars : List UInt8
  noNul : 0 ∉ chars
  fits : chars.length < n

instance {n : Nat} : DecidableEq (Text n) := fun s t =>
  decidable_of_iff (s.chars = t.chars) Text.ext_iff.symm

/-- The array, zero behind the text. -/
def Text.array {n : Nat} (t : Text n) : Vector UInt8 n := overwrite (zeros n) t.chars

def Text.pointer {n : Nat} (t : Text n) : CharPtr := .to ⟨t.chars, t.noNul⟩

def Text.ofPointer (n : Nat) : CharPtr → Option (Text n)
  | .to s => if h : s.chars.length < n then some ⟨s.chars, s.noNul, h⟩ else none
  | _ => none

/-- A value of an enumeration that is numbered from 0 on. -/
abbrev UpTo (last : UInt32) := { value : UInt32 // value ≤ last }

def UpTo.of (last value : UInt32) : Option (UpTo last) :=
  if h : value ≤ last then some ⟨value, h⟩ else none

/-- What an application can ask for. -/
inductive Command
  | setNetworkPreference (mode : UpTo UrilNwPrefType.lteWcdma)
  | getNetworkPreference
  | getNetworkRegistrationStatus
  | scanNetwork
  | setScreenState (on : Bool)
  | selectAutomatically
  | selectNetwork (mcc : { mcc : Text 4 // mcc.chars.length = 3 }) (mnc : Text 4)
  | getSignalStrength
  | setRadioMode (on : Bool)
  | getRadioMode
  | setupDataCall (rat : UpTo UrilDataBearerTech.wlan3gpp) (profileId : UInt8)
      (apn : Text 150) (pdpType : UpTo UrilDataPdpType.ppp)
      (authType : UpTo UrilDataAuthType.papchap) (user password : Text 127)
  | deactivateDataCall (cid : UInt8) (radioOff : Bool)
  | getDataCallList
  | setInitialAttachParams (apn : Text 150) (pdpType : UpTo UrilDataPdpType.ppp)
      (authType : UpTo UrilDataAuthType.papchap) (user password : Text 127)
  deriving DecidableEq

namespace Command

def msgId : Command → UInt32
  | setNetworkPreference _ => MsgId.nwSetPref
  | getNetworkPreference => MsgId.nwGetPref
  | getNetworkRegistrationStatus => MsgId.nwGetRegistrationStatus
  | scanNetwork => MsgId.nwScan
  | setScreenState _ => MsgId.nwSetScreen
  | selectAutomatically => MsgId.nwSelection
  | selectNetwork _ _ => MsgId.nwSelection
  | getSignalStrength => MsgId.nwGetSignalStrength
  | setRadioMode _ => MsgId.radioSetRadioMode
  | getRadioMode => MsgId.radioGetRadioMode
  | setupDataCall .. => MsgId.dataSetupDataCall
  | deactivateDataCall _ _ => MsgId.dataDeactivateDataCall
  | getDataCallList => MsgId.dataGetDataCallList
  | setInitialAttachParams .. => MsgId.dataSetInitialAttachParams

/-- The bytes of the structure; those without content are one placeholder. -/
def request : Command → List UInt8
  | setNetworkPreference mode => encode mode.val
  | setScreenState on => encode (if on then 1 else 0 : UInt8)
  | selectAutomatically =>
      encode (⟨UrilNwSelection.automatic, zeros 4, zeros 4⟩ : SelectionReq)
  | selectNetwork mcc mnc =>
      encode (⟨UrilNwSelection.manual, mcc.val.array, mnc.array⟩ : SelectionReq)
  | setRadioMode on => encode (if on then UrilRadioMode.online else UrilRadioMode.offline)
  | setupDataCall rat profileId apn pdpType authType user password =>
      encode (⟨rat.val, profileId, apn.array, pdpType.val, authType.val, user.array,
        password.array⟩ : SetupDataCallReq)
  | deactivateDataCall cid radioOff =>
      encode (⟨cid, if radioOff then UrilDataEndReason.radioOff else UrilDataEndReason.none⟩ :
        DeactivateDataCallReq)
  | setInitialAttachParams apn pdpType authType user password =>
      encode (⟨apn.array, pdpType.val, authType.val, user.array, password.array⟩ :
        SetInitialParamsReq)
  | _ => [0]

end Command

/-- A text that is a number and nothing else. -/
def numberIn (last : Nat) : CharPtr → Option Nat
  | .to s =>
      let r := strtoul s
      if s.chars ≠ [] ∧ r.endPtr.chars = [] ∧ r.erange = false ∧ r.value.toNat ≤ last then
        some r.value.toNat
      else none
  | _ => none

/-- The bearers that stand for the radio technologies. -/
def bearerOf (radioTech : UInt32) : Option UInt32 :=
  [(RadioTech.unknown, UrilDataBearerTech.unknown), (RadioTech.oneXRtt, UrilDataBearerTech.cdma1x),
    (RadioTech.evdo0, UrilDataBearerTech.evdoRev0), (RadioTech.evdoA, UrilDataBearerTech.evdoRevA),
    (RadioTech.evdoB, UrilDataBearerTech.evdoRevB), (RadioTech.ehrpd, UrilDataBearerTech.ehrpd),
    (RadioTech.umts, UrilDataBearerTech.wcdma), (RadioTech.gprs, UrilDataBearerTech.gprs),
    (RadioTech.hsdpa, UrilDataBearerTech.hsdpa), (RadioTech.hsupa, UrilDataBearerTech.hsupa),
    (RadioTech.edge, UrilDataBearerTech.edge), (RadioTech.lte, UrilDataBearerTech.lte),
    (RadioTech.hspap, UrilDataBearerTech.hsdpaPlus), (RadioTech.hspa, UrilDataBearerTech.hspa),
    (RadioTech.tdScdma, UrilDataBearerTech.tdscdma), (RadioTech.gsm, UrilDataBearerTech.gsm),
    (RadioTech.iwlan, UrilDataBearerTech.wlan3gpp)].lookup radioTech

def pdpTypeOf : CharPtr → Option (UpTo UrilDataPdpType.ppp)
  | .to s =>
      ([(ascii [], UrilDataPdpType.none), (ascii ['I', 'P'], UrilDataPdpType.ip),
        (ascii ['I', 'P', 'V', '6'], UrilDataPdpType.ipv6),
        (ascii ['I', 'P', 'V', '4', 'V', '6'], UrilDataPdpType.ipv4v6),
        (ascii ['P', 'P', 'P'], UrilDataPdpType.ppp)].lookup s.chars).bind (UpTo.of _)
  | _ => none

namespace Command

/-- The command that a request to the vendor makes. -/
def ofVendorRequest (v : VendorRequest) : Option Command :=
  match v.request, v.data with
  | .setPreferredNetworkType, .int mode =>
      match rilNwPrefToUrilNwPref mode with
      | .ok mode => (UpTo.of _ mode).map setNetworkPreference
      | .error _ => none
  | .getPreferredNetworkType, .null => some getNetworkPreference
  | .voiceRegistrationState, .null => some getNetworkRegistrationStatus
  | .queryAvailableNetworks, .null => some scanNetwork
  | .screenState, .int on => some (setScreenState (on ≠ 0))
  | .setNetworkSelectionAutomatic, .null => some selectAutomatically
  | .setNetworkSelectionManual, .string numeric => do
      -- three digits of the country, and the network
      let mcc ← Text.ofPointer 4 (literal (numeric.take 3))
      let mnc ← Text.ofPointer 4 (literal (numeric.drop 3))
      if h : mcc.chars.length = 3 then some (selectNetwork ⟨mcc, h⟩ mnc) else none
  | .signalStrength, .null => some getSignalStrength
  | .radioPower, .int on => some (setRadioMode (on ≠ 0))
  | .setupDataCall, .strings [tech, profile, apn, user, password, auth, protocol, .null] => do
      let tech ← numberIn (2 ^ 32 - 1) tech
      let rat ← (bearerOf (UInt32.ofNat tech)).bind (UpTo.of _)
      let profile ← numberIn 255 profile
      let apn ← Text.ofPointer 150 apn
      let user ← Text.ofPointer 127 user
      let password ← Text.ofPointer 127 password
      let auth ← numberIn (2 ^ 32 - 1) auth
      let authType ← UpTo.of _ (UInt32.ofNat auth)
      let pdpType ← pdpTypeOf protocol
      some (setupDataCall rat (UInt8.ofNat profile) apn pdpType authType user password)
  | .deactivateDataCall, .strings [cid, reason] => do
      let cid ← numberIn 255 cid
      let reason ← numberIn 1 reason
      some (deactivateDataCall (UInt8.ofNat cid) (reason = 1))
  | .dataCallList, .null => some getDataCallList
  | .setInitialAttachApn, .attachApn apn protocol auth user password => do
      let apn ← Text.ofPointer 150 apn
      let pdpType ← pdpTypeOf protocol
      let authType ← UpTo.of _ auth
      let user ← Text.ofPointer 127 user
      let password ← Text.ofPointer 127 password
      some (setInitialAttachParams apn pdpType authType user password)
  | _, _ => none

/-- The state of the radio is asked for by a call of its own. -/
def ofEffect : Effect → Option Command
  | .submit _ v => ofVendorRequest v
  | .radioThread _ _ => some getRadioMode

end Command

/-- Bearers that the vendor has no technology of their own for stand for another
one. -/
def sameTech (rat : UInt32) : UInt32 :=
  if rat ∈ [UrilDataBearerTech.fmc, UrilDataBearerTech.hrpd, UrilDataBearerTech.wlan3gpp2] then
    UrilDataBearerTech.unknown
  else if rat ∈ [UrilDataBearerTech.dcHsdpaPlus, UrilDataBearerTech.qam64] then
    UrilDataBearerTech.hsdpaPlus
  else rat

theorem sameTech_le {rat : UInt32} (h : rat ≤ UrilDataBearerTech.wlan3gpp) :
    sameTech rat ≤ UrilDataBearerTech.wlan3gpp := by
  unfold sameTech
  split
  · decide
  · split
    · decide
    · exact h

/-- A command as far as it can be told from others behind the adapter. -/
def Command.merged : Command → Command
  | .setupDataCall rat profileId apn pdpType authType user password =>
      .setupDataCall ⟨sameTech rat.val, sameTech_le rat.property⟩ profileId apn pdpType authType
        user password
  | cmd => cmd

theorem Text.toList_array {n : Nat} (t : Text n) :
    t.array.toList = t.chars ++ List.replicate (n - t.chars.length) 0 :=
  overwrite_zeros_toList t.chars t.fits.le

theorem Text.encode_array {n : Nat} (t : Text n) :
    encode t.array = t.chars ++ List.replicate (n - t.chars.length) 0 := by
  rw [← t.toList_array]
  change t.array.toList.flatMap (fun b => [b]) = _
  exact List.flatMap_singleton' _

theorem Text.ownPart_encode {n : Nat} (t : Text n) (rest : List UInt8) :
    0 ∈ encode t.array ∧ ownPart (encode t.array ++ rest) = t.chars := by
  have hroom : n - t.chars.length ≠ 0 := Nat.sub_ne_zero_of_lt t.fits
  have hmem : 0 ∈ encode t.array := by
    rw [t.encode_array]
    exact List.mem_append_right _ (List.mem_replicate.mpr ⟨hroom, rfl⟩)
  refine ⟨hmem, ?_⟩
  obtain ⟨k, hk⟩ := Nat.exists_eq_succ_of_ne_zero hroom
  rw [ownPart_append_of_mem hmem, t.encode_array, hk, ownPart,
    List.takeWhile_append_of_pos fun c hc => decide_eq_true (ne_of_mem_of_not_mem hc t.noNul)]
  simp [List.replicate_succ]

theorem Text.ofPointer_pointer {n : Nat} (t : Text n) : Text.ofPointer n t.pointer = some t :=
  dif_pos t.fits

theorem terminated_append_zero {chars : List UInt8} (h : 0 ∉ chars) (rest : List UInt8) :
    terminated (chars ++ 0 :: rest) = some ⟨chars, h⟩ := by
  rw [terminated, if_pos (by simp), Option.some.injEq, CString.mk.injEq,
    List.takeWhile_append_of_pos fun c hc => decide_eq_true (ne_of_mem_of_not_mem hc h)]
  simp

theorem literal_eq {text : List UInt8} (h : 0 ∉ text) : literal text = .to ⟨text, h⟩ := by
  rw [literal, terminated_append_zero h []]

section Fields

variable {α : Type} [Packed α] {n : Nat} {payload : Payload} {a : α} {rest : List UInt8}

theorem drop_field (hpayload : payload.toList = encode a ++ rest)
    (field : Field α (Vector UInt8 n)) {t : Text n} (hfield : field.get a = t.array) :
    ∃ tail, payload.toList.drop field.offset = encode t.array ++ tail := by
  have hsize : sizeof (Vector UInt8 n) = n := Nat.mul_one n
  have hbytes : encode t.array = slice (encode a) field.offset n := by
    rw [← hfield, field.encode_get, hsize]
  have hle : field.offset ≤ (encode a).length := by
    rw [Packed.length_encode]
    exact (Nat.le_add_right ..).trans field.fits
  refine ⟨(encode a).drop (field.offset + n) ++ rest, ?_⟩
  rw [hpayload, List.drop_append_of_le_length hle, hbytes, slice, ← List.append_assoc,
    ← List.drop_drop, List.take_append_drop]

theorem takeWhile_field (hpayload : payload.toList = encode a ++ rest)
    (field : Field α (Vector UInt8 n)) {t : Text n} (hfield : field.get a = t.array) :
    (payload.toList.drop field.offset).takeWhile (· ≠ 0) = t.chars := by
  obtain ⟨tail, htail⟩ := drop_field hpayload field hfield
  rw [htail]
  exact (t.ownPart_encode tail).2

theorem stringAt_field (hpayload : payload.toList = encode a ++ rest)
    (field : Field α (Vector UInt8 n)) {t : Text n} (hfield : field.get a = t.array) :
    stringAt payload field = t.pointer := by
  obtain ⟨tail, htail⟩ := drop_field hpayload field hfield
  have hmem : 0 ∈ payload.toList.drop field.offset := by
    rw [htail]
    exact List.mem_append_left _ (t.ownPart_encode tail).1
  obtain ⟨s, hs, hchars⟩ := pointerTo_of_mem hmem
  have hpointer : stringAt payload field = .to s := hs
  rw [hpointer, Text.pointer, CharPtr.to.injEq, CString.mk.injEq, hchars]
  exact takeWhile_field hpayload field hfield

end Fields

theorem numberIn_decimal {last : Nat} {n : UInt32} (h : n.toNat ≤ last) :
    numberIn last (decimal n) = some n.toNat := by
  have hlt : n.toNat < 2 ^ 64 := n.toNat_lt.trans (by decide)
  rw [decimal, literal_eq (zero_not_mem_toDigits n.toNat), numberIn]
  obtain ⟨hvalue, hend, hrange⟩ :=
    strtoul_toDigits (s := ⟨_, zero_not_mem_toDigits n.toNat⟩) rfl hlt
  have hne : ascii (Nat.toDigits 10 n.toNat) ≠ [] := by simp [ascii, Nat.toDigits_ne_nil]
  have hback : (UInt64.ofNat n.toNat).toNat = n.toNat := UInt64.toNat_ofNat_of_lt' hlt
  simp only [hvalue, hend, hrange, hback]
  rw [if_pos ⟨hne, trivial, trivial, h⟩]

theorem forall_upTo {last : UInt32} {p : UInt32 → Prop}
    (h : ∀ i : Fin (last.toNat + 1), p (UInt32.ofNat i)) {value : UInt32} (hvalue : value ≤ last) :
    p value := by
  have hlt : value.toNat < last.toNat + 1 := Nat.lt_succ_of_le (UInt32.le_iff_toNat_le.mp hvalue)
  have hp := h ⟨value.toNat, hlt⟩
  rwa [UInt32.ofNat_toNat] at hp

/-- A conversion of a value, and the value read from its result. -/
def ReadBack {α β : Type} (converted : Except Fault α) (read : α → Option β) (value : β) :
    Prop :=
  ∃ result, converted = .ok result ∧ read result = some value

instance {α β : Type} [DecidableEq β] (converted : Except Fault α) (read : α → Option β)
    (value : β) : Decidable (ReadBack converted read value) :=
  match converted with
  | .ok result =>
      decidable_of_iff (read result = some value)
        ⟨fun h => ⟨result, rfl, h⟩, fun ⟨_, heq, h⟩ => by cases heq; exact h⟩
  | .error _ => isFalse fun ⟨_, heq, _⟩ => by cases heq

def storedMode (mode : UInt32) : Option UInt32 := (rilNwPrefToUrilNwPref mode).toOption

theorem nwPref_readBack {mode : UInt32} (h : mode ≤ UrilNwPrefType.lteWcdma) :
    ReadBack (urilNwPrefToRilNwPref mode) storedMode mode :=
  forall_upTo (p := fun mode => ReadBack (urilNwPrefToRilNwPref mode) storedMode mode)
    (by decide) h

theorem bearer_readBack {rat : UInt32} (h : rat ≤ UrilDataBearerTech.wlan3gpp) :
    ReadBack (urilDataBearerTechTypeToRilRadioTech rat) bearerOf (sameTech rat) :=
  forall_upTo
    (p := fun rat => ReadBack (urilDataBearerTechTypeToRilRadioTech rat) bearerOf (sameTech rat))
    (by decide) h

theorem authType_readBack {auth : UInt32} (h : auth ≤ UrilDataAuthType.papchap) :
    ReadBack (urilAuthTypeToRilAuthType auth) some auth :=
  forall_upTo (p := fun auth => ReadBack (urilAuthTypeToRilAuthType auth) some auth)
    (by decide) h

theorem pdpType_readBack {pdpType : UInt32} (h : pdpType ≤ UrilDataPdpType.ppp) :
    ReadBack (urilPdpTypeToRilPdpType pdpType) (fun text => (pdpTypeOf (literal text)).map (·.val))
      pdpType :=
  forall_upTo
    (p := fun pdpType => ReadBack (urilPdpTypeToRilPdpType pdpType)
      (fun text => (pdpTypeOf (literal text)).map (·.val)) pdpType)
    (by decide) h

/-- What is done is done for the ids. -/
def IsFor (uniqueId : UInt32) (simId : UInt8) : Effect → Prop
  | .submit token v => token = makeTokenForMessage v.request uniqueId simId
  | .radioThread uid sid => uid = uniqueId ∧ sid = simId

/-- One thing is done, for the ids, and it makes the command. -/
def Asks (run : Except Fault Processed) (uniqueId : UInt32) (simId : UInt8) (cmd : Command) :
    Prop :=
  ∃ effect, run = .ok ⟨[effect], true⟩ ∧ IsFor uniqueId simId effect ∧
    Command.ofEffect effect = some cmd

section Methods

variable {payload : Payload} {rest : List UInt8} {uniqueId : UInt32} {simId : UInt8}

theorem asks_send {request : RilReqId} {data : RequestData} {dataLen : Nat} {cmd : Command}
    (h : Command.ofVendorRequest ⟨request, data, dataLen⟩ = some cmd) :
    Asks (sendToVendorRil request data dataLen uniqueId simId) uniqueId simId cmd :=
  ⟨_, rfl, rfl, h⟩

theorem upTo_of {last : UInt32} (value : UpTo last) : UpTo.of last value.val = some value :=
  dif_pos value.property

theorem setNetworkPreference_asks {mode : UpTo UrilNwPrefType.lteWcdma}
    (hpayload : payload.toList = encode mode.val ++ rest) :
    Asks (setNetworkPreferenceV1 payload uniqueId simId) uniqueId simId
      (.setNetworkPreference mode) := by
  obtain ⟨rilData, hconverted, hread⟩ := nwPref_readBack mode.property
  have hreq : requestOf UInt32 payload = mode.val := by
    rw [requestOf, hpayload, Packed.decode_encode]
  rw [setNetworkPreferenceV1, hreq, hconverted]
  refine asks_send ?_
  unfold storedMode at hread
  cases hback : rilNwPrefToUrilNwPref rilData with
  | error fault => simp [hback, Except.toOption] at hread
  | ok stored =>
      obtain rfl : stored = mode.val := by simpa [hback, Except.toOption] using hread
      simp only [Command.ofVendorRequest, hback, upTo_of, Option.map_some]

theorem setScreenState_asks {on : Bool}
    (hpayload : payload.toList = encode (if on then 1 else 0 : UInt8) ++ rest) :
    Asks (setScreenStateV1 payload uniqueId simId) uniqueId simId (.setScreenState on) := by
  have hreq : requestOf UInt8 payload = if on then 1 else 0 := by
    rw [requestOf, hpayload, Packed.decode_encode]
  rw [setScreenStateV1, hreq]
  refine asks_send ?_
  cases on <;> rfl

theorem selectAutomatically_asks {mcc mnc : Vector UInt8 4}
    (hpayload : payload.toList =
      encode (⟨UrilNwSelection.automatic, mcc, mnc⟩ : SelectionReq) ++ rest) :
    Asks (selectNetworkV1 payload uniqueId simId) uniqueId simId .selectAutomatically := by
  have hreq : requestOf SelectionReq payload = ⟨UrilNwSelection.automatic, mcc, mnc⟩ := by
    rw [requestOf, hpayload, Packed.decode_encode]
  rw [selectNetworkV1, hreq]
  exact asks_send rfl

theorem setRadioMode_asks {on : Bool}
    (hpayload : payload.toList =
      encode (if on then UrilRadioMode.online else UrilRadioMode.offline) ++ rest) :
    Asks (setRadioModeV1 payload uniqueId simId) uniqueId simId (.setRadioMode on) := by
  have hreq : requestOf UInt32 payload =
      if on then UrilRadioMode.online else UrilRadioMode.offline := by
    rw [requestOf, hpayload, Packed.decode_encode]
  rw [setRadioModeV1, hreq]
  cases on with
  | false => exact asks_send rfl
  | true => exact asks_send rfl

theorem selectNetwork_asks {mcc : { mcc : Text 4 // mcc.chars.length = 3 }} {mnc : Text 4}
    (hpayload : payload.toList =
      encode (⟨UrilNwSelection.manual, mcc.val.array, mnc.array⟩ : SelectionReq) ++ rest) :
    Asks (selectNetworkV1 payload uniqueId simId) uniqueId simId (.selectNetwork mcc mnc) := by
  have hreq : requestOf SelectionReq payload =
      ⟨UrilNwSelection.manual, mcc.val.array, mnc.array⟩ := by
    rw [requestOf, hpayload, Packed.decode_encode]
  have hmcc := takeWhile_field hpayload SelectionReq.mccField (t := mcc.val) rfl
  have hmnc := takeWhile_field hpayload SelectionReq.mncField (t := mnc) rfl
  have hlength : (mcc.val.chars ++ mnc.chars).length ≤ 6 := by
    have hfits := mnc.fits
    rw [List.length_append, mcc.property]
    omega
  have hcountry : (mcc.val.chars ++ mnc.chars).take 3 = mcc.val.chars :=
    List.take_left' mcc.property
  have hnetwork : (mcc.val.chars ++ mnc.chars).drop 3 = mnc.chars :=
    List.drop_left' mcc.property
  rw [selectNetworkV1, hreq]
  simp only [hmcc, hmnc, List.take_of_length_le hlength]
  refine asks_send ?_
  simp only [Command.ofVendorRequest, hcountry, hnetwork, literal_eq mcc.val.noNul,
    literal_eq mnc.noNul]
  rw [← Text.pointer, ← Text.pointer, mcc.val.ofPointer_pointer, mnc.ofPointer_pointer]
  exact dif_pos mcc.property

theorem pdpTypeOf_literal {pdpType : UpTo UrilDataPdpType.ppp} {text : List UInt8}
    (h : (pdpTypeOf (literal text)).map (·.val) = some pdpType.val) :
    pdpTypeOf (literal text) = some pdpType := by
  obtain ⟨found, hfound, hval⟩ := Option.map_eq_some_iff.mp h
  rw [hfound, Subtype.ext hval]

theorem setupDataCall_asks {rat : UpTo UrilDataBearerTech.wlan3gpp} {profileId : UInt8}
    {apn : Text 150} {pdpType : UpTo UrilDataPdpType.ppp}
    {authType : UpTo UrilDataAuthType.papchap} {user password : Text 127}
    (hpayload : payload.toList = encode (⟨rat.val, profileId, apn.array, pdpType.val,
      authType.val, user.array, password.array⟩ : SetupDataCallReq) ++ rest) :
    Asks (setupDataCallV1 payload uniqueId simId) uniqueId simId
      (Command.merged (.setupDataCall rat profileId apn pdpType authType user password)) := by
  have hreq : requestOf SetupDataCallReq payload = ⟨rat.val, profileId, apn.array, pdpType.val,
      authType.val, user.array, password.array⟩ := by
    rw [requestOf, hpayload, Packed.decode_encode]
  have hapn := stringAt_field hpayload SetupDataCallReq.apnField (t := apn) rfl
  have huser := stringAt_field hpayload SetupDataCallReq.userField (t := user) rfl
  have hpassword := stringAt_field hpayload SetupDataCallReq.passwordField
    (t := password) rfl
  obtain ⟨tech, htech, hbearer⟩ := bearer_readBack rat.property
  obtain ⟨auth, hauth, hsame⟩ := authType_readBack authType.property
  obtain ⟨protocol, hprotocol, hpdp⟩ := pdpType_readBack pdpType.property
  obtain rfl : auth = authType.val := Option.some.inj hsame
  have hprofile : profileId.toUInt32.toNat ≤ 255 := by
    have hlt := profileId.toNat_lt
    rw [UInt8.toNat_toUInt32]
    omega
  have hnumber : ∀ n : UInt32, numberIn (2 ^ 32 - 1) (decimal n) = some n.toNat :=
    fun n => numberIn_decimal (Nat.le_pred_of_lt n.toNat_lt)
  have hmerged : UpTo.of UrilDataBearerTech.wlan3gpp (sameTech rat.val) =
      some ⟨sameTech rat.val, sameTech_le rat.property⟩ := dif_pos (sameTech_le rat.property)
  rw [setupDataCallV1, hreq]
  simp only [htech, hauth, hprotocol, ok_bind]
  refine asks_send ?_
  simp only [Command.ofVendorRequest, hnumber, numberIn_decimal hprofile, hapn, huser, hpassword,
    Text.ofPointer_pointer,
    hbearer, hmerged, pdpTypeOf_literal hpdp, upTo_of, UInt32.ofNat_toNat,
    UInt8.toNat_toUInt32, UInt8.ofNat_toNat, Option.bind_some, Option.bind_eq_bind]
  rfl

theorem deactivateDataCall_asks {cid : UInt8} {radioOff : Bool}
    (hpayload : payload.toList = encode (⟨cid, if radioOff then UrilDataEndReason.radioOff
      else UrilDataEndReason.none⟩ : DeactivateDataCallReq) ++ rest) :
    Asks (deactivateDataCallV1 payload uniqueId simId) uniqueId simId
      (.deactivateDataCall cid radioOff) := by
  have hreq : requestOf DeactivateDataCallReq payload = ⟨cid, if radioOff then
      UrilDataEndReason.radioOff else UrilDataEndReason.none⟩ := by
    rw [requestOf, hpayload, Packed.decode_encode]
  have hcid : cid.toUInt32.toNat ≤ 255 := by
    have hlt := cid.toNat_lt
    rw [UInt8.toNat_toUInt32]
    omega
  have hreason : ∀ radioOff : Bool,
      numberIn 1 (literal (if radioOff then ascii ['1'] else ascii ['0'])) =
        some radioOff.toNat := by decide
  rw [deactivateDataCallV1, hreq]
  refine asks_send ?_
  have hcond : (if (if radioOff then UrilDataEndReason.radioOff else UrilDataEndReason.none) =
      UrilDataEndReason.radioOff then ascii ['1'] else ascii ['0']) =
        if radioOff then ascii ['1'] else ascii ['0'] := by
    cases radioOff <;> rfl
  simp only [Command.ofVendorRequest, hcond, hreason, numberIn_decimal hcid,
    UInt8.toNat_toUInt32, UInt8.ofNat_toNat, Option.bind_some, Option.bind_eq_bind]
  cases radioOff <;> rfl

theorem setInitialAttachParams_asks {apn : Text 150} {pdpType : UpTo UrilDataPdpType.ppp}
    {authType : UpTo UrilDataAuthType.papchap} {user password : Text 127}
    (hpayload : payload.toList = encode (⟨apn.array, pdpType.val, authType.val, user.array,
      password.array⟩ : SetInitialParamsReq) ++ rest) :
    Asks (setInitialAttachParamsV1 payload uniqueId simId) uniqueId simId
      (.setInitialAttachParams apn pdpType authType user password) := by
  have hreq : requestOf SetInitialParamsReq payload =
      ⟨apn.array, pdpType.val, authType.val, user.array, password.array⟩ := by
    rw [requestOf, hpayload, Packed.decode_encode]
  have hapn := stringAt_field hpayload SetInitialParamsReq.apnField (t := apn) rfl
  have huser := stringAt_field hpayload SetInitialParamsReq.userField (t := user) rfl
  have hpassword := stringAt_field hpayload SetInitialParamsReq.passwordField
    (t := password) rfl
  obtain ⟨auth, hauth, hsame⟩ := authType_readBack authType.property
  obtain ⟨protocol, hprotocol, hpdp⟩ := pdpType_readBack pdpType.property
  obtain rfl : auth = authType.val := Option.some.inj hsame
  rw [setInitialAttachParamsV1, hreq]
  simp only [hauth, hprotocol, ok_bind]
  refine asks_send ?_
  simp only [Command.ofVendorRequest, hapn, huser, hpassword, Text.ofPointer_pointer,
    pdpTypeOf_literal hpdp, upTo_of,
    Option.bind_some, Option.bind_eq_bind]

end Methods

/-- The message of a command, with anything behind its structure. -/
structure Carries (msg : UrilProtocolMsg) (cmd : Command) : Prop where
  msgId : msg.msgId = cmd.msgId
  payload : ∃ rest, msg.payload.toList = cmd.request ++ rest

theorem composite_takes {child : RequestProcessor} {children : List RequestProcessor}
    {msg : UrilProtocolMsg} {effect : Effect} (h : child msg = .ok ⟨[effect], true⟩) :
    compositeRequestProcessor (child :: children) msg = .ok ⟨[effect], true⟩ := by
  rw [compositeRequestProcessor, h]
  rfl

theorem composite_passes {child : RequestProcessor} {children : List RequestProcessor}
    {msg : UrilProtocolMsg} {p : Processed} (h : child msg = refuse)
    (hrest : compositeRequestProcessor children msg = .ok p) :
    compositeRequestProcessor (child :: children) msg = .ok p := by
  rw [compositeRequestProcessor, h]
  simp only [refuse, ok_bind, hrest]
  rfl

theorem processRequest_asks {msg : UrilProtocolMsg} {cmd : Command}
    (h : Asks (networkMessageProcessor msg) msg.uniqueId msg.simId cmd ∨
      networkMessageProcessor msg = refuse ∧
        (Asks (radioMessageProcessor msg) msg.uniqueId msg.simId cmd ∨
          radioMessageProcessor msg = refuse ∧
            Asks (dataMessageProcessor msg) msg.uniqueId msg.simId cmd)) :
    Asks (processRequest msg) msg.uniqueId msg.simId cmd := by
  rcases h with ⟨effect, hrun, hasks⟩ | ⟨hnetwork, ⟨effect, hrun, hasks⟩ |
    ⟨hradio, effect, hrun, hasks⟩⟩
  · exact ⟨effect, composite_takes hrun, hasks⟩
  · exact ⟨effect, composite_passes hnetwork (composite_takes hrun), hasks⟩
  · exact ⟨effect,
      composite_passes hnetwork (composite_passes hradio (composite_takes hrun)), hasks⟩

theorem carries_asks {msg : UrilProtocolMsg} {cmd : Command} (h : Carries msg cmd) :
    Asks (processRequest msg) msg.uniqueId msg.simId cmd.merged := by
  obtain ⟨hid, rest, hpayload⟩ := h
  apply processRequest_asks
  cases cmd with
  | setNetworkPreference mode =>
      left
      rw [networkMessageProcessor, hid]
      exact setNetworkPreference_asks hpayload
  | getNetworkPreference =>
      left
      rw [networkMessageProcessor, hid]
      exact asks_send rfl
  | getNetworkRegistrationStatus =>
      left
      rw [networkMessageProcessor, hid]
      exact asks_send rfl
  | scanNetwork =>
      left
      rw [networkMessageProcessor, hid]
      exact asks_send rfl
  | setScreenState on =>
      left
      rw [networkMessageProcessor, hid]
      exact setScreenState_asks hpayload
  | selectAutomatically =>
      left
      rw [networkMessageProcessor, hid]
      exact selectAutomatically_asks hpayload
  | selectNetwork mcc mnc =>
      left
      rw [networkMessageProcessor, hid]
      exact selectNetwork_asks hpayload
  | getSignalStrength =>
      left
      rw [networkMessageProcessor, hid]
      exact asks_send rfl
  | setRadioMode on =>
      refine .inr ⟨by rw [networkMessageProcessor, hid]; rfl, .inl ?_⟩
      rw [radioMessageProcessor, hid]
      exact setRadioMode_asks hpayload
  | getRadioMode =>
      refine .inr ⟨by rw [networkMessageProcessor, hid]; rfl, .inl ?_⟩
      have hradio : radioMessageProcessor msg = getRadioModeV1 msg.uniqueId msg.simId := by
        rw [radioMessageProcessor, hid]
        rfl
      rw [hradio]
      exact ⟨.radioThread msg.uniqueId msg.simId, rfl, ⟨rfl, rfl⟩, rfl⟩
  | setupDataCall rat profileId apn pdpType authType user password =>
      refine .inr ⟨by rw [networkMessageProcessor, hid]; rfl,
        .inr ⟨by rw [radioMessageProcessor, hid]; rfl, ?_⟩⟩
      rw [dataMessageProcessor, hid]
      exact setupDataCall_asks hpayload
  | deactivateDataCall cid radioOff =>
      refine .inr ⟨by rw [networkMessageProcessor, hid]; rfl,
        .inr ⟨by rw [radioMessageProcessor, hid]; rfl, ?_⟩⟩
      rw [dataMessageProcessor, hid]
      exact deactivateDataCall_asks hpayload
  | getDataCallList =>
      refine .inr ⟨by rw [networkMessageProcessor, hid]; rfl,
        .inr ⟨by rw [radioMessageProcessor, hid]; rfl, ?_⟩⟩
      rw [dataMessageProcessor, hid]
      exact asks_send rfl
  | setInitialAttachParams apn pdpType authType user password =>
      refine .inr ⟨by rw [networkMessageProcessor, hid]; rfl,
        .inr ⟨by rw [radioMessageProcessor, hid]; rfl, ?_⟩⟩
      rw [dataMessageProcessor, hid]
      exact setInitialAttachParams_asks hpayload

theorem encode_fits {α : Type} [Packed α] (a : α) (h : sizeof α ≤ maxUrilPayloadSize) :
    (encode a).length ≤ maxUrilPayloadSize := by
  rwa [Packed.length_encode]

theorem Command.request_fits (cmd : Command) : cmd.request.length ≤ maxUrilPayloadSize := by
  cases cmd with
  | setNetworkPreference mode => exact encode_fits mode.val (by decide)
  | setScreenState on => exact encode_fits (_ : UInt8) (by decide)
  | selectAutomatically => exact encode_fits (_ : SelectionReq) (by decide)
  | selectNetwork mcc mnc => exact encode_fits (_ : SelectionReq) (by decide)
  | setRadioMode on => exact encode_fits (_ : UInt32) (by decide)
  | setupDataCall => exact encode_fits (_ : SetupDataCallReq) (by decide)
  | deactivateDataCall => exact encode_fits (_ : DeactivateDataCallReq) (by decide)
  | setInitialAttachParams => exact encode_fits (_ : SetInitialParamsReq) (by decide)
  | _ =>
      show 1 ≤ maxUrilPayloadSize
      decide

/-- The message that the library makes of a command. -/
def Command.message (cmd : Command) (uniqueId : UInt32) (simId : UInt8) : UrilProtocolMsg :=
  { UrilProtocolMsg.zeroed with
    uniqueId := uniqueId
    simId := simId
    msgId := cmd.msgId
    len := UInt16.ofNat cmd.request.length
    payload := overwrite (zeros _) cmd.request }

theorem carries_message (cmd : Command) (uniqueId : UInt32) (simId : UInt8) :
    Carries (cmd.message uniqueId simId) cmd :=
  ⟨rfl, _, overwrite_zeros_toList cmd.request cmd.request_fits⟩

section Path

variable {φ δ : Type}

/-- The arguments of the call hold the command. -/
structure Holds (call : RequestFidelity.Command φ δ) (cmd : Command) : Prop where
  msgId : call.msgId = cmd.msgId
  request : ∃ memory, call.req = some memory ∧ reqBytes memory call.reqLen = cmd.request

theorem requestMsg_of_holds {call : RequestFidelity.Command φ δ} {cmd : Command}
    {memory : Nat → UInt8} (h : Holds call cmd) (hreq : call.req = some memory)
    (uniqueId : UInt32) : requestMsg call memory uniqueId = cmd.message uniqueId call.simId := by
  obtain ⟨hid, memory', hreq', hbytes⟩ := h
  obtain rfl : memory' = memory := Option.some.inj (hreq'.symm.trans hreq)
  have hlength : call.reqLen = cmd.request.length := by rw [← hbytes, reqBytes_length]
  unfold requestMsg Command.message
  rw [hid, hbytes, hlength]

/-- A call that is not rejected and whose message the socket takes whole: behind
the messages sent earlier the pump hands over one message, with the next id, and
what the service does with it makes the command, but for the bearers that stand
for another one. -/
theorem vendor_reads_command (env : Environment) (ctx : Context φ δ) (uniqueMsgId : UInt32)
    (call : RequestFidelity.Command φ δ) (cmd : Command)
    (earlier : List (UrilProtocolMsg × (Nat → UInt8))) (hholds : Holds call cmd)
    (haccepted : ¬ Rejected ctx call) (hsent : ¬ NothingSent env ctx)
    (hwhole : ∀ count, env.send = some count → sizeofMsg ≤ count) :
    ∃ msg, pumpLoop false
        (streamOf earlier ++ (executeCommandAsync env ctx uniqueMsgId call).stream) =
          earlier.map (·.1) ++ [msg] ∧
      msg.isIndication = 0 ∧ msg.uniqueId = uniqueMsgId + 1 ∧ msg.simId = call.simId ∧
      Asks (processRequest msg) (uniqueMsgId + 1) call.simId cmd.merged := by
  obtain ⟨memory, count, hreq, hcount, -, -, hstream⟩ :=
    execute_sent uniqueMsgId haccepted hsent
  refine ⟨cmd.message (uniqueMsgId + 1) call.simId, ?_, rfl, rfl, rfl,
    carries_asks (carries_message cmd _ _)⟩
  rw [hstream, sendMessage_whole _ _ (hwhole count hcount), handed_over,
    requestMsg_of_holds hholds hreq]

def selectSample : Command :=
  .selectNetwork ⟨⟨ascii ['2', '6', '2'], by decide, by decide⟩, by decide⟩
    ⟨ascii ['0', '1'], by decide, by decide⟩

def callSample : RequestFidelity.Command Nat Nat :=
  { hndl := 1, simId := 0, msgId := MsgId.nwSelection
    req := some fun i => selectSample.request.getD i 0, reqLen := 12
    asyncRespCb := none, clientData := none }

/-- A manual selection of a network, as the first request of a client. -/
theorem vendor_reads_command_sample :
    ∃ msg, pumpLoop false (streamOf [] ++ (executeCommandAsync
        ⟨true, true, true, some sizeofMsg, fun _ => 0⟩
        { Context.zeroed with handle := 1, initialized := true } 0 callSample).stream) = [msg] ∧
      msg.isIndication = 0 ∧ msg.uniqueId = 1 ∧ msg.simId = 0 ∧
      Asks (processRequest msg) 1 0 selectSample := by
  have hholds : Holds callSample selectSample := ⟨rfl, _, rfl, by decide⟩
  refine vendor_reads_command _ _ 0 callSample selectSample [] hholds ?_ ?_ ?_
  · simp [Rejected, callSample]
  · simp only [NothingSent, Context.zeroed, not_or]
    exact ⟨by decide, by decide, by decide, by decide, by decide⟩
  · intro count hcount
    exact (Option.some.inj hcount).le

end Path

theorem Asks.unique {run : Except Fault Processed} {uniqueId : UInt32} {simId : UInt8}
    {cmd cmd' : Command} (h : Asks run uniqueId simId cmd) (h' : Asks run uniqueId simId cmd') :
    cmd = cmd' := by
  obtain ⟨effect, hrun, -, hcmd⟩ := h
  obtain ⟨effect', hrun', -, hcmd'⟩ := h'
  obtain rfl : effect = effect' := by simpa [hrun] using hrun'
  exact Option.some.inj (hcmd.symm.trans hcmd')

theorem bearerTech_sameTech {rat : UInt32} (h : rat ≤ UrilDataBearerTech.wlan3gpp) :
    urilDataBearerTechTypeToRilRadioTech (sameTech rat) =
      urilDataBearerTechTypeToRilRadioTech rat :=
  forall_upTo (p := fun rat => urilDataBearerTechTypeToRilRadioTech (sameTech rat) =
    urilDataBearerTechTypeToRilRadioTech rat) (by decide) h

theorem setupDataCall_congr {payload payload' : Payload} {rest rest' : List UInt8}
    {rat : UInt32} {profileId : UInt8} {apn : Text 150} {pdpType authType : UInt32}
    {user password : Text 127} (hrat : rat ≤ UrilDataBearerTech.wlan3gpp)
    (hpayload : payload.toList = encode (⟨rat, profileId, apn.array, pdpType, authType,
      user.array, password.array⟩ : SetupDataCallReq) ++ rest)
    (hpayload' : payload'.toList = encode (⟨sameTech rat, profileId, apn.array, pdpType,
      authType, user.array, password.array⟩ : SetupDataCallReq) ++ rest')
    (uniqueId : UInt32) (simId : UInt8) :
    setupDataCallV1 payload' uniqueId simId = setupDataCallV1 payload uniqueId simId := by
  have hreq : requestOf SetupDataCallReq payload = ⟨rat, profileId, apn.array, pdpType,
      authType, user.array, password.array⟩ := by
    rw [requestOf, hpayload, Packed.decode_encode]
  have hreq' : requestOf SetupDataCallReq payload' = ⟨sameTech rat, profileId, apn.array,
      pdpType, authType, user.array, password.array⟩ := by
    rw [requestOf, hpayload', Packed.decode_encode]
  have hapn := stringAt_field hpayload SetupDataCallReq.apnField (t := apn) rfl
  have hapn' := stringAt_field hpayload' SetupDataCallReq.apnField (t := apn) rfl
  have huser := stringAt_field hpayload SetupDataCallReq.userField (t := user) rfl
  have huser' := stringAt_field hpayload' SetupDataCallReq.userField (t := user) rfl
  have hpassword := stringAt_field hpayload SetupDataCallReq.passwordField (t := password) rfl
  have hpassword' := stringAt_field hpayload' SetupDataCallReq.passwordField (t := password) rfl
  unfold setupDataCallV1
  rw [hreq, hreq', hapn, hapn', huser, huser', hpassword, hpassword']
  simp only [bearerTech_sameTech hrat]

theorem processRequest_setupDataCall {msg : UrilProtocolMsg} {effect : Effect}
    (hid : msg.msgId = MsgId.dataSetupDataCall)
    (hrun : setupDataCallV1 msg.payload msg.uniqueId msg.simId = .ok ⟨[effect], true⟩) :
    processRequest msg = .ok ⟨[effect], true⟩ := by
  have hnetwork : networkMessageProcessor msg = refuse := by
    rw [networkMessageProcessor, hid]
    rfl
  have hradio : radioMessageProcessor msg = refuse := by
    rw [radioMessageProcessor, hid]
    rfl
  have hdata : dataMessageProcessor msg = .ok ⟨[effect], true⟩ := by
    rw [← hrun, dataMessageProcessor, hid]
    rfl
  exact composite_passes hnetwork (composite_passes hradio (composite_takes hdata))

theorem processRequest_merged (cmd : Command) (uniqueId : UInt32) (simId : UInt8) :
    processRequest (cmd.merged.message uniqueId simId) =
      processRequest (cmd.message uniqueId simId) := by
  cases cmd with
  | setupDataCall rat profileId apn pdpType authType user password =>
      obtain ⟨hid, rest, hpayload⟩ := carries_message
        (.setupDataCall rat profileId apn pdpType authType user password) uniqueId simId
      obtain ⟨hid', rest', hpayload'⟩ := carries_message (Command.merged
        (.setupDataCall rat profileId apn pdpType authType user password)) uniqueId simId
      obtain ⟨effect, hrun, -, -⟩ :=
        @setupDataCall_asks _ _ uniqueId simId _ _ _ _ _ _ _ hpayload
      have hrun' := (setupDataCall_congr rat.property hpayload hpayload' uniqueId simId).trans hrun
      rw [processRequest_setupDataCall hid hrun, processRequest_setupDataCall hid' hrun']
  | _ => rfl

/-- Two commands are one request for the vendor just when they differ in bearers
that stand for each other. -/
theorem same_request_iff (cmd cmd' : Command) (uniqueId : UInt32) (simId : UInt8) :
    processRequest (cmd.message uniqueId simId) = processRequest (cmd'.message uniqueId simId) ↔
      cmd.merged = cmd'.merged := by
  constructor
  · intro hsame
    have hasks := carries_asks (carries_message cmd uniqueId simId)
    have hasks' := carries_asks (carries_message cmd' uniqueId simId)
    rw [hsame] at hasks
    exact hasks.unique hasks'
  · intro hmerged
    rw [← processRequest_merged cmd, hmerged, processRequest_merged]

end UnifiedRil.RequestMeaning

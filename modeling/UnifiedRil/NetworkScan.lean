import UnifiedRil.RegistrationStatus

namespace UnifiedRil.NetworkScan

open UnifiedRil.Library.Bytes
open UnifiedRil.Library.CStrings
open UnifiedRil.Library.Layout
open UnifiedRil.Library.Results
open UnifiedRil.Protocol
open UnifiedRil.Messages
open UnifiedRil.Ril
open UnifiedRil.RilConversion
open UnifiedRil.RilHandlers
open UnifiedRil.RilAdapter
open UnifiedRil.RilHazards
open UnifiedRil.RilResponses
open UnifiedRil.ConversionDomains
open UnifiedRil.AnswerFaults
open UnifiedRil.RegistrationAnswers
open UnifiedRil.RegistrationStatus

/-- Four strings of an answer, any of which may be missing. -/
structure Quadruple where
  long : Option CString
  short : Option CString
  numeric : Option CString
  status : Option CString

/-- The complete quadruples of an array. -/
def quadruples : List (Option CString) → List Quadruple
  | long :: short :: numeric :: status :: rest =>
      ⟨long, short, numeric, status⟩ :: quadruples rest
  | _ => []

structure Network where
  long : CString
  short : CString
  numeric : CString
  status : UInt32

/-- What a quadruple describes, if it has all names and a known status. -/
def Quadruple.network (q : Quadruple) : Option Network :=
  match q.long, q.short, q.numeric with
  | some long, some short, some numeric =>
      (q.status.bind networkStatusOf).map fun status => ⟨long, short, numeric, status⟩
  | _, _, _ => none

def networks (texts : List (Option CString)) : List Network :=
  (quadruples texts).filterMap Quadruple.network

def withNames (name : OperatorName) (long short numeric : CString) : OperatorName where
  longEons := withText name.longEons long.chars
  shortEons := withText name.shortEons short.chars
  mcc := withDigits name.mcc numeric.chars
  mnc := withDigits name.mnc (numeric.chars.drop 3)

/-- The entry that a quadruple is decoded into. -/
def withQuadruple (entry : ScanEntry) (q : Quadruple) : ScanEntry :=
  match q.long, q.short, q.numeric with
  | some long, some short, some numeric =>
      { entry with
        operatorName := withNames entry.operatorName long short numeric
        networkStatus := (q.status.bind networkStatusOf).getD entry.networkStatus }
  | _, _, _ => entry

/-- The entries, and how many of them count, after the quadruples of a list. -/
def scanned : List Quadruple → Nat → Vector ScanEntry urilNwScanMaxEntryCount →
    Vector ScanEntry urilNwScanMaxEntryCount × Nat
  | [], numFilled, entries => (entries, numFilled)
  | q :: rest, numFilled, entries =>
      if h : numFilled < urilNwScanMaxEntryCount then
        scanned rest (if q.network.isSome then numFilled + 1 else numFilled)
          (entries.set numFilled (withQuadruple entries[numFilled] q))
      else (entries, numFilled)

/-- Quadruple `i` of an answer. -/
structure HoldsQuadruple (data : RilData) (i : Nat) (q : Quadruple) : Prop where
  inside : 32 * (i + 1) ≤ data.bytes.length
  long : charPtrAt data (8 * (4 * i)) = textPtr q.long
  short : charPtrAt data (8 * (4 * i + 1)) = textPtr q.short
  numeric : charPtrAt data (8 * (4 * i + 2)) = textPtr q.numeric
  status : charPtrAt data (8 * (4 * i + 3)) = textPtr q.status

theorem value_named {initial : OperatorName} (name : Store initial) (chars : List UInt8) :
    (name.snprintf OperatorName.longEonsField chars).value =
        { name.value with longEons := withText name.value.longEons chars } ∧
      (name.snprintf OperatorName.shortEonsField chars).value =
        { name.value with shortEons := withText name.value.shortEons chars } ∧
      (name.strncpy OperatorName.mccField chars 3 mccDigits_le).value =
        { name.value with mcc := withDigits name.value.mcc chars } ∧
      (name.strncpy OperatorName.mncField chars 3 mccDigits_le).value =
        { name.value with mnc := withDigits name.value.mnc chars } :=
  ⟨rfl, rfl, rfl, rfl⟩

theorem operatorName_named {initial : OperatorName} (name : Store initial)
    (long short numeric : CString) :
    Ensures (rilOperatorNameToUrilOperatorName name (.to long) (.to short) (.to numeric)) fun r =>
      r.1.value = withNames name.value long short numeric ∧ r.2 = true := by
  unfold rilOperatorNameToUrilOperatorName
  rw [if_pos ⟨nofun, nofun, nofun⟩]
  dsimp only [CharPtr.string, ok_bind]
  refine .bind_of (afterMcc_chars numeric) fun mnc hmnc => .pure ⟨?_, rfl⟩
  dsimp only
  rw [hmnc, (value_named _ _).2.2.2, (value_named _ _).2.2.1, (value_named _ _).2.1,
    (value_named _ _).1]
  rfl

theorem operatorName_missing {initial : OperatorName} (name : Store initial) {q : Quadruple}
    (h : q.long = none ∨ q.short = none ∨ q.numeric = none) :
    rilOperatorNameToUrilOperatorName name (textPtr q.long) (textPtr q.short)
      (textPtr q.numeric) = .ok (name, false) := by
  apply operatorName_untouched
  rcases h with h | h | h
  · exact .inl (congrArg textPtr h)
  · exact .inr (.inl (congrArg textPtr h))
  · exact .inr (.inr (congrArg textPtr h))

theorem Quadruple.missing_or_named (q : Quadruple) :
    (q.long = none ∨ q.short = none ∨ q.numeric = none) ∧ q.network = none ∧
        (∀ entry, withQuadruple entry q = entry) ∨
      ∃ long short numeric status, q = ⟨some long, some short, some numeric, status⟩ := by
  obtain ⟨long, short, numeric, status⟩ := q
  cases long with
  | none => exact .inl ⟨.inl rfl, rfl, fun _ => rfl⟩
  | some long =>
      cases short with
      | none => exact .inl ⟨.inr (.inl rfl), rfl, fun _ => rfl⟩
      | some short =>
          cases numeric with
          | none => exact .inl ⟨.inr (.inr rfl), rfl, fun _ => rfl⟩
          | some numeric => exact .inr ⟨long, short, numeric, status, rfl⟩

theorem scanQuadruple_scanned {initial : ScanEntry} (entry : Store initial) {data : RilData}
    {i : Nat} {q : Quadruple} (hdata : HoldsQuadruple data i q) :
    Ensures (scanQuadruple entry data i) fun r =>
      r.1.value = withQuadruple entry.value q ∧ r.2 = q.network.isSome := by
  have hinside := hdata.inside
  unfold scanQuadruple
  rw [charPtr_eq (by omega), ok_bind, charPtr_eq (by omega), ok_bind, charPtr_eq (by omega),
    ok_bind, charPtr_eq (by omega), hdata.long, hdata.short, hdata.numeric, hdata.status]
  obtain ⟨hmissing, hnetwork, hentry⟩ | ⟨long, short, numeric, status, rfl⟩ := q.missing_or_named
  · rw [operatorName_missing _ hmissing, hentry, hnetwork]
    exact .pure ⟨rfl, rfl⟩
  · refine .bind_of (operatorName_named _ long short numeric) ?_
    rintro ⟨name, _⟩ ⟨hname, rfl⟩
    dsimp only at hname ⊢
    rw [if_pos rfl, ok_bind]
    have hput : ∀ networkStatus : UInt32,
        { entry.value with operatorName := name.value, networkStatus := networkStatus } =
          { entry.value with
            operatorName := withNames entry.value.operatorName long short numeric
            networkStatus := networkStatus } := by
      intro networkStatus
      rw [hname]
      rfl
    cases status with
    | none => exact .pure ⟨hput entry.value.networkStatus, rfl⟩
    | some status =>
        dsimp only [textPtr, CharPtr.string]
        rw [ok_bind]
        unfold withQuadruple Quadruple.network
        dsimp only [Option.bind_some]
        cases networkStatusOf status with
        | none => exact .pure ⟨hput entry.value.networkStatus, rfl⟩
        | some known => exact .pure ⟨hput known, rfl⟩

theorem scanLoop_scanned {initial : ScanResp} {data : RilData} {qs : List Quadruple}
    (i numFilled : Nat) (irilRsp : Store initial)
    (hdata : ∀ j, ∀ q ∈ qs[j]?, HoldsQuadruple data (i + j) q) :
    Ensures (scanLoop data qs.length i numFilled irilRsp) fun r =>
      r.1.value =
          { irilRsp.value with entries := (scanned qs numFilled irilRsp.value.entries).1 } ∧
        r.2 = (scanned qs numFilled irilRsp.value.entries).2 := by
  induction qs generalizing i numFilled irilRsp with
  | nil => exact .ok ⟨rfl, rfl⟩
  | cons q qs ih =>
      rw [List.length_cons]
      unfold scanLoop scanned
      split
      · rename_i hroom
        refine .bind fun _ => ?_
        refine .bind_of (scanQuadruple_scanned _ (hdata 0 q rfl)) ?_
        rintro ⟨entry, _⟩ ⟨hentry, rfl⟩
        have hrest : ∀ j, ∀ q ∈ qs[j]?, HoldsQuadruple data (i + 1 + j) q := by
          intro j q hq
          rw [Nat.add_assoc, Nat.add_comm 1 j]
          exact hdata (j + 1) q hq
        have hput : (irilRsp.put (ScanResp.entriesField.trans (.elem ⟨numFilled, hroom⟩))
            entry).value =
              { irilRsp.value with
                entries := irilRsp.value.entries.set numFilled
                  (withQuadruple irilRsp.value.entries[numFilled] q) } :=
          congrArg (fun entry : ScanEntry =>
            { irilRsp.value with entries := irilRsp.value.entries.set numFilled entry }) hentry
        intro r hr
        obtain ⟨hvalue, hcount⟩ := ih _ _ _ hrest r hr
        rw [hput] at hvalue hcount
        exact ⟨hvalue, hcount⟩
      · exact .pure ⟨rfl, rfl⟩

structure Shows (entry : ScanEntry) (network : Network) : Prop where
  long : text entry.operatorName.longEons = network.long.chars.take 512
  short : text entry.operatorName.shortEons = network.short.chars.take 512
  codes : Carries entry.operatorName.mcc entry.operatorName.mnc network.numeric
  status : entry.networkStatus = network.status
  rat : entry.rat = 0

/-- What no quadruple writes is zero still. -/
structure Clean (entry : ScanEntry) : Prop where
  mcc : entry.operatorName.mcc[3]? = some 0
  mnc : entry.operatorName.mnc[3]? = some 0
  rat : entry.rat = 0

theorem withDigits_last (code : Vector UInt8 4) (digits : List UInt8) :
    (withDigits code digits)[3]? = code[3]? := by
  simp [withDigits, overwrite]

theorem withQuadruple_named {q : Quadruple} {long short numeric : CString}
    (hlong : q.long = some long) (hshort : q.short = some short)
    (hnumeric : q.numeric = some numeric) (entry : ScanEntry) :
    withQuadruple entry q =
      { entry with
        operatorName := withNames entry.operatorName long short numeric
        networkStatus := (q.status.bind networkStatusOf).getD entry.networkStatus } := by
  rw [withQuadruple, hlong, hshort, hnumeric]

theorem clean_withQuadruple {entry : ScanEntry} (h : Clean entry) (q : Quadruple) :
    Clean (withQuadruple entry q) := by
  obtain ⟨-, -, hentry⟩ | ⟨long, short, numeric, status, rfl⟩ := q.missing_or_named
  · rwa [hentry]
  · rw [withQuadruple_named rfl rfl rfl]
    exact ⟨(withDigits_last entry.operatorName.mcc numeric.chars).trans h.mcc,
      (withDigits_last entry.operatorName.mnc (numeric.chars.drop 3)).trans h.mnc, h.rat⟩

theorem exists_of_network {q : Quadruple} {network : Network} (h : q.network = some network) :
    q.long = some network.long ∧ q.short = some network.short ∧
      q.numeric = some network.numeric ∧ q.status.bind networkStatusOf = some network.status := by
  obtain ⟨long, short, numeric, status⟩ := q
  unfold Quadruple.network at h
  dsimp only at h ⊢
  split at h
  · obtain ⟨known, hknown, rfl⟩ := Option.map_eq_some_iff.mp h
    exact ⟨rfl, rfl, rfl, hknown⟩
  · cases h

theorem shows_withQuadruple {entry : ScanEntry} (h : Clean entry) {q : Quadruple}
    {network : Network} (hq : q.network = some network) :
    Shows (withQuadruple entry q) network := by
  obtain ⟨hlong, hshort, hnumeric, hstatus⟩ := exists_of_network hq
  have hentry : withQuadruple entry q =
      { entry with
        operatorName := withNames entry.operatorName network.long network.short network.numeric
        networkStatus := network.status } := by
    rw [withQuadruple_named hlong hshort hnumeric, hstatus]
    rfl
  rw [hentry]
  constructor
  · exact text_withText (by decide) _ network.long.noNul
  · exact text_withText (by decide) _ network.short.noNul
  · exact ⟨text_withDigits h.mcc network.numeric.noNul,
      text_withDigits h.mnc fun hmem => network.numeric.noNul (List.mem_of_mem_drop hmem)⟩
  · rfl
  · exact h.rat

/-- The first entries show the networks found so far. -/
structure Filled (found : List Network) (entries : Vector ScanEntry urilNwScanMaxEntryCount) :
    Prop where
  shown : ∀ k : Nat, ∀ network ∈ found[k]?, ∃ entry ∈ entries[k]?, Shows entry network
  clean : ∀ k : Nat, found.length ≤ k → ∀ entry ∈ entries[k]?, Clean entry

section Filling

variable {found : List Network} {entries : Vector ScanEntry urilNwScanMaxEntryCount}
  {entry : ScanEntry}

theorem Filled.skip (h : Filled found entries) (hroom : found.length < urilNwScanMaxEntryCount)
    (hentry : Clean entry) : Filled found (entries.set found.length entry) where
  shown k network hnetwork := by
    have hlt : k < found.length := (List.getElem?_eq_some_iff.mp hnetwork).1
    rw [Vector.getElem?_set_ne hroom (Nat.ne_of_gt hlt)]
    exact h.shown k network hnetwork
  clean k hk other hother := by
    obtain hlt | rfl := hk.lt_or_eq
    · rw [Vector.getElem?_set_ne hroom (Nat.ne_of_lt hlt)] at hother
      exact h.clean k hk other hother
    · rw [Vector.getElem?_set_self hroom] at hother
      exact Option.some.inj hother ▸ hentry

theorem Filled.add (h : Filled found entries) (hroom : found.length < urilNwScanMaxEntryCount)
    {network : Network} (hshows : Shows entry network) :
    Filled (found ++ [network]) (entries.set found.length entry) where
  shown k other hother := by
    obtain hlt | rfl | hgt := Nat.lt_trichotomy k found.length
    · rw [Vector.getElem?_set_ne hroom (Nat.ne_of_gt hlt)]
      rw [List.getElem?_append_left hlt] at hother
      exact h.shown k other hother
    · rw [List.getElem?_concat_length] at hother
      obtain rfl : network = other := Option.some.inj hother
      exact ⟨entry, Vector.getElem?_set_self hroom, hshows⟩
    · have hlength : (found ++ [network]).length ≤ k := List.length_append.trans_le hgt
      rw [List.getElem?_eq_none hlength] at hother
      cases hother
  clean k hk other hother := by
    have hlt : found.length < k := List.length_append.symm.trans_le hk
    rw [Vector.getElem?_set_ne hroom (Nat.ne_of_lt hlt)] at hother
    exact h.clean k hlt.le other hother

end Filling

theorem scanned_filled (qs : List Quadruple) {found : List Network}
    {entries : Vector ScanEntry urilNwScanMaxEntryCount}
    (hroom : found.length ≤ urilNwScanMaxEntryCount) (h : Filled found entries) :
    (scanned qs found.length entries).2 =
        ((found ++ qs.filterMap Quadruple.network).take urilNwScanMaxEntryCount).length ∧
      Filled ((found ++ qs.filterMap Quadruple.network).take urilNwScanMaxEntryCount)
        (scanned qs found.length entries).1 := by
  induction qs generalizing found entries with
  | nil =>
      rw [List.filterMap_nil, List.append_nil, List.take_of_length_le hroom]
      exact ⟨rfl, h⟩
  | cons q qs ih =>
      rw [scanned]
      split
      · rename_i hlt
        have hclean : Clean entries[found.length] :=
          h.clean found.length (Nat.le_refl _) _ (Vector.getElem?_eq_getElem hlt)
        cases hnetwork : q.network with
        | none =>
            rw [List.filterMap_cons_none hnetwork]
            exact ih hroom (h.skip hlt (clean_withQuadruple hclean q))
        | some network =>
            have hadd := h.add hlt (shows_withQuadruple hclean hnetwork)
            have hlength : (found ++ [network]).length = found.length + 1 := List.length_append
            have hnext := ih (by rwa [hlength]) hadd
            rw [hlength, List.append_assoc] at hnext
            rw [List.filterMap_cons_some hnetwork]
            exact hnext
      · rename_i hfull
        have hlength : found.length = urilNwScanMaxEntryCount :=
          Nat.le_antisymm hroom (Nat.not_lt.mp hfull)
        rw [List.take_append_of_le_length hlength.ge, List.take_of_length_le hroom]
        exact ⟨rfl, h⟩

/-- An answer that is an array of texts, any of which may be missing. -/
structure HoldsTexts (data : RilData) (texts : List (Option CString)) : Prop where
  dataLen : data.dataLen = 8 * texts.length
  bytes : data.bytes.length = data.dataLen
  entry : ∀ i < texts.length, charPtrAt data (8 * i) = textPtr texts[i]?.join

theorem holdsTexts_textArray {texts : List (Option CString)} (h : texts.length < 2 ^ 63) :
    HoldsTexts (textArray texts) texts where
  dataLen := rfl
  bytes := (length_textArray texts).trans (Nat.mul_comm ..)
  entry _ hi := charPtrAt_textArray h hi

theorem length_quadruples (texts : List (Option CString)) :
    (quadruples texts).length = texts.length / 4 := by
  induction texts using quadruples.induct with
  | case1 long short numeric status rest ih =>
      rw [quadruples, List.length_cons, ih]
      simp only [List.length_cons]
      omega
  | case2 texts hshort =>
      rw [quadruples]
      · rcases texts with _ | ⟨_, _ | ⟨_, _ | ⟨_, _ | ⟨_, rest⟩⟩⟩⟩
        · rfl
        · simp
        · simp
        · simp
        · exact (hshort _ _ _ _ _ rfl).elim
      · exact hshort

theorem getElem?_quadruples (texts : List (Option CString)) {i : Nat} {q : Quadruple}
    (h : q ∈ (quadruples texts)[i]?) :
    4 * i + 3 < texts.length ∧ texts[4 * i]?.join = q.long ∧ texts[4 * i + 1]?.join = q.short ∧
      texts[4 * i + 2]?.join = q.numeric ∧ texts[4 * i + 3]?.join = q.status := by
  induction texts using quadruples.induct generalizing i with
  | case1 long short numeric status rest ih =>
      rw [quadruples] at h
      cases i with
      | zero =>
          obtain rfl : ⟨long, short, numeric, status⟩ = q := Option.some.inj h
          exact ⟨by simp, rfl, rfl, rfl, rfl⟩
      | succ i =>
          obtain ⟨hlt, hentries⟩ := ih h
          refine ⟨?_, hentries⟩
          simp only [List.length_cons]
          omega
  | case2 texts hshort =>
      rw [quadruples] at h
      · cases h
      · exact hshort

theorem HoldsTexts.quadruple {data : RilData} {texts : List (Option CString)}
    (h : HoldsTexts data texts) {i : Nat} {q : Quadruple} (hq : q ∈ (quadruples texts)[i]?) :
    HoldsQuadruple data i q := by
  obtain ⟨hlt, hlong, hshort, hnumeric, hstatus⟩ := getElem?_quadruples texts hq
  refine ⟨?_, ?_, ?_, ?_, ?_⟩
  · rw [h.bytes, h.dataLen]
    omega
  · rw [h.entry _ (by omega), hlong]
  · rw [h.entry _ (by omega), hshort]
  · rw [h.entry _ (by omega), hnumeric]
  · rw [h.entry _ (by omega), hstatus]

theorem HoldsTexts.numQuadruples_eq {data : RilData} {texts : List (Option CString)}
    (h : HoldsTexts data texts) : numQuadruples data = intBound (quadruples texts).length := by
  rw [numQuadruples, h.dataLen, Nat.mul_div_cancel_left _ (by decide), length_quadruples]

/-- The numeric names of an array have at least the three digits of a country. -/
def NumericsReadable (texts : List (Option CString)) : Prop :=
  ∀ q ∈ quadruples texts, ∀ numeric ∈ q.numeric, 3 ≤ numeric.chars.length

/-- The quadruples that are looked at have indices that an `int` can be multiplied
to. -/
def EndsInTime (texts : List (Option CString)) : Prop :=
  (quadruples texts).length ≤ 2 ^ 29 ∨
    urilNwScanMaxEntryCount ≤
      (((quadruples texts).take (2 ^ 29)).filterMap Quadruple.network).length

theorem counts_eq {data : RilData} {i : Nat} {q : Quadruple} (hdata : HoldsQuadruple data i q) :
    quadrupleCounts data i = q.network.isSome := by
  obtain ⟨-, hlong, hshort, hnumeric, hstatus⟩ := hdata
  unfold quadrupleCounts quadrupleNamed
  rw [hlong, hshort, hnumeric, hstatus]
  obtain ⟨_ | long, _ | short, _ | numeric, _ | status⟩ := q
  all_goals simp [textPtr, Quadruple.network]

theorem HoldsTexts.countP_eq {data : RilData} {texts : List (Option CString)}
    (h : HoldsTexts data texts) {n : Nat} (hn : n ≤ (quadruples texts).length) :
    (List.range n).countP (quadrupleCounts data) =
      (((quadruples texts).take n).filterMap Quadruple.network).length := by
  induction n with
  | zero => rfl
  | succ n ih =>
      have hq : (quadruples texts)[n]? = some (quadruples texts)[n] := List.getElem?_eq_getElem hn
      have hcounts := counts_eq (h.quadruple hq)
      rw [List.range_succ, List.countP_append, ih (Nat.le_of_succ_le hn), List.take_add_one, hq,
        List.filterMap_append, List.length_append, List.countP_singleton, hcounts]
      congr 1
      cases hnetwork : (quadruples texts)[n].network with
      | none => simp [hnetwork]
      | some network => simp [hnetwork]

theorem scanAcceptable_of_none {data : RilData} (h : numQuadruples data = 0) :
    ScanAcceptable data :=
  ⟨.inl h, fun i hi => absurd (h ▸ hi) (Nat.not_lt_zero i)⟩

theorem scanAcceptable_of_texts {data : RilData} {texts : List (Option CString)}
    (h : HoldsTexts data texts) (hnumeric : NumericsReadable texts) (htime : EndsInTime texts) :
    ScanAcceptable data := by
  constructor
  · rw [h.numQuadruples_eq]
    by_cases hzero : (quadruples texts).length = 0
    · rw [hzero]
      exact .inl rfl
    · refine .inr (List.ne_nil_of_length_pos ?_)
      rw [length_quadruples] at hzero
      rw [h.bytes, h.dataLen]
      omega
  · intro i hi hroom
    rw [h.numQuadruples_eq] at hi
    have hlt : i < (quadruples texts).length := Nat.lt_of_lt_of_le hi (intBound_le _)
    have hq : (quadruples texts)[i]? = some (quadruples texts)[i] := List.getElem?_eq_getElem hlt
    refine ⟨?_, fun hnamed => ?_⟩
    · -- the room is used up by then, if there are so many of them
      by_contra hlate
      have hle : 2 ^ 29 ≤ i := Nat.not_lt.mp hlate
      rcases htime with hshort | hfull
      · exact hlate (Nat.lt_of_lt_of_le hlt hshort)
      · have hmono : (List.range (2 ^ 29)).countP (quadrupleCounts data) ≤
            (List.range i).countP (quadrupleCounts data) :=
          List.Sublist.countP_le (List.range_sublist.mpr hle)
        rw [h.countP_eq (hle.trans hlt.le)] at hmono
        exact absurd hroom (Nat.not_lt.mpr (hfull.trans hmono))
    · obtain ⟨-, hlong, hshort, hnum, hstatus⟩ := h.quadruple hq
      have hpresent := (quadrupleNamed_iff.mp hnamed).2.2
      rw [hlong, hshort, hnum, hstatus]
      refine ⟨textPtr_ne_wild _, textPtr_ne_wild _, ?_, textPtr_ne_wild _⟩
      rw [hnum] at hpresent
      cases hname : (quadruples texts)[i].numeric with
      | none =>
          rw [hname] at hpresent
          exact absurd rfl hpresent
      | some numeric =>
          exact numericReadable_to.mpr (hnumeric _ (List.getElem_mem hlt) numeric hname)

def blankEntry : ScanEntry := ⟨⟨zeros 513, zeros 513, zeros 4, zeros 4⟩, 0, 0⟩

def blankScan : ScanResp := ⟨⟨0, 0⟩, 0, 0, .replicate _ blankEntry⟩

theorem blank_zeros (n : Nat) : Blank (zeros n) := blank_uint8.replicate n

theorem blank_entry : Blank blankEntry :=
  Blank.pair
    (Blank.pair (blank_zeros 513) ((blank_zeros 513).pair ((blank_zeros 4).pair (blank_zeros 4))))
    (blank_uint32.pair blank_uint32)

theorem structOf_scan (uniqueId : UInt32) (simId : UInt8) :
    structOf ScanResp (responseOf (makeTokenForMessage .queryAvailableNetworks uniqueId simId)) =
      blankScan :=
  structOf_fresh rfl
    (blank_response.pair (blank_uint8.pair (blank_uint32.pair (blank_entry.replicate _))))

theorem filled_blank : Filled [] blankScan.entries where
  shown := nofun
  clean k _ entry hentry := by
    obtain rfl : blankEntry = entry := by
      obtain ⟨hlt, helem⟩ := Vector.getElem?_eq_some_iff.mp hentry
      rw [← helem]
      exact (Vector.getElem_replicate hlt).symm
    exact ⟨rfl, rfl, rfl⟩

def scanOf (handled : Handled) : ScanResp := decode handled.structBytes

/-- The entries after a scan, as far as the quadruples are counted. -/
def entriesOf (data : RilData) (texts : List (Option CString)) :
    Vector ScanEntry urilNwScanMaxEntryCount × Nat :=
  scanned ((quadruples texts).take (numQuadruples data)) 0 blankScan.entries

theorem availableNetworks_scanned {uniqueId : UInt32} {simId : UInt8} {data : RilData}
    {texts : List (Option CString)} (hdata : HoldsTexts data texts) :
    Ensures (handleRilAvailableNetworksResponseV1
        (responseOf (makeTokenForMessage .queryAvailableNetworks uniqueId simId)) .success data)
      fun handled =>
        scanOf handled =
            { response := responseFor .success
              entriesFollows := 1
              entriesLen := UInt32.ofNat (entriesOf data texts).2
              entries := (entriesOf data texts).1 } ∧
          ∀ x ∈ handled.extents, x.stop ≤ sizeof ScanResp := by
  unfold handleRilAvailableNetworksResponseV1
  dsimp only
  rw [if_pos rfl, ← numQuadruples.eq_def]
  have hlength : ((quadruples texts).take (numQuadruples data)).length = numQuadruples data := by
    rw [List.length_take, hdata.numQuadruples_eq]
    exact Nat.min_eq_left (intBound_le _)
  have hread : ∀ j, ∀ q ∈ ((quadruples texts).take (numQuadruples data))[j]?,
      HoldsQuadruple data (0 + j) q := by
    intro j q hq
    rw [Nat.zero_add]
    rw [List.getElem?_take] at hq
    split at hq
    · exact hdata.quadruple hq
    · cases hq
  generalize hstart : (startStruct ScanResp.responseField (responseOf (makeTokenForMessage
    .queryAvailableNetworks uniqueId simId)) .success).write ScanResp.entriesFollowsField 1 = start
  have hvalue : start.value =
      { blankScan with response := responseFor .success, entriesFollows := 1 } := by
    rw [← hstart]
    exact congrArg (fun scan : ScanResp =>
      { scan with response := responseFor .success, entriesFollows := 1 })
      (structOf_scan uniqueId simId)
  have hloop := scanLoop_scanned 0 0 start hread
  rw [hlength, hvalue] at hloop
  refine .bind_of hloop ?_
  rintro ⟨irilRsp, count⟩ ⟨hscanned, hcount⟩
  refine .pure ⟨?_, fun x hx => Store.fits _ x hx⟩
  rw [scanOf, respond, decode_encode_self]
  change { irilRsp.value with entriesLen := UInt32.ofNat count } = _
  dsimp only at hscanned hcount
  rw [hscanned, hcount]
  rfl

/-- The networks that were found are reported, as far as there is room for
them, and nothing is written behind the entries. -/
structure Reported (found : List Network) (handled : Handled) : Prop where
  follows : (scanOf handled).entriesFollows = 1
  length : (scanOf handled).entriesLen.toNat = (found.take urilNwScanMaxEntryCount).length
  entries : ∀ i : Nat, ∀ network ∈ (found.take urilNwScanMaxEntryCount)[i]?,
    ∃ entry ∈ (scanOf handled).entries[i]?, Shows entry network
  inside : ∀ x ∈ handled.extents, x.stop ≤ sizeof ScanResp

theorem availableNetworks_ok (uniqueId : UInt32) (simId : UInt8) {data : RilData}
    (h : ScanAcceptable data) :
    ∃ handled,
      handleRilAvailableNetworksResponseV1
          (responseOf (makeTokenForMessage .queryAvailableNetworks uniqueId simId)) .success
          data = .ok handled :=
  availableNetworks_succeeds.mpr fun _ => h

/-- A scan reports the networks in their order, skipped quadruples or not. -/
theorem networks_reported (uniqueId : UInt32) (simId : UInt8) {data : RilData}
    {texts : List (Option CString)} (hdata : HoldsTexts data texts)
    (hnumeric : NumericsReadable texts) (htime : EndsInTime texts)
    (hcount : texts.length / 4 < 2 ^ 31) :
    ∃ handled,
      handleRilAvailableNetworksResponseV1
          (responseOf (makeTokenForMessage .queryAvailableNetworks uniqueId simId)) .success
          data = .ok handled ∧
        Reported (networks texts) handled := by
  obtain ⟨handled, hhandled⟩ :=
    availableNetworks_ok uniqueId simId (scanAcceptable_of_texts hdata hnumeric htime)
  obtain ⟨hscan, hinside⟩ := availableNetworks_scanned hdata handled hhandled
  have hall : (quadruples texts).take (numQuadruples data) = quadruples texts := by
    rw [hdata.numQuadruples_eq, intBound_of_lt (by rwa [length_quadruples]), List.take_length]
  obtain ⟨hlength, hfilled⟩ := scanned_filled (quadruples texts) (Nat.zero_le _) filled_blank
  rw [entriesOf, hall] at hscan
  refine ⟨handled, hhandled, ?_, ?_, ?_, hinside⟩
  · rw [hscan]
  · rw [hscan]
    refine (congrArg (fun n => (UInt32.ofNat n).toNat) hlength).trans ?_
    rw [UInt32.toNat_ofNat', Nat.mod_eq_of_lt]
    · rfl
    · exact Nat.lt_of_le_of_lt (List.length_take_le ..) (by decide)
  · rw [hscan]
    exact hfilled.shown

def currentText : CString := ⟨ascii ['c', 'u', 'r', 'r', 'e', 'n', 't'], by decide⟩

/-- A quadruple without a status, and a network. -/
def skippedTexts : List (Option CString) :=
  [some ⟨ascii ['x', 'y', 'z'], by decide⟩, some ⟨[], by decide⟩, some numericName, none,
    some ⟨ascii ['a'], by decide⟩, some ⟨[], by decide⟩, some numericName, some currentText]

theorem skippedTexts_readable : NumericsReadable skippedTexts := by
  intro q hq numeric hnumeric
  simp only [skippedTexts, quadruples, List.mem_cons, List.not_mem_nil, or_false] at hq
  rcases hq with rfl | rfl
  · exact Option.some.inj hnumeric ▸ by decide
  · exact Option.some.inj hnumeric ▸ by decide

theorem networks_reported_skipped :
    ∃ handled,
      handleRilAvailableNetworksResponseV1
          (responseOf (makeTokenForMessage .queryAvailableNetworks 1 0)) .success
          (textArray skippedTexts) = .ok handled ∧
        Reported (networks skippedTexts) handled :=
  networks_reported 1 0 (holdsTexts_textArray (by decide)) skippedTexts_readable
    (.inl (by decide)) (by decide)

/-- So many quadruples that their number is negative as an `int`. -/
def manyTexts : List (Option CString) := List.replicate (2 ^ 33) (some currentText)

theorem quadruple_replicate {n i : Nat} {text : Option CString} {q : Quadruple}
    (h : q ∈ (quadruples (List.replicate n text))[i]?) : q = ⟨text, text, text, text⟩ := by
  obtain ⟨hlt, hlong, hshort, hnumeric, hstatus⟩ := getElem?_quadruples _ h
  rw [List.length_replicate] at hlt
  have hentry : ∀ k < n, (List.replicate n text)[k]?.join = text := by
    intro k hk
    rw [List.getElem?_replicate, if_pos hk]
    rfl
  rw [hentry _ (by omega)] at hlong hshort hnumeric hstatus
  obtain ⟨long, short, numeric, status⟩ := q
  dsimp only at hlong hshort hnumeric hstatus
  rw [← hlong, ← hshort, ← hnumeric, ← hstatus]

theorem networks_manyTexts_ne : networks manyTexts ≠ [] := by
  have hlt : 0 < (quadruples manyTexts).length := by
    rw [length_quadruples, manyTexts, List.length_replicate]
    decide
  obtain ⟨network, hnetwork⟩ : ∃ network, (quadruples manyTexts)[0].network = some network := by
    rw [quadruple_replicate (List.getElem?_eq_getElem hlt)]
    exact ⟨_, rfl⟩
  exact List.ne_nil_of_mem (List.mem_filterMap.mpr ⟨_, List.getElem_mem hlt, hnetwork⟩)

/-- One quadruple more than there are indices that an `int` can be multiplied to, and
all texts missing. -/
def missingTexts : List (Option CString) := List.replicate (4 * (2 ^ 29 + 1)) none

theorem holdsTexts_missing : HoldsTexts (textArray missingTexts) missingTexts := by
  apply holdsTexts_textArray
  rw [missingTexts, List.length_replicate]
  decide

theorem missingTexts_readable : NumericsReadable missingTexts := by
  intro q hq numeric hnumeric
  obtain ⟨i, hi⟩ := List.mem_iff_getElem?.mp hq
  rw [quadruple_replicate hi] at hnumeric
  cases hnumeric

theorem missingTexts_unacceptable : ¬ ScanAcceptable (textArray missingTexts) := by
  intro hacceptable
  have hlength : (quadruples missingTexts).length = 2 ^ 29 + 1 := by
    rw [length_quadruples, missingTexts, List.length_replicate]
    decide
  have hnone : ∀ q ∈ (quadruples missingTexts).take (2 ^ 29), q.network = none := by
    intro q hq
    obtain ⟨i, hi⟩ := List.mem_iff_getElem?.mp (List.mem_of_mem_take hq)
    rw [quadruple_replicate hi]
    rfl
  refine absurd (hacceptable.2 (2 ^ 29) ?_ ?_).1 (Nat.lt_irrefl _)
  · rw [holdsTexts_missing.numQuadruples_eq, hlength]
    decide
  · rw [holdsTexts_missing.countP_eq (hlength ▸ Nat.le_succ _),
      List.filterMap_eq_nil_iff.mpr hnone]
    decide

theorem mem_withText_withText :
    0x7a ∈ (withText (withText (zeros 513) (ascii ['x', 'y', 'z'])) (ascii ['a'])).toList := by
  rw [withText, overwrite_toList_append _ (by decide), withText,
    overwrite_toList_append _ (by decide)]
  exact List.mem_append_right _ List.mem_cons_self

/-- Behind the terminator of its name, an entry has what was left of a quadruple
that was skipped; a number of quadruples that an `int` cannot hold counts as none;
and the handler gets no answer done that has it multiply an `int` past its end. -/
theorem skipped_quadruple_left_behind :
    (∃ handled,
      handleRilAvailableNetworksResponseV1
            (responseOf (makeTokenForMessage .queryAvailableNetworks 1 0)) .success
            (textArray skippedTexts) = .ok handled ∧
          (scanOf handled).entriesLen = 1 ∧
            (∃ entry ∈ (scanOf handled).entries[0]?, 0x7a ∈ entry.operatorName.longEons.toList) ∧
              ∀ network ∈ networks skippedTexts, 0x7a ∉ network.long.chars) ∧
      (∃ handled,
        handleRilAvailableNetworksResponseV1
              (responseOf (makeTokenForMessage .queryAvailableNetworks 1 0)) .success
              (textArray manyTexts) = .ok handled ∧
            (scanOf handled).entriesLen = 0 ∧ networks manyTexts ≠ []) ∧
        NumericsReadable missingTexts ∧
          ¬ ∃ handled,
            handleRilAvailableNetworksResponseV1
                (responseOf (makeTokenForMessage .queryAvailableNetworks 1 0)) .success
                (textArray missingTexts) = .ok handled := by
  refine ⟨?_, ?_, missingTexts_readable, ?_⟩
  · have hdata : HoldsTexts (textArray skippedTexts) skippedTexts :=
      holdsTexts_textArray (by decide)
    obtain ⟨handled, hhandled⟩ := availableNetworks_ok 1 0
      (scanAcceptable_of_texts hdata skippedTexts_readable (.inl (by decide)))
    obtain ⟨hscan, -⟩ := availableNetworks_scanned hdata handled hhandled
    refine ⟨handled, hhandled, ?_, ?_, ?_⟩
    · rw [hscan]
      rfl
    · rw [hscan]
      exact ⟨_, rfl, mem_withText_withText⟩
    · decide
  · have hdata : HoldsTexts (textArray manyTexts) manyTexts := by
      apply holdsTexts_textArray
      rw [manyTexts, List.length_replicate]
      decide
    have hnone : numQuadruples (textArray manyTexts) = 0 := by
      rw [hdata.numQuadruples_eq, length_quadruples, manyTexts, List.length_replicate]
      decide
    obtain ⟨handled, hhandled⟩ := availableNetworks_ok 1 0 (scanAcceptable_of_none hnone)
    obtain ⟨hscan, -⟩ := availableNetworks_scanned hdata handled hhandled
    refine ⟨handled, hhandled, ?_, networks_manyTexts_ne⟩
    rw [hscan, entriesOf, hnone]
    rfl
  · rintro ⟨handled, hhandled⟩
    exact missingTexts_unacceptable (availableNetworks_succeeds.mp ⟨handled, hhandled⟩ rfl)

end UnifiedRil.NetworkScan

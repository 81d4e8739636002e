import UnifiedRil.SynchronousCleanup

namespace UnifiedRil.SynchronousResult

open UnifiedRil.Library.Runs
open UnifiedRil.Protocol
open UnifiedRil.Client
open UnifiedRil.ClientRuns hiding State Action step
open UnifiedRil.SynchronousCommand
open UnifiedRil.SynchronousCleanup (initLibrary sendSync respond)

inductive Note
  /-- `async_cb` is called with the response to the call's own request -/
  | delivered (k : Nat) (payload : Vector UInt8 maxUrilPayloadSize)
  | deadline (k : Nat)
  deriving DecidableEq

def Note.call : Note → Nat
  | .delivered k _ | .deadline k => k

/-- The message is the response to the request that call `k` sent. -/
def isOwnResponse (s : State) (k : Nat) (msg : UrilProtocolMsg) : Bool :=
  match s.client.calls k with
  | some ⟨_, _, .holding .sent uniqueId _⟩ => uniqueId == msg.uniqueId
  | _ => false

def notes (s : State) : Action → List Note
  | .wake k true => [.deadline k]
  | .receive msg =>
      match receiveTarget s msg with
      | some (.asyncCb, some (.params k)) =>
          if isOwnResponse s k msg then [.delivered k msg.payload] else []
      | _ => []
  | _ => []

/-- No wait ends at the deadline after the response was given to `async_cb`, or
without a signal before `params.condition` is set. -/
def wakesInTime (s : State) : Action → Bool
  | .wake k timedOut => (s.sync k).all fun y => if timedOut then !y.handed else y.condition
  | _ => true

/-- What `async_cb` is given for a call is the response to its request, and
nothing else is given parameters of a call. -/
def givesOwn (s : State) : Action → Bool
  | .receive msg =>
      match receiveTarget s msg with
      | some (.asyncCb, some (.params k)) => isOwnResponse s k msg
      | some (.asyncCb, some (.application _)) => false
      | some (.application _, some (.params _)) => false
      | _ => true
  | _ => true

/-- `async_cb` neither gets nor uses parameters of a call that has returned. -/
def usesLive (s : State) : Action → Bool
  | .receive msg =>
      match receiveTarget s msg with
      | some (_, some (.params k)) => !s.hasReturned k
      | _ => true
  | .runAsyncCb => s.asyncCb.all fun r => !s.hasReturned r.call
  | _ => true

def learnsInTime (s : State) (a : Action) : Bool :=
  wakesInTime s a && givesOwn s a && usesLive s a

def resultOf : SyncPhase → Option Int
  | .exiting ret | .returned ret => some ret
  | _ => none

/-- The response was delivered before the call gave up its wait. -/
def InTime (record : List Note) (k : Nat) : Prop :=
  ∃ later payload earlier, record = later ++ .delivered k payload :: earlier ∧
    .deadline k ∉ earlier

/-- What `resp` points to begins with the payload of a response that was
delivered. -/
def Copied (record : List Note) (k : Nat) (y : Sync) : Prop :=
  ∃ payload, .delivered k payload ∈ record ∧
    y.resp = payload.toList.take (min y.respLen maxUrilPayloadSize)

/-- A call that has its result returns 0 if and only if its response was
delivered in time, which `resp` then has. -/
def Exact (s : State) (record : List Note) : Prop :=
  ∀ k y ret, s.sync k = some y → resultOf y.phase = some ret →
    (ret = 0 ↔ InTime record k) ∧ (ret = 0 → Copied record k y)

theorem inTime_cons {n : Note} {record : List Note} {k : Nat} :
    InTime (n :: record) k ↔
      InTime record k ∨ (∃ payload, n = .delivered k payload) ∧ .deadline k ∉ record := by
  constructor
  · rintro ⟨later, payload, earlier, heq, hearlier⟩
    cases later with
    | nil =>
        obtain ⟨rfl, rfl⟩ := List.cons.inj heq
        exact .inr ⟨⟨payload, rfl⟩, hearlier⟩
    | cons m later =>
        obtain ⟨rfl, rfl⟩ := List.cons.inj heq
        exact .inl ⟨later, payload, earlier, rfl, hearlier⟩
  · rintro (⟨later, payload, earlier, rfl, hearlier⟩ | ⟨⟨payload, rfl⟩, hbefore⟩)
    · exact ⟨n :: later, payload, earlier, rfl, hearlier⟩
    · exact ⟨[], payload, record, rfl, hbefore⟩

theorem InTime.delivered {record : List Note} {k : Nat} (h : InTime record k) :
    ∃ payload, .delivered k payload ∈ record := by
  obtain ⟨later, payload, earlier, rfl, -⟩ := h
  exact ⟨payload, by simp⟩

theorem inTime_of_mem {record : List Note} {k : Nat} {payload : Vector UInt8 maxUrilPayloadSize}
    (hmem : .delivered k payload ∈ record) (hnot : .deadline k ∉ record) : InTime record k := by
  obtain ⟨later, earlier, rfl⟩ := List.append_of_mem hmem
  refine ⟨later, payload, earlier, rfl, ?_⟩
  intro hearlier
  exact hnot (by simp [hearlier])

/-- The request of call `k` was sent. -/
def Sent (s : ClientRuns.State Callback ClientData) (k : Nat) : Prop :=
  ∃ c u i, s.calls k = some c ∧ c.phase = .holding .sent u i

/-- Call `k` ended without sending its request. -/
def NotSent (s : ClientRuns.State Callback ClientData) (k : Nat) : Prop :=
  ∃ c, s.calls k = some c ∧
    ((∃ u, c.phase = .refused u) ∨ ∃ u i, c.phase = .holding .sendFailed u i)

theorem not_sent_of_notSent {s : ClientRuns.State Callback ClientData} {k : Nat}
    (hnot : NotSent s k) : ¬ Sent s k := by
  rintro ⟨c, u, i, hc, hsent⟩
  obtain ⟨c', hc', hphase⟩ := hnot
  obtain rfl : c' = c := Option.some.inj (hc'.symm.trans hc)
  rcases hphase with ⟨u', hrefused⟩ | ⟨u', i', hfailed⟩
  · simp [hrefused] at hsent
  · simp [hfailed] at hsent

theorem Sent.step {s t : ClientRuns.State Callback ClientData}
    {a : ClientRuns.Action Callback ClientData} {k : Nat} (hsent : Sent s k) (h : Slots s)
    (hstep : ClientRuns.step s a = some t) : Sent t k := by
  obtain ⟨c, u, i, hc, hphase⟩ := hsent
  exact ⟨c, u, i, calls_step_of_final h hstep hc (by rw [hphase]; rfl), hphase⟩

theorem NotSent.step {s t : ClientRuns.State Callback ClientData}
    {a : ClientRuns.Action Callback ClientData} {k : Nat} (hnot : NotSent s k) (h : Slots s)
    (hstep : ClientRuns.step s a = some t) : NotSent t k := by
  obtain ⟨c, hc, hphase⟩ := hnot
  refine ⟨c, calls_step_of_final h hstep hc ?_, hphase⟩
  rcases hphase with ⟨u, hrefused⟩ | ⟨u, i, hfailed⟩
  · rw [hrefused]
    rfl
  · rw [hfailed]
    rfl

theorem sent_of_isOwnResponse {s : State} {k : Nat} {msg : UrilProtocolMsg}
    (h : isOwnResponse s k msg = true) : Sent s.client k := by
  unfold isOwnResponse at h
  split at h
  · rename_i cb data u i hc
    exact ⟨_, u, i, hc, rfl⟩
  · cases h

/-- What is known of a call and of the notes about it. -/
structure Told (client : ClientRuns.State Callback ClientData) (record : List Note) (k : Nat)
    (y : Sync) : Prop where
  numbered : k < client.nextCall
  handed : ∀ payload, .delivered k payload ∈ record → y.handed = true
  deadline : .deadline k ∈ record → resultOf y.phase = some (-1)
  copied : y.condition = true → Copied record k y
  woken : y.phase = .woken → y.condition = true
  zero : resultOf y.phase = some 0 → y.condition = true
  failed : ∀ ret, resultOf y.phase = some ret → ret ≠ 0 →
    .deadline k ∈ record ∧ ¬ InTime record k ∨ NotSent client k

structure Punctual (s : State) (record : List Note) : Prop where
  slots : Slots s.client
  told : ∀ k y, s.sync k = some y → Told s.client record k y
  sent : ∀ k payload, .delivered k payload ∈ record → Sent s.client k
  known : ∀ k, .deadline k ∈ record → (s.sync k).isSome
  running : ∀ r, s.asyncCb = some r → .delivered r.call r.payload ∈ record ∧
    (r.stage ≠ .copy → ∀ y, s.sync r.call = some y → Copied record r.call y)

theorem Copied.mono {record record' : List Note} {k : Nat} {y : Sync} (h : Copied record k y)
    (hsub : record ⊆ record') : Copied record' k y := by
  obtain ⟨payload, hmem, hresp⟩ := h
  exact ⟨payload, hsub hmem, hresp⟩

theorem Told.cons {client : ClientRuns.State Callback ClientData} {record : List Note} {k : Nat}
    {y : Sync} (h : Told client record k y) {n : Note} (hn : n.call ≠ k) :
    Told client (n :: record) k y := by
  have hdelivered : ∀ payload, .delivered k payload ≠ n := by
    rintro payload rfl
    exact hn rfl
  have hdeadline : .deadline k ≠ n := by
    rintro rfl
    exact hn rfl
  have hinTime : InTime (n :: record) k ↔ InTime record k := by
    rw [inTime_cons, or_iff_left]
    rintro ⟨⟨payload, rfl⟩, -⟩
    exact hn rfl
  constructor
  case numbered => exact h.numbered
  case handed =>
    intro payload hmem
    exact h.handed payload (by simpa [hdelivered payload] using hmem)
  case deadline =>
    intro hmem
    exact h.deadline (by simpa [hdeadline] using hmem)
  case copied => exact fun hcondition => (h.copied hcondition).mono (List.subset_cons_self _ _)
  case woken => exact h.woken
  case zero => exact h.zero
  case failed =>
    intro ret hret hne
    refine (h.failed ret hret hne).imp_left ?_
    rintro ⟨hmem, hnot⟩
    exact ⟨List.mem_cons_of_mem n hmem, fun hin => hnot (hinTime.mp hin)⟩

theorem Told.append {client : ClientRuns.State Callback ClientData} {record : List Note} {k : Nat}
    {y : Sync} (h : Told client record k y) {added : List Note}
    (hadded : ∀ n ∈ added, n.call ≠ k) : Told client (added ++ record) k y := by
  induction added with
  | nil => exact h
  | cons n added ih =>
      refine Told.cons (ih ?_) (hadded n List.mem_cons_self)
      intro m hm
      exact hadded m (List.mem_cons_of_mem n hm)

theorem Told.move {client : ClientRuns.State Callback ClientData} {record : List Note} {k : Nat}
    {y : Sync} (h : Told client record k y) (phase : SyncPhase) (mutex : Option Thread)
    (hkeeps : ∀ ret, resultOf y.phase = some ret → resultOf phase = some ret)
    (hcondition : phase = .woken ∨ resultOf phase = some 0 → y.condition = true)
    (hfailed : ∀ ret, resultOf phase = some ret → ret ≠ 0 →
      resultOf y.phase = some ret ∨ NotSent client k) :
    Told client record k { y with phase := phase, mutex := mutex } where
  numbered := h.numbered
  handed := h.handed
  deadline hmem := hkeeps _ (h.deadline hmem)
  copied := h.copied
  woken hwoken := hcondition (.inl hwoken)
  zero hzero := hcondition (.inr hzero)
  failed ret hret hne := by
    rcases hfailed ret hret hne with hbefore | hnot
    · exact h.failed ret hbefore hne
    · exact .inr hnot

theorem Told.giveUp {client : ClientRuns.State Callback ClientData} {record : List Note} {k : Nat}
    {y : Sync} (h : Told client record k y) (mutex : Option Thread) (hnot : y.handed = false) :
    Told client (.deadline k :: record) k { y with phase := .exiting (-1), mutex := mutex } := by
  have hnone : ∀ payload, .delivered k payload ∉ record := by
    intro payload hmem
    simp [h.handed payload hmem] at hnot
  constructor
  case numbered => exact h.numbered
  case handed =>
    intro payload hmem
    exact absurd (by simpa using hmem) (hnone payload)
  case deadline => exact fun _ => rfl
  case copied => exact fun hcondition => (h.copied hcondition).mono (List.subset_cons_self _ _)
  case woken => simp
  case zero => simp [resultOf]
  case failed =>
    intro ret _ _
    refine .inl ⟨List.mem_cons_self, ?_⟩
    intro hin
    obtain ⟨payload, hmem⟩ := hin.delivered
    exact hnone payload (by simpa using hmem)

theorem Told.deliver {client : ClientRuns.State Callback ClientData} {record : List Note}
    {k : Nat} {y : Sync} (h : Told client record k y) (hsent : Sent client k)
    (payload : Vector UInt8 maxUrilPayloadSize) :
    Told client (.delivered k payload :: record) k { y with handed := true } := by
  constructor
  case numbered => exact h.numbered
  case handed => exact fun _ _ => rfl
  case deadline =>
    intro hmem
    exact h.deadline (by simpa using hmem)
  case copied => exact fun hcondition => (h.copied hcondition).mono (List.subset_cons_self _ _)
  case woken => exact h.woken
  case zero => exact h.zero
  case failed =>
    intro ret hret hne
    rcases h.failed ret hret hne with ⟨hmem, hnot⟩ | hunsent
    · refine .inl ⟨List.mem_cons_of_mem _ hmem, ?_⟩
      rw [inTime_cons]
      rintro (hin | ⟨-, hbefore⟩)
      · exact hnot hin
      · exact hbefore hmem
    · exact absurd hsent (not_sent_of_notSent hunsent)

theorem Told.write {client : ClientRuns.State Callback ClientData} {record : List Note} {k : Nat}
    {y y' : Sync} (h : Told client record k y) (hphase : y'.phase = y.phase)
    (hhanded : y'.handed = y.handed) (hcondition : y.condition = true → y'.condition = true)
    (hcopied : y'.condition = true → Copied record k y') : Told client record k y' where
  numbered := h.numbered
  handed payload hmem := hhanded.trans (h.handed payload hmem)
  deadline hmem := hphase ▸ h.deadline hmem
  copied := hcopied
  woken hwoken := hcondition (h.woken (hphase ▸ hwoken))
  zero hzero := hcondition (h.zero (hphase ▸ hzero))
  failed ret hret := h.failed ret (hphase ▸ hret)

theorem punctual_initial : Punctual SynchronousCommand.State.initial [] := by
  refine ⟨slots_initial, ?_, ?_, ?_, ?_⟩ <;> simp [SynchronousCommand.State.initial]

theorem Punctual.client {s t : State} {record : List Note}
    {a : ClientRuns.Action Callback ClientData} (h : Punctual s record)
    (hstep : ClientRuns.step s.client a = some t.client)
    (hkept : ∀ k y, s.sync k = some y → t.sync k = some y)
    (hnew : ∀ k y, t.sync k = some y → s.sync k = some y ∨
      k = s.client.nextCall ∧ k < t.client.nextCall ∧ y.condition = false ∧
        y.phase = .executing)
    (hasync : t.asyncCb = s.asyncCb) : Punctual t record := by
  have hnext := (evolves_step h.slots hstep).nextCall
  have hsent : ∀ k payload, .delivered k payload ∈ record → k < s.client.nextCall := by
    intro k payload hmem
    obtain ⟨c, u, i, hc, -⟩ := h.sent k payload hmem
    by_contra hlt
    simp [h.slots.fresh k (not_lt.mp hlt)] at hc
  constructor
  case slots => exact slots_step h.slots hstep
  case told =>
    intro k y hy
    rcases hnew k y hy with hold | ⟨rfl, hlt, hcondition, hphase⟩
    · have htold := h.told k y hold
      refine { htold with numbered := htold.numbered.trans_le hnext, failed := ?_ }
      intro ret hret hne
      exact (htold.failed ret hret hne).imp_right fun hnot => hnot.step h.slots hstep
    · constructor
      case numbered => exact hlt
      case handed => exact fun payload hmem => absurd (hsent _ payload hmem) (lt_irrefl _)
      case deadline =>
        intro hmem
        obtain ⟨z, hz⟩ := Option.isSome_iff_exists.mp (h.known _ hmem)
        exact absurd (h.told _ z hz).numbered (lt_irrefl _)
      all_goals simp [hcondition, hphase, resultOf]
  case sent => exact fun k payload hmem => (h.sent k payload hmem).step h.slots hstep
  case known =>
    intro k hmem
    obtain ⟨y, hy⟩ := Option.isSome_iff_exists.mp (h.known k hmem)
    rw [hkept k y hy]
    rfl
  case running =>
    intro r hr
    obtain ⟨hmem, hcopied⟩ := h.running r (hasync ▸ hr)
    refine ⟨hmem, fun hstage y hy => ?_⟩
    rcases hnew r.call y hy with hold | ⟨hfresh, -⟩
    · exact hcopied hstage y hold
    · exact absurd (hfresh ▸ hsent _ _ hmem) (lt_irrefl _)

theorem Punctual.setSync {s t : State} {record : List Note} (h : Punctual s record) (k : Nat)
    (added : List Note) (hadded : ∀ n ∈ added, n.call = k) (hclient : t.client = s.client)
    (hother : ∀ k', k' ≠ k → t.sync k' = s.sync k')
    (htold : ∀ y, t.sync k = some y → Told s.client (added ++ record) k y)
    (hsent : ∀ payload, .delivered k payload ∈ added → Sent s.client k)
    (hknown : .deadline k ∈ added ++ record → (t.sync k).isSome)
    (hrunning : ∀ r, t.asyncCb = some r → .delivered r.call r.payload ∈ added ++ record ∧
      (r.stage ≠ .copy → ∀ y, t.sync r.call = some y → Copied (added ++ record) r.call y)) :
    Punctual t (added ++ record) := by
  constructor
  case slots => exact hclient ▸ h.slots
  case told =>
    intro k' y hy
    rw [hclient]
    obtain rfl | hk := eq_or_ne k' k
    · exact htold y hy
    · refine (h.told k' y (hother k' hk ▸ hy)).append ?_
      intro n hn
      rw [hadded n hn]
      exact hk.symm
  case sent =>
    intro k' payload hmem
    rw [hclient]
    rcases List.mem_append.mp hmem with hnew | hold
    · obtain rfl : k' = k := hadded _ hnew
      exact hsent payload hnew
    · exact h.sent k' payload hold
  case known =>
    intro k' hmem
    obtain rfl | hk := eq_or_ne k' k
    · exact hknown hmem
    · rw [hother k' hk]
      rcases List.mem_append.mp hmem with hnew | hold
      · exact absurd (hadded _ hnew) hk
      · exact h.known k' hold
  case running => exact hrunning

theorem Punctual.caller {s t : State} {record : List Note} (h : Punctual s record) {k : Nat}
    {y : Sync} (phase : SyncPhase) (mutex : Option Thread) (added : List Note)
    (hadded : ∀ n ∈ added, n = .deadline k) (hy : s.sync k = some y)
    (hclient : t.client = s.client)
    (hsync : t.sync = Function.update s.sync k (some { y with phase := phase, mutex := mutex }))
    (hasync : t.asyncCb = s.asyncCb)
    (htold : Told s.client (added ++ record) k { y with phase := phase, mutex := mutex }) :
    Punctual t (added ++ record) := by
  refine h.setSync k added ?_ hclient ?_ ?_ ?_ ?_ ?_
  · intro n hn
    rw [hadded n hn]
    rfl
  · intro k' hk
    rw [hsync, Function.update_of_ne hk]
  · intro z hz
    obtain rfl : _ = z := by simpa [hsync] using hz
    exact htold
  · intro payload hmem
    cases hadded _ hmem
  · simp [hsync]
  · intro r hr
    obtain ⟨hmem, hcopied⟩ := h.running r (hasync ▸ hr)
    refine ⟨List.mem_append_right added hmem, fun hstage z hz => ?_⟩
    have hcopied' : ∃ z', s.sync r.call = some z' ∧ z.resp = z'.resp ∧ z.respLen = z'.respLen := by
      obtain heq | hne := eq_or_ne r.call k
      · obtain rfl : _ = z := by simpa [hsync, heq] using hz
        exact ⟨y, heq ▸ hy, rfl, rfl⟩
      · exact ⟨z, by simpa [hsync, hne] using hz, rfl, rfl⟩
    obtain ⟨z', hz', hresp, hlen⟩ := hcopied'
    obtain ⟨payload, hpayload, heq⟩ := hcopied hstage z' hz'
    exact ⟨payload, List.mem_append_right added hpayload, by rw [hresp, hlen, heq]⟩

theorem Punctual.move {s t : State} {record : List Note} (h : Punctual s record) {k : Nat}
    {y : Sync} (phase : SyncPhase) (mutex : Option Thread) (hy : s.sync k = some y)
    (hclient : t.client = s.client)
    (hsync : t.sync = Function.update s.sync k (some { y with phase := phase, mutex := mutex }))
    (hasync : t.asyncCb = s.asyncCb)
    (hkeeps : ∀ ret, resultOf y.phase = some ret → resultOf phase = some ret)
    (hcondition : phase = .woken ∨ resultOf phase = some 0 → y.condition = true)
    (hfailed : ∀ ret, resultOf phase = some ret → ret ≠ 0 →
      resultOf y.phase = some ret ∨ NotSent s.client k) : Punctual t record :=
  h.caller phase mutex [] (by simp) hy hclient hsync hasync
    ((h.told k y hy).move phase mutex hkeeps hcondition hfailed)

theorem notes_receive_of_ne {s : State} {msg : UrilProtocolMsg}
    (h : ∀ k, receiveTarget s msg ≠ some (.asyncCb, some (.params k))) :
    notes s (.receive msg) = [] := by
  unfold notes
  dsimp only
  split
  · rename_i k htarget
    exact absurd htarget (h k)
  · rfl

theorem Punctual.receive {s : State} {c : ClientRuns.State Callback ClientData}
    {record : List Note} (h : Punctual s record) {msg : UrilProtocolMsg}
    (hgives : givesOwn s (.receive msg) = true)
    (hstep : ClientRuns.step s.client (.receive msg) = some c) :
    Punctual { startAsyncCb s msg with client := c } (notes s (.receive msg) ++ record) := by
  have hclient : Punctual { s with client := c } record :=
    h.client hstep (fun _ _ => id) (fun _ _ => .inl) rfl
  by_cases htarget : ∃ k, receiveTarget s msg = some (.asyncCb, some (.params k))
  · obtain ⟨k, htarget⟩ := htarget
    have hown : isOwnResponse s k msg = true := by simpa [givesOwn, htarget] using hgives
    have hsent := (sent_of_isOwnResponse hown).step h.slots hstep
    simp only [startAsyncCb, notes, htarget, if_pos hown]
    refine hclient.setSync k [.delivered k msg.payload] (by simp [Note.call]) rfl ?_ ?_
      (fun _ _ => hsent) ?_ ?_
    · intro k' hk
      simp [hk]
    · intro z hz
      obtain ⟨y, hy, rfl⟩ : ∃ y, s.sync k = some y ∧ { y with handed := true } = z := by
        simpa using hz
      exact (hclient.told k y hy).deliver hsent msg.payload
    · intro hmem
      have hsome := h.known k (by simpa using hmem)
      simpa using hsome
    · intro r hr
      obtain rfl := Option.some.inj hr
      exact ⟨by simp, fun hstage => absurd rfl hstage⟩
  · have hnone := not_exists.mp htarget
    rw [startAsyncCb_of_ne hnone, notes_receive_of_ne hnone]
    exact hclient

/-- Every statement of `async_cb` but the first finds the payload copied. -/
theorem Punctual.runAsyncCb {s t : State} {record : List Note} (h : Punctual s record)
    {r : Running} {y y' : Sync} {stage : Option CbStage} (hr : s.asyncCb = some r)
    (hy : s.sync r.call = some y) (hstatement : asyncCbStatement r y = some (y', stage))
    (hclient : t.client = s.client) (hsync : t.sync = Function.update s.sync r.call (some y'))
    (hasync : t.asyncCb = stage.map fun stage => { r with stage := stage }) :
    Punctual t record := by
  obtain ⟨hdelivered, hcopied⟩ := h.running r hr
  have hmoved : y'.phase = y.phase ∧ y'.handed = y.handed ∧
      (y.condition = true → y'.condition = true) ∧ Copied record r.call y' := by
    have hafter : r.stage ≠ .copy → Copied record r.call y := fun hstage => hcopied hstage y hy
    cases stated_of_asyncCbStatement hstatement with
    | copy hstage => exact ⟨rfl, rfl, id, r.payload, hdelivered, rfl⟩
    | lock hstage => exact ⟨rfl, rfl, id, hafter (by simp [hstage])⟩
    | setCondition hstage => exact ⟨rfl, rfl, fun _ => rfl, hafter (by simp [hstage])⟩
    | unlock hstage => exact ⟨rfl, rfl, id, hafter (by simp [hstage])⟩
    | signal hstage => exact ⟨rfl, rfl, id, hafter (by simp [hstage])⟩
  obtain ⟨hphase, hhanded, hcondition, hcopied'⟩ := hmoved
  refine h.setSync r.call [] (by simp) hclient ?_ ?_ (by simp) (by simp [hsync]) ?_
  · intro k hk
    rw [hsync, Function.update_of_ne hk]
  · intro z hz
    obtain rfl : y' = z := by simpa [hsync] using hz
    exact (h.told r.call y hy).write hphase hhanded hcondition fun _ => hcopied'
  · intro r' hr'
    rw [hasync, Option.map_eq_some_iff] at hr'
    obtain ⟨stage', -, rfl⟩ := hr'
    refine ⟨hdelivered, fun _ z hz => ?_⟩
    obtain rfl : y' = z := by simpa [hsync] using hz
    exact hcopied'

theorem punctual_step {s t : State} {record : List Note} {a : Action} (hframed : Framed s)
    (h : Punctual s record) (hlearns : learnsInTime s a = true) (hstep : step s a = some t) :
    Punctual t (notes s a ++ record) := by
  simp only [learnsInTime, Bool.and_eq_true] at hlearns
  obtain ⟨⟨hwakes, hgives⟩, hlive⟩ := hlearns
  cases performed_of_step hstep with
  | client a c happ hc => exact h.client hc (fun _ _ => id) (fun _ _ => .inl) rfl
  | begin hndl respLen place c hfree hc =>
      refine h.client hc ?_ ?_ rfl
      · intro k y hy
        simpa [(h.told k y hy).numbered.ne] using hy
      · intro k y hy
        obtain rfl | hk := eq_or_ne k s.client.nextCall
        · obtain rfl : _ = y := by simpa using hy
          refine .inr ⟨rfl, ?_, rfl, rfl⟩
          rw [step_begin hc]
          exact Nat.lt_succ_self _
        · exact .inl (by simpa [hk] using hy)
  | initFails => exact ⟨h.slots, h.told, h.sent, h.known, h.running⟩
  | asyncFailed k y c hy hc hphase hfailed =>
      have hnone : resultOf y.phase = none := by rw [hphase]; rfl
      exact h.move (.exiting (-1)) y.mutex hy rfl rfl rfl (by simp [hnone]) (by simp [resultOf])
        fun _ _ _ => .inr ⟨c, hc, hfailed⟩
  | asyncSent k y hy hphase =>
      exact h.move .accepted y.mutex hy rfl rfl rfl (by simp [hphase, resultOf])
        (by simp [resultOf]) (by simp [resultOf])
  | lock k y hy hphase hmutex =>
      exact h.move .locked (some .caller) hy rfl rfl rfl (by simp [hphase, resultOf])
        (by simp [resultOf]) (by simp [resultOf])
  | testSet k y hy hphase hcondition =>
      exact h.move .woken y.mutex hy rfl rfl rfl (by simp [hphase, resultOf])
        (fun _ => hcondition) (by simp [resultOf])
  | testClear k y hy hphase =>
      exact h.move .waiting none hy rfl rfl rfl (by simp [hphase, resultOf])
        (by simp [resultOf]) (by simp [resultOf])
  | timeOut k y hy hphase =>
      have hnot : y.handed = false := by simpa [wakesInTime, hy] using hwakes
      exact h.caller (.exiting (-1)) (some .caller) [.deadline k] (by simp) hy rfl rfl rfl
        ((h.told k y hy).giveUp _ hnot)
  | wake k y hy hphase hmutex =>
      have hcondition : y.condition = true := by simpa [wakesInTime, hy] using hwakes
      exact h.move .woken (some .caller) hy rfl rfl rfl (by simp [hphase, resultOf])
        (fun _ => hcondition) (by simp [resultOf])
  | unlock k y hy hphase =>
      have hcondition := (h.told k y hy).woken hphase
      rw [if_pos hcondition]
      exact h.move (.exiting 0) none hy rfl rfl rfl (by simp [hphase, resultOf])
        (fun _ => hcondition) (by simp [resultOf])
  | destroy k y ret hy hphase =>
      have hsame : resultOf (.returned ret) = resultOf y.phase := by rw [hphase]; rfl
      refine h.move (.returned ret) y.mutex hy rfl rfl rfl ?_ ?_ ?_
      · exact fun _ hret => hsame.trans hret
      · rintro (hwoken | hzero)
        · cases hwoken
        · exact (h.told k y hy).zero (hsame ▸ hzero)
      · exact fun _ hret _ => .inl (hsame ▸ hret)
  | receive msg c hidle hc => exact h.receive hgives hc
  | runAsyncCb r k y y' stage hr hk hy hstatement =>
      have hlive : s.hasReturned r.call = false := by simpa [usesLive, hr] using hlive
      obtain rfl := hframed.occupant hk hlive
      exact h.runAsyncCb hr hy hstatement rfl rfl rfl

theorem exact_of_punctual {s : State} {record : List Note} (h : Punctual s record) :
    Exact s record := by
  intro k y ret hy hret
  have htold := h.told k y hy
  refine ⟨⟨?_, ?_⟩, ?_⟩
  · rintro rfl
    obtain ⟨payload, hmem, -⟩ := htold.copied (htold.zero hret)
    refine inTime_of_mem hmem fun hdeadline => ?_
    have hgaveUp := htold.deadline hdeadline
    simp [hret] at hgaveUp
  · intro hin
    by_contra hne
    rcases htold.failed ret hret hne with ⟨-, hlate⟩ | hnot
    · exact hlate hin
    · obtain ⟨payload, hmem⟩ := hin.delivered
      exact not_sent_of_notSent hnot (h.sent k payload hmem)
  · rintro rfl
    exact htold.copied (htold.zero hret)

/-- In runs whose waits end neither without a signal nor after the response was
given to `async_cb`, and in which calls are given only their own responses and
only before they have returned, the result of every synchronous call is exact. -/
theorem synchronous_result_exact {s : State} {record : List Note}
    (hrun : Reaches (recorded notes step) (fun s a => learnsInTime s.1 a = true)
      (SynchronousCommand.State.initial, []) (s, record)) : Exact s record := by
  refine exact_of_punctual (Reaches.recorded_invariant (fun s a => learnsInTime s a = true) hrun
    (fun s record => Framed s ∧ Punctual s record) ⟨framed_initial, punctual_initial⟩ ?_).2
  rintro s record a t ⟨hframed, h⟩ hlearns hstep
  exact ⟨framed_step hframed hstep, punctual_step hframed h hlearns hstep⟩

/-- The response to request `uniqueId`, with this payload. -/
def answer (uniqueId : UInt32) (byte : UInt8) : UrilProtocolMsg :=
  { UrilProtocolMsg.zeroed with uniqueId := uniqueId, payload := .replicate _ byte }

/-- Call 0 gives up at the deadline. Call 1 has its place, is woken by the signal and
copies eight bytes of its response. -/
theorem synchronous_result_exact_signalled :
    ∃ (s : State) (record : List Note),
      Reaches (recorded notes step) (fun s a => learnsInTime s.1 a = true)
        (SynchronousCommand.State.initial, []) (s, record) ∧
      (s.sync 0).map (·.phase) = some (.returned (-1)) ∧
      (s.sync 1).map (fun y => (y.phase, y.resp)) = some (.returned 0, List.replicate 8 7) ∧
      Exact s record := by
  obtain ⟨⟨s, record⟩, hrun, hcheck⟩ := exists_reaches_of_exec (recorded notes step)
    (fun s a => learnsInTime s.1 a) (fun _ _ => id) (SynchronousCommand.State.initial, [])
    (initLibrary ++ sendSync 0 0 ++ [.lock 0, .test 0, .wake 0 true, .destroy 0] ++
      sendSync 1 0 ++ [.lock 1, .test 1] ++ respond (answer 2 7) ++
      [.wake 1 false, .unlock 1, .destroy 1])
    (fun s => (s.1.sync 0).map (·.phase) = some (.returned (-1)) ∧
      (s.1.sync 1).map (fun y => (y.phase, y.resp)) =
        some (.returned 0, List.replicate 8 7)) (by decide)
  obtain ⟨hfirst, hsecond⟩ := of_decide_eq_true hcheck
  exact ⟨s, record, hrun, hfirst, hsecond, synchronous_result_exact hrun⟩

/-- The response to the request of call 0 was delivered in time, and the call
leaves with -1. -/
def losesResponse (s : State × List Note) : Bool :=
  (match s.2 with
    | [.delivered 0 _] | [.deadline 0, .delivered 0 _] => true
    | _ => false) &&
  (s.1.sync 0).any fun y => y.phase = .exiting (-1)

theorem not_exact_of_losesResponse {s : State} {record : List Note}
    (h : losesResponse (s, record) = true) : ¬ Exact s record := by
  simp only [losesResponse, Bool.and_eq_true, Option.any_eq_true, decide_eq_true_eq] at h
  obtain ⟨hrecord, y, hy, hphase⟩ := h
  have hin : InTime record 0 := by
    split at hrecord
    · exact ⟨[], _, [], rfl, by simp⟩
    · exact ⟨[.deadline 0], _, [], rfl, by simp⟩
    · cases hrecord
  intro hexact
  have hresult := (hexact 0 y (-1) hy (by rw [hphase]; rfl)).1.mpr hin
  cases hresult

/-- Call 1 leaves with 0, and nothing was delivered to it. -/
def takesOther (s : State × List Note) : Bool :=
  s.2.all (fun n => n.call != 1) && (s.1.sync 1).any fun y => y.phase = .exiting 0

theorem not_exact_of_takesOther {s : State} {record : List Note}
    (h : takesOther (s, record) = true) : ¬ Exact s record := by
  simp only [takesOther, Bool.and_eq_true, List.all_eq_true, bne_iff_ne, Option.any_eq_true,
    decide_eq_true_eq] at h
  obtain ⟨hrecord, y, hy, hphase⟩ := h
  intro hexact
  obtain ⟨payload, hmem⟩ := ((hexact 1 y 0 hy (by rw [hphase]; rfl)).1.mp rfl).delivered
  exact hrecord _ hmem rfl

def isWake (timedOut : Bool) : Action → Bool
  | .wake _ result => result == timedOut
  | _ => false

theorem not_wake_of_isWake {timedOut : Bool} (_ : State × List Note) (a : Action)
    (h : (!isWake timedOut a) = true) (k : Nat) : a ≠ .wake k timedOut := by
  rintro rfl
  simp [isWake] at h

/-- The response comes while call 0 waits: without wake-ups before the deadline
the call can still give up at the deadline after `async_cb` has set
`params.condition`, and without a deadline it can be woken before that. Where waits
end in time, a response that comes after the deadline of call 0 is taken by call 1,
which has its place. -/
theorem delivered_response_lost :
    (¬ ∀ (s : State) (record : List Note),
      Reaches (recorded notes step) (fun _ a => ∀ k, a ≠ .wake k false)
        (SynchronousCommand.State.initial, []) (s, record) → Exact s record) ∧
    (¬ ∀ (s : State) (record : List Note),
      Reaches (recorded notes step) (fun _ a => ∀ k, a ≠ .wake k true)
        (SynchronousCommand.State.initial, []) (s, record) → Exact s record) ∧
    ¬ ∀ (s : State) (record : List Note),
      Reaches (recorded notes step)
        (fun s a => (wakesInTime s.1 a && givesOwn s.1 a) = true)
        (SynchronousCommand.State.initial, []) (s, record) → Exact s record := by
  refine ⟨?_, ?_, ?_⟩
  · intro hexact
    obtain ⟨⟨s, record⟩, hrun, hlost⟩ := exists_reaches_of_exec (recorded notes step)
      (fun _ a => !isWake false a) not_wake_of_isWake
      (SynchronousCommand.State.initial, [])
      (initLibrary ++ sendSync 0 0 ++ [.lock 0, .test 0, .receive (answer 1 7), .runAsyncCb,
        .runAsyncCb, .runAsyncCb, .runAsyncCb, .wake 0 true]) losesResponse (by decide)
    exact not_exact_of_losesResponse hlost (hexact s record hrun)
  · intro hexact
    obtain ⟨⟨s, record⟩, hrun, hlost⟩ := exists_reaches_of_exec (recorded notes step)
      (fun _ a => !isWake true a) not_wake_of_isWake
      (SynchronousCommand.State.initial, [])
      (initLibrary ++ sendSync 0 0 ++ [.lock 0, .test 0, .receive (answer 1 7), .runAsyncCb,
        .wake 0 false, .unlock 0]) losesResponse (by decide)
    exact not_exact_of_losesResponse hlost (hexact s record hrun)
  · intro hexact
    obtain ⟨⟨s, record⟩, hrun, htaken⟩ := exists_reaches_of_exec (recorded notes step)
      (fun s a => wakesInTime s.1 a && givesOwn s.1 a) (fun _ _ => id)
      (SynchronousCommand.State.initial, [])
      (initLibrary ++ sendSync 0 0 ++ [.lock 0, .test 0, .wake 0 true, .destroy 0] ++
        sendSync 1 0 ++ [.lock 1, .test 1] ++ respond (answer 1 7) ++
        [.wake 1 false, .unlock 1]) takesOther (by decide)
    exact not_exact_of_takesOther htaken (hexact s record hrun)

end UnifiedRil.SynchronousResult

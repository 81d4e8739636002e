import UnifiedRil.RemoteCalls
import UnifiedRil.SynchronousResult

/-!
Synchronous commands from end to end: any number of client processes, in each of
which threads call `uril_client_execute_command_sync` and one thread receives, with
the service and the vendor. A wait may end at its deadline, or without a signal. What
a synchronous call that returned 0 finds in its buffer is the answer to the request
it sent, and no answer is lost on a call that still waits.
-/

namespace UnifiedRil.SynchronousCalls

open UnifiedRil.Library.Runs
open UnifiedRil.Protocol
open UnifiedRil.Client
open UnifiedRil.ClientDispatch (Dispatching AnswersOnce Sent dispatching_step)
open UnifiedRil.SynchronousCommand (Callback ClientData Sync SyncPhase Running Performed
  CbStage Stated performed_of_step receiveTarget startAsyncCb asyncCbStatement
  stated_of_asyncCbStatement startAsyncCb_cases startAsyncCb_of_ne argumentsOf
  arguments_step response_recorded Framed framed_initial framed_step crashed_step)
open UnifiedRil.SynchronousCleanup (arguments_fresh)
open UnifiedRil.SynchronousResult (resultOf)
open UnifiedRil.Messages
open UnifiedRil.RequestHolders (Answers)
open UnifiedRil.WholeSystem (Whole whole_step whole_initial)
open UnifiedRil.Quiescence (Quiescent)

variable {κ : Type} [DecidableEq κ]

structure State (κ : Type) where
  /-- the system as one of asynchronous calls -/
  whole : WholeSystem.State κ Callback ClientData
  sync : κ → Nat → Option Sync
  frames : κ → Nat → Option Nat
  asyncCb : κ → Option Running
  log : κ → List SynchronousCommand.Event
  crashed : κ → Bool

/-- The callbacks that an application can give at the initialization. -/
def application (cb : κ → Option Nat) (j : κ) : Option Callback := (cb j).map .application

/-- The clients have initialized the library, and nothing is sent yet. -/
def State.initial (indCb defaultRespCb : κ → Option Nat) : State κ :=
  { whole := .initial (application indCb) (application defaultRespCb)
    sync := fun _ _ => none, frames := fun _ _ => none, asyncCb := fun _ => none
    log := fun _ => [], crashed := fun _ => false }

def State.client (s : State κ) (j : κ) : SynchronousCommand.State :=
  { client := s.whole.clients j, sync := s.sync j, frames := s.frames j
    asyncCb := s.asyncCb j, log := s.log j, crashed := s.crashed j }

def State.setClient (s : State κ) (j : κ) (c : SynchronousCommand.State) : State κ :=
  { whole := { s.whole with clients := Function.update s.whole.clients j c.client }
    sync := Function.update s.sync j c.sync
    frames := Function.update s.frames j c.frames
    asyncCb := Function.update s.asyncCb j c.asyncCb
    log := Function.update s.log j c.log
    crashed := Function.update s.crashed j c.crashed }

inductive Action (κ : Type)
  | client (j : κ) (a : SynchronousCommand.Action)
  | deliver (j : κ) (i : Nat)
  | system (b : WholeSystem.Action κ Callback ClientData)

/-- The step touches neither channel. -/
def isLocal : SynchronousCommand.Action → Bool
  | .client a => WholeSystem.isLocal a
  | .receive _ => false
  | _ => true

def isSystem : WholeSystem.Action κ Callback ClientData → Bool
  | .client _ _ | .deliver _ _ => false
  | _ => true

def step (s : State κ) : Action κ → Option (State κ)
  | .client j a =>
      if isLocal a then (SynchronousCommand.step (s.client j) a).map (s.setClient j) else none
  | .deliver j i =>
      match (s.whole.toClient j)[i]? with
      | some msg =>
          (SynchronousCommand.step (s.client j) (.receive msg)).map fun c =>
            let t := s.setClient j c
            { t with
              whole := { t.whole with
                toClient := Function.update s.whole.toClient j
                  ((s.whole.toClient j).eraseIdx i) } }
      | none => none
  | .system b =>
      if isSystem b then (WholeSystem.step s.whole b).map fun whole => { s with whole } else none

/-- What a step of a client does in `uril_client_execute_command_async` or
`connector_on_receive`. -/
def asyncPart (c : SynchronousCommand.State) :
    SynchronousCommand.Action → Option (ClientRuns.Action Callback ClientData)
  | .client a => some a
  | .begin hndl _ _ => some (.begin hndl (some .asyncCb) (some (.params c.client.nextCall)))
  | .receive msg => some (.receive msg)
  | _ => none

/-- What a step is for the system of asynchronous calls. -/
def wholeAction (s : State κ) : Action κ → Option (WholeSystem.Action κ Callback ClientData)
  | .client j a => (asyncPart (s.client j) a).map (.client j)
  | .deliver j i => some (.deliver j i)
  | .system b => some b

/-- Mutexes and condition variables can be initialized, and `async_cb` uses the
parameters of calls that have not returned. -/
def UsesLive (s : State κ) : Action κ → Prop
  | .client j .runAsyncCb => ∀ r, s.asyncCb j = some r → (s.client j).hasReturned r.call = false
  | .client _ .initFails => False
  | _ => True

def Orderly (s : State κ) (a : Action κ) : Prop :=
  (∀ b, wholeAction s a = some b → WholeSystem.Orderly s.whole b) ∧ UsesLive s a

variable {s t : State κ}

/-- A step of a client is one of its asynchronous part, or leaves that as it is. -/
theorem asyncPart_step {c d : SynchronousCommand.State} {a : SynchronousCommand.Action}
    (hstep : SynchronousCommand.step c a = some d) :
    (∃ b, asyncPart c a = some b ∧ ClientRuns.step c.client b = some d.client) ∨
      asyncPart c a = none ∧ d.client = c.client := by
  cases performed_of_step hstep with
  | client a cl happ hc => exact .inl ⟨_, rfl, hc⟩
  | begin hndl respLen place cl hfree hc => exact .inl ⟨_, rfl, hc⟩
  | receive msg cl hidle hc => exact .inl ⟨_, rfl, hc⟩
  | _ => exact .inr ⟨rfl, rfl⟩

theorem whole_of_step {a : Action κ} (hstep : step s a = some t) :
    (∃ b, wholeAction s a = some b ∧ WholeSystem.step s.whole b = some t.whole) ∨
      wholeAction s a = none ∧ t.whole = s.whole := by
  cases a with
  | client j a =>
      simp only [step, Option.ite_none_right_eq_some, Option.map_eq_some_iff] at hstep
      obtain ⟨hlocal, c, hc, rfl⟩ := hstep
      rcases asyncPart_step hc with ⟨b, hb, hclient⟩ | ⟨hnone, hsame⟩
      · refine .inl ⟨_, by rw [wholeAction, hb]; rfl, ?_⟩
        have hb' : WholeSystem.isLocal b = true := by
          cases a <;> cases hb
          · exact hlocal
          · rfl
          · cases hlocal
        change ClientRuns.step (s.whole.clients j) b = some c.client at hclient
        rw [WholeSystem.step, if_pos hb', hclient]
        rfl
      · refine .inr ⟨by rw [wholeAction, hnone]; rfl, ?_⟩
        change c.client = s.whole.clients j at hsame
        simp only [State.setClient, hsame, Function.update_eq_self]
  | deliver j i =>
      simp only [step] at hstep
      split at hstep
      case h_2 => cases hstep
      rename_i msg hi
      obtain ⟨c, hc, rfl⟩ := Option.map_eq_some_iff.mp hstep
      refine .inl ⟨_, rfl, ?_⟩
      obtain ⟨b, hb, hclient⟩ | ⟨hnone, -⟩ := asyncPart_step hc
      · obtain rfl := Option.some.inj hb
        change ClientRuns.step (s.whole.clients j) _ = some c.client at hclient
        rw [WholeSystem.step, hi]
        simp only [hclient]
        rfl
      · cases hnone
  | system b =>
      simp only [step, Option.ite_none_right_eq_some, Option.map_eq_some_iff] at hstep
      obtain ⟨-, whole, hwhole, rfl⟩ := hstep
      exact .inl ⟨b, rfl, hwhole⟩

theorem whole_next {indCb defaultRespCb : κ → Option Callback} {a : Action κ}
    (h : Whole indCb defaultRespCb s.whole) (horderly : Orderly s a)
    (hstep : step s a = some t) : Whole indCb defaultRespCb t.whole := by
  rcases whole_of_step hstep with ⟨b, hb, hnext⟩ | ⟨-, hsame⟩
  · exact whole_step h (horderly.1 b hb) hnext
  · rwa [hsame]

/-- `async_cb` was called with a response of this payload for the call. -/
def Given (c : SynchronousCommand.State) (k : Nat) (payload : Vector UInt8 maxUrilPayloadSize) :
    Prop :=
  ∃ r ∈ c.client.responses, r.owner = some k ∧ r.msg.payload = payload

/-- The buffer of the call begins with what the call was given. -/
def Copied (c : SynchronousCommand.State) (k : Nat) (y : Sync) : Prop :=
  ∃ payload, Given c k payload ∧ y.resp = payload.toList.take (min y.respLen maxUrilPayloadSize)

structure Told (c : SynchronousCommand.State) : Prop where
  own : ∀ k y, c.sync k = some y →
    argumentsOf c.client k = some (some .asyncCb, some (.params k))
  params : ∀ k cb k', argumentsOf c.client k = some (cb, some (.params k')) → k' = k
  running : ∀ r, c.asyncCb = some r → Given c r.call r.payload ∧
    (r.stage ≠ .copy → ∀ y, c.sync r.call = some y → Copied c r.call y)
  copied : ∀ k y, c.sync k = some y → y.condition = true → Copied c k y
  zero : ∀ k y, c.sync k = some y → resultOf y.phase = some 0 → y.condition = true
  /-- the response was dealt with, or will be -/
  served : ∀ k y r, c.sync k = some y → r ∈ c.client.responses → r.owner = some k →
    y.condition = true ∨ ∃ run, c.asyncCb = some run ∧ run.call = k ∧
      (run.stage = .copy ∨ run.stage = .lock ∨ run.stage = .setCondition)
  receiver : ∀ k y, c.sync k = some y → y.mutex = some .receiver →
    ∃ run, c.asyncCb = some run ∧ run.call = k ∧
      (run.stage = .setCondition ∨ run.stage = .unlock)
  caller : ∀ k y, c.sync k = some y → y.mutex = some .caller →
    y.phase ≠ .executing ∧ y.phase ≠ .accepted ∧ y.phase ≠ .waiting

section Told

variable {c d : SynchronousCommand.State}

theorem Given.mono {k : Nat} {payload : Vector UInt8 maxUrilPayloadSize} (h : Given c k payload)
    (hresponses : ∀ r ∈ c.client.responses, r ∈ d.client.responses) : Given d k payload := by
  obtain ⟨r, hr, howner, hpayload⟩ := h
  exact ⟨r, hresponses r hr, howner, hpayload⟩

theorem Copied.mono {k : Nat} {y y' : Sync} (h : Copied c k y)
    (hresponses : ∀ r ∈ c.client.responses, r ∈ d.client.responses) (hresp : y'.resp = y.resp)
    (hlen : y'.respLen = y.respLen) : Copied d k y' := by
  obtain ⟨payload, hgiven, hcopied⟩ := h
  exact ⟨payload, hgiven.mono hresponses, by rw [hresp, hlen, hcopied]⟩

theorem told_client {a : ClientRuns.Action Callback ClientData} (h : Told c)
    (hfresh : argumentsOf c.client c.client.nextCall = none)
    (hstep : ClientRuns.step c.client a = some d.client)
    (hresponses : d.client.responses = c.client.responses)
    (hbegin : ∀ hndl cb k, a = .begin hndl cb (some (.params k)) → k = c.client.nextCall)
    (hsync : ∀ k y, d.sync k = some y → c.sync k = some y ∨
      k = c.client.nextCall ∧ (∃ hndl, a = .begin hndl (some .asyncCb) (some (.params k))) ∧
        y.phase = .executing ∧ y.condition = false ∧ y.mutex = none)
    (hasync : d.asyncCb = c.asyncCb)
    (howners : ∀ r ∈ c.client.responses, r.owner ≠ some c.client.nextCall) : Told d := by
  have hkept : ∀ r ∈ c.client.responses, r ∈ d.client.responses := by
    rw [hresponses]
    exact fun _ => id
  have hargs := arguments_step hstep
  constructor
  case own =>
    intro k y hy
    rcases hargs with ⟨hndl, cb, data, ha, hargs⟩ | ⟨hnot, hargs⟩
    · rw [hargs]
      rcases hsync k y hy with hold | ⟨rfl, ⟨hndl', ha'⟩, -⟩
      · have hk : k ≠ c.client.nextCall := by
          rintro rfl
          cases hfresh.symm.trans (h.own _ y hold)
        rw [Function.update_of_ne hk]
        exact h.own k y hold
      · obtain ⟨-, rfl, rfl⟩ := ClientRuns.Action.begin.inj (ha.symm.trans ha')
        rw [Function.update_self]
    · rw [hargs]
      rcases hsync k y hy with hold | ⟨-, ⟨hndl, ha⟩, -⟩
      · exact h.own k y hold
      · exact absurd ha (hnot _ _ _)
  case params =>
    intro k cb k' hk
    rcases hargs with ⟨hndl, cb', data, ha, hargs⟩ | ⟨-, hargs⟩
    · rw [hargs] at hk
      obtain rfl | hne := eq_or_ne k c.client.nextCall
      · rw [Function.update_self] at hk
        obtain ⟨rfl, rfl⟩ := Prod.mk.inj (Option.some.inj hk)
        exact hbegin hndl _ k' ha
      · rw [Function.update_of_ne hne] at hk
        exact h.params k cb k' hk
    · rw [hargs] at hk
      exact h.params k cb k' hk
  case running =>
    intro r hr
    obtain ⟨hgiven, hcopied⟩ := h.running r (hasync ▸ hr)
    refine ⟨hgiven.mono hkept, fun hstage y hy => ?_⟩
    rcases hsync r.call y hy with hold | ⟨hcall, -⟩
    · exact (hcopied hstage y hold).mono hkept rfl rfl
    · obtain ⟨response, hresponse, howner, -⟩ := hgiven
      exact absurd (hcall ▸ howner) (howners response hresponse)
  case copied =>
    intro k y hy hcondition
    rcases hsync k y hy with hold | ⟨-, -, -, hfalse, -⟩
    · exact (h.copied k y hold hcondition).mono hkept rfl rfl
    · cases hfalse.symm.trans hcondition
  case zero =>
    intro k y hy hzero
    rcases hsync k y hy with hold | ⟨-, -, hexecuting, -⟩
    · exact h.zero k y hold hzero
    · rw [hexecuting] at hzero
      cases hzero
  case served =>
    intro k y r hy hr howner
    rw [hresponses] at hr
    rw [hasync]
    rcases hsync k y hy with hold | ⟨rfl, -⟩
    · exact h.served k y r hold hr howner
    · exact absurd howner (howners r hr)
  case receiver =>
    intro k y hy hmutex
    rw [hasync]
    rcases hsync k y hy with hold | ⟨-, -, -, -, hnone⟩
    · exact h.receiver k y hold hmutex
    · cases hnone.symm.trans hmutex
  case caller =>
    intro k y hy hmutex
    rcases hsync k y hy with hold | ⟨-, -, -, -, hnone⟩
    · exact h.caller k y hold hmutex
    · cases hnone.symm.trans hmutex

theorem told_setSync (h : Told c) {k : Nat} {y y' : Sync} (hy : c.sync k = some y)
    (hclient : d.client = c.client) (hsync : d.sync = Function.update c.sync k (some y'))
    (hasync : d.asyncCb = c.asyncCb) (hresp : y'.resp = y.resp) (hlen : y'.respLen = y.respLen)
    (hcondition : y'.condition = y.condition)
    (hzero : resultOf y'.phase = some 0 → y.condition = true)
    (hreceiver : y'.mutex = some .receiver → y.mutex = some .receiver)
    (hcaller : y'.mutex = some .caller →
      y'.phase ≠ .executing ∧ y'.phase ≠ .accepted ∧ y'.phase ≠ .waiting) : Told d := by
  have hkept : ∀ r ∈ c.client.responses, r ∈ d.client.responses := by
    rw [hclient]
    exact fun _ => id
  have hcases : ∀ k' z, d.sync k' = some z → k' = k ∧ z = y' ∨ c.sync k' = some z := by
    intro k' z hz
    rw [hsync] at hz
    obtain rfl | hk := eq_or_ne k' k
    · exact .inl ⟨rfl, by simpa [eq_comm] using hz⟩
    · exact .inr (by simpa [hk] using hz)
  constructor
  case own =>
    intro k' z hz
    rw [hclient]
    rcases hcases k' z hz with ⟨rfl, rfl⟩ | hold
    · exact h.own k' y hy
    · exact h.own k' z hold
  case params =>
    rw [hclient]
    exact h.params
  case running =>
    intro r hr
    obtain ⟨hgiven, hcopied⟩ := h.running r (hasync ▸ hr)
    refine ⟨hgiven.mono hkept, fun hstage z hz => ?_⟩
    rcases hcases r.call z hz with ⟨hcall, rfl⟩ | hold
    · exact (hcopied hstage y (hcall ▸ hy)).mono hkept hresp hlen
    · exact (hcopied hstage z hold).mono hkept rfl rfl
  case copied =>
    intro k' z hz hset
    rcases hcases k' z hz with ⟨rfl, rfl⟩ | hold
    · exact (h.copied k' y hy (hcondition ▸ hset)).mono hkept hresp hlen
    · exact (h.copied k' z hold hset).mono hkept rfl rfl
  case zero =>
    intro k' z hz hret
    rcases hcases k' z hz with ⟨rfl, rfl⟩ | hold
    · exact hcondition.trans (hzero hret)
    · exact h.zero k' z hold hret
  case served =>
    intro k' z r hz hr howner
    rw [hclient] at hr
    rw [hasync]
    rcases hcases k' z hz with ⟨rfl, rfl⟩ | hold
    · rw [hcondition]
      exact h.served k' y r hy hr howner
    · exact h.served k' z r hold hr howner
  case receiver =>
    intro k' z hz hmutex
    rw [hasync]
    rcases hcases k' z hz with ⟨rfl, rfl⟩ | hold
    · exact h.receiver k' y hy (hreceiver hmutex)
    · exact h.receiver k' z hold hmutex
  case caller =>
    intro k' z hz hmutex
    rcases hcases k' z hz with ⟨rfl, rfl⟩ | hold
    · exact hcaller hmutex
    · exact h.caller k' z hold hmutex

theorem told_given (h : Told c) (hidle : c.asyncCb = none)
    (hargs : argumentsOf d.client = argumentsOf c.client)
    (hkept : ∀ r ∈ c.client.responses, r ∈ d.client.responses)
    (hsync : ∀ k z, d.sync k = some z → ∃ y, c.sync k = some y ∧ z = { y with handed := z.handed })
    (hrunning : ∀ r, d.asyncCb = some r → r.stage = .copy ∧ Given d r.call r.payload)
    (hnew : ∀ r ∈ d.client.responses, r ∈ c.client.responses ∨
      ∀ k, r.owner = some k → (d.sync k).isSome → ∃ run, d.asyncCb = some run ∧ run.call = k) :
    Told d := by
  constructor
  case own =>
    intro k z hz
    obtain ⟨y, hy, -⟩ := hsync k z hz
    rw [hargs]
    exact h.own k y hy
  case params =>
    rw [hargs]
    exact h.params
  case running =>
    intro r hr
    obtain ⟨hcopy, hgiven⟩ := hrunning r hr
    exact ⟨hgiven, fun hstage => absurd hcopy hstage⟩
  case copied =>
    intro k z hz hcondition
    obtain ⟨y, hy, heq⟩ := hsync k z hz
    rw [heq] at hcondition ⊢
    exact (h.copied k y hy hcondition).mono hkept rfl rfl
  case zero =>
    intro k z hz hzero
    obtain ⟨y, hy, heq⟩ := hsync k z hz
    rw [heq] at hzero ⊢
    exact h.zero k y hy hzero
  case served =>
    intro k z r hz hr howner
    obtain ⟨y, hy, heq⟩ := hsync k z hz
    rcases hnew r hr with hold | hcalled
    · refine .inl ?_
      rw [heq]
      refine (h.served k y r hy hold howner).resolve_right ?_
      rintro ⟨run, hrun, -⟩
      cases hidle.symm.trans hrun
    · obtain ⟨run, hrun, hcall⟩ := hcalled k howner (by rw [hz]; rfl)
      exact .inr ⟨run, hrun, hcall, .inl (hrunning run hrun).1⟩
  case receiver =>
    intro k z hz hmutex
    obtain ⟨y, hy, heq⟩ := hsync k z hz
    rw [heq] at hmutex
    obtain ⟨run, hrun, -⟩ := h.receiver k y hy hmutex
    cases hidle.symm.trans hrun
  case caller =>
    intro k z hz hmutex
    obtain ⟨y, hy, heq⟩ := hsync k z hz
    rw [heq] at hmutex ⊢
    exact h.caller k y hy hmutex

theorem told_receive {dflt : Option Callback} {msg : UrilProtocolMsg}
    {client : ClientRuns.State Callback ClientData} (h : Told c) (hidle : c.asyncCb = none)
    (hdispatching : Dispatching dflt client)
    (hstep : ClientRuns.step c.client (.receive msg) = some client) :
    Told { startAsyncCb c msg with client := client } := by
  have hargs : argumentsOf client = argumentsOf c.client := by
    rcases arguments_step hstep with ⟨_, _, _, ha, -⟩ | ⟨-, hargs⟩
    · cases ha
    · exact hargs
  by_cases hind : msg.isIndication = 0
  · obtain ⟨k, cb, data, r, hk, howner, rfl, hresponses, htarget⟩ :=
      response_recorded hdispatching hind hstep
    have hkept : ∀ r ∈ c.client.responses, r ∈ client.responses := by
      intro r' hr'
      rw [hresponses]
      exact List.mem_cons_of_mem r hr'
    rcases startAsyncCb_cases c r.msg with ⟨k', hparams⟩ | hsame
    · -- the data are the parameters of the call whose response it is
      rw [hparams] at htarget
      obtain ⟨cb', -, heq⟩ := Option.map_eq_some_iff.mp htarget.symm
      obtain ⟨-, rfl⟩ := Prod.mk.inj heq
      obtain rfl := h.params k cb k' (hargs ▸ hk)
      refine told_given h hidle hargs hkept ?_ ?_ ?_
      · intro k z hz
        simp only [startAsyncCb, hparams] at hz
        obtain rfl | hne := eq_or_ne k k'
        · rw [Function.update_self] at hz
          obtain ⟨y, hy, rfl⟩ := Option.map_eq_some_iff.mp hz
          exact ⟨y, hy, rfl⟩
        · rw [Function.update_of_ne hne] at hz
          exact ⟨z, hz, rfl⟩
      · intro run hrun
        simp only [startAsyncCb, hparams, Option.some.injEq] at hrun
        subst hrun
        exact ⟨rfl, r, hresponses ▸ List.mem_cons_self, howner, rfl⟩
      · intro r' hr'
        rcases List.mem_cons.mp (hresponses ▸ hr') with rfl | hold
        · refine .inr fun k howner' _ => ?_
          obtain rfl := Option.some.inj (howner.symm.trans howner')
          simp [startAsyncCb, hparams]
        · exact .inl hold
    · -- the call is no synchronous one
      rw [hsame]
      refine told_given h hidle hargs hkept (fun k z hz => ⟨z, hz, rfl⟩) ?_ ?_
      · intro run hrun
        cases hidle.symm.trans hrun
      · intro r' hr'
        rcases List.mem_cons.mp (hresponses ▸ hr') with rfl | hold
        · refine .inr fun k' howner' hsome => ?_
          obtain rfl := Option.some.inj (howner.symm.trans howner')
          obtain ⟨y, hy⟩ := Option.isSome_iff_exists.mp hsome
          have heq := (hargs ▸ hk).symm.trans (h.own k y hy)
          obtain ⟨rfl, rfl⟩ := Prod.mk.inj (Option.some.inj heq)
          have hstart := congrArg SynchronousCommand.State.asyncCb hsame
          simp [startAsyncCb, htarget, storedCallback, hidle] at hstart
        · exact .inl hold
  · have hnone : ∀ k, receiveTarget c msg ≠ some (.asyncCb, some (.params k)) := by
      intro k htarget
      exact hind (SynchronousCommand.receiveTarget_data htarget).1
    rw [startAsyncCb_of_ne hnone]
    obtain rfl := ClientRuns.step_indication hind hstep
    exact told_given h hidle rfl (fun _ => id) (fun k z hz => ⟨z, hz, rfl⟩)
      (fun run hrun => by cases hidle.symm.trans hrun) fun r hr => .inl hr

theorem stated_told (h : Told c) {run : Running} {y y' : Sync} {stage : Option CbStage}
    (hrun : c.asyncCb = some run) (hy : c.sync run.call = some y)
    (hstated : Stated run y y' stage) :
    y'.phase = y.phase ∧ (y.condition = true → y'.condition = true) ∧ Copied c run.call y' ∧
      ((∃ r ∈ c.client.responses, r.owner = some run.call) → y'.condition = true ∨
        stage = some .lock ∨ stage = some .setCondition) ∧
      (y'.mutex = some .receiver → stage = some .setCondition ∨ stage = some .unlock) ∧
      (y'.mutex = some .caller → y.mutex = some .caller) := by
  obtain ⟨hgiven, hcopied⟩ := h.running run hrun
  have hafter : run.stage ≠ .copy → Copied c run.call y := fun hstage => hcopied hstage y hy
  have hheld : y.mutex = some .receiver → run.stage = .setCondition ∨ run.stage = .unlock := by
    intro hmutex
    obtain ⟨run', hrun', -, hstage⟩ := h.receiver run.call y hy hmutex
    obtain rfl := Option.some.inj (hrun.symm.trans hrun')
    exact hstage
  have hserved : (∃ r ∈ c.client.responses, r.owner = some run.call) → y.condition = true ∨
      run.stage = .copy ∨ run.stage = .lock ∨ run.stage = .setCondition := by
    rintro ⟨r, hr, howner⟩
    refine (h.served run.call y r hy hr howner).imp_right ?_
    rintro ⟨run', hrun', -, hstage⟩
    obtain rfl := Option.some.inj (hrun.symm.trans hrun')
    exact hstage
  cases hstated with
  | copy hstage =>
      obtain ⟨r, hr, howner, hpayload⟩ := hgiven
      refine ⟨rfl, id, ⟨_, ⟨r, hr, howner, hpayload⟩, rfl⟩, fun _ => .inr (.inl rfl), ?_, id⟩
      intro hmutex
      have hstage' := hheld hmutex
      simp [hstage] at hstage'
  | lock hstage =>
      exact ⟨rfl, id, hafter (by simp [hstage]), fun _ => .inr (.inr rfl), fun _ => .inl rfl,
        by simp⟩
  | setCondition hstage =>
      exact ⟨rfl, fun _ => rfl, hafter (by simp [hstage]), fun _ => .inl rfl,
        fun _ => .inr rfl, id⟩
  | unlock hstage =>
      refine ⟨rfl, id, hafter (by simp [hstage]), fun hr => .inl ?_, by simp, by simp⟩
      simpa [hstage] using hserved hr
  | signal hstage =>
      refine ⟨rfl, id, hafter (by simp [hstage]), fun hr => .inl ?_, ?_, id⟩
      · simpa [hstage] using hserved hr
      · intro hmutex
        have hstage' := hheld hmutex
        simp [hstage] at hstage'

theorem told_runAsyncCb (h : Told c) {run : Running} {y y' : Sync} {stage : Option CbStage}
    (hrun : c.asyncCb = some run) (hy : c.sync run.call = some y)
    (hstatement : asyncCbStatement run y = some (y', stage)) (hclient : d.client = c.client)
    (hsync : d.sync = Function.update c.sync run.call (some y'))
    (hasync : d.asyncCb = stage.map fun stage => { run with stage := stage }) : Told d := by
  obtain ⟨hphase, hcondition, hcopied, hserved, hreceiver, hcaller⟩ :=
    stated_told h hrun hy (stated_of_asyncCbStatement hstatement)
  have hkept : ∀ r ∈ c.client.responses, r ∈ d.client.responses := by
    rw [hclient]
    exact fun _ => id
  have hcases : ∀ k z, d.sync k = some z → k = run.call ∧ z = y' ∨
      k ≠ run.call ∧ c.sync k = some z := by
    intro k z hz
    rw [hsync] at hz
    obtain rfl | hk := eq_or_ne k run.call
    · exact .inl ⟨rfl, by simpa [eq_comm] using hz⟩
    · exact .inr ⟨hk, by simpa [hk] using hz⟩
  have hnext : ∀ stage', stage = some stage' → d.asyncCb = some { run with stage := stage' } := by
    rintro stage' rfl
    exact hasync
  constructor
  case own =>
    intro k z hz
    rw [hclient]
    rcases hcases k z hz with ⟨rfl, rfl⟩ | ⟨-, hold⟩
    · exact h.own _ y hy
    · exact h.own k z hold
  case params =>
    rw [hclient]
    exact h.params
  case running =>
    intro run' hrun'
    rw [hasync, Option.map_eq_some_iff] at hrun'
    obtain ⟨stage', -, rfl⟩ := hrun'
    refine ⟨(h.running run hrun).1.mono hkept, fun _ z hz => ?_⟩
    rcases hcases _ z hz with ⟨-, rfl⟩ | ⟨hne, -⟩
    · exact hcopied.mono hkept rfl rfl
    · exact absurd rfl hne
  case copied =>
    intro k z hz hset
    rcases hcases k z hz with ⟨rfl, rfl⟩ | ⟨-, hold⟩
    · exact hcopied.mono hkept rfl rfl
    · exact (h.copied k z hold hset).mono hkept rfl rfl
  case zero =>
    intro k z hz hzero
    rcases hcases k z hz with ⟨rfl, rfl⟩ | ⟨-, hold⟩
    · exact hcondition (h.zero _ y hy (hphase ▸ hzero))
    · exact h.zero k z hold hzero
  case served =>
    intro k z r hz hr howner
    rw [hclient] at hr
    rcases hcases k z hz with ⟨rfl, rfl⟩ | ⟨hne, hold⟩
    · rcases hserved ⟨r, hr, howner⟩ with hset | hstage | hstage
      · exact .inl hset
      · exact .inr ⟨_, hnext _ hstage, rfl, .inr (.inl rfl)⟩
      · exact .inr ⟨_, hnext _ hstage, rfl, .inr (.inr rfl)⟩
    · refine .inl ((h.served k z r hold hr howner).resolve_right ?_)
      rintro ⟨run', hrun', hcall, -⟩
      obtain rfl := Option.some.inj (hrun.symm.trans hrun')
      exact hne hcall.symm
  case receiver =>
    intro k z hz hmutex
    rcases hcases k z hz with ⟨rfl, rfl⟩ | ⟨hne, hold⟩
    · rcases hreceiver hmutex with hstage | hstage
      · exact ⟨_, hnext _ hstage, rfl, .inl rfl⟩
      · exact ⟨_, hnext _ hstage, rfl, .inr rfl⟩
    · obtain ⟨run', hrun', hcall, -⟩ := h.receiver k z hold hmutex
      obtain rfl := Option.some.inj (hrun.symm.trans hrun')
      exact absurd hcall.symm hne
  case caller =>
    intro k z hz hmutex
    rcases hcases k z hz with ⟨rfl, rfl⟩ | ⟨-, hold⟩
    · rw [hphase]
      exact h.caller _ y hy (hcaller hmutex)
    · exact h.caller k z hold hmutex

theorem owner_ne_nextCall {dflt : Option Callback} (hdispatching : Dispatching dflt c.client)
    {r : ClientRuns.Response Callback ClientData} (hr : r ∈ c.client.responses) :
    r.owner ≠ some c.client.nextCall := by
  intro howner
  obtain ⟨k, call, i, hcall, -, howner', -⟩ := hdispatching.answered r hr
  obtain rfl := Option.some.inj (howner.symm.trans howner')
  cases (hdispatching.numbered.fresh _ le_rfl).symm.trans hcall

theorem told_application {dflt : Option Callback} {a : ClientRuns.Action Callback ClientData}
    {client : ClientRuns.State Callback ClientData} (h : Told c)
    (hdispatching : Dispatching dflt c.client)
    (happlication : SynchronousCommand.isApplicationStep a = true)
    (hstep : ClientRuns.step c.client a = some client) :
    Told { c with client := client } := by
  refine told_client h (arguments_fresh hdispatching) hstep (ClientRuns.responses_step hstep ?_) ?_
    (fun _ _ hy => .inl hy) rfl fun _ hr => owner_ne_nextCall hdispatching hr
  · rintro msg rfl
    cases happlication
  · rintro hndl cb k rfl
    simp [SynchronousCommand.isApplicationStep] at happlication

theorem told_begin {dflt : Option Callback} {hndl : UInt32} {respLen place : Nat}
    {client : ClientRuns.State Callback ClientData} (h : Told c)
    (hdispatching : Dispatching dflt c.client)
    (hstep : ClientRuns.step c.client
      (.begin hndl (some .asyncCb) (some (.params c.client.nextCall))) = some client) :
    Told { c with
      client := client
      sync := Function.update c.sync c.client.nextCall (some (.begun place respLen))
      frames := Function.update c.frames place (some c.client.nextCall) } := by
  refine told_client h (arguments_fresh hdispatching) hstep
    (ClientRuns.responses_step hstep (by simp)) (by simp [eq_comm]) ?_ rfl fun _ hr =>
      owner_ne_nextCall hdispatching hr
  intro k y hy
  obtain rfl | hk := eq_or_ne k c.client.nextCall
  · obtain rfl : _ = y := by simpa using hy
    exact .inr ⟨rfl, ⟨hndl, rfl⟩, rfl, rfl, rfl⟩
  · exact .inl (by simpa [hk] using hy)

theorem told_step {dflt : Option Callback} {a : SynchronousCommand.Action} (h : Told c)
    (hframed : Framed c) (hbefore : Dispatching dflt c.client)
    (hafter : Dispatching dflt d.client)
    (hlive : a = .runAsyncCb → ∀ r, c.asyncCb = some r → c.hasReturned r.call = false)
    (hstep : SynchronousCommand.step c a = some d) : Told d := by
  cases performed_of_step hstep with
  | client a client happlication hc => exact told_application h hbefore happlication hc
  | begin hndl respLen place client hfree hc => exact told_begin h hbefore hc
  | initFails =>
      exact ⟨h.own, h.params, h.running, h.copied, h.zero, h.served, h.receiver, h.caller⟩
  | asyncFailed k y call hy hc hphase hfailed =>
      exact told_setSync h hy rfl rfl rfl rfl rfl rfl (by simp [resultOf]) id (by simp)
  | asyncSent k y hy hphase =>
      refine told_setSync h hy rfl rfl rfl rfl rfl rfl (by simp [resultOf]) id fun hmutex => ?_
      exact absurd hphase (h.caller k y hy hmutex).1
  | lock k y hy hphase hmutex =>
      exact told_setSync h hy rfl rfl rfl rfl rfl rfl (by simp [resultOf]) (by simp) (by simp)
  | testSet k y hy hphase hcondition =>
      exact told_setSync h hy rfl rfl rfl rfl rfl rfl (by simp [resultOf]) id (by simp)
  | testClear k y hy hphase =>
      exact told_setSync h hy rfl rfl rfl rfl rfl rfl (by simp [resultOf]) (by simp) (by simp)
  | timeOut k y hy hphase =>
      exact told_setSync h hy rfl rfl rfl rfl rfl rfl (by simp [resultOf]) (by simp) (by simp)
  | wake k y hy hphase hmutex =>
      exact told_setSync h hy rfl rfl rfl rfl rfl rfl (by simp [resultOf]) (by simp) (by simp)
  | unlock k y hy hphase =>
      refine told_setSync h hy rfl rfl rfl rfl rfl rfl ?_ (by simp) (by simp)
      simp [resultOf]
  | destroy k y ret hy hphase =>
      refine told_setSync h hy rfl rfl rfl rfl rfl rfl ?_ id (by simp)
      intro hzero
      exact h.zero k y hy (by rw [hphase]; exact hzero)
  | receive msg client hidle hc => exact told_receive h hidle hafter hc
  | runAsyncCb run k y y' stage hrun hk hy hstatement =>
      obtain rfl := hframed.occupant hk (hlive rfl run hrun)
      exact told_runAsyncCb h hrun hy hstatement rfl rfl rfl

end Told

@[simp] theorem client_setClient_self (s : State κ) (j : κ) (c : SynchronousCommand.State) :
    (s.setClient j c).client j = c := by
  simp [State.client, State.setClient]

@[simp] theorem client_setClient_of_ne (s : State κ) {j j' : κ} (h : j' ≠ j)
    (c : SynchronousCommand.State) : (s.setClient j c).client j' = s.client j' := by
  simp [State.client, State.setClient, h]

section Runs

variable {indCb defaultRespCb : κ → Option Nat}

/-- The locals of the calls of a running process are where they should be. -/
structure InPlace (c : SynchronousCommand.State) : Prop where
  alive : c.crashed = false
  framed : Framed c

theorem inPlace_step {c d : SynchronousCommand.State} {a : SynchronousCommand.Action}
    (h : InPlace c) (ha : a ≠ .initFails) (hstep : SynchronousCommand.step c a = some d) :
    InPlace d :=
  ⟨crashed_step ha hstep, framed_step h.framed hstep⟩

structure Synchronized (indCb defaultRespCb : κ → Option Nat) (s : State κ) : Prop where
  whole : Whole (application indCb) (application defaultRespCb) s.whole
  told : ∀ j, Told (s.client j)
  inPlace : ∀ j, InPlace (s.client j)

theorem synchronized_initial : Synchronized indCb defaultRespCb
    (State.initial indCb defaultRespCb) where
  whole := whole_initial _ _
  told j := by
    constructor <;> simp [State.initial, State.client, WholeSystem.State.initial,
      ClientDispatch.State.ready, ClientRuns.State.initial, argumentsOf]
  inPlace j := ⟨rfl, framed_initial⟩

theorem inPlace_next {a : Action κ} (h : ∀ j, InPlace (s.client j)) (hlive : UsesLive s a)
    (hstep : step s a = some t) (j' : κ) : InPlace (t.client j') := by
  cases a with
  | client j a =>
      simp only [step, Option.ite_none_right_eq_some, Option.map_eq_some_iff] at hstep
      obtain ⟨-, c, hc, rfl⟩ := hstep
      obtain rfl | hj := eq_or_ne j' j
      · rw [client_setClient_self]
        refine inPlace_step (h j') ?_ hc
        rintro rfl
        exact hlive.elim
      · rw [client_setClient_of_ne s hj]
        exact h j'
  | deliver j i =>
      simp only [step] at hstep
      split at hstep
      case h_2 => cases hstep
      obtain ⟨c, hc, rfl⟩ := Option.map_eq_some_iff.mp hstep
      obtain rfl | hj := eq_or_ne j' j
      · have hnext := inPlace_step (h j') (by simp) hc
        rwa [← client_setClient_self s j' c] at hnext
      · have hold := h j'
        rwa [← client_setClient_of_ne s hj c] at hold
  | system b =>
      simp only [step, Option.ite_none_right_eq_some, Option.map_eq_some_iff] at hstep
      obtain ⟨-, whole, -, rfl⟩ := hstep
      exact ⟨(h j').alive, (h j').framed⟩

theorem synchronized_step {a : Action κ} (h : Synchronized indCb defaultRespCb s)
    (horderly : Orderly s a) (hstep : step s a = some t) : Synchronized indCb defaultRespCb t := by
  have hwhole := whole_next h.whole horderly hstep
  refine ⟨hwhole, fun j' => ?_, inPlace_next h.inPlace horderly.2 hstep⟩
  cases a with
  | client j a =>
      simp only [step, Option.ite_none_right_eq_some, Option.map_eq_some_iff] at hstep
      obtain ⟨-, c, hc, rfl⟩ := hstep
      obtain rfl | hj := eq_or_ne j' j
      · have hafter := hwhole.dispatching j'
        simp only [State.setClient, Function.update_self] at hafter
        rw [client_setClient_self]
        refine told_step (h.told j') (h.inPlace j').framed (h.whole.dispatching j') hafter ?_ hc
        rintro rfl
        exact horderly.2
      · rw [client_setClient_of_ne s hj]
        exact h.told j'
  | deliver j i =>
      simp only [step] at hstep
      split at hstep
      case h_2 => cases hstep
      obtain ⟨c, hc, rfl⟩ := Option.map_eq_some_iff.mp hstep
      obtain rfl | hj := eq_or_ne j' j
      · have hafter := hwhole.dispatching j'
        simp only [State.setClient, Function.update_self] at hafter
        have htold := told_step (h.told j') (h.inPlace j').framed (h.whole.dispatching j') hafter
          (by simp) hc
        rwa [← client_setClient_self s j' c] at htold
      · have htold := h.told j'
        rwa [← client_setClient_of_ne s hj c] at htold
  | system b =>
      simp only [step, Option.ite_none_right_eq_some, Option.map_eq_some_iff] at hstep
      obtain ⟨hsystem, whole, hnext, rfl⟩ := hstep
      cases b with
      | client j a => cases hsystem
      | deliver j i => cases hsystem
      | send j k request =>
          simp only [WholeSystem.step, Option.ite_none_right_eq_some,
            Option.map_eq_some_iff] at hnext
          obtain ⟨-, client, hclient, rfl⟩ := hnext
          obtain rfl | hj := eq_or_ne j' j
          · have htold := told_application (h.told j') (h.whole.dispatching j') rfl hclient
            simpa [State.client] using htold
          · simpa [State.client, hj] using h.told j'
      | track j =>
          simp only [WholeSystem.step] at hnext
          split at hnext
          · obtain ⟨service, -, rfl⟩ := Option.map_eq_some_iff.mp hnext
            exact h.told j'
          · cases hnext
      | service a =>
          simp only [WholeSystem.step, Option.ite_none_left_eq_some,
            Option.map_eq_some_iff] at hnext
          obtain ⟨-, service, -, rfl⟩ := hnext
          exact h.told j'
      | unsolicited event connections =>
          obtain rfl := Option.some.inj hnext
          exact h.told j'

theorem synchronized_reached
    (hrun : Reaches step Orderly (State.initial indCb defaultRespCb) s) :
    Synchronized indCb defaultRespCb s :=
  hrun.invariant (Synchronized indCb defaultRespCb) synchronized_initial
    fun _ _ _ => synchronized_step

/-- The buffer of the call begins with the answer to the request it sent. -/
def HasAnswer (s : State κ) (j : κ) (k : Nat) (y : Sync) : Prop :=
  ∃ request answer, (k, request) ∈ s.whole.requests j ∧ Answers request answer ∧
    y.resp = answer.payload.toList.take (min y.respLen maxUrilPayloadSize)

theorem hasAnswer_of_zero (h : Synchronized indCb defaultRespCb s) {j : κ} {k : Nat} {y : Sync}
    (hy : s.sync j k = some y) (hzero : resultOf y.phase = some 0) : HasAnswer s j k y := by
  have htold := h.told j
  obtain ⟨payload, ⟨r, hr, howner, rfl⟩, hcopied⟩ := htold.copied k y hy (htold.zero k y hy hzero)
  obtain ⟨k', request, hmem, howner', hanswers⟩ := h.whole.responses j r hr
  obtain rfl := Option.some.inj (howner.symm.trans howner')
  exact ⟨request, r.msg, hmem, hanswers, hcopied⟩

end Runs

/-- A step of the thread that made call `k`, whose wait does not end at its deadline. -/
def isOwn (k : Nat) : SynchronousCommand.Action → Bool
  | .asyncReturned k' | .lock k' | .test k' | .wake k' false | .unlock k' | .destroy k' => k' == k
  | _ => false

def Own (j : κ) (k : Nat) (_ : State κ) (a : Action κ) : Prop :=
  ∃ b, isOwn k b = true ∧ a = .client j b

def stepsLeft : SyncPhase → Nat
  | .executing => 6
  | .accepted => 5
  | .locked => 4
  | .waiting => 3
  | .woken => 2
  | .exiting _ => 1
  | .returned _ => 0

/-- The response was given to the call, and the call did not give up. -/
structure Finishing (c : SynchronousCommand.State) (k : Nat) : Prop where
  alive : c.crashed = false
  told : Told c
  sent : ∃ call u i, c.client.calls k = some call ∧ call.phase = .holding .sent u i
  idle : ∀ run, c.asyncCb = some run → run.call ≠ k
  succeeds : ∃ y, c.sync k = some y ∧ y.condition = true ∧
    ∀ ret, resultOf y.phase = some ret → ret = 0

section Finishing

variable {c d : SynchronousCommand.State}

/-- How many steps call `k` has before it at most. -/
def callLeft (c : SynchronousCommand.State) (k : Nat) : Nat :=
  (c.sync k).elim 0 fun y => stepsLeft y.phase

theorem own_setSync {k : Nat} {y y' : Sync} (h : Finishing c k) (hy : c.sync k = some y)
    (hclient : d.client = c.client) (hasync : d.asyncCb = c.asyncCb)
    (hcrashed : d.crashed = c.crashed)
    (hsync : d.sync = Function.update c.sync k (some y')) (htold : Told d)
    (hcondition : y'.condition = y.condition)
    (hresult : y.condition = true → (∀ ret, resultOf y.phase = some ret → ret = 0) →
      ∀ ret, resultOf y'.phase = some ret → ret = 0)
    (hless : stepsLeft y'.phase < stepsLeft y.phase) :
    Finishing d k ∧ callLeft d k < callLeft c k ∧ d.client = c.client := by
  obtain ⟨z, hz, hset, hzero⟩ := h.succeeds
  obtain rfl := Option.some.inj (hz.symm.trans hy)
  have hy' : d.sync k = some y' := by rw [hsync, Function.update_self]
  refine ⟨⟨hcrashed.trans h.alive, htold, ?_, ?_, y', hy', ?_, hresult hset hzero⟩, ?_, hclient⟩
  · rw [hclient]
    exact h.sent
  · rw [hasync]
    exact h.idle
  · rw [hcondition, hset]
  · simpa [callLeft, hy, hy'] using hless

theorem own_step {k : Nat} {b : SynchronousCommand.Action} (h : Finishing c k)
    (hown : isOwn k b = true) (hstep : SynchronousCommand.step c b = some d) (htold : Told d) :
    Finishing d k ∧ callLeft d k < callLeft c k ∧ d.client = c.client := by
  cases performed_of_step hstep with
  | client a client happlication hc => cases hown
  | begin hndl respLen place client hfree hc => cases hown
  | initFails => cases hown
  | receive msg client hidle hc => cases hown
  | runAsyncCb run k' y y' stage hrun hk hy hstatement => cases hown
  | timeOut k' y hy hphase => cases hown
  | asyncFailed k' y call hy hc hphase hfailed =>
      -- the request was sent
      obtain rfl := beq_iff_eq.mp hown
      obtain ⟨call', u, i, hc', hsent⟩ := h.sent
      obtain rfl := Option.some.inj (hc'.symm.trans hc)
      simp [hsent] at hfailed
  | asyncSent k' y hy hphase =>
      obtain rfl := beq_iff_eq.mp hown
      exact own_setSync h hy rfl rfl rfl rfl htold rfl (by simp [resultOf])
        (by rw [hphase]; exact Nat.lt_succ_self _)
  | lock k' y hy hphase hmutex =>
      obtain rfl := beq_iff_eq.mp hown
      exact own_setSync h hy rfl rfl rfl rfl htold rfl (by simp [resultOf])
        (by rw [hphase]; exact Nat.lt_succ_self _)
  | testSet k' y hy hphase hcondition =>
      obtain rfl := beq_iff_eq.mp hown
      exact own_setSync h hy rfl rfl rfl rfl htold rfl (by simp [resultOf])
        (by simp [hphase, stepsLeft])
  | testClear k' y hy hphase =>
      obtain rfl := beq_iff_eq.mp hown
      exact own_setSync h hy rfl rfl rfl rfl htold rfl (by simp [resultOf])
        (by rw [hphase]; exact Nat.lt_succ_self _)
  | wake k' y hy hphase hmutex =>
      obtain rfl := beq_iff_eq.mp hown
      exact own_setSync h hy rfl rfl rfl rfl htold rfl (by simp [resultOf])
        (by rw [hphase]; exact Nat.lt_succ_self _)
  | unlock k' y hy hphase =>
      obtain rfl := beq_iff_eq.mp hown
      refine own_setSync h hy rfl rfl rfl rfl htold rfl ?_ (by rw [hphase]; exact Nat.lt_succ_self _)
      intro hset _ ret hret
      simpa [resultOf, hset, eq_comm] using hret
  | destroy k' y ret hy hphase =>
      obtain rfl := beq_iff_eq.mp hown
      refine own_setSync h hy rfl rfl rfl rfl htold rfl ?_ (by rw [hphase]; exact Nat.lt_succ_self _)
      intro _ hzero
      rwa [hphase] at hzero

/-- The mutex of the call is free when its thread comes to take it. -/
theorem mutex_free {k : Nat} {y : Sync} (h : Finishing c k) (hy : c.sync k = some y)
    (hphase : y.phase = .executing ∨ y.phase = .accepted ∨ y.phase = .waiting) :
    y.mutex = none := by
  cases hmutex : y.mutex with
  | none => rfl
  | some thread =>
      cases thread with
      | receiver =>
          obtain ⟨run, hrun, hcall, -⟩ := h.told.receiver k y hy hmutex
          exact absurd hcall (h.idle run hrun)
      | caller =>
          obtain ⟨hexecuting, haccepted, hwaiting⟩ := h.told.caller k y hy hmutex
          rcases hphase with hphase | hphase | hphase
          · exact absurd hphase hexecuting
          · exact absurd hphase haccepted
          · exact absurd hphase hwaiting

theorem own_goesOn {k : Nat} {y : Sync} (h : Finishing c k) (hy : c.sync k = some y)
    (hnot : ∀ ret, y.phase ≠ .returned ret) :
    ∃ b, isOwn k b = true ∧ (SynchronousCommand.step c b).isSome := by
  cases hphase : y.phase with
  | executing =>
      obtain ⟨⟨cb, data, phase⟩, u, i, hcall, rfl⟩ := h.sent
      exact ⟨.asyncReturned k, beq_self_eq_true k,
        by simp [SynchronousCommand.step, h.alive, SynchronousCommand.advance, hy, hcall, hphase]⟩
  | accepted =>
      have hfree := mutex_free h hy (.inr (.inl hphase))
      exact ⟨.lock k, beq_self_eq_true k,
        by simp [SynchronousCommand.step, h.alive, SynchronousCommand.advance, hy, hphase, hfree]⟩
  | locked =>
      exact ⟨.test k, beq_self_eq_true k,
        by simp [SynchronousCommand.step, h.alive, SynchronousCommand.advance, hy, hphase]⟩
  | waiting =>
      have hfree := mutex_free h hy (.inr (.inr hphase))
      exact ⟨.wake k false, beq_self_eq_true k,
        by simp [SynchronousCommand.step, h.alive, SynchronousCommand.advance, hy, hphase, hfree]⟩
  | woken =>
      exact ⟨.unlock k, beq_self_eq_true k,
        by simp [SynchronousCommand.step, h.alive, SynchronousCommand.advance, hy, hphase]⟩
  | exiting ret =>
      exact ⟨.destroy k, beq_self_eq_true k,
        by simp [SynchronousCommand.step, h.alive, SynchronousCommand.advance, hy, hphase]⟩
  | returned ret => exact absurd hphase (hnot ret)

end Finishing

section Main

variable {indCb defaultRespCb : κ → Option Nat}

theorem isLocal_of_isOwn {k : Nat} {b : SynchronousCommand.Action} (h : isOwn k b = true) :
    isLocal b = true := by
  cases b with
  | client a => cases h
  | receive msg => cases h
  | _ => rfl

omit [DecidableEq κ] in
theorem orderly_of_own {j : κ} {k : Nat} {a : Action κ} (h : Own j k s a) : Orderly s a := by
  obtain ⟨b, hown, rfl⟩ := h
  cases b with
  | client a => cases hown
  | begin hndl respLen place => cases hown
  | receive msg => cases hown
  | runAsyncCb => cases hown
  | initFails => cases hown
  | _ => exact ⟨fun _ h => (Option.some_ne_none _ h.symm).elim, trivial⟩

theorem own_next {j : κ} {k : Nat} {a : Action κ} (h : Synchronized indCb defaultRespCb s)
    (hfinishing : Finishing (s.client j) k) (hown : Own j k s a) (hstep : step s a = some t) :
    Synchronized indCb defaultRespCb t ∧ Finishing (t.client j) k ∧
      callLeft (t.client j) k < callLeft (s.client j) k := by
  have hnext := synchronized_step h (orderly_of_own hown) hstep
  obtain ⟨b, hb, rfl⟩ := hown
  simp only [step, Option.ite_none_right_eq_some, Option.map_eq_some_iff] at hstep
  obtain ⟨-, c, hc, rfl⟩ := hstep
  have htold := hnext.told j
  rw [client_setClient_self] at htold ⊢
  obtain ⟨hfinishing', hless, -⟩ := own_step hfinishing hb hc htold
  exact ⟨hnext, hfinishing', hless⟩

theorem finishing_of_answered (h : Synchronized indCb defaultRespCb s) {j : κ} {k : Nat} {y : Sync}
    (hy : s.sync j k = some y) (hnone : resultOf y.phase = none)
    (hanswered : ∃ r ∈ (s.whole.clients j).responses, r.owner = some k)
    (hidle : ∀ run, s.asyncCb j = some run → run.call ≠ k) : Finishing (s.client j) k := by
  obtain ⟨r, hr, howner⟩ := hanswered
  refine ⟨(h.inPlace j).alive, h.told j, ?_, hidle, y, hy, ?_, by simp [hnone]⟩
  · obtain ⟨k', call, i, hcall, hphase, howner', -⟩ := (h.whole.dispatching j).answered r hr
    obtain rfl := Option.some.inj (howner.symm.trans howner')
    exact ⟨call, _, i, hcall, hphase⟩
  · refine ((h.told j).served k y r hy hr howner).resolve_right ?_
    rintro ⟨run, hrun, hcall, -⟩
    exact hidle run hrun hcall

end Main

/-- `Orderly` as a test. -/
def orderlyTest (s : State κ) (a : Action κ) : Bool :=
  (wholeAction s a).all (WholeSystem.orderlyTest s.whole) &&
    match a with
    | .client j .runAsyncCb => (s.asyncCb j).all fun r => !(s.client j).hasReturned r.call
    | .client _ .initFails => false
    | _ => true

omit [DecidableEq κ] in
theorem orderlyTest_sound (s : State κ) (a : Action κ) (h : orderlyTest s a = true) :
    Orderly s a := by
  simp only [orderlyTest, Bool.and_eq_true] at h
  obtain ⟨hwhole, hlive⟩ := h
  refine ⟨fun b hb => WholeSystem.orderlyTest_sound _ _ (by simpa [hb] using hwhole), ?_⟩
  cases a with
  | client j a =>
      cases a with
      | runAsyncCb =>
          intro r hr
          simpa [hr] using hlive
      | initFails => cases hlive
      | _ => trivial
  | deliver j i => trivial
  | system b => trivial

/-- A client asks for the radio mode with eight bytes for the answer, and has not been
woken when `async_cb` is done. -/
def waitingActions : List (Action Nat) :=
  [.client 1 (.begin 1 8 0), .client 1 (.client (.allocateId 0)),
    .client 1 (.client (.acquireSlot 0)), .client 1 (.client (.fill 0)),
    .client 1 (.client (.fill 0)), .client 1 (.client (.fill 0)),
    .system (.send 1 0 (OrphanRequests.emptyRequest MsgId.radioGetRadioMode 1)),
    .client 1 (.asyncReturned 0), .client 1 (.lock 0), .client 1 (.test 0), .system (.track 1),
    .system (.service (.dispatch 1)), .system (.service (.readIds 0 (0, 0))),
    .system (.service (.radioMode 0 .on)), .system (.service (.ret 1)), .deliver 1 0,
    .client 1 .runAsyncCb, .client 1 .runAsyncCb, .client 1 .runAsyncCb, .client 1 .runAsyncCb,
    .client 1 .runAsyncCb]

end UnifiedRil.SynchronousCalls

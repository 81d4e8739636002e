import UnifiedRil.EntryPoints

namespace UnifiedRil.FailedInitialization

open UnifiedRil.Library.Runs
open UnifiedRil.Protocol
open UnifiedRil.Client
open UnifiedRil.RequestFidelity
open UnifiedRil.EntryPoints
open UnifiedRil.Reconnection (urilConnectAttemptsCount)

variable {φ δ : Type}

theorem connectRoutine_eq (connector : Connector) (attempt : Attempt) :
    connectRoutine connector attempt =
      (attempt.stored.getD connector, attempt.succeeds) := by
  unfold connectRoutine Attempt.stored Attempt.succeeds
  cases attempt.socket with
  | false => rfl
  | true =>
      cases attempt.malloc with
      | none => rfl
      | some ctx => rfl

/-- The attempts up to the first that succeeds. -/
def upToSuccess : List Attempt → List Attempt
  | [] => []
  | attempt :: rest =>
      if attempt.succeeds then [attempt] else attempt :: upToSuccess rest

/-- The members that the last allocation among some attempts left. -/
def lastStored (tried : List Attempt) : Option Connector :=
  (tried.filterMap Attempt.stored).getLast?

theorem lastStored_cons (attempt : Attempt) (rest : List Attempt) (connector : Connector) :
    (lastStored (attempt :: rest)).getD connector =
      (lastStored rest).getD (attempt.stored.getD connector) := by
  unfold lastStored
  cases hstored : attempt.stored with
  | none => rw [List.filterMap_cons_none hstored, Option.getD_none]
  | some stored =>
      rw [List.filterMap_cons_some hstored, List.getLast?_cons, Option.getD_some, Option.getD_some]

theorem connectLoop_eq (attempts : Nat → Attempt) (left i : Nat) (connector : Connector) :
    connectLoop attempts left i connector =
      ((lastStored (upToSuccess ((List.range' i left).map attempts))).getD connector,
        ((List.range' i left).map attempts).any Attempt.succeeds) := by
  induction left generalizing i connector with
  | zero => rfl
  | succ left ih =>
      rw [List.range'_succ, List.map_cons, List.any_cons]
      unfold connectLoop upToSuccess
      rw [connectRoutine_eq]
      dsimp only
      cases hsucceeds : (attempts i).succeeds with
      | true =>
          rw [if_pos rfl, if_pos rfl, lastStored_cons]
          rfl
      | false =>
          rw [if_neg Bool.false_ne_true, if_neg Bool.false_ne_true, lastStored_cons, ih]
          rfl

/-- The results of the attempts that `uril_client_init` makes at most. -/
def attemptsOf (env : InitEnvironment) : List Attempt :=
  (List.range' 0 urilConnectAttemptsCount).map env.attempts

/-- One of the attempts succeeds. -/
def Connects (env : InitEnvironment) : Bool := (attemptsOf env).any Attempt.succeeds

/-- The members of the connector, null before there is one. -/
def members (s : Statics φ δ) : Connector :=
  s.serviceConnector.getD unixServiceConnectorCreate

/-- A failure leaves the context and the connector as they were. -/
def Atomic (env : InitEnvironment) (args : InitArgs φ) (s : Statics φ δ) : Prop :=
  (clientInit env args s).2 ≠ 0 →
    (clientInit env args s).1.context = s.context ∧
      members (clientInit env args s).1 = members s

/-- The context is as empty as it will be, and the connector has the members that
the attempts will leave. -/
structure NothingToLose (env : InitEnvironment) (args : InitArgs φ) (s : Statics φ δ) : Prop where
  context : s.context = { clearedContext args with initialized := Connects env }
  connector : ∀ stored ∈ lastStored (upToSuccess (attemptsOf env)), stored = members s

theorem members_connectorOf {env : InitEnvironment} {s : Statics φ δ} {connector : Connector}
    (h : connectorOf env s = some connector) : connector = members s := by
  unfold connectorOf at h
  unfold members
  cases hconnector : s.serviceConnector with
  | some before =>
      rw [hconnector] at h
      exact (Option.some.inj h).symm
  | none =>
      rw [hconnector] at h
      exact (Option.some.inj (Option.ite_none_right_eq_some.mp h).2).symm

theorem clientInit_left {env : InitEnvironment} {args : InitArgs φ} {s : Statics φ δ}
    (h : ¬ Refused env args s) :
    ((clientInit env args s).2 = 0 ↔ Connects env = true ∧ env.initMutexLocks = true) ∧
      members (clientInit env args s).1 =
        (lastStored (upToSuccess (attemptsOf env))).getD (members s) ∧
      ((clientInit env args s).2 ≠ 0 →
        (clientInit env args s).1.context =
          { clearedContext args with initialized := Connects env }) := by
  obtain ⟨hhndl, connector, hconnector⟩ := exists_of_not_refused h
  obtain rfl := members_connectorOf hconnector
  rw [clientInit_started hhndl hconnector, connectLoop_eq]
  change ((afterConnecting env args s (_, Connects env)).2 = 0 ↔ _) ∧
    members (afterConnecting env args s (_, Connects env)).1 = _ ∧
      ((afterConnecting env args s (_, Connects env)).2 ≠ 0 →
        (afterConnecting env args s (_, Connects env)).1.context = _)
  cases Connects env with
  | false =>
      refine ⟨iff_of_false ?_ fun hnot => Bool.false_ne_true hnot.1, rfl, fun _ => rfl⟩
      exact errorRet_ne
  | true =>
      unfold afterConnecting
      dsimp only
      split
      · rename_i hlock
        refine ⟨iff_of_false ?_ fun hnot => ?_, rfl, fun _ => rfl⟩
        · exact errorRet_ne
        · exact Bool.false_ne_true (hlock.symm.trans hnot.2)
      · rename_i hlock
        exact ⟨iff_of_true rfl ⟨rfl, Bool.eq_true_of_not_eq_false hlock⟩, rfl, absurd rfl⟩

theorem atomic_refused {env : InitEnvironment} {args : InitArgs φ} {s : Statics φ δ}
    (h : Refused env args s) : Atomic env args s := by
  intro _
  rw [clientInit_refused h]
  refine ⟨rfl, ?_⟩
  unfold members connectorOf
  dsimp only
  cases s.serviceConnector with
  | some connector => rfl
  | none =>
      dsimp only
      split
      · rfl
      · rfl

/-- A failed initialization changes nothing exactly if its arguments are refused
or there is nothing to lose. -/
theorem failed_initialization (env : InitEnvironment) (args : InitArgs φ) (s : Statics φ δ) :
    Atomic env args s ↔
      Refused env args s ∨ (Connects env = true ∧ env.initMutexLocks = true) ∨
        NothingToLose env args s := by
  by_cases hrefused : Refused env args s
  · exact iff_of_true (atomic_refused hrefused) (.inl hrefused)
  rw [or_iff_right hrefused]
  obtain ⟨hret, hmembers, hcontext⟩ := clientInit_left hrefused
  constructor
  · intro hatomic
    rw [← hret]
    refine or_iff_not_imp_left.mpr fun hfails => ?_
    obtain ⟨hsame, hsame'⟩ := hatomic hfails
    refine ⟨hsame.symm.trans (hcontext hfails), fun stored hstored => ?_⟩
    rw [hmembers, hstored] at hsame'
    exact hsame'
  · rintro (hok | ⟨hsame, hsame'⟩) hfails
    · exact absurd (hret.mpr hok) hfails
    · refine ⟨(hcontext hfails).trans hsame.symm, ?_⟩
      rw [hmembers]
      cases hstored : lastStored (upToSuccess (attemptsOf env)) with
      | none => rfl
      | some stored => exact hsame' stored hstored

/-- No socket can be created. -/
def noSocket : InitEnvironment where
  creates := true
  attempts _ := ⟨false, none, false, false, false⟩
  initMutexLocks := true

/-- A process whose only request waits for its response. -/
def waitingHistory : History Nat Nat :=
  ((History.start Statics.initial).init
      { noSocket with attempts := fun _ => ⟨true, some 0, true, true, true⟩ }
      ⟨true, none, none⟩).executeAsync goodEnvironment
    { hndl := 1, simId := 0, msgId := 0, req := some fun _ => 0, reqLen := 0, asyncRespCb := some 7
      clientData := none }

theorem waitingHistory_reached :
    Reaches step anyAction (History.start Statics.initial) waitingHistory :=
  .tail (.executeAsync _ _) (.tail (.init _ _) .refl trivial rfl) trivial rfl

/-- The second initialization of a process fails, and the response to the
request of the first one does not call back any more. -/
theorem waiting_client_lost :
    Reaches step anyAction (History.start Statics.initial) waitingHistory ∧
      ¬ Atomic noSocket ⟨true, none, none⟩ waitingHistory.statics ∧
      (receiveMsg ⟨true, true⟩ waitingHistory.statics.context
        { UrilProtocolMsg.zeroed with uniqueId := 1 }).2 ≠ none ∧
      (receiveMsg ⟨true, true⟩
        (clientInit noSocket ⟨true, none, none⟩ waitingHistory.statics).1.context
        { UrilProtocolMsg.zeroed with uniqueId := 1 }).2 = none := by
  refine ⟨waitingHistory_reached, fun h => ?_, by decide, by decide⟩
  have hsame := congrArg Context.handle (h (by decide)).1
  revert hsame
  decide

end UnifiedRil.FailedInitialization

import UnifiedRil.EntryPoints

namespace UnifiedRil.WrongHandles

open UnifiedRil.Library.Runs
open UnifiedRil.Protocol
open UnifiedRil.Client
open UnifiedRil.RequestFidelity
open UnifiedRil.EntryPoints

variable {φ δ : Type}

/-- The outcome of a command that did nothing. -/
structure NothingDone (ctx : Context φ δ) (r : Outcome φ δ) : Prop where
  ret : r.ret ≠ 0
  context : r.context = ctx
  stream : r.stream = []

/-- Both commands fail and do nothing. -/
structure CommandsInert (s : Statics φ δ) (sync : SyncEnvironment) (hndl : UInt32) : Prop where
  async : ∀ env cmd, cmd.hndl = hndl →
    NothingDone s.context (executeCommandAsync env s.context s.uniqueMsgId cmd)
  sync : ∀ env cmd, cmd.hndl = hndl →
    ∃ r ∈ executeCommandSync env sync s.context s.uniqueMsgId cmd, NothingDone s.context r

/-- All calls with the handle fail and do nothing. -/
structure Inert (h : History φ δ) (sync : SyncEnvironment) (hndl : UInt32) : Prop where
  commands : CommandsInert h.statics sync hndl
  releaseFails : (clientRelease h.statics.context).2 ≠ 0
  release : ∀ t, step h (.release hndl) = some t → t.statics = h.statics

theorem nothingDone_error (ctx : Context φ δ) (uniqueMsgId : UInt32) :
    NothingDone ctx (errorOutcome ctx uniqueMsgId 0) := ⟨errorRet_ne, rfl, rfl⟩

theorem executeSync_inits {env : Environment} {sync : SyncEnvironment} {ctx : Context φ δ}
    {uniqueMsgId : UInt32} {cmd : Command φ δ} {r : Outcome φ δ}
    (h : r ∈ executeCommandSync env sync ctx uniqueMsgId cmd) : sync.inits = true := by
  unfold executeCommandSync at h
  split at h
  · cases h
  · rename_i hinits
    exact Bool.eq_true_of_not_eq_false hinits

theorem commandsInert_of_rejected {s : Statics φ δ} {sync : SyncEnvironment} {hndl : UInt32}
    (h : s.context.initialized = false ∨ hndl ≠ s.context.handle) (hinits : sync.inits = true) :
    CommandsInert s sync hndl := by
  have hrejected : ∀ cmd : Command φ δ, cmd.hndl = hndl → Rejected s.context cmd := by
    rintro cmd rfl
    exact h.imp_right .inl
  constructor
  · intro env cmd hcmd
    rw [execute_rejected (hrejected cmd hcmd)]
    exact nothingDone_error s.context s.uniqueMsgId
  · intro env cmd hcmd
    unfold executeCommandSync
    rw [hinits, execute_rejected (hrejected cmd hcmd)]
    exact ⟨_, rfl, nothingDone_error s.context s.uniqueMsgId⟩

/-- The release of an initialized library succeeds, with any handle. -/
theorem not_inert_of_initialized {h : History φ δ} (hinit : h.statics.context.initialized = true)
    (sync : SyncEnvironment) (hndl : UInt32) : ¬ Inert h sync hndl := by
  intro hinert
  refine hinert.releaseFails ?_
  rw [clientRelease, if_pos hinit]

theorem inert_of_uninitialized {h : History φ δ} {sync : SyncEnvironment}
    (hinit : h.statics.context.initialized = false) (hinits : sync.inits = true)
    (hndl : UInt32) : Inert h sync hndl := by
  have hrelease : clientRelease h.statics.context = (h.statics.context, -1) := by
    rw [clientRelease, hinit]
    rfl
  refine ⟨commandsInert_of_rejected (.inl hinit) hinits, ?_, ?_⟩
  · rw [hrelease]
    exact Int.neg_ne_zero.mpr Int.one_ne_zero
  · intro t ht
    rw [← Option.some.inj ht, hrelease]

theorem CommandsInert.inits {s : Statics φ δ} {sync : SyncEnvironment} {hndl : UInt32}
    (h : CommandsInert s sync hndl) : sync.inits = true := by
  let cmd : Command φ δ :=
    { hndl := hndl, simId := 0, msgId := 0, req := none, reqLen := 0, asyncRespCb := none
      clientData := none }
  obtain ⟨r, hr, -⟩ := h.sync goodEnvironment cmd rfl
  exact executeSync_inits hr

/-- In every state, all calls with a handle do nothing exactly if the library is
not initialized, and what the synchronous command needs for its wait is. -/
theorem wrong_handles (h : History φ δ) (sync : SyncEnvironment) (hndl : UInt32) :
    Inert h sync hndl ↔ h.statics.context.initialized = false ∧ sync.inits = true := by
  constructor
  · intro hinert
    constructor
    · by_contra hinit
      exact not_inert_of_initialized (Bool.eq_true_of_not_eq_false hinit) sync hndl hinert
    · exact hinert.commands.inits
  · rintro ⟨hinit, hinits⟩
    exact inert_of_uninitialized hinit hinits hndl

theorem execute_fields (env : Environment) (ctx : Context φ δ) (uniqueMsgId : UInt32)
    (cmd : Command φ δ) :
    (executeCommandAsync env ctx uniqueMsgId cmd).context.initialized = ctx.initialized ∧
      (executeCommandAsync env ctx uniqueMsgId cmd).context.handle = ctx.handle := by
  unfold executeCommandAsync
  repeat' split
  all_goals exact ⟨rfl, rfl⟩

theorem executeSync_context {env : Environment} {sync : SyncEnvironment} {ctx : Context φ δ}
    {uniqueMsgId : UInt32} {cmd : Command φ δ} {r : Outcome φ δ}
    (h : executeCommandSync env sync ctx uniqueMsgId cmd = some r) :
    r.context = (executeCommandAsync env ctx uniqueMsgId cmd).context := by
  unfold executeCommandSync at h
  split at h
  · cases h
  dsimp only at h
  split at h
  · rw [← Option.some.inj h]
  · rw [← Option.some.inj h]

theorem receiveMsg_fields (env : ReceiveEnvironment) (ctx : Context φ δ) (msg : UrilProtocolMsg) :
    (receiveMsg env ctx msg).1.initialized = ctx.initialized ∧
      (receiveMsg env ctx msg).1.handle = ctx.handle := by
  have hrsp : (handleReceiveRsp ctx msg).1.initialized = ctx.initialized ∧
      (handleReceiveRsp ctx msg).1.handle = ctx.handle := by
    unfold handleReceiveRsp
    split
    · exact ⟨rfl, rfl⟩
    · exact ⟨rfl, rfl⟩
  unfold receiveMsg
  split
  · exact ⟨rfl, rfl⟩
  split
  · exact ⟨rfl, rfl⟩
  dsimp only
  split
  · exact hrsp
  · exact hrsp

/-- An initialized context has the handle that was returned last. -/
def HandleReturned (h : History φ δ) : Prop :=
  h.statics.context.initialized = true → h.lastHandle = some h.statics.context.handle

/-- The initializations do not fail behind the connection. -/
def MutexLocks (_ : History φ δ) : Event φ δ → Prop
  | .init env _ => env.initMutexLocks = true
  | _ => True

theorem HandleReturned.init {h : History φ δ} (hhandle : HandleReturned h) {env : InitEnvironment}
    (hlocks : env.initMutexLocks = true) (args : InitArgs φ) :
    HandleReturned (h.init env args) := by
  have hnot : ¬ env.initMutexLocks = false := by
    rw [hlocks]
    exact Bool.noConfusion
  unfold HandleReturned History.init
  by_cases hrefused : Refused env args h.statics
  · rw [clientInit_refused hrefused]
    exact hhandle
  · obtain ⟨hhndl, connector, hconnector⟩ := exists_of_not_refused hrefused
    rw [clientInit_started hhndl hconnector]
    rcases connectLoop env.attempts _ 0 connector with ⟨connector', _ | _⟩
    · intro hinit
      cases hinit
    · unfold afterConnecting
      dsimp only
      rw [if_neg hnot]
      exact fun _ => rfl

theorem HandleReturned.of_fields {h t : History φ δ} (hhandle : HandleReturned h)
    (hinit : t.statics.context.initialized = h.statics.context.initialized)
    (hsame : t.statics.context.handle = h.statics.context.handle)
    (hlast : t.lastHandle = h.lastHandle) : HandleReturned t := by
  unfold HandleReturned
  rw [hinit, hsame, hlast]
  exact hhandle

theorem HandleReturned.step {h t : History φ δ} {event : Event φ δ} (hhandle : HandleReturned h)
    (hlocks : MutexLocks h event) (hstep : EntryPoints.step h event = some t) :
    HandleReturned t := by
  cases event with
  | init env args =>
      obtain rfl := Option.some.inj hstep
      exact hhandle.init hlocks args
  | executeAsync env cmd =>
      obtain rfl := Option.some.inj hstep
      obtain ⟨hinit, hsame⟩ := execute_fields env h.statics.context h.statics.uniqueMsgId cmd
      exact hhandle.of_fields hinit hsame rfl
  | executeSync env sync cmd =>
      obtain ⟨r, hr, rfl⟩ := Option.map_eq_some_iff.mp hstep
      obtain ⟨hinit, hsame⟩ := execute_fields env h.statics.context h.statics.uniqueMsgId cmd
      have hcontext := executeSync_context hr
      exact hhandle.of_fields ((congrArg Context.initialized hcontext).trans hinit)
        ((congrArg Context.handle hcontext).trans hsame) rfl
  | release hndl =>
      obtain rfl := Option.some.inj hstep
      unfold clientRelease
      split
      · exact Bool.noConfusion
      · exact hhandle
  | receive env msg =>
      obtain rfl := Option.some.inj hstep
      obtain ⟨hinit, hsame⟩ := receiveMsg_fields env h.statics.context msg
      exact hhandle.of_fields hinit hsame rfl

/-- While no initialization fails behind the connection, a command with a wrong
handle does nothing. -/
theorem commands_inert {h : History φ δ}
    (hrun : Reaches step MutexLocks (History.start Statics.initial) h) {sync : SyncEnvironment}
    (hinits : sync.inits = true) {hndl : UInt32} (hwrong : h.lastHandle ≠ some hndl) :
    CommandsInert h.statics sync hndl := by
  have hhandle : HandleReturned h :=
    hrun.invariant HandleReturned nofun fun _ _ _ hhandle hlocks hstep =>
      hhandle.step hlocks hstep
  refine commandsInert_of_rejected ?_ hinits
  by_contra hnot
  rw [not_or, Bool.not_eq_false, not_not] at hnot
  exact hwrong (hnot.2 ▸ hhandle hnot.1)

/-- An initialization that connects at its first attempt. -/
def connects (initMutexLocks : Bool) : InitEnvironment where
  creates := true
  attempts _ := ⟨true, some 0, true, true, true⟩
  initMutexLocks := initMutexLocks

def plainArgs : InitArgs Nat := ⟨true, none, none⟩

/-- What a synchronous command needs for its wait is initialized, and its response comes. -/
def goodSync : SyncEnvironment := ⟨true, true, true, false, true, true⟩

/-- Another handle releases the library; a handle that was never returned sends a
request, where an initialization failed at its mutex; and a synchronous command whose
mutex is not initialized does not return. -/
theorem other_handles_work :
    (∃ h : History Nat Nat, Reaches step anyAction (History.start Statics.initial) h ∧
      h.lastHandle ≠ some 2 ∧ ¬ Inert h goodSync 2) ∧
    (∃ h : History Nat Nat, Reaches step anyAction (History.start Statics.initial) h ∧
      h.lastHandle ≠ some 0 ∧ ¬ CommandsInert h.statics goodSync 0) ∧
    ¬ Inert (History.start (Statics.initial : Statics Nat Nat))
      { goodSync with mutexInits := false } 2 := by
  have hfirst : Reaches step anyAction (History.start Statics.initial)
      ((History.start (Statics.initial (φ := Nat) (δ := Nat))).init (connects true) plainArgs) :=
    .tail (.init (connects true) plainArgs) .refl trivial rfl
  refine ⟨?_, ?_, fun hinert => ?_⟩
  · exact ⟨_, hfirst, by decide, not_inert_of_initialized rfl goodSync 2⟩
  · refine ⟨_, .tail (.init (connects false) plainArgs) hfirst trivial rfl, by decide, ?_⟩
    intro hinert
    refine (hinert.async goodEnvironment
      { hndl := 0, simId := 0, msgId := 0, req := some fun _ => 0, reqLen := 0, asyncRespCb := none
        clientData := none } rfl).ret ?_
    decide
  · cases hinert.commands.inits

end UnifiedRil.WrongHandles

import UnifiedRil.EntryPoints

namespace UnifiedRil.FailedCommands

open UnifiedRil.Library.Runs
open UnifiedRil.Protocol
open UnifiedRil.Client
open UnifiedRil.RequestFidelity
open UnifiedRil.EntryPoints

variable {φ δ : Type}

/-- The call fails before it has a slot. -/
def FailsEarly (env : Environment) (ctx : Context φ δ) (cmd : Command φ δ) : Prop :=
  Rejected ctx cmd ∨ env.idMutexLocks = false ∨ env.cmdMutexLocks = false ∨
    ∀ i, (ctx.pendingOps i).busy = true

theorem acquireFreeOpSlot_full {ops : PendingOps φ δ} (h : ∀ i, (ops i).busy = true) :
    acquireFreeOpSlot ops = (none, ops) := by
  unfold acquireFreeOpSlot
  split
  · rename_i i hfind
    have hfree := List.find?_some hfind
    rw [h i] at hfree
    cases hfree
  · rfl

theorem execute_early {env : Environment} {ctx : Context φ δ} {cmd : Command φ δ}
    (h : FailsEarly env ctx cmd) (uniqueMsgId : UInt32) :
    (executeCommandAsync env ctx uniqueMsgId cmd).context = ctx ∧
      filledSlot env ctx cmd = none := by
  by_cases hrejected : Rejected ctx cmd
  · refine ⟨congrArg Outcome.context (execute_rejected hrejected), if_neg ?_⟩
    rintro ⟨hinit, hhandle, hreq, -⟩
    rcases hrejected with hnot | hnot | hnot
    · exact Bool.false_ne_true (hnot.symm.trans hinit)
    · exact hnot hhandle
    · rw [hnot] at hreq
      cases hreq
  have hlater := h.resolve_left hrejected
  simp only [Rejected, not_or] at hrejected
  obtain ⟨hinit, hhandle, hreq⟩ := hrejected
  obtain ⟨memory, hmemory⟩ := Option.ne_none_iff_exists'.mp hreq
  unfold executeCommandAsync filledSlot
  rw [if_neg hinit, if_neg hhandle, hmemory]
  dsimp only
  rcases hlater with hid | hcmd | hbusy
  · rw [if_pos hid]
    exact ⟨rfl, if_neg fun h => Bool.false_ne_true (hid.symm.trans h.2.2.2.1)⟩
  · rw [if_pos hcmd]
    refine ⟨?_, if_neg fun h => Bool.false_ne_true (hcmd.symm.trans h.2.2.2.2.1)⟩
    split
    · rfl
    · rfl
  · rw [acquireFreeOpSlot_full hbusy]
    dsimp only
    constructor
    · repeat' split
      all_goals rfl
    · split
      · rfl
      · rfl

/-- A call that has a slot keeps it, whether it fails from there on or not. -/
theorem execute_late {env : Environment} {ctx : Context φ δ} {cmd : Command φ δ}
    (h : ¬ FailsEarly env ctx cmd) (uniqueMsgId : UInt32) :
    (∃ i, (ctx.pendingOps i).busy = false ∧
        ((executeCommandAsync env ctx uniqueMsgId cmd).context.pendingOps i).busy = true) ∧
      ((executeCommandAsync env ctx uniqueMsgId cmd).ret = 0 ↔
        env.cmdMutexUnlocks = true ∧ env.send.isSome = true) := by
  simp only [FailsEarly, Rejected, not_or] at h
  obtain ⟨⟨hinit, hhandle, hreq⟩, hid, hcmd, hbusy⟩ := h
  obtain ⟨memory, hmemory⟩ := Option.ne_none_iff_exists'.mp hreq
  obtain ⟨i, hop⟩ : ∃ i, (acquireFreeOpSlot ctx.pendingOps).1 = some i := by
    cases hop : (acquireFreeOpSlot ctx.pendingOps).1 with
    | none => exact absurd (acquireFreeOpSlot_none hop) hbusy
    | some i => exact ⟨i, rfl⟩
  obtain ⟨hfree, hops⟩ := acquireFreeOpSlot_some hop
  have hacquire : acquireFreeOpSlot ctx.pendingOps =
      (some i, Function.update ctx.pendingOps i { ctx.pendingOps i with busy := true }) :=
    Prod.ext hop hops
  rw [Bool.not_eq_false] at hinit hid hcmd
  rw [not_not] at hhandle
  unfold executeCommandAsync
  rw [hacquire, hmemory, hinit, hid, hcmd, hhandle]
  cases env.cmdMutexUnlocks with
  | false => exact ⟨⟨i, hfree, by simp [errorOutcome]⟩, by simp [errorOutcome, errorRet_ne]⟩
  | true =>
      cases env.send with
      | none => exact ⟨⟨i, hfree, by simp [errorOutcome]⟩, by simp [errorOutcome, errorRet_ne]⟩
      | some count => exact ⟨⟨i, hfree, by simp⟩, by simp⟩

/-- Call `k` was made, and left no callback. -/
structure Traceless (k : Nat) (h : History φ δ) : Prop where
  made : k < h.nextCall
  writer : ∀ i, h.writer i ≠ some k
  invoked : k ∉ h.invoked

theorem Traceless.executed {k : Nat} {h : History φ δ} (htrace : Traceless k h) (r : Outcome φ δ)
    (filled : Option (Fin urilMaxPendingOps)) : Traceless k (h.executed r filled) where
  made := Nat.lt_succ_of_lt htrace.made
  writer i := by
    unfold History.executed
    dsimp only
    split
    · intro heq
      exact Nat.ne_of_gt htrace.made (Option.some.inj heq)
    · exact htrace.writer i
  invoked := htrace.invoked

theorem Traceless.receive {k : Nat} {h : History φ δ} (htrace : Traceless k h)
    (env : ReceiveEnvironment) (msg : UrilProtocolMsg) : Traceless k (h.receive env msg) where
  made := htrace.made
  writer := htrace.writer
  invoked hmem := by
    rcases List.mem_append.mp hmem with hcall | hbefore
    · obtain ⟨-, hfound⟩ := Option.ite_none_right_eq_some.mp (Option.mem_toList.mp hcall)
      obtain ⟨i, -, hwriter⟩ := Option.bind_eq_some_iff.mp hfound
      exact htrace.writer i hwriter
    · exact htrace.invoked hbefore

theorem Traceless.step {k : Nat} {h t : History φ δ} {event : Event φ δ} (htrace : Traceless k h)
    (hstep : EntryPoints.step h event = some t) : Traceless k t := by
  cases event with
  | init env args =>
      obtain rfl := Option.some.inj hstep
      refine ⟨htrace.made, fun i => ?_, htrace.invoked⟩
      unfold History.init
      dsimp only
      split
      · nofun
      · exact htrace.writer i
  | executeAsync env cmd =>
      obtain rfl := Option.some.inj hstep
      exact htrace.executed _ _
  | executeSync env sync cmd =>
      obtain ⟨r, -, rfl⟩ := Option.map_eq_some_iff.mp hstep
      exact htrace.executed r _
  | release hndl =>
      obtain rfl := Option.some.inj hstep
      exact ⟨htrace.made, htrace.writer, htrace.invoked⟩
  | receive env msg =>
      obtain rfl := Option.some.inj hstep
      exact htrace.receive env msg

theorem Traceless.run {k : Nat} {h t : History φ δ} (htrace : Traceless k h)
    (hrun : Reaches EntryPoints.step anyAction h t) : Traceless k t :=
  hrun.invariant (Traceless k) htrace fun _ _ _ htrace _ hstep => htrace.step hstep

/-- The call writes nothing outside its message; and if it fails, the slots are as busy
as before, and whatever happens next, its callback is not invoked. -/
def LeavesNoTrace (s : Statics φ δ) (env : Environment) (cmd : Command φ δ) : Prop :=
  let r := executeCommandAsync env s.context s.uniqueMsgId cmd
  payloadOffset + r.copied ≤ sizeofMsg ∧
    (r.ret ≠ 0 →
      (∀ i, (r.context.pendingOps i).busy = (s.context.pendingOps i).busy) ∧
        ∀ t, Reaches step anyAction ((History.start s).executeAsync env cmd) t → 0 ∉ t.invoked)

theorem copied_inside_iff (s : Statics φ δ) (env : Environment) (cmd : Command φ δ) :
    payloadOffset + (executeCommandAsync env s.context s.uniqueMsgId cmd).copied ≤ sizeofMsg ↔
      Rejected s.context cmd ∨ payloadOffset + cmd.reqLen ≤ sizeofMsg := by
  by_cases hrejected : Rejected s.context cmd
  · rw [execute_rejected hrejected]
    exact iff_of_true (show 18 + 0 ≤ 1044 by decide) (.inl hrejected)
  · rw [execute_copied hrejected, or_iff_right hrejected]

/-- A failed command leaves no trace exactly if its request does not reach beyond the
message, and it fails before it has a slot or would not fail after that. -/
theorem failed_commands (s : Statics φ δ) (env : Environment) (cmd : Command φ δ) :
    LeavesNoTrace s env cmd ↔
      (Rejected s.context cmd ∨ payloadOffset + cmd.reqLen ≤ sizeofMsg) ∧
        (FailsEarly env s.context cmd ∨
          env.cmdMutexUnlocks = true ∧ env.send.isSome = true) := by
  refine and_congr (copied_inside_iff s env cmd) ?_
  by_cases hearly : FailsEarly env s.context cmd
  · obtain ⟨hcontext, hfilled⟩ := execute_early hearly s.uniqueMsgId
    refine iff_of_true (fun _ => ⟨fun i => by rw [hcontext], fun t hrun => ?_⟩) (.inl hearly)
    have htrace : Traceless 0 ((History.start s).executeAsync env cmd) := by
      refine ⟨Nat.one_pos, fun i => ?_, List.not_mem_nil⟩
      change (if filledSlot env s.context cmd = some i then _ else _) ≠ _
      rw [hfilled]
      nofun
    exact (htrace.run hrun).invoked
  · obtain ⟨⟨i, hfree, hbusy⟩, hret⟩ := execute_late hearly s.uniqueMsgId
    rw [or_iff_right hearly, ← hret]
    constructor
    · intro h
      by_contra hfails
      have hsame := (h hfails).1 i
      rw [hfree, hbusy] at hsame
      cases hsame
    · exact fun hok hfails => absurd hok hfails

/-- An initialized client. -/
def readyStatics : Statics Nat Nat :=
  { context := { Context.zeroed with initialized := true, handle := 1 }
    serviceConnector := some ⟨some 0, true, true⟩
    uniqueHandle := 1
    uniqueMsgId := 0 }

def readyCommand : Command Nat Nat :=
  { hndl := 1, simId := 0, msgId := 0, req := some fun _ => 0, reqLen := 0, asyncRespCb := some 7
    clientData := none }

/-- Where only `send` fails, a slot stays busy, and a response with the id of
the request calls back. -/
theorem send_failure_leaves_trace :
    ¬ LeavesNoTrace readyStatics { goodEnvironment with send := none } readyCommand ∧
      ∃ t, Reaches step anyAction
          ((History.start readyStatics).executeAsync { goodEnvironment with send := none }
            readyCommand) t ∧
        t.invoked = [0] := by
  constructor
  · intro h
    have hsame := (h.2 (by decide)).1 ⟨0, by decide⟩
    revert hsame
    decide
  · exact ⟨_, .tail (.receive ⟨true, true⟩ { UrilProtocolMsg.zeroed with uniqueId := 1 }) .refl
      trivial rfl, rfl⟩

end UnifiedRil.FailedCommands

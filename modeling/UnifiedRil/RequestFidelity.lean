import UnifiedRil.ClientRuns
import UnifiedRil.Connection

namespace UnifiedRil.RequestFidelity

open UnifiedRil.Library.Bytes
open UnifiedRil.Library.Runs
open UnifiedRil.Protocol
open UnifiedRil.Client
open UnifiedRil.ClientRuns
open UnifiedRil.Connection

variable {φ δ : Type}

structure Command (φ δ : Type) where
  hndl : UInt32
  simId : UInt8
  msgId : UInt32
  req : Option (Nat → UInt8)
  reqLen : Nat
  asyncRespCb : Option φ
  clientData : Option δ

/-- What the calls made on the way return. -/
structure Environment where
  idMutexLocks : Bool
  cmdMutexLocks : Bool
  cmdMutexUnlocks : Bool
  /-- how many bytes of the message the socket takes, unless `send` fails -/
  send : Option Nat
  /-- what the padding of the local message holds -/
  padding : Nat → UInt8

structure Outcome (φ δ : Type) where
  ret : UInt32
  context : Context φ δ
  uniqueMsgId : UInt32
  copied : Nat
  stream : List UInt8

/-- `return -1` -/
def errorRet : UInt32 := 0xFFFFFFFF

theorem errorRet_ne : errorRet ≠ 0 := by decide

def reqBytes (memory : Nat → UInt8) (reqLen : Nat) : List UInt8 :=
  (List.range reqLen).map memory

/-- The local message once it has its id. What the copy writes behind the
payload is not part of it. -/
def requestMsg (cmd : Command φ δ) (memory : Nat → UInt8) (uniqueId : UInt32) :
    UrilProtocolMsg :=
  { UrilProtocolMsg.zeroed with
    simId := cmd.simId
    msgId := cmd.msgId
    len := UInt16.ofNat cmd.reqLen
    payload := overwrite (zeros _) (reqBytes memory cmd.reqLen)
    uniqueId := uniqueId }

def errorOutcome (context : Context φ δ) (uniqueMsgId : UInt32) (copied : Nat) : Outcome φ δ :=
  { ret := errorRet, context, uniqueMsgId, copied, stream := [] }

/-- `uril_client_execute_command_async` -/
def executeCommandAsync (env : Environment) (ctx : Context φ δ) (uniqueMsgId : UInt32)
    (cmd : Command φ δ) : Outcome φ δ :=
  if ctx.initialized = false then errorOutcome ctx uniqueMsgId 0
  else if cmd.hndl ≠ ctx.handle then errorOutcome ctx uniqueMsgId 0
  else
    match cmd.req with
    | none => errorOutcome ctx uniqueMsgId 0
    | some memory =>
        if env.idMutexLocks = false then errorOutcome ctx uniqueMsgId cmd.reqLen
        else
          let uniqueId := uniqueMsgId + 1
          if env.cmdMutexLocks = false then errorOutcome ctx uniqueId cmd.reqLen
          else
            let (op, ops) := acquireFreeOpSlot ctx.pendingOps
            if env.cmdMutexUnlocks = false then
              errorOutcome { ctx with pendingOps := ops } uniqueId cmd.reqLen
            else
              match op with
              | none => errorOutcome { ctx with pendingOps := ops } uniqueId cmd.reqLen
              | some i =>
                  let filled : Context φ δ := { ctx with
                    pendingOps := Function.update ops i { ops i with
                      asyncRespCb := storedCallback ctx cmd.asyncRespCb
                      clientData := cmd.clientData
                      uniqueId := uniqueId } }
                  match env.send with
                  | none => errorOutcome filled uniqueId cmd.reqLen
                  | some count =>
                      { ret := 0, context := filled, uniqueMsgId := uniqueId
                        copied := cmd.reqLen
                        stream := sendMessage (requestMsg cmd memory uniqueId) env.padding
                          count }

/-- The call fails one of its checks, and returns before it copies. -/
def Rejected (ctx : Context φ δ) (cmd : Command φ δ) : Prop :=
  ctx.initialized = false ∨ cmd.hndl ≠ ctx.handle ∨ cmd.req = none

/-- A mutex fails, all slots are busy, or `send` fails. -/
def NothingSent (env : Environment) (ctx : Context φ δ) : Prop :=
  env.idMutexLocks = false ∨ env.cmdMutexLocks = false ∨ env.cmdMutexUnlocks = false ∨
    (∀ i, (ctx.pendingOps i).busy = true) ∨ env.send = none

/-- The call fails without writing outside its message or sending anything, or
the pump, after the messages sent earlier, hands over just the request. -/
def Faithful (env : Environment) (ctx : Context φ δ) (uniqueMsgId : UInt32)
    (cmd : Command φ δ) (earlier : List (UrilProtocolMsg × (Nat → UInt8))) : Prop :=
  let r := executeCommandAsync env ctx uniqueMsgId cmd
  (r.ret = errorRet ∧ payloadOffset + r.copied ≤ sizeofMsg ∧ r.stream = []) ∨
    ∃ memory msg, cmd.req = some memory ∧
      pumpLoop false (streamOf earlier ++ r.stream) = earlier.map (·.1) ++ [msg] ∧
      msg.isIndication = 0 ∧ msg.simId = cmd.simId ∧ msg.msgId = cmd.msgId ∧
      msg.uniqueId = uniqueMsgId + 1 ∧ msg.len.toNat = cmd.reqLen ∧
      msg.payload.toList = reqBytes memory cmd.reqLen ++
        List.replicate (maxUrilPayloadSize - cmd.reqLen) 0

@[simp] theorem reqBytes_length (memory : Nat → UInt8) (n : Nat) :
    (reqBytes memory n).length = n := by
  simp [reqBytes]

theorem execute_rejected {env : Environment} {ctx : Context φ δ} {uniqueMsgId : UInt32}
    {cmd : Command φ δ} (h : Rejected ctx cmd) :
    executeCommandAsync env ctx uniqueMsgId cmd = errorOutcome ctx uniqueMsgId 0 := by
  unfold executeCommandAsync
  rcases h with h | h | h
  · rw [if_pos h]
  · rw [if_pos h]
    split <;> rfl
  · rw [h]
    split
    · rfl
    · split <;> rfl

theorem execute_copied {env : Environment} {ctx : Context φ δ} {uniqueMsgId : UInt32}
    {cmd : Command φ δ} (h : ¬ Rejected ctx cmd) :
    (executeCommandAsync env ctx uniqueMsgId cmd).copied = cmd.reqLen := by
  simp only [Rejected, not_or] at h
  obtain ⟨hinit, hhandle, hreq⟩ := h
  obtain ⟨memory, hmemory⟩ := Option.ne_none_iff_exists'.mp hreq
  unfold executeCommandAsync
  rw [if_neg hinit, if_neg hhandle, hmemory]
  dsimp only
  repeat' split
  all_goals rfl

theorem execute_nothingSent {env : Environment} {ctx : Context φ δ} (uniqueMsgId : UInt32)
    (cmd : Command φ δ) (h : NothingSent env ctx) :
    (executeCommandAsync env ctx uniqueMsgId cmd).ret = errorRet ∧
      (executeCommandAsync env ctx uniqueMsgId cmd).stream = [] := by
  unfold executeCommandAsync
  split
  · exact ⟨rfl, rfl⟩
  split
  · exact ⟨rfl, rfl⟩
  split
  · exact ⟨rfl, rfl⟩
  split
  · exact ⟨rfl, rfl⟩
  split
  · exact ⟨rfl, rfl⟩
  dsimp only
  split
  · exact ⟨rfl, rfl⟩
  split
  · exact ⟨rfl, rfl⟩
  split
  · exact ⟨rfl, rfl⟩
  · -- everything succeeded, so nothing is left of the hypothesis
    rename_i hid hcmd hunlock _ i hop _ count hsend
    rcases h with h | h | h | h | h
    · exact absurd h hid
    · exact absurd h hcmd
    · exact absurd h hunlock
    · have hfree := (acquireFreeOpSlot_some hop).1
      simp [h i] at hfree
    · simp [hsend] at h

theorem execute_sent {env : Environment} {ctx : Context φ δ} (uniqueMsgId : UInt32)
    {cmd : Command φ δ} (h : ¬ Rejected ctx cmd) (hsent : ¬ NothingSent env ctx) :
    ∃ memory count, cmd.req = some memory ∧ env.send = some count ∧
      (executeCommandAsync env ctx uniqueMsgId cmd).ret = 0 ∧
      (executeCommandAsync env ctx uniqueMsgId cmd).uniqueMsgId = uniqueMsgId + 1 ∧
      (executeCommandAsync env ctx uniqueMsgId cmd).stream =
        sendMessage (requestMsg cmd memory (uniqueMsgId + 1)) env.padding count := by
  simp only [Rejected, not_or] at h
  simp only [NothingSent, not_or] at hsent
  obtain ⟨hinit, hhandle, hreq⟩ := h
  obtain ⟨hid, hcmd, hunlock, hbusy, hsend⟩ := hsent
  obtain ⟨memory, hmemory⟩ := Option.ne_none_iff_exists'.mp hreq
  obtain ⟨count, hcount⟩ := Option.ne_none_iff_exists'.mp hsend
  cases hop : (acquireFreeOpSlot ctx.pendingOps).1 with
  | none => exact absurd (acquireFreeOpSlot_none hop) hbusy
  | some i =>
      refine ⟨memory, count, hmemory, hcount, ?_⟩
      unfold executeCommandAsync
      rw [if_neg hinit, if_neg hhandle, hmemory]
      dsimp only
      rw [if_neg hid, if_neg hcmd, if_neg hunlock, hop, hcount]
      exact ⟨rfl, rfl, rfl⟩

theorem handed_over (cmd : Command φ δ) (memory : Nat → UInt8) (uniqueId : UInt32)
    (padding : Nat → UInt8) (earlier : List (UrilProtocolMsg × (Nat → UInt8))) :
    pumpLoop false (streamOf earlier ++ (requestMsg cmd memory uniqueId).image padding) =
      earlier.map (·.1) ++ [requestMsg cmd memory uniqueId] := by
  rw [pumpLoop_streamOf, pumpLoop_image]

theorem requestMsg_fits {cmd : Command φ δ} (h : cmd.reqLen ≤ maxUrilPayloadSize)
    (memory : Nat → UInt8) (uniqueId : UInt32) :
    (requestMsg cmd memory uniqueId).len.toNat = cmd.reqLen ∧
      (requestMsg cmd memory uniqueId).payload.toList = reqBytes memory cmd.reqLen ++
        List.replicate (maxUrilPayloadSize - cmd.reqLen) 0 := by
  constructor
  · simp only [requestMsg, UInt16.toNat_ofNat']
    refine Nat.mod_eq_of_lt ?_
    change cmd.reqLen ≤ 1024 at h
    omega
  · have hcopy := overwrite_zeros_toList (n := maxUrilPayloadSize) (reqBytes memory cmd.reqLen)
      (by simpa using h)
    simpa [requestMsg] using hcopy

theorem reqLen_le_of_payload {msg : UrilProtocolMsg} {memory : Nat → UInt8} {n : Nat}
    (h : msg.payload.toList = reqBytes memory n ++
      List.replicate (maxUrilPayloadSize - n) 0) : n ≤ maxUrilPayloadSize := by
  have hlength := congrArg List.length h
  simp only [Vector.length_toList, List.length_append, reqBytes_length,
    List.length_replicate] at hlength
  omega

theorem sent_whole {cmd : Command φ δ} {memory : Nat → UInt8} {uniqueId : UInt32}
    {padding : Nat → UInt8} {count : Nat}
    {earlier : List (UrilProtocolMsg × (Nat → UInt8))} {msg : UrilProtocolMsg}
    (h : pumpLoop false (streamOf earlier ++
        sendMessage (requestMsg cmd memory uniqueId) padding count) =
      earlier.map (·.1) ++ [msg]) : sizeofMsg ≤ count := by
  by_contra hshort
  have hlength : (sendMessage (requestMsg cmd memory uniqueId) padding count).length <
      sizeofMsg := by
    rw [sendMessage, List.length_take, image_length]
    omega
  rw [pumpLoop_streamOf, pumpLoop_short hlength] at h
  simp at h

/-- A request gets through unchanged, or an error comes back and nothing
happened, just when the call is rejected at once, or nothing is sent and the
request does not reach beyond the message, or the request fits in the payload
and the socket takes the whole message. -/
theorem request_fidelity (env : Environment) (ctx : Context φ δ) (uniqueMsgId : UInt32)
    (cmd : Command φ δ) (earlier : List (UrilProtocolMsg × (Nat → UInt8))) :
    Faithful env ctx uniqueMsgId cmd earlier ↔
      Rejected ctx cmd ∨
      NothingSent env ctx ∧ payloadOffset + cmd.reqLen ≤ sizeofMsg ∨
      cmd.reqLen ≤ maxUrilPayloadSize ∧ ∃ count, env.send = some count ∧ sizeofMsg ≤ count := by
  have hpad : payloadOffset + maxUrilPayloadSize ≤ sizeofMsg := by decide
  by_cases hrejected : Rejected ctx cmd
  · simp only [hrejected, true_or, iff_true]
    left
    rw [execute_rejected hrejected]
    have hinside : payloadOffset + 0 ≤ sizeofMsg := by decide
    exact ⟨rfl, hinside, rfl⟩
  by_cases hnothing : NothingSent env ctx
  · obtain ⟨hret, hstream⟩ :=
      execute_nothingSent uniqueMsgId cmd hnothing
    simp only [hrejected, hnothing, true_and, false_or]
    constructor
    · rintro (⟨-, hinside, -⟩ | ⟨memory, msg, -, -, -, -, -, -, -, hpayload⟩)
      · rw [execute_copied hrejected] at hinside
        exact .inl hinside
      · have hfits := reqLen_le_of_payload hpayload
        left
        omega
    · intro hinside
      left
      rw [execute_copied hrejected]
      refine ⟨hret, ?_, hstream⟩
      rcases hinside with hinside | ⟨hfits, -⟩
      · exact hinside
      · omega
  · obtain ⟨memory, count, hmemory, hcount, hret, -, hstream⟩ :=
      execute_sent uniqueMsgId hrejected hnothing
    simp only [hrejected, hnothing, false_and, false_or]
    constructor
    · rintro (⟨herror, -, -⟩ | ⟨memory', msg, hmemory', hpump, -, -, -, -, -, hpayload⟩)
      · rw [hret] at herror
        exact absurd herror (by decide)
      · rw [hstream] at hpump
        exact ⟨reqLen_le_of_payload hpayload, count, hcount, sent_whole hpump⟩
    · rintro ⟨hfits, count', hcount', hwhole⟩
      obtain rfl : count = count' := Option.some.inj (hcount.symm.trans hcount')
      right
      refine ⟨memory, requestMsg cmd memory (uniqueMsgId + 1), hmemory, ?_, rfl, rfl, rfl, rfl,
        requestMsg_fits hfits memory _⟩
      rw [hstream, sendMessage_whole _ _ hwhole, handed_over]

/-- The steps of one call, with no other step between them. -/
def callSteps (k : Nat) (cmd : Command φ δ) : List (Action φ δ) :=
  [.begin cmd.hndl cmd.asyncRespCb cmd.clientData, .allocateId k, .acquireSlot k, .fill k,
    .fill k, .fill k, .send k true]

/-- The steps in which the client's runs take a call leave what the function
leaves. -/
theorem exec_callSteps (s : State φ δ) {env : Environment} {cmd : Command φ δ}
    (hrejected : ¬ Rejected s.context cmd) (hsent : ¬ NothingSent env s.context) :
    ∃ t, exec step (fun _ _ => true) s (callSteps s.nextCall cmd) = some t ∧
      t.context = (executeCommandAsync env s.context s.uniqueMsgId cmd).context ∧
      t.uniqueMsgId = (executeCommandAsync env s.context s.uniqueMsgId cmd).uniqueMsgId := by
  simp only [Rejected, not_or] at hrejected
  simp only [NothingSent, not_or] at hsent
  obtain ⟨hinit, hhandle, hreq⟩ := hrejected
  obtain ⟨hid, hcmd, hunlock, hbusy, hsend⟩ := hsent
  obtain ⟨memory, hmemory⟩ := Option.ne_none_iff_exists'.mp hreq
  obtain ⟨count, hcount⟩ := Option.ne_none_iff_exists'.mp hsend
  have hhandle' : cmd.hndl = s.context.handle := not_not.mp hhandle
  have hinit' : s.context.initialized = true := by simpa using hinit
  obtain ⟨i, ops, hacquire⟩ :
      ∃ i ops, acquireFreeOpSlot s.context.pendingOps = (some i, ops) := by
    cases hop : acquireFreeOpSlot s.context.pendingOps with
    | mk op ops =>
        cases op with
        | none => exact absurd (acquireFreeOpSlot_none (congrArg Prod.fst hop)) hbusy
        | some i => exact ⟨i, ops, rfl⟩
  simp [callSteps, exec, step, hinit', hhandle', State.setPhase, hacquire, assign,
    executeCommandAsync, hmemory, hid, hcmd, hunlock, hcount]
  cases cmd.asyncRespCb <;> rfl

/-- `sizeof(uril_data_set_data_profiles_req_msg_v01)` -/
def sizeofSetDataProfilesReq : Nat := 1 + 8 * (1 + 150 + 4 + 4 + 127 + 127 + 4 + 1)

/-- An initialized client, and all calls on the way succeed. -/
def goodEnvironment : Environment :=
  { idMutexLocks := true, cmdMutexLocks := true, cmdMutexUnlocks := true
    send := some sizeofMsg, padding := fun _ => 0 }

/-- The library's own largest request struct does not fit in the message. -/
theorem set_data_profiles_overflows :
    ¬ ∀ (env : Environment) (ctx : Context Nat Nat) (uniqueMsgId : UInt32)
        (cmd : Command Nat Nat) (earlier : List (UrilProtocolMsg × (Nat → UInt8))),
      Faithful env ctx uniqueMsgId cmd earlier := by
  intro hfits
  have hfaithful := hfits goodEnvironment { Context.zeroed with initialized := true, handle := 1 }
    0 { hndl := 1, simId := 0, msgId := 0, req := some fun _ => 0
        reqLen := sizeofSetDataProfilesReq, asyncRespCb := none, clientData := none } []
  rcases hfaithful with ⟨-, hinside, -⟩ | ⟨memory, msg, -, -, -, -, -, -, -, hpayload⟩
  · rw [execute_copied (by simp [Rejected])] at hinside
    exact absurd hinside (by decide)
  · exact absurd (reqLen_le_of_payload hpayload) (by decide)

end UnifiedRil.RequestFidelity

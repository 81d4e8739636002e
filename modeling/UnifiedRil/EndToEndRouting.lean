import UnifiedRil.MessageTracker
import UnifiedRil.RequestFidelity

/-!
Any number of client processes, one connection each, and the service between
them and the adapter. Every client counts its own ids, and the tracker keys its
map by the id alone, so two clients' requests can meet in one entry.

The response channel of a connection may reorder responses, since
`processResponse` sends after it released the lock of the map. Which messages
the processors and the adapter accept is a parameter.
-/

namespace UnifiedRil.EndToEndRouting

open UnifiedRil.Library.Runs
open UnifiedRil.Protocol
open UnifiedRil.MessageTracker
open UnifiedRil.Client
open UnifiedRil.Connection
open UnifiedRil.RequestFidelity

variable {φ δ : Type}

/-- A client process: its context and its `s_unique_msg_id`. -/
structure Process (φ δ : Type) where
  context : Context φ δ
  uniqueMsgId : UInt32

/-- A request that was sent, by the client with this number. -/
structure Request where
  serial : Nat
  client : Nat
  msg : UrilProtocolMsg
  deriving DecidableEq

/-- A response on its way, and the request that it answers. -/
structure Delivery where
  request : Request
  msg : UrilProtocolMsg

/-- What happened: the answer to a request was given to a connection, or to
none; a client ran a callback for the answer to a request. -/
inductive Event
  | answered (request : Request) (connection : Option Nat)
  | callback (client : Nat) (request : Request)

structure State (φ δ : Type) where
  processes : Nat → Process φ δ
  toService : Nat → List Request
  toClient : Nat → List Delivery
  pendingRequests : PendingRequests Nat
  /-- the accepted requests that the adapter has not answered -/
  outstanding : List Request
  nextSerial : Nat
  log : List Event

/-- The clients have initialized the library and nothing is sent yet. -/
def State.initial (contexts : Nat → Context φ δ) : State φ δ :=
  { processes := fun j => ⟨contexts j, 0⟩, toService := fun _ => [], toClient := fun _ => []
    pendingRequests := .empty, outstanding := [], nextSerial := 0, log := [] }

inductive Action (φ δ : Type)
  /-- client `j` calls `uril_client_execute_command_async`; the socket takes the
  message or refuses it -/
  | execute (j : Nat) (cmd : Command φ δ) (taken : Bool)
  | track (j : Nat)
  | answer (serial : Nat) (content : UrilProtocolMsg)
  | deliver (j : Nat) (serial : Nat)

/-- The mutexes work, and the socket takes a message whole or not at all. -/
def environment (taken : Bool) : Environment :=
  { goodEnvironment with send := if taken then some sizeofMsg else none }

/-- The message that a successful call leaves on the stream. -/
def sentMsg (r : Outcome φ δ) (cmd : Command φ δ) : Option UrilProtocolMsg :=
  if r.ret = 0 then cmd.req.map fun memory => requestMsg cmd memory r.uniqueMsgId else none

/-- What a call sends is what the pump hands to `trackAndDispatchRequest`. -/
theorem pumpLoop_execute (taken : Bool) (ctx : Context φ δ) (uniqueMsgId : UInt32)
    (cmd : Command φ δ) :
    let r := executeCommandAsync (environment taken) ctx uniqueMsgId cmd
    pumpLoop false r.stream = (sentMsg r cmd).toList := by
  have herror : (errorRet = 0) = False := eq_false errorRet_ne
  by_cases hrejected : Rejected ctx cmd
  · simp only [execute_rejected hrejected, sentMsg, errorOutcome, herror, if_false]
    exact pumpLoop_short sizeofMsg_pos
  by_cases hnothing : NothingSent (environment taken) ctx
  · obtain ⟨hret, hstream⟩ := execute_nothingSent uniqueMsgId cmd hnothing
    simp only [hret, hstream, sentMsg, herror, if_false]
    exact pumpLoop_short sizeofMsg_pos
  · obtain ⟨memory, count, hmemory, hcount, hret, hid, hstream⟩ :=
      execute_sent uniqueMsgId hrejected hnothing
    have hwhole : sizeofMsg ≤ count := by
      cases taken <;> simp [environment] at hcount
      omega
    simp only [hret, hstream, sentMsg, hmemory, hid, if_true, Option.map_some,
      sendMessage_whole _ _ hwhole, pumpLoop_image, Option.toList_some]

variable (accepts : UrilProtocolMsg → Bool)

def step (s : State φ δ) : Action φ δ → Option (State φ δ)
  | .execute j cmd taken =>
      let r := executeCommandAsync (environment taken) (s.processes j).context
        (s.processes j).uniqueMsgId cmd
      some { s with
        processes := Function.update s.processes j ⟨r.context, r.uniqueMsgId⟩
        toService := Function.update s.toService j
          (s.toService j ++ ((sentMsg r cmd).map fun msg => ⟨s.nextSerial, j, msg⟩).toList)
        nextSerial := s.nextSerial + 1 }
  | .track j =>
      match s.toService j with
      | r :: rest =>
          let (pendingRequests, accepted) :=
            trackAndDispatchRequest s.pendingRequests j r.msg (some accepts)
          some { s with
            toService := Function.update s.toService j rest
            pendingRequests := pendingRequests
            outstanding := if accepted then s.outstanding ++ [r] else s.outstanding }
      | [] => none
  | .answer serial content =>
      match s.outstanding.find? (·.serial == serial) with
      | some r =>
          let rsp := { content with isIndication := 0, uniqueId := r.msg.uniqueId }
          let (connection, pendingRequests) := takeConnection s.pendingRequests rsp.uniqueId
          some { s with
            pendingRequests := pendingRequests
            outstanding := s.outstanding.filter (·.serial != serial)
            toClient := match connection with
              | some j => Function.update s.toClient j (s.toClient j ++ [⟨r, rsp⟩])
              | none => s.toClient
            log := .answered r connection :: s.log }
      | none => none
  | .deliver j serial =>
      match (s.toClient j).find? (·.request.serial == serial) with
      | some d =>
          let p := s.processes j
          some { s with
            processes := Function.update s.processes j
              { p with context := (handleReceive p.context d.msg).1 }
            toClient := Function.update s.toClient j
              ((s.toClient j).eraseP (·.request.serial == serial))
            log := if (handleReceive p.context d.msg).2.isSome then
                .callback j d.request :: s.log
              else s.log }
      | none => none

/-- Answers go to the connection that the request came from, callbacks run for
a client's own requests, and the map routes what is still outstanding to where
it came from. -/
structure RoutedHome (s : State φ δ) : Prop where
  answered : ∀ r connection, .answered r connection ∈ s.log → connection = some r.client
  callback : ∀ j r, .callback j r ∈ s.log → r.client = j
  pending : ∀ r ∈ s.outstanding, s.pendingRequests r.msg.uniqueId = some (some r.client)

/-- A request is tracked only while no other request with its id is waiting for
an answer; unless that one has the same sender and the new one is rejected. -/
def DistinctIds (s : State φ δ) : Action φ δ → Prop
  | .track j => ∀ r rest, s.toService j = r :: rest →
      ∀ r' ∈ s.outstanding, r'.msg.uniqueId = r.msg.uniqueId →
        r'.client = j ∧ accepts r.msg = false
  | _ => True

structure Routing (s : State φ δ) : Prop where
  home : RoutedHome s
  sender : ∀ j, ∀ r ∈ s.toService j, r.client = j
  receiver : ∀ j, ∀ d ∈ s.toClient j, d.request.client = j
  distinct : ∀ r ∈ s.outstanding, ∀ r' ∈ s.outstanding,
    r.msg.uniqueId = r'.msg.uniqueId → r = r'

theorem routing_initial (contexts : Nat → Context φ δ) :
    Routing (State.initial contexts : State φ δ) := by
  refine ⟨⟨?_, ?_, ?_⟩, ?_, ?_, ?_⟩ <;> simp [State.initial]

theorem routing_track {s : State φ δ} (h : Routing s) {j : Nat} {r : Request}
    {rest : List Request} (hchannel : s.toService j = r :: rest)
    (hids : DistinctIds accepts s (.track j : Action φ δ)) :
    Routing { s with
      toService := Function.update s.toService j rest
      pendingRequests := s.pendingRequests.assign r.msg.uniqueId j
      outstanding := if accepts r.msg then s.outstanding ++ [r] else s.outstanding } := by
  have hclient : r.client = j := h.sender j r (by rw [hchannel]; exact List.mem_cons_self)
  have hsame := hids r rest hchannel
  have hcases : ∀ r' ∈ (if accepts r.msg then s.outstanding ++ [r] else s.outstanding),
      r' ∈ s.outstanding ∧ (r'.msg.uniqueId = r.msg.uniqueId → r'.client = j) ∧
        (accepts r.msg = true → r'.msg.uniqueId ≠ r.msg.uniqueId) ∨ r' = r := by
    intro r' hr'
    have hold : r' ∈ s.outstanding ∨ r' = r := by
      split at hr'
      · simpa using hr'
      · exact .inl hr'
    refine hold.imp_left fun hmem => ⟨hmem, fun hid => (hsame r' hmem hid).1, ?_⟩
    intro haccepted hid
    simp [(hsame r' hmem hid).2] at haccepted
  refine ⟨⟨h.home.answered, h.home.callback, ?_⟩, ?_, h.receiver, ?_⟩
  · intro r' hr'
    change Function.update s.pendingRequests r.msg.uniqueId (some (some j)) _ = _
    rcases hcases r' hr' with ⟨hmem, hown, -⟩ | rfl
    · obtain hid | hid := eq_or_ne r'.msg.uniqueId r.msg.uniqueId
      · rw [hid, Function.update_self, hown hid]
      · rw [Function.update_of_ne hid]
        exact h.home.pending r' hmem
    · rw [Function.update_self, hclient]
  · intro j' r' hr'
    obtain rfl | hj := eq_or_ne j' j
    · refine h.sender j' r' ?_
      rw [hchannel]
      exact List.mem_cons_of_mem _ (by simpa using hr')
    · exact h.sender j' r' (by simpa [hj] using hr')
  · intro r₁ hr₁ r₂ hr₂ hid
    by_cases haccepted : accepts r.msg = true
    · rcases hcases r₁ hr₁ with ⟨hmem₁, -, hne₁⟩ | rfl <;>
        rcases hcases r₂ hr₂ with ⟨hmem₂, -, hne₂⟩ | rfl
      · exact h.distinct r₁ hmem₁ r₂ hmem₂ hid
      · exact absurd hid (hne₁ haccepted)
      · exact absurd hid.symm (hne₂ haccepted)
      · rfl
    · simp only [haccepted] at hr₁ hr₂
      exact h.distinct r₁ hr₁ r₂ hr₂ hid

theorem routing_answer {s : State φ δ} (h : Routing s) {serial : Nat} {r : Request}
    (hfind : s.outstanding.find? (·.serial == serial) = some r) (rsp : UrilProtocolMsg) :
    Routing { s with
      pendingRequests := s.pendingRequests.erase r.msg.uniqueId
      outstanding := s.outstanding.filter (·.serial != serial)
      toClient := Function.update s.toClient r.client (s.toClient r.client ++ [⟨r, rsp⟩])
      log := .answered r (some r.client) :: s.log } := by
  have hr : r ∈ s.outstanding := List.mem_of_find?_eq_some hfind
  have hserial : r.serial = serial := by simpa using List.find?_some hfind
  refine ⟨⟨?_, ?_, ?_⟩, h.sender, ?_, ?_⟩
  · intro r' connection hmem
    rcases List.mem_cons.mp hmem with heq | hmem
    · cases heq
      rfl
    · exact h.home.answered r' connection hmem
  · intro j r' hmem
    exact h.home.callback j r' (by simpa using hmem)
  · intro r' hr'
    obtain ⟨hmem, hne⟩ := List.mem_filter.mp hr'
    have hid : r'.msg.uniqueId ≠ r.msg.uniqueId := by
      intro hid
      obtain rfl := h.distinct r' hmem r hr hid
      simp [hserial] at hne
    change Function.update s.pendingRequests r.msg.uniqueId none _ = _
    rw [Function.update_of_ne hid]
    exact h.home.pending r' hmem
  · intro j d hd
    obtain rfl | hj := eq_or_ne j r.client
    · simp only [Function.update_self, List.mem_append, List.mem_singleton] at hd
      rcases hd with hd | rfl
      · exact h.receiver _ d hd
      · rfl
    · exact h.receiver j d (by simpa [hj] using hd)
  · intro r₁ hr₁ r₂ hr₂ hid
    exact h.distinct r₁ (List.mem_filter.mp hr₁).1 r₂ (List.mem_filter.mp hr₂).1 hid

theorem routing_step {s t : State φ δ} {a : Action φ δ} (h : Routing s)
    (hids : DistinctIds accepts s a) (hstep : step accepts s a = some t) : Routing t := by
  cases a with
  | execute j cmd taken =>
      simp only [step, Option.some.injEq] at hstep
      subst hstep
      refine ⟨⟨h.home.answered, h.home.callback, h.home.pending⟩, ?_, h.receiver, h.distinct⟩
      intro j' r hr
      obtain rfl | hj := eq_or_ne j' j
      · simp only [Function.update_self, List.mem_append, Option.mem_toList,
          Option.map_eq_some_iff] at hr
        rcases hr with hr | ⟨msg, -, rfl⟩
        · exact h.sender j' r hr
        · rfl
      · exact h.sender j' r (by simpa [hj] using hr)
  | track j =>
      simp only [step] at hstep
      split at hstep
      · rename_i r rest hchannel
        simp only [Option.some.injEq] at hstep
        subst hstep
        exact routing_track accepts h hchannel hids
      · cases hstep
  | answer serial content =>
      simp only [step] at hstep
      split at hstep
      · rename_i r hfind
        have hpending := h.home.pending r (List.mem_of_find?_eq_some hfind)
        simp only [takeConnection_fst, takeConnection_snd, hpending, Option.join_some,
          Option.some.injEq] at hstep
        subst hstep
        exact routing_answer h hfind _
      · cases hstep
  | deliver j serial =>
      simp only [step] at hstep
      split at hstep
      · rename_i d hfind
        simp only [Option.some.injEq] at hstep
        subst hstep
        have hd := h.receiver j d (List.mem_of_find?_eq_some hfind)
        refine ⟨⟨?_, ?_, h.home.pending⟩, h.sender, ?_, h.distinct⟩
        · intro r connection hmem
          refine h.home.answered r connection ?_
          split at hmem
          · simpa using hmem
          · exact hmem
        · intro j' r hmem
          split at hmem
          · rcases List.mem_cons.mp hmem with heq | hmem
            · cases heq
              exact hd
            · exact h.home.callback j' r hmem
          · exact h.home.callback j' r hmem
        · intro j' d' hd'
          obtain rfl | hj := eq_or_ne j' j
          · exact h.receiver j' d' (List.mem_of_mem_eraseP (by simpa using hd'))
          · exact h.receiver j' d' (by simpa [hj] using hd')
      · cases hstep

/-- Along runs in which requests that wait for an answer have distinct ids,
every answer goes home. -/
theorem responses_go_home {contexts : Nat → Context φ δ} {s : State φ δ}
    (hrun : Reaches (step accepts) (DistinctIds accepts) (State.initial contexts) s) :
    RoutedHome s :=
  (hrun.invariant Routing (routing_initial contexts)
    fun _ _ _ h hids hstep => routing_step accepts h hids hstep).home

/-- `DistinctIds` as a test. -/
def distinctIds (s : State φ δ) : Action φ δ → Bool
  | .track j =>
      match s.toService j with
      | r :: _ => s.outstanding.all fun r' =>
          r'.msg.uniqueId != r.msg.uniqueId || r'.client == j && !accepts r.msg
      | [] => true
  | _ => true

theorem distinctIds_sound (s : State φ δ) (a : Action φ δ)
    (h : distinctIds accepts s a = true) : DistinctIds accepts s a := by
  cases a with
  | track j =>
      intro r rest hchannel r' hr' hid
      simp only [distinctIds, hchannel, List.all_eq_true] at h
      simpa [hid] using h r' hr'
  | execute _ _ _ | answer _ _ | deliver _ _ => trivial

/-- A request of one byte. -/
def sampleCommand : Command Nat Nat :=
  { hndl := 1, simId := 0, msgId := 0x201, req := some fun _ => 0, reqLen := 1
    asyncRespCb := some 5, clientData := none }

/-- A client that has initialized the library. -/
def sampleContext : Context Nat Nat := { Context.zeroed with initialized := true, handle := 1 }

/-- What happened, by the numbers of the requests. -/
def Event.summary : Event → Nat × Option Nat
  | .answered r connection => (r.serial, connection)
  | .callback j r => (r.serial, some j)

/-- Two clients use the service one after the other, with the same id. -/
theorem responses_go_home_sample :
    ∃ s : State Nat Nat,
      s.log.map Event.summary = [(1, some 2), (1, some 2), (0, some 1), (0, some 1)] ∧
      RoutedHome s := by
  obtain ⟨s, hrun, hlog⟩ := exists_reaches_of_exec (step fun _ => true)
    (distinctIds fun _ => true) (distinctIds_sound fun _ => true)
    (State.initial fun _ => sampleContext)
    [.execute 1 sampleCommand true, .execute 2 sampleCommand true, .track 1,
      .answer 0 UrilProtocolMsg.zeroed, .track 2, .deliver 1 0,
      .answer 1 UrilProtocolMsg.zeroed, .deliver 2 1]
    (fun s => s.log.map Event.summary = [(1, some 2), (1, some 2), (0, some 1), (0, some 1)])
    (by decide)
  exact ⟨s, of_decide_eq_true hlog, responses_go_home _ hrun⟩

/-- The answer goes to another client than the one that asked. -/
def misrouted : Event → Bool
  | .answered r (some j) => r.client != j
  | _ => false

/-- Two clients that count alike use id 1 at the same time: the answer to the
first one's request goes to the second, and the other answer to nobody. -/
theorem equal_ids_misroute :
    ¬ ∀ (accepts : UrilProtocolMsg → Bool) (contexts : Nat → Context Nat Nat)
        (s : State Nat Nat), Reaches (step accepts) anyAction (State.initial contexts) s →
      RoutedHome s := by
  intro hrouted
  obtain ⟨s, hrun, hlog⟩ := exists_run (step fun _ => true)
    (State.initial fun _ => sampleContext)
    [.execute 1 sampleCommand true, .execute 2 sampleCommand true, .track 1, .track 2,
      .answer 0 UrilProtocolMsg.zeroed, .answer 1 UrilProtocolMsg.zeroed]
    (fun s => s.log.any misrouted) (by decide)
  obtain ⟨e, hmem, he⟩ := List.any_eq_true.mp hlog
  unfold misrouted at he
  split at he
  · rename_i r j
    have hhome := (hrouted _ _ s hrun).answered r (some j) hmem
    simp only [Option.some.injEq] at hhome
    simp [hhome] at he
  · cases he

end UnifiedRil.EndToEndRouting

import UnifiedRil.RequestProcessors

namespace UnifiedRil.ProcessorTrees

open UnifiedRil.Library.Results
open UnifiedRil.Protocol
open UnifiedRil.Messages
open UnifiedRil.Ril
open UnifiedRil.RilAdapter
open UnifiedRil.RequestProcessors

inductive MessageProcessor
  | network
  | radio
  | data
  deriving DecidableEq

def MessageProcessor.processRequest : MessageProcessor → RequestProcessor
  | .network => networkMessageProcessor
  | .radio => radioMessageProcessor
  | .data => dataMessageProcessor

/-- The cases of its `switch`. -/
def MessageProcessor.msgIds : MessageProcessor → List UInt32
  | .network =>
      [MsgId.nwSetPref, MsgId.nwGetPref, MsgId.nwGetRegistrationStatus, MsgId.nwScan,
        MsgId.nwSetScreen, MsgId.nwSelection, MsgId.nwGetSignalStrength,
        MsgId.nwGetCellAccessState]
  | .radio => [MsgId.radioSetRadioMode, MsgId.radioGetRadioMode]
  | .data =>
      [MsgId.dataSetDataProfiles, MsgId.dataSetupDataCall, MsgId.dataDeactivateDataCall,
        MsgId.dataGetDataCallList, MsgId.dataSetInitialAttachParams]

/-- The second byte of their ids, as the headers number the messages. -/
def MessageProcessor.group : MessageProcessor → UInt32
  | .network => 5
  | .radio => 1
  | .data => 6

/-- An object of a class derived from `IRequestProcessor` -/
inductive ProcessorTree
  | message (p : MessageProcessor)
  | composite (children : List ProcessorTree)

/-- `IRequestProcessor::processRequest` -/
def ProcessorTree.processRequest : ProcessorTree → RequestProcessor
  | .message p => p.processRequest
  | .composite children =>
      compositeRequestProcessor (children.map fun child => child.processRequest)

def ProcessorTree.members : ProcessorTree → List MessageProcessor
  | .message p => [p]
  | .composite children => children.flatMap fun child => child.members

variable {msg : UrilProtocolMsg} {p q : MessageProcessor}

theorem group_of_mem {msgId : UInt32} (h : msgId ∈ p.msgIds) : msgId >>> 8 = p.group := by
  cases p with
  | network =>
      simp only [MessageProcessor.msgIds, List.mem_cons, List.not_mem_nil, or_false] at h
      rcases h with rfl | rfl | rfl | rfl | rfl | rfl | rfl | rfl <;> rfl
  | radio =>
      simp only [MessageProcessor.msgIds, List.mem_cons, List.not_mem_nil, or_false] at h
      rcases h with rfl | rfl <;> rfl
  | data =>
      simp only [MessageProcessor.msgIds, List.mem_cons, List.not_mem_nil, or_false] at h
      rcases h with rfl | rfl | rfl | rfl | rfl <;> rfl

theorem msgIds_disjoint (hp : msg.msgId ∈ p.msgIds) (hq : msg.msgId ∈ q.msgIds) : p = q := by
  have hgroup : p.group = q.group := (group_of_mem hp).symm.trans (group_of_mem hq)
  cases p <;> cases q <;> first | rfl | exact absurd hgroup (by decide)

theorem processRequest_of_notMem (h : msg.msgId ∉ p.msgIds) :
    p.processRequest msg = refuse := by
  cases p with
  | network =>
      simp only [MessageProcessor.msgIds, List.mem_cons, List.not_mem_nil, or_false, not_or] at h
      simp only [MessageProcessor.processRequest, networkMessageProcessor, h, if_false]
  | radio =>
      simp only [MessageProcessor.msgIds, List.mem_cons, List.not_mem_nil, or_false, not_or] at h
      simp only [MessageProcessor.processRequest, radioMessageProcessor, h, if_false]
  | data =>
      simp only [MessageProcessor.msgIds, List.mem_cons, List.not_mem_nil, or_false, not_or] at h
      simp only [MessageProcessor.processRequest, dataMessageProcessor, h, if_false]

theorem messageProcessor_outcome (p : MessageProcessor) (msg : UrilProtocolMsg) :
    Ensures (p.processRequest msg) (Outcome msg) := by
  cases p with
  | network => exact networkMessageProcessor_outcome msg
  | radio => exact radioMessageProcessor_outcome msg
  | data => exact dataMessageProcessor_outcome msg

/-- A processor that does what the one among `members` does that has the message
among its cases. -/
structure Dispatches (processor : RequestProcessor) (members : List MessageProcessor) : Prop where
  taken : ∀ {msg p}, p ∈ members → msg.msgId ∈ p.msgIds → processor msg = p.processRequest msg
  refused : ∀ {msg}, (∀ p ∈ members, msg.msgId ∉ p.msgIds) → processor msg = refuse

theorem dispatches_message (p : MessageProcessor) : Dispatches p.processRequest [p] where
  taken hp _ := by rw [List.mem_singleton.mp hp]
  refused h := processRequest_of_notMem (h p List.mem_cons_self)

theorem composite_taken {children : List RequestProcessor} {child : RequestProcessor}
    (hchild : child msg = p.processRequest msg)
    (hrest : compositeRequestProcessor children msg = p.processRequest msg ∨
      compositeRequestProcessor children msg = refuse) :
    compositeRequestProcessor (child :: children) msg = p.processRequest msg := by
  rw [compositeRequestProcessor, hchild]
  cases hprocessed : p.processRequest msg with
  | error fault => rfl
  | ok processed =>
      have hoffered : compositeRequestProcessor children msg = .ok processed ∨
          compositeRequestProcessor children msg = refuse := hprocessed ▸ hrest
      cases messageProcessor_outcome p msg _ hprocessed with
      | refused =>
          have hrefused : compositeRequestProcessor children msg = refuse := hoffered.elim id id
          simp only [ok_bind, hrefused]
          rfl
      | radioThread => rfl
      | submitted => rfl

theorem composite_refused {children : List RequestProcessor} {child : RequestProcessor}
    (hchild : child msg = refuse) :
    compositeRequestProcessor (child :: children) msg = compositeRequestProcessor children msg := by
  rw [compositeRequestProcessor, hchild]
  cases compositeRequestProcessor children msg with
  | error fault => simp [refuse]
  | ok processed => simp [refuse]

theorem dispatches_cons {child : RequestProcessor} {children : List RequestProcessor}
    {members rest : List MessageProcessor} (hchild : Dispatches child members)
    (hrest : Dispatches (compositeRequestProcessor children) rest) :
    Dispatches (compositeRequestProcessor (child :: children)) (members ++ rest) where
  taken {msg p} hp hmsg := by
    by_cases hmember : p ∈ members
    · refine composite_taken (hchild.taken hmember hmsg) ?_
      by_cases hother : p ∈ rest
      · exact .inl (hrest.taken hother hmsg)
      · refine .inr (hrest.refused fun q hq hqmsg => hother ?_)
        rwa [msgIds_disjoint hmsg hqmsg]
    · have hother := (List.mem_append.mp hp).resolve_left hmember
      have hrefused : child msg = refuse := hchild.refused fun q hq hqmsg =>
        hmember (by rwa [msgIds_disjoint hmsg hqmsg])
      rw [composite_refused hrefused, hrest.taken hother hmsg]
  refused {msg} h := by
    have hrefused : child msg = refuse :=
      hchild.refused fun p hp => h p (List.mem_append_left rest hp)
    rw [composite_refused hrefused]
    exact hrest.refused fun p hp => h p (List.mem_append_right members hp)

theorem dispatches_composite (children : List ProcessorTree)
    (h : ∀ child ∈ children, Dispatches child.processRequest child.members) :
    Dispatches
      (compositeRequestProcessor (children.map fun child => child.processRequest))
      (children.flatMap fun child => child.members) := by
  induction children with
  | nil =>
      exact
        { taken := fun hp _ => absurd hp List.not_mem_nil
          refused := fun _ => rfl }
  | cons child children ih =>
      have hrest := ih fun c hc => h c (List.mem_cons_of_mem child hc)
      rw [List.map_cons, List.flatMap_cons]
      exact dispatches_cons (h child List.mem_cons_self) hrest

theorem dispatches (t : ProcessorTree) : Dispatches t.processRequest t.members := by
  match t with
  | .message p =>
      rw [ProcessorTree.processRequest, ProcessorTree.members]
      exact dispatches_message p
  | .composite children =>
      rw [ProcessorTree.processRequest, ProcessorTree.members]
      exact dispatches_composite children fun child _ => dispatches child

theorem eq_of_dispatches {processor processor' : RequestProcessor}
    {members members' : List MessageProcessor} (h : Dispatches processor members)
    (h' : Dispatches processor' members') (hmembers : ∀ p, p ∈ members ↔ p ∈ members') :
    processor = processor' := by
  funext msg
  by_cases htaken : ∃ p ∈ members, msg.msgId ∈ p.msgIds
  · obtain ⟨p, hp, hmsg⟩ := htaken
    rw [h.taken hp hmsg, h'.taken ((hmembers p).mp hp) hmsg]
  · have hnone : ∀ p ∈ members, msg.msgId ∉ p.msgIds := fun p hp hmsg => htaken ⟨p, hp, hmsg⟩
    rw [h.refused hnone, h'.refused fun p hp => hnone p ((hmembers p).mpr hp)]

/-- A request without data that the processor submits, or starts a thread for. -/
def MessageProcessor.sample : MessageProcessor → UrilProtocolMsg
  | .network => { UrilProtocolMsg.zeroed with msgId := MsgId.nwGetPref }
  | .radio => { UrilProtocolMsg.zeroed with msgId := MsgId.radioGetRadioMode }
  | .data => { UrilProtocolMsg.zeroed with msgId := MsgId.dataGetDataCallList }

theorem sample_taken (p : MessageProcessor) :
    p.sample.msgId ∈ p.msgIds ∧ p.processRequest p.sample ≠ refuse := by
  cases p with
  | network => exact ⟨by decide, by rintro ⟨⟩⟩
  | radio => exact ⟨by decide, by rintro ⟨⟩⟩
  | data => exact ⟨by decide, by rintro ⟨⟩⟩

/-- A member shows in what the tree does with its sample. -/
theorem mem_members_iff (t : ProcessorTree) (p : MessageProcessor) :
    p ∈ t.members ↔ t.processRequest p.sample ≠ refuse := by
  obtain ⟨hmsg, hsample⟩ := sample_taken p
  constructor
  · intro hp
    rwa [(dispatches t).taken hp hmsg]
  · intro hne
    by_contra hp
    refine hne ((dispatches t).refused fun q hq hqmsg => hp ?_)
    rwa [msgIds_disjoint hmsg hqmsg]

/-- Two arrangements do the same with all messages if and only if they have the same
processors in them, wherever these are and however often. -/
theorem processRequest_eq_iff (t u : ProcessorTree) :
    t.processRequest = u.processRequest ↔ ∀ p, p ∈ t.members ↔ p ∈ u.members := by
  constructor
  · intro h p
    rw [mem_members_iff, mem_members_iff, h]
  · exact eq_of_dispatches (dispatches t) (dispatches u)

/-- What `createRequestProcessor` makes. -/
def created : ProcessorTree :=
  .composite [.message .network, .message .radio, .message .data]

example : created.processRequest = processRequest := by
  simp only [created, ProcessorTree.processRequest, List.map_cons, List.map_nil]
  rfl

end UnifiedRil.ProcessorTrees

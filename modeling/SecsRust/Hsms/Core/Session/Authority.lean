import SecsRust.Hsms.Core.Session.Closing

/-!
# Reply authority

Every inbound Primary that expects a reply leaves a contract behind, under a capability that
the application presents to answer it.  Three things are promised about these contracts: a
capability is granted once, it is answered once at most, and the answer carries the header
that the Primary asks for.

`AuthorityStep` says what one effect does to the contracts: it takes some away, it delivers
a Primary with a new one, it delivers one that expects no reply, or it turns one into a
reply frame.  That there is no fifth way is checked effect by effect (`Effect.authority`).

Two facts about runs come from it.  A capability is delivered once, because it is drawn from
a counter that never wraps.  And it is answered once, because an answer consumes the
contract and the counter has passed it.  `Entitled` is the invariant that carries both: it
ties each contract to the delivery that granted it, and the counter to everything granted so
far.  The frames that answer a capability are read off the labelled history: they are the
Data frames of the rounds in which `on_reply` was given that capability (`answer`).

`reply_capabilities_are_single_use_and_bounded` adds what a round checks before it delivers:
the session, the parity of the function, the capacity, and that no live contract has the
same System Bytes.
-/

namespace SecsRust
namespace Hsms

open Std Secs2 SessionCore

/-! ## Deliveries and answers -/

/-- What a `DeliverPrimary` action hands to the application. -/
def CoreAction.delivery : CoreAction → Option (DataMessage × Option ReplyCapabilityId)
  | deliverPrimary message capability => some (message, capability)
  | sendFrame .. | sessionStateChanged _ | completeCommand .. | closeGeneration .. => none

/-- The actions that carry a Data message, in either direction. -/
def CoreAction.isData : CoreAction → Bool
  | deliverPrimary .. | sendFrame _ (.data _) => true
  | sendFrame _ (.control _) | sessionStateChanged _ | completeCommand .. | closeGeneration .. =>
    false

/-- The capability that a `DeliverPrimary` action grants. -/
def CoreAction.granted (action : CoreAction) : Option ReplyCapabilityId :=
  action.delivery.bind Prod.snd

/-- One Data frame emitted for a capability. -/
structure Answer where
  capability : ReplyCapabilityId
  intent : ReplyIntent
  frame : DataMessage

/-- The Data frames of the rounds of `on_reply` are the answers to its capability. -/
def answer : Input × CoreAction → Option Answer
  | (.reply _ capability intent _ _, .sendFrame _ (.data frame)) => some ⟨capability, intent, frame⟩
  | _ => none

/-- The answers of a run. -/
def SessionCore.answers (core : SessionCore) (inputs : List Input) : List Answer :=
  (machine.labelled.history core inputs).filterMap answer

/-- The frame is the reply to the Primary that the intent asks for. -/
structure DataMessage.Answers (frame primary : DataMessage) (intent : ReplyIntent) : Prop where
  sessionId : frame.header.sessionId = primary.header.sessionId
  stream : frame.header.stream = primary.header.stream
  systemBytes : frame.header.systemBytes = primary.header.systemBytes
  final : frame.header.replyExpected = false
  secondary : intent = .secondary →
    frame.header.function.raw.toNat = primary.header.function.raw.toNat + 1
  abort : intent = .abort → frame.header.function.raw = 0 ∧ frame.body = none
  answering : intent ≠ .abandon

/-! ## What one effect does to the contracts -/

/-- The ways in which an effect treats the reply contracts.  A contract is made by a delivery and
ends by an answer or a revocation; nothing else happens to it. -/
inductive AuthorityStep (input : Input) (before after : SessionCore) (actions : List CoreAction) :
    Prop where
  | shrinks (contracts : ∀ (k : ReplyCapabilityId) header,
        after.replyContracts[k]? = some header → before.replyContracts[k]? = some header)
      (size : after.replyContracts.size ≤ before.replyContracts.size)
      (next : after.nextReplyId = before.nextReplyId) (config : after.config = before.config)
      (undelivered : ∀ a ∈ actions, a.delivery = none)
      (unanswered : ∀ a ∈ actions, answer (input, a) = none)
  | deliversOneWay {message : DataMessage} {now : MonoTime}
      (received : input = .message (.data message) now) (same : after = before)
      (actions : actions = [.deliverPrimary message none])
      (state : before.state = some .selected) (live : before.closing = false)
      (session : message.header.sessionId = before.config.sessionId)
      (odd : message.header.function.raw % 2 = 1) (oneWay : message.header.replyExpected = false)
  | delivers {capability : ReplyCapabilityId} {message : DataMessage} {now : MonoTime}
      (received : input = .message (.data message) now)
      (contracts : after.replyContracts =
        before.replyContracts.insert capability message.header)
      (next : before.nextReplyId = some capability.raw)
      (advanced : after.nextReplyId = u64CheckedSucc capability.raw)
      (config : after.config = before.config)
      (actions : actions = [.deliverPrimary message (some capability)])
      (state : before.state = some .selected) (live : before.closing = false)
      (session : message.header.sessionId = before.config.sessionId)
      (odd : message.header.function.raw % 2 = 1) (reply : message.header.replyExpected = true)
      (unused : ∀ (k : ReplyCapabilityId) (header : DataHeader),
        before.replyContracts[k]? = some header → header.systemBytes ≠ message.header.systemBytes)
      (capacity : before.replyContracts.size < before.config.replyCapacity)
  | answers {c : CommandId} {capability : ReplyCapabilityId} {intent : ReplyIntent}
      {body : Option SecsItem} {now : MonoTime} {header : DataHeader} {w : WriteId}
      {frame : DataMessage} (received : input = .reply c capability intent body now)
      (held : before.replyContracts[capability]? = some header)
      (contracts : after.replyContracts = before.replyContracts.erase capability)
      (next : after.nextReplyId = before.nextReplyId) (config : after.config = before.config)
      (actions : actions = [.sendFrame w (.data frame)])
      (answers : ∀ primary : DataMessage, primary.header = header → frame.Answers primary intent)

theorem CoreAction.isData_of_isCompletion {action : CoreAction} (h : action.isCompletion = true) :
    action.isData = false := by
  cases action <;> first | rfl | cases h

theorem CoreAction.delivery_of_isData {action : CoreAction} (h : action.isData = false) :
    action.delivery = none := by
  cases action <;> first | rfl | cases h

theorem answer_of_isData {input : Input} {action : CoreAction} (h : action.isData = false) :
    answer (input, action) = none := by
  cases action with
  | sendFrame w message =>
    cases message with
    | data frame => cases h
    | control message => cases input <;> rfl
  | deliverPrimary | sessionStateChanged | completeCommand | closeGeneration => cases input <;> rfl

/-- Nothing but `request_close` and its announcement follows the completions of a close. -/
theorem isData_of_mem_end {core : SessionCore} {reason : GenerationCloseReason} {a : CoreAction}
    (h : a ∈ core.endActions reason) : a.isData = false := by
  rcases List.mem_append.mp h with h | h
  · exact CoreAction.isData_of_isCompletion (isCompletion_of_mem_loss h)
  · split at h
    · cases h
    · rw [List.mem_singleton.mp h]
      rfl

section

variable {input : Input} {before after : SessionCore} {actions : List CoreAction}

/-- An effect that adds no contract and carries no Data message. -/
theorem AuthorityStep.of_silent (hcontracts : after.replyContracts = before.replyContracts ∨
      after.replyContracts = ∅) (hnext : after.nextReplyId = before.nextReplyId)
    (hconfig : after.config = before.config) (hsilent : ∀ a ∈ actions, a.isData = false) :
    AuthorityStep input before after actions := by
  refine .shrinks (fun k header hk => ?_) ?_ hnext hconfig
    (fun a ha => CoreAction.delivery_of_isData (hsilent a ha))
    fun a ha => answer_of_isData (hsilent a ha)
  · rcases hcontracts with hcontracts | hcontracts
    · rwa [hcontracts] at hk
    · rw [hcontracts] at hk
      exact absurd hk TreeMap.getElem?_empty_ne
  · rcases hcontracts with hcontracts | hcontracts
    · rw [hcontracts]
    · rw [hcontracts, ExtTreeMap.size_empty]
      exact Nat.zero_le _

/-- An effect that leaves the contracts alone and sends one frame outside `on_reply`. -/
theorem AuthorityStep.of_frame {w : WriteId} {message : ProtocolMessage}
    (hcontracts : after.replyContracts = before.replyContracts)
    (hnext : after.nextReplyId = before.nextReplyId) (hconfig : after.config = before.config)
    (hactions : actions = [.sendFrame w message])
    (hinput : ∀ c capability intent body now, input ≠ .reply c capability intent body now) :
    AuthorityStep input before after actions := by
  subst hactions
  refine .shrinks (fun k header hk => by rwa [hcontracts] at hk) (by rw [hcontracts]) hnext hconfig
    (fun a ha => ?_) fun a ha => ?_
  · rw [List.mem_singleton.mp ha]
    rfl
  · rw [List.mem_singleton.mp ha]
    cases input with
    | reply c capability intent body now => exact absurd rfl (hinput c capability intent body now)
    | _ => rfl

end

/-- The frame that `on_reply` builds is the reply that its intent asks for. -/
theorem ReplyCause.answers {input : Input} {capability : ReplyCapabilityId} {header : DataHeader}
    {function : Function} {reply : Option SecsItem}
    (h : ReplyCause input capability header function reply) :
    ∃ c intent body now, input = .reply c capability intent body now ∧
      ∀ primary : DataMessage, primary.header = header → DataMessage.Answers
        ⟨⟨header.sessionId, header.stream, function, false, header.systemBytes⟩, reply⟩
        primary intent := by
  cases h with
  | @secondary c body now function received successor =>
    refine ⟨c, .secondary, reply, now, received, ?_⟩
    rintro primary rfl
    refine ⟨rfl, rfl, rfl, rfl, fun _ => ?_, nofun, nofun⟩
    unfold ResponseContract.succFunction at successor
    split at successor
    · cases successor
    · rename_i hne
      obtain rfl := Option.some.inj successor
      have hlt : primary.header.function.raw.toNat ≠ 255 := fun heq =>
        hne (UInt8.toNat_inj.mp heq)
      have hbound := primary.header.function.raw.toNat_lt
      rw [UInt8.toNat_add]
      simp only [UInt8.reduceToNat]
      omega
  | @abort c body now received =>
    refine ⟨c, .abort, body, now, received, ?_⟩
    rintro primary rfl
    exact ⟨rfl, rfl, rfl, rfl, nofun, fun _ => ⟨rfl, rfl⟩, nofun⟩

/-- **What one effect does to the reply contracts.**  One case for each effect; most of them
leave the contracts alone. -/
theorem Effect.authority {origin : SessionCore} {input : Input} {stage stage' : Stage}
    {actions : List CoreAction} (he : Effect origin input stage actions stage') :
    AuthorityStep input stage.core stage'.core actions := by
  cases he with
  | @ended s pre s' _ _ _ reason frame _ _ done =>
    have hend : s'.replyContracts = ∅ := by rw [done.frame]
    have hnext : s'.nextReplyId = s.nextReplyId := by rw [done.frame, frame]
    have hconfig : s'.config = s.config := by rw [done.frame, frame]
    exact .of_silent (Or.inr hend) hnext hconfig fun a ha => isData_of_mem_end ha
  | @lostWrite s pre s' _ _ _ _ _ _ reason _ _ _ frame done =>
    have hend : s'.replyContracts = ∅ := by rw [done.frame]
    have hnext : s'.nextReplyId = s.nextReplyId := by
      rw [done.frame, frame]
      rfl
    have hconfig : s'.config = s.config := by
      rw [done.frame, frame]
      rfl
    exact .of_silent (Or.inr hend) hnext hconfig fun a ha => isData_of_mem_end ha
  | @admissionClosed s s' _ reason _ _ _ done =>
    have hsame : s'.replyContracts = s.replyContracts := by rw [done.frame]
    have hnext : s'.nextReplyId = s.nextReplyId := by rw [done.frame]
    have hconfig : s'.config = s.config := by rw [done.frame]
    refine .of_silent (Or.inl hsame) hnext hconfig fun a ha => ?_
    rcases List.mem_append.mp ha with ha | ha
    · exact CoreAction.isData_of_isCompletion (isCompletion_of_mem_loss ha)
    · rw [List.mem_singleton.mp ha]
      rfl
  | abandonWrites _ _ done =>
    exact .of_silent (Or.inl (by rw [done.frame])) (by rw [done.frame]) (by rw [done.frame])
      fun a ha => CoreAction.isData_of_isCompletion (isCompletion_of_mem_abandonments ha)
  | loseCommands _ _ done =>
    exact .of_silent (Or.inl (by rw [done.frame])) (by rw [done.frame]) (by rw [done.frame])
      fun a ha => CoreAction.isData_of_isCompletion (isCompletion_of_mem_loss ha)
  | @separate s s' _ _ w sb reason _ _ _ _ _ _ done =>
    have hend : s'.replyContracts = ∅ := by rw [done.frame]
    have hnext : s'.nextReplyId = s.nextReplyId := by rw [done.frame]
    have hconfig : s'.config = s.config := by rw [done.frame]
    refine .of_silent (Or.inr hend) hnext hconfig fun a ha => ?_
    rcases List.mem_append.mp ha with ha | ha
    · exact CoreAction.isData_of_isCompletion (isCompletion_of_mem_separate ha)
    · simp only [List.mem_cons, List.not_mem_nil, or_false] at ha
      rcases ha with rfl | rfl | rfl <;> rfl
  | @peerSeparate s s' _ _ _ _ _ done =>
    have hend : s'.replyContracts = ∅ := by rw [done.frame]
    have hnext : s'.nextReplyId = s.nextReplyId := by rw [done.frame]
    have hconfig : s'.config = s.config := by rw [done.frame]
    refine .of_silent (Or.inr hend) hnext hconfig fun a ha => ?_
    rcases List.mem_append.mp ha with ha | ha
    · exact CoreAction.isData_of_isCompletion (isCompletion_of_mem_separate ha)
    · rcases List.mem_pair.mp ha with rfl | rfl <;> rfl
  | retireControl _ _ _ =>
    dsimp only
    rw [release_frame]
    exact .of_silent (Or.inl rfl) rfl rfl fun a ha =>
      CoreAction.isData_of_isCompletion (isCompletion_of_mem_control ha)
  | failWrite _ _ _ =>
    dsimp only
    rw [release_frame, removeTransactionForWrite_frame]
    refine .of_silent (Or.inl rfl) rfl rfl fun a ha => ?_
    obtain ⟨c, -, hc⟩ := List.mem_filterMap.mp ha
    obtain ⟨kind, -, rfl⟩ := Option.map_eq_some_iff.mp hc
    rfl
  | deselected _ _ _ _ _ _ =>
    exact .of_silent (Or.inr rfl) rfl rfl (by simp [CoreAction.isData])
  -- the contracts stay and no Data message is carried
  | tick _ | observe _ _ _ | lateAnnounce _ | lateControl _ _ _ _ | connect _ _ _ _ _
  | selected _ _ _ | refuse _ _ _ | startDrain _ _ _ _ _ _ _ | endDrain _ _ _
  | retireRequest _ _ _ | rejectSend _ _ _ _ _ _ | commitControl _ _ _ _ _
  | commitRequest _ _ _ _ _ | commitCommand _ _ _ _ | commitSilently _ _ _
  | respond _ _ _ _ _ _ | startControl _ _ _ _ _ _ _ _ _ _ | startDeselection _ _ _ _ _ =>
    exact .of_silent (Or.inl rfl) rfl rfl (by simp [CoreAction.isData])
  | sendRequest _ received _ _ _ _ _ _ _ =>
    exact .of_frame rfl rfl rfl rfl (by rw [received]; nofun)
  | sendPrimary _ received _ _ _ _ _ _ _ =>
    exact .of_frame rfl rfl rfl rfl (by rw [received]; nofun)
  | @spendContract s _ c capability header kind result _ _ _ _ _ _ =>
    refine .shrinks (fun k header hk => ?_) ExtTreeMap.size_erase_le rfl rfl
      (by simp [CoreAction.delivery]) ?_
    · have hk : (s.replyContracts.erase capability)[k]? = some header := hk
      rw [TreeMap.getElem?_erase] at hk
      split at hk
      · cases hk
      · exact hk
    · intro a ha
      rw [List.mem_singleton.mp ha]
      exact answer_of_isData rfl
  | deliver received state live session odd reply unused capacity next =>
    exact .delivers received rfl next rfl rfl rfl state live session odd reply unused capacity
  | deliverOneWay received state live session odd oneWay =>
    exact .deliversOneWay received rfl rfl state live session odd oneWay
  | sendReply state live open_ held unblocked next cause =>
    obtain ⟨c, intent, body, now, hinput, hanswers⟩ := cause.answers
    exact .answers hinput held rfl rfl rfl rfl hanswers

/-! ## The history of the capabilities -/

/-- The capabilities granted so far, in order. -/
def grants (past : List (Input × CoreAction)) : List ReplyCapabilityId :=
  past.filterMap fun emission => emission.2.granted

/-- The Primary was delivered with the capability. -/
def Delivered (past : List (Input × CoreAction)) (capability : ReplyCapabilityId)
    (primary : DataMessage) : Prop :=
  ∃ input, (input, CoreAction.deliverPrimary primary (some capability)) ∈ past

/-- **What the reply contracts stand for**, after a history of emissions.  Every contract was
granted by one delivery and has not been answered, and the counter is ahead of all that were
granted. -/
structure Entitled (past : List (Input × CoreAction)) (core : SessionCore) : Prop where
  primary : ∀ (k : ReplyCapabilityId) header, core.replyContracts[k]? = some header →
    header.replyExpected = true ∧ header.function.raw % 2 = 1 ∧
      header.sessionId = core.config.sessionId
  distinct : ∀ (k k' : ReplyCapabilityId) header header', core.replyContracts[k]? = some header →
    core.replyContracts[k']? = some header' → header.systemBytes = header'.systemBytes → k = k'
  bounded : core.replyContracts.size ≤ core.config.replyCapacity
  granted : (grants past).Nodup
  granted_used : ∀ k ∈ grants past, ∀ next, core.nextReplyId = some next → k.raw < next
  delivered : ∀ (k : ReplyCapabilityId) header, core.replyContracts[k]? = some header →
    ∃ primary, Delivered past k primary ∧ primary.header = header
  unanswered : ∀ (k : ReplyCapabilityId) header, core.replyContracts[k]? = some header →
    k ∉ (past.filterMap answer).map Answer.capability
  once : ((past.filterMap answer).map Answer.capability).Nodup
  answered : ∀ a ∈ past.filterMap answer, ∃ primary, Delivered past a.capability primary ∧
    a.frame.Answers primary a.intent

section

variable {past : List (Input × CoreAction)} {input : Input} {actions : List CoreAction}

theorem Delivered.append {capability : ReplyCapabilityId} {primary : DataMessage}
    (h : Delivered past capability primary) (more : List (Input × CoreAction)) :
    Delivered (past ++ more) capability primary :=
  h.imp fun _ hmem => List.mem_append_left _ hmem

theorem Delivered.mem_grants {capability : ReplyCapabilityId} {primary : DataMessage}
    (h : Delivered past capability primary) : capability ∈ grants past := by
  obtain ⟨input, hmem⟩ := h
  exact List.mem_filterMap.mpr ⟨_, hmem, rfl⟩

theorem grants_append_of_ungranted (h : ∀ a ∈ actions, a.granted = none) :
    grants (past ++ actions.map fun a => (input, a)) = grants past := by
  have hnone : grants (actions.map fun a => (input, a)) = [] := by
    refine List.filterMap_eq_nil_iff.mpr fun emission hmem => ?_
    obtain ⟨a, ha, rfl⟩ := List.mem_map.mp hmem
    exact h a ha
  rw [grants, List.filterMap_append, ← grants, ← grants, hnone, List.append_nil]

theorem answers_append_of_unanswered (h : ∀ a ∈ actions, answer (input, a) = none) :
    (past ++ actions.map fun a => (input, a)).filterMap answer = past.filterMap answer := by
  have hnone : (actions.map fun a => (input, a)).filterMap answer = [] := by
    refine List.filterMap_eq_nil_iff.mpr fun emission hmem => ?_
    obtain ⟨a, ha, rfl⟩ := List.mem_map.mp hmem
    exact h a ha
  rw [List.filterMap_append, hnone, List.append_nil]

/-- An effect that grants nothing and answers nothing. -/
theorem Entitled.shrink {before after : SessionCore} (h : Entitled past before)
    (hcontracts : ∀ (k : ReplyCapabilityId) header, after.replyContracts[k]? = some header →
      before.replyContracts[k]? = some header)
    (hsize : after.replyContracts.size ≤ before.replyContracts.size)
    (hnext : after.nextReplyId = before.nextReplyId) (hconfig : after.config = before.config)
    (hungranted : ∀ a ∈ actions, a.granted = none)
    (hunanswered : ∀ a ∈ actions, answer (input, a) = none) :
    Entitled (past ++ actions.map fun a => (input, a)) after where
  primary k header hk := by
    rw [hconfig]
    exact h.primary k header (hcontracts k header hk)
  distinct k k' header header' hk hk' :=
    h.distinct k k' header header' (hcontracts k header hk) (hcontracts k' header' hk')
  bounded := by
    rw [hconfig]
    exact hsize.trans h.bounded
  granted := by
    rw [grants_append_of_ungranted hungranted]
    exact h.granted
  granted_used := by
    rw [grants_append_of_ungranted hungranted, hnext]
    exact h.granted_used
  delivered k header hk := by
    obtain ⟨primary, hdelivered, hheader⟩ := h.delivered k header (hcontracts k header hk)
    exact ⟨primary, hdelivered.append _, hheader⟩
  unanswered k header hk := by
    rw [answers_append_of_unanswered hunanswered]
    exact h.unanswered k header (hcontracts k header hk)
  once := by
    rw [answers_append_of_unanswered hunanswered]
    exact h.once
  answered := by
    rw [answers_append_of_unanswered hunanswered]
    intro a ha
    obtain ⟨primary, hdelivered, hanswers⟩ := h.answered a ha
    exact ⟨primary, hdelivered.append _, hanswers⟩

/-- A delivery with a capability that the counter has just passed. -/
theorem Entitled.deliver {before after : SessionCore} {capability : ReplyCapabilityId}
    {message : DataMessage} {now : MonoTime} (h : Entitled past before)
    (hcontracts : after.replyContracts = before.replyContracts.insert capability message.header)
    (hnext : before.nextReplyId = some capability.raw)
    (hadvanced : after.nextReplyId = u64CheckedSucc capability.raw)
    (hconfig : after.config = before.config)
    (hsession : message.header.sessionId = before.config.sessionId)
    (hodd : message.header.function.raw % 2 = 1) (hreply : message.header.replyExpected = true)
    (hunused : ∀ (k : ReplyCapabilityId) (header : DataHeader),
      before.replyContracts[k]? = some header → header.systemBytes ≠ message.header.systemBytes)
    (hcapacity : before.replyContracts.size < before.config.replyCapacity) :
    Entitled (past ++ [(.message (.data message) now, .deliverPrimary message (some capability))])
      after := by
  have hfresh : capability ∉ grants past := fun hmem =>
    absurd (h.granted_used capability hmem _ hnext) (UInt64.lt_irrefl _)
  have hgrants : grants (past ++ [(Input.message (.data message) now,
      CoreAction.deliverPrimary message (some capability))]) = grants past ++ [capability] := by
    rw [grants, List.filterMap_append]
    rfl
  have hanswers : (past ++ [(Input.message (.data message) now,
      CoreAction.deliverPrimary message (some capability))]).filterMap answer =
        past.filterMap answer := by
    rw [List.filterMap_append]
    exact List.append_nil _
  have hlookup : ∀ (k : ReplyCapabilityId) header, after.replyContracts[k]? = some header →
      (k = capability ∧ header = message.header) ∨
        (k ≠ capability ∧ before.replyContracts[k]? = some header) := by
    intro k header hk
    rw [hcontracts, TreeMap.getElem?_insert] at hk
    split at hk
    · rename_i heq
      exact Or.inl ⟨heq.symm, (Option.some.inj hk).symm⟩
    · rename_i hne
      exact Or.inr ⟨fun heq => hne heq.symm, hk⟩
  refine ⟨fun k header hk => ?_, fun k k' header header' hk hk' hsame => ?_, ?_, ?_, ?_,
    fun k header hk => ?_, fun k header hk => ?_, ?_, ?_⟩
  · rw [hconfig]
    rcases hlookup k header hk with ⟨-, rfl⟩ | ⟨-, hk⟩
    · exact ⟨hreply, hodd, hsession⟩
    · exact h.primary k header hk
  · rcases hlookup k header hk with ⟨rfl, rfl⟩ | ⟨-, hk⟩
    · rcases hlookup k' header' hk' with ⟨rfl, -⟩ | ⟨-, hk'⟩
      · rfl
      · exact absurd hsame.symm (hunused k' header' hk')
    · rcases hlookup k' header' hk' with ⟨rfl, rfl⟩ | ⟨-, hk'⟩
      · exact absurd hsame (hunused k header hk)
      · exact h.distinct k k' header header' hk hk' hsame
  · rw [hconfig, hcontracts]
    have hsize := before.replyContracts.size_insert_le (k := capability) (v := message.header)
    omega
  · rw [hgrants]
    refine List.nodup_append.mpr ⟨h.granted, List.nodup_singleton _, fun a ha b hb hab => ?_⟩
    rw [List.mem_singleton.mp hb] at hab
    exact hfresh (hab ▸ ha)
  · rw [hgrants, hadvanced]
    intro k hk next hsucc
    have hlt := lt_of_u64CheckedSucc hsucc
    rcases List.mem_append.mp hk with hk | hk
    · exact UInt64.lt_trans (h.granted_used k hk _ hnext) hlt
    · rwa [List.mem_singleton.mp hk]
  · rcases hlookup k header hk with ⟨rfl, rfl⟩ | ⟨-, hk⟩
    · exact ⟨message, ⟨_, List.mem_append_right _ (List.mem_singleton_self _)⟩, rfl⟩
    · obtain ⟨primary, hdelivered, hheader⟩ := h.delivered k header hk
      exact ⟨primary, hdelivered.append _, hheader⟩
  · rw [hanswers]
    rcases hlookup k header hk with ⟨rfl, -⟩ | ⟨-, hk⟩
    · intro hmem
      obtain ⟨a, ha, rfl⟩ := List.mem_map.mp hmem
      obtain ⟨primary, hdelivered, -⟩ := h.answered a ha
      exact hfresh hdelivered.mem_grants
    · exact h.unanswered k header hk
  · rw [hanswers]
    exact h.once
  · rw [hanswers]
    intro a ha
    obtain ⟨primary, hdelivered, hanswer⟩ := h.answered a ha
    exact ⟨primary, hdelivered.append _, hanswer⟩

/-- A reply frame, which consumes its contract. -/
theorem Entitled.reply {before after : SessionCore} {c : CommandId}
    {capability : ReplyCapabilityId} {intent : ReplyIntent} {body : Option SecsItem}
    {now : MonoTime} {header : DataHeader} {w : WriteId} {frame : DataMessage}
    (h : Entitled past before) (hheld : before.replyContracts[capability]? = some header)
    (hcontracts : after.replyContracts = before.replyContracts.erase capability)
    (hnext : after.nextReplyId = before.nextReplyId) (hconfig : after.config = before.config)
    (hanswers : ∀ primary : DataMessage, primary.header = header → frame.Answers primary intent) :
    Entitled (past ++ [(.reply c capability intent body now, .sendFrame w (.data frame))])
      after := by
  have hgrants : grants (past ++ [(Input.reply c capability intent body now,
      CoreAction.sendFrame w (.data frame))]) = grants past := by
    rw [grants, List.filterMap_append]
    exact List.append_nil _
  have hanswered : (past ++ [(Input.reply c capability intent body now,
      CoreAction.sendFrame w (.data frame))]).filterMap answer =
        past.filterMap answer ++ [⟨capability, intent, frame⟩] := by
    rw [List.filterMap_append]
    rfl
  have hlookup : ∀ (k : ReplyCapabilityId) header, after.replyContracts[k]? = some header →
      k ≠ capability ∧ before.replyContracts[k]? = some header := by
    intro k header hk
    rw [hcontracts, TreeMap.getElem?_erase] at hk
    split at hk
    · cases hk
    · rename_i hne
      exact ⟨fun heq => hne heq.symm, hk⟩
  refine ⟨fun k header hk => ?_, fun k k' header header' hk hk' => ?_, ?_, ?_, ?_,
    fun k header hk => ?_, fun k header hk => ?_, ?_, ?_⟩
  · rw [hconfig]
    exact h.primary k header (hlookup k header hk).2
  · exact h.distinct k k' header header' (hlookup k header hk).2 (hlookup k' header' hk').2
  · rw [hconfig, hcontracts]
    exact ExtTreeMap.size_erase_le.trans h.bounded
  · rw [hgrants]
    exact h.granted
  · rw [hgrants, hnext]
    exact h.granted_used
  · obtain ⟨primary, hdelivered, hheader⟩ := h.delivered k header (hlookup k header hk).2
    exact ⟨primary, hdelivered.append _, hheader⟩
  · rw [hanswered, List.map_append, List.mem_append, not_or]
    refine ⟨h.unanswered k header (hlookup k header hk).2, fun hmem => ?_⟩
    exact (hlookup k header hk).1 (List.mem_singleton.mp hmem)
  · rw [hanswered, List.map_append]
    refine List.nodup_append.mpr ⟨h.once, List.nodup_singleton _, fun a ha b hb hab => ?_⟩
    have hab : a = capability := hab.trans (by rw [List.mem_singleton.mp hb])
    exact h.unanswered capability header hheld (hab ▸ ha)
  · rw [hanswered]
    intro a ha
    rcases List.mem_append.mp ha with ha | ha
    · obtain ⟨primary, hdelivered, hanswer⟩ := h.answered a ha
      exact ⟨primary, hdelivered.append _, hanswer⟩
    · rw [List.mem_singleton.mp ha]
      obtain ⟨primary, hdelivered, hheader⟩ := h.delivered capability header hheld
      exact ⟨primary, hdelivered.append _, hanswers primary hheader⟩

theorem Entitled.step {before after : SessionCore} (h : Entitled past before)
    (hstep : AuthorityStep input before after actions) :
    Entitled (past ++ actions.map fun a => (input, a)) after := by
  cases hstep with
  | shrinks contracts size next config undelivered unanswered =>
    refine h.shrink contracts size next config (fun a ha => ?_) unanswered
    rw [CoreAction.granted, undelivered a ha]
    rfl
  | deliversOneWay received same actions _ _ _ _ _ =>
    subst same actions received
    refine h.shrink (fun _ _ hk => hk) le_rfl rfl rfl (fun a ha => ?_) fun a ha => ?_
    all_goals
      rw [List.mem_singleton.mp ha]
      rfl
  | delivers received contracts next advanced config actions _ _ session odd reply
      unused capacity =>
    subst received actions
    exact h.deliver contracts next advanced config session odd reply unused capacity
  | answers received held contracts next config actions answers =>
    subst received actions
    exact h.reply held contracts next config answers

end

/-! ## Runs -/

/-- During the round of a Data message the session does not become Selected. -/
theorem Effect.selected_before {origin : SessionCore} {message : DataMessage} {now : MonoTime}
    {stage stage' : Stage} {actions : List CoreAction}
    (he : Effect origin (.message (.data message) now) stage actions stage')
    (hlive : stage'.core.closing = false) (hstate : stage'.core.state = some .selected) :
    stage.core.closing = false ∧ stage.core.state = some .selected := by
  cases he with
  | ended _ _ _ _ done =>
    dsimp only at hlive
    rw [done.frame] at hlive
    cases hlive
  | lostWrite _ outcome _ _ _ _ => cases outcome
  | admissionClosed _ _ _ _ _ => cases hlive
  | abandonWrites finalize _ _ => cases finalize
  | loseCommands finalize _ _ => cases finalize
  | connect _ _ _ _ _ => cases hstate
  | selected cause _ _ =>
    cases cause with
    | requested message => cases message
    | answered message => cases message
  | deselected _ _ _ _ _ _ => cases hstate
  | @separate s s' _ _ _ _ _ _ _ _ _ _ _ done =>
    have hclosed : s'.closing = true := by rw [done.frame]
    cases hlive.symm.trans hclosed
  | peerSeparate _ _ _ _ done =>
    dsimp only at hlive
    rw [done.frame] at hlive
    cases hlive
  | retireControl _ _ _ =>
    dsimp only at hlive hstate
    rw [release_frame] at hlive hstate
    exact ⟨hlive, hstate⟩
  | failWrite _ _ _ =>
    dsimp only at hlive hstate
    rw [release_frame, removeTransactionForWrite_frame] at hlive hstate
    exact ⟨hlive, hstate⟩
  | tick _ | observe _ _ _ | lateAnnounce _ | lateControl _ _ _ _ | respond _ _ _ _ _ _
  | refuse _ _ _ | startDrain _ _ _ _ _ _ _ | endDrain _ _ _ | startControl _ _ _ _ _ _ _ _ _ _
  | startDeselection _ _ _ _ _ | sendRequest _ _ _ _ _ _ _ _ _
  | sendPrimary _ _ _ _ _ _ _ _ _ | retireRequest _ _ _ | rejectSend _ _ _ _ _ _
  | deliver _ _ _ _ _ _ _ _ _ | deliverOneWay _ _ _ _ _ _ | spendContract _ _ _ _ _ _
  | sendReply _ _ _ _ _ _ _ | commitControl _ _ _ _ _ | commitRequest _ _ _ _ _
  | commitCommand _ _ _ _ | commitSilently _ _ _ => exact ⟨hlive, hstate⟩

/-- The configuration never changes. -/
theorem Effect.config_eq {origin : SessionCore} {input : Input} {stage stage' : Stage}
    {actions : List CoreAction} (he : Effect origin input stage actions stage') :
    stage'.core.config = stage.core.config := by
  cases he.authority with
  | shrinks _ _ _ config _ _ => exact config
  | deliversOneWay _ same _ _ _ _ _ _ => rw [same]
  | delivers _ _ _ _ config _ _ _ _ _ _ _ _ => exact config
  | answers _ _ _ _ config _ _ => exact config

/-- A Primary is delivered only in a Selected session, and what it is. -/
theorem delivery_of_handle {core : SessionCore} (hc : Coherent none core) {input : Input}
    {message : DataMessage} {capability : Option ReplyCapabilityId}
    (h : .deliverPrimary message capability ∈ (core.handle input).actions) :
    core.state = some .selected ∧ core.closing = false ∧
      message.header.sessionId = core.config.sessionId ∧
      message.header.function.raw % 2 = 1 ∧
      capability.isSome = message.header.replyExpected := by
  obtain ⟨before, after, past, actions, later, hpast, he, -, hmem, -⟩ :=
    (steps_handle hc input).exists_of_mem h
  have hbefore : ∀ {data : DataMessage} {now : MonoTime}, input = .message (.data data) now →
      before.core.closing = false → before.core.state = some .selected →
      core.closing = false ∧ core.state = some .selected := by
    rintro data now rfl hlive hstate
    have hreach := hpast.preserves
      (I := fun stage => stage.core.closing = false ∧ stage.core.state = some .selected →
        core.closing = false ∧ core.state = some .selected)
      (fun _ _ _ hI he hafter => hI (he.selected_before hafter.1 hafter.2))
      (by
        rw [entry_frame]
        exact id)
    exact hreach ⟨hlive, hstate⟩
  have hconfig : before.core.config = core.config := by
    refine hpast.preserves (I := fun stage => stage.core.config = core.config)
      (fun _ _ _ hI he => he.config_eq.trans hI) ?_
    rw [entry_frame]
  cases he.authority with
  | shrinks _ _ _ _ undelivered _ =>
    have hnone := undelivered _ hmem
    cases hnone
  | deliversOneWay received _ actions state live session odd oneWay =>
    rw [actions, List.mem_singleton] at hmem
    obtain ⟨rfl, rfl⟩ := CoreAction.deliverPrimary.inj hmem
    obtain ⟨hlive, hstate⟩ := hbefore received live state
    exact ⟨hstate, hlive, session.trans (congrArg _ hconfig), odd, oneWay.symm⟩
  | delivers received _ _ _ _ actions state live session odd reply _ _ =>
    rw [actions, List.mem_singleton] at hmem
    obtain ⟨rfl, rfl⟩ := CoreAction.deliverPrimary.inj hmem
    obtain ⟨hlive, hstate⟩ := hbefore received live state
    exact ⟨hstate, hlive, session.trans (congrArg _ hconfig), odd, reply.symm⟩
  | answers _ _ _ _ _ actions _ =>
    rw [actions, List.mem_singleton] at hmem
    cases hmem

/-- One round extends the history of the capabilities. -/
theorem Entitled.handle {past : List (Input × CoreAction)} {core : SessionCore} {input : Input}
    (h : Entitled past core) (hc : Coherent none core) :
    Entitled (past ++ (core.handle input).actions.map fun a => (input, a))
      (core.handle input).core := by
  have hround := (steps_handle hc input).accumulates_nil
    (I := fun done stage => Entitled (past ++ done.map fun a => (input, a)) stage.core)
    (fun done stage actions stage' hI he => by
      rw [List.map_append, ← List.append_assoc]
      exact hI.step he.authority)
    (by
      rw [List.map_nil, List.append_nil, entry_frame]
      exact ⟨h.primary, h.distinct, h.bounded, h.granted, h.granted_used, h.delivered,
        h.unanswered, h.once, h.answered⟩)
  exact hround

theorem entitled_initial (config : SessionCoreConfig) (nextWriteId : Option UInt64)
    (nextSystemBytes : Option UInt32) :
    Entitled [] (SessionCore.initial config nextWriteId nextSystemBytes) where
  primary _ _ hk := absurd hk TreeMap.getElem?_empty_ne
  distinct _ _ _ _ hk := absurd hk TreeMap.getElem?_empty_ne
  bounded := Nat.zero_le _
  granted := List.nodup_nil
  granted_used _ hk := by cases hk
  delivered _ _ hk := absurd hk TreeMap.getElem?_empty_ne
  unanswered _ _ hk := absurd hk TreeMap.getElem?_empty_ne
  once := List.nodup_nil
  answered _ ha := by cases ha

/-- Every run keeps the history of the capabilities. -/
theorem entitled_run (config : SessionCoreConfig) (nextWriteId : Option UInt64)
    (nextSystemBytes : Option UInt32) (inputs : List Input) :
    Entitled (machine.labelled.history (SessionCore.initial config nextWriteId nextSystemBytes)
        inputs)
      (machine.after (SessionCore.initial config nextWriteId nextSystemBytes) inputs) := by
  have hrun := machine.labelled.invariant_history
    (I := fun past core => Coherent none core ∧ Entitled past core)
    (fun past core input hI => ⟨hI.1.handle input, hI.2.handle hI.1⟩)
    ⟨coherent_initial config nextWriteId nextSystemBytes,
      entitled_initial config nextWriteId nextSystemBytes⟩ inputs
  rw [Machine.labelled_after] at hrun
  exact hrun.2

/-- The configuration of a run is the one it started with. -/
theorem config_run (config : SessionCoreConfig) (nextWriteId : Option UInt64)
    (nextSystemBytes : Option UInt32) (inputs : List Input) :
    (machine.after (SessionCore.initial config nextWriteId nextSystemBytes) inputs).config =
      config := by
  have hrun := machine.invariant
    (I := fun core => Coherent none core ∧ core.config = config)
    (fun core input hI => ⟨hI.1.handle input,
      (steps_handle hI.1 input).preserves (I := fun stage => stage.core.config = config)
        (fun _ _ _ hI he => he.config_eq.trans hI)
        (by
          rw [entry_frame]
          exact hI.2)⟩)
    ⟨coherent_initial config nextWriteId nextSystemBytes, rfl⟩ inputs
  exact hrun.2

/-- **Reply capabilities are single-use and bounded**, in every run.  No capability is granted
twice; no capability is answered by two frames, and each answer is the reply its intent asks for to
the Primary delivered with the capability; the live contracts are within their capacity, have
distinct System Bytes and belong to Primaries of the session that expect a reply; and a Primary is
delivered only in a Selected session, with a capability exactly if it expects a reply. -/
theorem reply_capabilities_are_single_use_and_bounded (config : SessionCoreConfig)
    (nextWriteId : Option UInt64) (nextSystemBytes : Option UInt32) (inputs : List Input) :
    let core := SessionCore.initial config nextWriteId nextSystemBytes
    let final := machine.after core inputs
    ((machine.history core inputs).filterMap CoreAction.granted).Nodup ∧
    ((core.answers inputs).map Answer.capability).Nodup ∧
    (∀ a ∈ core.answers inputs, ∃ primary,
      .deliverPrimary primary (some a.capability) ∈ machine.history core inputs ∧
        a.frame.Answers primary a.intent) ∧
    final.replyContracts.size ≤ config.replyCapacity ∧
    (∀ (k k' : ReplyCapabilityId) header header', final.replyContracts[k]? = some header →
      final.replyContracts[k']? = some header' → header.systemBytes = header'.systemBytes →
        k = k') ∧
    (∀ (k : ReplyCapabilityId) header, final.replyContracts[k]? = some header →
      header.replyExpected = true ∧ header.function.raw % 2 = 1 ∧
        header.sessionId = config.sessionId) ∧
    (∀ earlier input later, inputs = earlier ++ input :: later → ∀ message capability,
      .deliverPrimary message capability ∈ ((machine.after core earlier).handle input).actions →
        (machine.after core earlier).state = some .selected ∧
          message.header.function.raw % 2 = 1 ∧ message.header.sessionId = config.sessionId ∧
          capability.isSome = message.header.replyExpected) := by
  intro core final
  have h : Entitled (machine.labelled.history core inputs) final :=
    entitled_run config nextWriteId nextSystemBytes inputs
  have hconfig : final.config = config := config_run config nextWriteId nextSystemBytes inputs
  have hhistory := machine.map_snd_labelled_history core inputs
  refine ⟨?_, h.once, fun a ha => ?_, ?_, h.distinct, fun k header hk => ?_, ?_⟩
  · rw [← hhistory, List.filterMap_map]
    exact h.granted
  · obtain ⟨primary, ⟨input, hmem⟩, hanswers⟩ := h.answered a ha
    refine ⟨primary, ?_, hanswers⟩
    rw [← hhistory]
    exact List.mem_map.mpr ⟨_, hmem, rfl⟩
  · rw [← hconfig]
    exact h.bounded
  · rw [← hconfig]
    exact h.primary k header hk
  · rintro earlier input later rfl message capability hmem
    have hcoherent : Coherent none (machine.after core earlier) :=
      machine.invariant (fun _ input h => h.handle input)
        (coherent_initial config nextWriteId nextSystemBytes) earlier
    obtain ⟨hstate, -, hsession, hodd, hcapability⟩ := delivery_of_handle hcoherent hmem
    rw [config_run config nextWriteId nextSystemBytes earlier] at hsession
    exact ⟨hstate, hodd, hsession, hcapability⟩

end Hsms
end SecsRust

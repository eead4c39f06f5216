import SecsRust.Hsms.Core.Session.Cause

/-!
# At most one control procedure

Select, Deselect and Linktest share one slot, `active_transaction`, and a Deselect that
drains waits outside it.  The Core tests the slot when a command or the idle probe wants it;
`progress_deselect` does not, and the exclusivity of the finished drain rests on `Coherent`:
while a drain waits, the slot is empty.

## From effects to rounds

`ControlStep` says what one effect does to the slot and which control requests it sends.
Two facts about the Core before the round carry the argument from effects to rounds.  A
request is only sent in a round that found the slot empty, and a transaction is only retired
in a round that found it there.  So no round does both, and a round sends at most one
request (`Exclusive`).

## Messages that match nothing

Responses and Rejects that match nothing are the other half of the subject.  They leave the
slot alone and are answered by one Reject; this is read off `on_message`.  A time that
regresses fails closed before the message is looked at, so in such a round the answer is
missing, and the statement says so.

## A Separate

What a Separate may end is the third part: a local one ends whatever is alive, and one of
the peer that comes outside Selected is ignored.  `SessionCore.StillHolds` is the property
that every other input keeps.
-/

namespace SecsRust
namespace Hsms

open Std SessionCore

/-! ## Control requests and their answers -/

/-- The message opens a control procedure: Select, Deselect or Linktest. -/
def ProtocolMessage.controlRequest : ProtocolMessage → Option ControlMessage
  | .control (.selectRequest sessionId systemBytes) => some (.selectRequest sessionId systemBytes)
  | .control (.deselectRequest sessionId systemBytes) =>
    some (.deselectRequest sessionId systemBytes)
  | .control (.linktestRequest systemBytes) => some (.linktestRequest systemBytes)
  | .control (.selectResponse ..) | .control (.deselectResponse ..) | .control (.linktestResponse _)
  | .control (.rejectRequest ..) | .control (.separateRequest ..) | .data _ => none

/-- The control requests among the frames of some actions, in order. -/
def controlRequests (actions : List CoreAction) : List ControlMessage :=
  (framesOf actions).filterMap fun frame => frame.2.controlRequest

/-- The message answers the transaction: a response of its own kind that carries its session id and
its System Bytes. -/
def ControlMessage.Answers (message : ControlMessage) (transaction : ControlTransaction) : Prop :=
  match message with
  | .selectResponse sessionId _ systemBytes => transaction.kind = .select ∧
      transaction.sessionId = sessionId ∧ transaction.systemBytes = systemBytes
  | .deselectResponse sessionId _ systemBytes => transaction.kind = .deselect ∧
      transaction.sessionId = sessionId ∧ transaction.systemBytes = systemBytes
  | .linktestResponse systemBytes => transaction.kind = .linktest ∧
      transaction.sessionId = controlSessionId ∧ transaction.systemBytes = systemBytes
  | .selectRequest .. | .deselectRequest .. | .linktestRequest _ | .rejectRequest ..
  | .separateRequest .. => False

theorem control_of_active {core : SessionCore} {transaction : ControlTransaction}
    (h : core.activeTransaction = some transaction) : core.control = some transaction.identity :=
  congrArg (Option.map ControlTransaction.identity) h

theorem control_of_idle {core : SessionCore} (h : core.activeTransaction = none) :
    core.control = none :=
  congrArg (Option.map ControlTransaction.identity) h

theorem requestMessage_controlRequest (kind : TransactionKind) (sb : SystemBytes) :
    ProtocolMessage.controlRequest (.control (Turn.requestMessage kind sb)) =
      some (Turn.requestMessage kind sb) := by
  cases kind <;> rfl

theorem controlRequests_of_frames {actions : List CoreAction} (h : framesOf actions = []) :
    controlRequests actions = [] := by
  rw [controlRequests, h]
  rfl

theorem controlRequests_append {past actions : List CoreAction} :
    controlRequests (past ++ actions) = controlRequests past ++ controlRequests actions := by
  rw [controlRequests, framesOf_append, List.filterMap_append]
  rfl

/-! ## What one effect does to the slot -/

/-- The ways in which an effect treats the slot of the control transaction.  It is filled by a
request that is sent, and emptied for a cause. -/
inductive ControlStep (origin : SessionCore) (input : Input) (before after : SessionCore)
    (actions : List CoreAction) : Prop where
  | keeps (silent : controlRequests actions = [])
      (active : after.activeTransaction = before.activeTransaction)
  | commits (transaction : ControlTransaction) (deadline : MonoTime) {occurredAt now : MonoTime}
      (silent : controlRequests actions = [])
      (outcome : input = .writeOutcome transaction.writeId .committed occurredAt now)
      (armed : occurredAt.checkedAdd before.config.timeouts.t6 = some deadline)
      (held : before.activeTransaction = some transaction)
      (active : after.activeTransaction = some { transaction with deadline := some deadline })
  | starts (transaction : ControlTransaction) (live : before.closing = false)
      (requests : controlRequests actions =
        [Turn.requestMessage transaction.kind transaction.systemBytes])
      (vacant : origin.activeTransaction = none ∨ before.deselectDrain.isSome = true)
      (idle : before.activeTransaction = none)
      (active : after.activeTransaction = some transaction)
  | retires (transaction : ControlTransaction) (result : Except OperationError Unit)
      (silent : controlRequests actions = [])
      (cause : ControlCause input transaction result)
      (found : before.control = origin.control)
      (held : before.activeTransaction = some transaction)
      (active : after.activeTransaction = none)
  | fails (silent : controlRequests actions = []) (failure : input.isFailure = true)
      (found : before.activeTransaction = origin.activeTransaction)
  | closes (silent : controlRequests actions = []) (closing : after.closing = true)

/-- **What one effect does to the slot of the control transaction.**  One case for each effect;
all but a few leave the slot alone. -/
theorem Effect.controlStep {origin : SessionCore} {input : Input} {stage stage' : Stage}
    {actions : List CoreAction} (h : Coherent stage.fresh stage.core)
    (he : Effect origin input stage actions stage') :
    ControlStep origin input stage.core stage'.core actions := by
  have hcompletions : ∀ {actions : List CoreAction}, (∀ a ∈ actions, a.isCompletion = true) →
      controlRequests actions = [] := fun h => controlRequests_of_frames (frames_of_completions h)
  cases he with
  | ended reason _ _ _ done =>
    exact .closes (controlRequests_of_frames (frames_endActions reason)) (by rw [done.frame])
  | lostWrite reason _ _ _ _ done =>
    exact .closes (controlRequests_of_frames (frames_endActions reason)) (by rw [done.frame])
  | admissionClosed _ _ _ _ _ =>
    refine .closes ?_ rfl
    rw [controlRequests_append, hcompletions fun a ha => isCompletion_of_mem_loss ha]
    rfl
  | abandonWrites _ closing done =>
    exact .closes (hcompletions fun a ha => isCompletion_of_mem_abandonments ha)
      (by rw [done.frame]; exact closing)
  | loseCommands _ closing done =>
    exact .closes (hcompletions fun a ha => isCompletion_of_mem_loss ha)
      (by rw [done.frame]; exact closing)
  | @separate s s' _ _ w sb _ _ _ _ _ _ _ done =>
    have hclosed : s'.closing = true := by rw [done.frame]
    refine .closes ?_ hclosed
    rw [controlRequests_append, hcompletions fun a ha => isCompletion_of_mem_separate ha]
    rfl
  | peerSeparate _ _ _ _ done =>
    refine .closes ?_ (by rw [done.frame])
    rw [controlRequests_append, hcompletions fun a ha => isCompletion_of_mem_separate ha]
    rfl
  | @retireControl s _ _ transaction result active cause before =>
    exact .retires transaction result (hcompletions fun a ha => isCompletion_of_mem_control ha)
      cause before active rfl
  | @failWrite s _ w write _ _ cause before =>
    refine .fails (hcompletions fun a ha => ?_) cause.isFailure before
    obtain ⟨c, -, hc⟩ := List.mem_filterMap.mp ha
    obtain ⟨kind, -, rfl⟩ := Option.map_eq_some_iff.mp hc
    rfl
  | @startControl s _ f w sb kind _ _ live _ idle _ _ before _ =>
    refine .starts ⟨kind, f, controlSessionId, sb, w, none⟩ live ?_ (Or.inl before) idle rfl
    exact congrArg Option.toList (requestMessage_controlRequest kind sb)
  | @startDeselection s _ w sb drain _ live pending _ _ =>
    have hidle : s.activeTransaction = none := (h.drain_alone live (by rw [pending]; rfl)).1
    exact .starts ⟨.deselect, some drain.commandId, controlSessionId, sb, w, none⟩ live rfl
      (Or.inr (by rw [pending]; rfl)) hidle rfl
  | @commitControl s _ w write transaction _ _ deadline outcome _ active own armed =>
    obtain rfl := own
    exact .commits transaction deadline rfl outcome armed active rfl
  | @respond s _ _ w message _ _ _ response _ =>
    refine .keeps ?_ rfl
    cases message <;> first | rfl | cases response
  | sendReply _ _ _ _ _ _ _ | sendRequest _ _ _ _ _ _ _ _ _ | sendPrimary _ _ _ _ _ _ _ _ _
  | tick _ | observe _ _ _ | lateAnnounce _ | lateControl _ _ _ _ | connect _ _ _ _ _
  | selected _ _ _ | deselected _ _ _ _ _ _ | refuse _ _ _ | startDrain _ _ _ _ _ _ _
  | endDrain _ _ _ | retireRequest _ _ _ | rejectSend _ _ _ _ _ _ | deliver _ _ _ _ _ _ _ _ _
  | deliverOneWay _ _ _ _ _ _ | spendContract _ _ _ _ _ _ | commitRequest _ _ _ _ _
  | commitCommand _ _ _ _ | commitSilently _ _ _ => exact .keeps rfl rfl

/-- A waiting drain was waiting before, or the round found the slot empty. -/
theorem Effect.drain_vacant {origin : SessionCore} {input : Input} {stage stage' : Stage}
    {actions : List CoreAction} (he : Effect origin input stage actions stage')
    (hlive : stage'.core.closing = false) (hdrain : stage'.core.deselectDrain.isSome = true) :
    stage.core.closing = false ∧ stage.core.deselectDrain.isSome = true ∨
      origin.activeTransaction = none := by
  have hbefore : stage.core.closing = false := by
    cases hclosing : stage.core.closing with
    | false => rfl
    | true => rw [he.closing_mono hclosing] at hlive; cases hlive
  cases he with
  | ended _ _ _ _ done => rw [done.frame] at hlive; cases hlive
  | lostWrite _ _ _ _ _ done => rw [done.frame] at hlive; cases hlive
  | @separate s s' _ _ _ _ _ _ _ _ _ _ _ done =>
    have hclosed : s'.closing = true := by rw [done.frame]
    exact absurd hclosed (Bool.not_eq_true _ ▸ hlive)
  | peerSeparate _ _ _ _ done => rw [done.frame] at hlive; cases hlive
  | admissionClosed _ _ _ _ _ => cases hlive
  | abandonWrites _ closing _ => exact absurd closing (Bool.not_eq_true _ ▸ hbefore)
  | loseCommands _ closing _ => exact absurd closing (Bool.not_eq_true _ ▸ hbefore)
  | endDrain _ _ _ => cases hdrain
  | startDeselection _ _ _ _ _ => cases hdrain
  | startDrain _ _ _ _ _ _ before => exact Or.inr before
  | retireControl _ _ _ =>
    dsimp only at hdrain
    rw [release_frame] at hdrain
    exact Or.inl ⟨hbefore, hdrain⟩
  | failWrite _ _ _ =>
    dsimp only at hdrain
    rw [release_frame, removeTransactionForWrite_frame] at hdrain
    exact Or.inl ⟨hbefore, hdrain⟩
  | tick _ | observe _ _ _ | lateAnnounce _ | lateControl _ _ _ _ | connect _ _ _ _ _
  | selected _ _ _ | deselected _ _ _ _ _ _ | respond _ _ _ _ _ _ | refuse _ _ _
  | startControl _ _ _ _ _ _ _ _ _ _ | sendRequest _ _ _ _ _ _ _ _ _
  | sendPrimary _ _ _ _ _ _ _ _ _ | retireRequest _ _ _ | rejectSend _ _ _ _ _ _
  | deliver _ _ _ _ _ _ _ _ _ | deliverOneWay _ _ _ _ _ _ | spendContract _ _ _ _ _ _
  | sendReply _ _ _ _ _ _ _ | commitControl _ _ _ _ _ | commitRequest _ _ _ _ _
  | commitCommand _ _ _ _ | commitSilently _ _ _ => exact Or.inl ⟨hbefore, hdrain⟩

/-! ## One round sends at most one request -/

/-- What a round has sent so far: nothing, or one request of the transaction that it started in the
slot it had found empty, which holds the slot while the Core stays open. -/
structure Exclusive (origin : SessionCore) (past : List CoreAction) (core : SessionCore) :
    Prop where
  drain : core.closing = false → core.deselectDrain.isSome = true → origin.activeTransaction = none
  requests : controlRequests past = [] ∨ origin.activeTransaction = none ∧
    ∃ transaction : ControlTransaction, controlRequests past =
        [Turn.requestMessage transaction.kind transaction.systemBytes] ∧
      (core.closing = true ∨ core.control = some transaction.identity)

theorem Exclusive.step {origin : SessionCore} {input : Input} {past actions : List CoreAction}
    {stage stage' : Stage} (h : Exclusive origin past stage.core)
    (hc : Coherent stage.fresh stage.core) (he : Effect origin input stage actions stage') :
    Exclusive origin (past ++ actions) stage'.core := by
  refine ⟨fun hlive hdrain => ?_, ?_⟩
  · rcases he.drain_vacant hlive hdrain with ⟨hbefore, hdrain⟩ | hnone
    · exact h.drain hbefore hdrain
    · exact hnone
  · have hsilent : controlRequests actions = [] →
        (stage.core.closing = false → stage.core.control ≠ none → origin.activeTransaction = none →
          stage'.core.control = stage.core.control) →
        controlRequests (past ++ actions) = [] ∨ origin.activeTransaction = none ∧
          ∃ transaction : ControlTransaction, controlRequests (past ++ actions) =
              [Turn.requestMessage transaction.kind transaction.systemBytes] ∧
            (stage'.core.closing = true ∨ stage'.core.control = some transaction.identity) := by
      intro hnone hkept
      rw [controlRequests_append, hnone, List.append_nil]
      refine h.requests.imp_right fun ⟨hvacant, transaction, hone, hholds⟩ =>
        ⟨hvacant, transaction, hone, ?_⟩
      cases hclosing : stage.core.closing with
      | true => exact Or.inl (he.closing_mono hclosing)
      | false =>
        have hheld := hholds.resolve_left (Bool.not_eq_true _ ▸ hclosing)
        refine Or.inr ((hkept hclosing ?_ hvacant).trans hheld)
        rw [hheld]
        nofun
    cases he.controlStep hc with
    | keeps silent active => exact hsilent silent fun _ _ _ => Turn.control_congr active
    | commits transaction deadline silent _ _ held active =>
      exact hsilent silent fun _ _ _ =>
        (control_of_active active).trans (control_of_active held).symm
    | starts transaction live requests vacant idle active =>
      have hempty : controlRequests past = [] := by
        refine h.requests.resolve_right fun ⟨_, started, _, hholds⟩ => ?_
        have hheld := hholds.resolve_left (Bool.not_eq_true _ ▸ live)
        rw [control_of_idle idle] at hheld
        cases hheld
      refine Or.inr ⟨vacant.elim id fun hdrain => h.drain live hdrain, transaction, ?_,
        Or.inr (control_of_active active)⟩
      rw [controlRequests_append, hempty, requests]
      rfl
    | retires transaction result silent cause found held active =>
      refine hsilent silent fun _ _ hvacant => ?_
      rw [control_of_active held, control_of_idle hvacant] at found
      cases found
    | fails silent _ found =>
      refine hsilent silent fun _ hheld hvacant => ?_
      exact absurd (control_of_idle (found.trans hvacant)) hheld
    | closes silent closing =>
      rw [controlRequests_append, silent, List.append_nil]
      exact h.requests.imp_right fun ⟨hvacant, transaction, hone, _⟩ =>
        ⟨hvacant, transaction, hone, Or.inl closing⟩

/-- **One round sends at most one control request**, and none if the slot is taken.  Replies to
the peer are no requests and are not counted. -/
theorem exclusive_handle {core : SessionCore} {input : Input} (hc : Coherent none core) :
    Exclusive core (core.handle input).actions (core.handle input).core := by
  have hstart : Exclusive core [] core :=
    ⟨fun hlive hdrain => (hc.drain_alone hlive hdrain).1, Or.inl rfl⟩
  have hround := (steps_handle hc input).accumulates_nil
    (I := fun past stage => Coherent stage.fresh stage.core ∧ Exclusive core past stage.core)
    (fun past stage actions stage' hI he => ⟨coherent_of_steps (.single he) hI.1,
      hI.2.step hI.1 he⟩)
    (by
      refine ⟨hc.entry input, ?_⟩
      rw [entry_frame]
      exact ⟨hstart.drain, Or.inl rfl⟩)
  exact hround.2

/-! ## Why a transaction ends -/

namespace SessionCore

/-- The T6 deadline of a control transaction in a round that found it in the slot: the one it had,
or the one that the commit of its request gives it in this round. -/
def ExpiryOf (core : SessionCore) (input : Input) (transaction : ControlTransaction)
    (deadline : MonoTime) : Prop :=
  transaction.deadline = some deadline ∨ ∃ occurredAt now,
    input = .writeOutcome transaction.writeId .committed occurredAt now ∧
      occurredAt.checkedAdd core.config.timeouts.t6 = some deadline

/-- Why a round ends a control transaction that it found in the slot, if it leaves the Core open: a
matching response, an exactly matching base-standard Reject, or T6. -/
inductive Retires (core : SessionCore) (input : Input) (transaction : ControlTransaction) :
    Prop where
  | answered {message : ControlMessage} {now : MonoTime}
      (received : input = .message (.control message) now) (answers : message.Answers transaction)
  | rejected {sessionId : UInt16} {headerByte2 : UInt8} {reason : RejectReason}
      {systemBytes : SystemBytes} {now : MonoTime}
      (received : input = .message (.control
        (.rejectRequest sessionId headerByte2 reason systemBytes)) now)
      (base : reason.IsBaseStandard)
      (names : Turn.namesControl transaction sessionId headerByte2 reason systemBytes = true)
  | expired {deadline : MonoTime} (expiry : core.ExpiryOf input transaction deadline)
      (due : deadline ≤ input.now)

/-- The transaction is still in the slot, perhaps with its timer started, and its command has not
completed. -/
structure StillHolds (origin : SessionCore) (input : Input) (transaction : ControlTransaction)
    (past : List CoreAction) (core : SessionCore) : Prop where
  slot : ∃ held, core.activeTransaction = some held ∧ held.identity = transaction.identity ∧
    ∀ deadline, held.deadline = some deadline → origin.ExpiryOf input transaction deadline
  open_ : ∀ c result, transaction.commandId = some c → .completeCommand c result ∉ past

end SessionCore

section

variable {origin : SessionCore} {input : Input} {stage stage' : Stage}
  {past actions : List CoreAction}
  {transaction : ControlTransaction}

/-- The command of the transaction in the slot completes with its transaction, unless a failure
closes the Core. -/
theorem CompletionCause.of_control {c : CommandId} {result : CoreCommandResult}
    (h : CompletionCause origin input stage.core stage.fresh c result)
    (hc : Coherent stage.fresh stage.core) (hlive : stage.core.closing = false)
    (hactive : stage.core.activeTransaction = some transaction)
    (hcommand : transaction.commandId = some c) :
    input.isFailure = true ∨ ∃ outcome, ControlCause input transaction outcome := by
  have hopen := hc.control_open transaction c hactive hcommand
  have hclass : ∀ {kind : OpenCommandKind}, stage.core.openCommands[c]? = some kind →
      kind = .control := fun h => Option.some.inj (h.symm.trans hopen)
  cases h with
  | fresh own => exact absurd hcommand ((hc.fresh_unreferenced c own).control transaction hactive)
  | drain live pending own =>
    have hidle := (hc.drain_alone live (by rw [pending]; rfl)).1
    rw [hactive] at hidle
    cases hidle
  | control active own result_eq cause =>
    rw [hactive] at active
    obtain rfl := Option.some.inj active
    exact Or.inr ⟨_, cause⟩
  | request live pending own cause =>
    obtain rfl := own
    cases hclass (hc.request_open _ _ pending)
  | rejected live received pending names result_eq =>
    obtain ⟨kind, hkind, hother⟩ := hc.write_open _ _ c pending rfl
    obtain rfl := Option.some.inj hkind
    cases hclass hother
  | committed outcome pending own cause =>
    cases cause with
    | send kind =>
      obtain ⟨class_, hkind, hother⟩ := hc.write_open _ _ c pending own
      rw [kind] at hkind
      obtain rfl := Option.some.inj hkind
      cases hclass hother
    | separate kind => exact absurd kind (hc.write_separate hlive _ _ pending)
    | released _ _ deferred =>
      rw [hc.deferred_closing hlive c] at deferred
      cases deferred
  | failed pending own open_ result_eq cause => exact Or.inl cause.isFailure

/-- A cause that is not a Separate retires the transaction. -/
theorem ControlCause.retires {held : ControlTransaction} {outcome : Except OperationError Unit}
    (h : ControlCause input held outcome) (hidentity : held.identity = transaction.identity)
    (hexpiry : ∀ deadline, held.deadline = some deadline →
      origin.ExpiryOf input transaction deadline)
    (hseparate : input.isSeparate = false) : origin.Retires input transaction := by
  obtain ⟨kind, commandId, sessionId, systemBytes, writeId, deadline⟩ := held
  obtain ⟨kind', commandId', sessionId', systemBytes', writeId', deadline'⟩ := transaction
  obtain ⟨rfl, rfl, rfl, rfl, rfl, -⟩ := ControlTransaction.mk.inj hidentity
  cases h with
  | select message kind => exact .answered message ⟨kind, rfl, rfl⟩
  | linktest message kind session => exact .answered message ⟨kind, session, rfl⟩
  | deselect message kind => exact .answered message ⟨kind, rfl, rfl⟩
  | rejected message base names => exact .rejected message base names
  | expired armed due => exact .expired (hexpiry _ armed) due
  | separated separates =>
    rw [hseparate] at separates
    cases separates

/-- **One effect and a transaction in the slot**: it stays there, or it is retired for a reason, or
the Core is closing. -/
theorem SessionCore.StillHolds.step (h : origin.StillHolds input transaction past stage.core)
    (hc : Coherent stage.fresh stage.core) (hconfig : stage.core.config = origin.config)
    (hseparate : input.isSeparate = false) (hfailure : input.isFailure = false)
    (he : Effect origin input stage actions stage') :
    stage'.core.closing = true ∨ origin.Retires input transaction ∨
      origin.StillHolds input transaction (past ++ actions) stage'.core := by
  obtain ⟨held, hactive, hidentity, hexpiry⟩ := h.slot
  cases hclosing : stage.core.closing with
  | true => exact Or.inl (he.closing_mono hclosing)
  | false =>
    have hretires : ∀ outcome, ControlCause input held outcome → origin.Retires input transaction :=
      fun _ hcause => hcause.retires hidentity hexpiry hseparate
    have hsame : transaction.commandId = held.commandId :=
      (congrArg ControlTransaction.commandId hidentity).symm
    by_cases hcompletes : ∃ c result, transaction.commandId = some c ∧
        .completeCommand c result ∈ actions
    · obtain ⟨c, result, hcommand, hmem⟩ := hcompletes
      refine (he.completion hmem).imp_right fun hcause => Or.inl ?_
      rcases hcause.of_control hc hclosing hactive (hsame.symm.trans hcommand) with hfails | ⟨_,
        hcause⟩
      · rw [hfailure] at hfails
        cases hfails
      · exact hretires _ hcause
    · have hopen : ∀ c result, transaction.commandId = some c →
          .completeCommand c result ∉ past ++ actions := fun c result hcommand hmem =>
        (List.mem_append.mp hmem).elim (h.open_ c result hcommand)
          fun hmem => hcompletes ⟨c, result, hcommand, hmem⟩
      cases he.controlStep hc with
      | keeps _ active => exact Or.inr (Or.inr ⟨⟨held, active.trans hactive, hidentity, hexpiry⟩,
          hopen⟩)
      | @commits own deadline occurredAt now _ outcome armed found active =>
        rw [hactive] at found
        obtain rfl := Option.some.inj found
        refine Or.inr (Or.inr ⟨⟨_, active, hidentity, fun deadline' hdeadline => Or.inr ?_⟩, hopen⟩)
        obtain rfl := Option.some.inj hdeadline
        rw [hconfig] at armed
        have hwrite : transaction.writeId = held.writeId :=
          (congrArg ControlTransaction.writeId hidentity).symm
        exact ⟨occurredAt, now, hwrite.symm ▸ outcome, armed⟩
      | starts _ _ _ _ idle _ =>
        rw [hactive] at idle
        cases idle
      | retires own outcome _ cause _ found _ =>
        rw [hactive] at found
        obtain rfl := Option.some.inj found
        exact Or.inr (Or.inl (hretires _ cause))
      | fails _ failure _ =>
        rw [hfailure] at failure
        cases failure
      | closes _ closing => exact Or.inl closing

end

/-- One round and a transaction in the slot, for inputs that neither ask for a Separate nor report a
failure. -/
theorem stillHolds_handle {core : SessionCore} {input : Input} {transaction : ControlTransaction}
    (hc : Coherent none core) (hactive : core.activeTransaction = some transaction)
    (hseparate : input.isSeparate = false) (hfailure : input.isFailure = false) :
    (core.handle input).core.closing = true ∨ core.Retires input transaction ∨
      core.StillHolds input transaction (core.handle input).actions (core.handle input).core := by
  have hround := (steps_handle hc input).accumulates_nil
    (I := fun past stage => Coherent stage.fresh stage.core ∧ stage.core.config = core.config ∧
      (stage.core.closing = true ∨ core.Retires input transaction ∨
        core.StillHolds input transaction past stage.core))
    (fun past stage actions stage' hI he => by
      refine ⟨coherent_of_steps (.single he) hI.1, he.config_eq.trans hI.2.1, ?_⟩
      rcases hI.2.2 with hclosing | hretires | hholds
      · exact Or.inl (he.closing_mono hclosing)
      · exact Or.inr (Or.inl hretires)
      · exact hholds.step hI.1 hI.2.1 hseparate hfailure he)
    (by
      refine ⟨hc.entry input, ?_, Or.inr (Or.inr ⟨⟨transaction, ?_, rfl, fun _ => Or.inl⟩, ?_⟩)⟩
      · rw [entry_frame]
      · rw [entry_frame]
        exact hactive
      · exact fun _ _ _ => List.not_mem_nil)
  exact hround.2.2

/-! ## Failures and Separates -/

namespace SessionCore

variable {core : SessionCore} {input : Input} {transaction : ControlTransaction}

theorem expireDeadlines_of_closing {t : Turn} (h : t.core.closing = true) (now : MonoTime) :
    t.expireDeadlines now = t := by
  unfold Turn.expireDeadlines
  rw [h]
  rfl

theorem progressDeselect_of_closing {t : Turn} (h : t.core.closing = true) (now : MonoTime) :
    t.progressDeselect now = t := by
  unfold Turn.progressDeselect
  rw [if_pos h]

theorem progressDeselect_of_noDrain {t : Turn} (h : t.core.deselectDrain = none) (now : MonoTime) :
    t.progressDeselect now = t := by
  unfold Turn.progressDeselect
  rw [h, ite_self]

@[simp] theorem requestClose_closing (t : Turn) (reason : GenerationCloseReason)
    (barrier : CloseBarrier) : (t.requestClose reason barrier).core.closing = true := by
  rw [Turn.requestClose_core]

/-- The Core once `on_message` has accepted the time and recorded the activity. -/
def observed (core : SessionCore) (now : MonoTime) (lastActivity idleDeadline : Option MonoTime) :
    SessionCore :=
  { core with
    notice := none
    lastNow := some now
    lastActivity := lastActivity
    idleDeadline := idleDeadline }

/-- Activity that fits is recorded. -/
theorem recordActivity_of_fits {t : Turn} {now : MonoTime} (h : t.core.ActivityFits now) :
    ∃ lastActivity idleDeadline, t.recordActivity now = t.update fun core =>
      { core with lastActivity := lastActivity, idleDeadline := idleDeadline } := by
  rw [Turn.recordActivity_eq]
  cases hlinktest : t.core.config.timeouts.linktest with
  | none => exact ⟨_, _, rfl⟩
  | some interval =>
    obtain ⟨deadline, hadd⟩ := Option.isSome_iff_exists.mp (h interval hlinktest)
    dsimp only
    rw [hadd]
    exact ⟨_, _, rfl⟩

/-- `on_message` of an open Core closes it, or it accepts the time, records the activity and handles
the message. -/
theorem onMessage_cases {message : ProtocolMessage} {now : MonoTime}
    (hstate : core.state.isSome = true) (hlive : core.closing = false) :
    (core.onMessage message now).core.closing = true ∨
      core.AcceptsTime now ∧ core.ActivityFits now ∧ ∃ lastActivity idleDeadline,
        core.onMessage message now = (receive (Turn.start (core.observed now lastActivity
          idleDeadline)) message now).progressDeselect now := by
  unfold onMessage
  rcases (Turn.start { core with notice := none }).acceptTime_cases now with
    ⟨-, heq⟩ | ⟨haccepts, heq⟩
  · rw [heq]
    exact Or.inl (Turn.endGeneration_closing _ .runtimeInvariant)
  · rw [heq]
    have hopen : ((Turn.start { core with notice := none }).update fun core =>
        { core with lastNow := some now }).core.state.isNone = false ∧
        ((Turn.start { core with notice := none }).update fun core =>
          { core with lastNow := some now }).core.closing = false := by
      exact ⟨by rw [Option.isNone_eq_false_iff]; exact hstate, hlive⟩
    dsimp only
    rw [hopen.1, hopen.2, Bool.or_self, if_neg Bool.false_ne_true]
    rcases ((Turn.start { core with notice := none }).update fun core =>
      { core with lastNow := some now }).recordActivity_cases now with
      ⟨hfits, lastActivity, idleDeadline, hrec⟩ | ⟨lastActivity, hrec⟩
    · rw [hrec]
      refine Or.inr ⟨haccepts, hfits, lastActivity, idleDeadline, if_neg ?_⟩
      exact Bool.not_eq_true _ ▸ hlive
    · have hclosed : (((Turn.start { core with notice := none }).update fun core =>
          { core with lastNow := some now }).recordActivity now).core.closing = true := by
        rw [hrec]
        exact Turn.endGeneration_closing _ .runtimeInvariant
      rw [if_pos hclosed]
      exact Or.inl hclosed

/-- `on_message` of an open Core, when the time is accepted and the activity fits. -/
theorem onMessage_eq {message : ProtocolMessage} {now : MonoTime}
    (hstate : core.state.isSome = true) (hlive : core.closing = false)
    (haccepts : core.AcceptsTime now) (hfits : core.ActivityFits now) :
    ∃ lastActivity idleDeadline,
      core.onMessage message now = (receive (Turn.start (core.observed now
      lastActivity idleDeadline)) message now).progressDeselect now := by
  have hbase : ((Turn.start { core with notice := none }).update fun core =>
      { core with lastNow := some now }).core.ActivityFits now := hfits
  obtain ⟨lastActivity, idleDeadline, hrec⟩ := recordActivity_of_fits hbase
  refine ⟨lastActivity, idleDeadline, ?_⟩
  unfold onMessage
  rcases (Turn.start { core with notice := none }).acceptTime_cases now with ⟨hregress, -⟩ | ⟨-,
    heq⟩
  · exact absurd haccepts hregress
  · rw [heq]
    have hopen : ((Turn.start { core with notice := none }).update fun core =>
        { core with lastNow := some now }).core.state.isNone = false ∧
        ((Turn.start { core with notice := none }).update fun core =>
          { core with lastNow := some now }).core.closing = false := by
      exact ⟨by rw [Option.isNone_eq_false_iff]; exact hstate, hlive⟩
    dsimp only
    rw [hopen.1, hopen.2, Bool.or_self, if_neg Bool.false_ne_true, hrec]
    exact if_neg (Bool.not_eq_true _ ▸ hlive)

/-- Every shutdown leaves the Core closing. -/
theorem closing_onShutdown (reason : GenerationCloseReason) (failedWriteId : Option WriteId)
    (now : MonoTime) : (core.onShutdown reason failedWriteId now).core.closing = true := by
  unfold onShutdown
  rcases (Turn.start core).acceptTime_cases now with ⟨-, heq⟩ | ⟨-, heq⟩
  · rw [heq]
    exact Turn.endGeneration_closing _ .runtimeInvariant
  · rw [heq]
    dsimp only
    cases failedWriteId with
    | none => exact requestClose_closing _ _ _
    | some w =>
      dsimp only
      split
      · exact Turn.endGeneration_closing _ .runtimeInvariant
      · rfl

/-- Every failure leaves the Core closing. -/
theorem closing_of_failure (h : input.isFailure = true) :
    (core.handle input).core.closing = true := by
  have hsettle : ∀ {t : Turn} {w : WriteId} {write : PendingWrite} {outcome : WriteOutcome}
      {occurredAt now : MonoTime}, outcome ≠ .committed →
      (t.settleWrite w write outcome occurredAt now).core.closing = true := by
    intro t w write outcome occurredAt now hfailed
    have hreleased : Turn.releasedError t.core write outcome = none := by
      cases outcome with
      | committed => exact absurd rfl hfailed
      | notWritten fault => rfl
      | indeterminate fault => rfl
    have hresolved : (t.resolveWrite w write outcome occurredAt).core.closing = true := by
      cases outcome with
      | committed => exact absurd rfl hfailed
      | notWritten fault => exact requestClose_closing _ _ _
      | indeterminate fault => exact requestClose_closing _ _ _
    unfold Turn.settleWrite
    rw [hreleased]
    dsimp only
    rw [expireDeadlines_of_closing hresolved]
    exact hresolved
  have hwrite : ∀ {w : WriteId} {outcome : WriteOutcome} {occurredAt now : MonoTime},
      outcome ≠ .committed →
      (core.onWriteOutcomeAt w outcome occurredAt now).core.closing = true := by
    intro w outcome occurredAt now hfailed
    unfold onWriteOutcomeAt
    rcases (Turn.start core).acceptTime_cases now with ⟨-, heq⟩ | ⟨-, heq⟩
    · rw [heq]
      exact Turn.endGeneration_closing _ .runtimeInvariant
    · rw [heq]
      dsimp only
      split
      · exact Turn.endGeneration_closing _ .runtimeInvariant
      · split
        · exact Turn.endGeneration_closing _ .runtimeInvariant
        · exact hsettle hfailed
  cases input with
  | writeOutcome w outcome occurredAt now =>
    cases outcome with
    | committed => cases h
    | notWritten fault => exact hwrite nofun
    | indeterminate fault => exact hwrite nofun
  | shutdown reason failedWriteId now => exact closing_onShutdown reason failedWriteId now
  | connected | command | message | inboundViolation | reply | finishShutdownDrain | advanceTime
  | finalizeWriter => cases h

/-- A Separate that is acted on leaves the Core closing. -/
theorem closing_startSeparate {t : Turn} (h : t.core.state = some .selected) (c : Option CommandId)
    (reason : GenerationCloseReason) : (t.startSeparate c reason).core.closing = true := by
  unfold Turn.startSeparate
  rw [if_neg (not_not_intro h)]
  split
  · rename_i heq
    rcases t.allocateRequestIdentifiers_cases with ⟨failure, hcase⟩ | ⟨sb, w, -, hcase⟩
    · rw [hcase] at heq
      rw [← (Prod.mk.inj heq).1]
      exact Turn.endGeneration_closing _ _
    · rw [hcase] at heq
      cases (Prod.mk.inj heq).2
  · exact requestClose_closing _ _ _

theorem startSeparate_refused {t : Turn} (h : t.core.state ≠ some .selected) (c : CommandId)
    (reason : GenerationCloseReason) :
    t.startSeparate (some c) reason = t.completeError c .notSelected := if_pos h

/-- A peer Separate that is acted on leaves the Core closing. -/
theorem closing_receiveSeparate {t : Turn} (h : t.core.state = some .selected) :
    t.receiveSeparate.core.closing = true := by
  unfold Turn.receiveSeparate
  rw [if_neg (not_not_intro h)]
  exact requestClose_closing _ _ _

theorem receiveSeparate_ignored {t : Turn} (h : t.core.state ≠ some .selected) :
    t.receiveSeparate = t := if_pos h

/-- The slot is as it was, and no command of its transaction completed. -/
theorem stillHolds_of_same {after : SessionCore} {past : List CoreAction}
    (hactive : core.activeTransaction = some transaction)
    (hsame : after.activeTransaction = core.activeTransaction)
    (hopen : ∀ c result, transaction.commandId = some c → .completeCommand c result ∉ past) :
    core.StillHolds input transaction past after :=
  ⟨⟨transaction, hsame.trans hactive, rfl, fun _ => Or.inl⟩, hopen⟩

/-- A local Separate leaves the Core closing, or it is refused and leaves the slot alone. -/
theorem separate_command {c : CommandId} {now : MonoTime} (hc : Coherent none core)
    (hactive : core.activeTransaction = some transaction) :
    (core.onCommand ⟨c, .separate⟩ now).core.closing = true ∨
      core.StillHolds input transaction (core.onCommand ⟨c, .separate⟩ now).actions
        (core.onCommand ⟨c, .separate⟩ now).core := by
  unfold onCommand
  dsimp only
  cases hcontains : core.openCommands.contains c with
  | true => exact Or.inl (Turn.endGeneration_closing _ .runtimeInvariant)
  | false =>
    rw [if_neg Bool.false_ne_true]
    rcases (Turn.start (core.accept c CoreCommandKind.separate.openKind)).acceptTime_cases now
      with ⟨-, heq⟩ | ⟨-, heq⟩
    · rw [heq]
      exact Or.inl (Turn.endGeneration_closing _ .runtimeInvariant)
    · rw [heq]
      have hopen : ((Turn.start (core.accept c CoreCommandKind.separate.openKind)).update
          fun core => { core with lastNow := some now }).core.openCommands[c]? =
            some .control := openCommands_accept_self _ _
      have hsame : ((Turn.start (core.accept c CoreCommandKind.separate.openKind)).update
          fun core => { core with lastNow := some now }).core.activeTransaction =
            core.activeTransaction := rfl
      have hactions : ((Turn.start (core.accept c CoreCommandKind.separate.openKind)).update
          fun core => { core with lastNow := some now }).actions = [] := rfl
      generalize (Turn.start (core.accept c CoreCommandKind.separate.openKind)).update
        (fun core => { core with lastNow := some now }) = t at *
      -- a refused Separate completes only its own command
      have hrefused : ∀ error, core.StillHolds input transaction (t.completeError c error).actions
          (t.completeError c error).core := by
        intro error
        rw [Turn.completeError_of_open hopen]
        refine stillHolds_of_same hactive hsame fun c' result hcommand hmem => ?_
        have hmem : CoreAction.completeCommand c' result ∈ t.actions ++
          [.completeCommand c (OpenCommandKind.control.errorResult error)] := hmem
        rw [hactions, List.nil_append, List.mem_singleton] at hmem
        obtain ⟨rfl, -⟩ := CoreAction.completeCommand.inj hmem
        have hbusy := hc.control_open transaction c' hactive hcommand
        rw [TreeMap.contains_eq_false_iff.mp hcontains] at hbusy
        cases hbusy
      dsimp only
      split
      · exact Or.inr (hrefused _)
      · split
        · exact Or.inr (hrefused _)
        · rw [show CoreCommandKind.separate.isTransactional = false from rfl, Bool.and_false,
            if_neg Bool.false_ne_true]
          by_cases hselected : t.core.state = some .selected
          · exact Or.inl (closing_startSeparate hselected _ _)
          · rw [startSeparate_refused hselected]
            exact Or.inr (hrefused _)

/-- A Core that is not connected or is closing ignores every message. -/
theorem onMessage_ignored {message : ProtocolMessage} {now : MonoTime}
    (h : core.state = none ∨ core.closing = true) :
    (core.onMessage message now).core.closing = true ∨
      core.onMessage message now =
        Turn.start { core with notice := none, lastNow := some now } := by
  unfold onMessage
  rcases (Turn.start { core with notice := none }).acceptTime_cases now with ⟨-, heq⟩ | ⟨-, heq⟩
  · rw [heq]
    exact Or.inl (Turn.endGeneration_closing _ .runtimeInvariant)
  · rw [heq]
    refine Or.inr (if_pos ?_)
    show (core.state.isNone || core.closing) = true
    rcases h with h | h
    · rw [h]
      rfl
    · rw [h, Bool.or_true]

/-- A peer Separate leaves the Core closing or the slot alone. -/
theorem separate_message {sessionId : UInt16} {systemBytes : SystemBytes} {now : MonoTime}
    (hactive : core.activeTransaction = some transaction) (hlive : core.closing = false)
    (hnoDrain : core.deselectDrain = none) :
    (core.onMessage (.control (.separateRequest sessionId systemBytes)) now).core.closing = true ∨
      core.StillHolds input transaction
        (core.onMessage (.control (.separateRequest sessionId systemBytes)) now).actions
        (core.onMessage (.control (.separateRequest sessionId systemBytes)) now).core := by
  cases hstate : core.state with
  | none =>
    refine (onMessage_ignored (Or.inl hstate)).imp_right fun heq => ?_
    rw [heq]
    exact stillHolds_of_same hactive rfl fun _ _ _ => List.not_mem_nil
  | some state =>
    rcases onMessage_cases (by rw [hstate]; rfl) hlive with hclosing | ⟨-, -, _, _, heq⟩
    · exact Or.inl hclosing
    · rw [heq]
      dsimp only [receive]
      by_cases hselected : core.state = some .selected
      · rw [progressDeselect_of_closing (closing_receiveSeparate hselected)]
        exact Or.inl (closing_receiveSeparate hselected)
      · rw [receiveSeparate_ignored hselected, progressDeselect_of_noDrain hnoDrain]
        exact Or.inr (stillHolds_of_same hactive rfl fun _ _ _ => List.not_mem_nil)

/-- The end of a shutdown drain leaves the Core closing. -/
theorem closing_finishShutdownDrain (reason : GenerationCloseReason) (now : MonoTime) :
    (core.finishShutdownDrain reason now).core.closing = true := by
  unfold finishShutdownDrain
  split
  · exact closing_onShutdown _ _ _
  · rename_i hselected
    simp only [not_or, not_not] at hselected
    rcases (Turn.start core).acceptTime_cases now with ⟨-, heq⟩ | ⟨-, heq⟩
    · rw [heq]
      exact Turn.endGeneration_closing _ .runtimeInvariant
    · rw [heq]
      exact closing_startSeparate hselected.1 _ _

/-- A waiting drain and a taken slot exclude each other. -/
theorem noDrain_of_active (hc : Coherent none core)
    (hactive : core.activeTransaction = some transaction) : core.deselectDrain = none := by
  cases hdrain : core.deselectDrain with
  | none => rfl
  | some drain =>
    rw [(hc.drain_alone (hc.live_of_active hactive) (by rw [hdrain]; rfl)).1] at hactive
    cases hactive

/-- A round that a Separate begins leaves the Core closing or the slot alone. -/
theorem separate_handle (hc : Coherent none core)
    (hactive : core.activeTransaction = some transaction) (h : input.isSeparate = true) :
    (core.handle input).core.closing = true ∨
      core.StillHolds input transaction (core.handle input).actions (core.handle input).core := by
  cases input with
  | command command now =>
    obtain ⟨c, kind⟩ := command
    cases kind with
    | separate => exact separate_command hc hactive
    | deselect | select | linktest | send | request => cases h
  | message message now =>
    cases message with
    | data message => cases h
    | control message =>
      cases message with
      | separateRequest sessionId systemBytes =>
        exact separate_message hactive (hc.live_of_active hactive) (noDrain_of_active hc hactive)
      | selectRequest | selectResponse | deselectRequest | deselectResponse | linktestRequest
      | linktestResponse | rejectRequest => cases h
  | finishShutdownDrain reason now => exact Or.inl (closing_finishShutdownDrain reason now)
  | connected | inboundViolation | reply | writeOutcome | shutdown | advanceTime | finalizeWriter =>
    cases h

/-- **Why a round ends a transaction that it found in the slot.** -/
theorem control_handle (hc : Coherent none core)
    (hactive : core.activeTransaction = some transaction) :
    (core.handle input).core.closing = true ∨ core.Retires input transaction ∨
      core.StillHolds input transaction (core.handle input).actions (core.handle input).core := by
  cases hseparate : input.isSeparate with
  | true => exact (separate_handle hc hactive hseparate).imp_right Or.inr
  | false =>
    cases hfailure : input.isFailure with
    | true => exact Or.inl (closing_of_failure hfailure)
    | false => exact stillHolds_handle hc hactive hseparate hfailure

end SessionCore

/-! ## Responses that match nothing -/

/-- The Reject by which the Core answers a control response that matches no open transaction: the
SType of the response with its session id and System Bytes. -/
def ControlMessage.notOpenReject : ControlMessage → Option ControlMessage
  | .selectResponse sessionId _ systemBytes =>
    some (.rejectRequest sessionId 2 .transactionNotOpen systemBytes)
  | .deselectResponse sessionId _ systemBytes =>
    some (.rejectRequest sessionId 4 .transactionNotOpen systemBytes)
  | .linktestResponse systemBytes =>
    some (.rejectRequest controlSessionId 6 .transactionNotOpen systemBytes)
  | .selectRequest .. | .deselectRequest .. | .linktestRequest _ | .rejectRequest ..
  | .separateRequest .. => none

namespace SessionCore

variable {core : SessionCore}

theorem receive_unmatched {t : Turn} {message reject : ControlMessage} {now : MonoTime}
    (hreject : message.notOpenReject = some reject)
    (hunmatched : ∀ transaction, t.core.activeTransaction = some transaction →
      ¬ message.Answers transaction) :
    receive t (.control message) now = t.sendResponse reject := by
  cases message with
  | selectResponse sessionId status systemBytes =>
    obtain rfl := Option.some.inj hreject
    dsimp only [receive, Turn.receiveSelectResponse]
    cases hactive : t.core.activeTransaction with
    | none => rfl
    | some transaction =>
      refine if_pos ?_
      by_contra hmatch
      simp only [not_or, not_not] at hmatch
      exact hunmatched transaction hactive hmatch
  | linktestResponse systemBytes =>
    obtain rfl := Option.some.inj hreject
    dsimp only [receive, Turn.receiveLinktestResponse]
    cases hactive : t.core.activeTransaction with
    | none => rfl
    | some transaction =>
      refine if_pos ?_
      by_contra hmatch
      simp only [not_or, not_not] at hmatch
      exact hunmatched transaction hactive hmatch
  | deselectResponse sessionId status systemBytes =>
    obtain rfl := Option.some.inj hreject
    dsimp only [receive, Turn.receiveDeselectResponse]
    split
    · rfl
    · rename_i transaction hmatch
      obtain ⟨hactive, hmatch⟩ := Option.filter_eq_some_iff.mp hmatch
      exact absurd (of_decide_eq_true hmatch) (hunmatched transaction hactive)
  | selectRequest | deselectRequest | linktestRequest | rejectRequest | separateRequest =>
    cases hreject

/-- At `now` every control response that does not match leaves the slot alone and is answered by
exactly one transaction-not-open Reject, unless a WriteId or the time runs out. -/
def RejectsOthers (core : SessionCore) (now : MonoTime) : Prop :=
  ∀ (message reject : ControlMessage) (w : WriteId), message.notOpenReject = some reject →
    (∀ transaction, core.activeTransaction = some transaction → ¬ message.Answers transaction) →
    core.nextWriteId = some w.raw → core.ActivityFits now →
    (core.handle (.message (.control message) now)).core.activeTransaction =
        core.activeTransaction ∧
      (core.handle (.message (.control message) now)).actions = [.sendFrame w (.control reject)]

theorem rejectsOthers {now : MonoTime} (hstate : core.state.isSome = true)
    (hlive : core.closing = false) (hnoDrain : core.deselectDrain = none)
    (haccepts : core.AcceptsTime now) : core.RejectsOthers now := by
  intro message reject w hreject hunmatched hnext hfits
  obtain ⟨lastActivity, idleDeadline, heq⟩ : ∃ lastActivity idleDeadline,
      core.onMessage (.control message) now = _ := onMessage_eq hstate hlive haccepts hfits
  have hreceive : receive (Turn.start (core.observed now lastActivity idleDeadline))
      (.control message) now =
        (Turn.start (core.observed now lastActivity idleDeadline)).sendResponse reject :=
    receive_unmatched hreject hunmatched
  show (core.onMessage (.control message) now).core.activeTransaction = _ ∧
    (core.onMessage (.control message) now).actions = _
  rw [heq, hreceive]
  unfold Turn.sendResponse allocateWriteId
  rw [show (Turn.start (core.observed now lastActivity idleDeadline)).core.nextWriteId =
    some w.raw from hnext]
  rw [progressDeselect_of_noDrain hnoDrain]
  exact ⟨rfl, rfl⟩

end SessionCore

/-! ## One procedure at a time -/

/-- What a Core does with its one control slot.  The clauses are those that hold in every
reachable state, so that they can be used one by one. -/
structure OneProcedure (core : SessionCore) : Prop where
  exclusive : ¬ (core.activeTransaction.isSome = true ∧ core.deselectDrain.isSome = true)
  -- a request is only sent into an empty slot, which its transaction then takes
  requests : ∀ input, controlRequests (core.handle input).actions = [] ∨
    core.activeTransaction = none ∧ ∃ transaction : ControlTransaction,
      controlRequests (core.handle input).actions =
          [Turn.requestMessage transaction.kind transaction.systemBytes] ∧
        ((core.handle input).core.closing = true ∨
          (core.handle input).core.control = some transaction.identity)
  -- a transaction ends for a reason, and its command completes with it
  retirement : ∀ input transaction, core.activeTransaction = some transaction →
    (core.handle input).core.closing = true ∨ core.Retires input transaction ∨
      core.StillHolds input transaction (core.handle input).actions (core.handle input).core
  others : core.state.isSome = true → core.closing = false → core.deselectDrain = none →
    ∀ now, core.AcceptsTime now → core.RejectsOthers now

/-- **At most one local control procedure exists at a time**, in every state that a run reaches. -/
theorem one_control_procedure_at_a_time (config : SessionCoreConfig) (nextWriteId : Option UInt64)
    (nextSystemBytes : Option UInt32) (inputs : List Input) :
    OneProcedure
      (machine.after (SessionCore.initial config nextWriteId nextSystemBytes) inputs) := by
  have hc := coherent_run config nextWriteId nextSystemBytes inputs
  refine ⟨fun ⟨hactive, hdrain⟩ => ?_, fun input => (exclusive_handle hc).requests,
    fun input transaction hactive => control_handle hc hactive,
    fun hstate hlive hnoDrain now haccepts => rejectsOthers hstate hlive hnoDrain haccepts⟩
  obtain ⟨transaction, htransaction⟩ := Option.isSome_iff_exists.mp hactive
  rw [noDrain_of_active hc htransaction] at hdrain
  cases hdrain

/-- A stray Linktest.rsp whose time regresses is not rejected: it closes the generation. -/
theorem regressing_response_is_not_rejected :
    let core := machine.after (SessionCore.new Scenario.config)
      (Scenario.selected ++ [.advanceTime ⟨.ofSecs 1⟩])
    core.state = some .selected ∧ core.closing = false ∧ core.deselectDrain = none ∧
      ¬ core.RejectsOthers .zero := by
  refine ⟨by decide, by decide, by decide, fun h => ?_⟩
  have hrejected := h (.linktestResponse ⟨5⟩) _ ⟨1⟩ rfl nofun (by decide)
      (fun interval hinterval => by
    obtain rfl := Option.some.inj hinterval
    decide)
  have hframes := congrArg (fun actions => (framesOf actions).length) hrejected.2
  revert hframes
  decide

end Hsms
end SecsRust

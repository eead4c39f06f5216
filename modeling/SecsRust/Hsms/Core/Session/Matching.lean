import Mathlib.Data.List.DropRight
import SecsRust.Hsms.Core.Session.Selection

/-!
# Requests and their responses

A Request that the Core has sent lives in `data_transactions` until something retires it: a
matching Secondary, an F0 abort, a Reject, or T3.  What retires it also writes its contract
to the tombstones, so that a late answer is recognised as late.  `RequestStep` says this of
one effect, and that nothing else completes a Request with a verdict of the peer: the errors
that a close parks behind unresolved writes are never such verdicts (`SessionCore.Parked`).

## What a live Request stands for

The labelled history says which frame a live Request stands for.  `requestOf` reads off it
the last request frame that a command has emitted, and `retired` the contracts of the
Requests retired so far, in order.  `Matched` ties both to the tables of the Core: each live
Request is that of such a frame, under its System Bytes, and the tombstones are the last
contracts retired, as many as the bound admits.

## One inbound message

The matching of one inbound Data message is then read off `receive_data`.  A message with an
even function completes the one Request that it responds to, with the content or the abort
that it carries, or it changes nothing and leaves a notice that depends on the tombstones
(`DataOutcome`, `SessionCore.strayNotice`).  A message with an odd function is never a
response.  `responses_match_requests` states this against the frame that was actually
emitted, which is what makes it a statement about the exchange and not about a table.
-/

namespace SecsRust
namespace Hsms

open Std Secs2 SessionCore

/-! ## Results that retire a Request -/

/-- The result answers a Request: with the content of a Secondary or with the abort of the peer. -/
def CoreCommandResult.isResponse : CoreCommandResult → Bool
  | .request (.ok _) | .request (.error (.protocol .transactionAborted)) => true
  | .requestTimedOut _ | .request (.error _) | .control _ | .send _ => false

/-- The result retires a Request: a response, a Reject or T3. -/
def CoreCommandResult.retires : CoreCommandResult → Bool
  | .requestTimedOut _ | .request (.ok _) => true
  | .request (.error error) => error.isPeerVerdict
  | .control _ | .send _ => false

/-- The command whose Request an action retires. -/
def CoreAction.retired : CoreAction → Option CommandId
  | completeCommand c result => if result.retires then some c else none
  | sendFrame .. | sessionStateChanged _ | deliverPrimary .. | closeGeneration .. => none

/-- The action completes a command with a response. -/
def CoreAction.isResponse : CoreAction → Bool
  | completeCommand _ result => result.isResponse
  | sendFrame .. | sessionStateChanged _ | deliverPrimary .. | closeGeneration .. => false

theorem CoreCommandResult.retires_of_isResponse {result : CoreCommandResult}
    (h : result.isResponse = true) : result.retires = true := by
  unfold CoreCommandResult.isResponse at h
  split at h
  · rfl
  · rfl
  all_goals cases h

theorem CoreAction.isResponse_of_retired {action : CoreAction} (h : action.retired = none) :
    action.isResponse = false := by
  cases action with
  | completeCommand c result =>
    cases hresponse : result.isResponse with
    | false => exact hresponse
    | true =>
      rw [CoreAction.retired, if_pos (CoreCommandResult.retires_of_isResponse hresponse)] at h
      cases h
  | sendFrame | sessionStateChanged | deliverPrimary | closeGeneration => rfl

theorem OpenCommandKind.retires_errorResult {kind : OpenCommandKind} {error : OperationError}
    (h : error.isPeerVerdict = false) : (kind.errorResult error).retires = false := by
  cases kind with
  | request => exact h
  | control | send => rfl

/-- What retires a live Request completes it with a retiring result. -/
theorem RequestCause.retires {input : Input} {sb : SystemBytes} {transaction : DataTransaction}
    {result : CoreCommandResult} (h : RequestCause input sb transaction result) :
    result.retires = true := by
  cases h <;> rfl

/-! ## Parked errors -/

/-- The errors parked behind unresolved writes are not verdicts of the peer. -/
def SessionCore.Parked (core : SessionCore) : Prop :=
  ∀ (c : CommandId) error, core.deferredErrors[c]? = some error → error.isPeerVerdict = false

section

variable {core after : SessionCore}

theorem SessionCore.Parked.detach (h : core.Parked) (c : CommandId) : (core.detach c).Parked := by
  intro c' error herror
  rw [getElem?_deferredErrors_detach] at herror
  split at herror
  · cases herror
  · exact h c' error herror

theorem SessionCore.Parked.release (h : core.Parked) (c : Option CommandId) :
    (core.release c).Parked := by
  cases c with
  | none => exact h
  | some c => exact h.detach c

/-- Parking one more error of the Core. -/
theorem SessionCore.Parked.park (h : core.Parked) {own error : OperationError} {c : CommandId}
    (hown : own.isPeerVerdict = false)
    (herror : core.deferredErrors[c]?.getD own = error) : error.isPeerVerdict = false := by
  cases hbefore : core.deferredErrors[c]? with
  | none => rw [← herror, hbefore]; exact hown
  | some before => rw [← herror, hbefore]; exact h c before hbefore

theorem SessionCore.Parked.completed (h : core.Parked) {own : OperationError}
    {ids : List CommandId} (hown : own.isPeerVerdict = false)
    (hdone : core.Completed after own ids) : after.Parked := by
  intro c error herror
  rw [hdone.deferredErrors] at herror
  split at herror
  · split at herror
    · exact h.park hown (Option.some.inj herror)
    · cases herror
  · exact h c error herror

theorem SessionCore.Parked.ended (h : core.Parked) (hdone : core.Ended after) : after.Parked := by
  intro c error herror
  rw [hdone.deferredErrors] at herror
  split at herror
  · split at herror
    · exact h.park rfl (Option.some.inj herror)
    · cases herror
  · exact h c error herror

theorem SessionCore.Parked.separated (h : core.Parked) (hdone : core.Separated after) :
    after.Parked := by
  intro c error herror
  rw [hdone.deferredErrors] at herror
  split at herror
  · split at herror
    · exact h.park rfl (Option.some.inj herror)
    · cases herror
  · exact h c error herror

theorem SessionCore.Parked.abandoned (h : core.Parked) (hdone : core.Abandoned after) :
    after.Parked := by
  intro c error herror
  rw [hdone.deferredErrors] at herror
  split at herror
  · cases herror
  · exact h c error herror

end

/-- Every effect keeps the parked errors apart from the verdicts of the peer. -/
theorem Effect.parked {origin : SessionCore} {input : Input} {stage stage' : Stage}
    {actions : List CoreAction} (he : Effect origin input stage actions stage')
    (h : stage.core.Parked) : stage'.core.Parked := by
  cases he with
  | @ended s pre s' _ _ _ reason frame _ _ done =>
    have hpre : pre.Parked := by
      rw [frame]
      exact h
    exact hpre.ended done
  | @lostWrite s pre s' _ _ _ _ _ _ reason _ _ _ frame done =>
    have hpre : pre.Parked := by
      rw [frame]
      exact h
    exact hpre.ended done
  | @admissionClosed s s' _ _ _ _ _ done =>
    have hpre : { s with activeTransaction := none, dataTransactions := ∅ }.Parked := h
    have hafter : s'.Parked := hpre.completed rfl done
    exact hafter
  | abandonWrites _ _ done => exact h.abandoned done
  | @loseCommands s s' _ _ _ _ done =>
    have hpre : { s with activeTransaction := none, dataTransactions := ∅ }.Parked := h
    exact hpre.completed rfl done
  | @separate s s' _ _ _ _ _ _ _ _ _ _ _ done =>
    have hafter : s'.Parked := SessionCore.Parked.separated h done
    exact hafter
  | peerSeparate _ _ _ _ done => exact h.separated done
  | lateControl _ _ _ _ | refuse _ _ _ | endDrain _ _ _ | retireRequest _ _ _
  | rejectSend _ _ _ _ _ _ | spendContract _ _ _ _ _ _ | commitCommand _ _ _ _ =>
    exact SessionCore.Parked.detach h _
  | retireControl _ _ _ => exact SessionCore.Parked.release h _
  | @failWrite s _ w write _ _ _ _ =>
    have hpre : ((s.eraseWrite w).removeTransactionForWrite w write.kind).Parked := by
      rw [removeTransactionForWrite_frame]
      exact h
    exact hpre.release _
  | tick _ | observe _ _ _ | lateAnnounce _ | connect _ _ _ _ _ | selected _ _ _
  | deselected _ _ _ _ _ _ | respond _ _ _ _ _ _ | startDrain _ _ _ _ _ _ _
  | startControl _ _ _ _ _ _ _ _ _ _ | startDeselection _ _ _ _ _ | sendRequest _ _ _ _ _ _ _ _ _
  | sendPrimary _ _ _ _ _ _ _ _ _ | deliver _ _ _ _ _ _ _ _ _ | deliverOneWay _ _ _ _ _ _
  | sendReply _ _ _ _ _ _ _ | commitControl _ _ _ _ _ | commitRequest _ _ _ _ _
  | commitSilently _ _ _ => exact h

/-! ## The history of the Requests -/

/-- The contract of a request frame of ours. -/
def DataMessage.contract (frame : DataMessage) : ResponseContract :=
  .forRequest frame.header.sessionId frame.header.systemBytes frame.header.stream
    frame.header.function

/-- The frame by which a command starts its Request. -/
def requestFrame : Input × CoreAction → Option (CommandId × WriteId × DataMessage)
  | (.command ⟨c, .request _⟩ _, .sendFrame w (.data frame)) => some (c, w, frame)
  | _ => none

/-- The last Request that a command has started, with its write and its frame. -/
def requestOf (past : List (Input × CoreAction)) (c : CommandId) : Option (WriteId × DataMessage) :=
  (past.filterMap requestFrame).reverse.lookup c

/-- The contract that an emission retires. -/
def retirement (past : List (Input × CoreAction)) (emission : Input × CoreAction) :
    Option ResponseContract :=
  emission.2.retired.bind fun c => (requestOf past c).map fun request => request.2.contract

/-- The contracts retired by some emissions that follow `past`, in order. -/
def retiredAfter (past : List (Input × CoreAction)) :
    List (Input × CoreAction) → List ResponseContract
  | [] => []
  | emission :: rest =>
    (retirement past emission).toList ++ retiredAfter (past ++ [emission]) rest

/-- The contracts of the Requests retired during a history, in order. -/
def retired (past : List (Input × CoreAction)) : List ResponseContract := retiredAfter [] past

section

variable {past : List (Input × CoreAction)} {input : Input} {actions : List CoreAction}

theorem retiredAfter_append (emissions more : List (Input × CoreAction)) :
    retiredAfter past (emissions ++ more) =
      retiredAfter past emissions ++ retiredAfter (past ++ emissions) more := by
  induction emissions generalizing past with
  | nil => rw [List.append_nil]; rfl
  | cons emission rest ih =>
    rw [List.cons_append, retiredAfter, ih, retiredAfter, List.append_assoc, List.append_assoc]
    rfl

theorem retired_append (more : List (Input × CoreAction)) :
    retired (past ++ more) = retired past ++ retiredAfter past more :=
  retiredAfter_append past more

theorem requestOf_append_silent (h : ∀ a ∈ actions, requestFrame (input, a) = none)
    (c : CommandId) : requestOf (past ++ actions.map fun a => (input, a)) c = requestOf past c := by
  have hnone : (actions.map fun a => (input, a)).filterMap requestFrame = [] := by
    refine List.filterMap_eq_nil_iff.mpr fun emission hmem => ?_
    obtain ⟨a, ha, rfl⟩ := List.mem_map.mp hmem
    exact h a ha
  rw [requestOf, List.filterMap_append, hnone, List.append_nil, requestOf]

theorem requestOf_append_frame {emission : Input × CoreAction} {c : CommandId} {w : WriteId}
    {frame : DataMessage} (h : requestFrame emission = some (c, w, frame)) (c' : CommandId) :
    requestOf (past ++ [emission]) c' =
      if c' = c then some (w, frame) else requestOf past c' := by
  have hone : [emission].filterMap requestFrame = [(c, w, frame)] := by
    rw [List.filterMap_cons, h]
    rfl
  rw [requestOf, List.filterMap_append, hone, List.reverse_append, List.reverse_singleton,
    List.singleton_append, List.lookup_cons, requestOf]
  by_cases hc : c' = c
  · rw [if_pos hc, hc, beq_self_eq_true]
  · rw [if_neg hc, beq_eq_false_iff_ne.mpr hc]

theorem retiredAfter_silent (h : ∀ a ∈ actions, a.retired = none) :
    retiredAfter past (actions.map fun a => (input, a)) = [] := by
  induction actions generalizing past with
  | nil => rfl
  | cons a rest ih =>
    have hnone : retirement past (input, a) = none := by
      rw [retirement, h a List.mem_cons_self]
      rfl
    rw [List.map_cons, retiredAfter, hnone, ih fun b hb => h b (List.mem_cons_of_mem _ hb)]
    rfl

end

/-! ## What one effect does to the Requests -/

/-- The transaction is one of `before`, its timer apart. -/
def SessionCore.Inherits (before after : SessionCore) : Prop :=
  ∀ (sb : SystemBytes) transaction, after.dataTransactions[sb]? = some transaction →
    ∃ old, before.dataTransactions[sb]? = some old ∧ transaction.commandId = old.commandId ∧
      transaction.writeId = old.writeId ∧ transaction.responseContract = old.responseContract

/-- The ways in which an effect treats the live Requests and the tombstones.  A Request is opened
by its frame, gets its deadline by the commit, and is retired into the tombstones or dropped. -/
inductive RequestStep (input : Input) (before after : SessionCore) (actions : List CoreAction) :
    Prop where
  | keeps (inherits : before.Inherits after) (tombstones : after.tombstones = before.tombstones)
      (kept : ∀ a ∈ actions, a.retired = none)
      (silent : ∀ a ∈ actions, requestFrame (input, a) = none)
  | starts {c : CommandId} {w : WriteId} {sb : SystemBytes} {primary : PrimaryMessage}
      {now : MonoTime} {frame : DataMessage} (received : input = .command ⟨c, .request primary⟩ now)
      (actions : actions = [.sendFrame w (.data frame)])
      (header : frame.header = ⟨before.config.sessionId, primary.stream, primary.function, true,
        sb⟩)
      (odd : primary.function.raw % 2 = 1)
      (vacant : ∀ (sb : SystemBytes) transaction, before.dataTransactions[sb]? = some transaction →
        transaction.commandId ≠ c)
      (transactions : after.dataTransactions =
        before.dataTransactions.insert sb ⟨c, w, frame.contract, none⟩)
      (tombstones : after.tombstones = before.tombstones)
  | retires {sb : SystemBytes} {transaction : DataTransaction} {result : CoreCommandResult}
      (pending : before.dataTransactions[sb]? = some transaction)
      (cause : RequestCause input sb transaction result)
      (actions : actions = [.completeCommand transaction.commandId result])
      (transactions : after.dataTransactions = before.dataTransactions.erase sb)
      (tombstones : after.tombstones = before.tombstones.insert transaction.responseContract)

section

variable {input : Input} {before after : SessionCore} {actions : List CoreAction}

theorem SessionCore.Inherits.of_eq (h : after.dataTransactions = before.dataTransactions) :
    before.Inherits after := by
  intro sb transaction hlive
  rw [h] at hlive
  exact ⟨transaction, hlive, rfl, rfl, rfl⟩

theorem SessionCore.Inherits.of_empty (h : after.dataTransactions = ∅) : before.Inherits after := by
  intro sb transaction hlive
  rw [h] at hlive
  exact absurd hlive TreeMap.getElem?_empty_ne

/-- A frame that no Request sends starts none. -/
theorem requestFrame_of_input {a : CoreAction}
    (h : ∀ c primary now, input ≠ .command ⟨c, .request primary⟩ now) :
    requestFrame (input, a) = none := by
  unfold requestFrame
  split
  · rename_i heq
    exact absurd (congrArg Prod.fst heq) (h _ _ _)
  · rfl

theorem requestFrame_of_isData {a : CoreAction} (h : a.isData = false) :
    requestFrame (input, a) = none := by
  unfold requestFrame
  split
  · rename_i heq
    obtain ⟨-, rfl⟩ := Prod.mk.inj heq
    cases h
  · rfl

/-- Completions with errors of the Core retire nothing. -/
theorem retired_completion {core : SessionCore} {error : OperationError} {c : CommandId}
    {a : CoreAction} (hours : error.isPeerVerdict = false) (h : core.completion error c = some a) :
    a.retired = none := by
  unfold completion at h
  split at h
  · cases h
  · obtain ⟨kind, -, rfl⟩ := Option.map_eq_some_iff.mp h
    rw [CoreAction.retired, OpenCommandKind.retires_errorResult hours, if_neg Bool.false_ne_true]

theorem retired_of_mem_loss {core : SessionCore} {a : CoreAction} (h : a ∈ core.lossCompletions) :
    a.retired = none := by
  obtain ⟨c, -, hc⟩ := List.mem_filterMap.mp h
  exact retired_completion rfl hc

theorem retired_of_mem_end {core : SessionCore} {reason : GenerationCloseReason} {a : CoreAction}
    (h : a ∈ core.endActions reason) : a.retired = none := by
  rcases List.mem_append.mp h with h | h
  · exact retired_of_mem_loss h
  · split at h
    · cases h
    · rw [List.mem_singleton.mp h]
      rfl

theorem retired_of_mem_separate {core : SessionCore} {a : CoreAction}
    (h : a ∈ core.separateCompletions) : a.retired = none := by
  obtain ⟨c, -, hc⟩ := List.mem_filterMap.mp h
  exact retired_completion rfl hc

theorem retired_of_mem_abandonments {core : SessionCore} {a : CoreAction}
    (h : a ∈ core.abandonments) : a.retired = none := by
  obtain ⟨write, -, hwrite⟩ := List.mem_filterMap.mp h
  obtain ⟨c, -, hc⟩ := Option.bind_eq_some_iff.mp hwrite
  obtain ⟨kind, -, rfl⟩ := Option.map_eq_some_iff.mp hc
  rw [CoreAction.retired, OpenCommandKind.retires_errorResult rfl, if_neg Bool.false_ne_true]

theorem retired_of_mem_control {c : Option CommandId} {result : Except OperationError Unit}
    {a : CoreAction} (h : a ∈ controlCompletion c result) : a.retired = none := by
  cases c with
  | none => cases h
  | some c => rw [List.mem_singleton.mp h]; rfl

/-- An effect whose completions are no verdicts and which carries no Data message. -/
theorem RequestStep.of_silent (hinherits : before.Inherits after)
    (htombstones : after.tombstones = before.tombstones) (hkept : ∀ a ∈ actions, a.retired = none)
    (hsilent : ∀ a ∈ actions, a.isData = false) : RequestStep input before after actions :=
  .keeps hinherits htombstones hkept fun a ha => requestFrame_of_isData (hsilent a ha)

/-- The Primary of a Request that a round starts with. -/
def Input.askedPrimary : Input → Option PrimaryMessage
  | .command ⟨_, .request primary⟩ _ => some primary
  | _ => none

/-- An effect that leaves the Requests alone and emits one action that is no completion, in a round
that starts no Request. -/
theorem RequestStep.of_frame {a : CoreAction}
    (htransactions : after.dataTransactions = before.dataTransactions)
    (htombstones : after.tombstones = before.tombstones) (hactions : actions = [a])
    (hkept : a.retired = none)
    (hinput : ∀ c primary now, input ≠ .command ⟨c, .request primary⟩ now) :
    RequestStep input before after actions := by
  subst hactions
  refine .keeps (.of_eq htransactions) htombstones (fun b hb => ?_) fun b _ =>
    requestFrame_of_input hinput
  rw [List.mem_singleton.mp hb]
  exact hkept

/-- The result of a committed write is no verdict of the peer. -/
theorem CommitCause.retires {core : SessionCore} {w : WriteId} {write : PendingWrite}
    {c : CommandId}
    {result : CoreCommandResult} (h : CommitCause core w write c result) (hparked : core.Parked) :
    result.retires = false := by
  cases h with
  | send _ | separate _ => rfl
  | released _ _ deferred => exact OpenCommandKind.retires_errorResult (hparked _ _ deferred)

theorem SpendCause.retires {capability : ReplyCapabilityId} {header : DataHeader}
    {result : CoreCommandResult} (h : SpendCause input capability header result) :
    result.retires = false := by
  cases h <;> rfl

theorem FailureCause.ours {w : WriteId} {error : OperationError} (h : FailureCause input w error) :
    error.isPeerVerdict = false := by
  cases h with
  | notWritten _ | indeterminate _ => rfl
  | notAdmitted _ ours => exact ours

/-- A failed write takes at most its own Request with it. -/
theorem inherits_removeTransactionForWrite (core : SessionCore) (w : WriteId)
    (kind : PendingWriteKind) : core.Inherits (core.removeTransactionForWrite w kind) := by
  cases kind with
  | dataRequest sb =>
    unfold removeTransactionForWrite
    dsimp only
    split
    · intro sb' transaction hlive
      rw [TreeMap.getElem?_erase] at hlive
      split at hlive
      · cases hlive
      · exact ⟨transaction, hlive, rfl, rfl, rfl⟩
    · exact .of_eq rfl
  | transactionRequest =>
    unfold removeTransactionForWrite
    dsimp only
    split <;> exact .of_eq rfl
  | dataSend _ | response | separate => exact .of_eq rfl

end

/-- **What one effect does to the Requests.**  One case for each effect; most of them leave
Requests and tombstones alone. -/
theorem Effect.requestStep {origin : SessionCore} {input : Input} {stage stage' : Stage}
    {actions : List CoreAction} (he : Effect origin input stage actions stage')
    (h : stage.core.Parked) (hc : Coherent stage.fresh stage.core) :
    RequestStep input stage.core stage'.core actions := by
  have hone : ∀ {a b : CoreAction}, a.retired = none → b ∈ [a] → b.retired = none := by
    intro a b ha hb
    rwa [List.mem_singleton.mp hb]
  have hother : input.askedPrimary = none →
      ∀ c primary now, input ≠ .command ⟨c, .request primary⟩ now := by
    rintro hnone c primary now rfl
    cases hnone
  cases he with
  | @ended s pre s' _ _ _ reason frame _ _ done =>
    have hend : s'.dataTransactions = ∅ := by rw [done.frame]
    have hsame : s'.tombstones = s.tombstones := by rw [done.frame, frame]
    exact .of_silent (.of_empty hend) hsame (fun a ha => retired_of_mem_end ha)
      fun a ha => isData_of_mem_end ha
  | @lostWrite s pre s' _ _ _ _ _ _ reason _ _ _ frame done =>
    have hend : s'.dataTransactions = ∅ := by rw [done.frame]
    have hsame : s'.tombstones = s.tombstones := by
      rw [done.frame, frame]
      rfl
    exact .of_silent (.of_empty hend) hsame (fun a ha => retired_of_mem_end ha)
      fun a ha => isData_of_mem_end ha
  | @admissionClosed s s' _ reason _ _ _ done =>
    have hend : s'.dataTransactions = ∅ := by rw [done.frame]
    have hsame : s'.tombstones = s.tombstones := by rw [done.frame]
    refine .of_silent (.of_empty hend) hsame (fun a ha => ?_) fun a ha => ?_
    · rcases List.mem_append.mp ha with ha | ha
      · exact retired_of_mem_loss ha
      · exact hone rfl ha
    · rcases List.mem_append.mp ha with ha | ha
      · exact CoreAction.isData_of_isCompletion (isCompletion_of_mem_loss ha)
      · rw [List.mem_singleton.mp ha]
        rfl
  | abandonWrites _ _ done =>
    exact .of_silent (.of_eq (by rw [done.frame])) (by rw [done.frame])
      (fun a ha => retired_of_mem_abandonments ha)
      fun a ha => CoreAction.isData_of_isCompletion (isCompletion_of_mem_abandonments ha)
  | loseCommands _ _ done =>
    exact .of_silent (.of_empty (by rw [done.frame])) (by rw [done.frame])
      (fun a ha => retired_of_mem_loss ha)
      fun a ha => CoreAction.isData_of_isCompletion (isCompletion_of_mem_loss ha)
  | @separate s s' _ _ w sb reason _ _ _ _ _ _ done =>
    have hend : s'.dataTransactions = ∅ := by rw [done.frame]
    have hsame : s'.tombstones = s.tombstones := by rw [done.frame]
    refine .of_silent (.of_empty hend) hsame (fun a ha => ?_) fun a ha => ?_
    · rcases List.mem_append.mp ha with ha | ha
      · exact retired_of_mem_separate ha
      · simp only [List.mem_cons, List.not_mem_nil, or_false] at ha
        rcases ha with rfl | rfl | rfl <;> rfl
    · rcases List.mem_append.mp ha with ha | ha
      · exact CoreAction.isData_of_isCompletion (isCompletion_of_mem_separate ha)
      · simp only [List.mem_cons, List.not_mem_nil, or_false] at ha
        rcases ha with rfl | rfl | rfl <;> rfl
  | @peerSeparate s s' _ _ _ _ _ done =>
    have hend : s'.dataTransactions = ∅ := by rw [done.frame]
    have hsame : s'.tombstones = s.tombstones := by rw [done.frame]
    refine .of_silent (.of_empty hend) hsame (fun a ha => ?_) fun a ha => ?_
    · rcases List.mem_append.mp ha with ha | ha
      · exact retired_of_mem_separate ha
      · rcases List.mem_pair.mp ha with rfl | rfl <;> rfl
    · rcases List.mem_append.mp ha with ha | ha
      · exact CoreAction.isData_of_isCompletion (isCompletion_of_mem_separate ha)
      · rcases List.mem_pair.mp ha with rfl | rfl <;> rfl
  | retireControl _ _ _ =>
    dsimp only
    rw [release_frame]
    exact .of_silent (.of_eq rfl) rfl (fun a ha => retired_of_mem_control ha)
      fun a ha => CoreAction.isData_of_isCompletion (isCompletion_of_mem_control ha)
  | @failWrite s _ w write error pending cause _ =>
    have hinherits := inherits_removeTransactionForWrite (s.eraseWrite w) w write.kind
    refine .of_silent ?_ ?_ (fun a ha => ?_) fun a ha => ?_
    · rw [release_frame]
      exact hinherits
    · rw [release_frame, removeTransactionForWrite_frame]
      rfl
    · obtain ⟨c, -, hc⟩ := List.mem_filterMap.mp ha
      obtain ⟨kind, -, rfl⟩ := Option.map_eq_some_iff.mp hc
      rw [CoreAction.retired, OpenCommandKind.retires_errorResult cause.ours,
        if_neg Bool.false_ne_true]
    · obtain ⟨c, -, hc⟩ := List.mem_filterMap.mp ha
      obtain ⟨kind, -, rfl⟩ := Option.map_eq_some_iff.mp hc
      rfl
  | refuse error _ ours =>
    refine .of_silent (.of_eq rfl) rfl (fun a ha => hone ?_ ha) (by simp [CoreAction.isData])
    rw [CoreAction.retired, OpenCommandKind.retires_errorResult ours, if_neg Bool.false_ne_true]
  | spendContract _ _ _ _ _ cause =>
    refine .of_silent (.of_eq rfl) rfl (fun a ha => hone ?_ ha) (by simp [CoreAction.isData])
    rw [CoreAction.retired, cause.retires, if_neg Bool.false_ne_true]
  | commitCommand _ _ _ cause =>
    refine .of_silent (.of_eq rfl) rfl (fun a ha => hone ?_ ha) (by simp [CoreAction.isData])
    rw [CoreAction.retired, cause.retires h, if_neg Bool.false_ne_true]
  | @commitRequest s _ w write sb transaction _ _ deadline _ _ live _ _ =>
    refine .of_silent (fun sb' found hfound => ?_) rfl (List.forall_mem_nil _)
      (List.forall_mem_nil _)
    have hentry : (s.dataTransactions.insert sb
        { transaction with deadline := some deadline })[sb']? = some found := hfound
    rw [TreeMap.getElem?_insert] at hentry
    split at hentry
    · rename_i heq
      subst heq
      obtain rfl := Option.some.inj hentry
      exact ⟨transaction, live, rfl, rfl, rfl⟩
    · exact ⟨found, hentry, rfl, rfl, rfl⟩
  | sendRequest primary received _ _ _ _ _ odd _ =>
    exact .starts received rfl rfl odd (hc.fresh_unreferenced _ rfl).request rfl rfl
  | retireRequest _ pending cause => exact .retires pending cause rfl rfl rfl
  | sendPrimary _ received _ _ _ _ _ _ _ =>
    exact .of_frame rfl rfl rfl rfl (hother (by rw [received]; rfl))
  | sendReply _ _ _ _ _ _ cause =>
    obtain ⟨c, intent, body, now, hinput, -⟩ := cause.answers
    exact .of_frame rfl rfl rfl rfl (hother (by rw [hinput]; rfl))
  | deliver received _ _ _ _ _ _ _ _ | deliverOneWay received _ _ _ _ _ =>
    exact .of_frame rfl rfl rfl rfl (hother (by rw [received]; rfl))
  | lateAnnounce _ | lateControl _ _ _ _ | connect _ _ _ _ _ | selected _ _ _ | endDrain _ _ _
  | rejectSend _ _ _ _ _ _ | respond _ _ _ _ _ _ | deselected _ _ _ _ _ _
  | startControl _ _ _ _ _ _ _ _ _ _ | startDeselection _ _ _ _ _ =>
    exact .of_silent (.of_eq rfl) rfl (fun a ha => hone rfl ha) (by simp [CoreAction.isData])
  | tick _ | observe _ _ _ | startDrain _ _ _ _ _ _ _ | commitControl _ _ _ _ _
  | commitSilently _ _ _ =>
    exact .of_silent (.of_eq rfl) rfl (List.forall_mem_nil _) (List.forall_mem_nil _)

/-! ## What the history says about the Requests -/

/-- **What the live Requests and the tombstones stand for**, after a history of emissions.  Each
of them stands for one Request frame of the history, and the tombstones are those that were
retired last. -/
structure Matched (past : List (Input × CoreAction)) (core : SessionCore) : Prop where
  parked : core.Parked
  asked : ∀ (sb : SystemBytes) transaction, core.dataTransactions[sb]? = some transaction →
    ∃ frame, requestOf past transaction.commandId = some (transaction.writeId, frame) ∧
      transaction.responseContract = frame.contract ∧ frame.header.systemBytes = sb ∧
      frame.header.replyExpected = true ∧ frame.header.function.raw % 2 = 1
  buried : core.tombstones.entries = (retired past).rtake core.tombstones.capacity

/-- The newest contract goes to the end of the FIFO and the oldest of a full one is dropped. -/
theorem TransactionTombstones.entries_insert {tombstones : TransactionTombstones}
    {contract : ResponseContract} {contracts : List ResponseContract}
    (h : tombstones.entries = contracts.rtake tombstones.capacity) :
    (tombstones.insert contract).entries =
      (contracts ++ [contract]).rtake (tombstones.insert contract).capacity := by
  have hlength : tombstones.entries.length = min tombstones.capacity contracts.length := by
    rw [h, List.rtake, List.length_drop]
    omega
  unfold TransactionTombstones.insert
  split
  · rename_i hzero
    rw [h, hzero, List.rtake_zero, List.rtake_zero]
  · split
    · rename_i hpos hfull
      have hdrop : contracts.length + 1 - tombstones.capacity =
          contracts.length - tombstones.capacity + 1 := by omega
      dsimp only
      rw [List.rtake, List.length_append, List.length_singleton,
        List.drop_append_of_le_length (by omega), hdrop, h, List.rtake, List.tail_drop]
    · rename_i hpos hroom
      have hall : contracts.length - tombstones.capacity = 0 := by omega
      have hmore : contracts.length + 1 - tombstones.capacity = 0 := by
        have hbound := tombstones.length_le
        omega
      dsimp only
      rw [List.rtake, List.length_append, List.length_singleton, hmore, List.drop_zero, h,
        List.rtake, hall, List.drop_zero]

section

variable {past : List (Input × CoreAction)} {input : Input} {before after : SessionCore}
  {actions : List CoreAction}

/-- One effect extends the history. -/
theorem Matched.step (h : Matched past before) (hparked : after.Parked)
    (hstep : RequestStep input before after actions) :
    Matched (past ++ actions.map fun a => (input, a)) after := by
  cases hstep with
  | keeps inherits tombstones kept silent =>
    refine ⟨hparked, fun sb transaction hlive => ?_, ?_⟩
    · obtain ⟨old, hold, hcommand, hwrite, hcontract⟩ := inherits sb transaction hlive
      rw [requestOf_append_silent silent, hcommand, hwrite, hcontract]
      exact h.asked sb old hold
    · rw [tombstones, retired_append, retiredAfter_silent kept, List.append_nil]
      exact h.buried
  | @starts c w sb primary now frame received hactions header odd vacant transactions tombstones =>
    subst hactions
    have hframe : requestFrame (input, .sendFrame w (.data frame)) = some (c, w, frame) := by
      rw [received]
      rfl
    refine ⟨hparked, fun sb' transaction hlive => ?_, ?_⟩
    · rw [transactions, TreeMap.getElem?_insert] at hlive
      rw [List.map_singleton, requestOf_append_frame hframe]
      split at hlive
      · rename_i heq
        subst heq
        obtain rfl := Option.some.inj hlive
        refine ⟨frame, if_pos rfl, rfl, ?_, ?_, ?_⟩
        all_goals rw [header]
        exact odd
      · rw [if_neg (vacant sb' transaction hlive)]
        exact h.asked sb' transaction hlive
    · rw [tombstones, retired_append, List.map_singleton]
      exact h.buried.trans (congrArg (List.rtake · _) (List.append_nil _).symm)
  | @retires sb transaction result pending cause hactions transactions tombstones =>
    subst hactions
    have hsilent : ∀ a ∈ [CoreAction.completeCommand transaction.commandId result],
        requestFrame (input, a) = none := by
      intro a ha
      rw [List.mem_singleton.mp ha]
      exact requestFrame_of_isData rfl
    refine ⟨hparked, fun sb' other hlive => ?_, ?_⟩
    · rw [transactions, TreeMap.getElem?_erase] at hlive
      rw [requestOf_append_silent hsilent]
      split at hlive
      · cases hlive
      · exact h.asked sb' other hlive
    · obtain ⟨frame, hasked, hcontract, -⟩ := h.asked sb transaction pending
      have hretired : retirement past (input, .completeCommand transaction.commandId result) =
          some transaction.responseContract := by
        rw [retirement, CoreAction.retired, if_pos cause.retires, Option.bind_some,
          hasked, hcontract]
        rfl
      rw [tombstones, retired_append, List.map_singleton, retiredAfter, hretired]
      exact TransactionTombstones.entries_insert h.buried

end

/-! ## One response -/

/-- The message belongs to the exchange that the request frame opened. -/
structure DataMessage.Continues (message frame : DataMessage) : Prop where
  sessionId : message.header.sessionId = frame.header.sessionId
  stream : message.header.stream = frame.header.stream
  systemBytes : message.header.systemBytes = frame.header.systemBytes
  final : message.header.replyExpected = false

/-- The response that a message gives to a request frame. -/
inductive DataMessage.Responds (message frame : DataMessage) : CoreCommandResult → Prop where
  | normal (base : message.Continues frame)
      (function : message.header.function.raw.toNat = frame.header.function.raw.toNat + 1) :
      Responds message frame (.request (.ok ⟨message.header, message.body⟩))
  | abort (base : message.Continues frame) (function : message.header.function.raw = 0)
      (body : message.body = none) :
      Responds message frame (.request (.error (.protocol .transactionAborted)))

section

variable {message frame : DataMessage}

theorem matchesBaseHeader_contract :
    (frame.contract.matchesBaseHeader message.header &&
      !message.header.replyExpected) = true ↔ message.Continues frame := by
  unfold ResponseContract.matchesBaseHeader
  rw [Bool.and_eq_true, decide_eq_true_iff, Bool.not_eq_true']
  constructor
  · rintro ⟨⟨hsession, hbytes, hstream⟩, hfinal⟩
    exact ⟨hsession.symm, hstream.symm, hbytes.symm, hfinal⟩
  · rintro ⟨hsession, hstream, hbytes, hfinal⟩
    exact ⟨⟨hsession.symm, hbytes.symm, hstream.symm⟩, hfinal⟩

theorem succFunction_eq_some {function next : Function} :
    ResponseContract.succFunction function = some next ↔
      next.raw.toNat = function.raw.toNat + 1 := by
  have hbound := function.raw.toNat_lt
  have hbound' := next.raw.toNat_lt
  unfold ResponseContract.succFunction
  split
  · rename_i hlast
    have hlast : function.raw.toNat = 255 := by rw [hlast]; rfl
    refine iff_of_false nofun fun h => ?_
    omega
  · rename_i hroom
    have hroom : function.raw.toNat ≠ 255 := fun h => hroom (UInt8.toNat_inj.mp h)
    have hsucc : (function.raw + 1).toNat = function.raw.toNat + 1 := by
      rw [UInt8.toNat_add, UInt8.toNat_one]
      omega
    rw [Option.some.injEq, ← hsucc, UInt8.toNat_inj]
    constructor
    · rintro rfl
      rfl
    · intro h
      obtain ⟨raw⟩ := next
      exact congrArg Function.mk h.symm

/-- Matching, read off the request frame. -/
theorem classify_contract :
    (frame.contract.classify message = .normal ↔ message.Continues frame ∧
      message.header.function.raw ≠ 0 ∧
      message.header.function.raw.toNat = frame.header.function.raw.toNat + 1) ∧
    (frame.contract.classify message = .abort ↔ message.Continues frame ∧
      message.header.function.raw = 0 ∧ message.body = none) := by
  have hzero : message.header.function = ⟨0⟩ ↔ message.header.function.raw = 0 := by
    constructor
    · intro h
      rw [h]
    · intro h
      obtain ⟨header, body⟩ := message
      obtain ⟨sessionId, stream, ⟨raw⟩, replyExpected, systemBytes⟩ := header
      exact congrArg Function.mk h
  have hbase : (frame.contract.matchesBaseHeader message.header &&
      !message.header.replyExpected) = true ↔ message.Continues frame :=
    matchesBaseHeader_contract
  have hnormal : frame.contract.normalFunction = some message.header.function ↔
      message.header.function.raw.toNat = frame.header.function.raw.toNat + 1 :=
    succFunction_eq_some
  unfold ResponseContract.classify
  split
  · rename_i hother
    have hother : ¬ message.Continues frame := by
      rw [← hbase]
      revert hother
      cases frame.contract.matchesBaseHeader message.header <;>
        cases message.header.replyExpected <;> decide
    exact ⟨iff_of_false nofun fun h => hother h.1, iff_of_false nofun fun h => hother h.1⟩
  · rename_i hsame
    have hsame : message.Continues frame := by
      rw [← hbase]
      revert hsame
      cases frame.contract.matchesBaseHeader message.header <;>
        cases message.header.replyExpected <;> decide
    split
    · rename_i hfunction
      have hfunction := hzero.mp hfunction
      refine ⟨iff_of_false ?_ fun h => h.2.1 hfunction, ?_⟩
      · split <;> nofun
      · cases hbody : message.body with
        | none => exact iff_of_true rfl ⟨hsame, hfunction, rfl⟩
        | some body => exact iff_of_false nofun fun h => nomatch h.2.2
    · rename_i hfunction
      have hfunction : message.header.function.raw ≠ 0 := fun h => hfunction (hzero.mpr h)
      split
      · rename_i hmatch
        exact ⟨iff_of_true rfl ⟨hsame, hfunction, hnormal.mp hmatch⟩,
          iff_of_false nofun fun h => hfunction h.2.1⟩
      · rename_i hmismatch
        exact ⟨iff_of_false nofun fun h => hmismatch (hnormal.mpr h.2.2),
          iff_of_false nofun fun h => hfunction h.2.1⟩

/-- A message that responds to a Primary has an even function. -/
theorem DataMessage.Responds.even {result : CoreCommandResult} (h : message.Responds frame result)
    (hodd : frame.header.function.raw % 2 = 1) : message.header.function.raw % 2 = 0 := by
  have hfunction : frame.header.function.raw.toNat % 2 = 1 := congrArg UInt8.toNat hodd
  rw [← UInt8.toNat_inj, UInt8.toNat_mod]
  cases h with
  | normal _ function =>
    rw [function]
    show (frame.header.function.raw.toNat + 1) % 2 = 0
    omega
  | abort _ function _ =>
    rw [function]
    rfl

end

/-! ## Rounds and runs -/

section

variable {past : List (Input × CoreAction)} {core : SessionCore} {input : Input}

theorem SessionCore.Inherits.trans {mid after : SessionCore} (h : core.Inherits mid)
    (h' : mid.Inherits after) : core.Inherits after := by
  intro sb transaction hlive
  obtain ⟨old, hold, hcommand, hwrite, hcontract⟩ := h' sb transaction hlive
  obtain ⟨older, holder, hcommand', hwrite', hcontract'⟩ := h sb old hold
  exact ⟨older, holder, hcommand.trans hcommand', hwrite.trans hwrite',
    hcontract.trans hcontract'⟩

/-- In a round that presents no Request every transaction is one of those before the round. -/
theorem RequestStep.inherits {before after : SessionCore} {actions : List CoreAction}
    (h : RequestStep input before after actions)
    (hinput : ∀ c primary now, input ≠ .command ⟨c, .request primary⟩ now) :
    before.Inherits after := by
  cases h with
  | keeps inherits _ _ _ => exact inherits
  | starts received _ _ _ _ _ _ => exact absurd received (hinput _ _ _)
  | retires _ _ _ transactions _ =>
    intro sb transaction hlive
    rw [transactions, TreeMap.getElem?_erase] at hlive
    split at hlive
    · cases hlive
    · exact ⟨transaction, hlive, rfl, rfl, rfl⟩

theorem Matched.entry (h : Matched past core) (input : Input) :
    Matched past (core.entry input).core := by
  rw [entry_frame]
  exact ⟨h.parked, h.asked, h.buried⟩

/-- A stage of a round extends the history. -/
theorem Matched.round (h : Matched past core) (hc : Coherent none core) {done : List CoreAction}
    {stage : Stage} (hsteps : Steps (Effect core input) (core.entry input) done stage) :
    Coherent stage.fresh stage.core ∧
      Matched (past ++ done.map fun a => (input, a)) stage.core := by
  refine hsteps.accumulates_nil
    (I := fun done stage => Coherent stage.fresh stage.core ∧
      Matched (past ++ done.map fun a => (input, a)) stage.core)
    (fun done stage actions stage' hI he => ?_) ⟨hc.entry input, ?_⟩
  · rw [List.map_append, ← List.append_assoc]
    exact ⟨he.coherent hI.1,
      hI.2.step (he.parked hI.2.parked) (he.requestStep hI.2.parked hI.1)⟩
  · rw [List.map_nil, List.append_nil]
    exact h.entry input

theorem Matched.handle (h : Matched past core) (hc : Coherent none core) :
    Matched (past ++ (core.handle input).actions.map fun a => (input, a))
      (core.handle input).core :=
  (h.round hc (steps_handle hc input)).2

/-- **Every response is matched**: whatever completes a Request with a response is a Data message
that responds to the frame of that Request. -/
theorem response_of_handle (h : Matched past core) (hc : Coherent none core) {a : CoreAction}
    (ha : a ∈ (core.handle input).actions) (hresponse : a.isResponse = true) :
    ∃ message now transaction frame result, input = .message (.data message) now ∧
      core.dataTransactions[message.header.systemBytes]? = some transaction ∧
      requestOf past transaction.commandId = some (transaction.writeId, frame) ∧
      frame.header.function.raw % 2 = 1 ∧ message.Responds frame result ∧
      a = .completeCommand transaction.commandId result := by
  obtain ⟨before, after, done, actions, later, hpast, he, -, hmem, -⟩ :=
    (steps_handle hc input).exists_of_mem ha
  obtain ⟨hcoherent, hmatched⟩ := h.round hc hpast
  cases he.requestStep hmatched.parked hcoherent with
  | keeps _ _ kept _ =>
    rw [CoreAction.isResponse_of_retired (kept a hmem)] at hresponse
    cases hresponse
  | starts _ hactions _ _ _ _ _ =>
    rw [hactions] at hmem
    rw [List.mem_singleton.mp hmem] at hresponse
    cases hresponse
  | @retires sb transaction result pending cause hactions _ _ =>
    rw [hactions] at hmem
    obtain rfl := List.mem_singleton.mp hmem
    obtain ⟨frame, hasked, hcontract, -, -, hodd⟩ := hmatched.asked sb transaction pending
    have horigin : ∀ {message : DataMessage} {now : MonoTime},
        input = .message (.data message) now →
        requestOf past transaction.commandId = some (transaction.writeId, frame) ∧
          ∃ old, core.dataTransactions[sb]? = some old ∧ transaction.commandId = old.commandId ∧
            transaction.writeId = old.writeId := by
      rintro message now rfl
      have hinput : ∀ c primary now', Input.message (.data message) now ≠
          .command ⟨c, .request primary⟩ now' := nofun
      rw [requestOf_append_silent fun a _ => requestFrame_of_input hinput] at hasked
      have hinherits := hpast.preserves
        (I := fun stage => stage.core.Parked ∧ Coherent stage.fresh stage.core ∧
          core.Inherits stage.core)
        (fun _ _ _ hI he => ⟨he.parked hI.1, he.coherent hI.2.1,
          hI.2.2.trans ((he.requestStep hI.1 hI.2.1).inherits hinput)⟩)
        ⟨(h.entry _).parked, hc.entry _, .of_eq (by rw [entry_frame])⟩
      obtain ⟨old, hold, hcommand, hwrite, -⟩ := hinherits.2.2 sb transaction pending
      exact ⟨hasked, old, hold, hcommand, hwrite⟩
    cases cause with
    | @answered message now received key normal =>
      obtain ⟨hfound, old, hold, hcommand, hwrite⟩ := horigin received
      rw [hcontract] at normal
      obtain ⟨hbase, -, hfunction⟩ := classify_contract.1.mp normal
      rw [hcommand, hwrite] at hfound
      rw [hcommand]
      exact ⟨message, now, old, frame, _, received, key ▸ hold, hfound, hodd,
        .normal hbase hfunction, rfl⟩
    | @aborted message now received key abort =>
      obtain ⟨hfound, old, hold, hcommand, hwrite⟩ := horigin received
      rw [hcontract] at abort
      obtain ⟨hbase, hfunction, hbody⟩ := classify_contract.2.mp abort
      rw [hcommand, hwrite] at hfound
      rw [hcommand]
      exact ⟨message, now, old, frame, _, received, key ▸ hold, hfound, hodd,
        .abort hbase hfunction hbody, rfl⟩
    | rejected _ _ | expired _ _ _ => cases hresponse

theorem matched_initial (config : SessionCoreConfig) (nextWriteId : Option UInt64)
    (nextSystemBytes : Option UInt32) :
    Matched [] (SessionCore.initial config nextWriteId nextSystemBytes) where
  parked _ _ herror := absurd herror TreeMap.getElem?_empty_ne
  asked _ _ hlive := absurd hlive TreeMap.getElem?_empty_ne
  buried := (List.rtake_nil _).symm

/-- Every run keeps the history of the Requests. -/
theorem matched_run (config : SessionCoreConfig) (nextWriteId : Option UInt64)
    (nextSystemBytes : Option UInt32) (inputs : List Input) :
    Matched (machine.labelled.history (SessionCore.initial config nextWriteId nextSystemBytes)
        inputs)
      (machine.after (SessionCore.initial config nextWriteId nextSystemBytes) inputs) := by
  have hrun := machine.labelled.invariant_history
    (I := fun past core => Coherent none core ∧ Matched past core)
    (fun past core input hI => ⟨hI.1.handle input, hI.2.handle hI.1⟩)
    ⟨coherent_initial config nextWriteId nextSystemBytes,
      matched_initial config nextWriteId nextSystemBytes⟩ inputs
  rw [Machine.labelled_after] at hrun
  exact hrun.2

theorem RequestStep.capacity_eq {before after : SessionCore} {actions : List CoreAction}
    (h : RequestStep input before after actions) :
    after.tombstones.capacity = before.tombstones.capacity := by
  cases h with
  | keeps _ tombstones _ _ => rw [tombstones]
  | starts _ _ _ _ _ _ tombstones => rw [tombstones]
  | retires _ _ _ _ tombstones =>
    rw [tombstones]
    unfold TransactionTombstones.insert
    split
    · rfl
    · split <;> rfl

/-- The capacity of the tombstones is the configured one. -/
theorem capacity_run (config : SessionCoreConfig) (nextWriteId : Option UInt64)
    (nextSystemBytes : Option UInt32) (inputs : List Input) :
    (machine.after (SessionCore.initial config nextWriteId nextSystemBytes)
      inputs).tombstones.capacity = config.tombstoneCapacity := by
  have hround : ∀ (core : SessionCore) (input : Input), Coherent none core → core.Parked →
      (core.handle input).core.Parked ∧
        (core.handle input).core.tombstones.capacity = core.tombstones.capacity := by
    intro core input hc hparked
    have hrun := (steps_handle hc input).preserves
      (I := fun stage => Coherent stage.fresh stage.core ∧ stage.core.Parked ∧
        stage.core.tombstones.capacity = core.tombstones.capacity)
      (fun _ _ _ hI he => ⟨he.coherent hI.1, he.parked hI.2.1,
        (he.requestStep hI.2.1 hI.1).capacity_eq.trans hI.2.2⟩)
      ⟨hc.entry input, by rw [entry_frame]; exact hparked, by rw [entry_frame]⟩
    exact hrun.2
  have hrun := machine.invariant
    (I := fun core => Coherent none core ∧ core.Parked ∧
      core.tombstones.capacity = config.tombstoneCapacity)
    (fun core input hI => ⟨hI.1.handle input, (hround core input hI.1 hI.2.1).1,
      (hround core input hI.1 hI.2.1).2.trans hI.2.2⟩)
    ⟨coherent_initial config nextWriteId nextSystemBytes,
      (matched_initial config nextWriteId nextSystemBytes).parked, rfl⟩ inputs
  exact hrun.2.2

end

/-! ## One inbound Data message -/

/-- The Core takes the Data message up to `receive_data`: the session is Selected, the time is
accepted, the activity fits, and the header names the session and a Secondary. -/
structure SessionCore.Processes (core : SessionCore) (message : DataMessage) (now : MonoTime) :
    Prop where
  state : core.state = some .selected
  live : core.closing = false
  accepts : core.AcceptsTime now
  fits : core.ActivityFits now
  session : message.header.sessionId = core.config.sessionId
  even : message.header.function.raw % 2 = 0

/-- The message responds to a live Request. -/
def SessionCore.Awaits (past : List (Input × CoreAction)) (core : SessionCore)
    (message : DataMessage) (c : CommandId) (result : CoreCommandResult) : Prop :=
  ∃ transaction frame, core.dataTransactions[message.header.systemBytes]? = some transaction ∧
    transaction.commandId = c ∧ requestOf past c = some (transaction.writeId, frame) ∧
    message.Responds frame result

/-- The notice of a Data message that responds to no live Request. -/
def SessionCore.strayNotice (core : SessionCore) (message : DataMessage) : ProtocolNotice :=
  if core.dataTransactions[message.header.systemBytes]?.isSome then .secondaryMismatch
  else if core.tombstones.containsMessage message then .staleEventIgnored
  else .unmatchedSecondary

/-- What one Data message with an even function does: it completes the Request that it responds to,
or it changes nothing. -/
inductive DataOutcome (past : List (Input × CoreAction)) (core : SessionCore)
    (message : DataMessage) (after : SessionCore) (actions : List CoreAction) : Prop where
  | responds {c : CommandId} {result : CoreCommandResult}
      (awaits : core.Awaits past message c result)
      (actions : actions = [.completeCommand c result])
      (transactions : after.dataTransactions =
        core.dataTransactions.erase message.header.systemBytes)
  | stray (unawaited : ∀ c result, ¬ core.Awaits past message c result) (actions : actions = [])
      (transactions : after.dataTransactions = core.dataTransactions)
      (tombstones : after.tombstones = core.tombstones)
      (commands : after.openCommands = core.openCommands)
      (writes : after.pendingWrites = core.pendingWrites)
      (notice : after.notice = some (core.strayNotice message))

section

variable {past : List (Input × CoreAction)} {core : SessionCore} {message : DataMessage}
  {now : MonoTime}

theorem and_one_eq_zero {function : UInt8} (h : function % 2 = 0) : function &&& 1 = 0 := by
  have hmod : function &&& 1 = function % 2 := by
    rw [← UInt8.toNat_inj, UInt8.toNat_and, UInt8.toNat_mod]
    exact Nat.and_one_is_mod _
  rw [hmod, h]

theorem Matched.awaits_iff (h : Matched past core) {transaction : DataTransaction}
    (hlive : core.dataTransactions[message.header.systemBytes]? = some transaction) {c : CommandId}
    {result : CoreCommandResult} :
    core.Awaits past message c result ↔ transaction.commandId = c ∧
      (transaction.responseContract.classify message = .normal ∧
          result = .request (.ok ⟨message.header, message.body⟩) ∨
        transaction.responseContract.classify message = .abort ∧
          result = .request (.error (.protocol .transactionAborted))) := by
  obtain ⟨frame, hasked, hcontract, -, -, hodd⟩ := h.asked _ transaction hlive
  rw [hcontract, classify_contract.1, classify_contract.2]
  constructor
  · rintro ⟨other, frame', hother, rfl, hfound, hresponds⟩
    obtain rfl := Option.some.inj (hlive.symm.trans hother)
    obtain ⟨-, rfl⟩ := Prod.mk.inj (Option.some.inj (hasked.symm.trans hfound))
    refine ⟨rfl, ?_⟩
    cases hresponds with
    | normal base function =>
      refine Or.inl ⟨⟨base, fun hzero => ?_, function⟩, rfl⟩
      rw [hzero] at function
      cases function
    | abort base function body => exact Or.inr ⟨⟨base, function, body⟩, rfl⟩
  · rintro ⟨rfl, ⟨⟨base, -, function⟩, rfl⟩ | ⟨⟨base, function, body⟩, rfl⟩⟩
    · exact ⟨transaction, frame, hlive, rfl, hasked, .normal base function⟩
    · exact ⟨transaction, frame, hlive, rfl, hasked, .abort base function body⟩

/-- **Matching is exact** in `receive_inbound_data`.  The classification is decided by the header
alone, and the body is handed on as it came. -/
theorem receiveInboundData_outcome {t : Turn} (h : Matched past t.core)
    (hc : Coherent none t.core) (hstate : t.core.state = some .selected)
    (hsession : message.header.sessionId = t.core.config.sessionId)
    (heven : message.header.function.raw % 2 = 0) (hactions : t.actions = []) :
    DataOutcome past t.core message (t.receiveInboundData message).core
      (t.receiveInboundData message).actions ∧
    (t.receiveInboundData message).core.deselectDrain = t.core.deselectDrain := by
  unfold Turn.receiveInboundData Turn.receiveData
  dsimp only
  rw [if_neg (not_or.mpr ⟨not_not.mpr hstate, not_not.mpr hsession⟩),
    if_pos (and_one_eq_zero heven)]
  cases hlive : t.core.dataTransactions[message.header.systemBytes]? with
  | none =>
    refine ⟨.stray ?_ hactions rfl rfl rfl rfl ?_, rfl⟩
    · rintro c result ⟨transaction, frame, hfound, -⟩
      rw [hlive] at hfound
      cases hfound
    · rw [strayNotice, hlive]
      cases htombstones : t.core.tombstones.containsMessage message with
      | false => rfl
      | true => rfl
  | some transaction =>
    have hopen : (t.retireTransaction transaction
        message.header.systemBytes).core.openCommands[transaction.commandId]? = some .request :=
      hc.request_open _ transaction hlive
    have hawaits := fun c result => @Matched.awaits_iff _ _ _ h _ hlive c result
    dsimp only
    cases hclassify : transaction.responseContract.classify message with
    | mismatch =>
      rw [hclassify] at hawaits
      refine ⟨.stray ?_ hactions rfl rfl rfl rfl ?_, rfl⟩
      · intro c result hresult
        obtain ⟨-, ⟨hother, -⟩ | ⟨hother, -⟩⟩ := (hawaits c result).mp hresult
        · cases hother
        · cases hother
      · rw [strayNotice, hlive]
        rfl
    | normal =>
      dsimp only
      rw [Turn.completeRequest_of_open hopen]
      refine ⟨.responds ((hawaits _ _).mpr ⟨rfl, Or.inl ⟨hclassify, rfl⟩⟩) ?_ rfl, rfl⟩
      exact congrArg (· ++ _) hactions
    | abort =>
      dsimp only
      rw [Turn.completeRequest_of_open hopen]
      refine ⟨.responds ((hawaits _ _).mpr ⟨rfl, Or.inr ⟨hclassify, rfl⟩⟩) ?_ rfl, rfl⟩
      exact congrArg (· ++ _) hactions

/-- Accepting the time and recording the activity leave the Requests alone. -/
theorem DataOutcome.of_observed {after : SessionCore} {actions : List CoreAction}
    {lastActivity idleDeadline : Option MonoTime}
    (h : DataOutcome past (core.observed now lastActivity idleDeadline) message after actions) :
    DataOutcome past core message after actions := by
  cases h with
  | responds awaits actions transactions => exact .responds awaits actions transactions
  | stray unawaited actions transactions tombstones commands writes notice =>
    exact .stray unawaited actions transactions tombstones commands writes notice

/-- `on_message` processes a Data message: `receive_inbound_data` has the outcome, and then a
pending drain makes its progress. -/
theorem onMessage_outcome (h : Matched past core) (hc : Coherent none core)
    (hp : core.Processes message now) :
    ∃ t : Turn, core.onMessage (.data message) now = t.progressDeselect now ∧
      t.core.deselectDrain = core.deselectDrain ∧
      DataOutcome past core message t.core t.actions := by
  have hstate : core.state.isSome = true := by
    rw [hp.state]
    rfl
  obtain ⟨lastActivity, idleDeadline, heq⟩ := @onMessage_eq _ (.data message) _ hstate hp.live
    hp.accepts hp.fits
  have hbefore : Matched past (Turn.start (core.observed now lastActivity idleDeadline)).core :=
    ⟨h.parked, h.asked, h.buried⟩
  have hcoherent : Coherent none (Turn.start (core.observed now lastActivity idleDeadline)).core :=
    hc.observe rfl
  obtain ⟨houtcome, hdrain⟩ := receiveInboundData_outcome hbefore hcoherent hp.state hp.session
    hp.even rfl
  exact ⟨_, heq, hdrain, houtcome.of_observed⟩

end

/-- **Request/response matching is exact and one-shot**, in every run.  A Data message with an even
function that the Core processes completes the one live Request whose frame it responds to, or it
changes no table and emits nothing, apart from the progress of a pending Deselect drain; no message
with an odd function completes a Request with a response; and the tombstones are the last contracts
of the Requests retired so far. -/
theorem responses_match_requests (config : SessionCoreConfig) (nextWriteId : Option UInt64)
    (nextSystemBytes : Option UInt32) (inputs : List Input) :
    let core := machine.after (SessionCore.initial config nextWriteId nextSystemBytes) inputs
    let past := machine.labelled.history (SessionCore.initial config nextWriteId nextSystemBytes)
      inputs
    (∀ message now, core.Processes message now → ∃ t : Turn,
      core.handle (.message (.data message) now) = t.progressDeselect now ∧
      (core.deselectDrain = none → core.handle (.message (.data message) now) = t) ∧
      DataOutcome past core message t.core t.actions) ∧
    (∀ message now, message.header.function.raw % 2 = 1 →
      ∀ a ∈ (core.handle (.message (.data message) now)).actions, a.isResponse = false) ∧
    core.tombstones.entries = (retired past).rtake config.tombstoneCapacity := by
  intro core past
  have hmatched : Matched past core := matched_run config nextWriteId nextSystemBytes inputs
  have hcoherent : Coherent none core := coherent_run config nextWriteId nextSystemBytes inputs
  refine ⟨fun message now hp => ?_, fun message now hodd a ha => ?_, ?_⟩
  · obtain ⟨t, heq, hdrain, houtcome⟩ := onMessage_outcome hmatched hcoherent hp
    refine ⟨t, heq, fun hnone => ?_, houtcome⟩
    exact heq.trans (progressDeselect_of_noDrain (hdrain.trans hnone) now)
  · refine Bool.eq_false_iff.mpr fun hresponse => ?_
    obtain ⟨message', now', transaction, frame, result, hinput, -, -, hprimary, hresponds, -⟩ :=
      response_of_handle hmatched hcoherent ha hresponse
    cases hinput
    rw [hresponds.even hprimary] at hodd
    cases hodd
  · rw [← capacity_run config nextWriteId nextSystemBytes inputs]
    exact hmatched.buried

end Hsms
end SecsRust

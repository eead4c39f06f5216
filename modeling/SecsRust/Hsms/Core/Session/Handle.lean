import SecsRust.Lib.Machine
import SecsRust.Hsms.Core.Session.Rounds

/-!
# The Core as a machine

The entry points one by one, and from them `steps_handle`: a round from a coherent Core is a
sequence of effects with the same actions.  The Core is then a reactive machine
(`SessionCore.machine`), coherence holds in every state that it reaches (`Coherent.handle`),
and a property of all runs is proved by looking at the effects.

## Acceptance

The only effect that `on_command` and `on_reply` have before the first branch is to insert
the command they accept.  `SessionCore.entry` is the stage after that insertion; for every
other input, and for a command whose identifier is already in use, it is the Core as it
was.  So all rounds begin alike, in a coherent stage whose accepted command, if there is
one, belongs to nobody yet (`Coherent.entry`).

## Write outcomes

`on_write_outcome_at` is where the rounds are longest.  The outcome of a write may come
after a close has taken its command and its transaction away, it may release an error that
was parked behind it, and it may itself overflow a timer and end the generation.  `Dropped`
and `runs_settleLost` are these late cases; the others follow the match of the source.

## `finalize_writer`

The end of the Writer gives up the writes that are left, in the order of their identifiers.
The loop runs over a table that has been emptied before it begins, so what it finds of a
command is what the rounds before have left (`Abandons`, `abandons_of_coherent`).

The runs of the namespace `Scenario` are where the witnesses of the later modules begin.
-/

namespace SecsRust
namespace Hsms

open Std Secs2 SessionCore

/-- The command that an input presents, with the class under which it would be opened. -/
def Input.presented : Input → Option (CommandId × OpenCommandKind)
  | .command given _ => some (given.commandId, given.kind.openKind)
  | .reply commandId _ intent _ _ => some (commandId, intent.openKind)
  | _ => none

namespace SessionCore

/-- The command that the round accepts: it was presented and not already open. -/
def accepted (core : SessionCore) (input : Input) : Option (CommandId × OpenCommandKind) :=
  input.presented.filter fun (commandId, _) => !core.openCommands.contains commandId

/-- The stage in which a round begins. -/
def entry (core : SessionCore) (input : Input) : Stage :=
  match core.accepted input with
  | none => ⟨core, false, none⟩
  | some (commandId, kind) => ⟨core.accept commandId kind, false, some commandId⟩

end SessionCore

/-- Nothing refers to a command that is not open. -/
theorem Coherent.unreferenced {core : SessionCore} {c : CommandId} (h : Coherent none core)
    (hvacant : core.openCommands[c]? = none) : core.Unreferenced c where
  control transaction hactive hcommand := by
    rw [h.control_open transaction c hactive hcommand] at hvacant
    cases hvacant
  drain hlive drain hdrain := by
    rintro rfl
    rw [h.drain_open hlive drain hdrain] at hvacant
    cases hvacant
  request sb transaction hsb := by
    rintro rfl
    rw [h.request_open sb transaction hsb] at hvacant
    cases hvacant
  write w write hw hcommand := by
    obtain ⟨kind, -, hopen⟩ := h.write_open w write c hw hcommand
    rw [hopen] at hvacant
    cases hvacant

/-- Accepting a command. -/
theorem Coherent.accept {core : SessionCore} {c : CommandId} (h : Coherent none core)
    (hvacant : core.openCommands[c]? = none) (kind : OpenCommandKind) :
    Coherent (some c) (core.accept c kind) := by
  have hself : (core.accept c kind).openCommands[c]? = some kind :=
    (TreeMap.getElem?_insert _ _ _).trans (if_pos rfl)
  have hkept : ∀ (c' : CommandId) (kind' : OpenCommandKind),
      core.openCommands[c']? = some kind' →
        (core.accept c kind).openCommands[c']? = some kind' := by
    intro c' kind' hc'
    refine (TreeMap.getElem?_insert _ _ _).trans ((if_neg ?_).trans hc')
    rintro rfl
    rw [hvacant] at hc'
    cases hc'
  have hun := h.unreferenced hvacant
  exact { h with
    fresh_open := fun c' hc' => ⟨kind, Option.some.inj hc' ▸ hself⟩
    fresh_unreferenced := fun c' hc' =>
      Option.some.inj hc' ▸ ⟨hun.control, hun.drain, hun.request, hun.write⟩
    control_open := fun transaction c' hactive hcommand =>
      hkept c' _ (h.control_open transaction c' hactive hcommand)
    drain_open := fun hlive drain hdrain => hkept _ _ (h.drain_open hlive drain hdrain)
    request_open := fun sb transaction hsb => hkept _ _ (h.request_open sb transaction hsb)
    write_open := fun w write c' hw hcommand => by
      obtain ⟨kind', hclass, hopen⟩ := h.write_open w write c' hw hcommand
      exact ⟨kind', hclass, hkept c' kind' hopen⟩ }

/-- No two pending writes belong to one command. -/
theorem Coherent.distinct_writes {fresh : Option CommandId} {core : SessionCore}
    (h : Coherent fresh core) :
    (core.pendingWrites.toList.map Prod.snd).Pairwise fun a b =>
      ∀ c, a.commandId = some c → b.commandId ≠ some c := by
  refine List.pairwise_map.mpr
    ((ExtTreeMap.distinct_keys_toList (t := core.pendingWrites)).imp_of_mem ?_)
  rintro ⟨w, a⟩ ⟨w', b⟩ ha hb hne c hc hc'
  obtain rfl := h.write_unique w w' a b c (TreeMap.mem_toList.mp ha) (TreeMap.mem_toList.mp hb)
    hc hc'
  exact hne ReflOrd.compare_self

/-- A round from a coherent Core begins in a coherent stage. -/
theorem Coherent.entry {core : SessionCore} (h : Coherent none core) (input : Input) :
    Coherent (core.entry input).fresh (core.entry input).core := by
  unfold SessionCore.entry
  cases haccepted : core.accepted input with
  | none => exact h
  | some accepted =>
    obtain ⟨-, hvacant⟩ := Option.filter_eq_some_iff.mp haccepted
    refine h.accept (TreeMap.contains_eq_false_iff.mp ?_) accepted.2
    simpa using hvacant

namespace SessionCore

variable {core : SessionCore}

/-! ## Entry points that accept no command -/

/-- `record_activity` does not reopen a closed generation. -/
theorem recordActivity_closing {t : Turn} (hclosing : t.core.closing = true)
    (occurredAt : MonoTime) : (t.recordActivity occurredAt).core.closing = true := by
  rcases t.recordActivity_cases occurredAt with ⟨-, _, _, heq⟩ | ⟨_, heq⟩
  · rw [heq]
    exact hclosing
  · rw [heq]
    exact Turn.endGeneration_closing _ _

/-- The T7 of a new connection either fits or ends the generation. -/
theorem armSelectionTimeout_cases (t : Turn) (now : MonoTime) :
    (∃ deadline, now.checkedAdd t.core.config.timeouts.t7 = some deadline ∧
      t.armSelectionTimeout now =
        t.update fun core => { core with selectionDeadline := some deadline }) ∨
    t.armSelectionTimeout now = (t.update fun core =>
      { core with selectionDeadline := none }).noteOverflow.endGeneration .runtimeInvariant := by
  unfold Turn.armSelectionTimeout
  cases hadd : now.checkedAdd t.core.config.timeouts.t7 with
  | none => exact Or.inr rfl
  | some deadline => exact Or.inl ⟨deadline, rfl, rfl⟩

theorem runs_onConnected (now : MonoTime) :
    Runs core (.connected now) (Turn.start core) none (core.onConnected now) none := by
  unfold onConnected
  refine Turn.runs_acceptTime rfl fun _ => ?_
  generalize (Turn.start core).update (fun core => { core with lastNow := some now }) = t
  dsimp only
  split
  · exact Turn.runs_endGeneration _
  · rename_i hfresh
    simp only [Bool.or_eq_true, not_or, Bool.not_eq_true, Option.isSome_eq_false_iff,
      Option.isNone_iff_eq_none] at hfresh
    obtain ⟨hstate, hlive⟩ := hfresh
    rcases armSelectionTimeout_cases
      (t.update fun core => { core with state := some .notSelected }) now with
      ⟨deadline, hadd, heq⟩ | heq
    · rw [heq]
      generalize harm : ((t.update fun core =>
        { core with state := some .notSelected }).update fun core =>
          { core with selectionDeadline := some deadline }) = armed
      rcases armed.recordActivity_cases now with ⟨-, _, _, hrec⟩ | ⟨lastActivity, hrec⟩
      · have hopen : ¬ (armed.recordActivity now).core.closing = true := by
          rw [hrec, ← harm, Bool.not_eq_true]
          exact hlive
        rw [if_neg hopen, hrec, ← harm]
        have hconnect : Runs core (.connected now) t none ((t.update fun core =>
            { core with
              state := some .notSelected
              selectionDeadline := some deadline }).push (.sessionStateChanged .notSelected))
            none := .effect (.connect deadline hstate hlive hadd rfl)
        exact hconnect.trans (.silent (.observe _ _ _))
      · have hclosed : (armed.recordActivity now).core.closing = true := by
          rw [hrec]
          exact Turn.endGeneration_closing _ _
        rw [if_pos hclosed, hrec, ← harm]
        have hend : Runs core (.connected now) t none ((((t.update fun core =>
            { core with state := some .notSelected }).update fun core =>
              { core with selectionDeadline := some deadline }).update fun core =>
                { core with lastActivity := lastActivity }).noteOverflow.endGeneration
                  .runtimeInvariant) none :=
          Turn.runs_endGeneration_of_frame _ rfl (Or.inr (Or.inl rfl)) rfl fun _ => rfl
        exact hend.trans (.silent (.observe _ _ _))
    · rw [heq]
      have hend : Runs core (.connected now) t none (((t.update fun core =>
          { core with state := some .notSelected }).update fun core =>
            { core with selectionDeadline := none }).noteOverflow.endGeneration .runtimeInvariant)
          none := Turn.runs_endGeneration_of_frame _ rfl (Or.inr (Or.inl rfl)) rfl fun _ => rfl
      rw [if_pos (recordActivity_closing (Turn.endGeneration_closing _ _) _)]
      exact hend.trans (Turn.runs_recordActivity _)

theorem runs_receive {t : Turn} {origin : SessionCore} {message : ProtocolMessage} {now : MonoTime}
    (h : Coherent none t.core) (hlive : t.core.closing = false)
    (hstate : t.core.state.isSome = true) (hbefore : t.core.control = origin.control)
    (hstranded : t.core.state = some .selected →
      t.core.deselectDrain = none ∨ ∀ sessionId systemBytes,
        message = .control (.separateRequest sessionId systemBytes) →
          origin.StrandsDeselect (.message message now)) :
    Runs origin (.message message now) t none (receive t message now) none := by
  cases message with
  | data message => exact Turn.runs_receiveInboundData rfl h hlive hstate
  | control message =>
    cases message with
    | selectRequest sessionId systemBytes => exact Turn.runs_receiveSelectRequest rfl h hlive hstate
    | selectResponse sessionId status systemBytes =>
      exact Turn.runs_receiveSelectResponse rfl h hlive hstate hbefore
    | linktestRequest systemBytes => exact Turn.runs_sendResponse hstate hlive rfl rfl
    | linktestResponse systemBytes =>
      exact Turn.runs_receiveLinktestResponse rfl h hlive hstate hbefore
    | rejectRequest sessionId headerByte2 reason systemBytes =>
      exact (Turn.runs_receiveReject rfl h hlive hbefore).trans (.silent (.observe _ _ _))
    | separateRequest sessionId systemBytes =>
      refine Turn.runs_receiveSeparate h hlive (fun hsel => ?_) rfl hbefore
      rcases hstranded hsel with hnone | hstranded
      · exact Or.inl hnone
      · exact Or.inr (hstranded _ _ rfl)
    | deselectRequest sessionId systemBytes =>
      exact Turn.runs_receiveDeselectRequest rfl hlive hstate
    | deselectResponse sessionId status systemBytes =>
      exact Turn.runs_receiveDeselectResponse rfl h hlive hstate hbefore

theorem runs_onMessage (h : Coherent none core) (message : ProtocolMessage) (now : MonoTime) :
    Runs core (.message message now) (Turn.start core) none (core.onMessage message now) none := by
  have hnotice : Runs core (.message message now) (Turn.start core) none
      (Turn.start { core with notice := none }) none := .silent (.observe _ _ _)
  refine hnotice.trans ?_
  unfold onMessage
  refine Turn.runs_acceptTime rfl fun haccepts => ?_
  have haccepts : core.AcceptsTime now := haccepts
  have hbase : Coherent none { core with notice := none, lastNow := some now } := h.observe rfl
  generalize hstart : (Turn.start { core with notice := none }).update
    (fun core => { core with lastNow := some now }) = t
  have hcore : t.core = { core with notice := none, lastNow := some now } := by
    rw [← hstart]
    rfl
  have hcoherent : Coherent none t.core := hcore ▸ hbase
  dsimp only
  split
  · exact .refl _ _
  · rename_i hopen
    simp only [Bool.or_eq_true, not_or, Bool.not_eq_true, Option.isNone_eq_false_iff] at hopen
    obtain ⟨hstate, hlive⟩ := hopen
    have hactivity : Runs core (.message message now) t none (t.recordActivity now) none :=
      Turn.runs_recordActivity now
    split
    · exact hactivity
    · rename_i hstill
      have hlive' := Bool.eq_false_of_not_eq_true hstill
      have hkept : Turn.ControlKept core t := fun _ => by
        rw [hcore]
        rfl
      have hreceive : Runs core (.message message now) (t.recordActivity now) none
          (receive (t.recordActivity now) message now) none := by
        refine runs_receive (hactivity.coherent hcoherent) hlive'
          (Turn.connected_of_runs hactivity hstate) (hkept.recordActivity now hlive') fun hsel => ?_
        rcases t.recordActivity_cases now with ⟨hfits, lastActivity, idleDeadline, heq⟩ | ⟨_, heq⟩
        · have hsame : (t.recordActivity now).core.state = core.state ∧
              (t.recordActivity now).core.deselectDrain = core.deselectDrain := by
            rw [heq]
            show t.core.state = core.state ∧ t.core.deselectDrain = core.deselectDrain
            rw [hcore]
            exact ⟨rfl, rfl⟩
          rw [hsame.1] at hsel
          rw [hsame.2]
          rw [hcore] at hfits hlive
          cases hdrain : core.deselectDrain with
          | none => exact Or.inl rfl
          | some drain =>
            refine Or.inr fun sessionId systemBytes hmessage => ?_
            exact ⟨sessionId, systemBytes, now, by rw [hmessage], haccepts, hfits, hsel, hlive,
              by rw [hdrain]; rfl⟩
        · rw [heq] at hlive'
          exact absurd (Turn.endGeneration_closing _ _) (Bool.not_eq_true _ ▸ hlive')
      have hafter := hactivity.trans hreceive
      exact hafter.trans (Turn.runs_progressDeselect (hafter.coherent hcoherent) rfl)

theorem isResponse_violationReject {violation : InboundViolation} {message : ControlMessage}
    (h : violationReject violation = some message) : message.isResponse = true := by
  unfold violationReject at h
  split at h
  · rw [← Option.some.inj h]
    rfl
  · rw [← Option.some.inj h]
    rfl
  · cases h

theorem runs_onInboundViolation (violation : InboundViolation) (now : MonoTime) :
    Runs core (.inboundViolation violation now) (Turn.start core) none
      (core.onInboundViolation violation now) none := by
  unfold onInboundViolation
  refine Turn.runs_acceptTime rfl fun _ => ?_
  split
  · exact .refl _ _
  · rename_i hopen
    simp only [Bool.or_eq_true, not_or, Bool.not_eq_true, Option.isNone_eq_false_iff] at hopen
    split
    · rename_i message hreject
      exact Turn.runs_sendResponse hopen.1 hopen.2 (isResponse_violationReject hreject) rfl
    · exact .refl _ _

/-- What `finish_failed_write` and a failed admission begin with: the transaction of the write goes,
and its command completes with the failure. -/
def failedWrite (t : Turn) (w : WriteId) (write : PendingWrite) (error : OperationError) : Turn :=
  match write.commandId with
  | some commandId => ((t.update fun core => core.eraseWrite w).update fun core =>
      core.removeTransactionForWrite w write.kind).completeError commandId error
  | none => (t.update fun core => core.eraseWrite w).update fun core =>
      core.removeTransactionForWrite w write.kind

theorem failedWrite_eq {t : Turn} {w : WriteId} {write : PendingWrite} {error : OperationError}
    (h : Coherent none t.core) (hpending : t.core.pendingWrites[w]? = some write) :
    failedWrite t w write error =
      ⟨((t.core.eraseWrite w).removeTransactionForWrite w write.kind).release write.commandId,
        t.actions ++ write.commandId.toList.filterMap fun c =>
          t.core.openCommands[c]?.map fun kind =>
          .completeCommand c (kind.errorResult error), t.overflowed⟩ := by
  unfold failedWrite
  cases hcommand : write.commandId with
  | none =>
    simp only [Option.toList_none, List.filterMap_nil, List.append_nil]
    rfl
  | some c =>
    obtain ⟨kind, -, hopen⟩ := h.write_open w write c hpending hcommand
    have hstill : ((t.update fun core => core.eraseWrite w).update fun core =>
        core.removeTransactionForWrite w write.kind).core.openCommands[c]? = some kind := by
      show ((t.core.eraseWrite w).removeTransactionForWrite w write.kind).openCommands[c]? = _
      rw [removeTransactionForWrite_frame]
      exact hopen
    dsimp only
    rw [Turn.completeError_of_open hstill]
    simp only [Option.toList_some, List.filterMap_cons, hopen, Option.map_some, List.filterMap_nil]
    rfl

theorem runs_failedWrite {origin : SessionCore} {input : Input} {t : Turn} {w : WriteId}
    {write : PendingWrite} {error : OperationError} (h : Coherent none t.core)
    (hpending : t.core.pendingWrites[w]? = some write) (hcause : FailureCause input w error)
    (hbefore : t.core.activeTransaction = origin.activeTransaction) :
    Runs origin input t none (failedWrite t w write error) none := by
  rw [failedWrite_eq h hpending]
  exact .effect (.failWrite hpending hcause hbefore)

theorem runs_onShutdown {input : Input} {reason : GenerationCloseReason}
    {failedWriteId : Option WriteId} {now : MonoTime} (h : Coherent none core)
    (hnow : input.now = now)
    (hinput : ∀ w, failedWriteId = some w → input = .shutdown reason (some w) now) :
    Runs core input (Turn.start core) none (core.onShutdown reason failedWriteId now) none := by
  unfold onShutdown
  refine Turn.runs_acceptTime hnow fun haccepts => ?_
  cases failedWriteId with
  | none => exact Turn.runs_endGeneration _
  | some w =>
    have hinput := hinput w rfl
    have hbase : Coherent none { core with lastNow := some now } := h.observe rfl
    generalize hstart : (Turn.start core).update (fun core => { core with lastNow := some now }) = t
    have hcore : t.core = { core with lastNow := some now } := by
      rw [← hstart]
      rfl
    dsimp only
    cases hpending : t.core.pendingWrites[w]? with
    | none => exact Turn.runs_endGeneration _
    | some write =>
      have hcoherent : Coherent none t.core := hcore ▸ hbase
      have hadmission : core.FailsAdmission input := by
        refine ⟨reason, w, now, hinput, haccepts, ?_⟩
        rw [hcore] at hpending
        rw [show core.pendingWrites[w]? = some write from hpending]
        rfl
      show Runs core input t none ((((failedWrite t w write (if reason = .controlBackpressure then
        .backpressure else .connectionLost)).completeAll .connectionLost).update fun core =>
          { core with closing := true, closeActionIssued := true }).push
            (.closeGeneration reason .immediate)) none
      have hours : (if reason = .controlBackpressure then OperationError.backpressure
          else .connectionLost).isPeerVerdict = false := by
        split <;> rfl
      generalize (if reason = .controlBackpressure then OperationError.backpressure
        else .connectionLost) = error at hours
      have hfail : Runs core input t none (failedWrite t w write error) none :=
        runs_failedWrite hcoherent hpending (.notAdmitted hinput hours) (by rw [hcore])
      have hkept : (failedWrite t w write error).core.deselectDrain = core.deselectDrain ∧
          (failedWrite t w write error).core.replyContracts = core.replyContracts := by
        rw [failedWrite_eq hcoherent hpending]
        dsimp only
        rw [release_frame, removeTransactionForWrite_frame, hcore]
        exact ⟨rfl, rfl⟩
      generalize failedWrite t w write error = failed at hfail hkept
      have hdone := failed.completeAll_completes .connectionLost
      refine hfail.trans (.of_effect
        (.admissionClosed reason hadmission hkept.1 hkept.2 hdone.toCompleted) rfl ?_
          hdone.overflowed)
      show (failed.completeAll .connectionLost).actions ++ _ = _
      rw [Turn.completeAll_actions, List.append_assoc]

theorem runs_finishShutdownDrain (h : Coherent none core) (reason : GenerationCloseReason)
    (now : MonoTime) :
    Runs core (.finishShutdownDrain reason now) (Turn.start core) none
      (core.finishShutdownDrain reason now) none := by
  unfold finishShutdownDrain
  split
  · exact runs_onShutdown h rfl nofun
  · rename_i hopen
    simp only [not_or, not_not, Bool.not_eq_true] at hopen
    refine Turn.runs_acceptTime rfl fun _ => ?_
    exact Turn.runs_startSeparate (h.observe rfl) hopen.2 nofun rfl rfl

theorem runs_advanceTime (h : Coherent none core) (now : MonoTime) :
    Runs core (.advanceTime now) (Turn.start core) none (core.advanceTime now) none := by
  unfold advanceTime
  refine Turn.runs_acceptTime rfl fun _ => ?_
  exact Turn.runs_expireDeadlines (h.observe rfl) rfl rfl fun _ => rfl

/-! ## Entry points that accept a command -/

theorem entry_eq_of_vacant {input : Input} {c : CommandId} {kind : OpenCommandKind}
    (hpresented : input.presented = some (c, kind))
    (hvacant : core.openCommands.contains c = false) :
    core.entry input = ⟨core.accept c kind, false, some c⟩ := by
  have haccepted : core.accepted input = some (c, kind) := by
    rw [accepted, hpresented]
    exact Option.filter_eq_some_iff.mpr ⟨rfl, by simp [hvacant]⟩
  unfold entry
  rw [haccepted]

theorem entry_eq_of_open {input : Input} {c : CommandId} {kind : OpenCommandKind}
    (hpresented : input.presented = some (c, kind)) (hopen : core.openCommands.contains c = true) :
    core.entry input = ⟨core, false, none⟩ := by
  have haccepted : core.accepted input = none := by
    rw [accepted, hpresented]
    simp [ExtTreeMap.contains_iff_mem.mp hopen]
  unfold entry
  rw [haccepted]

theorem entry_eq_of_silent {input : Input} (hpresented : input.presented = none) :
    core.entry input = ⟨core, false, none⟩ := by
  have haccepted : core.accepted input = none := by
    rw [accepted, hpresented]
    rfl
  unfold entry
  rw [haccepted]

/-- Accepting a command changes nothing but the open commands. -/
theorem entry_frame (core : SessionCore) (input : Input) :
    (core.entry input).core =
      { core with openCommands := (core.entry input).core.openCommands } := by
  unfold entry
  cases core.accepted input with
  | none => rfl
  | some accepted => rfl

theorem openCommands_accept_self (c : CommandId) (kind : OpenCommandKind) :
    (core.accept c kind).openCommands[c]? = some kind :=
  (TreeMap.getElem?_insert _ _ _).trans (if_pos rfl)

theorem runs_onCommand (h : Coherent none core) (command : CoreCommand) (now : MonoTime) :
    Runs core (.command command now) (Turn.start (core.entry (.command command now)).core)
      (core.entry (.command command now)).fresh (core.onCommand command now) none := by
  unfold onCommand
  dsimp only
  cases hcontains : core.openCommands.contains command.commandId with
  | true =>
    have hentry : core.entry (.command command now) = ⟨core, false, none⟩ :=
      entry_eq_of_open rfl hcontains
    rw [hentry, if_pos rfl]
    exact Turn.runs_endGeneration _
  | false =>
    have hentry : core.entry (.command command now) =
        ⟨core.accept command.commandId command.kind.openKind, false, some command.commandId⟩ :=
      entry_eq_of_vacant rfl hcontains
    rw [hentry, if_neg Bool.false_ne_true]
    refine Turn.runs_acceptTime rfl fun _ => ?_
    have hcoherent : Coherent (some command.commandId)
        ((Turn.start (core.accept command.commandId command.kind.openKind)).update
          fun core => { core with lastNow := some now }).core :=
      (h.accept (TreeMap.contains_eq_false_iff.mp hcontains) _).observe rfl
    have hopen : ((Turn.start (core.accept command.commandId command.kind.openKind)).update
        fun core => { core with lastNow := some now }).core.openCommands[command.commandId]? =
          some command.kind.openKind := openCommands_accept_self _ _
    have hbefore : core.repliesBlocked = ((Turn.start (core.accept command.commandId
        command.kind.openKind)).update fun core =>
          { core with lastNow := some now }).core.repliesBlocked := rfl
    have hactive : core.activeTransaction = ((Turn.start (core.accept command.commandId
        command.kind.openKind)).update fun core =>
          { core with lastNow := some now }).core.activeTransaction := rfl
    generalize (Turn.start (core.accept command.commandId command.kind.openKind)).update
      (fun core => { core with lastNow := some now }) = t at *
    split
    · exact Turn.runs_refuse hopen rfl
    · split
      · exact Turn.runs_refuse hopen rfl
      · rename_i hlive
        have hlive := Bool.eq_false_of_not_eq_true hlive
        split
        · exact Turn.runs_refuse hopen rfl
        · rename_i hdrain
          obtain ⟨commandId, kind⟩ := command
          have hnoDrain : kind.isTransactional = true → t.core.deselectDrain = none := by
            intro htransactional
            rw [htransactional, Bool.and_true] at hdrain
            simpa using hdrain
          cases kind with
          | deselect => exact Turn.runs_startDeselect hcoherent rfl hlive hopen hactive
          | select => exact Turn.runs_startSelect hlive hopen (hnoDrain rfl) hactive
          | linktest => exact Turn.runs_startLinktest hlive hopen (hnoDrain rfl) hactive
          | separate =>
            exact Turn.runs_startSeparate hcoherent hlive
              (fun c hc => Option.some.inj hc ▸ hopen) rfl
              (Turn.control_congr hactive.symm)
          | send primary => exact Turn.runs_startData rfl hbefore hcoherent hlive hopen
          | request primary => exact Turn.runs_startData rfl hbefore hcoherent hlive hopen

/-- A reply that holds a live contract. -/
theorem runs_spend {origin : SessionCore} {t : Turn} {c : CommandId}
    {capability : ReplyCapabilityId} {intent : ReplyIntent} {body : Option SecsItem}
    {now : MonoTime} {primary : DataHeader} (h : Coherent (some c) t.core)
    (hlive : t.core.closing = false) (hstate : t.core.state = some .selected)
    (hopen : t.core.openCommands[c]? = some intent.openKind)
    (hbefore : origin.repliesBlocked = t.core.repliesBlocked)
    (hunblocked : intent ≠ .abandon → t.core.repliesBlocked = false)
    (hheld : t.core.replyContracts[capability]? = some primary) :
    Runs origin (.reply c capability intent body now) t (some c)
      (let t := t.update fun core =>
        { core with replyContracts := core.replyContracts.erase capability }
      if intent = .abandon then
        (t.completeOk c).progressDeselect now
      else
        let reply : Option (Function × Option SecsItem) :=
          if intent = .abort then some (⟨0⟩, none)
          else (ResponseContract.succFunction primary.function).map fun function =>
            (function, body)
        match reply with
        | none => t.completeError c .replyRequiresAbort
        | some (function, body) =>
          match t.core.allocateWriteId with
          | none => t.failRuntimeInvariant
          | some (writeId, core) =>
            { t with core := core }.sendFrame writeId
              ⟨.dataSend ⟨primary.sessionId, primary.systemBytes⟩, some c⟩
              (.data ⟨⟨primary.sessionId, primary.stream, function, false,
                primary.systemBytes⟩, body⟩)) none := by
  have hsend : ∀ {function : Function} {reply : Option SecsItem}, intent.openKind = .send →
      t.core.repliesBlocked = false →
      ReplyCause (.reply c capability intent body now) capability primary function reply →
      Runs origin (.reply c capability intent body now) t (some c)
        (match (t.update fun core => { core with
            replyContracts := core.replyContracts.erase capability }).core.allocateWriteId with
          | none => (t.update fun core => { core with
              replyContracts := core.replyContracts.erase capability }).failRuntimeInvariant
          | some (writeId, core) =>
            { (t.update fun core => { core with
                replyContracts := core.replyContracts.erase capability }) with
              core := core }.sendFrame writeId
              ⟨.dataSend ⟨primary.sessionId, primary.systemBytes⟩, some c⟩
              (.data ⟨⟨primary.sessionId, primary.stream, function, false,
                primary.systemBytes⟩, reply⟩)) none := by
    intro function reply hkind hunblocked hcause
    rw [hkind] at hopen
    unfold allocateWriteId
    rw [show (t.update fun core => { core with
      replyContracts := core.replyContracts.erase capability }).core.nextWriteId =
        t.core.nextWriteId from rfl]
    cases hnext : t.core.nextWriteId with
    | none => exact Turn.runs_endGeneration_of_frame _ rfl (Or.inl rfl) rfl id
    | some raw =>
      have hnext : t.core.nextWriteId = some (⟨raw⟩ : WriteId).raw := hnext
      exact .effect (.sendReply hstate hlive hopen hheld ⟨hbefore.trans hunblocked,
        hunblocked⟩ hnext
        hcause)
  cases intent with
  | abandon =>
    dsimp only
    rw [if_pos rfl]
    have hstill : (t.update fun core =>
        { core with replyContracts :=
          core.replyContracts.erase capability }).core.openCommands[c]? =
          some .control := hopen
    have hspend : Runs origin (.reply c capability .abandon body now) t (some c)
        ((t.update fun core =>
          { core with replyContracts := core.replyContracts.erase capability }).completeOk c)
            none := by
      unfold Turn.completeOk
      rw [Turn.completeControl_of_open hstill]
      exact .effect (.spendContract hstate hlive hopen hheld rfl (.abandoned rfl))
    exact hspend.trans (Turn.runs_progressDeselect (hspend.coherent h) rfl)
  | abort =>
    dsimp only
    rw [if_neg nofun, if_pos rfl]
    exact hsend rfl (hunblocked nofun) (.abort rfl)
  | secondary =>
    dsimp only
    rw [if_neg nofun, if_neg nofun]
    cases hsucc : ResponseContract.succFunction primary.function with
    | none =>
      have hstill : (t.update fun core => { core with
          replyContracts := core.replyContracts.erase capability }).core.openCommands[c]? =
            some .send := hopen
      have hfunction : primary.function.raw = 255 := by
        unfold ResponseContract.succFunction at hsucc
        by_contra hne
        rw [if_neg hne] at hsucc
        cases hsucc
      dsimp only [Option.map_none]
      rw [Turn.completeError_of_open hstill]
      exact .effect (.spendContract hstate hlive hopen hheld rfl (.exhausted rfl hfunction))
    | some function => exact hsend rfl (hunblocked nofun) (.secondary rfl hsucc)

theorem runs_onReply (h : Coherent none core) (c : CommandId) (capability : ReplyCapabilityId)
    (intent : ReplyIntent) (body : Option SecsItem) (now : MonoTime) :
    Runs core (.reply c capability intent body now)
      (Turn.start (core.entry (.reply c capability intent body now)).core)
      (core.entry (.reply c capability intent body now)).fresh
      (core.onReply c capability intent body now) none := by
  unfold onReply
  cases hcontains : core.openCommands.contains c with
  | true =>
    have hentry : core.entry (.reply c capability intent body now) = ⟨core, false, none⟩ :=
      entry_eq_of_open rfl hcontains
    rw [hentry, if_pos rfl]
    exact Turn.runs_endGeneration _
  | false =>
    have hentry : core.entry (.reply c capability intent body now) =
        ⟨core.accept c intent.openKind, false, some c⟩ := entry_eq_of_vacant rfl hcontains
    rw [hentry, if_neg Bool.false_ne_true]
    refine Turn.runs_acceptTime rfl fun _ => ?_
    have hcoherent : Coherent (some c) ((Turn.start (core.accept c intent.openKind)).update
        fun core => { core with lastNow := some now }).core :=
      (h.accept (TreeMap.contains_eq_false_iff.mp hcontains) _).observe rfl
    have hopen : ((Turn.start (core.accept c intent.openKind)).update
        fun core => { core with lastNow := some now }).core.openCommands[c]? =
          some intent.openKind := openCommands_accept_self _ _
    have hbefore : core.repliesBlocked = ((Turn.start (core.accept c intent.openKind)).update
        fun core => { core with lastNow := some now }).core.repliesBlocked := rfl
    generalize (Turn.start (core.accept c intent.openKind)).update
      (fun core => { core with lastNow := some now }) = t at *
    dsimp only
    split
    · exact Turn.runs_refuse hopen rfl
    · rename_i hready
      simp only [not_or, not_not, Bool.not_eq_true] at hready
      obtain ⟨hlive, hstate⟩ := hready
      split
      · exact Turn.runs_refuse hopen rfl
      · rename_i hblocked
        cases hheld : t.core.replyContracts[capability]? with
        | none => exact Turn.runs_refuse hopen rfl
        | some primary =>
          refine runs_spend hcoherent hlive hstate hopen hbefore (fun hne => ?_) hheld
          cases hb : t.core.repliesBlocked with
          | false => rfl
          | true => exact absurd ⟨hne, hb⟩ hblocked

/-! ## `finalize_writer` -/

/-- The loop of `finalize_writer` over the drained writes. -/
def abandonWrites (t : Turn) (writes : List PendingWrite) : Turn :=
  writes.foldl (fun t write =>
    match write.commandId with
    | some commandId => t.completeError commandId .deliveryIndeterminate
    | none => t) t

/-- What the loop over the drained writes does to a Core whose write table is already empty. -/
structure Abandons (t t' : Turn) (writes : List PendingWrite) : Prop where
  frame : t'.core = { t.core with
    openCommands := t'.core.openCommands
    deferredErrors := t'.core.deferredErrors }
  openCommands : ∀ c : CommandId, t'.core.openCommands[c]? =
    if some c ∈ writes.map PendingWrite.commandId then none else t.core.openCommands[c]?
  deferredErrors : ∀ c : CommandId, t'.core.deferredErrors[c]? =
    if some c ∈ writes.map PendingWrite.commandId then none else t.core.deferredErrors[c]?
  actions : t'.actions = t.actions ++ writes.filterMap t.core.abandonment
  overflowed : t'.overflowed = t.overflowed

theorem abandons_cons_orphan {t t' : Turn} {write : PendingWrite} {writes : List PendingWrite}
    (horphan : write.commandId = none) (h : Abandons t t' writes) :
    Abandons t t' (write :: writes) where
  frame := h.frame
  openCommands c := by
    rw [h.openCommands, List.map_cons, horphan]
    simp
  deferredErrors c := by
    rw [h.deferredErrors, List.map_cons, horphan]
    simp
  actions := by
    rw [h.actions, List.filterMap_cons, abandonment, horphan]
    rfl
  overflowed := h.overflowed

theorem abandonWrites_abandons :
    ∀ (writes : List PendingWrite) (t : Turn), t.core.pendingWrites = ∅ →
      (∀ write ∈ writes, ∀ c, write.commandId = some c →
        ∃ kind, t.core.openCommands[c]? = some kind) →
      (writes.Pairwise fun a b => ∀ c, a.commandId = some c → b.commandId ≠ some c) →
      Abandons t (abandonWrites t writes) writes
  | [], t, _, _, _ =>
    { frame := rfl
      openCommands := by simp [abandonWrites]
      deferredErrors := by simp [abandonWrites]
      actions := by simp [abandonWrites]
      overflowed := rfl }
  | write :: writes, t, hempty, hopen, hdistinct => by
    obtain ⟨hhead, hdistinct⟩ := List.pairwise_cons.mp hdistinct
    have hrestOpen : ∀ write ∈ writes, ∀ c, write.commandId = some c →
        ∃ kind, t.core.openCommands[c]? = some kind :=
      fun other hother => hopen other (List.mem_cons_of_mem _ hother)
    cases hcommand : write.commandId with
    | none =>
      have heq : abandonWrites t (write :: writes) = abandonWrites t writes := by
        rw [abandonWrites, List.foldl_cons, hcommand]
        rfl
      rw [heq]
      exact abandons_cons_orphan hcommand
        (abandonWrites_abandons writes t hempty hrestOpen hdistinct)
    | some c =>
      obtain ⟨kind, hkind⟩ := hopen write List.mem_cons_self c hcommand
      have heq : abandonWrites t (write :: writes) =
          abandonWrites (t.settle c (kind.errorResult .deliveryIndeterminate)) writes := by
        rw [abandonWrites, List.foldl_cons, hcommand]
        dsimp only
        rw [Turn.completeError_of_open hkind]
        rfl
      have hmap : (t.core.detach c).pendingWrites = t.core.pendingWrites := by
        refine pendingWrites_detach_of_resolved (writeUnresolved_eq_false_iff.mpr fun w other hw =>
          ?_)
        rw [hempty, ExtTreeMap.getElem?_empty] at hw
        cases hw
      have hne : ∀ other ∈ writes, ∀ c', other.commandId = some c' → c ≠ c' := by
        rintro other hother c' hc' rfl
        exact hhead other hother c hcommand hc'
      have ih := abandonWrites_abandons writes
          (t.settle c (kind.errorResult .deliveryIndeterminate))
        (hmap.trans hempty) (fun other hother c' hc' => by
          obtain ⟨kind', hkind'⟩ := hrestOpen other hother c' hc'
          refine ⟨kind', ?_⟩
          refine (getElem?_openCommands_detach c').trans ?_
          rw [if_neg (hne other hother c' hc'), hkind']) hdistinct
      have hsettled : (t.settle c (kind.errorResult .deliveryIndeterminate)).core = { t.core with
          openCommands := (t.core.detach c).openCommands
          deferredErrors := (t.core.detach c).deferredErrors } := by
        simp only [Turn.settle, Turn.push, Turn.update, SessionCore.detach] at hmap ⊢
        rw [hmap]
      have hiff : ∀ c', some c' ∈ some c :: writes.map PendingWrite.commandId ↔
          c = c' ∨ some c' ∈ writes.map PendingWrite.commandId := fun c' => by
        rw [List.mem_cons, Option.some.injEq, eq_comm]
      rw [heq]
      refine ⟨?_, fun c' => ?_, fun c' => ?_, ?_, ih.overflowed⟩
      · rw [ih.frame, hsettled]
      · rw [ih.openCommands, List.map_cons, hcommand]
        rw [show (t.settle c (kind.errorResult .deliveryIndeterminate)).core.openCommands[c']? = _
          from getElem?_openCommands_detach c']
        simp only [hiff]
        by_cases hc : c = c'
        · simp [hc]
        · simp [hc]
      · rw [ih.deferredErrors, List.map_cons, hcommand]
        rw [show (t.settle c (kind.errorResult .deliveryIndeterminate)).core.deferredErrors[c']? = _
          from getElem?_deferredErrors_detach c']
        simp only [hiff]
        by_cases hc : c = c'
        · simp [hc]
        · simp [hc]
      · rw [ih.actions, List.filterMap_cons, abandonment, hcommand, Option.bind_some, hkind,
          Option.map_some]
        show (t.actions ++ [_]) ++ _ = _
        rw [List.append_assoc, List.singleton_append]
        congr 2
        refine List.filterMap_congr fun other hother => ?_
        unfold abandonment
        cases hother' : other.commandId with
        | none => rfl
        | some c' =>
          rw [Option.bind_some, Option.bind_some]
          rw [show (t.settle c (kind.errorResult .deliveryIndeterminate)).core.openCommands[c']? = _
            from getElem?_openCommands_detach c', if_neg (hne other hother c' hother')]

/-- The commands of the writes in the table, read through the table. -/
theorem mem_commands_iff_writeUnresolved {c : CommandId} :
    some c ∈ (core.pendingWrites.toList.map Prod.snd).map PendingWrite.commandId ↔
      core.writeUnresolved c = true := by
  rw [writeUnresolved_iff, List.mem_map]
  simp only [TreeMap.mem_map_snd_toList]
  constructor
  · rintro ⟨write, ⟨w, hw⟩, hcommand⟩
    exact ⟨w, write, hw, hcommand⟩
  · rintro ⟨w, write, hw, hcommand⟩
    exact ⟨write, ⟨w, hw⟩, hcommand⟩

/-- The writes of a coherent Core are given up as `Abandons` says. -/
theorem abandons_of_coherent {t : Turn} (h : Coherent none t.core) :
    Abandons (t.update fun core => { core with pendingWrites := ∅ })
      (abandonWrites (t.update fun core => { core with pendingWrites := ∅ })
        (t.core.pendingWrites.toList.map Prod.snd))
      (t.core.pendingWrites.toList.map Prod.snd) :=
  abandonWrites_abandons _ _ rfl
    (fun write hwrite c hcommand => by
      obtain ⟨w, hw⟩ := TreeMap.mem_map_snd_toList.mp hwrite
      obtain ⟨kind, -, hopen⟩ := h.write_open w write c hw hcommand
      exact ⟨kind, hopen⟩) h.distinct_writes

/-- The same, read through the tables. -/
theorem abandoned_of_abandons {t mid : Turn}
    (habandons : Abandons (t.update fun core => { core with pendingWrites := ∅ }) mid
      (t.core.pendingWrites.toList.map Prod.snd)) : t.core.Abandoned mid.core := by
  refine ⟨habandons.frame, fun c => ?_, fun c => ?_⟩
  · rw [habandons.openCommands]
    simp only [mem_commands_iff_writeUnresolved]
    rfl
  · rw [habandons.deferredErrors]
    simp only [mem_commands_iff_writeUnresolved]
    rfl

theorem runs_finalize {origin : SessionCore} {t : Turn} {now : MonoTime} (h : Coherent none t.core)
    (hclosing : t.core.closing = true) :
    Runs origin (.finalizeWriter now) t none t.finalize none := by
  have habandons := abandons_of_coherent h
  show Runs origin (.finalizeWriter now) t none
    ((abandonWrites (t.update fun core => { core with pendingWrites := ∅ })
      (t.core.pendingWrites.toList.map Prod.snd)).completeAll .connectionLost) none
  generalize abandonWrites (t.update fun core => { core with pendingWrites := ∅ })
    (t.core.pendingWrites.toList.map Prod.snd) = mid at habandons
  have hmid : Runs origin (.finalizeWriter now) t none mid none :=
    .of_effect (.abandonWrites rfl hclosing (abandoned_of_abandons habandons)) rfl
      habandons.actions habandons.overflowed
  have hmidClosing : mid.core.closing = true := by
    rw [habandons.frame]
    exact hclosing
  have hall := mid.completeAll_completes .connectionLost
  exact hmid.trans (.of_effect (.loseCommands rfl hmidClosing hall.toCompleted) rfl
    mid.completeAll_actions hall.overflowed)

theorem runs_finalizeWriter (h : Coherent none core) (now : MonoTime) :
    Runs core (.finalizeWriter now) (Turn.start core) none (core.finalizeWriter now) none := by
  unfold finalizeWriter
  refine Turn.runs_acceptTime rfl fun _ => ?_
  split
  · exact Turn.runs_endGeneration _
  · rename_i hclosing
    exact runs_finalize (h.observe rfl) (by simpa using hclosing)

/-! ## `on_write_outcome_at` -/

section

variable {origin : SessionCore} {t : Turn} {w : WriteId} {write : PendingWrite}
  {occurredAt now : MonoTime}

/-- A request write that commits without a parked error and without its transaction has no
command. -/
theorem commandId_eq_none_of_unowned (h : Coherent none core)
    (hpending : core.pendingWrites[w]? = some write)
    (hreleased : Turn.releasedError core write .committed = none)
    (hcontrol : write.kind = .transactionRequest → ∀ transaction,
      core.activeTransaction = some transaction → transaction.writeId ≠ w)
    (hrequest : ∀ sb, write.kind = .dataRequest sb → ∀ transaction,
      core.dataTransactions[sb]? = some transaction → transaction.writeId ≠ w)
    (hkind : write.kind = .transactionRequest ∨ ∃ sb, write.kind = .dataRequest sb) :
    write.commandId = none := by
  cases hcommand : write.commandId with
  | none => rfl
  | some c =>
    exfalso
    cases hclosing : core.closing with
    | false =>
      rcases hkind with hkind | ⟨sb, hkind⟩
      · obtain ⟨transaction, hactive, hown, -⟩ :=
          h.write_control hclosing w write c hpending hkind hcommand
        exact hcontrol hkind transaction hactive hown
      · obtain ⟨transaction, hsb, hown, -⟩ :=
          h.write_request hclosing w write sb c hpending hkind hcommand
        exact hrequest sb hkind transaction hsb hown
    | true =>
      obtain ⟨error, herror⟩ := h.closing_deferred hclosing w write c hpending hcommand hkind
      unfold Turn.releasedError at hreleased
      rcases hkind with hkind | ⟨sb, hkind⟩
      · rw [hkind, hcommand] at hreleased
        dsimp only at hreleased
        rw [herror] at hreleased
        cases hreleased
      · rw [hkind, hcommand] at hreleased
        dsimp only at hreleased
        rw [herror] at hreleased
        cases hreleased

theorem runs_commitSilently (hpending : t.core.pendingWrites[w]? = some write)
    (horphan : write.commandId = none) :
    Runs origin (.writeOutcome w .committed occurredAt now) t none
      (t.update fun core => core.eraseWrite w) none :=
  .silent (.commitSilently rfl hpending horphan)

/-- The deadline of a committed request overflows: the write is lost in the close. -/
theorem runs_lostWrite {pre : Turn} {activeTransaction : Option ControlTransaction}
    {dataTransactions : ExtTreeMap SystemBytes DataTransaction} {lastActivity : Option MonoTime}
    (hlive : t.core.closing = false) (hpending : t.core.pendingWrites[w]? = some write)
    (hcore : pre.core = { t.core.eraseWrite w with
      activeTransaction := activeTransaction
      dataTransactions := dataTransactions
      lastActivity := lastActivity })
    (hactions : pre.actions = t.actions) (hoverflowed : pre.overflowed = true) :
    Runs origin (.writeOutcome w .committed occurredAt now) t none
      (pre.endGeneration .runtimeInvariant) none := by
  have hended := pre.endGeneration_ended .runtimeInvariant
  have hend := pre.endGeneration_actions .runtimeInvariant
  rw [hcore] at hended hend
  -- closing empties both transaction tables, so it does not matter what they held
  have hdone : SessionCore.Ended { t.core.eraseWrite w with lastActivity := lastActivity }
      (pre.endGeneration .runtimeInvariant).core :=
    ⟨hended.frame, hended.openCommands, hended.deferredErrors⟩
  refine .of_effect (.lostWrite .runtimeInvariant rfl hpending hlive rfl hdone) rfl ?_ ?_
  · rw [hend, hactions]
    rfl
  · rw [Turn.endGeneration_overflowed, hoverflowed]

/-- A commit whose command and transaction a close has already taken away. -/
structure Dropped (core : SessionCore) (write : PendingWrite) : Prop where
  control : core.activeTransaction = none
  request : core.dataTransactions = ∅
  command : ∀ c, write.commandId = some c →
    core.openCommands[c]? = none ∧ core.deferredErrors[c]? = none

theorem runs_commitDropped {input : Input} (hdropped : Dropped t.core write) :
    Turn.releasedError t.core write .committed = none ∧
      Runs origin input t none (t.commitWrite w write occurredAt) none := by
  constructor
  · unfold Turn.releasedError
    cases hcommand : write.commandId with
    | none => cases write.kind <;> rfl
    | some c => cases write.kind <;> simp [(hdropped.command c hcommand).2]
  · unfold Turn.commitWrite
    cases write.kind with
    | transactionRequest =>
      dsimp only
      rw [hdropped.control]
      exact .refl _ _
    | dataRequest sb =>
      dsimp only
      rw [hdropped.request, ExtTreeMap.getElem?_empty]
      exact .refl _ _
    | dataSend correlation =>
      cases hcommand : write.commandId with
      | none => exact .refl _ _
      | some c =>
        unfold Turn.completeSend
        dsimp only
        rw [(hdropped.command c hcommand).1, if_pos nofun]
        exact Turn.runs_endGeneration _
    | separate =>
      cases hcommand : write.commandId with
      | none => exact .refl _ _
      | some c =>
        unfold Turn.completeControl
        dsimp only
        rw [(hdropped.command c hcommand).1, if_pos nofun]
        exact Turn.runs_endGeneration _
    | response => exact .refl _ _

/-- The close takes away the command of a write that it finds already resolved. -/
theorem dropped_of_lost {pre : Turn} {lastActivity : Option MonoTime}
    (h : Coherent none t.core) (hlive : t.core.closing = false)
    (hpending : t.core.pendingWrites[w]? = some write)
    (hcore : pre.core = { t.core.eraseWrite w with lastActivity := lastActivity })
    (reason : GenerationCloseReason) : Dropped (pre.endGeneration reason).core write := by
  have hended := pre.endGeneration_ended reason
  rw [hcore] at hended
  refine ⟨?_, ?_, fun c hcommand => ?_⟩
  · rw [hended.frame]
  · rw [hended.frame]
  · have hresolved : SessionCore.writeUnresolved
        { t.core.eraseWrite w with lastActivity := lastActivity } c = false := by
      refine writeUnresolved_eq_false_iff.mpr fun w' other hw' hother => ?_
      have hw' : (t.core.eraseWrite w).pendingWrites[w']? = some other := hw'
      rw [eraseWrite_pendingWrites] at hw'
      split at hw'
      · cases hw'
      · rename_i hne
        exact hne (h.write_unique w w' write other c hpending hw' hcommand hother)
    have hdeferred : t.core.deferredErrors[c]? = none := h.deferred_closing hlive c
    constructor
    · rw [hended.openCommands, hresolved]
      rfl
    · rw [hended.deferredErrors, hresolved]
      split
      · rfl
      · exact hdeferred

theorem runs_commitWrite (h : Coherent none t.core)
    (hpending : t.core.pendingWrites[w]? = some write)
    (hreleased : Turn.releasedError t.core write .committed = none) :
    Runs origin (.writeOutcome w .committed occurredAt now) t none
      ((t.update fun core => core.eraseWrite w).commitWrite w write occurredAt) none := by
  have hunowned := commandId_eq_none_of_unowned h hpending hreleased
  unfold Turn.commitWrite
  cases hkind : write.kind with
  | transactionRequest =>
    have hsilent : (∀ transaction, t.core.activeTransaction = some transaction →
        transaction.writeId ≠ w) → Runs origin (.writeOutcome w .committed occurredAt now) t none
          (t.update fun core => core.eraseWrite w) none := by
      intro hother
      refine runs_commitSilently hpending (hunowned (fun _ => hother) ?_ (Or.inl hkind))
      intro sb hsb
      rw [hkind] at hsb
      cases hsb
    dsimp only
    rw [show (t.update fun core => core.eraseWrite w).core.activeTransaction =
      t.core.activeTransaction from rfl]
    cases hactive : t.core.activeTransaction with
    | none =>
      refine hsilent fun transaction htransaction => ?_
      rw [hactive] at htransaction
      cases htransaction
    | some transaction =>
      dsimp only
      split
      · rename_i hown
        rw [show (t.update fun core => core.eraseWrite w).core.config = t.core.config from rfl]
        cases hadd : occurredAt.checkedAdd t.core.config.timeouts.t6 with
        | none =>
          exact runs_lostWrite (h.live_of_active hactive) hpending rfl rfl rfl
        | some deadline => exact .silent (.commitControl rfl hpending hactive hown hadd)
      · rename_i hother
        refine hsilent fun transaction' htransaction => ?_
        rw [hactive] at htransaction
        rwa [← Option.some.inj htransaction]
  | dataRequest sb =>
    have hsilent : (∀ transaction, t.core.dataTransactions[sb]? = some transaction →
        transaction.writeId ≠ w) → Runs origin (.writeOutcome w .committed occurredAt now) t none
          (t.update fun core => core.eraseWrite w) none := by
      intro hother
      refine runs_commitSilently hpending (hunowned ?_ ?_ (Or.inr ⟨sb, hkind⟩))
      · intro hcontrol
        rw [hkind] at hcontrol
        cases hcontrol
      · intro sb' hsb'
        rw [hkind] at hsb'
        obtain rfl : sb = sb' := by simpa using hsb'
        exact hother
    dsimp only
    rw [show (t.update fun core => core.eraseWrite w).core.dataTransactions[sb]? =
      t.core.dataTransactions[sb]? from rfl]
    cases hlive : t.core.dataTransactions[sb]? with
    | none =>
      refine hsilent fun transaction htransaction => ?_
      rw [hlive] at htransaction
      cases htransaction
    | some transaction =>
      dsimp only
      split
      · rename_i hown
        rw [show (t.update fun core => core.eraseWrite w).core.config = t.core.config from rfl]
        cases hadd : occurredAt.checkedAdd t.core.config.timeouts.t3 with
        | none =>
          exact runs_lostWrite (h.live_of_request hlive) hpending rfl rfl rfl
        | some deadline => exact .silent (.commitRequest rfl hpending hlive hown hadd)
      · rename_i hother
        refine hsilent fun transaction' htransaction => ?_
        rw [hlive] at htransaction
        rwa [← Option.some.inj htransaction]
  | dataSend correlation =>
    dsimp only
    cases hcommand : write.commandId with
    | none => exact runs_commitSilently hpending hcommand
    | some c =>
      obtain ⟨kind, hclass, hopen⟩ := h.write_open w write c hpending hcommand
      rw [hkind] at hclass
      obtain rfl : OpenCommandKind.send = kind := Option.some.inj hclass
      have hstill : (t.update fun core => core.eraseWrite w).core.openCommands[c]? =
          some .send := hopen
      dsimp only
      rw [Turn.completeSend_of_open hstill]
      exact .effect (.commitCommand rfl hpending hcommand (.send hkind))
  | separate =>
    dsimp only
    cases hcommand : write.commandId with
    | none => exact runs_commitSilently hpending hcommand
    | some c =>
      obtain ⟨kind, hclass, hopen⟩ := h.write_open w write c hpending hcommand
      rw [hkind] at hclass
      obtain rfl : OpenCommandKind.control = kind := Option.some.inj hclass
      have hstill : (t.update fun core => core.eraseWrite w).core.openCommands[c]? =
          some .control := hopen
      dsimp only
      rw [Turn.completeControl_of_open hstill]
      exact .effect (.commitCommand rfl hpending hcommand (.separate hkind))
  | response =>
    refine runs_commitSilently hpending ?_
    cases hcommand : write.commandId with
    | none => rfl
    | some c =>
      obtain ⟨kind, hclass, -⟩ := h.write_open w write c hpending hcommand
      rw [hkind] at hclass
      cases hclass

theorem runs_resolveWrite {outcome : WriteOutcome} (h : Coherent none t.core)
    (hpending : t.core.pendingWrites[w]? = some write)
    (hreleased : Turn.releasedError t.core write outcome = none)
    (hbefore : t.core.activeTransaction = origin.activeTransaction) :
    Runs origin (.writeOutcome w outcome occurredAt now) t none
      ((t.update fun core => core.eraseWrite w).resolveWrite w write outcome occurredAt) none := by
  cases outcome with
  | committed => exact runs_commitWrite h hpending hreleased
  | notWritten fault =>
    have hfail : Runs origin (.writeOutcome w (.notWritten fault) occurredAt now) t none
        (failedWrite t w write .connectionLost) none :=
      runs_failedWrite h hpending (.notWritten rfl) hbefore
    exact hfail.trans (Turn.runs_endGeneration .transportLost)
  | indeterminate fault =>
    have hfail : Runs origin (.writeOutcome w (.indeterminate fault) occurredAt now) t none
        (failedWrite t w write .deliveryIndeterminate) none :=
      runs_failedWrite h hpending (.indeterminate rfl) hbefore
    exact hfail.trans (Turn.runs_endGeneration .transportLost)

/-- A commit that releases a parked error. -/
theorem runs_releaseError {outcome : WriteOutcome} {c : CommandId} {error : OperationError}
    (h : Coherent none t.core) (hpending : t.core.pendingWrites[w]? = some write)
    (hreleased : Turn.releasedError t.core write outcome = some (c, error)) :
    Runs origin (.writeOutcome w outcome occurredAt now) t none
      (((t.update fun core => core.eraseWrite w).update fun core =>
        { core with deferredErrors := core.deferredErrors.erase c }).completeError c error)
          none := by
  have hparts : outcome = .committed ∧ write.commandId = some c ∧
      (write.kind = .transactionRequest ∨ ∃ sb, write.kind = .dataRequest sb) ∧
      t.core.deferredErrors[c]? = some error := by
    unfold Turn.releasedError at hreleased
    split at hreleased
    · rename_i hkind hcommand
      obtain ⟨found, hfound, heq⟩ := Option.map_eq_some_iff.mp hreleased
      obtain ⟨rfl, rfl⟩ := Prod.mk.inj heq
      exact ⟨rfl, hcommand, Or.inl hkind, hfound⟩
    · rename_i hkind hcommand
      obtain ⟨found, hfound, heq⟩ := Option.map_eq_some_iff.mp hreleased
      obtain ⟨rfl, rfl⟩ := Prod.mk.inj heq
      exact ⟨rfl, hcommand, Or.inr ⟨_, hkind⟩, hfound⟩
    · cases hreleased
  obtain ⟨rfl, hcommand, hkind, hdeferred⟩ := hparts
  obtain ⟨kind, -, hopen⟩ := h.write_open w write c hpending hcommand
  have hstill : ((t.update fun core => core.eraseWrite w).update fun core =>
      { core with deferredErrors := core.deferredErrors.erase c }).core.openCommands[c]? =
        some kind := hopen
  rw [Turn.completeError_of_open hstill]
  refine .of_effect (.commitCommand rfl hpending hcommand (.released hopen hkind hdeferred)) ?_ rfl
    rfl
  have hidem : (t.core.deferredErrors.erase c).erase c = t.core.deferredErrors.erase c := by
    refine ExtTreeMap.ext_getElem? fun {c'} => ?_
    simp only [TreeMap.getElem?_erase]
    split <;> rfl
  show SessionCore.detach { t.core.eraseWrite w with
    deferredErrors := t.core.deferredErrors.erase c } c = _
  simp only [SessionCore.detach, eraseWrite, hidem]

theorem runs_settleWrite {outcome : WriteOutcome} (h : Coherent none t.core)
    (hpending : t.core.pendingWrites[w]? = some write)
    (hbefore : t.core.activeTransaction = origin.activeTransaction) :
    Runs origin (.writeOutcome w outcome occurredAt now) t none
      ((t.update fun core => core.eraseWrite w).settleWrite w write outcome occurredAt now)
        none := by
  unfold Turn.settleWrite
  rw [show Turn.releasedError (t.update fun core => core.eraseWrite w).core write outcome =
    Turn.releasedError t.core write outcome from rfl]
  cases hreleased : Turn.releasedError t.core write outcome with
  | some released => exact runs_releaseError h hpending hreleased
  | none =>
    have hresolve : Runs origin (.writeOutcome w outcome occurredAt now) t none
        ((t.update fun core => core.eraseWrite w).resolveWrite w write outcome occurredAt) none :=
      runs_resolveWrite h hpending hreleased hbefore
    have hkept : Turn.ControlKept origin (t.update fun core => core.eraseWrite w) :=
      fun _ => Turn.control_congr hbefore
    exact hresolve.trans (Turn.runs_expireDeadlines (hresolve.coherent h) rfl rfl
      (hkept.resolveWrite w write outcome occurredAt))

/-- A commit whose activity overflows: the write is lost, and what is left of the round finds
nothing more to do for it. -/
theorem runs_settleLost {lastActivity : Option MonoTime} (h : Coherent none t.core)
    (hlive : t.core.closing = false) (hpending : t.core.pendingWrites[w]? = some write) :
    Runs origin (.writeOutcome w .committed occurredAt now) t none
      (((((t.update fun core => core.eraseWrite w).update fun core =>
        { core with lastActivity := lastActivity }).noteOverflow.endGeneration
          .runtimeInvariant).update fun core =>
            { core with idleDeadline := none }).settleWrite w write .committed occurredAt now)
      none := by
  have hlost : Runs origin (.writeOutcome w .committed occurredAt now) t none
      (((t.update fun core => core.eraseWrite w).update fun core =>
        { core with lastActivity := lastActivity }).noteOverflow.endGeneration .runtimeInvariant)
      none := runs_lostWrite hlive hpending rfl rfl rfl
  have hdropped : Dropped (((t.update fun core => core.eraseWrite w).update fun core =>
      { core with lastActivity := lastActivity }).noteOverflow.endGeneration
        .runtimeInvariant).core write := dropped_of_lost h hlive hpending rfl .runtimeInvariant
  have hclosed : (((t.update fun core => core.eraseWrite w).update fun core =>
      { core with lastActivity := lastActivity }).noteOverflow.endGeneration
        .runtimeInvariant).core.closing = true := Turn.endGeneration_closing _ _
  generalize ((t.update fun core => core.eraseWrite w).update fun core =>
    { core with lastActivity := lastActivity }).noteOverflow.endGeneration .runtimeInvariant = mid
    at hlost hdropped hclosed
  have hquiet : Runs origin (.writeOutcome w .committed occurredAt now) t none
      (mid.update fun core => { core with idleDeadline := none }) none :=
    hlost.trans (.silent (.observe _ _ _))
  have hkept : Turn.ControlKept origin (mid.update fun core =>
    { core with idleDeadline := none }) :=
    fun hlive => absurd hclosed (Bool.not_eq_true _ ▸ hlive)
  have hdropped : Dropped (mid.update fun core => { core with idleDeadline := none }).core write :=
    ⟨hdropped.control, hdropped.request, hdropped.command⟩
  generalize mid.update (fun core => { core with idleDeadline := none }) = last
    at hquiet hdropped hkept
  have hcommit : Turn.releasedError last.core write .committed = none ∧
      Runs origin (.writeOutcome w .committed occurredAt now) last none
        (last.commitWrite w write occurredAt) none := runs_commitDropped hdropped
  obtain ⟨hreleased, hcommit⟩ := hcommit
  unfold Turn.settleWrite
  rw [hreleased]
  have hall := hquiet.trans hcommit
  exact hall.trans (Turn.runs_expireDeadlines (hall.coherent h) rfl rfl
    (hkept.commitWrite w write occurredAt))

theorem runs_onWriteOutcomeAt (h : Coherent none core) (outcome : WriteOutcome) :
    Runs core (.writeOutcome w outcome occurredAt now) (Turn.start core) none
      (core.onWriteOutcomeAt w outcome occurredAt now) none := by
  unfold onWriteOutcomeAt
  refine Turn.runs_acceptTime rfl fun _ => ?_
  have hcoherent : Coherent none ((Turn.start core).update
    fun core => { core with lastNow := some now }).core := h.observe rfl
  have hbefore : ((Turn.start core).update
    fun core => { core with lastNow := some now }).core.activeTransaction =
      core.activeTransaction := rfl
  generalize (Turn.start core).update (fun core => { core with lastNow := some now }) = t
    at hcoherent hbefore
  split
  · exact Turn.runs_endGeneration _
  · cases hpending : t.core.pendingWrites[w]? with
    | none => exact Turn.runs_endGeneration _
    | some write =>
      dsimp only
      split
      · rename_i hcommitted
        obtain ⟨rfl, hlive⟩ := hcommitted
        have hlive : t.core.closing = false := (Bool.not_eq_true' _).mp hlive
        rcases (t.update fun core => core.eraseWrite w).recordActivity_cases occurredAt with
          ⟨-, lastActivity, idleDeadline, hrec⟩ | ⟨lastActivity, hrec⟩
        · -- the activity does not touch the write, so it can be recorded first
          have hobserve : Runs core (.writeOutcome w .committed occurredAt now) t none
              (t.update fun core =>
                { core with lastActivity := lastActivity, idleDeadline := idleDeadline }) none :=
            .silent (.observe _ _ _)
          have hpending' : (t.update fun core =>
              { core with
                lastActivity := lastActivity
                idleDeadline := idleDeadline }).core.pendingWrites[w]? = some write := hpending
          refine hobserve.trans ?_
          rw [show (t.update fun core => { core with
            pendingWrites := core.pendingWrites.erase w }).recordActivity occurredAt = _ from hrec]
          exact runs_settleWrite (hobserve.coherent hcoherent) hpending' hbefore
        · rw [show (t.update fun core => { core with
            pendingWrites := core.pendingWrites.erase w }).recordActivity occurredAt = _ from hrec]
          exact runs_settleLost hcoherent hlive hpending
      · exact runs_settleWrite hcoherent hpending hbefore

end

/-! ## The machine -/

/-- **Every round is a sequence of effects**, with the same actions in the same order, and it ends
with no accepted command left unowned. -/
theorem runs_handle (h : Coherent none core) (input : Input) :
    Runs core input (Turn.start (core.entry input).core) (core.entry input).fresh
      (core.handle input) none := by
  have hsilent : input.presented = none → Runs core input (Turn.start core) none
      (core.handle input) none → Runs core input (Turn.start (core.entry input).core)
        (core.entry input).fresh (core.handle input) none := by
    intro hpresented hrun
    rw [entry_eq_of_silent hpresented]
    exact hrun
  cases input with
  | connected now => exact hsilent rfl (runs_onConnected now)
  | command command now => exact runs_onCommand h command now
  | message message now => exact hsilent rfl (runs_onMessage h message now)
  | inboundViolation violation now => exact hsilent rfl (runs_onInboundViolation violation now)
  | reply c capability intent body now => exact runs_onReply h c capability intent body now
  | writeOutcome w outcome occurredAt now => exact hsilent rfl (runs_onWriteOutcomeAt h outcome)
  | shutdown reason failedWriteId now =>
    exact hsilent rfl (runs_onShutdown h rfl fun w hw => by rw [hw])
  | finishShutdownDrain reason now => exact hsilent rfl (runs_finishShutdownDrain h reason now)
  | advanceTime now => exact hsilent rfl (runs_advanceTime h now)
  | finalizeWriter now => exact hsilent rfl (runs_finalizeWriter h now)

theorem steps_handle (h : Coherent none core) (input : Input) :
    Steps (Effect core input) (core.entry input) (core.handle input).actions
      ⟨(core.handle input).core, (core.handle input).overflowed, none⟩ := by
  obtain ⟨actions, hactions, hs⟩ := runs_handle h input
  have hentry : (core.entry input).overflowed = false := by
    unfold entry
    split <;> rfl
  rw [show (Turn.start (core.entry input).core).overflowed = (core.entry input).overflowed from
    hentry.symm] at hs
  rw [hactions]
  exact hs

/-- The Core as a reactive machine. -/
def machine : Machine SessionCore Input CoreAction where
  step core input := ((core.handle input).core, (core.handle input).actions)

/-- A new Core whose identifier spaces start anywhere. -/
def initial (config : SessionCoreConfig) (nextWriteId : Option UInt64)
    (nextSystemBytes : Option UInt32) : SessionCore :=
  (SessionCore.new config).seedIdentifiers nextWriteId nextSystemBytes

end SessionCore

theorem coherent_initial (config : SessionCoreConfig) (nextWriteId : Option UInt64)
    (nextSystemBytes : Option UInt32) :
    Coherent none (SessionCore.initial config nextWriteId nextSystemBytes) where
  fresh_open := nofun
  fresh_unreferenced := nofun
  control_open := nofun
  drain_open := nofun
  request_open _ _ hsb := absurd hsb TreeMap.getElem?_empty_ne
  write_open _ _ _ hw := absurd hw TreeMap.getElem?_empty_ne
  request_key _ _ hsb := absurd hsb TreeMap.getElem?_empty_ne
  write_unique _ _ _ _ _ hw := absurd hw TreeMap.getElem?_empty_ne
  request_unique _ _ _ _ hsb := absurd hsb TreeMap.getElem?_empty_ne
  write_used _ _ hw := absurd hw TreeMap.getElem?_empty_ne
  control_used := nofun
  request_used _ _ hsb := absurd hsb TreeMap.getElem?_empty_ne
  control_write := nofun
  request_write _ _ _ hsb := absurd hsb TreeMap.getElem?_empty_ne
  write_control _ _ _ _ hw := absurd hw TreeMap.getElem?_empty_ne
  write_request _ _ _ _ _ hw := absurd hw TreeMap.getElem?_empty_ne
  write_separate _ _ _ hw := absurd hw TreeMap.getElem?_empty_ne
  control_armed := nofun
  request_armed _ _ hsb := absurd hsb TreeMap.getElem?_empty_ne
  drain_alone := nofun
  closing_empty := nofun
  closing_issued := rfl
  deferred_closing _ _ := ExtTreeMap.getElem?_empty
  deferred_write _ _ hc := absurd hc TreeMap.getElem?_empty_ne
  closing_deferred := nofun
  state_range := Or.inl rfl
  deselect_quiet := nofun
  unselected_quiet _ _ := ⟨⟨rfl, fun _ _ hw => absurd hw TreeMap.getElem?_empty_ne⟩, rfl⟩

/-- One round keeps the cross-reference invariant. -/
theorem Coherent.handle {core : SessionCore} (h : Coherent none core) (input : Input) :
    Coherent none (core.handle input).core :=
  coherent_of_steps (steps_handle h input) (h.entry input)

/-! ## A run to start from -/

namespace Scenario

/-- The default configuration of the session with Data Session ID 7. -/
def config : SessionCoreConfig := .new ⟨7, by decide⟩

/-- An inbound Primary of stream 3 for that session. -/
def primary (function : UInt8) (replyExpected : Bool) (systemBytes : UInt32) : DataMessage :=
  ⟨⟨config.sessionId, ⟨3, by decide⟩, ⟨function⟩, replyExpected, ⟨systemBytes⟩⟩, none⟩

/-- A local Primary S1F1 without a body. -/
def request : PrimaryMessage := ⟨⟨1, by decide⟩, ⟨1⟩, none⟩

/-- The peer connects and selects the session, and the response is committed. -/
def selected : List Input :=
  [.connected .zero, .message (.control (.selectRequest controlSessionId ⟨99⟩)) .zero,
    .writeOutcome ⟨0⟩ .committed .zero .zero]

example : (machine.after (SessionCore.new config) selected).state = some .selected := by
  decide

end Scenario

end Hsms
end SecsRust

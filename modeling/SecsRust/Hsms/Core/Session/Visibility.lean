import SecsRust.Hsms.Core.Session.Matching
import SecsRust.Hsms.Core.Session.Deselection

/-!
# Completions and the visibility of a frame

Between the emission of a Data frame and the outcome of its write nobody here knows whether
the peer has seen the frame.  The Core then lets only the peer complete the command of the
frame: its answer proves that the frame was seen.  Every error of our own that arises
meanwhile is parked in `deferred_errors`, and the outcome overrides it or releases it.

## The argument

`Carries` says that a pending write carries the frame of an open command.  One effect keeps
it, or the peer answers the frame, or the write is resolved; the induction over a round and
over a run is on these cases.  Where the outcome is `NotWritten` the command gets
`ConnectionLost` or what was parked, where it is `Indeterminate` it gets
`DeliveryIndeterminate`, and where it is `Committed` it gets the parked error, its receipt,
or nothing yet if a response is still to come.

## The end of the Writer

`finalize_writer` gives up the writes that are left, and their commands get
`DeliveryIndeterminate` as well. Its documented precondition is a generation that is
closing.  Called on an open Core it completes nothing, and the statement is made for closing
Cores; the counterexample is beside it.
-/

namespace SecsRust
namespace Hsms

open Std Secs2 SessionCore

/-- The class of the command that a Data frame belongs to: a Request, or a Send or reply. -/
def DataMessage.openKind (frame : DataMessage) : OpenCommandKind :=
  if frame.header.replyExpected then .request else .send

/-- The peer answers a frame: it rejects the frame, or it sends the Secondary or the F0 abort of a
Request. -/
inductive PeerVerdict (input : Input) (frame : DataMessage) : CoreCommandResult → Prop where
  | sendRejected {sessionId : UInt16} {headerByte2 : UInt8} {reason : RejectReason}
      {systemBytes : SystemBytes}
      {now : MonoTime}
      (received : input = .message (.control
        (.rejectRequest sessionId headerByte2 reason systemBytes)) now)
      (send : frame.header.replyExpected = false)
      (names : matchesDataReject frame.header.sessionId frame.header.systemBytes sessionId
        headerByte2 reason
        systemBytes = true) :
      PeerVerdict input frame (.send (.error (.peerRejected reason)))
  | requestRejected {sessionId : UInt16} {headerByte2 : UInt8} {reason : RejectReason}
      {systemBytes : SystemBytes} {now : MonoTime}
      (received : input = .message (.control
        (.rejectRequest sessionId headerByte2 reason systemBytes)) now)
      (request : frame.header.replyExpected = true)
      (names : frame.contract.matchesReject sessionId headerByte2 reason systemBytes = true) :
      PeerVerdict input frame (.request (.error (.peerRejected reason)))
  | answered {message : DataMessage} {now : MonoTime}
      (received : input = .message (.data message) now)
      (request : frame.header.replyExpected = true)
      (key : message.header.systemBytes = frame.header.systemBytes)
      (normal : frame.contract.classify message = .normal) :
      PeerVerdict input frame (.request (.ok ⟨message.header, message.body⟩))
  | aborted {message : DataMessage} {now : MonoTime}
      (received : input = .message (.data message) now)
      (request : frame.header.replyExpected = true)
      (key : message.header.systemBytes = frame.header.systemBytes)
      (abort : frame.contract.classify message = .abort) :
      PeerVerdict input frame (.request (.error (.protocol .transactionAborted)))

/-- What the end of a write makes of the command of its frame. -/
inductive OutcomeCause (input : Input) (w : WriteId) (frame : DataMessage) (overflowed : Bool) :
    CoreCommandResult → Prop where
  | committed {occurredAt now : MonoTime}
      (outcome : input = .writeOutcome w .committed occurredAt now)
      (send : frame.header.replyExpected = false) : OutcomeCause input w frame overflowed
      (.send (.ok ⟨w⟩))
  | released {occurredAt now : MonoTime} (error : OperationError)
      (outcome : input = .writeOutcome w .committed occurredAt now)
      (request : frame.header.replyExpected = true) :
      OutcomeCause input w frame overflowed (frame.openKind.errorResult error)
  | failed {error : OperationError} (cause : FailureCause input w error) :
      OutcomeCause input w frame overflowed (frame.openKind.errorResult error)
  | abandoned {now : MonoTime} (finalize : input = .finalizeWriter now) :
      OutcomeCause input w frame overflowed (frame.openKind.errorResult .deliveryIndeterminate)
  | lost {occurredAt now : MonoTime} (outcome : input = .writeOutcome w .committed occurredAt now)
      (overflow : overflowed = true) :
      OutcomeCause input w frame overflowed (frame.openKind.errorResult .connectionLost)

theorem OutcomeCause.mono {input : Input} {w : WriteId} {frame : DataMessage}
    {overflowed overflowed' : Bool}
    {result : CoreCommandResult} (h : OutcomeCause input w frame overflowed result)
    (hmono : overflowed = true → overflowed' = true) :
    OutcomeCause input w frame overflowed' result := by
  cases h with
  | committed outcome send => exact .committed outcome send
  | released error outcome request => exact .released error outcome request
  | failed cause => exact .failed cause
  | abandoned finalize => exact .abandoned finalize
  | lost outcome overflow => exact .lost outcome (hmono overflow)

/-- What a write outcome makes of the command. -/
theorem OutcomeCause.of_outcome {w : WriteId} {frame : DataMessage} {overflowed : Bool}
    {result : CoreCommandResult} {outcome : WriteOutcome} {occurredAt now : MonoTime}
    (h : OutcomeCause (.writeOutcome w outcome occurredAt now) w frame overflowed result) :
    (outcome = .committed ∧
      (frame.header.replyExpected = false → overflowed = false → result = .send (.ok ⟨w⟩))) ∨
    (∃ fault, outcome = .notWritten fault ∧ result = frame.openKind.errorResult .connectionLost) ∨
    (∃ fault, outcome = .indeterminate fault ∧
      result = frame.openKind.errorResult .deliveryIndeterminate) := by
  cases h with
  | committed outcome _ =>
    cases outcome
    exact Or.inl ⟨rfl, fun _ _ => rfl⟩
  | released _ outcome request =>
    cases outcome
    exact Or.inl ⟨rfl, fun hsend _ => absurd (hsend.symm.trans request) Bool.false_ne_true⟩
  | failed cause =>
    cases cause with
    | notWritten outcome =>
      cases outcome
      exact Or.inr (Or.inl ⟨_, rfl, rfl⟩)
    | indeterminate outcome =>
      cases outcome
      exact Or.inr (Or.inr ⟨_, rfl, rfl⟩)
    | notAdmitted shutdown _ => cases shutdown
  | abandoned finalize => cases finalize
  | lost outcome overflow =>
    cases outcome
    exact Or.inl ⟨rfl, fun _ hfits => absurd (hfits.symm.trans overflow) Bool.false_ne_true⟩

/-- What `finalize_writer` makes of the command. -/
theorem OutcomeCause.of_finalize {w : WriteId} {frame : DataMessage} {overflowed : Bool}
    {result : CoreCommandResult} {now : MonoTime}
    (h : OutcomeCause (.finalizeWriter now) w frame overflowed result) :
    result = frame.openKind.errorResult .deliveryIndeterminate := by
  cases h with
  | committed outcome _ | released _ outcome _ | lost outcome _ => cases outcome
  | failed cause =>
    cases cause with
    | notWritten outcome | indeterminate outcome => cases outcome
    | notAdmitted shutdown _ => cases shutdown
  | abandoned _ => rfl

/-- The pending write carries the frame of the open command. -/
structure SessionCore.Carries (core : SessionCore) (w : WriteId) (c : CommandId)
    (frame : DataMessage) :
    Prop where
  pending : ∃ kind : PendingWriteKind,
    core.pendingWrites[w]? = some ⟨kind, some c⟩ ∧ kind.Fits (.data frame)
  contract : ∀ (sb : SystemBytes) transaction, core.dataTransactions[sb]? = some transaction →
    transaction.commandId = c → transaction.responseContract = frame.contract

section

variable {core after : SessionCore} {w : WriteId} {c : CommandId} {frame : DataMessage}

theorem PendingWriteKind.openKind_of_fits {kind : PendingWriteKind} (h : kind.Fits (.data frame)) :
    kind.openKind = some frame.openKind := by
  unfold DataMessage.openKind
  cases kind with
  | dataRequest _ =>
    rw [if_pos h.2.1]
    rfl
  | dataSend _ =>
    rw [if_neg (by rw [h.2]; exact Bool.false_ne_true)]
    rfl
  | transactionRequest | response | separate => cases h

namespace SessionCore.Carries

theorem open_ {fresh : Option CommandId} (h : core.Carries w c frame) (hc : Coherent fresh core) :
    core.openCommands[c]? = some frame.openKind := by
  obtain ⟨kind, hpending, hfits⟩ := h.pending
  obtain ⟨open_, hkind, hopen⟩ := hc.write_open w _ c hpending rfl
  rw [PendingWriteKind.openKind_of_fits hfits] at hkind
  rw [hopen, Option.some.inj hkind]

theorem unresolved (h : core.Carries w c frame) : core.writeUnresolved c = true := by
  obtain ⟨kind, hpending, -⟩ := h.pending
  exact writeUnresolved_iff.mpr ⟨w, _, hpending, rfl⟩

theorem writeKind_ne (h : core.Carries w c frame) : core.writeKind w ≠ none := by
  obtain ⟨kind, hpending, -⟩ := h.pending
  rw [writeKind, hpending]
  exact Option.some_ne_none _

/-- The command of a write is no control command. -/
theorem not_control {fresh : Option CommandId} (h : core.Carries w c frame)
    (hc : Coherent fresh core)
    {c' : CommandId} (hcontrol : core.openCommands[c']? = some .control) : c' ≠ c := by
  rintro rfl
  rw [h.open_ hc] at hcontrol
  unfold DataMessage.openKind at hcontrol
  split at hcontrol <;> cases hcontrol

/-- The command of a write is not the one that the round has just accepted. -/
theorem not_fresh {fresh : Option CommandId} (h : core.Carries w c frame) (hc : Coherent fresh core)
    {c' : CommandId} (hfresh : fresh = some c') : c' ≠ c := by
  rintro rfl
  obtain ⟨kind, hpending, -⟩ := h.pending
  exact (hc.fresh_unreferenced c' hfresh).write w _ hpending rfl

/-- Another write has another command. -/
theorem not_other {fresh : Option CommandId} (h : core.Carries w c frame) (hc : Coherent fresh core)
    {w' : WriteId} {write : PendingWrite} {c' : CommandId}
    (hpending : core.pendingWrites[w']? = some write)
    (hcommand : write.commandId = some c') (hne : w' ≠ w) : c' ≠ c := by
  rintro rfl
  obtain ⟨kind, hours, -⟩ := h.pending
  exact hne (hc.write_unique w' w _ _ c' hpending hours hcommand rfl)

/-- The next write is a new one. -/
theorem not_next {fresh : Option CommandId} (h : core.Carries w c frame) (hc : Coherent fresh core)
    {w' : WriteId} (hnext : core.nextWriteId = some w'.raw) : w' ≠ w := by
  rintro rfl
  obtain ⟨kind, hpending, -⟩ := h.pending
  exact absurd (hc.write_used w' _ hpending w'.raw hnext) (UInt64.lt_irrefl _)

/-- The write of a live Request whose frame it carries is pending. -/
theorem request_pending {fresh : Option CommandId} (h : core.Carries w c frame)
    (hc : Coherent fresh core)
    (hlive : core.closing = false) (hrequest : frame.header.replyExpected = true) {sb : SystemBytes}
    {transaction : DataTransaction} (hlookup : core.dataTransactions[sb]? = some transaction)
    (hown : transaction.commandId = c) :
    core.pendingWrites[transaction.writeId]?.isSome = true := by
  obtain ⟨kind, hpending, hfits⟩ := h.pending
  cases kind with
  | dataRequest sb' =>
    obtain ⟨other, hother, hwrite, hcommand⟩ := hc.write_request hlive w _ sb' c hpending rfl rfl
    obtain rfl := hc.request_unique sb sb' transaction other hlookup hother
      (hown.trans hcommand.symm)
    obtain rfl := Option.some.inj (hlookup.symm.trans hother)
    rw [hwrite, hpending]
    rfl
  | dataSend _ =>
    rw [hfits.2] at hrequest
    cases hrequest
  | transactionRequest | response | separate => cases hfits

theorem keep (h : core.Carries w c frame)
    (hpending : after.pendingWrites[w]? = core.pendingWrites[w]?)
    (hdata : ∀ (sb : SystemBytes) transaction, after.dataTransactions[sb]? = some transaction →
      transaction.commandId = c → ∃ before, core.dataTransactions[sb]? = some before ∧
        before.commandId = c ∧ before.responseContract = transaction.responseContract) :
    after.Carries w c frame := by
  refine ⟨by rw [hpending]; exact h.pending, fun sb transaction hlive hcommand => ?_⟩
  obtain ⟨before, hbefore, hown, hcontract⟩ := hdata sb transaction hlive hcommand
  rw [← hcontract]
  exact h.contract sb before hbefore hown

theorem same (h : core.Carries w c frame) (hpending : after.pendingWrites = core.pendingWrites)
    (hdata : after.dataTransactions = core.dataTransactions) : after.Carries w c frame := by
  refine h.keep (by rw [hpending]) fun sb transaction hlive hcommand =>
    ⟨transaction, ?_, hcommand, rfl⟩
  rw [← hdata]
  exact hlive

theorem emptied (h : core.Carries w c frame) (hpending : after.pendingWrites = core.pendingWrites)
    (hdata : after.dataTransactions = ∅) : after.Carries w c frame := by
  refine h.keep (by rw [hpending]) fun sb transaction hlive _ => ?_
  rw [hdata, ExtTreeMap.getElem?_empty] at hlive
  cases hlive

theorem detach (h : core.Carries w c frame) {c' : CommandId} (hne : c' ≠ c) :
    (core.detach c').Carries w c frame := by
  refine h.keep ?_ fun sb transaction hlive hcommand => ⟨transaction, hlive, hcommand, rfl⟩
  obtain ⟨kind, hpending, -⟩ := h.pending
  rw [getElem?_pendingWrites_detach, hpending]
  exact congrArg some (if_neg fun heq => hne (Option.some.inj heq).symm)

theorem release (h : core.Carries w c frame) {c' : Option CommandId} (hne : c' ≠ some c) :
    (core.release c').Carries w c frame := by
  cases c' with
  | none => exact h
  | some c' => exact h.detach fun heq => hne (congrArg some heq)

theorem track (h : core.Carries w c frame) {w' : WriteId} {write : PendingWrite} (hne : w' ≠ w)
    (hpending : after.pendingWrites = core.pendingWrites.insert w' write)
    (hdata : after.dataTransactions = core.dataTransactions) : after.Carries w c frame := by
  refine h.keep ?_ fun sb transaction hlive hcommand => ⟨transaction, ?_, hcommand, rfl⟩
  · rw [hpending]
    exact (TreeMap.getElem?_insert _ _ _).trans (if_neg hne)
  · rw [← hdata]
    exact hlive

theorem eraseWrite (h : core.Carries w c frame) {w' : WriteId} (hne : w' ≠ w) :
    (core.eraseWrite w').Carries w c frame := by
  refine h.keep ?_ fun sb transaction hlive hcommand => ⟨transaction, hlive, hcommand, rfl⟩
  exact (TreeMap.getElem?_erase _ _).trans (if_neg hne)

theorem removeTransactionForWrite (h : core.Carries w c frame) (w' : WriteId)
    (kind : PendingWriteKind) :
    (core.removeTransactionForWrite w' kind).Carries w c frame := by
  unfold SessionCore.removeTransactionForWrite
  split
  · split
    · exact h.same rfl rfl
    · exact h
  · split
    · refine h.keep rfl fun sb transaction hlive hcommand => ⟨transaction, ?_, hcommand, rfl⟩
      have herased := (TreeMap.getElem?_erase _ _).symm.trans hlive
      split at herased
      · cases herased
      · exact herased
    · exact h
  all_goals exact h

end SessionCore.Carries

/-- A command whose write is unresolved is not completed by a loop over the open commands. -/
theorem unresolved_of_mem_completions {error : OperationError} {ids : List CommandId}
    {result : CoreCommandResult} (h : .completeCommand c result ∈ ids.filterMap
      (core.completion error)) :
    core.writeUnresolved c = false := by
  obtain ⟨c', -, hcompletes⟩ := List.mem_filterMap.mp h
  unfold completion at hcompletes
  split at hcompletes
  · cases hcompletes
  · rename_i hresolved
    obtain ⟨kind, -, heq⟩ := Option.map_eq_some_iff.mp hcompletes
    obtain ⟨rfl, -⟩ := CoreAction.completeCommand.inj heq
    exact Bool.eq_false_of_not_eq_true hresolved

theorem unresolved_of_mem_endActions {reason : GenerationCloseReason} {result : CoreCommandResult}
    (h : .completeCommand c result ∈ core.endActions reason) : core.writeUnresolved c = false := by
  unfold endActions at h
  rcases List.mem_append.mp h with h | h
  · exact unresolved_of_mem_completions h
  · split at h
    · cases h
    · cases List.mem_singleton.mp h

end

/-! ## One effect -/

/-- How an effect treats a write that carries the frame of a command.  As long as the write is
pending, its command may lose everything but its right to a true answer. -/
inductive CarryStep (input : Input) (w : WriteId) (c : CommandId) (frame : DataMessage)
    (after : Stage)
    (actions : List CoreAction) : Prop where
  | carries (still : after.core.Carries w c frame)
      (silent : ∀ result, .completeCommand c result ∉ actions)
  | answered {result : CoreCommandResult} (verdict : PeerVerdict input frame result)
      (completes : .completeCommand c result ∈ actions)
  | resolved {result : CoreCommandResult}
      (cause : OutcomeCause input w frame after.overflowed result)
      (gone : after.core.writeKind w = none) (completes : .completeCommand c result ∈ actions)
  | awaits {occurredAt now : MonoTime} (outcome : input = .writeOutcome w .committed occurredAt now)
      (request : frame.header.replyExpected = true) (gone : after.core.writeKind w = none)

theorem writeKind_eraseWrite_self (core : SessionCore) (w : WriteId) :
    (core.eraseWrite w).writeKind w = none := by
  rw [writeKind_eraseWrite, if_pos rfl]

section

variable {origin : SessionCore} {input : Input} {stage stage' : Stage} {actions : List CoreAction}
  {w : WriteId} {c : CommandId} {frame : DataMessage}

/-- **What one effect does to a carried frame.**  The write stays, or its outcome decides the
result of its command. -/
theorem Effect.carryStep (he : Effect origin input stage actions stage')
    (hc : Coherent stage.fresh stage.core) (h : stage.core.Carries w c frame) :
    CarryStep input w c frame stage' actions := by
  have hunresolved : ∀ {core : SessionCore}, core.writeUnresolved c = stage.core.writeUnresolved c →
      ¬ core.writeUnresolved c = false := by
    intro core heq hresolved
    rw [heq, h.unresolved] at hresolved
    cases hresolved
  cases he with
  -- nothing changes in the tables
  | tick _ | observe _ _ _ | startDrain _ _ _ _ _ _ _ => exact .carries (h.same rfl rfl) fun _ =>
    nofun
  | lateAnnounce _ | connect _ _ _ _ _ | selected _ _ _ | deselected _ _ _ _ _ _
  | deliver _ _ _ _ _ _ _ _ _
  | deliverOneWay _ _ _ _ _ _ =>
    refine .carries (h.same rfl rfl) fun result hmem => ?_
    cases List.mem_singleton.mp hmem
  -- the Core closes
  | @ended s pre s' _ _ _ reason frame _ _ done =>
    refine .carries (h.emptied ?_ ?_) fun result hmem => ?_
    · rw [done.frame]
      show pre.pendingWrites = s.pendingWrites
      rw [frame]
    · rw [done.frame]
    · exact hunresolved rfl (unresolved_of_mem_endActions hmem)
  | @lostWrite s pre s' _ _ w' _ _ _ reason outcome pending live framed done =>
    have hpending : s'.pendingWrites = (s.eraseWrite w').pendingWrites := by
      rw [done.frame]
      show pre.pendingWrites = (s.eraseWrite w').pendingWrites
      rw [framed]
    by_cases hw : w' = w
    · subst hw
      obtain ⟨kind, hours, -⟩ := h.pending
      obtain rfl := Option.some.inj (pending.symm.trans hours)
      refine .resolved (.lost outcome rfl) ?_
        (List.mem_append_left _ (List.mem_filterMap.mpr ⟨c, ?_, ?_⟩))
      · exact (writeKind_congr hpending w').trans (writeKind_eraseWrite_self s w')
      · exact TreeMap.mem_keys.mpr ⟨_, h.open_ hc⟩
      · have hresolved : (s.eraseWrite w').writeUnresolved c = false := by
          refine writeUnresolved_eq_false_iff.mpr fun v write hwrite hcommand => ?_
          have herased := (TreeMap.getElem?_erase _ _).symm.trans hwrite
          split at herased
          · cases herased
          · rename_i hne
            exact hne (hc.write_unique w' v _ write c hours herased rfl hcommand)
        unfold SessionCore.completion
        rw [hresolved, if_neg Bool.false_ne_true]
        show s.openCommands[c]?.map _ = _
        rw [show s.openCommands[c]? = _ from h.open_ hc]
        rfl
    · have herased : (s.eraseWrite w').Carries w c frame := h.eraseWrite hw
      refine .carries (herased.emptied hpending (by rw [done.frame])) fun result hmem => ?_
      exact hunresolved (herased.unresolved.trans h.unresolved.symm)
        (unresolved_of_mem_endActions hmem)
  | @admissionClosed s s' _ reason _ _ _ done =>
    refine .carries (h.emptied ?_ ?_) fun result hmem => ?_
    · show s'.pendingWrites = s.pendingWrites
      rw [done.frame]
    · show s'.dataTransactions = ∅
      rw [done.frame]
    · rcases List.mem_append.mp hmem with hmem | hmem
      · exact hunresolved rfl (unresolved_of_mem_completions hmem)
      · cases List.mem_singleton.mp hmem
  | loseCommands _ _ done =>
    refine .carries (h.emptied ?_ ?_) fun result hmem => ?_
    · rw [done.frame]
    · rw [done.frame]
    · exact hunresolved rfl (unresolved_of_mem_completions hmem)
  | @abandonWrites s s' _ _ finalize closing done =>
    obtain ⟨kind, hpending, -⟩ := h.pending
    refine .resolved (.abandoned finalize) ?_ ?_
    · rw [writeKind, show s'.pendingWrites = ∅ by rw [done.frame], ExtTreeMap.getElem?_empty]
      rfl
    · refine List.mem_filterMap.mpr ⟨⟨kind, some c⟩, List.mem_map.mpr
        ⟨(w, ⟨kind, some c⟩), TreeMap.mem_toList.mpr hpending, rfl⟩, ?_⟩
      show (s.openCommands[c]?.map fun kind => _) = _
      rw [h.open_ hc]
      rfl
  | lateControl _ _ open_ _ =>
    have hne := h.not_control hc open_
    refine .carries (h.detach hne) fun result hmem => ?_
    obtain ⟨rfl, -⟩ := CoreAction.completeCommand.inj (List.mem_singleton.mp hmem)
    exact hne rfl
  | @separate s s' _ _ w' _ _ _ _ _ _ _ next done =>
    have hleft : s'.Carries w c frame := h.emptied (by rw [done.frame]) (by rw [done.frame])
    refine .carries (hleft.track (h.not_next hc next.2) rfl rfl) fun result hmem => ?_
    rcases List.mem_append.mp hmem with hmem | hmem
    · exact hunresolved rfl (unresolved_of_mem_completions hmem)
    · simp at hmem
  | peerSeparate _ _ _ _ done =>
    refine .carries (h.emptied (by rw [done.frame]) (by rw [done.frame])) fun result hmem => ?_
    rcases List.mem_append.mp hmem with hmem | hmem
    · exact hunresolved rfl (unresolved_of_mem_completions hmem)
    · simp at hmem
  -- a command of no pending Data frame completes
  | refuse _ _ _ =>
    have hne := h.not_fresh hc rfl
    refine .carries (h.detach hne) fun result hmem => ?_
    obtain ⟨rfl, -⟩ := CoreAction.completeCommand.inj (List.mem_singleton.mp hmem)
    exact hne rfl
  | spendContract _ _ _ _ _ _ =>
    have hne := h.not_fresh hc rfl
    refine .carries ((h.detach hne).same rfl rfl) fun result hmem => ?_
    obtain ⟨rfl, -⟩ := CoreAction.completeCommand.inj (List.mem_singleton.mp hmem)
    exact hne rfl
  | endDrain live pending _ =>
    have hne := h.not_control hc (hc.drain_open live _ pending)
    refine .carries ((h.detach hne).same rfl rfl) fun result hmem => ?_
    obtain ⟨rfl, -⟩ := CoreAction.completeCommand.inj (List.mem_singleton.mp hmem)
    exact hne rfl
  | @retireControl s _ _ transaction outcome active cause _ =>
    have hne : ∀ c', transaction.commandId = some c' → c' ≠ c := fun c' hcommand =>
      h.not_control hc (hc.control_open transaction c' active hcommand)
    refine .carries ((h.release fun hown => hne c hown rfl).same rfl rfl) fun result hmem => ?_
    cases hcommand : transaction.commandId with
    | none =>
      rw [hcommand] at hmem
      cases hmem
    | some c' =>
      rw [hcommand] at hmem
      obtain ⟨rfl, -⟩ := CoreAction.completeCommand.inj (List.mem_singleton.mp hmem)
      exact hne c hcommand rfl
  -- frames of others
  | respond _ _ _ next _ _ =>
    refine .carries (h.track (h.not_next hc next) rfl rfl) fun result hmem => ?_
    cases List.mem_singleton.mp hmem
  | startControl _ _ _ _ _ _ _ next _ _ | startDeselection _ _ _ _ next =>
    refine .carries (h.track (h.not_next hc next.2) rfl rfl) fun result hmem => ?_
    cases List.mem_singleton.mp hmem
  | sendPrimary _ _ _ _ _ _ _ _ next =>
    refine .carries (h.track (h.not_next hc next.2) rfl rfl) fun result hmem => ?_
    cases List.mem_singleton.mp hmem
  | sendReply _ _ _ _ _ next _ =>
    refine .carries (h.track (h.not_next hc next) rfl rfl) fun result hmem => ?_
    cases List.mem_singleton.mp hmem
  | @sendRequest s _ c' w' systemBytes _ primary _ _ _ _ _ _ _ next =>
    refine .carries ?_ fun result hmem => by cases List.mem_singleton.mp hmem
    have htracked : ((s.takeSystemBytes systemBytes).trackWrite w'
        ⟨.dataRequest systemBytes, some c'⟩).Carries w c frame :=
          h.track (h.not_next hc next.2) rfl rfl
    refine htracked.keep rfl fun sb transaction hlive hcommand => ?_
    have hinserted := (TreeMap.getElem?_insert _ _ _).symm.trans hlive
    split at hinserted
    · obtain rfl := Option.some.inj hinserted
      exact absurd hcommand (h.not_fresh hc rfl)
    · exact ⟨transaction, hinserted, hcommand, rfl⟩
  -- the peer answers a frame
  -- the peer answers a frame
  | @retireRequest s _ _ sb transaction result live pending cause =>
    by_cases hown : transaction.commandId = c
    · have hcompletes : .completeCommand c result ∈
          [CoreAction.completeCommand transaction.commandId result] := by
        rw [hown]
        exact List.mem_cons_self
      refine .answered ?_ hcompletes
      have hcontract := h.contract sb transaction pending hown
      have hkey : frame.header.systemBytes = sb := by
        rw [← hc.request_key sb transaction pending, hcontract]
        rfl
      have hopen := h.open_ hc
      rw [← hown, hc.request_open sb transaction pending] at hopen
      have hrequest : frame.header.replyExpected = true := by
        unfold DataMessage.openKind at hopen
        split at hopen
        · assumption
        · cases hopen
      cases cause with
      | answered received key normal =>
        exact .answered received hrequest (key.trans hkey.symm) (hcontract ▸ normal)
      | aborted received key abort =>
        exact .aborted received hrequest (key.trans hkey.symm) (hcontract ▸ abort)
      | rejected received names => exact .requestRejected received hrequest (hcontract ▸ names)
      | expired _ armed _ =>
        -- T3 runs only once the write is resolved
        have hunarmed := h.request_pending hc live hrequest pending hown
        rw [hc.request_armed sb transaction pending (by rw [armed]; rfl)] at hunarmed
        cases hunarmed
    · refine .carries ((h.detach hown).keep rfl fun sb' other hlive hcommand =>
        ?_) fun result hmem => ?_
      · have herased := (TreeMap.getElem?_erase _ _).symm.trans hlive
        split at herased
        · cases herased
        · exact ⟨other, herased, hcommand, rfl⟩
      · obtain ⟨rfl, -⟩ := CoreAction.completeCommand.inj (List.mem_singleton.mp hmem)
        exact hown rfl
  | @rejectSend s _ _ w' write correlation c' sessionId headerByte2 reason systemBytes now live
      received pending
      kind command names =>
    by_cases hw : w' = w
    · subst hw
      obtain ⟨ours, hpending, hfits⟩ := h.pending
      obtain rfl := Option.some.inj (pending.symm.trans hpending)
      obtain rfl := Option.some.inj command
      obtain rfl : ours = .dataSend correlation := kind
      obtain ⟨rfl, hsend⟩ := hfits
      exact .answered (.sendRejected received hsend names) List.mem_cons_self
    · have hne := h.not_other hc pending command hw
      refine .carries (h.detach hne) fun result hmem => ?_
      obtain ⟨rfl, -⟩ := CoreAction.completeCommand.inj (List.mem_singleton.mp hmem)
      exact hne rfl
  -- a write ends
  | @commitControl s _ w' write transaction _ _ _ outcome pending active own armed =>
    have hw : w' ≠ w := by
      rintro rfl
      obtain ⟨kind, hpending, hfits⟩ := h.pending
      obtain ⟨hkind, -⟩ := hc.control_write transaction _ active (own ▸ hpending)
      obtain rfl : kind = .transactionRequest := hkind
      cases hfits
    exact .carries ((h.eraseWrite hw).same rfl rfl) fun _ => nofun
  | @commitRequest s _ w' write sb transaction _ _ _ outcome pending live own armed =>
    by_cases hw : w' = w
    · subst hw
      obtain ⟨kind, hpending, hfits⟩ := h.pending
      obtain ⟨hkind, -⟩ := hc.request_write sb transaction _ live (own ▸ hpending)
      obtain rfl : kind = .dataRequest sb := hkind
      exact .awaits outcome hfits.2.1 (writeKind_eraseWrite_self s w')
    · refine .carries ((h.eraseWrite hw).keep rfl fun sb' other hlive hcommand => ?_) fun _ => nofun
      have hinserted := (TreeMap.getElem?_insert _ _ _).symm.trans hlive
      split at hinserted
      · rename_i hsb
        subst hsb
        obtain rfl := Option.some.inj hinserted
        exact ⟨transaction, live, hcommand, rfl⟩
      · exact ⟨other, hinserted, hcommand, rfl⟩
  | @commitCommand s _ w' write c' result _ _ outcome pending command cause =>
    by_cases hw : w' = w
    · subst hw
      obtain ⟨kind, hpending, hfits⟩ := h.pending
      obtain rfl := Option.some.inj (pending.symm.trans hpending)
      obtain rfl := Option.some.inj command
      have hgone : ((s.eraseWrite w').detach c).writeKind w' = none := by
        rw [writeKind_detach, writeKind_eraseWrite_self]
      refine .resolved ?_ hgone List.mem_cons_self
      cases cause with
      | send hkind =>
        obtain rfl : kind = _ := hkind
        exact .committed outcome hfits.2
      | separate hkind =>
        obtain rfl : kind = _ := hkind
        cases hfits
      | @released error open_ hopen request _ =>
        rw [h.open_ hc] at hopen
        obtain rfl := Option.some.inj hopen
        refine .released error outcome ?_
        rcases request with hkind | ⟨sb, hkind⟩
        · obtain rfl : kind = _ := hkind
          cases hfits
        · obtain rfl : kind = _ := hkind
          exact hfits.2.1
    · have hne := h.not_other hc pending command hw
      refine .carries ((h.eraseWrite hw).detach hne) fun result hmem => ?_
      obtain ⟨rfl, -⟩ := CoreAction.completeCommand.inj (List.mem_singleton.mp hmem)
      exact hne rfl
  | @commitSilently s _ w' write _ _ outcome pending orphan =>
    have hw : w' ≠ w := by
      rintro rfl
      obtain ⟨kind, hpending, -⟩ := h.pending
      obtain rfl := Option.some.inj (pending.symm.trans hpending)
      cases orphan
    exact .carries (h.eraseWrite hw) fun _ => nofun
  | @failWrite s _ w' write error pending cause before =>
    by_cases hw : w' = w
    · subst hw
      obtain ⟨kind, hpending, -⟩ := h.pending
      obtain rfl := Option.some.inj (pending.symm.trans hpending)
      refine .resolved (.failed cause) ?_ ?_
      · show (((s.eraseWrite w').removeTransactionForWrite w' kind).detach c).writeKind w' = none
        rw [writeKind_detach, removeTransactionForWrite_frame]
        exact writeKind_eraseWrite_self s w'
      · refine List.mem_filterMap.mpr ⟨c, List.mem_cons_self, ?_⟩
        rw [show s.openCommands[c]? = some frame.openKind from h.open_ hc]
        rfl
    · refine .carries (((h.eraseWrite hw).removeTransactionForWrite w' _).release ?_)
        fun result hmem => ?_
      · exact fun hcommand => h.not_other hc pending hcommand hw rfl
      · obtain ⟨c', hown, hcompletes⟩ := List.mem_filterMap.mp hmem
        obtain ⟨kind, -, heq⟩ := Option.map_eq_some_iff.mp hcompletes
        obtain ⟨rfl, -⟩ := CoreAction.completeCommand.inj heq
        exact h.not_other hc pending (Option.mem_toList.mp hown) hw rfl

end

/-! ## One round -/

/-- A write that is gone does not come back in the round. -/
theorem Effect.gone {origin : SessionCore} {input : Input} {stage stage' : Stage}
    {actions : List CoreAction}
    {w : WriteId} (he : Effect origin input stage actions stage')
    (hodd : stage.core.PrimaryContracts)
    (h : stage.core.writeKind w = none ∧ stage.core.WriteUsed w) :
    stage'.core.writeKind w = none ∧ stage'.core.WriteUsed w := by
  refine ⟨?_, (he.writeStep hodd).writeUsed h.2⟩
  cases he.writeStep hodd with
  | keeps _ _ _ kinds => exact (kinds w).trans h.1
  | sends v _ _ _ _ next _ _ kinds _ =>
    rw [kinds, if_neg]
    · exact h.1
    · rintro rfl
      exact absurd (h.2 v.raw next) (UInt64.lt_irrefl _)
  | resolves v _ _ _ kinds _ => rw [kinds, h.1, ite_self]
  | abandons _ _ _ kinds _ => exact kinds w

section

variable {origin : SessionCore} {input : Input} {stage stage' : Stage} {actions : List CoreAction}
  {w : WriteId} {c : CommandId} {frame : DataMessage}

theorem overflowed_of_steps (hs : Steps (Effect origin input) stage actions stage')
    (h : stage.overflowed = true) : stage'.overflowed = true := by
  refine hs.preserves (I := fun stage => stage.overflowed = true) (fun before _ after hbefore he =>
    ?_) h
  refine Bool.eq_true_of_not_eq_false fun hafter => ?_
  rw [he.overflow_mono hafter] at hbefore
  cases hbefore

/-- **What a sequence of effects does to a carried frame.**  It is still carried and its command has
not completed, or the peer has answered it, or its write is gone for a reason. -/
theorem carries_of_steps (hs : Steps (Effect origin input) stage actions stage')
    (hc : Coherent stage.fresh stage.core) (hodd : stage.core.PrimaryContracts)
    (h : stage.core.Carries w c frame) :
    (stage'.core.Carries w c frame ∧ ∀ result, .completeCommand c result ∉ actions) ∨
    (∃ result, .completeCommand c result ∈ actions ∧ PeerVerdict input frame result) ∨
    stage'.core.writeKind w = none ∧
      ((∃ result, .completeCommand c result ∈ actions ∧
          OutcomeCause input w frame stage'.overflowed result) ∨
        frame.header.replyExpected = true ∧
          ∃ occurredAt now, input = .writeOutcome w .committed occurredAt now) := by
  induction hs with
  | refl => exact Or.inl ⟨h, fun _ => nofun⟩
  | @head first middle last now later he rest ih =>
    have hgone : middle.core.writeKind w = none → last.core.writeKind w = none := by
      intro hnone
      have hused : middle.core.WriteUsed w := by
        obtain ⟨kind, hpending, -⟩ := h.pending
        exact (he.writeStep hodd).writeUsed (hc.write_used w _ hpending)
      exact (rest.preserves (I := fun stage => stage.core.PrimaryContracts ∧
          stage.core.writeKind w = none ∧ stage.core.WriteUsed w)
        (fun _ _ _ hI he => ⟨he.authority.primaryContracts hI.1, he.gone hI.1 hI.2⟩)
        ⟨he.authority.primaryContracts hodd, hnone, hused⟩).2.1
    cases he.carryStep hc h with
    | carries still silent =>
      rcases ih (he.coherent hc) (he.authority.primaryContracts hodd) still with
        ⟨hcarries, hsilent⟩ | ⟨result, hmem, hverdict⟩ | ⟨hnone, ⟨result, hmem, hcause⟩ | hrest⟩
      · refine Or.inl ⟨hcarries, fun result hmem => ?_⟩
        rcases List.mem_append.mp hmem with hmem | hmem
        · exact silent result hmem
        · exact hsilent result hmem
      · exact Or.inr (Or.inl ⟨result, List.mem_append_right _ hmem, hverdict⟩)
      · exact Or.inr (Or.inr ⟨hnone, Or.inl ⟨result, List.mem_append_right _ hmem, hcause⟩⟩)
      · exact Or.inr (Or.inr ⟨hnone, Or.inr hrest⟩)
    | answered verdict completes =>
      exact Or.inr (Or.inl ⟨_, List.mem_append_left _ completes, verdict⟩)
    | resolved cause gone completes =>
      refine Or.inr (Or.inr ⟨hgone gone, Or.inl ⟨_, List.mem_append_left _ completes, ?_⟩⟩)
      exact cause.mono (overflowed_of_steps rest)
    | awaits outcome request gone =>
      exact Or.inr (Or.inr ⟨hgone gone, Or.inr ⟨request, _, _, outcome⟩⟩)

end

theorem eq_of_completed {actions : List CoreAction} {c : CommandId}
    {result result' : CoreCommandResult}
    (h : (actions.filterMap CoreAction.completed).count c ≤ 1)
    (hmem : .completeCommand c result ∈ actions)
    (hmem' : .completeCommand c result' ∈ actions) : result = result' := by
  induction actions with
  | nil => cases hmem
  | cons action actions ih =>
    have hlater {found : CoreCommandResult} (hlater : .completeCommand c found ∈ actions) :
        0 < (actions.filterMap CoreAction.completed).count c :=
      List.count_pos_iff.mpr (List.mem_filterMap.mpr ⟨_, hlater, rfl⟩)
    have hfirst {found : CoreCommandResult} (hfirst : .completeCommand c found = action) :
        ((action :: actions).filterMap CoreAction.completed).count c =
          (actions.filterMap CoreAction.completed).count c + 1 := by
      rw [← hfirst]
      exact List.count_cons_self
    have hrest : (actions.filterMap CoreAction.completed).count c ≤ 1 := by
      refine Nat.le_trans ?_ h
      exact ((List.sublist_cons_self action actions).filterMap CoreAction.completed).count_le c
    rcases List.mem_cons.mp hmem with hhead | htail
    · rcases List.mem_cons.mp hmem' with hhead' | htail'
      · exact (CoreAction.completeCommand.inj (hhead.trans hhead'.symm)).2
      · have := hlater htail'
        have := hfirst hhead
        omega
    · rcases List.mem_cons.mp hmem' with hhead' | htail'
      · have := hlater htail
        have := hfirst hhead'
        omega
      · exact ih hrest htail htail'

/-- **What the completions of a command say about the visibility of its frame**, while the write of
the frame is pending.  Unless the round consumes the write, only the peer completes the command; a
round that does consume it completes the command with what the outcome proves. -/
structure SessionCore.TellsVisibility (core : SessionCore) (c : CommandId) (w : WriteId)
    (frame : DataMessage) : Prop where
  open_ : core.openCommands[c]? = some frame.openKind
  attributable : ∀ input, ¬ core.Consumes input w → ∀ result,
    .completeCommand c result ∈ (core.handle input).actions → PeerVerdict input frame result
  committed : ∀ occurredAt now, core.Consumes (.writeOutcome w .committed occurredAt now) w →
    (core.handle (.writeOutcome w .committed occurredAt now)).overflowed = false →
    frame.header.replyExpected = false → ∀ result,
      .completeCommand c result ∈ (core.handle
        (.writeOutcome w .committed occurredAt now)).actions ↔
        result = .send (.ok ⟨w⟩)
  notWritten : ∀ fault occurredAt now,
    core.Consumes (.writeOutcome w (.notWritten fault) occurredAt now) w → ∀ result,
      .completeCommand c result ∈
          (core.handle (.writeOutcome w (.notWritten fault) occurredAt now)).actions ↔
        result = frame.openKind.errorResult .connectionLost
  indeterminate : ∀ fault occurredAt now,
    core.Consumes (.writeOutcome w (.indeterminate fault) occurredAt now) w → ∀ result,
      .completeCommand c result ∈
          (core.handle (.writeOutcome w (.indeterminate fault) occurredAt now)).actions ↔
        result = frame.openKind.errorResult .deliveryIndeterminate
  finalized : ∀ now, core.Consumes (.finalizeWriter now) w → ∀ result,
    .completeCommand c result ∈ (core.handle (.finalizeWriter now)).actions ↔
      result = frame.openKind.errorResult .deliveryIndeterminate
  ok_only : frame.header.replyExpected = false → ∀ input write,
    .completeCommand c (.send (.ok write)) ∈ (core.handle input).actions →
      write = ⟨w⟩ ∧ ∃ occurredAt now, input = .writeOutcome w .committed occurredAt now

section

variable {core : SessionCore} {input : Input} {w : WriteId} {c : CommandId} {frame : DataMessage}

/-- A command that a round finds open completes at most once in it. -/
theorem completed_once (hc : Coherent none core) {kind : OpenCommandKind}
    (hopen : core.openCommands[c]? = some kind) :
    ((core.handle input).actions.filterMap CoreAction.completed).count c ≤ 1 := by
  have hcontains : core.openCommands.contains c = true := TreeMap.contains_iff.mpr ⟨kind, hopen⟩
  have haccepted : ((core.acceptances [input]).map Prod.fst).count c = 0 := by
    refine List.count_eq_zero.mpr fun hmem => ?_
    obtain ⟨⟨c', kind'⟩, hround, rfl⟩ := List.mem_map.mp hmem
    have haccepted : core.accepted input = some (c', kind') := by
      simpa [acceptances] using hround
    have hvacant : (!core.openCommands.contains c') = true :=
      (Option.filter_eq_some_iff.mp haccepted).2
    rw [hcontains] at hvacant
    cases hvacant
  have hcount := count_completed hc [input] c
  rw [haccepted, hcontains, Machine.history_cons, Machine.history_nil, List.append_nil] at hcount
  show (((machine.step core input).2).filterMap CoreAction.completed).count c ≤ 1
  simp only [if_true] at hcount
  omega

/-- **What a round does to a carried frame.** -/
theorem SessionCore.Carries.handle (h : core.Carries w c frame) (hc : Coherent none core)
    (hodd : core.PrimaryContracts) :
    ((core.handle input).core.Carries w c frame ∧
      ∀ result, .completeCommand c result ∉ (core.handle input).actions) ∨
    (∃ result, .completeCommand c result ∈ (core.handle input).actions ∧
      PeerVerdict input frame result) ∨
    (core.handle input).core.writeKind w = none ∧
      ((∃ result, .completeCommand c result ∈ (core.handle input).actions ∧
          OutcomeCause input w frame (core.handle input).overflowed result) ∨
        frame.header.replyExpected = true ∧
          ∃ occurredAt now, input = .writeOutcome w .committed occurredAt now) := by
  have hentry : (core.entry input).core.Carries w c frame := by
    rw [entry_frame]
    exact h.same rfl rfl
  have hprimary : (core.entry input).core.PrimaryContracts := by
    rw [entry_frame]
    exact hodd
  exact carries_of_steps (steps_handle hc input) (hc.entry input) hprimary hentry

/-- A round that does not consume the write leaves it pending. -/
theorem writeKind_of_unconsumed (hc : Coherent none core) (hodd : core.PrimaryContracts)
    (hpending : core.writeKind w ≠ none) (hnot : ¬ core.Consumes input w) :
    (core.handle input).core.writeKind w ≠ none := by
  by_cases htargets : input.Targets w
  · rw [(handle_refuses htargets hnot).writes.kinds]
    exact hpending
  · exact (handle_pending hc hodd w).2 htargets (Or.inl hpending)

/-- A round that consumes the write completes the command for a reason, unless a Request waits on.
-/
theorem SessionCore.Carries.consumed (h : core.Carries w c frame) (hc : Coherent none core)
    (hodd : core.PrimaryContracts) (hconsumes : core.Consumes input w) :
    (∃ result, .completeCommand c result ∈ (core.handle input).actions ∧
        OutcomeCause input w frame (core.handle input).overflowed result) ∨
      frame.header.replyExpected = true ∧
        ∃ occurredAt now, input = .writeOutcome w .committed occurredAt now := by
  rcases h.handle hc hodd with ⟨hcarries, -⟩ | ⟨result, -, hverdict⟩ | ⟨-, hcause⟩
  · exact absurd (handle_consumes hc hconsumes) hcarries.writeKind_ne
  · have hmessage : ∃ message now, input = .message message now := by
      cases hverdict with
      | sendRejected received _ _ | requestRejected received _ _ | answered received _ _ _
      | aborted received _ _ _ => exact ⟨_, _, received⟩
    obtain ⟨message, now, rfl⟩ := hmessage
    cases hconsumes
  · exact hcause

theorem SessionCore.Carries.tells (h : core.Carries w c frame) (hc : Coherent none core)
    (hodd : core.PrimaryContracts) : core.TellsVisibility c w frame := by
  have hopen := h.open_ hc
  have hone {input : Input} {result result' : CoreCommandResult}
      (hmem : .completeCommand c result ∈ (core.handle input).actions)
      (hmem' : .completeCommand c result' ∈ (core.handle input).actions) : result = result' :=
    eq_of_completed (completed_once hc hopen) hmem hmem'
  have hiff {input : Input} {expected : CoreCommandResult}
      (hmem : .completeCommand c expected ∈ (core.handle input).actions)
      (result : CoreCommandResult) :
      .completeCommand c result ∈ (core.handle input).actions ↔ result = expected := by
    constructor
    · exact fun hother => hone hother hmem
    · rintro rfl
      exact hmem
  -- a failed write, or one that is given up
  have hfails {input : Input} {error : OperationError} (hconsumes : core.Consumes input w)
      (hfailed : ∀ result, OutcomeCause input w frame (core.handle input).overflowed result →
        result = frame.openKind.errorResult error)
      (huncommitted : ∀ occurredAt now, input ≠ .writeOutcome w .committed occurredAt now) :
      ∀ result, .completeCommand c result ∈ (core.handle input).actions ↔
        result = frame.openKind.errorResult error := by
    rcases h.consumed hc hodd hconsumes with ⟨found, hmem, hcause⟩ | ⟨-, occurredAt,
      now, hcommitted⟩
    · rw [hfailed found hcause] at hmem
      exact hiff hmem
    · exact absurd hcommitted (huncommitted occurredAt now)
  refine ⟨hopen, fun input hnot result hmem => ?_,
    fun occurredAt now hconsumes hfits hsend result => ?_,
    fun fault occurredAt now hconsumes => hfails hconsumes (fun result hcause => ?_) fun _ _ =>
      nofun,
    fun fault occurredAt now hconsumes => hfails hconsumes (fun result hcause => ?_) fun _ _ =>
      nofun,
    fun now hconsumes => hfails hconsumes (fun result hcause => ?_) fun _ _ => nofun,
    fun hsend input write hmem => ?_⟩
  · rcases h.handle hc hodd with ⟨-, hsilent⟩ | ⟨found, hfound, hverdict⟩ | ⟨hgone, -⟩
    · exact absurd hmem (hsilent result)
    · rw [hone hmem hfound]
      exact hverdict
    · exact absurd hgone (writeKind_of_unconsumed hc hodd h.writeKind_ne hnot)
  · rcases h.consumed hc hodd hconsumes with ⟨found, hmem, hcause⟩ | ⟨hrequest, -⟩
    · rcases hcause.of_outcome with ⟨-, hok⟩ | ⟨_, hother, -⟩ | ⟨_, hother, -⟩
      · rw [hok hsend hfits] at hmem
        exact hiff hmem result
      · cases hother
      · cases hother
    · cases hsend.symm.trans hrequest
  · rcases hcause.of_outcome with ⟨hother, -⟩ | ⟨_, -, hresult⟩ | ⟨_, hother, -⟩
    · cases hother
    · exact hresult
    · cases hother
  · rcases hcause.of_outcome with ⟨hother, -⟩ | ⟨_, hother, -⟩ | ⟨_, -, hresult⟩
    · cases hother
    · cases hother
    · exact hresult
  · exact hcause.of_finalize
  · have hclass : frame.openKind = .send := if_neg (by rw [hsend]; exact Bool.false_ne_true)
    by_cases hconsumes : core.Consumes input w
    · rcases h.consumed hc hodd hconsumes with ⟨found, hfound, hcause⟩ | ⟨hrequest, -⟩
      · have hok := hone hmem hfound
        cases hcause with
        | committed outcome _ =>
          cases hok
          exact ⟨rfl, _, _, outcome⟩
        | released _ _ _ | failed _ | abandoned _ | lost _ _ =>
          rw [hclass] at hok
          cases hok
      · cases hsend.symm.trans hrequest
    · rcases h.handle hc hodd with ⟨-, hsilent⟩ | ⟨found, hfound, hverdict⟩ | ⟨hgone, -⟩
      · exact absurd hmem (hsilent _)
      · have hok := hone hmem hfound
        cases hverdict <;> cases hok
      · exact absurd hgone (writeKind_of_unconsumed hc hodd h.writeKind_ne hconsumes)

end

/-! ## Emission -/

section

variable {origin : SessionCore} {input : Input} {stage stage' : Stage} {actions : List CoreAction}
  {w : WriteId} {c : CommandId} {frame : DataMessage}

theorem Effect.fresh_kept (he : Effect origin input stage actions stage') :
    stage'.fresh = none ∨ stage'.fresh = stage.fresh := by
  cases he <;> first | exact Or.inl rfl | exact Or.inr rfl

/-- **A Data frame is emitted for the command that the round has accepted**, and its write carries
it. -/
theorem Effect.emits (he : Effect origin input stage actions stage')
    (hc : Coherent stage.fresh stage.core) (hmem : .sendFrame w (.data frame) ∈ actions) :
    ∃ c, stage.fresh = some c ∧ stage'.core.Carries w c frame := by
  have hno : ¬ (CoreAction.sendFrame w (.data frame)).isData = false := by
    exact fun hnot => Bool.noConfusion hnot
  cases he with
  | ended _ _ _ _ _ => exact absurd (isData_of_mem_end hmem) hno
  | lostWrite _ _ _ _ _ _ => exact absurd (isData_of_mem_end hmem) hno
  | admissionClosed _ _ _ _ _ =>
    rcases List.mem_append.mp hmem with hmem | hmem
    · exact absurd (CoreAction.isData_of_isCompletion (isCompletion_of_mem_loss hmem)) hno
    · cases List.mem_singleton.mp hmem
  | abandonWrites _ _ _ =>
    exact absurd (CoreAction.isData_of_isCompletion (isCompletion_of_mem_abandonments hmem)) hno
  | loseCommands _ _ _ => exact absurd (CoreAction.isData_of_isCompletion
      (isCompletion_of_mem_loss hmem)) hno
  | separate _ _ _ _ _ _ _ _ | peerSeparate _ _ _ _ _ =>
    rcases List.mem_append.mp hmem with hmem | hmem
    · exact absurd (CoreAction.isData_of_isCompletion (isCompletion_of_mem_separate hmem)) hno
    · simp at hmem
  | retireControl _ _ _ =>
    exact absurd (CoreAction.isData_of_isCompletion (isCompletion_of_mem_control hmem)) hno
  | failWrite _ _ _ =>
    obtain ⟨c, -, hcompletes⟩ := List.mem_filterMap.mp hmem
    obtain ⟨kind, -, heq⟩ := Option.map_eq_some_iff.mp hcompletes
    cases heq
  | @sendRequest s _ c w' sb _ primary _ _ _ _ _ _ odd _ =>
    obtain ⟨rfl, heq⟩ := CoreAction.sendFrame.inj (List.mem_singleton.mp hmem)
    obtain rfl := ProtocolMessage.data.inj heq
    refine ⟨c, rfl, ⟨.dataRequest sb, ?_, rfl, rfl, odd⟩, fun key transaction hlive hcommand => ?_⟩
    · exact (TreeMap.getElem?_insert _ _ _).trans (if_pos rfl)
    · have hinserted := (TreeMap.getElem?_insert _ _ _).symm.trans hlive
      split at hinserted
      · rw [← Option.some.inj hinserted]
        rfl
      · exact absurd hcommand ((hc.fresh_unreferenced c rfl).request key transaction hinserted)
  | @sendPrimary s _ c w' sb _ primary _ _ _ _ _ _ _ _ =>
    obtain ⟨rfl, heq⟩ := CoreAction.sendFrame.inj (List.mem_singleton.mp hmem)
    obtain rfl := ProtocolMessage.data.inj heq
    refine ⟨c, rfl, ⟨.dataSend ⟨s.config.sessionId, sb⟩, ?_, rfl, rfl⟩,
      fun key transaction hlive hcommand => ?_⟩
    · exact (TreeMap.getElem?_insert _ _ _).trans (if_pos rfl)
    · exact absurd hcommand ((hc.fresh_unreferenced c rfl).request key transaction hlive)
  | @sendReply s _ c capability header w' function body _ _ _ _ _ _ _ =>
    obtain ⟨rfl, heq⟩ := CoreAction.sendFrame.inj (List.mem_singleton.mp hmem)
    obtain rfl := ProtocolMessage.data.inj heq
    refine ⟨c, rfl, ⟨.dataSend ⟨header.sessionId, header.systemBytes⟩, ?_, rfl, rfl⟩,
      fun key transaction hlive hcommand => ?_⟩
    · exact (TreeMap.getElem?_insert _ _ _).trans (if_pos rfl)
    · exact absurd hcommand ((hc.fresh_unreferenced c rfl).request key transaction hlive)
  | tick _ | observe _ _ _ | startDrain _ _ _ _ _ _ _ | commitControl _ _ _ _ _
  | commitRequest _ _ _ _ _
  | commitSilently _ _ _ => cases hmem
  | lateAnnounce _ | lateControl _ _ _ _ | connect _ _ _ _ _ | selected _ _ _
  | deselected _ _ _ _ _ _
  | respond _ _ _ _ _ _ | refuse _ _ _ | endDrain _ _ _ | startControl _ _ _ _ _ _ _ _ _ _
  | startDeselection _ _ _ _ _ | retireRequest _ _ _
  | rejectSend _ _ _ _ _ _ | deliver _ _ _ _ _ _ _ _ _
  | deliverOneWay _ _ _ _ _ _ | spendContract _ _ _ _ _ _ | commitCommand _ _ _ _ =>
    cases List.mem_singleton.mp hmem

theorem presented_of_verdict {result : CoreCommandResult} (h : PeerVerdict input frame result) :
    input.presented = none := by
  cases h with
  | sendRejected received _ _ | requestRejected received _ _ | answered received _ _ _
  | aborted received _ _ _ =>
    rw [received]
    rfl

theorem presented_of_outcome {overflowed : Bool} {result : CoreCommandResult}
    (h : OutcomeCause input w frame overflowed result) : input.presented = none := by
  cases h with
  | committed outcome _ | released _ outcome _ | lost outcome _ | abandoned outcome =>
    rw [outcome]
    rfl
  | failed cause =>
    cases cause with
    | notWritten outcome | indeterminate outcome | notAdmitted outcome _ =>
      rw [outcome]
      rfl

/-- In the round that presents a command nothing else is fresh, and the command is not if it is
open. -/
theorem fresh_of_presented {core : SessionCore} {kind : OpenCommandKind}
    (hpresented : input.presented = some (c, kind))
    (hs : Steps (Effect core input) (core.entry input) actions stage) :
    stage.fresh = none ∨ stage.fresh = some c ∧ core.openCommands.contains c = false := by
  refine hs.preserves (I := fun stage => stage.fresh = none ∨
    stage.fresh = some c ∧ core.openCommands.contains c = false) (fun before _ after hbefore he =>
      ?_) ?_
  · rcases he.fresh_kept with hnone | hkept
    · exact Or.inl hnone
    · rw [hkept]
      exact hbefore
  · cases hcontains : core.openCommands.contains c with
    | true =>
      rw [entry_eq_of_open hpresented hcontains]
      exact Or.inl rfl
    | false =>
      rw [entry_eq_of_vacant hpresented hcontains]
      exact Or.inr ⟨rfl, rfl⟩

/-- **The round that emits a Data frame** leaves the frame carried for the command that it accepted,
and does not complete the command. -/
theorem emits_of_handle {core : SessionCore} {kind : OpenCommandKind} (hc : Coherent none core)
    (hodd : core.PrimaryContracts) (hpresented : input.presented = some (c, kind))
    (hmem : .sendFrame w (.data frame) ∈ (core.handle input).actions) :
    (core.handle input).core.Carries w c frame ∧
      ∀ result, .completeCommand c result ∉ (core.handle input).actions := by
  obtain ⟨before, after, past, now, later, hpast, hnow, hlater, hin, -⟩ :=
    (steps_handle hc input).exists_of_mem hmem
  have hbefore : Coherent before.fresh before.core := coherent_of_steps hpast (hc.entry input)
  obtain ⟨c', hfresh, hcarries⟩ := hnow.emits hbefore hin
  obtain ⟨rfl, hvacant⟩ : c' = c ∧ core.openCommands.contains c = false := by
    rcases fresh_of_presented hpresented hpast with hnone | ⟨hours, hvacant⟩
    · cases hnone.symm.trans hfresh
    · exact ⟨Option.some.inj (hfresh.symm.trans hours), hvacant⟩
  have hprimary : after.core.PrimaryContracts := by
    refine (hpast.trans (.single hnow)).preserves (I := fun stage => stage.core.PrimaryContracts)
      (fun _ _ _ hI he => he.authority.primaryContracts hI) ?_
    rw [entry_frame]
    exact hodd
  have hend : (core.handle input).core.Carries w c' frame := by
    rcases carries_of_steps hlater (hnow.coherent hbefore) hprimary hcarries with
      ⟨hcarries, -⟩ | ⟨_, -, hverdict⟩ | ⟨-, ⟨_, -, hcause⟩ | ⟨-, _, _, houtcome⟩⟩
    · exact hcarries
    · cases (presented_of_verdict hverdict).symm.trans hpresented
    · cases (presented_of_outcome hcause).symm.trans hpresented
    · rw [houtcome] at hpresented
      cases hpresented
  refine ⟨hend, fun result hcompletes => ?_⟩
  -- accepted once and still open, it has not completed
  have hcount := count_completed hc [input] c'
  have hopen : (machine.after core [input]).openCommands.contains c' = true :=
    TreeMap.contains_iff.mpr ⟨_, hend.open_ (hc.handle input)⟩
  have haccepted : core.acceptances [input] = [(c', kind)] := by
    have haccepted : core.accepted input = some (c', kind) := by
      rw [accepted, hpresented]
      exact Option.filter_eq_some_iff.mpr ⟨rfl, by simp [hvacant]⟩
    simp [acceptances, haccepted]
  have hpos : 0 < ((machine.history core [input]).filterMap CoreAction.completed).count c' := by
    refine List.count_pos_iff.mpr (List.mem_filterMap.mpr ⟨.completeCommand c' result, ?_, rfl⟩)
    rw [Machine.history_cons, Machine.history_nil, List.append_nil]
    exact hcompletes
  have honce : (([(c', kind)] : List (CommandId × OpenCommandKind)).map Prod.fst).count c' = 1 :=
    List.count_singleton_self
  rw [hopen, hvacant, haccepted, honce, if_pos rfl, if_neg Bool.false_ne_true] at hcount
  omega

end

/-! ## Runs -/

theorem SessionCore.PrimaryContracts.handle {core : SessionCore} {input : Input}
    (h : core.PrimaryContracts)
    (hc : Coherent none core) : (core.handle input).core.PrimaryContracts := by
  refine (steps_handle hc input).preserves (I := fun stage => stage.core.PrimaryContracts)
    (fun _ _ _ hI he => he.authority.primaryContracts hI) ?_
  rw [entry_frame]
  exact h

/-- A carried frame stays carried until its write is consumed or its command completes. -/
theorem carries_run {core : SessionCore} {w : WriteId} {c : CommandId} {frame : DataMessage}
    (hc : Coherent none core) (hodd : core.PrimaryContracts) (h : core.Carries w c frame)
    {inputs : List Input} (hpending : machine.Along
      (fun core input => ¬ core.Consumes input w) core inputs)
    (hopen : ∀ result, .completeCommand c result ∉ machine.history core inputs) :
    (machine.after core inputs).Carries w c frame := by
  induction inputs generalizing core with
  | nil => exact h
  | cons input inputs ih =>
    obtain ⟨hnot, hlater⟩ := hpending
    have hround : ∀ result, .completeCommand c result ∉ (core.handle input).actions :=
      fun result hmem =>
      hopen result (List.mem_append_left _ hmem)
    refine ih (hc.handle input) (hodd.handle hc) ?_ hlater fun result hmem => ?_
    · rcases h.handle hc hodd with ⟨hcarries, -⟩ | ⟨result, hmem, -⟩ | ⟨hgone, -⟩
      · exact hcarries
      · exact absurd hmem (hround result)
      · exact absurd hgone (writeKind_of_unconsumed hc hodd h.writeKind_ne hnot)
    · exact hopen result (List.mem_append_right _ hmem)

/-- **Completions tell the truth about the visibility of a frame**, in every run.  The round that
emits the Data frame of a command does not complete the command.  As long as no input has consumed
the write of the frame and the command has not completed, the command is open, only the peer
completes it, and the outcome of the write decides its result: a Send or reply completes with `Ok`
exactly if its write was committed. -/
theorem completions_tell_visibility (config : SessionCoreConfig) (nextWriteId : Option UInt64)
    (nextSystemBytes : Option UInt32) (earlier : List Input) (emitter : Input) (c : CommandId)
    (kind : OpenCommandKind) (w : WriteId) (frame : DataMessage)
    (hpresented : emitter.presented = some (c, kind))
    (hemits : .sendFrame w (.data frame) ∈ ((machine.after
      (SessionCore.initial config nextWriteId nextSystemBytes) earlier).handle emitter).actions) :
    let core := machine.after (SessionCore.initial config nextWriteId nextSystemBytes) earlier
    (∀ result, .completeCommand c result ∉ (core.handle emitter).actions) ∧
    ∀ later, machine.Along (fun core input => ¬ core.Consumes input w)
      (core.handle emitter).core later →
      (∀ result, .completeCommand c result ∉ machine.history (core.handle emitter).core later) →
      (machine.after (core.handle emitter).core later).TellsVisibility c w frame := by
  intro core
  have hc : Coherent none core := coherent_run config nextWriteId nextSystemBytes earlier
  have hodd : core.PrimaryContracts :=
    primaryContracts_run config nextWriteId nextSystemBytes earlier
  obtain ⟨hcarries, hsilent⟩ := emits_of_handle hc hodd hpresented hemits
  refine ⟨hsilent, fun later hpending hopen => ?_⟩
  have hrun : machine.after (core.handle emitter).core later =
      machine.after (SessionCore.initial config nextWriteId nextSystemBytes)
        (earlier ++ emitter :: later) := by
    rw [machine.after_append, machine.after_cons]
    rfl
  refine (carries_run (hc.handle emitter) (hodd.handle hc) hcarries hpending hopen).tells ?_ ?_
  · rw [hrun]
    exact coherent_run config nextWriteId nextSystemBytes _
  · rw [hrun]
    exact primaryContracts_run config nextWriteId nextSystemBytes _

/-- The Core of a selected session that has sent a Primary. -/
def Scenario.sent : SessionCore :=
  ((machine.after (SessionCore.initial Scenario.config (some 0) (some 0)) Scenario.selected).handle
    (.command ⟨⟨1⟩, .send Scenario.request⟩ .zero)).core

/-- A Send that is open when its generation is stopped. -/
theorem completions_tell_visibility_of_send :
    (machine.after Scenario.sent [.shutdown .localStop none .zero]).TellsVisibility ⟨1⟩ ⟨1⟩
      ⟨⟨Scenario.config.sessionId, ⟨1, by decide⟩, ⟨1⟩, false, ⟨0⟩⟩, none⟩ := by
  have hemits : .sendFrame ⟨1⟩ (.data
      ⟨⟨Scenario.config.sessionId, ⟨1, by decide⟩, ⟨1⟩, false, ⟨0⟩⟩, none⟩) ∈
      ((machine.after (SessionCore.initial Scenario.config (some 0)
        (some 0)) Scenario.selected).handle
        (.command ⟨⟨1⟩, .send Scenario.request⟩ .zero)).actions := List.mem_cons_self
  have hopen : (machine.history Scenario.sent [.shutdown .localStop none .zero]).filterMap
      CoreAction.completed = [] := by decide
  refine (completions_tell_visibility Scenario.config (some 0) (some 0) Scenario.selected
    (.command ⟨⟨1⟩, .send Scenario.request⟩ .zero) ⟨1⟩ .send ⟨1⟩ _ rfl hemits).2
    [.shutdown .localStop none .zero] ⟨id, trivial⟩ fun result hmem => ?_
  have hcompleted : (⟨1⟩ : CommandId) ∈ (machine.history Scenario.sent
      [.shutdown .localStop none .zero]).filterMap CoreAction.completed :=
    List.mem_filterMap.mpr ⟨.completeCommand ⟨1⟩ result, hmem, rfl⟩
  rw [hopen] at hcompleted
  cases hcompleted

/-- A selected Core sends a frame and is then told that its Writer has ended. -/
def Scenario.prematureFinalize : List Input :=
  Scenario.selected ++ [.command ⟨⟨1⟩, .send Scenario.request⟩ .zero, .finalizeWriter .zero]

theorem premature_finalize_completes_nothing :
    let last := machine.after (SessionCore.new Scenario.config) Scenario.prematureFinalize
    (machine.history (SessionCore.new Scenario.config) Scenario.prematureFinalize).filterMap
        CoreAction.completed = [] ∧
      last.openCommands.contains ⟨1⟩ = true ∧ last.writeUnresolved ⟨1⟩ = true := by
  decide

end Hsms
end SecsRust

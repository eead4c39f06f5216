import SecsRust.Hsms.Core.Session.Trace

/-!
# Rounds of the entry points

The remaining inbound messages and the deadlines: `receive_deselect_request`,
`receive_deselect_response`, `receive_reject`, `receive_data`, `receive_inbound_data` and
`expire_deadlines`, each as a sequence of effects in the sense of `Runs`.

Two of them are loops or searches rather than case analyses.  `receive_reject` collects the
targets that the Reject names and acts where there is exactly one; what membership in the
three lists means is said by `mem_controlTargets`, `mem_requestTargets` and
`mem_sendTargets`.  `expire_deadlines` goes through the Requests that were due when the
round began, and each of them must still be live, with the same entry, when its turn comes:
`ExpiryList` is that condition, and `ExpiryList.tail` says that one round of the loop keeps
it for the rest.

The order of `expire_deadlines` raises one more question.  It asks for a control transaction
once, before the loop, and acts on the answer after it.  `ControlKept` says that what lies
between leaves the transaction where it was, unless the generation ends, and the few
functions it needs to go through have a lemma each.
-/

namespace SecsRust
namespace Hsms

open Std Secs2 SessionCore

namespace Turn

variable {origin : SessionCore} {input : Input} {t : Turn} {fresh : Option CommandId}

/-! ## Deselection by either side -/

theorem sendResponse_cases (t : Turn) (message : ControlMessage) :
    t.sendResponse message = t.endGeneration .runtimeInvariant ∨
    ∃ w : WriteId, t.core.nextWriteId = some w.raw ∧ t.sendResponse message =
      ⟨t.core.trackWrite w ⟨.response, none⟩, t.actions ++ [.sendFrame w (.control message)],
        t.overflowed⟩ := by
  unfold sendResponse allocateWriteId
  cases hnext : t.core.nextWriteId with
  | none => exact Or.inl rfl
  | some raw => exact Or.inr ⟨⟨raw⟩, rfl, rfl⟩

/-- A response write is not a Data write. -/
theorem dataQuiet_trackResponse {core : SessionCore} {w : WriteId} (hquiet : core.DataQuiet) :
    (core.trackWrite w ⟨.response, none⟩).DataQuiet := by
  refine ⟨hquiet.1, fun a write ha => ?_⟩
  have hlook : (core.pendingWrites.insert w ⟨.response, none⟩)[a]? = some write := ha
  rw [TreeMap.getElem?_insert] at hlook
  split at hlook
  · rw [← Option.some.inj hlook]
    rfl
  · exact hquiet.2 a write hlook

theorem runs_receiveDeselectRequest {sessionId : UInt16} {systemBytes : SystemBytes}
    {now : MonoTime}
    (hinput : input = .message (.control (.deselectRequest sessionId systemBytes)) now)
    (hlive : t.core.closing = false) (hstate : t.core.state.isSome = true) :
    Runs origin input t none (t.receiveDeselectRequest sessionId systemBytes now) none := by
  have hrespond : ∀ status : DeselectStatus, Runs origin input t none
      (t.sendResponse (.deselectResponse sessionId status systemBytes)) none :=
    fun _ => runs_sendResponse hstate hlive rfl (by rw [hinput]; rfl)
  have hrefused : ∀ status : DeselectStatus, ¬ status.IsSuccess → Runs origin input t none
      (if status.IsSuccess ∧ !(t.sendResponse (.deselectResponse sessionId status
          systemBytes)).core.closing then
        (t.sendResponse (.deselectResponse sessionId status systemBytes)).commitDeselection now
      else t.sendResponse (.deselectResponse sessionId status systemBytes)) none := by
    intro status hstatus
    rw [if_neg fun hc => hstatus hc.1]
    exact hrespond status
  unfold receiveDeselectRequest
  dsimp only
  by_cases hid : sessionId ≠ controlSessionId ∨ t.core.state ≠ some .selected
  · rw [if_pos hid]
    exact hrefused .notSelected (by decide)
  · rw [if_neg hid]
    simp only [not_or, not_not] at hid
    cases huse : t.core.dataInUse with
    | true => exact hrefused .busy (by decide)
    | false =>
      rw [if_neg Bool.false_ne_true]
      have hrun := hrespond .success
      have hquiet := (dataInUse_eq_false_iff.mp huse).1
      rcases t.sendResponse_cases (.deselectResponse sessionId .success systemBytes) with
        heq | ⟨w, -, heq⟩
      · rw [heq, if_neg (by simp), ← heq]
        exact hrun
      · rw [heq] at hrun ⊢
        split
        · exact hrun.trans (runs_commitDeselection (by rw [hinput]; rfl) hlive hid.2
            (dataQuiet_trackResponse hquiet) (.requested hinput))
        · exact hrun

/-- The accepted Deselect response while the Core is still Selected. -/
theorem runs_deselectAccepted {transaction : ControlTransaction} {sessionId : UInt16}
    {status : DeselectStatus} {systemBytes : SystemBytes} {now : MonoTime}
    (hinput : input = .message (.control (.deselectResponse sessionId status systemBytes)) now)
    (h : Coherent none t.core) (hstate : t.core.state = some .selected)
    (hactive : t.core.activeTransaction = some transaction) (hkind : transaction.kind = .deselect)
    (hcause : ControlCause input transaction (.ok ())) (hbefore : t.core.control = origin.control) :
    Runs origin input t none
      (((t.update fun core => { core with activeTransaction := none }).commitDeselection
        now).completeControlTransaction transaction (.ok ())) none := by
  have hne : (t.update fun core => { core with activeTransaction := none }).core.state ≠
      some .notSelected := by
    rw [show (t.update fun core => { core with activeTransaction := none }).core.state =
      t.core.state from rfl, hstate]
    nofun
  rcases commitDeselection_cases now hne with ⟨deadline, hadd, heq⟩ | heq
  · rw [heq]
    have hdeselected : Runs origin input t none ((t.update fun core =>
        { core with
          state := some .notSelected
          replyContracts := ∅
          selectionDeadline := some deadline }).push (.sessionStateChanged .notSelected)) none :=
      .effect (.deselected deadline hstate (h.live_of_active hactive)
        (h.deselect_quiet transaction hactive hkind) (by rw [hinput]; exact hadd)
        (.answered hinput))
    exact hdeselected.trans (runs_retireControl (hdeselected.coherent h) hactive hcause hbefore)
  · rw [heq]
    -- the transaction is gone before the close, which would have dropped it as well
    have hover : Runs origin input t none ((((t.update fun core =>
        { core with activeTransaction := none }).update fun core =>
          { core with
            state := some .notSelected
            replyContracts := ∅
            selectionDeadline := none }).noteOverflow.endGeneration .runtimeInvariant).push
              (.sessionStateChanged .notSelected)) none := runs_deselectionOverflow
    unfold completeControlTransaction
    cases transaction.commandId with
    | none => exact hover
    | some c =>
      exact hover.trans (runs_lateControl (endGeneration_closing _ _)
        (endGeneration_overflowed _ _))

theorem runs_receiveDeselectResponse {sessionId : UInt16} {status : DeselectStatus}
    {systemBytes : SystemBytes} {now : MonoTime}
    (hinput : input = .message (.control (.deselectResponse sessionId status systemBytes)) now)
    (h : Coherent none t.core) (hlive : t.core.closing = false)
    (hstate : t.core.state.isSome = true) (hbefore : t.core.control = origin.control) :
    Runs origin input t none (t.receiveDeselectResponse sessionId status systemBytes now) none := by
  unfold receiveDeselectResponse
  split
  · exact runs_sendResponse hstate hlive rfl (by rw [hinput]; rfl)
  · rename_i transaction hmatch
    obtain ⟨hactive, hmatch⟩ := Option.filter_eq_some_iff.mp hmatch
    simp only [decide_eq_true_eq] at hmatch
    obtain ⟨hkind, rfl, rfl⟩ := hmatch
    have hcause : ∀ result, ControlCause input transaction result :=
      fun _ => .deselect hinput hkind
    split
    · by_cases hsel : t.core.state = some .selected
      · exact runs_deselectAccepted hinput h hsel hactive hkind (hcause _) hbefore
      · have hnoop : (t.update fun core =>
            { core with activeTransaction := none }).commitDeselection now =
            t.update fun core => { core with activeTransaction := none } :=
          if_neg (not_not_intro (h.notSelected_of_ne hstate hsel))
        dsimp only
        rw [hnoop]
        exact runs_retireControl h hactive (hcause _) hbefore
    · exact runs_retireControl h hactive (hcause _) hbefore

/-! ## Rejects -/

section

variable {core : SessionCore} {sessionId : UInt16} {headerByte2 : UInt8} {reason : RejectReason}
  {systemBytes : SystemBytes} {target : RejectTarget}

theorem mem_controlTargets :
    target ∈ controlTargets core sessionId headerByte2 reason systemBytes ↔
      ∃ transaction, core.activeTransaction = some transaction ∧
        namesControl transaction sessionId headerByte2 reason systemBytes = true ∧
        target = .control transaction := by
  unfold controlTargets
  cases core.activeTransaction with
  | none => simp
  | some transaction =>
    simp only [Option.some.injEq, exists_eq_left']
    cases namesControl transaction sessionId headerByte2 reason systemBytes <;> simp

theorem mem_requestTargets :
    target ∈ requestTargets core sessionId headerByte2 reason systemBytes ↔
      ∃ (key : SystemBytes) (transaction : DataTransaction),
        core.dataTransactions[key]? = some transaction ∧
        transaction.responseContract.matchesReject sessionId headerByte2 reason systemBytes = true ∧
        target = .dataRequest transaction := by
  simp only [requestTargets, List.mem_filterMap, Prod.exists, TreeMap.mem_toList,
    Option.ite_none_right_eq_some, Option.some.injEq, eq_comm (a := RejectTarget.dataRequest _)]

theorem mem_sendTargets :
    target ∈ sendTargets core sessionId headerByte2 reason systemBytes ↔
      ∃ (w : WriteId) (correlation : DataWriteCorrelation) (commandId : CommandId),
        core.pendingWrites[w]? = some ⟨.dataSend correlation, some commandId⟩ ∧
        correlation.matchesReject sessionId headerByte2 reason systemBytes = true ∧
        target = .dataSend commandId := by
  simp only [sendTargets, List.mem_filterMap, Prod.exists, TreeMap.mem_toList]
  constructor
  · rintro ⟨w, ⟨kind, commandId⟩, hpending, hfound⟩
    cases kind with
    | dataSend correlation =>
      cases commandId with
      | none => cases hfound
      | some c =>
        rw [Option.ite_none_right_eq_some, Option.some.injEq] at hfound
        exact ⟨w, correlation, c, hpending, hfound.1, hfound.2.symm⟩
    | transactionRequest => cases hfound
    | dataRequest _ => cases hfound
    | response => cases hfound
    | separate => cases hfound
  · rintro ⟨w, correlation, c, hpending, hnames, rfl⟩
    exact ⟨w, _, hpending, if_pos hnames⟩

end

theorem runs_rejectTarget {sessionId : UInt16} {headerByte2 : UInt8} {reason : RejectReason}
    {systemBytes : SystemBytes} {now : MonoTime} {target : RejectTarget}
    (hinput : input =
      .message (.control (.rejectRequest sessionId headerByte2 reason systemBytes)) now)
    (hbase : reason.IsBaseStandard) (h : Coherent none t.core) (hlive : t.core.closing = false)
    (hbefore : t.core.control = origin.control)
    (htarget : target ∈ rejectTargets t.core sessionId headerByte2 reason systemBytes) :
    Runs origin input t none (t.rejectTarget reason target) none := by
  rcases List.mem_append.mp htarget with hpair | hsend
  · rcases List.mem_append.mp hpair with hcontrol | hrequest
    · obtain ⟨transaction, hactive, hnames, rfl⟩ := mem_controlTargets.mp hcontrol
      obtain ⟨rfl, rfl, -⟩ := of_decide_eq_true hnames
      exact runs_retireControl h hactive (.rejected hinput hbase hnames) hbefore
    · obtain ⟨key, transaction, hkey, hnames, rfl⟩ := mem_requestTargets.mp hrequest
      obtain rfl := h.request_key key transaction hkey
      have hopen : (t.retireTransaction transaction
          transaction.responseContract.systemBytes).core.openCommands[transaction.commandId]? =
            some .request := h.request_open _ transaction hkey
      show Runs origin input t none ((t.retireTransaction transaction
        transaction.responseContract.systemBytes).completeError transaction.commandId
          (.peerRejected reason)) none
      rw [completeError_of_open hopen]
      exact .effect (.retireRequest hlive hkey (.rejected hinput hnames))
  · obtain ⟨w, correlation, c, hpending, hnames, rfl⟩ := mem_sendTargets.mp hsend
    obtain ⟨kind, hclass, hopen⟩ := h.write_open w _ c hpending rfl
    obtain rfl : OpenCommandKind.send = kind := Option.some.inj hclass
    show Runs origin input t none (t.completeError c (.peerRejected reason)) none
    rw [completeError_of_open hopen]
    exact .effect (.rejectSend hlive hinput hpending rfl rfl hnames)

theorem runs_receiveReject {sessionId : UInt16} {headerByte2 : UInt8} {reason : RejectReason}
    {systemBytes : SystemBytes} {now : MonoTime}
    (hinput : input =
      .message (.control (.rejectRequest sessionId headerByte2 reason systemBytes)) now)
    (h : Coherent none t.core) (hlive : t.core.closing = false)
    (hbefore : t.core.control = origin.control) :
    Runs origin input t none (t.receiveReject sessionId headerByte2 reason systemBytes).1 none := by
  unfold receiveReject
  split
  · exact .refl _ _
  · rename_i hbase
    split
    · exact .refl _ _
    · rename_i target htargets
      refine runs_rejectTarget hinput (not_not.mp hbase) h hlive hbefore ?_
      rw [htargets]
      exact List.mem_singleton_self _
    · exact .refl _ _

/-! ## Inbound Data -/

theorem runs_receiveData {message : DataMessage} {now : MonoTime}
    (hinput : input = .message (.data message) now) (h : Coherent none t.core)
    (hlive : t.core.closing = false) :
    Runs origin input t none (t.receiveData message).1 none := by
  unfold receiveData
  dsimp only
  cases hpending : t.core.dataTransactions[message.header.systemBytes]? with
  | none => exact .refl _ _
  | some transaction =>
    have hopen : (t.retireTransaction transaction
        message.header.systemBytes).core.openCommands[transaction.commandId]? = some .request :=
      h.request_open _ transaction hpending
    dsimp only
    split
    · exact .refl _ _
    · rename_i hnormal
      dsimp only
      rw [completeRequest_of_open hopen]
      exact .effect (.retireRequest hlive hpending (.answered hinput rfl hnormal))
    · rename_i habort
      dsimp only
      rw [completeRequest_of_open hopen]
      exact .effect (.retireRequest hlive hpending (.aborted hinput rfl habort))

/-- A function number whose low bit is set is odd. -/
theorem odd_of_and_ne_zero {function : UInt8} (h : ¬ function &&& 1 = 0) : function % 2 = 1 := by
  have hmod : function &&& 1 = function % 2 := by
    rw [← UInt8.toNat_inj, UInt8.toNat_and, UInt8.toNat_mod]
    exact Nat.and_one_is_mod _
  rw [hmod] at h
  exact odd_of_not_even fun h' => h'.elim (fun h0 => h (by rw [h0]; rfl)) h

theorem runs_receiveInboundData {message : DataMessage} {now : MonoTime}
    (hinput : input = .message (.data message) now) (h : Coherent none t.core)
    (hlive : t.core.closing = false) (hstate : t.core.state.isSome = true) :
    Runs origin input t none (t.receiveInboundData message) none := by
  unfold receiveInboundData
  dsimp only
  split
  · exact runs_sendResponse hstate hlive rfl (by rw [hinput]; rfl)
  · rename_i hselected
    simp only [not_or, not_not] at hselected
    split
    · exact (runs_receiveData hinput h hlive).trans (.silent (.observe _ _ _))
    · rename_i hodd
      split
      · exact runs_endGeneration _
      · rename_i hunused
        simp only [Bool.not_eq_true, TreeMap.any_toList_eq_false_iff, decide_eq_false_iff_not]
          at hunused
        split
        · rename_i hreply
          split
          · exact runs_endGeneration _
          · rename_i hcapacity
            cases hnext : t.core.nextReplyId with
            | none => exact runs_endGeneration _
            | some raw =>
              have hnext : t.core.nextReplyId = some (⟨raw⟩ : ReplyCapabilityId).raw := hnext
              exact .effect (.deliver hinput hselected.1 hlive hselected.2
                (odd_of_and_ne_zero hodd) hreply hunused (Nat.lt_of_not_le hcapacity) hnext)
        · rename_i hreply
          exact .of_effect (.deliverOneWay hinput hselected.1 hlive hselected.2
            (odd_of_and_ne_zero hodd) (by simpa using hreply)) rfl rfl rfl

/-! ## The control transaction across completions -/

theorem control_congr {core core' : SessionCore}
    (h : core.activeTransaction = core'.activeTransaction) : core.control = core'.control :=
  congrArg (Option.map ControlTransaction.identity) h

/-- The Turn still has the control transaction of `core`, or it is closing. -/
def ControlKept (core : SessionCore) (t : Turn) : Prop :=
  t.core.closing = false → t.core.control = core.control

namespace ControlKept

variable {core : SessionCore}

theorem endGeneration (t : Turn) (reason : GenerationCloseReason) :
    ControlKept core (t.endGeneration reason) := fun hlive => by
  rw [endGeneration_closing] at hlive
  cases hlive

theorem emitCompletion (h : ControlKept core t) (c : CommandId) (result : CoreCommandResult) :
    ControlKept core (t.emitCompletion c result) := by
  unfold Turn.emitCompletion
  split
  · exact h
  · exact endGeneration t _

theorem completeError (h : ControlKept core t) (c : CommandId) (error : OperationError) :
    ControlKept core (t.completeError c error) := by
  unfold Turn.completeError
  split
  · exact endGeneration t _
  · exact h.emitCompletion c _

theorem completeControl (h : ControlKept core t) (c : CommandId)
    (result : Except OperationError Unit) : ControlKept core (t.completeControl c result) := by
  unfold Turn.completeControl
  split
  · exact endGeneration t _
  · exact h.emitCompletion c _

theorem completeSend (h : ControlKept core t) (c : CommandId)
    (result : Except OperationError CommittedWrite) :
    ControlKept core (t.completeSend c result) := by
  unfold Turn.completeSend
  split
  · exact endGeneration t _
  · exact h.emitCompletion c _

theorem recordActivity (h : ControlKept core t) (occurredAt : MonoTime) :
    ControlKept core (t.recordActivity occurredAt) := by
  rcases t.recordActivity_cases occurredAt with ⟨-, _, _, heq⟩ | ⟨_, heq⟩
  · rw [heq]
    exact h
  · rw [heq]
    exact endGeneration _ .runtimeInvariant

theorem commitWrite (h : ControlKept core t) (w : WriteId) (write : PendingWrite)
    (occurredAt : MonoTime) : ControlKept core (t.commitWrite w write occurredAt) := by
  unfold Turn.commitWrite
  split
  · split
    · rename_i transaction hactive
      split
      · dsimp only
        split
        · exact endGeneration _ .runtimeInvariant
        · -- only the deadline of the transaction changes
          intro hlive
          have hcontrol : t.core.control = core.control := h hlive
          rw [SessionCore.control, hactive] at hcontrol
          exact hcontrol
      · exact h
    · exact h
  · split
    · exact h.completeSend _ _
    · exact h
  · split
    · split
      · dsimp only
        split
        · exact endGeneration _ .runtimeInvariant
        · exact h
      · exact h
    · exact h
  · split
    · exact h.completeControl _ _
    · exact h
  · exact h

theorem resolveWrite (h : ControlKept core t) (w : WriteId) (write : PendingWrite)
    (outcome : WriteOutcome) (occurredAt : MonoTime) :
    ControlKept core (t.resolveWrite w write outcome occurredAt) := by
  cases outcome with
  | committed => exact h.commitWrite w write occurredAt
  | notWritten fault => exact endGeneration _ .transportLost
  | indeterminate fault => exact endGeneration _ .transportLost

end ControlKept

/-- A started transaction occupies the slot. -/
theorem startTransaction_busy (kind : TransactionKind) (c : Option CommandId)
    (hlive : (t.startTransaction kind c).core.closing = false) :
    (t.startTransaction kind c).core.activeTransaction ≠ none := by
  unfold startTransaction at hlive ⊢
  rcases t.allocateRequestIdentifiers_cases with ⟨reason, heq⟩ | ⟨sb, w, -, heq⟩
  · rw [heq] at hlive
    exact absurd (endGeneration_closing t reason) (Bool.not_eq_true _ ▸ hlive)
  · rw [heq]
    nofun

/-- `progress_deselect` keeps the slot or occupies it. -/
theorem progressDeselect_control (t : Turn) (now : MonoTime) :
    ControlKept t.core (t.progressDeselect now) ∨
      ((t.progressDeselect now).core.closing = false →
        (t.progressDeselect now).core.activeTransaction ≠ none) := by
  have hkept : ControlKept t.core t := fun _ => rfl
  have hdropped : ControlKept t.core (t.update fun core => { core with deselectDrain := none }) :=
    fun _ => rfl
  unfold progressDeselect
  split
  · exact Or.inl hkept
  · split
    · exact Or.inl hkept
    · split
      · exact Or.inl (hdropped.completeError _ _)
      · split
        · exact Or.inl (hdropped.completeControl _ _)
        · split
          · exact Or.inr (startTransaction_busy _ _)
          · exact Or.inl hkept

/-- A Core that stays open and ends `progress_deselect` with an idle slot began it with one. -/
theorem idle_of_progressDeselect {now : MonoTime}
    (hlive : (t.progressDeselect now).core.closing = false)
    (hidle : (t.progressDeselect now).core.activeTransaction = none) :
    t.core.activeTransaction = none := by
  rcases t.progressDeselect_control now with hkept | hbusy
  · have hcontrol := hkept hlive
    unfold SessionCore.control at hcontrol
    rw [hidle] at hcontrol
    exact Option.map_eq_none_iff.mp hcontrol.symm
  · exact absurd hidle (hbusy hlive)

/-! ## Deadlines -/

/-- A connected Core stays connected. -/
theorem connected_of_effect {stage stage' : Stage} {actions : List CoreAction}
    (h : stage.core.state.isSome = true) (he : Effect origin input stage actions stage') :
    stage'.core.state.isSome = true := by
  cases he with
  | ended _ _ state _ done =>
    rw [done.frame]
    rcases state with hstate | hstate | hstate
    · exact (congrArg Option.isSome hstate).trans h
    · exact congrArg Option.isSome hstate
    · exact congrArg Option.isSome hstate
  | lostWrite _ _ _ _ frame done =>
    rw [done.frame, frame]
    exact h
  | admissionClosed _ _ _ _ done | abandonWrites _ _ done | loseCommands _ _ done =>
    dsimp only
    rw [done.frame]
    exact h
  | separate _ _ _ _ _ _ _ done | peerSeparate _ _ _ _ done =>
    dsimp only [trackWrite, takeSystemBytes]
    rw [done.frame]
    rfl
  | connect _ _ _ _ _ | selected _ _ _ | deselected _ _ _ _ _ _ => rfl
  | retireControl _ _ _ =>
    dsimp only
    rw [release_frame]
    exact h
  | failWrite _ _ _ =>
    dsimp only
    rw [release_frame, removeTransactionForWrite_frame]
    exact h
  | tick _ | observe _ _ _ | lateAnnounce _ | lateControl _ _ _ _ | respond _ _ _ _ _ _
  | refuse _ _ _ | startDrain _ _ _ _ _ _ _ | endDrain _ _ _ | startControl _ _ _ _ _ _ _ _ _ _
  | startDeselection _ _ _ _ _ | sendRequest _ _ _ _ _ _ _ _ _ | sendPrimary _ _ _ _ _ _ _ _ _
  | retireRequest _ _ _ | rejectSend _ _ _ _ _ _ | deliver _ _ _ _ _ _ _ _ _
  | deliverOneWay _ _ _ _ _ _ | spendContract _ _ _ _ _ _ | sendReply _ _ _ _ _ _ _
  | commitControl _ _ _ _ _ | commitRequest _ _ _ _ _ | commitCommand _ _ _ _
  | commitSilently _ _ _ => exact h

theorem connected_of_runs {t' : Turn} {fresh' : Option CommandId}
    (h : Runs origin input t fresh t' fresh') (hstate : t.core.state.isSome = true) :
    t'.core.state.isSome = true := by
  obtain ⟨_, _, hs⟩ := h
  exact hs.preserves (I := fun stage => stage.core.state.isSome = true)
    (fun _ _ _ h he => connected_of_effect h he) hstate

/-- The listed Requests are live, due, and stored under different System Bytes. -/
structure ExpiryList (core : SessionCore) (now : MonoTime) (requests : List DataTransaction) :
    Prop where
  live : ∀ transaction ∈ requests,
    core.dataTransactions[transaction.responseContract.systemBytes]? = some transaction
  due : ∀ transaction ∈ requests, ∃ deadline, transaction.deadline = some deadline ∧ deadline ≤ now
  distinct : requests.Pairwise fun a b =>
    a.responseContract.systemBytes ≠ b.responseContract.systemBytes

theorem expiryList_expiredRequests (h : Coherent fresh t.core) (now : MonoTime) :
    ExpiryList t.core now (expiredRequests t.core now) := by
  have hmem : ∀ transaction, transaction ∈ expiredRequests t.core now →
      (∃ key : SystemBytes, t.core.dataTransactions[key]? = some transaction) ∧
        (transaction.deadline.any fun deadline => decide (deadline ≤ now)) = true := by
    intro transaction htr
    rw [expiredRequests, List.mem_insertionSort, List.mem_filter] at htr
    exact ⟨TreeMap.mem_map_snd_toList.mp htr.1, htr.2⟩
  have hkeys : (t.core.dataTransactions.toList.map Prod.snd).Pairwise fun a b =>
      a.responseContract.systemBytes ≠ b.responseContract.systemBytes := by
    refine List.pairwise_map.mpr
      ((ExtTreeMap.distinct_keys_toList (t := t.core.dataTransactions)).imp_of_mem ?_)
    rintro ⟨key, a⟩ ⟨key', b⟩ ha hb hne heq
    rw [h.request_key key a (TreeMap.mem_toList.mp ha),
      h.request_key key' b (TreeMap.mem_toList.mp hb)] at heq
    exact hne (Std.compare_eq_iff_eq.mpr heq)
  refine ⟨fun transaction htr => ?_, fun transaction htr => ?_, ?_⟩
  · obtain ⟨⟨key, hkey⟩, -⟩ := hmem transaction htr
    rwa [h.request_key key transaction hkey]
  · obtain ⟨-, hdue⟩ := hmem transaction htr
    cases hdeadline : transaction.deadline with
    | none =>
      rw [hdeadline] at hdue
      cases hdue
    | some deadline =>
      rw [hdeadline] at hdue
      exact ⟨deadline, rfl, of_decide_eq_true hdue⟩
  · unfold expiredRequests
    refine (List.Perm.pairwise_iff Ne.symm (List.perm_insertionSort _ _)).mpr ?_
    exact hkeys.filter _

/-- One round of the T3 loop on a live Request. -/
theorem expireRequest_of_live {transaction : DataTransaction} (h : Coherent none t.core)
    (hpending : t.core.dataTransactions[transaction.responseContract.systemBytes]? =
      some transaction) :
    t.expireRequest transaction =
      ⟨{ (t.core.detach transaction.commandId).eraseTransaction
          transaction.responseContract.systemBytes with
        tombstones := t.core.tombstones.insert transaction.responseContract },
        t.actions ++ [.completeCommand transaction.commandId
          (.requestTimedOut transaction.responseContract.requestHeader)], t.overflowed⟩ := by
  have hopen : (t.retireTransaction transaction
      transaction.responseContract.systemBytes).core.openCommands[transaction.commandId]? =
        some .request := h.request_open _ transaction hpending
  show (t.retireTransaction transaction
    transaction.responseContract.systemBytes).emitCompletion transaction.commandId
      (.requestTimedOut transaction.responseContract.requestHeader) = _
  rw [emitCompletion_of_open hopen]
  rfl

/-- A Request of the list that follows the first is still in the list after the first expired. -/
theorem ExpiryList.tail {now : MonoTime} {transaction : DataTransaction}
    {requests : List DataTransaction} (h : ExpiryList t.core now (transaction :: requests)) :
    ExpiryList { (t.core.detach transaction.commandId).eraseTransaction
        transaction.responseContract.systemBytes with
      tombstones := t.core.tombstones.insert transaction.responseContract } now requests where
  live other hother := by
    refine (TreeMap.getElem?_erase _ _).trans ?_
    rw [if_neg ((List.pairwise_cons.mp h.distinct).1 other hother)]
    exact h.live other (List.mem_cons_of_mem _ hother)
  due other hother := h.due other (List.mem_cons_of_mem _ hother)
  distinct := (List.pairwise_cons.mp h.distinct).2

/-- The T3 loop. -/
theorem runs_expireRequests {now : MonoTime} (hnow : input.now = now)
    (hticks : input.isTick = true) :
    ∀ (requests : List DataTransaction) (t : Turn), Coherent none t.core → t.core.closing = false →
      ExpiryList t.core now requests →
      Runs origin input t none (requests.foldl expireRequest t) none ∧
        (requests.foldl expireRequest t).core.activeTransaction = t.core.activeTransaction
  | [], t, _, _, _ => ⟨.refl _ _, rfl⟩
  | transaction :: requests, t, h, hlive, hlist => by
    have hpending := hlist.live transaction List.mem_cons_self
    obtain ⟨deadline, harmed, hdue⟩ := hlist.due transaction List.mem_cons_self
    have hone := expireRequest_of_live h hpending
    have hfirst : Runs origin input t none (t.expireRequest transaction) none := by
      rw [hone]
      exact .effect (.retireRequest hlive hpending (.expired hticks harmed (hnow ▸ hdue)))
    have hrest := runs_expireRequests hnow hticks requests (t.expireRequest transaction)
      (hfirst.coherent h) (by rw [hone]; exact hlive) (by rw [hone]; exact hlist.tail)
    exact ⟨hfirst.trans hrest.1, hrest.2.trans (by rw [hone]; rfl)⟩

theorem runs_expireDeadlines {now : MonoTime} (h : Coherent none t.core) (hnow : input.now = now)
    (hticks : input.isTick = true)
    (hbefore : t.core.closing = false → t.core.control = origin.control) :
    Runs origin input t none (t.expireDeadlines now) none := by
  unfold expireDeadlines
  split
  · exact .refl _ _
  · rename_i hopen
    simp only [Bool.or_eq_true, not_or, Bool.not_eq_true, Option.isNone_eq_false_iff] at hopen
    obtain ⟨hlive, hstate⟩ := hopen
    split
    · exact runs_endGeneration _
    · split
      · rename_i transaction hdue
        obtain ⟨hactive, hdue⟩ := Option.filter_eq_some_iff.mp hdue
        cases hdeadline : transaction.deadline with
        | none =>
          rw [hdeadline] at hdue
          cases hdue
        | some deadline =>
          rw [hdeadline] at hdue
          have hle : deadline ≤ input.now := hnow ▸ of_decide_eq_true hdue
          exact (runs_retireControl h hactive (.expired hdeadline hle) (hbefore hlive)).trans
            (runs_endGeneration _)
      · obtain ⟨hexpire, hsame⟩ : Runs origin input t none
            ((expiredRequests t.core now).foldl expireRequest t) none ∧ _ :=
          runs_expireRequests hnow hticks _ t h hlive (expiryList_expiredRequests h now)
        have hprogress := hexpire.trans (runs_progressDeselect (hexpire.coherent h) hnow)
        dsimp only
        split
        · exact hprogress
        · rename_i hstill
          split
          · rename_i hidle
            simp only [Bool.and_eq_true, Option.isNone_iff_eq_none] at hidle
            have hlive' := Bool.eq_false_of_not_eq_true hstill
            have hstate' := connected_of_runs hprogress hstate
            have hidleBefore : origin.activeTransaction = none := by
              have hnone := idle_of_progressDeselect hlive' hidle.1.1
              rw [hsame] at hnone
              have hcontrol := hbefore hlive
              unfold SessionCore.control at hcontrol
              rw [hnone] at hcontrol
              exact Option.map_eq_none_iff.mp hcontrol.symm
            generalize ((expiredRequests t.core now).foldl expireRequest t).progressDeselect now =
              last at *
            have hprobe : Runs origin input last none
                (last.update fun core => { core with idleDeadline := none }) none :=
              .silent (.observe _ _ _)
            exact hprogress.trans (hprobe.trans
              (runs_startTransaction nofun hstate' hlive' nofun hidle.1.1 hidle.1.2 hidleBefore
                nofun))
          · exact hprogress

end Turn

end Hsms
end SecsRust

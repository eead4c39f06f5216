import SecsRust.Hsms.Core.Session.Accounting
import SecsRust.Hsms.Core.Session.Frames

/-!
# The life of a write

A write is pending from the frame that it tracks until an input consumes it.  That the
consuming input does remove it, and that an input which names a write without consuming it
removes nothing, is read off the entry points: `SameWrites` holds across everything that
completes commands or closes the generation, and `Forgets` across the timers, which may send
a frame.  The rest follows from `WriteStep`.

Three entry points consume a write: the outcome that names it, a shutdown that names it as
the one that could not be admitted, and the end of the Writer, which consumes all that are
left.  An input whose time regresses consumes nothing, because the round ends before the
write is looked at; it does end the generation, so the write is consumed by the end of the
Writer (`FailsClosed`).

The last section puts the identifiers, the writes and the cross-references together for all
runs. A failed admission is set apart there: it closes the generation without dropping the
waiting drain, whose command it has just completed (`SessionCore.LeaksDrain`), and from then
on one reference in the tables names a command that is no longer open.
`failed_admission_keeps_dead_drain` is a run in which that happens.
-/

namespace SecsRust
namespace Hsms

open Std SessionCore

/-- Neither the pending writes nor the WriteId space have changed. -/
structure SameWrites (before after : SessionCore) : Prop where
  kinds : ∀ w, after.writeKind w = before.writeKind w
  next : after.nextWriteId = before.nextWriteId

/-- A used write that is not pending stays so. -/
def Forgets (w : WriteId) (before after : SessionCore) : Prop :=
  before.writeKind w = none → before.WriteUsed w → after.writeKind w = none ∧ after.WriteUsed w

section

variable {before middle after : SessionCore} {w : WriteId}

theorem SameWrites.refl (core : SessionCore) : SameWrites core core := ⟨fun _ => rfl, rfl⟩

theorem SameWrites.trans (h : SameWrites before middle) (h' : SameWrites middle after) :
    SameWrites before after :=
  ⟨fun w => (h'.kinds w).trans (h.kinds w), h'.next.trans h.next⟩

theorem SameWrites.of_pending (hpending : after.pendingWrites = before.pendingWrites)
    (hnext : after.nextWriteId = before.nextWriteId) : SameWrites before after :=
  ⟨fun w => writeKind_congr hpending w, hnext⟩

theorem SameWrites.forgets (h : SameWrites before after) : Forgets w before after :=
  fun hnone hused => ⟨(h.kinds w).trans hnone, fun next hnext => hused next (h.next ▸ hnext)⟩

theorem Forgets.trans (h : Forgets w before middle) (h' : Forgets w middle after) :
    Forgets w before after := fun hnone hused =>
  h' (h hnone hused).1 (h hnone hused).2

end

section

open SecsRust.Hsms.Turn

variable {core : SessionCore} {t : Turn} {w : WriteId}

/-! ## Completions and closes leave the writes -/

theorem SameWrites.update {f : SessionCore → SessionCore} (h : SameWrites core t.core)
    (hpending : (f t.core).pendingWrites = t.core.pendingWrites)
    (hnext : (f t.core).nextWriteId = t.core.nextWriteId) : SameWrites core (t.update f).core :=
  h.trans (.of_pending hpending hnext)

theorem SameWrites.completeAll (h : SameWrites core t.core) (error : OperationError) :
    SameWrites core (t.completeAll error).core :=
  h.trans (.of_pending (by rw [(t.completeAll_completes error).frame]; rfl)
    (by rw [(t.completeAll_completes error).frame]; rfl))

theorem SameWrites.requestClose (h : SameWrites core t.core) (reason : GenerationCloseReason)
    (barrier : CloseBarrier) : SameWrites core (t.requestClose reason barrier).core :=
  h.trans (.of_pending (by rw [requestClose_core]) (by rw [requestClose_core]))

theorem SameWrites.endGeneration (h : SameWrites core t.core) (reason : GenerationCloseReason) :
    SameWrites core (t.endGeneration reason).core :=
  (h.completeAll _).requestClose _ _

theorem SameWrites.failRuntimeInvariant (h : SameWrites core t.core) :
    SameWrites core t.failRuntimeInvariant.core := h.endGeneration _

theorem SameWrites.emitCompletion (h : SameWrites core t.core) (c : CommandId)
    (result : CoreCommandResult) : SameWrites core (t.emitCompletion c result).core := by
  unfold Turn.emitCompletion
  split
  · exact h.trans ⟨fun w => writeKind_detach c w, rfl⟩
  · exact h.failRuntimeInvariant

theorem SameWrites.completeError (h : SameWrites core t.core) (c : CommandId)
    (error : OperationError) : SameWrites core (t.completeError c error).core := by
  unfold Turn.completeError
  split
  · exact h.failRuntimeInvariant
  · exact h.emitCompletion c _

theorem SameWrites.completeControl (h : SameWrites core t.core) (c : CommandId)
    (result : Except OperationError Unit) : SameWrites core (t.completeControl c result).core := by
  unfold Turn.completeControl
  split
  · exact h.failRuntimeInvariant
  · exact h.emitCompletion c _

theorem SameWrites.completeSend (h : SameWrites core t.core) (c : CommandId)
    (result : Except OperationError CommittedWrite) :
    SameWrites core (t.completeSend c result).core := by
  unfold Turn.completeSend
  split
  · exact h.failRuntimeInvariant
  · exact h.emitCompletion c _

theorem SameWrites.completeControlTransaction (h : SameWrites core t.core)
    (transaction : ControlTransaction) (result : Except OperationError Unit) :
    SameWrites core (t.completeControlTransaction transaction result).core := by
  unfold Turn.completeControlTransaction
  split
  · exact h.completeControl _ _
  · exact h

theorem SameWrites.recordActivity (h : SameWrites core t.core) (occurredAt : MonoTime) :
    SameWrites core (t.recordActivity occurredAt).core := by
  rcases t.recordActivity_cases occurredAt with ⟨-, _, _, heq⟩ | ⟨_, heq⟩
  · rw [heq]
    exact h.update rfl rfl
  · rw [heq]
    refine SameWrites.update (SameWrites.endGeneration ?_ _) rfl rfl
    exact h.trans ⟨fun _ => rfl, rfl⟩

/-! ## Outcomes leave all writes but their own -/

theorem SameWrites.commitWrite (h : SameWrites core t.core) (v : WriteId) (write : PendingWrite)
    (occurredAt : MonoTime) : SameWrites core (t.commitWrite v write occurredAt).core := by
  unfold Turn.commitWrite
  split
  · split
    · split
      · dsimp only
        split
        · exact SameWrites.failRuntimeInvariant (h.trans ⟨fun _ => rfl, rfl⟩)
        · exact h.update rfl rfl
      · exact h
    · exact h
  · split
    · exact h.completeSend _ _
    · exact h
  · split
    · split
      · dsimp only
        split
        · exact SameWrites.failRuntimeInvariant (h.trans ⟨fun _ => rfl, rfl⟩)
        · exact h.update rfl rfl
      · exact h
    · exact h
  · split
    · exact h.completeControl _ _
    · exact h
  · exact h

theorem SameWrites.finishFailedWrite (h : SameWrites core t.core) (v : WriteId)
    (write : PendingWrite) (error : OperationError) :
    SameWrites core (t.finishFailedWrite v write error).core := by
  have hremove : SameWrites core
      (t.update fun core => core.removeTransactionForWrite v write.kind).core :=
    h.update (by rw [removeTransactionForWrite_frame]) (by rw [removeTransactionForWrite_frame])
  unfold Turn.finishFailedWrite
  refine SameWrites.endGeneration ?_ _
  split
  · exact hremove.completeError _ _
  · exact hremove

theorem SameWrites.resolveWrite (h : SameWrites core t.core) (v : WriteId) (write : PendingWrite)
    (outcome : WriteOutcome) (occurredAt : MonoTime) :
    SameWrites core (t.resolveWrite v write outcome occurredAt).core := by
  cases outcome with
  | committed => exact h.commitWrite v write occurredAt
  | notWritten fault => exact h.finishFailedWrite v write _
  | indeterminate fault => exact h.finishFailedWrite v write _

/-! ## The timers bring no write back -/

theorem Forgets.startTransaction (h : Forgets w core t.core) (kind : TransactionKind)
    (c : Option CommandId) : Forgets w core (t.startTransaction kind c).core := by
  refine h.trans ?_
  unfold Turn.startTransaction
  rcases t.allocateRequestIdentifiers_cases with ⟨reason, heq⟩ | ⟨sb, v, hnext, heq⟩
  · rw [heq]
    exact ((SameWrites.refl t.core).endGeneration reason).forgets
  · rw [heq]
    intro hnone hused
    have hlt := hused _ hnext.2
    refine ⟨?_, fun next hsucc => UInt64.lt_trans hlt (lt_of_u64CheckedSucc hsucc)⟩
    refine (writeKind_trackWrite v w ⟨.transactionRequest, c⟩).trans ((if_neg ?_).trans hnone)
    rintro rfl
    exact UInt64.lt_irrefl _ hlt

theorem Forgets.progressDeselect (h : Forgets w core t.core) (now : MonoTime) :
    Forgets w core (t.progressDeselect now).core := by
  have hsame := SameWrites.refl t.core
  refine h.trans ?_
  unfold Turn.progressDeselect
  split
  · exact hsame.forgets
  · split
    · exact hsame.forgets
    · split
      · exact (SameWrites.completeError (hsame.update rfl rfl) _ _).forgets
      · split
        · exact (SameWrites.completeControl (hsame.update rfl rfl) _ _).forgets
        · split
          · exact Forgets.startTransaction (SameWrites.forgets (hsame.update rfl rfl)) _ _
          · exact hsame.forgets

theorem SameWrites.expireRequests (h : SameWrites core t.core)
    (transactions : List DataTransaction) :
    SameWrites core (transactions.foldl expireRequest t).core := by
  induction transactions generalizing t with
  | nil => exact h
  | cons transaction rest ih => exact ih (SameWrites.emitCompletion (h.update rfl rfl) _ _)

theorem Forgets.expireDeadlines (h : Forgets w core t.core) (now : MonoTime) :
    Forgets w core (t.expireDeadlines now).core := by
  have hsame := SameWrites.refl t.core
  refine h.trans ?_
  unfold Turn.expireDeadlines
  split
  · exact hsame.forgets
  · split
    · exact (hsame.endGeneration _).forgets
    · split
      · exact (SameWrites.endGeneration (SameWrites.completeControlTransaction
          (hsame.update rfl rfl) _ _) _).forgets
      · have hprogress : Forgets w t.core
            (((expiredRequests t.core now).foldl expireRequest t).progressDeselect now).core :=
          Forgets.progressDeselect (hsame.expireRequests _).forgets now
        dsimp only
        generalize ((expiredRequests t.core now).foldl expireRequest t).progressDeselect now = t'
          at hprogress ⊢
        split
        · exact hprogress
        · split
          · refine Forgets.startTransaction ?_ _ _
            exact hprogress.trans (SameWrites.forgets ⟨fun _ => rfl, rfl⟩)
          · exact hprogress

theorem Forgets.settleWrite (h : Forgets w core t.core) (v : WriteId) (write : PendingWrite)
    (outcome : WriteOutcome) (occurredAt now : MonoTime) :
    Forgets w core (t.settleWrite v write outcome occurredAt now).core := by
  have hsame := SameWrites.refl t.core
  refine h.trans ?_
  unfold Turn.settleWrite
  split
  · exact (SameWrites.completeError (hsame.update rfl rfl) _ _).forgets
  · exact Forgets.expireDeadlines (hsame.resolveWrite _ _ _ _).forgets now

end

/-! ## Entry points that name a write -/

/-- A round that only fails the runtime invariant: no write changes and the generation closes.
It is what the source does with a report that makes no sense. -/
structure FailsClosed (core : SessionCore) (t : Turn) : Prop where
  writes : SameWrites core t.core
  closing : t.core.closing = true
  frames : framesOf t.actions = []
  completions : ∀ c result, .completeCommand c result ∈ t.actions →
    core.openCommands.contains c = true ∧ core.writeUnresolved c = false

theorem FailsClosed.of_end (core : SessionCore) (now : MonoTime)
    (reason : GenerationCloseReason) :
    FailsClosed core (Turn.endGeneration
      ((Turn.start core).update fun core => { core with lastNow := some now }) reason) ∧
    FailsClosed core ((Turn.start core).endGeneration reason) := by
  have hmem : ∀ {t : Turn}, t.actions = [] → t.core.openCommands = core.openCommands →
      t.core.pendingWrites = core.pendingWrites → ∀ c result,
      .completeCommand c result ∈ (t.endGeneration reason).actions →
        core.openCommands.contains c = true ∧ core.writeUnresolved c = false := by
    intro t hactions hopen hpending c result hc
    rw [Turn.endGeneration_actions, hactions, List.nil_append] at hc
    rcases List.mem_append.mp hc with hc | hc
    · obtain ⟨c', -, hcompletion⟩ := List.mem_filterMap.mp hc
      unfold completion at hcompletion
      split at hcompletion
      · cases hcompletion
      · rename_i hresolved
        obtain ⟨kind, hkind, heq⟩ := Option.map_eq_some_iff.mp hcompletion
        obtain ⟨rfl, -⟩ := CoreAction.completeCommand.inj heq
        refine ⟨?_, ?_⟩
        · rw [← hopen]
          exact TreeMap.contains_iff.mpr ⟨kind, hkind⟩
        · rw [← writeUnresolved_congr hpending]
          exact Bool.eq_false_of_not_eq_true hresolved
    · split at hc
      · cases hc
      · cases List.mem_singleton.mp hc
  have hframes : ∀ {t : Turn}, t.actions = [] → framesOf (t.endGeneration reason).actions = [] := by
    intro t hactions
    rw [Turn.endGeneration_actions, hactions, List.nil_append]
    exact frames_endActions reason
  refine ⟨⟨SameWrites.endGeneration ?_ _, Turn.endGeneration_closing _ _, hframes rfl,
    hmem rfl rfl rfl⟩, ⟨SameWrites.endGeneration ?_ _, Turn.endGeneration_closing _ _, hframes rfl,
    hmem rfl rfl rfl⟩⟩
  · exact ⟨fun _ => rfl, rfl⟩
  · exact ⟨fun _ => rfl, rfl⟩

section

variable {core : SessionCore} {w : WriteId} {occurredAt now : MonoTime}

/-- `on_write_outcome_at` for a write that is not pending, or at a time that is not accepted. -/
theorem onWriteOutcomeAt_fails {outcome : WriteOutcome}
    (h : ¬ (core.AcceptsTime now ∧ occurredAt ≤ now ∧ core.writeKind w ≠ none)) :
    FailsClosed core (core.onWriteOutcomeAt w outcome occurredAt now) := by
  have hend := FailsClosed.of_end core now .runtimeInvariant
  unfold onWriteOutcomeAt
  rcases (Turn.start core).acceptTime_cases now with ⟨-, heq⟩ | ⟨haccepts, heq⟩
  · rw [heq]
    exact hend.2
  · rw [heq]
    dsimp only
    split
    · exact hend.1
    · rename_i hoccurred
      have hnone : core.pendingWrites[w]? = none := by
        by_contra hne
        refine h ⟨haccepts, (le_or_gt occurredAt now).resolve_right hoccurred, ?_⟩
        rwa [writeKind, ne_eq, Option.map_eq_none_iff]
      rw [show ((Turn.start core).update fun core => { core with
        lastNow := some now }).core.pendingWrites[w]? = none from hnone]
      exact hend.1

/-- `on_write_outcome_at` consumes a pending write. -/
theorem onWriteOutcomeAt_consumes {outcome : WriteOutcome} (h : Coherent none core) :
    core.AcceptsTime now → occurredAt ≤ now →
      (core.onWriteOutcomeAt w outcome occurredAt now).core.writeKind w = none := by
  intro haccepts hoccurred
  by_cases hpending : core.writeKind w = none
  · have hfails : FailsClosed core (core.onWriteOutcomeAt w outcome occurredAt now) :=
      onWriteOutcomeAt_fails fun hall => hall.2.2 hpending
    rw [hfails.writes.kinds, hpending]
  · obtain ⟨write, hwrite⟩ : ∃ write, core.pendingWrites[w]? = some write := by
      cases hw : core.pendingWrites[w]? with
      | none => exact absurd (by rw [writeKind, hw]; rfl) hpending
      | some write => exact ⟨write, rfl⟩
    have hused : core.WriteUsed w := h.write_used w write hwrite
    unfold onWriteOutcomeAt
    rcases (Turn.start core).acceptTime_cases now with ⟨hnot, -⟩ | ⟨-, heq⟩
    · exact absurd haccepts hnot
    · rw [heq]
      dsimp only
      rw [if_neg hoccurred.not_gt, show ((Turn.start core).update fun core => { core with
        lastNow := some now }).core.pendingWrites[w]? = some write from hwrite]
      dsimp only
      have hgone : (core.eraseWrite w).writeKind w = none :=
        (writeKind_eraseWrite w w).trans (if_pos rfl)
      have hforgets : ∀ {t : Turn}, Forgets w (core.eraseWrite w) t.core →
          (t.settleWrite w write outcome occurredAt now).core.writeKind w = none :=
        fun ht => (Forgets.settleWrite ht w write outcome occurredAt now hgone hused).1
      refine hforgets ?_
      split
      · refine SameWrites.forgets (SameWrites.recordActivity ?_ occurredAt)
        exact ⟨fun _ => rfl, rfl⟩
      · exact SameWrites.forgets ⟨fun _ => rfl, rfl⟩

/-- `on_shutdown` with a failed write that is not pending, or at a time that is not accepted. -/
theorem onShutdown_fails {reason : GenerationCloseReason}
    (h : ¬ (core.AcceptsTime now ∧ core.writeKind w ≠ none)) :
    FailsClosed core (core.onShutdown reason (some w) now) := by
  have hend := FailsClosed.of_end core now .runtimeInvariant
  unfold onShutdown
  rcases (Turn.start core).acceptTime_cases now with ⟨-, heq⟩ | ⟨haccepts, heq⟩
  · rw [heq]
    exact hend.2
  · rw [heq]
    have hnone : core.pendingWrites[w]? = none := by
      by_contra hne
      refine h ⟨haccepts, ?_⟩
      rwa [writeKind, ne_eq, Option.map_eq_none_iff]
    dsimp only
    rw [show ((Turn.start core).update fun core => { core with
      lastNow := some now }).core.pendingWrites[w]? = none from hnone]
    exact hend.1

/-- `on_shutdown` consumes the pending write that failed its admission. -/
theorem onShutdown_consumes {reason : GenerationCloseReason} (haccepts : core.AcceptsTime now) :
    (core.onShutdown reason (some w) now).core.writeKind w = none := by
  by_cases hpending : core.writeKind w = none
  · have hfails : FailsClosed core (core.onShutdown reason (some w) now) :=
      onShutdown_fails fun hall => hall.2 hpending
    rw [hfails.writes.kinds, hpending]
  · obtain ⟨write, hwrite⟩ : ∃ write, core.pendingWrites[w]? = some write := by
      cases hw : core.pendingWrites[w]? with
      | none => exact absurd (by rw [writeKind, hw]; rfl) hpending
      | some write => exact ⟨write, rfl⟩
    unfold onShutdown
    rcases (Turn.start core).acceptTime_cases now with ⟨hnot, -⟩ | ⟨-, heq⟩
    · exact absurd haccepts hnot
    · rw [heq]
      dsimp only
      rw [show ((Turn.start core).update fun core => { core with
        lastNow := some now }).core.pendingWrites[w]? = some write from hwrite]
      dsimp only
      have hgone : (core.eraseWrite w).writeKind w = none :=
        (writeKind_eraseWrite w w).trans (if_pos rfl)
      have hsame : ∀ {after : SessionCore}, SameWrites (core.eraseWrite w) after →
          after.writeKind w = none := fun hafter => (hafter.kinds w).trans hgone
      refine hsame ?_
      refine SameWrites.trans (SameWrites.completeAll ?_ .connectionLost) ⟨fun _ => rfl, rfl⟩
      split
      · refine SameWrites.completeError (SameWrites.update ?_ ?_ ?_) _ _
        · exact ⟨fun _ => rfl, rfl⟩
        · rw [removeTransactionForWrite_frame]
        · rw [removeTransactionForWrite_frame]
      · refine SameWrites.update ?_ ?_ ?_
        · exact ⟨fun _ => rfl, rfl⟩
        · rw [removeTransactionForWrite_frame]
        · rw [removeTransactionForWrite_frame]

/-- `finalize_writer` on a Core that is not closing, or at a time that is not accepted. -/
theorem finalizeWriter_fails (h : ¬ (core.closing = true ∧ core.AcceptsTime now)) :
    FailsClosed core (core.finalizeWriter now) := by
  have hend := FailsClosed.of_end core now .runtimeInvariant
  unfold finalizeWriter
  rcases (Turn.start core).acceptTime_cases now with ⟨-, heq⟩ | ⟨haccepts, heq⟩
  · rw [heq]
    exact hend.2
  · rw [heq]
    have hlive : core.closing = false :=
      Bool.eq_false_of_not_eq_true fun hclosing => h ⟨hclosing, haccepts⟩
    dsimp only
    rw [show ((Turn.start core).update fun core => { core with
      lastNow := some now }).core.closing = false from hlive]
    exact hend.1

end

/-- A closing generation stays closing. -/
theorem Effect.closing_mono {origin : SessionCore} {input : Input} {stage stage' : Stage}
    {actions : List CoreAction} (he : Effect origin input stage actions stage')
    (h : stage.core.closing = true) : stage'.core.closing = true := by
  cases he with
  | ended _ _ _ _ done =>
    dsimp only
    rw [done.frame]
  | lostWrite _ _ _ _ _ done =>
    dsimp only
    rw [done.frame]
  | admissionClosed _ _ _ _ _ => rfl
  | abandonWrites _ _ done =>
    dsimp only
    rw [done.frame]
    exact h
  | loseCommands _ _ done =>
    dsimp only
    rw [done.frame]
    exact h
  | retireControl _ _ _ =>
    dsimp only
    rw [release_frame]
    exact h
  | failWrite _ _ _ =>
    dsimp only
    rw [release_frame, removeTransactionForWrite_frame]
    exact h
  | separate _ _ live _ _ _ _ _ | peerSeparate _ live _ _ _ => exact not_closing live h
  | tick _ | observe _ _ _ | lateAnnounce _ | lateControl _ _ _ _ | connect _ _ _ _ _
  | selected _ _ _ | deselected _ _ _ _ _ _ | respond _ _ _ _ _ _ | refuse _ _ _
  | startDrain _ _ _ _ _ _ _ | endDrain _ _ _ | startControl _ _ _ _ _ _ _ _ _ _
  | startDeselection _ _ _ _ _ | sendRequest _ _ _ _ _ _ _ _ _
  | sendPrimary _ _ _ _ _ _ _ _ _ | retireRequest _ _ _ | rejectSend _ _ _ _ _ _
  | deliver _ _ _ _ _ _ _ _ _ | deliverOneWay _ _ _ _ _ _ | spendContract _ _ _ _ _ _
  | sendReply _ _ _ _ _ _ _ | commitControl _ _ _ _ _ | commitRequest _ _ _ _ _
  | commitCommand _ _ _ _ | commitSilently _ _ _ => exact h

/-! ## One round -/

section

variable {core : SessionCore} {input : Input} {w : WriteId}

/-- An open Core was open before the round. -/
theorem live_of_handle (hc : Coherent none core) (h : (core.handle input).core.closing = false) :
    core.closing = false := by
  cases hclosing : core.closing with
  | false => rfl
  | true =>
    have hclosed : (core.handle input).core.closing = true :=
      (steps_handle hc input).preserves (I := fun stage => stage.core.closing = true)
        (fun _ _ _ hI he => he.closing_mono hI) (by rw [entry_frame]; exact hclosing)
    rw [hclosed] at h
    cases h

/-- The WriteIds of the frames among some actions. -/
def writesOf (past : List CoreAction) : List WriteId := (framesOf past).map Prod.fst

theorem writesOf_append {past actions : List CoreAction} :
    writesOf (past ++ actions) = writesOf past ++ writesOf actions := by
  rw [writesOf, framesOf_append, List.map_append]
  rfl

/-- A closing generation sends nothing. -/
theorem frames_of_closing (hc : Coherent none core) (hodd : core.PrimaryContracts)
    (h : core.closing = true) : framesOf (core.handle input).actions = [] := by
  have hround := (steps_handle hc input).accumulates_nil
    (I := fun past stage => stage.core.PrimaryContracts ∧ stage.core.closing = true ∧
      framesOf past = [])
    (fun past stage actions stage' hI he => by
      refine ⟨he.authority.primaryContracts hI.1, he.closing_mono hI.2.1, ?_⟩
      rw [framesOf_append, hI.2.2, List.nil_append]
      cases he.writeStep hI.1 with
      | keeps frames _ _ _ => exact frames
      | resolves _ frames _ _ _ _ => exact frames
      | abandons frames _ _ _ _ => exact frames
      | sends _ _ _ _ live _ _ _ _ _ => exact not_closing live hI.2.1)
    (by
      rw [entry_frame]
      exact ⟨hodd, h, rfl⟩)
  exact hround.2.2

/-- An input that consumes a write removes it. -/
theorem handle_consumes (hc : Coherent none core) (h : core.Consumes input w) :
    (core.handle input).core.writeKind w = none := by
  cases input with
  | writeOutcome v outcome occurredAt now =>
    obtain ⟨rfl, haccepts, hoccurred⟩ := h
    exact onWriteOutcomeAt_consumes hc haccepts hoccurred
  | shutdown reason failedWriteId now =>
    cases failedWriteId with
    | none => cases h
    | some v =>
      obtain ⟨rfl, haccepts⟩ := h
      exact onShutdown_consumes haccepts
  | finalizeWriter now =>
    have hempty := (finalizeWriter_settles hc h.1 h.2).2.1
    rw [writeKind, hempty, ExtTreeMap.getElem?_empty]
    rfl
  | connected | command | message | inboundViolation | reply | finishShutdownDrain | advanceTime =>
    cases h

/-- An input that names a write without consuming it only closes the generation. -/
theorem handle_refuses (h : input.Targets w) (hnot : ¬ core.Consumes input w) :
    FailsClosed core (core.handle input) := by
  cases input with
  | writeOutcome v outcome occurredAt now =>
    obtain rfl : v = w := h
    exact onWriteOutcomeAt_fails fun hall => hnot ⟨rfl, hall.1, hall.2.1⟩
  | shutdown reason failedWriteId now =>
    cases failedWriteId with
    | none => cases h
    | some v =>
      obtain rfl : v = w := h
      exact onShutdown_fails fun hall => hnot ⟨rfl, hall.1⟩
  | finalizeWriter now => exact finalizeWriter_fails hnot
  | connected | command | message | inboundViolation | reply | finishShutdownDrain | advanceTime =>
    cases h

/-- An input about a write that is not pending sends nothing. -/
theorem frames_of_unknown (hc : Coherent none core) (hodd : core.PrimaryContracts)
    (h : input.Targets w) (hnone : core.writeKind w = none) :
    framesOf (core.handle input).actions = [] := by
  cases input with
  | writeOutcome v outcome occurredAt now =>
    obtain rfl : v = w := h
    exact (onWriteOutcomeAt_fails fun hall => hall.2.2 hnone).frames
  | shutdown reason failedWriteId now =>
    cases failedWriteId with
    | none => cases h
    | some v =>
      obtain rfl : v = w := h
      exact (onShutdown_fails fun hall => hall.2 hnone).frames
  | finalizeWriter now =>
    by_cases hclosing : core.closing = true
    · exact frames_of_closing hc hodd hclosing
    · exact (finalizeWriter_fails fun hall => hclosing hall.1).frames
  | connected | command | message | inboundViolation | reply | finishShutdownDrain | advanceTime =>
    cases h

/-- Which writes are pending after a round: none that was neither pending before nor emitted in the
round, and every such write that the input is not about. -/
theorem handle_pending (hc : Coherent none core) (hodd : core.PrimaryContracts) (w : WriteId) :
    ((core.handle input).core.writeKind w ≠ none →
      core.writeKind w ≠ none ∨ w ∈ writesOf (core.handle input).actions) ∧
    (¬ input.Targets w → core.writeKind w ≠ none ∨ w ∈ writesOf (core.handle input).actions →
      (core.handle input).core.writeKind w ≠ none) := by
  have hround := (steps_handle hc input).accumulates_nil
    (I := fun past stage => stage.core.PrimaryContracts ∧
      (stage.core.writeKind w ≠ none → core.writeKind w ≠ none ∨ w ∈ writesOf past) ∧
      (¬ input.Targets w → core.writeKind w ≠ none ∨ w ∈ writesOf past →
        stage.core.writeKind w ≠ none))
    (fun past stage actions stage' hI he => by
      refine ⟨he.authority.primaryContracts hI.1, ?_⟩
      rw [writesOf_append]
      cases he.writeStep hI.1 with
      | keeps frames _ _ kinds =>
        rw [kinds, show writesOf actions = [] from congrArg (List.map Prod.fst) frames,
          List.append_nil]
        exact hI.2
      | abandons frames _ _ kinds finalize =>
        refine ⟨fun hne => absurd (kinds w) hne, fun htarget => absurd ?_ htarget⟩
        rw [finalize]
        exact trivial
      | resolves v frames _ _ kinds targeted =>
        rw [kinds, show writesOf actions = [] from congrArg (List.map Prod.fst) frames,
          List.append_nil]
        by_cases hv : v = w
        · subst hv
          rw [if_pos rfl]
          exact ⟨fun hne => absurd rfl hne, fun htarget => absurd targeted htarget⟩
        · rw [if_neg hv]
          exact hI.2
      | sends v message kind frames _ _ _ _ kinds _ =>
        rw [kinds, show writesOf actions = [v] from congrArg (List.map Prod.fst) frames,
          List.mem_append, List.mem_singleton]
        by_cases hv : v = w
        · subst hv
          rw [if_pos rfl]
          exact ⟨fun _ => Or.inr (Or.inr rfl), fun _ _ => nofun⟩
        · rw [if_neg hv]
          refine ⟨fun hne => (hI.2.1 hne).imp_right Or.inl, fun htarget h => hI.2.2 htarget ?_⟩
          rcases h with h | h | h
          · exact Or.inl h
          · exact Or.inr h
          · exact absurd h.symm hv)
    (by
      rw [entry_frame]
      refine ⟨hodd, Or.inl, fun _ h => ?_⟩
      rcases h with h | h
      · exact h
      · cases h)
  exact hround.2

end

/-! ## Runs -/

/-- The write was consumed in the run: some input after its frame consumed it. -/
def SessionCore.Consumed (core : SessionCore) (inputs : List Input) (w : WriteId) : Prop :=
  ∃ earlier input later, inputs = earlier ++ input :: later ∧
    w ∈ writesOf (machine.history core earlier) ∧ (machine.after core earlier).Consumes input w

theorem consumed_append_singleton {core : SessionCore} {inputs : List Input} {input : Input}
    {w : WriteId} : core.Consumed (inputs ++ [input]) w ↔ core.Consumed inputs w ∨
      w ∈ writesOf (machine.history core inputs) ∧
        (machine.after core inputs).Consumes input w := by
  constructor
  · rintro ⟨earlier, i, later, heq, hmem, hconsumes⟩
    rcases List.eq_nil_or_concat later with rfl | ⟨later, last, rfl⟩
    · obtain ⟨rfl, hlast⟩ := List.append_inj' heq rfl
      obtain rfl : input = i := (List.cons.inj hlast).1
      exact Or.inr ⟨hmem, hconsumes⟩
    · rw [List.concat_eq_append, ← List.cons_append, ← List.append_assoc] at heq
      obtain ⟨rfl, -⟩ := List.append_inj' heq rfl
      exact Or.inl ⟨earlier, i, later, rfl, hmem, hconsumes⟩
  · rintro (⟨earlier, i, later, rfl, hmem, hconsumes⟩ | ⟨hmem, hconsumes⟩)
    · exact ⟨earlier, i, later ++ [input], by simp, hmem, hconsumes⟩
    · exact ⟨inputs, input, [], rfl, hmem, hconsumes⟩

theorem writesOf_of_consumed {core : SessionCore} {inputs : List Input} {w : WriteId}
    (h : core.Consumed inputs w) : w ∈ writesOf (machine.history core inputs) := by
  obtain ⟨earlier, input, later, rfl, hmem, -⟩ := h
  rw [Machine.history_append, writesOf_append]
  exact List.mem_append_left _ hmem

/-- One round keeps the account of a write: it is pending exactly if its frame was emitted and
nothing consumed it. -/
theorem pending_step {past : List CoreAction} {core : SessionCore} {input : Input} {w : WriteId}
    {gone : Prop} (hnumbered : Numbered past core) (hc : Coherent none core)
    (hodd : core.PrimaryContracts) (hgone : gone → w ∈ writesOf past)
    (h : core.writeKind w ≠ none ↔ w ∈ writesOf past ∧ ¬ gone) :
    (core.handle input).core.writeKind w ≠ none ↔
      (w ∈ writesOf past ∨ w ∈ writesOf (core.handle input).actions) ∧
        ¬ (gone ∨ w ∈ writesOf past ∧ core.Consumes input w) := by
  obtain ⟨honly, hkept⟩ : ((core.handle input).core.writeKind w ≠ none → _) ∧ _ :=
    handle_pending hc hodd w
  -- a WriteId of this round is not one of an earlier round
  have hnew : w ∈ writesOf (core.handle input).actions → w ∉ writesOf past := fun hround hpast => by
    have hincreasing : ((framesOf (past ++ (core.handle input).actions)).map Prod.fst).Pairwise
        fun w w' => w.raw < w'.raw := (hnumbered.handle hc hodd).increasing
    rw [framesOf_append, List.map_append, List.pairwise_append] at hincreasing
    exact UInt64.lt_irrefl w.raw (hincreasing.2.2 w hpast w hround)
  constructor
  · intro hpending
    refine ⟨(honly hpending).imp_left fun hbefore => (h.mp hbefore).1, ?_⟩
    rintro (hg | ⟨-, hconsumes⟩)
    · rcases honly hpending with hbefore | hround
      · exact (h.mp hbefore).2 hg
      · exact hnew hround (hgone hg)
    · exact hpending (handle_consumes hc hconsumes)
  · rintro ⟨hemitted, hnot⟩
    have hheld : core.writeKind w ≠ none ∨ w ∈ writesOf (core.handle input).actions :=
      hemitted.imp_left fun hpast => h.mpr ⟨hpast, fun hg => hnot (Or.inl hg)⟩
    by_cases htargets : input.Targets w
    · rcases hemitted with hpast | hround
      · have hrefuses := handle_refuses htargets fun hconsumes => hnot (Or.inr ⟨hpast, hconsumes⟩)
        rw [hrefuses.writes.kinds]
        exact h.mpr ⟨hpast, fun hg => hnot (Or.inl hg)⟩
      · have hunknown : core.writeKind w = none := by
          by_contra hne
          exact hnew hround (h.mp hne).1
        rw [writesOf, frames_of_unknown hc hodd htargets hunknown] at hround
        cases hround
    · exact hkept htargets hheld

section

variable (config : SessionCoreConfig) (nextWriteId : Option UInt64)
  (nextSystemBytes : Option UInt32)

/-- Every reachable Core is coherent, and its contracts belong to Primaries. -/
theorem coherent_run (inputs : List Input) :
    Coherent none
      (machine.after (SessionCore.initial config nextWriteId nextSystemBytes) inputs) :=
  machine.invariant (fun _ input h => h.handle input)
    (coherent_initial config nextWriteId nextSystemBytes) inputs

theorem primaryContracts_run (inputs : List Input) :
    (machine.after (SessionCore.initial config nextWriteId nextSystemBytes)
      inputs).PrimaryContracts := fun k header hk =>
  ((entitled_run config nextWriteId nextSystemBytes inputs).primary k header hk).2.1

/-- **A write is pending exactly if its frame was emitted and it was not consumed since.** -/
theorem pending_iff_unconsumed (inputs : List Input) (w : WriteId) :
    (machine.after (SessionCore.initial config nextWriteId nextSystemBytes) inputs).writeKind w ≠
        none ↔
      w ∈ writesOf (machine.history (SessionCore.initial config nextWriteId nextSystemBytes)
        inputs) ∧ ¬ (SessionCore.initial config nextWriteId nextSystemBytes).Consumed inputs w := by
  induction inputs using List.reverseRecOn with
  | nil =>
    have hnone : (SessionCore.initial config nextWriteId nextSystemBytes).writeKind w = none := by
      rw [writeKind, show (SessionCore.initial config nextWriteId nextSystemBytes).pendingWrites[w]?
        = none from ExtTreeMap.getElem?_empty]
      rfl
    refine ⟨fun h => absurd hnone h, fun h => ?_⟩
    cases h.1
  | append_singleton inputs input ih =>
    have hc := coherent_run config nextWriteId nextSystemBytes inputs
    have hodd := primaryContracts_run config nextWriteId nextSystemBytes inputs
    rw [Machine.after_append_singleton, Machine.history_append_singleton,
      consumed_append_singleton, writesOf_append, List.mem_append]
    exact pending_step (numbered_run config nextWriteId nextSystemBytes inputs) hc hodd
      writesOf_of_consumed ih

end

/-! ## Conservation -/

theorem contains_iff_writeKind {core : SessionCore} {w : WriteId} :
    core.pendingWrites.contains w = true ↔ core.writeKind w ≠ none := by
  rw [TreeMap.contains_iff, writeKind, ne_eq, Option.map_eq_none_iff, ← ne_eq,
    Option.ne_none_iff_exists']

/-- Identifiers and writes are conserved over a run of the Core.  Each of its clauses is about
the whole history, from whatever values the counters have started. -/
structure Conserved (core : SessionCore) (inputs : List Input) : Prop where
  writes_increasing : (writesOf (machine.history core inputs)).Pairwise fun w w' => w.raw < w'.raw
  pending : ∀ w : WriteId, (machine.after core inputs).pendingWrites.contains w = true ↔
    w ∈ writesOf (machine.history core inputs) ∧ ¬ core.Consumed inputs w
  requests_distinct : (requestsOf (machine.history core inputs)).Nodup
  request_key : ∀ (sb : SystemBytes) transaction,
    (machine.after core inputs).dataTransactions[sb]? = some transaction →
    transaction.responseContract.systemBytes = sb
  -- whatever names a command names an open one of its class
  write_command : ∀ (w : WriteId) write c,
    (machine.after core inputs).pendingWrites[w]? = some write → write.commandId = some c →
    ∃ kind, write.kind.openKind = some kind ∧
      (machine.after core inputs).openCommands[c]? = some kind
  control_command : ∀ transaction c,
    (machine.after core inputs).activeTransaction = some transaction →
    transaction.commandId = some c → (machine.after core inputs).openCommands[c]? = some .control
  request_command : ∀ (sb : SystemBytes) transaction,
    (machine.after core inputs).dataTransactions[sb]? = some transaction →
    (machine.after core inputs).openCommands[transaction.commandId]? = some .request
  drain_command : ∀ drain, (machine.after core inputs).deselectDrain = some drain →
    (machine.after core inputs).openCommands[drain.commandId]? = some .control
  -- an outcome for a write that is not pending
  unknown_write : ∀ (w : WriteId) outcome occurredAt now,
    (machine.after core inputs).pendingWrites.contains w = false →
    let t := (machine.after core inputs).handle (.writeOutcome w outcome occurredAt now)
    t.core.closing = true ∧ writesOf t.actions = [] ∧
      ∀ c result, .completeCommand c result ∈ t.actions →
        (machine.after core inputs).openCommands.contains c = true

/-- **Identifiers and writes are conserved**, in every run in which no admission fails while a local
Deselect is draining. -/
theorem identifiers_and_writes_are_conserved (config : SessionCoreConfig)
    (nextWriteId : Option UInt64) (nextSystemBytes : Option UInt32) (inputs : List Input)
    (hleaks : machine.Along (fun core input => ¬ core.LeaksDrain input)
      (SessionCore.initial config nextWriteId nextSystemBytes) inputs) :
    Conserved (SessionCore.initial config nextWriteId nextSystemBytes) inputs := by
  have hnumbered := numbered_run config nextWriteId nextSystemBytes inputs
  have hc := coherent_run config nextWriteId nextSystemBytes inputs
  have hdrain := machine.invariant_along
    (I := fun core => Coherent none core ∧ (core.closing = true → core.deselectDrain = none))
    (fun core input hstep hI => ⟨hI.1.handle input, closing_revokes_drain hI.1 hstep hI.2⟩)
    ⟨coherent_initial config nextWriteId nextSystemBytes, fun _ => rfl⟩ hleaks
  refine ⟨?_, ?_, ?_, hc.request_key, hc.write_open, hc.control_open, hc.request_open, ?_, ?_⟩
  · exact hnumbered.increasing
  · exact fun w => contains_iff_writeKind.trans
      (pending_iff_unconsumed config nextWriteId nextSystemBytes inputs w)
  · refine hnumbered.requests_increasing.imp fun hlt heq => ?_
    exact UInt32.lt_irrefl _ (heq ▸ hlt)
  · intro drain hsome
    cases hclosing : (machine.after (SessionCore.initial config nextWriteId nextSystemBytes)
      inputs).closing with
    | false => exact hc.drain_open hclosing drain hsome
    | true =>
      rw [hdrain.2 hclosing] at hsome
      cases hsome
  · intro w outcome occurredAt now hunknown
    have hfails : FailsClosed _ (onWriteOutcomeAt _ w outcome occurredAt now) :=
      onWriteOutcomeAt_fails fun hall => by
        rw [← contains_iff_writeKind, hunknown] at hall
        exact Bool.false_ne_true hall.2.2
    exact ⟨hfails.closing, congrArg (List.map Prod.fst) hfails.frames,
      fun c result hmem => (hfails.completions c result hmem).1⟩

/-- A Send whose admission fails while no Deselect is draining. -/
theorem identifiers_and_writes_are_conserved_of_failed_send :
    Conserved (SessionCore.new Scenario.config) (Scenario.selected ++
      [.command ⟨⟨1⟩, .send Scenario.request⟩ .zero,
        .shutdown .controlBackpressure (some ⟨1⟩) .zero]) := by
  refine identifiers_and_writes_are_conserved Scenario.config (some 0) (some 0) _
    ⟨?_, ?_, ?_, ?_, ?_, trivial⟩
  · rintro ⟨⟨_, _, _, heq, -⟩, -⟩
    cases heq
  · rintro ⟨⟨_, _, _, heq, -⟩, -⟩
    cases heq
  · rintro ⟨⟨_, _, _, heq, -⟩, -⟩
    cases heq
  · rintro ⟨⟨_, _, _, heq, -⟩, -⟩
    cases heq
  · rintro ⟨-, hdrain⟩
    exact hdrain (by decide)

/-- A Deselect drains while the response to a Linktest fails its admission. -/
def Scenario.failedWhileDraining : List Input :=
  Scenario.selected ++ [.message (.data (Scenario.primary 1 true 42)) .zero,
    .command ⟨⟨1⟩, .deselect⟩ .zero, .message (.control (.linktestRequest ⟨4⟩)) .zero,
    .shutdown .controlBackpressure (some ⟨1⟩) .zero]

/-- The drain outlives the command that the failed admission has completed. -/
theorem failed_admission_keeps_dead_drain :
    ¬ Conserved (SessionCore.new Scenario.config) Scenario.failedWhileDraining := by
  intro h
  obtain ⟨drain, hdrain⟩ : ∃ drain, (machine.after (SessionCore.new Scenario.config)
      Scenario.failedWhileDraining).deselectDrain = some drain :=
    Option.isSome_iff_exists.mp (by decide)
  have hempty : (machine.after (SessionCore.new Scenario.config)
      Scenario.failedWhileDraining).openCommands.isEmpty = true := by decide
  have hopen := h.drain_command drain hdrain
  rw [ExtTreeMap.isEmpty_iff.mp hempty, ExtTreeMap.getElem?_empty] at hopen
  cases hopen

end Hsms
end SecsRust

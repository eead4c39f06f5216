import SecsRust.Hsms.Core.Session.Preservation

/-!
# Every round is a sequence of effects

The functions of the Core one by one: each of them, from a coherent Core, does what a
sequence of effects does, with the same actions in the same order.  `Runs` is that statement
about a Turn.  It is closed under composition, so the lemma about a function that calls
others is put together from the lemmas about these (`Runs.trans`), and the order of the
lemmas is that of the calls.

## Failures that do not happen

Everywhere a function would fail the generation because a command it wants to complete is
not open or has another class, the cross-reference invariant shows that this does not
happen.  The lemmas `completeError_of_open` and its siblings are the only places where these
branches are looked at: for a command that is open, with its class, the function is the
plain completion.

## Failures that do

A sum of a time and a duration may overflow, and then the generation ends in the middle of a
handler, which nevertheless goes on.  What a handler still does after such an end is an
effect of its own (`runs_lateAnnounce`, `runs_lateControl`), because a deselection whose
timer overflows is announced all the same.  Separate is the longest of the functions here:
it marks the generation as closing before it preempts what is alive, so the preemptions are
stated for a Core on its way out (`leaving`), and they do not look at what that changes.
-/

namespace SecsRust
namespace Hsms

open Std Secs2 SessionCore

/-- The Turn `t`, with `fresh` still unowned, becomes `t'` by effects of the round, and `t'` has
pushed what they emit. -/
def Runs (origin : SessionCore) (input : Input) (t : Turn) (fresh : Option CommandId) (t' : Turn)
    (fresh' : Option CommandId) : Prop :=
  ∃ actions, t'.actions = t.actions ++ actions ∧
    Steps (Effect origin input) ⟨t.core, t.overflowed, fresh⟩ actions
      ⟨t'.core, t'.overflowed, fresh'⟩

namespace Runs

variable {origin : SessionCore} {input : Input} {t t' t'' : Turn}
  {fresh fresh' fresh'' : Option CommandId}

theorem refl (t : Turn) (fresh : Option CommandId) : Runs origin input t fresh t fresh :=
  ⟨[], (List.append_nil _).symm, .refl _⟩

theorem trans (h : Runs origin input t fresh t' fresh')
    (h' : Runs origin input t' fresh' t'' fresh'') : Runs origin input t fresh t'' fresh'' := by
  obtain ⟨a, ha, hs⟩ := h
  obtain ⟨b, hb, hs'⟩ := h'
  exact ⟨a ++ b, by rw [hb, ha, List.append_assoc], hs.trans hs'⟩

/-- One effect. -/
theorem effect {core : SessionCore} {overflowed : Bool} {actions : List CoreAction}
    (he : Effect origin input ⟨t.core, t.overflowed, fresh⟩ actions ⟨core, overflowed, fresh'⟩) :
    Runs origin input t fresh ⟨core, t.actions ++ actions, overflowed⟩ fresh' :=
  ⟨actions, rfl, .single he⟩

/-- One effect, for a Turn whose parts are known by equations. -/
theorem of_effect {core : SessionCore} {overflowed : Bool} {actions : List CoreAction}
    (he : Effect origin input ⟨t.core, t.overflowed, fresh⟩ actions ⟨core, overflowed, fresh'⟩)
    (hcore : t'.core = core) (hactions : t'.actions = t.actions ++ actions)
    (hoverflowed : t'.overflowed = overflowed) : Runs origin input t fresh t' fresh' := by
  subst hcore hoverflowed
  exact ⟨actions, hactions, .single he⟩

/-- One effect that pushes nothing. -/
theorem silent {core : SessionCore} {overflowed : Bool}
    (he : Effect origin input ⟨t.core, t.overflowed, fresh⟩ [] ⟨core, overflowed, fresh'⟩) :
    Runs origin input t fresh ⟨core, t.actions, overflowed⟩ fresh' :=
  ⟨[], (List.append_nil _).symm, .single he⟩

theorem coherent (h : Runs origin input t fresh t' fresh') (hc : Coherent fresh t.core) :
    Coherent fresh' t'.core := by
  obtain ⟨_, _, hs⟩ := h
  exact coherent_of_steps hs hc

end Runs

/-- A connected Core that is not Selected is NotSelected. -/
theorem Coherent.notSelected_of_ne {fresh : Option CommandId} {core : SessionCore}
    (h : Coherent fresh core) (hstate : core.state.isSome = true)
    (hsel : core.state ≠ some .selected) : core.state = some .notSelected := by
  rcases h.state_range with hnone | hnot | hselected
  · rw [hnone] at hstate
    cases hstate
  · exact hnot
  · exact absurd hselected hsel

namespace Turn

variable {origin : SessionCore} {input : Input} {t : Turn} {fresh : Option CommandId}

/-! ## Completions of commands known to be open -/

theorem emitCompletion_of_open {c : CommandId} {kind : OpenCommandKind} {result : CoreCommandResult}
    (h : t.core.openCommands[c]? = some kind) : t.emitCompletion c result = t.settle c result :=
  if_pos (TreeMap.contains_iff.mpr ⟨kind, h⟩)

theorem completeError_of_open {c : CommandId} {kind : OpenCommandKind} {error : OperationError}
    (h : t.core.openCommands[c]? = some kind) :
    t.completeError c error = t.settle c (kind.errorResult error) := by
  unfold completeError
  rw [h]
  exact emitCompletion_of_open h

theorem completeControl_of_open {c : CommandId} {result : Except OperationError Unit}
    (h : t.core.openCommands[c]? = some .control) :
    t.completeControl c result = t.settle c (.control result) := by
  unfold completeControl
  rw [if_neg (not_not_intro h), emitCompletion_of_open h]

theorem completeSend_of_open {c : CommandId} {result : Except OperationError CommittedWrite}
    (h : t.core.openCommands[c]? = some .send) :
    t.completeSend c result = t.settle c (.send result) := by
  unfold completeSend
  rw [if_neg (not_not_intro h), emitCompletion_of_open h]

theorem completeRequest_of_open {c : CommandId} {result : Except OperationError MatchedSecondary}
    (h : t.core.openCommands[c]? = some .request) :
    t.completeRequest c result = t.settle c (.request result) := by
  unfold completeRequest
  rw [if_neg (not_not_intro h), emitCompletion_of_open h]

/-- The completion of a control transaction whose command is open. -/
theorem completeControlTransaction_eq {transaction : ControlTransaction}
    {result : Except OperationError Unit}
    (h : ∀ c, transaction.commandId = some c → t.core.openCommands[c]? = some .control) :
    t.completeControlTransaction transaction result =
      ⟨t.core.release transaction.commandId,
        t.actions ++ controlCompletion transaction.commandId result, t.overflowed⟩ := by
  unfold completeControlTransaction
  cases hc : transaction.commandId with
  | none =>
    simp only [release, controlCompletion, List.append_nil]
  | some c =>
    dsimp only
    rw [completeControl_of_open (h c hc)]
    rfl

/-! ## Ending the generation -/

theorem runs_endGeneration (reason : GenerationCloseReason) :
    Runs origin input t fresh (t.endGeneration reason) none :=
  ⟨_, t.endGeneration_actions reason, .single (by
    rw [endGeneration_overflowed]
    exact .ended reason rfl (Or.inl rfl) id (t.endGeneration_ended reason))⟩

/-- The generation ends after fields that closing resets or does not read have changed. -/
theorem runs_endGeneration_of_frame {pre : Turn} (reason : GenerationCloseReason)
    (hframe : pre.core = { t.core with
      state := pre.core.state
      selectionDeadline := pre.core.selectionDeadline
      lastActivity := pre.core.lastActivity
      idleDeadline := pre.core.idleDeadline
      deselectDrain := pre.core.deselectDrain
      replyContracts := pre.core.replyContracts })
    (hstate : pre.core.state = t.core.state ∨ pre.core.state = some .notSelected ∨
      pre.core.state = some .selected)
    (hactions : pre.actions = t.actions) (hoverflow : t.overflowed = true → pre.overflowed = true) :
    Runs origin input t fresh (pre.endGeneration reason) none := by
  refine ⟨t.core.endActions reason, ?_, .single ?_⟩
  · have hsame : pre.core.endActions reason = t.core.endActions reason := by
      rw [hframe]
      rfl
    rw [endGeneration_actions, hactions, hsame]
  · rw [endGeneration_overflowed]
    exact .ended reason hframe hstate hoverflow (pre.endGeneration_ended reason)

/-! ## Time -/

theorem acceptTime_cases (t : Turn) (now : MonoTime) :
    (¬ t.core.AcceptsTime now ∧ t.acceptTime now = (t.failRuntimeInvariant, false)) ∨
    (t.core.AcceptsTime now ∧
      t.acceptTime now = (t.update fun core => { core with lastNow := some now }, true)) := by
  unfold acceptTime AcceptsTime
  cases hlast : t.core.lastNow with
  | none => exact Or.inr ⟨nofun, if_neg (by simp)⟩
  | some last =>
    by_cases hlt : now < last
    · exact Or.inl ⟨fun h => (h last rfl).not_gt hlt, if_pos (by simpa using hlt)⟩
    · refine Or.inr ⟨fun last' h => ?_, if_neg (by simpa using hlt)⟩
      rw [← Option.some.inj h]
      exact (le_or_gt last now).resolve_right hlt

/-- A round whose handler stops when time regresses: it is enough to look at the accepted branch. -/
theorem runs_acceptTime {handler : Turn → Turn} {now : MonoTime} (hnow : input.now = now)
    (h : t.core.AcceptsTime now →
      Runs origin input (t.update fun core => { core with lastNow := some now }) fresh
        (handler (t.update fun core => { core with lastNow := some now })) none) :
    Runs origin input t fresh
      (match t.acceptTime now with
        | (t, false) => t
        | (t, true) => handler t) none := by
  rcases t.acceptTime_cases now with ⟨-, heq⟩ | ⟨haccepts, heq⟩
  · rw [heq]
    exact runs_endGeneration _
  · rw [heq]
    refine .trans (.silent ?_) (h haccepts)
    rw [← hnow] at haccepts ⊢
    exact .tick haccepts

theorem recordActivity_eq (t : Turn) (occurredAt : MonoTime) :
    t.recordActivity occurredAt =
      match t.core.config.timeouts.linktest with
      | none => t.update fun core =>
          { core with
            lastActivity := some (t.core.latestActivity occurredAt)
            idleDeadline := none }
      | some interval =>
        match (t.core.latestActivity occurredAt).checkedAdd interval with
        | some deadline => t.update fun core =>
            { core with
              lastActivity := some (t.core.latestActivity occurredAt)
              idleDeadline := some deadline }
        | none =>
          ((t.update fun core =>
            { core with
              lastActivity := some (t.core.latestActivity occurredAt) }).noteOverflow.endGeneration
                .runtimeInvariant).update fun core => { core with idleDeadline := none } :=
  rfl

/-- The recorded activity either fits or ends the generation. -/
theorem recordActivity_cases (t : Turn) (occurredAt : MonoTime) :
    (t.core.ActivityFits occurredAt ∧ ∃ lastActivity idleDeadline,
      t.recordActivity occurredAt = t.update fun core =>
        { core with lastActivity := lastActivity, idleDeadline := idleDeadline }) ∨
    ∃ lastActivity, t.recordActivity occurredAt =
      ((t.update fun core => { core with lastActivity := lastActivity }).noteOverflow.endGeneration
        .runtimeInvariant).update fun core => { core with idleDeadline := none } := by
  rw [recordActivity_eq]
  unfold ActivityFits
  cases hlinktest : t.core.config.timeouts.linktest with
  | none => exact Or.inl ⟨nofun, _, _, rfl⟩
  | some interval =>
    dsimp only
    cases hadd : (t.core.latestActivity occurredAt).checkedAdd interval with
    | some deadline =>
      refine Or.inl ⟨fun interval' h => ?_, _, _, rfl⟩
      rw [← Option.some.inj h, hadd]
      rfl
    | none => exact Or.inr ⟨_, rfl⟩

/-- The end of the generation when the activity does not fit. -/
theorem runs_activityOverflow (lastActivity : Option MonoTime) :
    Runs origin input t fresh
      (((t.update fun core =>
        { core with lastActivity := lastActivity }).noteOverflow.endGeneration
          .runtimeInvariant).update fun core => { core with idleDeadline := none }) none := by
  have hend : Runs origin input t fresh ((t.update fun core =>
      { core with lastActivity := lastActivity }).noteOverflow.endGeneration .runtimeInvariant)
      none := runs_endGeneration_of_frame _ rfl (Or.inl rfl) rfl fun _ => rfl
  exact hend.trans (.silent (.observe _ _ _))

/-- `record_activity`: it leaves the Core as it was up to observations, or closing. -/
theorem runs_recordActivity (occurredAt : MonoTime) :
    Runs origin input t none (t.recordActivity occurredAt) none := by
  rcases t.recordActivity_cases occurredAt with ⟨-, lastActivity, idleDeadline, heq⟩ |
    ⟨lastActivity, heq⟩
  · rw [heq]
    exact .silent (.observe _ _ _)
  · rw [heq]
    exact runs_activityOverflow lastActivity

/-! ## Identifiers and responses -/

theorem allocateRequestIdentifiers_cases (t : Turn) :
    (∃ reason, t.allocateRequestIdentifiers = (t.endGeneration reason, none)) ∨
    ∃ systemBytes writeId, t.core.Allocates systemBytes writeId ∧
      t.allocateRequestIdentifiers =
        (t.update fun core =>
          { core with
            nextSystemBytes := u32CheckedSucc systemBytes.raw
            nextWriteId := u64CheckedSucc writeId.raw }, some (systemBytes, writeId)) := by
  unfold allocateRequestIdentifiers Allocates
  cases hw : t.core.nextWriteId with
  | none => exact Or.inl ⟨_, rfl⟩
  | some writeRaw =>
    cases hb : t.core.nextSystemBytes with
    | none => exact Or.inl ⟨_, rfl⟩
    | some bytesRaw =>
      refine Or.inr ⟨⟨bytesRaw⟩, ⟨writeRaw⟩, ⟨rfl, rfl⟩, ?_⟩
      simp only [Option.isNone_some, Bool.false_eq_true, if_false, allocateSystemBytes, hb,
        allocateWriteId, hw]
      rfl

theorem runs_sendResponse {message : ControlMessage} (hstate : t.core.state.isSome = true)
    (hlive : t.core.closing = false) (hresponse : message.isResponse = true)
    (hinbound : input.isInbound = true) :
    Runs origin input t none (t.sendResponse message) none := by
  unfold sendResponse allocateWriteId
  cases hnext : t.core.nextWriteId with
  | none => exact runs_endGeneration _
  | some raw => exact .effect (.respond message hstate hlive hnext hresponse hinbound)

/-! ## Local procedures -/

theorem runs_refuse {c : CommandId} {kind : OpenCommandKind} {error : OperationError}
    (hopen : t.core.openCommands[c]? = some kind) (hours : error.isPeerVerdict = false) :
    Runs origin input t (some c) (t.completeError c error) none := by
  rw [completeError_of_open hopen]
  exact .effect (.refuse error hopen hours)

theorem runs_startTransaction {kind : TransactionKind} (hother : kind ≠ .deselect)
    (hstate : t.core.state.isSome = true) (hlive : t.core.closing = false)
    (hopen : ∀ c, fresh = some c → t.core.openCommands[c]? = some .control)
    (hidle : t.core.activeTransaction = none) (hnoDrain : t.core.deselectDrain = none)
    (hbefore : origin.activeTransaction = none)
    (hunselected : kind = .select → t.core.state = some .notSelected) :
    Runs origin input t fresh (t.startTransaction kind fresh) none := by
  unfold startTransaction
  rcases t.allocateRequestIdentifiers_cases with ⟨reason, heq⟩ | ⟨sb, w, hnext, heq⟩
  · rw [heq]
    exact runs_endGeneration reason
  · rw [heq]
    exact .effect (.startControl kind hother hstate hlive hopen hidle hnoDrain hnext
      hbefore hunselected)

/-- A finished drain turns into its Deselect transaction. -/
theorem runs_startDeselection {drain : DeselectDrain} (hstate : t.core.state = some .selected)
    (hlive : t.core.closing = false) (hdrain : t.core.deselectDrain = some drain)
    (hquiet : t.core.dataInUse = false) :
    Runs origin input t none ((t.update fun core =>
      { core with deselectDrain := none }).startTransaction .deselect (some drain.commandId))
      none := by
  unfold startTransaction
  rcases (t.update fun core => { core with deselectDrain := none }).allocateRequestIdentifiers_cases
    with ⟨reason, heq⟩ | ⟨sb, w, hnext, heq⟩
  · rw [heq]
    exact runs_endGeneration_of_frame reason rfl (Or.inl rfl) rfl id
  · rw [heq]
    exact .effect (.startDeselection hstate hlive hdrain hquiet hnext)

theorem runs_endDrain {drain : DeselectDrain} {result : Except OperationError Unit}
    (h : Coherent fresh t.core) (hlive : t.core.closing = false)
    (hdrain : t.core.deselectDrain = some drain) (hcause : DrainCause t.core input drain result) :
    Runs origin input t fresh
      ((t.update fun core => { core with deselectDrain := none }).completeControl drain.commandId
        result) fresh := by
  have hopen : (t.update fun core => { core with deselectDrain := none }).core.openCommands[
      drain.commandId]? = some .control := h.drain_open hlive drain hdrain
  rw [completeControl_of_open hopen]
  exact .effect (.endDrain hlive hdrain hcause)

theorem runs_failDrain {drain : DeselectDrain} {error : OperationError}
    (h : Coherent fresh t.core) (hlive : t.core.closing = false)
    (hdrain : t.core.deselectDrain = some drain)
    (hcause : DrainCause t.core input drain (.error error)) :
    Runs origin input t fresh
      ((t.update fun core => { core with deselectDrain := none }).completeError drain.commandId
        error) fresh := by
  have hopen : (t.update fun core => { core with deselectDrain := none }).core.openCommands[
      drain.commandId]? = some .control := h.drain_open hlive drain hdrain
  rw [completeError_of_open hopen]
  exact .effect (.endDrain hlive hdrain hcause)

theorem runs_progressDeselect {now : MonoTime} (h : Coherent none t.core)
    (hnow : input.now = now) : Runs origin input t none (t.progressDeselect now) none := by
  unfold progressDeselect
  cases hlive : t.core.closing with
  | true => exact .refl _ _
  | false =>
    cases hdrain : t.core.deselectDrain with
    | none => exact .refl _ _
    | some drain =>
      simp only [Bool.false_eq_true, if_false]
      split
      · rename_i hdue
        exact runs_failDrain h hlive hdrain (.expired (hnow ▸ hdue))
      · split
        · rename_i hstate
          exact runs_endDrain h hlive hdrain (.deselected hstate)
        · rename_i hstate
          split
          · rename_i hquiet
            refine runs_startDeselection ?_ hlive hdrain (by simpa using hquiet)
            have hsome := (h.drain_alone hlive (by rw [hdrain]; rfl)).2
            rcases h.state_range with hnone | hnot | hsel
            · rw [hnone] at hsome
              cases hsome
            · exact absurd hnot hstate
            · exact hsel
          · exact .refl _ _

theorem runs_startDeselect {c : CommandId} {now : MonoTime} (h : Coherent (some c) t.core)
    (hnow : input.now = now) (hlive : t.core.closing = false)
    (hopen : t.core.openCommands[c]? = some .control)
    (hbefore : origin.activeTransaction = t.core.activeTransaction) :
    Runs origin input t (some c) (t.startDeselect c now) none := by
  unfold startDeselect
  split
  · exact runs_refuse hopen rfl
  · rename_i hstate
    split
    · exact runs_refuse hopen rfl
    · rename_i hbusy
      simp only [Bool.or_eq_true, not_or, Bool.not_eq_true, Option.isSome_eq_false_iff,
        Option.isNone_iff_eq_none] at hbusy
      cases hadd : now.checkedAdd t.core.config.drainTimeout with
      | none => exact runs_endGeneration_of_frame _ rfl (Or.inl rfl) rfl fun _ => rfl
      | some deadline =>
        have hstart : Runs origin input t (some c)
            (t.update fun core => { core with deselectDrain := some ⟨c, deadline⟩ }) none :=
          .silent (.startDrain (not_not.mp hstate) hlive hopen hbusy.1 hbusy.2 (hnow ▸ hadd)
            (hbefore.trans hbusy.1))
        exact hstart.trans (runs_progressDeselect (hstart.coherent h) hnow)

theorem runs_startSelect {c : CommandId} (hlive : t.core.closing = false)
    (hopen : t.core.openCommands[c]? = some .control) (hnoDrain : t.core.deselectDrain = none)
    (hbefore : origin.activeTransaction = t.core.activeTransaction) :
    Runs origin input t (some c) (t.startSelect c) none := by
  unfold startSelect
  split
  · exact runs_refuse hopen rfl
  · rename_i hstate
    split
    · exact runs_refuse hopen rfl
    · rename_i hidle
      have hidle : t.core.activeTransaction = none := by simpa using hidle
      refine runs_startTransaction nofun (by rw [hstate]; rfl) hlive ?_ hidle hnoDrain
        (hbefore.trans hidle) fun _ => hstate
      rintro c' hc
      exact Option.some.inj hc ▸ hopen
  · exact runs_refuse hopen rfl

theorem runs_startLinktest {c : CommandId} (hlive : t.core.closing = false)
    (hopen : t.core.openCommands[c]? = some .control) (hnoDrain : t.core.deselectDrain = none)
    (hbefore : origin.activeTransaction = t.core.activeTransaction) :
    Runs origin input t (some c) (t.startLinktest c) none := by
  have hstart : t.core.state.isSome = true → Runs origin input t (some c)
      (if t.core.activeTransaction.isSome then t.completeError c .controlBusy
        else t.startTransaction .linktest (some c)) none := by
    intro hstate
    split
    · exact runs_refuse hopen rfl
    · rename_i hidle
      have hidle : t.core.activeTransaction = none := by simpa using hidle
      refine runs_startTransaction nofun hstate hlive ?_ hidle hnoDrain (hbefore.trans hidle) nofun
      rintro c' hc
      exact Option.some.inj hc ▸ hopen
  unfold startLinktest
  split
  · rename_i hstate
    exact hstart (by rw [hstate]; rfl)
  · rename_i hstate
    exact hstart (by rw [hstate]; rfl)
  · exact runs_refuse hopen rfl

theorem runs_retireControl {transaction : ControlTransaction} {result : Except OperationError Unit}
    (h : Coherent fresh t.core) (hactive : t.core.activeTransaction = some transaction)
    (hcause : ControlCause input transaction result) (hbefore : t.core.control = origin.control) :
    Runs origin input t fresh
      ((t.update fun core => { core with activeTransaction := none }).completeControlTransaction
        transaction result) fresh := by
  have hopen : ∀ c, transaction.commandId = some c →
      (t.update fun core => { core with activeTransaction := none }).core.openCommands[c]? =
        some .control := fun c hc => h.control_open transaction c hactive hc
  have hcore : (t.update fun core =>
      { core with activeTransaction := none }).core.release transaction.commandId =
      { t.core.release transaction.commandId with activeTransaction := none } := by
    cases transaction.commandId with
    | none => rfl
    | some c => rfl
  rw [completeControlTransaction_eq hopen, hcore]
  exact .effect (.retireControl hactive hcause hbefore)

/-! ## Separate -/

/-- The Core on its way out of Selected: `start_separate` has by then taken identifiers and marked
the generation as closing, `receive_separate` has done neither. -/
def leaving (nextBytes : Option UInt32) (nextWrite : Option UInt64) (closing : Bool)
    (core : SessionCore) : SessionCore :=
  { core with
    nextSystemBytes := nextBytes
    nextWriteId := nextWrite
    state := some .notSelected
    closing := closing }

/-- The end of `start_separate`: the Data commands, the frame, the announcement and the close. -/
theorem runs_separateTail {sb : SystemBytes} {w : WriteId} {reason : GenerationCloseReason}
    (h : Coherent fresh t.core) (hstate : t.core.state = some .selected)
    (hlive : t.core.closing = false)
    (hopen : ∀ c, fresh = some c → t.core.openCommands[c]? = some .control)
    (hidle : t.core.activeTransaction = none) (hnoDrain : t.core.deselectDrain = none)
    (hnext : t.core.Allocates sb w) :
    Runs origin input t fresh
      ((((t.update (leaving (u32CheckedSucc sb.raw) (u64CheckedSucc w.raw)
        true)).completeDataForDeselection.sendFrame w ⟨.separate, fresh⟩
            (.control (.separateRequest controlSessionId sb))).push
              (.sessionStateChanged .notSelected)).requestClose reason (.afterWrite w)) none := by
  have hc := (t.update (leaving (u32CheckedSucc sb.raw) (u64CheckedSucc w.raw)
    true)).completeDataForDeselection_completes
  generalize (t.update (leaving (u32CheckedSucc sb.raw) (u64CheckedSucc w.raw)
    true)).completeDataForDeselection = mid at hc
  have hsep : t.core.Separated { t.core with
      openCommands := mid.core.openCommands
      deferredErrors := mid.core.deferredErrors
      state := some .notSelected
      deselectDrain := none
      dataTransactions := ∅
      replyContracts := ∅
      closing := true
      closeActionIssued := true } := ⟨rfl, hc.openCommands, hc.deferredErrors⟩
  have hissued : mid.core.closeActionIssued = false := by
    rw [hc.frame]
    exact h.closing_issued.trans hlive
  have hactions : mid.actions = t.actions ++ t.core.separateCompletions := hc.actions
  refine .of_effect (.separate reason hstate hlive hopen hidle hnoDrain hnext hsep) ?_ ?_ ?_
  · rw [requestClose_core]
    show { mid.core with
      pendingWrites := mid.core.pendingWrites.insert w ⟨.separate, fresh⟩
      deselectDrain := none
      replyContracts := ∅
      closing := true
      closeActionIssued := true } = _
    rw [hc.frame]
    rfl
  · rw [requestClose_actions]
    show mid.actions ++ [_] ++ [_] ++ (if mid.core.closeActionIssued = true then [] else _) = _
    rw [hissued, hactions]
    simp only [List.append_assoc, List.cons_append, List.nil_append, Bool.false_eq_true, if_false]
  · rw [requestClose_overflowed]
    exact hc.overflowed

/-- The end of `receive_separate`. -/
theorem runs_peerSeparateTail {nextBytes : Option UInt32} {nextWrite : Option UInt64}
    (h : Coherent none t.core) (hstate : t.core.state = some .selected)
    (hlive : t.core.closing = false) (hidle : t.core.activeTransaction = none)
    (hsame : t.core.nextSystemBytes = nextBytes ∧ t.core.nextWriteId = nextWrite)
    (hstranded : t.core.deselectDrain = none ∨ origin.StrandsDeselect input) :
    Runs origin input t none
      (((t.update (leaving nextBytes nextWrite false)).completeDataForDeselection.push
        (.sessionStateChanged .notSelected)).requestClose .separateReceived .immediate) none := by
  have hc := (t.update (leaving nextBytes nextWrite false)).completeDataForDeselection_completes
  generalize (t.update (leaving nextBytes nextWrite false)).completeDataForDeselection = mid at hc
  have hsep : t.core.Separated { t.core with
      openCommands := mid.core.openCommands
      deferredErrors := mid.core.deferredErrors
      state := some .notSelected
      deselectDrain := none
      dataTransactions := ∅
      replyContracts := ∅
      closing := true
      closeActionIssued := true } := ⟨rfl, hc.openCommands, hc.deferredErrors⟩
  have hissued : mid.core.closeActionIssued = false := by
    rw [hc.frame]
    exact h.closing_issued.trans hlive
  have hactions : mid.actions = t.actions ++ t.core.separateCompletions := hc.actions
  obtain ⟨rfl, rfl⟩ := hsame
  refine .of_effect (.peerSeparate hstate hlive hidle hstranded hsep) ?_ ?_ ?_
  · rw [requestClose_core]
    show { mid.core with
      deselectDrain := none
      replyContracts := ∅
      closing := true
      closeActionIssued := true } = _
    rw [hc.frame]
    rfl
  · rw [requestClose_actions]
    show mid.actions ++ [_] ++ (if mid.core.closeActionIssued = true then [] else _) = _
    rw [hissued, hactions]
    simp only [List.append_assoc, List.cons_append, List.nil_append, Bool.false_eq_true, if_false]
  · rw [requestClose_overflowed]
    exact hc.overflowed

/-- The preempted drain of a coherent Core, in closed form. -/
theorem abortDrain_eq
    (hopen : ∀ drain, t.core.deselectDrain = some drain →
      t.core.openCommands[drain.commandId]? = some .control) :
    t.abortDrain = match t.core.deselectDrain with
      | some drain =>
        ⟨{ t.core.detach drain.commandId with deselectDrain := none },
          t.actions ++ [.completeCommand drain.commandId
            (.control (.error (.protocol .transactionAborted)))], t.overflowed⟩
      | none => t := by
  unfold abortDrain
  cases hdrain : t.core.deselectDrain with
  | none => rfl
  | some drain =>
    exact completeError_of_open (t := t.update fun core => { core with deselectDrain := none })
      (hopen drain hdrain)

theorem abortTransaction_of_idle (hidle : t.core.activeTransaction = none) :
    t.abortTransaction = t := by
  unfold abortTransaction
  rw [hidle]

/-- The preempted control transaction of a coherent Core, in closed form. -/
theorem abortTransaction_eq
    (hopen : ∀ transaction c, t.core.activeTransaction = some transaction →
      transaction.commandId = some c → t.core.openCommands[c]? = some .control) :
    t.abortTransaction = match t.core.activeTransaction with
      | some transaction =>
        ⟨{ t.core.release transaction.commandId with activeTransaction := none },
          t.actions ++ controlCompletion transaction.commandId
            (.error (.protocol .transactionAborted)), t.overflowed⟩
      | none => t := by
  unfold abortTransaction
  cases hactive : t.core.activeTransaction with
  | none => rfl
  | some transaction =>
    refine (completeControlTransaction_eq (t := t.update fun core =>
      { core with activeTransaction := none }) fun c hc => hopen transaction c hactive hc).trans ?_
    dsimp only
    cases transaction.commandId with
    | none => rfl
    | some c => rfl

/-- The preemption of the drain is an effect, and it does not look at what `leaving` changes. -/
theorem runs_abortDrain {nextBytes : Option UInt32} {nextWrite : Option UInt64} {closing : Bool}
    (h : Coherent fresh t.core) (hlive : t.core.closing = false)
    (hseparates : input.isSeparate = true) :
    ∃ mid : Turn, Runs origin input t fresh mid fresh ∧
      (t.update (leaving nextBytes nextWrite closing)).abortDrain =
        mid.update (leaving nextBytes nextWrite closing) ∧
      mid.core = { t.core with
        openCommands := mid.core.openCommands
        deferredErrors := mid.core.deferredErrors
        pendingWrites := mid.core.pendingWrites
        deselectDrain := none } ∧
      ∀ c, fresh = some c → mid.core.openCommands[c]? = t.core.openCommands[c]? := by
  have hopen := h.drain_open hlive
  rw [abortDrain_eq (t := t.update (leaving nextBytes nextWrite closing)) hopen]
  rw [show (t.update (leaving nextBytes nextWrite closing)).core.deselectDrain =
    t.core.deselectDrain from rfl]
  cases hdrain : t.core.deselectDrain with
  | some drain =>
    refine ⟨_, .effect (.endDrain hlive hdrain (.separated hseparates)), rfl, rfl, fun c hc => ?_⟩
    have hne := (h.fresh_unreferenced c hc).drain hlive drain hdrain
    exact (getElem?_openCommands_detach c).trans (if_neg hne)
  | none =>
    refine ⟨t, .refl _ _, rfl, ?_, fun _ _ => rfl⟩
    rw [← hdrain]

/-- The same for the preemption of the control transaction. -/
theorem runs_abortTransaction {nextBytes : Option UInt32} {nextWrite : Option UInt64}
    {closing : Bool} (h : Coherent fresh t.core) (hseparates : input.isSeparate = true)
    (hbefore : t.core.control = origin.control) :
    ∃ mid : Turn, Runs origin input t fresh mid fresh ∧
      (t.update (leaving nextBytes nextWrite closing)).abortTransaction =
        mid.update (leaving nextBytes nextWrite closing) ∧
      mid.core = { t.core with
        openCommands := mid.core.openCommands
        deferredErrors := mid.core.deferredErrors
        pendingWrites := mid.core.pendingWrites
        activeTransaction := none } ∧
      ∀ c, fresh = some c → mid.core.openCommands[c]? = t.core.openCommands[c]? := by
  have hopen := h.control_open
  rw [abortTransaction_eq (t := t.update (leaving nextBytes nextWrite closing)) hopen]
  rw [show (t.update (leaving nextBytes nextWrite closing)).core.activeTransaction =
    t.core.activeTransaction from rfl]
  cases hactive : t.core.activeTransaction with
  | some transaction =>
    refine ⟨_, .effect (.retireControl hactive (.separated hseparates) hbefore), ?_, ?_,
      fun c hc => ?_⟩
    · dsimp only
      cases transaction.commandId with
      | none => rfl
      | some c => rfl
    · dsimp only
      cases transaction.commandId with
      | none => rfl
      | some c => rfl
    · have hne := (h.fresh_unreferenced c hc).control transaction hactive
      exact (getElem?_openCommands_release c).trans (if_neg hne)
  | none =>
    refine ⟨t, .refl _ _, rfl, ?_, fun _ _ => rfl⟩
    rw [← hactive]

/-- `start_separate` while the generation lives. -/
theorem runs_startSeparate {reason : GenerationCloseReason} (h : Coherent fresh t.core)
    (hlive : t.core.closing = false)
    (hopen : ∀ c, fresh = some c → t.core.openCommands[c]? = some .control)
    (hseparates : input.isSeparate = true) (hbefore : t.core.control = origin.control) :
    Runs origin input t fresh (t.startSeparate fresh reason) none := by
  unfold startSeparate
  split
  · cases fresh with
    | none => exact .refl _ _
    | some c => exact runs_refuse (hopen c rfl) rfl
  · rename_i hstate
    rcases t.allocateRequestIdentifiers_cases with ⟨failure, heq⟩ | ⟨sb, w, hnext, heq⟩
    · rw [heq]
      exact runs_endGeneration failure
    · rw [heq]
      obtain ⟨mid, hrun, hmid, hcore, hkept⟩ := runs_abortDrain h hlive hseparates
      have hmidLive : mid.core.closing = false := by rw [hcore]; exact hlive
      have hmidBefore : mid.core.control = origin.control := by
        rw [hcore]
        exact hbefore
      obtain ⟨last, hrun', hlast, hcore', hkept'⟩ :=
        runs_abortTransaction (hrun.coherent h) hseparates hmidBefore
      refine (hrun.trans hrun').trans ?_
      show Runs origin input last fresh
        (((((t.update (leaving (u32CheckedSucc sb.raw) (u64CheckedSucc w.raw)
          true)).abortDrain.abortTransaction).completeDataForDeselection.sendFrame
          w ⟨.separate, fresh⟩ (.control (.separateRequest controlSessionId sb))).push
            (.sessionStateChanged .notSelected)).requestClose reason (.afterWrite w)) none
      rw [hmid, hlast]
      refine runs_separateTail ((hrun.trans hrun').coherent h) ?_ ?_ (fun c hc => ?_) ?_ ?_ ?_
      · rw [hcore', hcore]
        exact not_not.mp hstate
      · rw [hcore']
        exact hmidLive
      · rw [hkept' c hc, hkept c hc, hopen c hc]
      · rw [hcore']
      · rw [hcore', hcore]
      · rw [hcore', hcore]
        exact hnext

/-- `receive_separate`; in the Selected state the round has by then come as far as it takes to
strand a waiting drain. -/
theorem runs_receiveSeparate (h : Coherent none t.core) (hlive : t.core.closing = false)
    (hstranded : t.core.state = some .selected →
      t.core.deselectDrain = none ∨ origin.StrandsDeselect input)
    (hseparates : input.isSeparate = true) (hbefore : t.core.control = origin.control) :
    Runs origin input t none t.receiveSeparate none := by
  unfold receiveSeparate
  split
  · exact .refl _ _
  · rename_i hstate
    have hstate := not_not.mp hstate
    obtain ⟨mid, hrun, hmid, hcore, -⟩ := runs_abortTransaction h hseparates hbefore
    refine hrun.trans ?_
    have hleaving : (t.update fun core => { core with state := some .notSelected }) =
        t.update (leaving t.core.nextSystemBytes t.core.nextWriteId false) := by
      simp only [update, leaving, ← hlive]
    dsimp only
    rw [hleaving, hmid]
    refine runs_peerSeparateTail (hrun.coherent h) ?_ ?_ ?_ ?_ ?_
    · rw [hcore]
      exact hstate
    · rw [hcore]
      exact hlive
    · rw [hcore]
    · rw [hcore]
      exact ⟨rfl, rfl⟩
    · rw [hcore]
      exact hstranded hstate

/-! ## Data we originate -/

/-- A function number that is not even is odd. -/
theorem odd_of_not_even {function : UInt8} (h : ¬ (function = 0 ∨ function % 2 = 0)) :
    function % 2 = 1 := by
  have h2 : ¬ function % 2 = 0 := fun h2 => h (Or.inr h2)
  rw [← UInt8.toNat_inj, UInt8.toNat_mod] at h2 ⊢
  simp only [UInt8.reduceToNat] at h2 ⊢
  omega

theorem runs_startData {c : CommandId} {primary : PrimaryMessage} {replyExpected : Bool}
    {now : MonoTime}
    (hinput : input = .command ⟨c, if replyExpected then .request primary else .send primary⟩ now)
    (hbefore : origin.repliesBlocked = t.core.repliesBlocked) (h : Coherent (some c) t.core)
    (hlive : t.core.closing = false)
    (hopen : t.core.openCommands[c]? = some (if replyExpected then .request else .send)) :
    Runs origin input t (some c) (t.startData c primary replyExpected) none := by
  unfold startData
  split
  · exact runs_refuse hopen rfl
  · rename_i hdraining
    simp only [Bool.or_eq_true, not_or, Bool.not_eq_true, Option.isSome_eq_false_iff,
      Option.isNone_iff_eq_none] at hdraining
    have hunblocked := And.intro (hbefore.trans hdraining.2) hdraining.2
    split
    · exact runs_refuse hopen rfl
    · rename_i hstate
      have hstate := not_not.mp hstate
      split
      · exact runs_refuse hopen rfl
      · rename_i hfunction
        have hodd := odd_of_not_even hfunction
        split
        · exact runs_refuse hopen rfl
        · rcases t.allocateRequestIdentifiers_cases with ⟨failure, heq⟩ | ⟨sb, w, hnext, heq⟩
          · rw [heq]
            exact runs_endGeneration failure
          · rw [heq]
            cases replyExpected with
            | false =>
              exact .effect (.sendPrimary primary hinput hstate hlive hopen hdraining.1 hunblocked
                hodd hnext)
            | true =>
              have hvacant : t.core.dataTransactions.contains sb = false := by
                rw [TreeMap.contains_eq_false_iff]
                cases hsb : t.core.dataTransactions[sb]? with
                | none => rfl
                | some transaction =>
                  exact absurd ((h.request_used sb transaction hsb).2 _ hnext.1)
                    (UInt32.lt_irrefl _)
              have hcollision : (t.update fun core =>
                  { core with
                    nextSystemBytes := u32CheckedSucc sb.raw
                    nextWriteId := u64CheckedSucc w.raw }).core.dataTransactions.contains sb =
                    false := hvacant
              dsimp only
              rw [if_pos rfl, hcollision]
              exact .effect (.sendRequest primary hinput hstate hlive hopen hdraining.1 hunblocked
                hodd hnext)

/-! ## Deselection -/

/-- `commit_deselection` outside NotSelected: the T7 deadline fits, or the generation ends before
the announcement. -/
theorem commitDeselection_cases (now : MonoTime) (hstate : t.core.state ≠ some .notSelected) :
    (∃ deadline, now.checkedAdd t.core.config.timeouts.t7 = some deadline ∧
      t.commitDeselection now = (t.update fun core =>
        { core with
          state := some .notSelected
          replyContracts := ∅
          selectionDeadline := some deadline }).push (.sessionStateChanged .notSelected)) ∨
    t.commitDeselection now = ((t.update fun core =>
      { core with
        state := some .notSelected
        replyContracts := ∅
        selectionDeadline := none }).noteOverflow.endGeneration .runtimeInvariant).push
          (.sessionStateChanged .notSelected) := by
  unfold commitDeselection armSelectionTimeout
  rw [if_pos hstate]
  cases hadd : now.checkedAdd t.core.config.timeouts.t7 with
  | some deadline =>
    refine Or.inl ⟨deadline, rfl, ?_⟩
    show push (match now.checkedAdd t.core.config.timeouts.t7 with
      | some deadline => _
      | none => _) _ = _
    rw [hadd]
    rfl
  | none =>
    refine Or.inr ?_
    show push (match now.checkedAdd t.core.config.timeouts.t7 with
      | some deadline => _
      | none => _) _ = _
    rw [hadd]
    rfl

@[simp] theorem endGeneration_closing (t : Turn) (reason : GenerationCloseReason) :
    (t.endGeneration reason).core.closing = true := by
  rw [(t.endGeneration_ended reason).frame]

/-- After an overflow has ended the generation the deselection is still announced. -/
theorem runs_lateAnnounce (hclosing : t.core.closing = true) (hoverflowed : t.overflowed = true) :
    Runs origin input t fresh (t.push (.sessionStateChanged .notSelected)) fresh := by
  obtain ⟨core, actions, overflowed⟩ := t
  obtain rfl : overflowed = true := hoverflowed
  exact .effect (.lateAnnounce hclosing)

/-- After an overflow has ended the generation, a control command that is still open completes; one
that is not fails the generation again. -/
theorem runs_lateControl {c : CommandId} {result : Except OperationError Unit}
    (hclosing : t.core.closing = true) (hoverflowed : t.overflowed = true) :
    Runs origin input t none (t.completeControl c result) none := by
  by_cases hopen : t.core.openCommands[c]? = some .control
  · rw [completeControl_of_open hopen]
    obtain ⟨core, actions, overflowed⟩ := t
    obtain rfl : overflowed = true := hoverflowed
    exact .effect (.lateControl result hclosing hopen nofun)
  · unfold completeControl
    rw [if_pos hopen]
    exact runs_endGeneration _

/-- The deselection whose T7 overflows: the generation ends, and then the state is announced. -/
theorem runs_deselectionOverflow :
    Runs origin input t fresh (((t.update fun core =>
      { core with
        state := some .notSelected
        replyContracts := ∅
        selectionDeadline := none }).noteOverflow.endGeneration .runtimeInvariant).push
          (.sessionStateChanged .notSelected)) none := by
  have hend : Runs origin input t fresh ((t.update fun core =>
      { core with
        state := some .notSelected
        replyContracts := ∅
        selectionDeadline := none }).noteOverflow.endGeneration .runtimeInvariant) none :=
    runs_endGeneration_of_frame _ rfl (Or.inr (Or.inl rfl)) rfl fun _ => rfl
  exact hend.trans (runs_lateAnnounce (endGeneration_closing _ _) (endGeneration_overflowed _ _))

/-- `commit_deselection` of a quiet Core in the Selected state. -/
theorem runs_commitDeselection {now : MonoTime} (hnow : input.now = now)
    (hlive : t.core.closing = false) (hstate : t.core.state = some .selected)
    (hquiet : t.core.DataQuiet) (hcause : DeselectCause input) :
    Runs origin input t none (t.commitDeselection now) none := by
  have hne : t.core.state ≠ some .notSelected := by rw [hstate]; nofun
  rcases t.commitDeselection_cases now hne with ⟨deadline, hadd, heq⟩ | heq
  · rw [heq]
    exact .effect (.deselected deadline hstate hlive hquiet (hnow ▸ hadd) hcause)
  · rw [heq]
    exact runs_deselectionOverflow

/-! ## Inbound control messages -/

theorem runs_receiveSelectRequest {sessionId : UInt16} {systemBytes : SystemBytes} {now : MonoTime}
    (hinput : input = .message (.control (.selectRequest sessionId systemBytes)) now)
    (h : Coherent none t.core) (hlive : t.core.closing = false)
    (hstate : t.core.state.isSome = true) :
    Runs origin input t none (t.receiveSelectRequest sessionId systemBytes) none := by
  have hrefused : ∀ status : SelectStatus, ¬ status.IsSuccess → Runs origin input t none
      (if status.IsSuccess ∧ !(t.sendResponse (.selectResponse sessionId status
          systemBytes)).core.closing then
        (t.sendResponse (.selectResponse sessionId status systemBytes)).push
          (.sessionStateChanged .selected)
      else t.sendResponse (.selectResponse sessionId status systemBytes)) none := by
    intro status hstatus
    rw [if_neg fun hc => hstatus hc.1]
    exact runs_sendResponse hstate hlive rfl (by rw [hinput]; rfl)
  unfold receiveSelectRequest
  by_cases hid : sessionId ≠ controlSessionId
  · rw [if_pos hid]
    exact hrefused .notReady (by decide)
  · rw [if_neg hid]
    by_cases hsel : t.core.state = some .selected
    · rw [if_pos hsel]
      exact hrefused .alreadyActive (by decide)
    · rw [if_neg hsel]
      have hnot := h.notSelected_of_ne hstate hsel
      dsimp only
      cases hnext : t.core.nextWriteId with
      | none =>
        -- no WriteId is left for the response: the generation ends with the state already changed
        have hfail : (t.update fun core =>
            { core with state := some .selected, selectionDeadline := none }).sendResponse
              (.selectResponse sessionId .success systemBytes) =
            (t.update fun core =>
              { core with state := some .selected, selectionDeadline := none }).endGeneration
                .runtimeInvariant := by
          unfold sendResponse allocateWriteId
          rw [show (t.update fun core => { core with
            state := some .selected, selectionDeadline :=
              none }).core.nextWriteId = none from hnext]
          rfl
        rw [hfail, if_neg (by simp)]
        exact runs_endGeneration_of_frame _ rfl (Or.inr (Or.inr rfl)) rfl id
      | some raw =>
        have hsend : (t.update fun core =>
            { core with state := some .selected, selectionDeadline := none }).sendResponse
              (.selectResponse sessionId .success systemBytes) =
            ⟨{ t.core.trackWrite ⟨raw⟩ ⟨.response, none⟩ with
                state := some .selected
                selectionDeadline := none },
              t.actions ++ [.sendFrame ⟨raw⟩
                (.control (.selectResponse sessionId .success systemBytes))], t.overflowed⟩ := by
          unfold sendResponse allocateWriteId
          rw [show (t.update fun core => { core with
            state := some .selected, selectionDeadline := none }).core.nextWriteId = some raw
            from hnext]
          rfl
        have hopen : (!t.core.closing) = true := by
          rw [hlive]
          rfl
        rw [hsend, if_pos ⟨rfl, hopen⟩]
        have hrespond : Runs origin input t none
            ⟨t.core.trackWrite ⟨raw⟩ ⟨.response, none⟩, t.actions ++ [.sendFrame ⟨raw⟩
              (.control (.selectResponse sessionId .success systemBytes))], t.overflowed⟩ none :=
          .effect (.respond _ hstate hlive hnext rfl (by rw [hinput]; rfl))
        exact hrespond.trans (.effect (.selected (.requested hinput) hnot hlive))

theorem runs_receiveSelectResponse {sessionId : UInt16} {status : SelectStatus}
    {systemBytes : SystemBytes} {now : MonoTime}
    (hinput : input = .message (.control (.selectResponse sessionId status systemBytes)) now)
    (h : Coherent none t.core) (hlive : t.core.closing = false)
    (hstate : t.core.state.isSome = true) (hbefore : t.core.control = origin.control) :
    Runs origin input t none (t.receiveSelectResponse sessionId status systemBytes) none := by
  unfold receiveSelectResponse
  cases hactive : t.core.activeTransaction with
  | none => exact runs_sendResponse hstate hlive rfl (by rw [hinput]; rfl)
  | some transaction =>
    dsimp only
    split
    · exact runs_sendResponse hstate hlive rfl (by rw [hinput]; rfl)
    · rename_i hmatch
      simp only [not_or, not_not] at hmatch
      obtain ⟨hkind, rfl, rfl⟩ := hmatch
      have hcause : ∀ result, ControlCause input transaction result := fun _ => .select hinput hkind
      split
      · split
        · rename_i hsel
          have hselected : Runs origin input t none ((t.update fun core =>
              { core with state := some .selected, selectionDeadline := none }).push
                (.sessionStateChanged .selected)) none :=
            .effect (.selected (.answered hinput) (h.notSelected_of_ne hstate hsel) hlive)
          exact hselected.trans (runs_retireControl (hselected.coherent h) hactive
            (hcause _) hbefore)
        · exact runs_retireControl h hactive (hcause _) hbefore
      · exact runs_retireControl h hactive (hcause _) hbefore

theorem runs_receiveLinktestResponse {systemBytes : SystemBytes} {now : MonoTime}
    (hinput : input = .message (.control (.linktestResponse systemBytes)) now)
    (h : Coherent none t.core) (hlive : t.core.closing = false)
    (hstate : t.core.state.isSome = true) (hbefore : t.core.control = origin.control) :
    Runs origin input t none (t.receiveLinktestResponse systemBytes) none := by
  unfold receiveLinktestResponse
  cases hactive : t.core.activeTransaction with
  | none => exact runs_sendResponse hstate hlive rfl (by rw [hinput]; rfl)
  | some transaction =>
    dsimp only
    split
    · exact runs_sendResponse hstate hlive rfl (by rw [hinput]; rfl)
    · rename_i hmatch
      simp only [not_or, not_not] at hmatch
      obtain ⟨hkind, hsession, rfl⟩ := hmatch
      exact runs_retireControl h hactive (.linktest hinput hkind hsession) hbefore

end Turn

end Hsms
end SecsRust

import SecsRust.Hsms.Core.Session.Deselection

/-!
# A waiting Deselect makes progress

A Deselect that drains waits for the Data obligations of either side.  Whatever removes one
of them must look at the drain again, which is what `progress_deselect` is for: after it a
waiting drain has something to wait for (`Turn.engaged_progressDeselect`).  The rounds that
call it last need no further argument; the others must leave the obligations as they are,
which is what `KeepsDrain` says of their functions.

## The branch that does neither

One branch does neither.  A Secondary reply to an F255 Primary spends its reply contract, is
refused because there is no function F256, and returns.  If the contract was the last
obligation, the drain waits for nothing, until some other input lets the Core look again.
The sibling branches of `on_reply` do call `progress_deselect`.

`SessionCore.DrainProgresses` is the state condition, and the result is an equivalence over
runs: the condition holds after every prefix of a run if and only if no round of the run
takes this branch while the contract is the last thing that the drain waits for.  The
direction from the runs to the rounds needs that the branch, once taken in this way, does
break the condition, so both directions go through the one lemma about that branch.
-/

namespace SecsRust
namespace Hsms

open Std Secs2 SessionCore

namespace SessionCore

variable {core core' : SessionCore}

/-- A waiting drain has something to wait for. -/
def DrainEngaged (core : SessionCore) : Prop :=
  core.closing = false → core.state.isSome = true → core.deselectDrain.isSome = true →
    core.state ≠ some .notSelected ∧ core.dataInUse = true

theorem engaged_of_closing (h : core.closing = true) : core.DrainEngaged :=
  fun hlive => not_closing hlive h

theorem engaged_of_noDrain (h : core.deselectDrain = none) : core.DrainEngaged := by
  intro _ _ hdrain
  rw [h] at hdrain
  cases hdrain

/-- The Core closes, or keeps its drain and everything that the drain waits for. -/
def KeepsDrain (core core' : SessionCore) : Prop :=
  core'.closing = true ∨ core'.closing = core.closing ∧ core'.deselectDrain = core.deselectDrain ∧
    core'.state = core.state ∧ (core.dataInUse = true → core'.dataInUse = true)

namespace KeepsDrain

theorem engaged (h : KeepsDrain core core') (hengaged : core.DrainEngaged) :
    core'.DrainEngaged := by
  rcases h with hclosed | ⟨hclosing, hdrain, hstate, hdata⟩
  · exact engaged_of_closing hclosed
  · intro hlive hsome hpending
    rw [hclosing] at hlive
    rw [hstate] at hsome ⊢
    rw [hdrain] at hpending
    obtain ⟨hselected, hinUse⟩ := hengaged hlive hsome hpending
    exact ⟨hselected, hdata hinUse⟩

theorem noDrain (h : KeepsDrain core core') (hdrain : core.deselectDrain = none) :
    core'.DrainEngaged :=
  h.engaged (engaged_of_noDrain hdrain)

end KeepsDrain

/-- Data stays in use as long as no table loses an entry. -/
theorem dataInUse_mono (htransactions : core'.dataTransactions = core.dataTransactions)
    (hcontracts : core'.replyContracts = core.replyContracts)
    (hwrites : ∀ w kind, core.writeKind w = some kind → core'.writeKind w = some kind)
    (h : core.dataInUse = true) : core'.dataInUse = true := by
  refine Bool.eq_true_of_not_eq_false fun hquiet => ?_
  obtain ⟨⟨hempty, hnone⟩, hreplies⟩ := dataInUse_eq_false_iff.mp hquiet
  have hbefore : core.dataInUse = false := by
    refine dataInUse_eq_false_iff.mpr ⟨⟨htransactions ▸ hempty, fun w write hw => ?_⟩,
      hcontracts ▸ hreplies⟩
    have hkind : core.writeKind w = some write.kind := by
      rw [writeKind, hw]
      rfl
    obtain ⟨write', hw', hsame⟩ := Option.map_eq_some_iff.mp (hwrites w write.kind hkind)
    rw [← hsame]
    exact hnone w write' hw'
  rw [h] at hbefore
  cases hbefore

theorem keepsDrain_detach (core : SessionCore) (c : CommandId) : KeepsDrain core (core.detach c) :=
  .inr ⟨rfl, rfl, rfl, dataInUse_mono rfl rfl fun w _ hkind => (writeKind_detach c w).trans hkind⟩

theorem dataInUse_of_detach {c : CommandId} (h : (core.detach c).dataInUse = true) :
    core.dataInUse = true :=
  @dataInUse_mono (core.detach c) core rfl rfl
    (fun w _ hkind => (writeKind_detach c w).symm.trans hkind) h

end SessionCore

namespace Turn

variable {t : Turn}

/-! ## What keeps a drain -/

theorem keepsDrain_endGeneration (core : SessionCore) (t : Turn) (reason : GenerationCloseReason) :
    KeepsDrain core (t.endGeneration reason).core := .inl (endGeneration_closing t reason)

theorem keepsDrain_emitCompletion (t : Turn) (c : CommandId) (result : CoreCommandResult) :
    KeepsDrain t.core (t.emitCompletion c result).core := by
  unfold emitCompletion
  split
  · exact keepsDrain_detach t.core c
  · exact keepsDrain_endGeneration _ t .runtimeInvariant

theorem keepsDrain_completeError (t : Turn) (c : CommandId) (error : OperationError) :
    KeepsDrain t.core (t.completeError c error).core := by
  unfold completeError
  split
  · exact keepsDrain_endGeneration _ t .runtimeInvariant
  · exact keepsDrain_emitCompletion t c _

theorem keepsDrain_completeOk (t : Turn) (c : CommandId) :
    KeepsDrain t.core (t.completeOk c).core := by
  unfold completeOk completeControl
  split
  · exact keepsDrain_endGeneration _ t .runtimeInvariant
  · exact keepsDrain_emitCompletion t c _

theorem keepsDrain_armSelectionTimeout (t : Turn) (now : MonoTime) :
    KeepsDrain t.core (t.armSelectionTimeout now).core := by
  unfold armSelectionTimeout
  split
  · exact .inr ⟨rfl, rfl, rfl, id⟩
  · exact keepsDrain_endGeneration _ _ .runtimeInvariant

theorem keepsDrain_recordActivity (t : Turn) (occurredAt : MonoTime) :
    KeepsDrain t.core (t.recordActivity occurredAt).core := by
  rcases t.recordActivity_cases occurredAt with ⟨-, _, _, heq⟩ | ⟨_, heq⟩
  · rw [heq]
    exact .inr ⟨rfl, rfl, rfl, id⟩
  · rw [heq]
    exact .inl (endGeneration_closing _ .runtimeInvariant)

/-- A response is a write more. -/
theorem keepsDrain_sendResponse (t : Turn) (message : ControlMessage)
    (hfresh : ∀ w : WriteId, t.core.nextWriteId = some w.raw → t.core.writeKind w = none) :
    KeepsDrain t.core (t.sendResponse message).core := by
  rcases t.sendResponse_cases message with heq | ⟨w, hnext, heq⟩
  · rw [heq]
    exact keepsDrain_endGeneration _ t .runtimeInvariant
  · rw [heq]
    refine .inr ⟨rfl, rfl, rfl, dataInUse_mono rfl rfl fun v kind hkind => ?_⟩
    dsimp only
    rw [writeKind_trackWrite, if_neg]
    · exact hkind
    · rintro rfl
      rw [hfresh w hnext] at hkind
      cases hkind

/-! ## Where there is no drain -/

theorem engaged_startTransaction (hdrain : t.core.deselectDrain = none) (kind : TransactionKind)
    (c : Option CommandId) : (t.startTransaction kind c).core.DrainEngaged := by
  unfold startTransaction
  rcases t.allocateRequestIdentifiers_cases with ⟨reason, heq⟩ | ⟨sb, w, -, heq⟩
  · rw [heq]
    exact engaged_of_closing (endGeneration_closing t reason)
  · rw [heq]
    exact engaged_of_noDrain hdrain

theorem engaged_startSelect (hdrain : t.core.deselectDrain = none) (c : CommandId) :
    (t.startSelect c).core.DrainEngaged := by
  unfold startSelect
  split
  · exact (keepsDrain_completeError t c _).noDrain hdrain
  · split
    · exact (keepsDrain_completeError t c _).noDrain hdrain
    · exact engaged_startTransaction hdrain _ _
  · exact (keepsDrain_completeError t c _).noDrain hdrain

theorem engaged_startLinktest (hdrain : t.core.deselectDrain = none) (c : CommandId) :
    (t.startLinktest c).core.DrainEngaged := by
  unfold startLinktest
  split
  · split
    · exact (keepsDrain_completeError t c _).noDrain hdrain
    · exact engaged_startTransaction hdrain _ _
  · split
    · exact (keepsDrain_completeError t c _).noDrain hdrain
    · exact engaged_startTransaction hdrain _ _
  · exact (keepsDrain_completeError t c _).noDrain hdrain

theorem engaged_startData (hengaged : t.core.DrainEngaged) (c : CommandId)
    (primary : PrimaryMessage)
    (replyExpected : Bool) : (t.startData c primary replyExpected).core.DrainEngaged := by
  have hrefused (error : OperationError) : (t.completeError c error).core.DrainEngaged :=
    (keepsDrain_completeError t c error).engaged hengaged
  unfold startData
  split
  · exact hrefused _
  · rename_i hfree
    have hdrain : t.core.deselectDrain = none := by
      simp only [Bool.or_eq_true, not_or, Bool.not_eq_true, Option.isSome_eq_false_iff,
        Option.isNone_iff_eq_none] at hfree
      exact hfree.1
    split
    · exact hrefused _
    · split
      · exact hrefused _
      · split
        · exact hrefused _
        · rcases t.allocateRequestIdentifiers_cases with ⟨reason, heq⟩ | ⟨sb, w, -, heq⟩
          · rw [heq]
            exact engaged_of_closing (endGeneration_closing t reason)
          · rw [heq]
            dsimp only
            split_ifs
            · exact engaged_of_closing (endGeneration_closing _ .runtimeInvariant)
            · exact engaged_of_noDrain hdrain
            · exact engaged_of_noDrain hdrain

/-! ## Where the drain is looked at last -/

/-- **After `progress_deselect` a waiting drain has something to wait for.**  Either the request
is under way, or something is still in use whose end will call the function again. -/
theorem engaged_progressDeselect (t : Turn) (now : MonoTime) :
    (t.progressDeselect now).core.DrainEngaged := by
  unfold progressDeselect
  split
  · rename_i hclosing
    exact engaged_of_closing hclosing
  · split
    · rename_i hdrain
      exact engaged_of_noDrain hdrain
    · rename_i drain hdrain
      split_ifs with hdue hunselected hquiet
      · exact (keepsDrain_completeError _ _ _).noDrain rfl
      · exact (keepsDrain_completeOk _ _).noDrain rfl
      · exact engaged_startTransaction rfl _ _
      · exact fun _ _ _ => ⟨hunselected, by simpa using hquiet⟩

theorem engaged_expireDeadlines (t : Turn) (now : MonoTime) :
    (t.expireDeadlines now).core.DrainEngaged := by
  unfold expireDeadlines
  split
  · rename_i hend
    intro hlive hsome
    simp only [Bool.or_eq_true, Option.isNone_iff_eq_none] at hend
    rcases hend with hclosing | hnone
    · exact not_closing hlive hclosing
    · rw [hnone] at hsome
      cases hsome
  · split
    · exact engaged_of_closing (requestClose_closing _ _ _)
    · split
      · exact engaged_of_closing (requestClose_closing _ _ _)
      · dsimp only
        split
        · exact engaged_progressDeselect _ now
        · split
          · rename_i hidle
            simp only [Bool.and_eq_true, Option.isNone_iff_eq_none] at hidle
            refine engaged_startTransaction ?_ _ _
            exact hidle.1.2
          · exact engaged_progressDeselect _ now

theorem engaged_startDeselect (hengaged : t.core.DrainEngaged) (c : CommandId) (now : MonoTime) :
    (t.startDeselect c now).core.DrainEngaged := by
  have hrefused (error : OperationError) : (t.completeError c error).core.DrainEngaged :=
    (keepsDrain_completeError t c error).engaged hengaged
  unfold startDeselect
  split_ifs
  · exact hrefused _
  · exact hrefused _
  · split
    · exact engaged_progressDeselect _ now
    · exact engaged_of_closing (endGeneration_closing _ .runtimeInvariant)

end Turn

namespace SessionCore

variable {core : SessionCore}

/-! ## The entry points -/

theorem engaged_onConnected (h : Coherent none core) (now : MonoTime) :
    (core.onConnected now).core.DrainEngaged := by
  unfold onConnected
  rcases (Turn.start core).acceptTime_cases now with ⟨-, heq⟩ | ⟨-, heq⟩
  · rw [heq]
    exact engaged_of_closing (Turn.endGeneration_closing _ .runtimeInvariant)
  · rw [heq]
    dsimp only
    split
    · exact engaged_of_closing (Turn.endGeneration_closing _ .runtimeInvariant)
    · rename_i hfresh
      simp only [Bool.or_eq_true, not_or, Bool.not_eq_true, Option.isSome_eq_false_iff,
        Option.isNone_iff_eq_none] at hfresh
      have hdrain : core.deselectDrain = none := by
        refine Option.eq_none_iff_forall_ne_some.mpr fun drain hdrain => ?_
        have hsome := (h.drain_alone hfresh.2 (by rw [hdrain]; rfl)).2
        rw [show core.state = none from hfresh.1] at hsome
        cases hsome
      have hengaged := (Turn.keepsDrain_recordActivity _ now).engaged
        ((Turn.keepsDrain_armSelectionTimeout (((Turn.start core).update fun core =>
          { core with lastNow := some now }).update fun core =>
            { core with state := some .notSelected }) now).noDrain hdrain)
      split
      · exact hengaged
      · exact hengaged

/-- A Secondary reply to an F255 Primary is about to spend the last thing that a waiting drain waits
for. -/
def StallsDrain (core : SessionCore) (input : Input) : Prop :=
  ∃ commandId capability body now header, input = .reply commandId capability .secondary body now ∧
    core.openCommands.contains commandId = false ∧ core.AcceptsTime now ∧ core.closing = false ∧
    core.deselectDrain.isSome = true ∧ core.replyContracts[capability]? = some header ∧
    header.function.raw = 255 ∧ (core.eraseContract capability).dataInUse = false

/-- A reply frame is something to wait for. -/
theorem engaged_sendReply {t : Turn} (hstate : t.core.state = some .selected) (w : WriteId)
    (correlation : DataWriteCorrelation) (c : CommandId) (nextWriteId : Option UInt64)
    (message : DataMessage) :
    ({ t with core := { t.core with nextWriteId := nextWriteId } }.sendFrame w
      ⟨.dataSend correlation, some c⟩ (.data message)).core.DrainEngaged := by
  have hpending : (({ t with core := { t.core with nextWriteId := nextWriteId } } :
      Turn).sendFrame w
      ⟨.dataSend correlation, some c⟩ (.data message)).core.writeKind w =
        some (.dataSend correlation) :=
    (@writeKind_trackWrite t.core w w ⟨.dataSend correlation, some c⟩).trans (if_pos rfl)
  refine fun _ _ _ => ⟨?_, dataInUse_of_writeKind hpending rfl⟩
  exact fun hunselected => SessionState.noConfusion
    (Option.some.inj (hstate.symm.trans hunselected))

/-- What is left of `on_reply` once the reply contract is found and spent. -/
theorem engaged_onReply (hengaged : core.DrainEngaged) {c : CommandId}
    {capability : ReplyCapabilityId}
    {intent : ReplyIntent} {body : Option SecsItem} {now : MonoTime}
    (hstalls : ¬ core.StallsDrain (.reply c capability intent body now)) :
    (core.onReply c capability intent body now).core.DrainEngaged := by
  unfold onReply
  cases hcontains : core.openCommands.contains c with
  | true => exact engaged_of_closing (Turn.endGeneration_closing _ .runtimeInvariant)
  | false =>
    rw [if_neg Bool.false_ne_true]
    rcases (Turn.start (core.accept c intent.openKind)).acceptTime_cases now with ⟨-,
      heq⟩ | ⟨haccepts, heq⟩
    · rw [heq]
      exact engaged_of_closing (Turn.endGeneration_closing _ .runtimeInvariant)
    · rw [heq]
      dsimp only
      have hspent : core.deselectDrain.isSome = true → core.closing = false →
          ∀ header, core.replyContracts[capability]? = some header → header.function.raw = 255 →
            intent = .secondary → (core.eraseContract capability).dataInUse = true := by
        rintro hdrain hlive header hheld hfunction rfl
        refine Bool.eq_true_of_not_eq_false fun hquiet => hstalls ?_
        exact ⟨c, capability, body, now, header, rfl, hcontains, haccepts, hlive, hdrain,
          hheld, hfunction, hquiet⟩
      have hsame : (((Turn.start (core.accept c intent.openKind)).update fun core =>
          { core with lastNow := some now }).core.eraseContract capability).dataInUse =
            (core.eraseContract capability).dataInUse := rfl
      have hbase : ((Turn.start (core.accept c intent.openKind)).update fun core =>
          { core with lastNow := some now }).core.DrainEngaged := hengaged
      have hheld' : ((Turn.start (core.accept c intent.openKind)).update fun core =>
          { core with lastNow := some now }).core.replyContracts = core.replyContracts := rfl
      have hdrain' : ((Turn.start (core.accept c intent.openKind)).update fun core =>
          { core with lastNow := some now }).core.deselectDrain = core.deselectDrain := rfl
      have hclosing' : ((Turn.start (core.accept c intent.openKind)).update fun core =>
          { core with lastNow := some now }).core.closing = core.closing := rfl
      rw [← hsame, ← hheld', ← hdrain', ← hclosing'] at hspent
      generalize (Turn.start (core.accept c intent.openKind)).update
        (fun core => { core with lastNow := some now }) = t at *
      have hrefused (error : OperationError) : (t.completeError c error).core.DrainEngaged :=
        (Turn.keepsDrain_completeError t c error).engaged hbase
      split
      · exact hrefused _
      · rename_i hready
        simp only [not_or, not_not, Bool.not_eq_true] at hready
        split
        · exact hrefused _
        · cases hheld : t.core.replyContracts[capability]? with
          | none => exact hrefused _
          | some primary =>
            dsimp only
            have hexhausted : ((t.update fun core => { core with
                replyContracts := core.replyContracts.erase capability
                  }).failRuntimeInvariant).core.DrainEngaged :=
              engaged_of_closing (Turn.endGeneration_closing _ .runtimeInvariant)
            have hsend {allocated : WriteId × SessionCore} (hnext :
                (t.update fun core => { core with
                replyContracts := core.replyContracts.erase capability
                  }).core.allocateWriteId = some allocated)
                (function : Function) (reply : Option SecsItem) :
                ({ (t.update fun core => { core with
                    replyContracts := core.replyContracts.erase capability }) with
                  core := allocated.2 }.sendFrame allocated.1
                  ⟨.dataSend ⟨primary.sessionId, primary.systemBytes⟩, some c⟩
                  (.data ⟨⟨primary.sessionId, primary.stream, function, false,
                    primary.systemBytes⟩, reply⟩)).core.DrainEngaged := by
              unfold allocateWriteId at hnext
              split at hnext
              · cases hnext
              · obtain rfl := Option.some.inj hnext
                exact @engaged_sendReply (t.update fun core => { core with
                  replyContracts := core.replyContracts.erase capability }) hready.2 _ _ _ _ _
            cases intent with
            | abandon =>
              rw [if_pos rfl]
              exact Turn.engaged_progressDeselect _ now
            | abort =>
              rw [if_neg nofun, if_pos rfl]
              cases hnext : (t.update fun core => { core with
                replyContracts := core.replyContracts.erase capability }).core.allocateWriteId with
              | none => exact hexhausted
              | some allocated => exact hsend hnext ⟨0⟩ none
            | secondary =>
              rw [if_neg nofun, if_neg nofun]
              cases hsucc : ResponseContract.succFunction primary.function with
              | some function =>
                cases hnext : (t.update fun core => { core with
                  replyContracts := core.replyContracts.erase capability
                    }).core.allocateWriteId with
                | none => exact hexhausted
                | some allocated => exact hsend hnext function body
              | none =>
                have hfunction : primary.function.raw = 255 := by
                  unfold ResponseContract.succFunction at hsucc
                  by_contra hne
                  rw [if_neg hne] at hsucc
                  cases hsucc
                refine (Turn.keepsDrain_completeError _ c _).engaged fun hlive _ hdrain => ⟨?_, ?_⟩
                · intro hunselected
                  exact SessionState.noConfusion (Option.some.inj (hready.2.symm.trans hunselected))
                · exact hspent hdrain hlive primary hheld hfunction rfl

theorem engaged_onCommand (hengaged : core.DrainEngaged) (command : CoreCommand) (now : MonoTime) :
    (core.onCommand command now).core.DrainEngaged := by
  unfold onCommand
  dsimp only
  split
  · exact engaged_of_closing (Turn.endGeneration_closing _ .runtimeInvariant)
  · rcases (Turn.start (core.accept command.commandId command.kind.openKind)).acceptTime_cases
      now with
      ⟨-, heq⟩ | ⟨-, heq⟩
    · rw [heq]
      exact engaged_of_closing (Turn.endGeneration_closing _ .runtimeInvariant)
    · rw [heq]
      dsimp only
      generalize ht : ((Turn.start (core.accept command.commandId command.kind.openKind)).update
        fun core =>
        { core with lastNow := some now }) = t
      have hbase : t.core.DrainEngaged := ht ▸ hengaged
      have hrefused (error : OperationError) :
          (t.completeError command.commandId error).core.DrainEngaged :=
        (Turn.keepsDrain_completeError t _ error).engaged hbase
      split
      · exact hrefused _
      · split
        · exact hrefused _
        · split
          · exact hrefused _
          · rename_i hfree
            have hdrain : command.kind.isTransactional = true → t.core.deselectDrain = none := by
              intro hkind
              rw [hkind, Bool.and_true, Bool.not_eq_true, Option.isSome_eq_false_iff,
                Option.isNone_iff_eq_none] at hfree
              exact hfree
            split
            · exact Turn.engaged_startDeselect hbase _ _
            · rename_i hkind
              exact Turn.engaged_startSelect (hdrain (by rw [hkind]; rfl)) _
            · rename_i hkind
              exact Turn.engaged_startLinktest (hdrain (by rw [hkind]; rfl)) _
            · by_cases hselected : t.core.state = some .selected
              · exact engaged_of_closing (closing_startSeparate hselected _ _)
              · rw [startSeparate_refused hselected]
                exact hrefused _
            · exact Turn.engaged_startData hbase _ _ _
            · exact Turn.engaged_startData hbase _ _ _

theorem engaged_onMessage (hengaged : core.DrainEngaged) (message : ProtocolMessage)
    (now : MonoTime) :
    (core.onMessage message now).core.DrainEngaged := by
  unfold onMessage
  rcases (Turn.start { core with notice := none }).acceptTime_cases now with ⟨-, heq⟩ | ⟨-, heq⟩
  · rw [heq]
    exact engaged_of_closing (Turn.endGeneration_closing _ .runtimeInvariant)
  · rw [heq]
    dsimp only
    split
    · exact hengaged
    · split
      · rename_i hclosing
        exact engaged_of_closing hclosing
      · exact Turn.engaged_progressDeselect _ now

/-- The next WriteId has no write. -/
theorem writeKind_of_next (h : Coherent none core) {w : WriteId}
    (hnext : core.nextWriteId = some w.raw) :
    core.writeKind w = none := by
  refine Option.map_eq_none_iff.mpr (Option.eq_none_iff_forall_ne_some.mpr fun write hw => ?_)
  exact UInt64.lt_irrefl _ (h.write_used w write hw w.raw hnext)

theorem engaged_onInboundViolation (h : Coherent none core) (hengaged : core.DrainEngaged)
    (violation : InboundViolation) (now : MonoTime) :
    (core.onInboundViolation violation now).core.DrainEngaged := by
  unfold onInboundViolation
  rcases (Turn.start core).acceptTime_cases now with ⟨-, heq⟩ | ⟨-, heq⟩
  · rw [heq]
    exact engaged_of_closing (Turn.endGeneration_closing _ .runtimeInvariant)
  · rw [heq]
    dsimp only
    split
    · exact hengaged
    · split
      · exact (Turn.keepsDrain_sendResponse _ _ fun _ hnext =>
          writeKind_of_next h hnext).engaged hengaged
      · exact hengaged

/-- A released error was parked. -/
theorem deferred_of_released {write : PendingWrite} {outcome : WriteOutcome} {c : CommandId}
    {error : OperationError} (h : Turn.releasedError core write outcome = some (c, error)) :
    core.deferredErrors[c]? = some error := by
  unfold Turn.releasedError at h
  split at h
  · obtain ⟨parked, hparked, heq⟩ := Option.map_eq_some_iff.mp h
    obtain ⟨rfl, rfl⟩ := Prod.mk.inj heq
    exact hparked
  · obtain ⟨parked, hparked, heq⟩ := Option.map_eq_some_iff.mp h
    obtain ⟨rfl, rfl⟩ := Prod.mk.inj heq
    exact hparked
  · cases h

theorem engaged_onWriteOutcomeAt (h : Coherent none core) (w : WriteId) (outcome : WriteOutcome)
    (occurredAt now : MonoTime) :
    (core.onWriteOutcomeAt w outcome occurredAt now).core.DrainEngaged := by
  unfold onWriteOutcomeAt
  rcases (Turn.start core).acceptTime_cases now with ⟨-, heq⟩ | ⟨-, heq⟩
  · rw [heq]
    exact engaged_of_closing (Turn.endGeneration_closing _ .runtimeInvariant)
  · rw [heq]
    dsimp only
    split
    · exact engaged_of_closing (Turn.endGeneration_closing _ .runtimeInvariant)
    · split
      · exact engaged_of_closing (Turn.endGeneration_closing _ .runtimeInvariant)
      · rename_i write _
        generalize ht : (((Turn.start core).update fun core =>
          { core with lastNow := some now }).update
          fun core => { core with pendingWrites := core.pendingWrites.erase w }) = t
        have hclosing : t.core.closing = core.closing := by rw [← ht]; rfl
        have hdeferred : t.core.deferredErrors = core.deferredErrors := by rw [← ht]; rfl
        have hrecorded :
          (if outcome = .committed ∧ (!t.core.closing) = true then t.recordActivity occurredAt
            else t).core.closing = true ∨
          (if outcome = .committed ∧ (!t.core.closing) = true then t.recordActivity occurredAt
            else t).core.closing = core.closing ∧
          (if outcome = .committed ∧ (!t.core.closing) = true then t.recordActivity occurredAt
            else t).core.deferredErrors = core.deferredErrors := by
          split
          · rcases t.recordActivity_cases occurredAt with ⟨-, _, _, hrec⟩ | ⟨_, hrec⟩
            · rw [hrec]
              exact .inr ⟨hclosing, hdeferred⟩
            · rw [hrec]
              exact .inl (Turn.endGeneration_closing _ .runtimeInvariant)
          · exact .inr ⟨hclosing, hdeferred⟩
        generalize (if outcome = .committed ∧
          (!t.core.closing) = true then t.recordActivity occurredAt
          else t) = t' at hrecorded ⊢
        unfold Turn.settleWrite
        split
        · -- a parked error is only found in a closing Core
          rename_i c error hreleased
          refine (Turn.keepsDrain_completeError _ c error).engaged (engaged_of_closing ?_)
          rcases hrecorded with hclosed | ⟨hsame, hdeferred⟩
          · exact hclosed
          · refine hsame.trans (Bool.eq_true_of_not_eq_false fun hlive => ?_)
            have hparked := deferred_of_released hreleased
            rw [hdeferred, h.deferred_closing hlive c] at hparked
            cases hparked
        · exact Turn.engaged_expireDeadlines _ now

theorem engaged_finalizeWriter (h : Coherent none core) (now : MonoTime) :
    (core.finalizeWriter now).core.DrainEngaged := by
  cases hlive : core.closing with
  | true =>
    refine engaged_of_closing (Bool.eq_true_of_not_eq_false fun hafter => ?_)
    exact not_closing (@live_of_handle _ (.finalizeWriter now) h hafter) hlive
  | false =>
    unfold finalizeWriter
    rcases (Turn.start core).acceptTime_cases now with ⟨-, heq⟩ | ⟨-, heq⟩
    · rw [heq]
      exact engaged_of_closing (Turn.endGeneration_closing _ .runtimeInvariant)
    · rw [heq]
      dsimp only
      split
      · exact engaged_of_closing (Turn.endGeneration_closing _ .runtimeInvariant)
      · rename_i hopen
        exact absurd (show (!core.closing) = true by rw [hlive]; rfl) hopen

/-- **Every round that stalls no drain leaves a waiting drain something to wait for.**  The
rounds that do are named by their condition on the state and the input. -/
theorem engaged_handle (h : Coherent none core) (hengaged : core.DrainEngaged) {input : Input}
    (hstalls : ¬ core.StallsDrain input) : (core.handle input).core.DrainEngaged := by
  cases input with
  | connected now => exact engaged_onConnected h now
  | command command now => exact engaged_onCommand hengaged command now
  | message message now => exact engaged_onMessage hengaged message now
  | inboundViolation violation now => exact engaged_onInboundViolation h hengaged violation now
  | reply c capability intent body now => exact engaged_onReply hengaged hstalls
  | writeOutcome w outcome occurredAt now =>
    exact engaged_onWriteOutcomeAt h w outcome occurredAt now
  | shutdown reason failedWriteId now =>
    exact engaged_of_closing (closing_onShutdown reason failedWriteId now)
  | finishShutdownDrain reason now =>
    exact engaged_of_closing (closing_finishShutdownDrain reason now)
  | advanceTime now =>
    show (core.advanceTime now).core.DrainEngaged
    unfold advanceTime
    rcases (Turn.start core).acceptTime_cases now with ⟨-, heq⟩ | ⟨-, heq⟩
    · rw [heq]
      exact engaged_of_closing (Turn.endGeneration_closing _ .runtimeInvariant)
    · rw [heq]
      exact Turn.engaged_expireDeadlines _ now
  | finalizeWriter now => exact engaged_finalizeWriter h now

/-! ## Runs -/

/-- **A waiting drain makes progress**: the session is Selected and Data is in use, so that what
ends the use will look at the drain. -/
def DrainProgresses (core : SessionCore) : Prop :=
  core.closing = false → core.deselectDrain.isSome = true → core.state = some .selected ∧
    core.dataInUse = true

theorem engaged_iff (h : Coherent none core) : core.DrainEngaged ↔ core.DrainProgresses := by
  constructor
  · intro hengaged hlive hdrain
    have hsome := (h.drain_alone hlive hdrain).2
    obtain ⟨hselected, hinUse⟩ := hengaged hlive hsome hdrain
    rcases h.state_range with hnone | hunselected | hstate
    · rw [hnone] at hsome
      cases hsome
    · exact absurd hunselected hselected
    · exact ⟨hstate, hinUse⟩
  · intro hprogresses hlive _ hdrain
    obtain ⟨hstate, hinUse⟩ := hprogresses hlive hdrain
    refine ⟨fun hunselected => ?_, hinUse⟩
    exact SessionState.noConfusion (Option.some.inj (hstate.symm.trans hunselected))

/-- A round that stalls a drain leaves it waiting for nothing. -/
theorem stalled_handle (h : Coherent none core) (hprogresses : core.DrainProgresses) {input : Input}
    (hstalls : core.StallsDrain input) : ¬ (core.handle input).core.DrainProgresses := by
  obtain ⟨c, capability, body, now, header, rfl, hnew, haccepts, hlive, hdrain, hheld,
    hfunction, hquiet⟩ :=
    hstalls
  obtain ⟨hstate, -⟩ := hprogresses hlive hdrain
  have hidle : core.activeTransaction = none := (h.drain_alone hlive hdrain).1
  have hreply : (core.onReply c capability .secondary body now).core =
      (({ core.accept c .send with lastNow := some now } :
      SessionCore).eraseContract capability).detach c := by
    unfold onReply
    rw [hnew, if_neg Bool.false_ne_true]
    rcases (Turn.start (core.accept c (ReplyIntent.openKind .secondary))).acceptTime_cases now with
      ⟨hregresses, -⟩ | ⟨-, heq⟩
    · exact absurd haccepts hregresses
    · rw [heq]
      dsimp only
      have hready : ¬ (((Turn.start (core.accept c (ReplyIntent.openKind .secondary))).update
          fun core =>
          { core with lastNow := some now }).core.closing = true ∨
          ((Turn.start (core.accept c (ReplyIntent.openKind .secondary))).update fun core =>
            { core with lastNow := some now }).core.state ≠ some .selected) := by
        rintro (hclosing | hother)
        · exact not_closing hlive hclosing
        · exact hother hstate
      have hfree : ((Turn.start (core.accept c (ReplyIntent.openKind .secondary))).update
          fun core =>
          { core with lastNow := some now }).core.repliesBlocked = false := by
        refine repliesBlocked_eq_false_iff.mpr fun transaction hactive => ?_
        cases hidle.symm.trans hactive
      have hcontract : ((Turn.start (core.accept c (ReplyIntent.openKind .secondary))).update
          fun core =>
          { core with lastNow := some now }).core.replyContracts[capability]? = some header := hheld
      have hnone : ResponseContract.succFunction header.function = none := if_pos hfunction
      rw [if_neg hready, if_neg fun hblocked => Bool.false_ne_true (hfree.symm.trans hblocked.2),
        hcontract]
      dsimp only
      rw [if_neg nofun, if_neg nofun, hnone]
      dsimp only [Option.map_none]
      have hopen : ((((Turn.start (core.accept c (ReplyIntent.openKind .secondary))).update
          fun core =>
          { core with lastNow := some now })).update fun core => { core with
            replyContracts := core.replyContracts.erase capability }).core.openCommands[c]? =
              some .send :=
        openCommands_accept_self _ _
      rw [Turn.completeError_of_open hopen]
      rfl
  have hafter : (core.handle (.reply c capability .secondary body now)).core = _ := hreply
  intro hstill
  rw [hafter] at hstill
  have hinUse : (core.eraseContract capability).dataInUse = true :=
    dataInUse_of_detach (hstill hlive hdrain).2
  exact Bool.false_ne_true (hquiet.symm.trans hinUse)

end SessionCore

/-- **A waiting Deselect never stalls**, in a run exactly if no Secondary reply to an F255 Primary
spends the last thing that it waits for. -/
theorem deselect_drain_progresses (config : SessionCoreConfig) (nextWriteId : Option UInt64)
    (nextSystemBytes : Option UInt32) (inputs : List Input) :
    (∀ earlier later, inputs = earlier ++ later →
      (machine.after (SessionCore.initial config nextWriteId nextSystemBytes)
        earlier).DrainProgresses) ↔
    machine.Along (fun core input => ¬ core.StallsDrain input)
      (SessionCore.initial config nextWriteId nextSystemBytes) inputs := by
  have hstart : (SessionCore.initial config nextWriteId nextSystemBytes).DrainProgresses := by
    rintro - ⟨⟩
  have hcoherent := coherent_initial config nextWriteId nextSystemBytes
  generalize SessionCore.initial config nextWriteId nextSystemBytes = core at hstart hcoherent
  induction inputs generalizing core with
  | nil =>
    refine ⟨fun _ => trivial, fun _ earlier later hsplit => ?_⟩
    rw [(List.append_eq_nil_iff.mp hsplit.symm).1]
    exact hstart
  | cons input inputs ih =>
    constructor
    · intro hall
      have hnext : (core.handle input).core.DrainProgresses := hall [input] inputs rfl
      refine ⟨fun hstalls => stalled_handle hcoherent hstart hstalls hnext, ?_⟩
      refine (ih (core.handle input).core hnext (hcoherent.handle input)).mp
        fun earlier later hsplit => ?_
      exact hall (input :: earlier) later (congrArg (List.cons input) hsplit)
    · rintro ⟨hstalls, halong⟩ earlier later hsplit
      cases earlier with
      | nil => exact hstart
      | cons first earlier =>
        obtain ⟨rfl, hrest⟩ := List.cons.inj hsplit
        have hnext : (core.handle input).core.DrainProgresses :=
          (engaged_iff (hcoherent.handle input)).mp
            (engaged_handle hcoherent ((engaged_iff hcoherent).mpr hstart) hstalls)
        exact (ih (core.handle input).core hnext (hcoherent.handle input)).mpr halong earlier later
          hrest

/-- The peer sends an F255 Primary, a local Deselect waits for its reply, and the reply is refused.
-/
def Scenario.refusedReply : List Input :=
  Scenario.selected ++ [.message (.data (Scenario.primary 255 true 42)) .zero,
    .command ⟨⟨1⟩, .deselect⟩ .zero, .reply ⟨2⟩ ⟨0⟩ .secondary none .zero]

theorem refused_reply_stalls_drain :
    ¬ (machine.after (SessionCore.new Scenario.config) Scenario.refusedReply).DrainProgresses := by
  intro h
  have hinUse := (h (by decide) (by decide)).2
  revert hinUse
  decide

end Hsms
end SecsRust

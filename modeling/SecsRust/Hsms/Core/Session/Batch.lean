import SecsRust.Hsms.Core.Session.Accounting
import SecsRust.Hsms.Core.Session.Closing
import SecsRust.Hsms.Core.Session.Writes

/-!
# What the owner of a Core can rely on

The Driver applies a batch of actions one after the other, and may fail in the middle of
it.  What it can rely on while it does so are facts about a single batch: how it can close
the generation (`ClosesOnce`, `closesOnce_handle`), that a batch of a terminal call closes
at most at once (`terminal_closes`), and that only a command or a reply opens a command
(`SessionCore.openCommands_handle`).  No run is needed for them, and time additions may
overflow.

A terminal call is one that the Driver makes only to end the generation: a shutdown, or the
end of the Writer.  Its batch may complete many commands before it closes, and it must not
install a barrier, since the Driver that makes it has given up waiting.  `Turn.ClosesAtOnce`
is the property of a Turn that keeps this through the functions which end a generation, and
the lemmas go through these functions as the source calls them.
-/

namespace SecsRust
namespace Hsms

open Std SessionCore

/-! ## Closes in a batch -/

/-- **The closes of one batch.**  A batch with a close leaves the Core closing; a closing Core
announces no further close unless a write has failed its admission, and then too a batch announces
at most one. -/
structure ClosesOnce (core : SessionCore) (fails : Prop) (actions : List CoreAction)
    (after : SessionCore) : Prop where
  closed : ∀ a ∈ actions, a.isClose = true → after.closing = true
  kept : core.closing = true → after.closing = true
  silent : core.closing = true → ¬ fails → ∀ a ∈ actions, a.isClose = false
  single : ¬ fails → actions.Pairwise fun a b => a.isClose = true → b.isClose = false

theorem ClosesOnce.step {core before after : SessionCore} {fails : Prop}
    {past actions : List CoreAction} (h : ClosesOnce core fails past before)
    (hmono : before.closing = true → after.closing = true)
    (hstep : (∀ a ∈ actions, a.isClose = false) ∨
      (after.closing = true ∧ (before.closing = false ∧ (actions.Pairwise fun a b =>
        a.isClose = true → b.isClose = false) ∨ fails))) :
    ClosesOnce core fails (past ++ actions) after := by
  have hpast : before.closing = false → ∀ a ∈ past, a.isClose = false := by
    intro hlive a ha
    refine Bool.eq_false_of_not_eq_true fun hclose => ?_
    rw [h.closed a ha hclose] at hlive
    cases hlive
  refine ⟨fun a ha hclose => ?_, fun hclosing => hmono (h.kept hclosing),
    fun hclosing hfails a ha => ?_, fun hfails => ?_⟩
  · rcases List.mem_append.mp ha with ha | ha
    · exact hmono (h.closed a ha hclose)
    · rcases hstep with hquiet | ⟨hafter, -⟩
      · rw [hquiet a ha] at hclose
        cases hclose
      · exact hafter
  · rcases List.mem_append.mp ha with ha | ha
    · exact h.silent hclosing hfails a ha
    · rcases hstep with hquiet | ⟨-, ⟨hlive, -⟩ | hfailed⟩
      · exact hquiet a ha
      · rw [h.kept hclosing] at hlive
        cases hlive
      · exact absurd hfailed hfails
  · rcases hstep with hquiet | ⟨-, ⟨hlive, hpair⟩ | hfailed⟩
    · exact List.pairwise_append.mpr ⟨h.single hfails,
        List.pairwise_of_forall_mem_list fun _ _ b hb _ => hquiet b hb,
        fun _ _ b hb _ => hquiet b hb⟩
    · refine List.pairwise_append.mpr ⟨h.single hfails, hpair, fun a ha _ _ hclose => ?_⟩
      rw [hpast hlive a ha] at hclose
      cases hclose
    · exact absurd hfailed hfails

theorem closesOnce_handle {core : SessionCore} (hc : Coherent none core) (input : Input) :
    ClosesOnce core (core.FailsAdmission input) (core.handle input).actions
      (core.handle input).core := by
  have hentry : (core.entry input).core.closing = core.closing := by rw [entry_frame]
  have hround := (steps_handle hc input).accumulates_nil
    (I := fun past stage => Coherent stage.fresh stage.core ∧
      ClosesOnce core (core.FailsAdmission input) past stage.core)
    (fun past stage actions stage' hI he => by
      refine ⟨he.coherent hI.1, hI.2.step he.closing_mono ?_⟩
      rcases he.closingStep_or_late hI.1 with hstep | ⟨-, -, hquiet⟩
      · cases hstep with
        | stays _ _ silent => exact Or.inl silent
        | closes live closed completions close _ last silent =>
          subst last
          refine Or.inr ⟨closed, Or.inl ⟨live, List.pairwise_append.mpr ⟨?_,
            List.pairwise_singleton _ _, fun a ha _ _ hclose => ?_⟩⟩⟩
          · exact List.pairwise_of_forall_mem_list fun _ _ b hb _ => silent b hb
          · rw [silent a ha] at hclose
            cases hclose
        | final _ closed _ silent =>
          rcases silent with hfailed | hquiet
          · exact Or.inr ⟨closed, Or.inr hfailed⟩
          · exact Or.inl hquiet
      · exact Or.inl hquiet)
    ⟨hc.entry input, fun _ ha => absurd ha List.not_mem_nil, fun hclosing => hentry.trans hclosing,
      fun _ _ _ ha => absurd ha List.not_mem_nil, fun _ => .nil⟩
  exact hround.2

/-- A Core that closes in a round announces it there. -/
theorem announced_handle {core : SessionCore} (hc : Coherent none core) {input : Input}
    (hafter : (core.handle input).core.closing = true) :
    core.closing = true ∨ ∃ a ∈ (core.handle input).actions, a.isClose = true := by
  have hround := (steps_handle hc input).accumulates_nil
    (I := fun past stage => Coherent stage.fresh stage.core ∧ (stage.core.closing = true →
      core.closing = true ∨ ∃ a ∈ past, a.isClose = true))
    (fun past stage actions stage' hI he => by
      have hearlier : stage.core.closing = true →
          core.closing = true ∨ ∃ a ∈ past ++ actions, a.isClose = true := fun hclosing =>
        (hI.2 hclosing).imp_right fun ⟨a, ha, hclose⟩ => ⟨a, List.mem_append_left _ ha, hclose⟩
      refine ⟨he.coherent hI.1, fun hclosing => ?_⟩
      rcases he.closingStep_or_late hI.1 with hstep | ⟨-, hlate, -⟩
      · cases hstep with
        | stays _ still _ =>
          rw [still] at hclosing
          cases hclosing
        | closes _ _ completions close announced last _ =>
          refine Or.inr ⟨close, List.mem_append_right _ ?_, announced⟩
          rw [last]
          exact List.mem_append_right _ (List.mem_singleton_self _)
        | final before _ _ _ => exact hearlier before
      · exact hearlier hlate)
    ⟨hc.entry input, fun hclosing => Or.inl (by rwa [entry_frame] at hclosing)⟩
  exact hround.2 hafter

/-! ## Terminal inputs -/

/-- Every close pushed so far takes effect at once. -/
def Turn.ClosesAtOnce (t : Turn) : Prop :=
  ∀ reason barrier, CoreAction.closeGeneration reason barrier ∈ t.actions → barrier = .immediate

namespace Turn.ClosesAtOnce

variable {t t' : Turn}

theorem append {actions : List CoreAction} (h : t.ClosesAtOnce)
    (hactions : t'.actions = t.actions ++ actions)
    (hquiet : ∀ reason barrier, CoreAction.closeGeneration reason barrier ∈ actions →
      barrier = .immediate) : t'.ClosesAtOnce := by
  intro reason barrier hmem
  rw [hactions] at hmem
  rcases List.mem_append.mp hmem with hmem | hmem
  · exact h reason barrier hmem
  · exact hquiet reason barrier hmem

theorem completions {actions : List CoreAction} (h : t.ClosesAtOnce)
    (hactions : t'.actions = t.actions ++ actions)
    (hcompletions : ∀ a ∈ actions, a.isCompletion = true) : t'.ClosesAtOnce :=
  h.append hactions fun _ _ hmem => nomatch hcompletions _ hmem

theorem completeAll (h : t.ClosesAtOnce) : (t.completeAll .connectionLost).ClosesAtOnce :=
  h.completions t.completeAll_actions fun _ ha => SessionCore.isCompletion_of_mem_loss ha

theorem endGeneration (h : t.ClosesAtOnce) (reason : GenerationCloseReason) :
    (t.endGeneration reason).ClosesAtOnce := by
  refine h.append (t.endGeneration_actions reason) fun reason' barrier hmem => ?_
  rcases List.mem_append.mp hmem with hmem | hmem
  · exact nomatch SessionCore.isCompletion_of_mem_loss hmem
  · split at hmem
    · cases hmem
    · cases List.mem_singleton.mp hmem
      rfl

theorem completeError (h : t.ClosesAtOnce) (commandId : CommandId) (error : OperationError) :
    (t.completeError commandId error).ClosesAtOnce := by
  unfold Turn.completeError
  split
  · exact h.endGeneration _
  · unfold emitCompletion
    split
    · exact h.completions rfl fun a ha => by rw [List.mem_singleton.mp ha]; rfl
    · exact h.endGeneration _

end Turn.ClosesAtOnce

/-- The input ends the generation whatever else is going on. -/
def Input.isTerminal : Input → Bool
  | .shutdown .. | .finalizeWriter _ => true
  | _ => false

namespace SessionCore

variable {core : SessionCore}

theorem start_closesAtOnce : (Turn.start core).ClosesAtOnce := fun _ _ hmem => nomatch hmem

/-- `on_shutdown` closes at once. -/
theorem onShutdown_closes (reason : GenerationCloseReason) (failedWriteId : Option WriteId)
    (now : MonoTime) : (core.onShutdown reason failedWriteId now).ClosesAtOnce ∧
      (core.onShutdown reason failedWriteId now).core.closing = true := by
  have hend : ∀ t : Turn, t.ClosesAtOnce → ∀ reason, (t.endGeneration reason).ClosesAtOnce ∧
      (t.endGeneration reason).core.closing = true :=
    fun t h reason => ⟨h.endGeneration reason, t.endGeneration_closing reason⟩
  unfold onShutdown
  rcases (Turn.start core).acceptTime_cases now with ⟨-, heq⟩ | ⟨-, heq⟩
  · rw [heq]
    exact hend _ start_closesAtOnce _
  · rw [heq]
    dsimp only
    cases failedWriteId with
    | none => exact hend _ start_closesAtOnce _
    | some writeId =>
      dsimp only
      split
      · exact hend _ start_closesAtOnce _
      · rename_i write hwrite
        refine ⟨?_, rfl⟩
        refine Turn.ClosesAtOnce.append (Turn.ClosesAtOnce.completeAll ?_) rfl fun _ _ hmem => ?_
        · split
          · exact Turn.ClosesAtOnce.completeError start_closesAtOnce _ _
          · exact start_closesAtOnce
        · cases List.mem_singleton.mp hmem
          rfl

/-- A terminal input closes, and at once. -/
theorem terminal_closes (h : Coherent none core) {input : Input}
    (hterminal : input.isTerminal = true) :
    (core.handle input).ClosesAtOnce ∧ (core.handle input).core.closing = true := by
  cases input with
  | shutdown reason failedWriteId now => exact onShutdown_closes reason failedWriteId now
  | finalizeWriter now =>
    show (core.finalizeWriter now).ClosesAtOnce ∧ (core.finalizeWriter now).core.closing = true
    cases hclosing : core.closing with
    | false =>
      unfold finalizeWriter
      rcases (Turn.start core).acceptTime_cases now with ⟨-, heq⟩ | ⟨-, heq⟩
      · rw [heq]
        exact ⟨start_closesAtOnce.endGeneration _, Turn.endGeneration_closing _ _⟩
      · rw [heq]
        dsimp only
        split_ifs with hlive
        · exact ⟨Turn.ClosesAtOnce.endGeneration start_closesAtOnce _,
            Turn.endGeneration_closing _ _⟩
        · exact absurd (show (!core.closing) = true by rw [hclosing]; rfl) hlive
    | true =>
      have honce := closesOnce_handle h (.finalizeWriter now)
      refine ⟨fun _ _ hmem => ?_, honce.kept hclosing⟩
      exact nomatch honce.silent hclosing (not_failsAdmission rfl) _ hmem
  | _ => cases hterminal

end SessionCore

/-! ## Time -/

/-- An effect leaves the last accepted time or moves it to that of the input. -/
theorem Effect.lastNow {origin : SessionCore} {input : Input} {stage stage' : Stage}
    {actions : List CoreAction} (he : Effect origin input stage actions stage') :
    stage'.core.lastNow = stage.core.lastNow ∨ stage'.core.lastNow = some input.now := by
  cases he with
  | tick _ => exact Or.inr rfl
  | @ended s pre s' _ _ _ reason frame _ _ done =>
    refine Or.inl ?_
    have hpre : pre.lastNow = s.lastNow := by rw [frame]
    dsimp only
    rw [done.frame]
    exact hpre
  | @lostWrite s pre s' _ _ _ _ _ _ _ _ _ live frame done =>
    refine Or.inl ?_
    have hpre : pre.lastNow = s.lastNow := by
      rw [frame]
      rfl
    dsimp only
    rw [done.frame]
    exact hpre
  | admissionClosed _ _ _ _ done | loseCommands _ _ done | abandonWrites _ _ done =>
    refine Or.inl ?_
    dsimp only
    rw [done.frame]
  | separate _ _ _ _ _ _ _ done =>
    refine Or.inl ?_
    show (SessionCore.trackWrite _ _ _).lastNow = _
    unfold SessionCore.trackWrite SessionCore.takeSystemBytes
    dsimp only
    rw [done.frame]
  | peerSeparate _ _ _ _ done =>
    refine Or.inl ?_
    dsimp only
    rw [done.frame]
  | retireControl _ _ _ =>
    refine Or.inl ?_
    dsimp only
    rw [release_frame]
  | failWrite _ _ _ =>
    refine Or.inl ?_
    dsimp only
    rw [release_frame, removeTransactionForWrite_frame]
    rfl
  | observe _ _ _ | lateAnnounce _ | lateControl _ _ _ _ | connect _ _ _ _ _
  | selected _ _ _ | deselected _ _ _ _ _ _ | respond _ _ _ _ _ _ | refuse _ _ _
  | startDrain _ _ _ _ _ _ _ | endDrain _ _ _ | startControl _ _ _ _ _ _ _ _ _ _
  | startDeselection _ _ _ _ _ | sendRequest _ _ _ _ _ _ _ _ _
  | sendPrimary _ _ _ _ _ _ _ _ _ | retireRequest _ _ _ | rejectSend _ _ _ _ _ _
  | deliver _ _ _ _ _ _ _ _ _ | deliverOneWay _ _ _ _ _ _ | spendContract _ _ _ _ _ _
  | sendReply _ _ _ _ _ _ _ | commitControl _ _ _ _ _ | commitRequest _ _ _ _ _
  | commitCommand _ _ _ _ | commitSilently _ _ _ => exact Or.inl rfl

/-- A Core that accepts the time of an input still accepts it afterwards. -/
theorem SessionCore.acceptsTime_handle {core : SessionCore} (hc : Coherent none core)
    {input : Input}
    (haccepts : core.AcceptsTime input.now) : (core.handle input).core.AcceptsTime input.now := by
  refine (steps_handle hc input).preserves (I := fun stage => stage.core.AcceptsTime input.now)
    (fun stage _ stage' hI he last hlast => ?_) ?_
  · rcases he.lastNow with hsame | hnow
    · exact hI last (hsame.symm.trans hlast)
    · rw [hnow] at hlast
      exact (Option.some.inj hlast).ge
  · intro last hlast
    rw [entry_frame] at hlast
    exact haccepts last hlast

/-! ## Open commands -/

theorem not_opened_mem_entries {actions : List CoreAction} {c : CommandId}
    {kind : OpenCommandKind} :
    LedgerEntry.opened c kind ∉ actions.filterMap CoreAction.entry := by
  intro hmem
  obtain ⟨a, -, ha⟩ := List.mem_filterMap.mp hmem
  cases a <;> cases ha

/-- **Only a command or a reply opens a command**, and only its own.  Everything that is open
after another round was open before it. -/
theorem SessionCore.openCommands_handle {core : SessionCore} (hc : Coherent none core)
    {input : Input}
    {c : CommandId} (hother : ∀ kind, core.accepted input ≠ some (c, kind))
    (hafter : (core.handle input).core.openCommands.contains c = true) :
    core.openCommands.contains c = true := by
  obtain ⟨kind, hkind⟩ := TreeMap.contains_iff.mp hafter
  have hrun := ledger_of_steps (steps_handle hc input) (hc.entry input)
  have hentry := hrun.of_settled (fun _ _ => not_opened_mem_entries) hkind
  refine TreeMap.contains_iff.mpr ⟨kind, ?_⟩
  have hopen : (core.entry input).core.openCommands[c]? = some kind := hentry
  unfold entry at hopen
  cases haccepted : core.accepted input with
  | none =>
    rw [haccepted] at hopen
    exact hopen
  | some accepted =>
    rw [haccepted] at hopen
    have hlook : (core.openCommands.insert accepted.1 accepted.2)[c]? = some kind := hopen
    rw [TreeMap.getElem?_insert, if_neg fun hc =>
      hother accepted.2 (by rw [haccepted, ← hc])] at hlook
    exact hlook

end Hsms
end SecsRust

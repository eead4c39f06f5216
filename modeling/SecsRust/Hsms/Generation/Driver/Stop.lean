import SecsRust.Hsms.Generation.Driver.Sound

/-!
# What a stopped Writer leaves

`on_writer_stopped` is the last call of every Driver.  It finalizes Core, which then owns no
command, and drains: so nothing is queued, no endpoint is left in the completion table, no
write is awaited, and the transport is closed (`Round.onWriterStopped_settles`).  A Driver
that has been through this call can be dropped, and nobody is left waiting.

The statement needs the right hypotheses.  A Driver that has not closed yet shuts Core down
first, and a Core whose time has gone back refuses that call, so the time of the call has to
be one that Core accepts. `acceptsTime_onShutdown` and its siblings carry this condition
through the functions on the way.

The rest of the file are frames: for every part of the operation, what it leaves as it is.
The drain does not touch Core (`drainAcceptedCommands_frame`); applying a batch does not
either (`core_applyBatch`), since what a batch does to Core has been done before it is
applied; and the orphans that the drain settles are exactly the endpoints whose commands
Core does not own.
-/

namespace SecsRust
namespace Hsms

open Std SessionDriver

universe u v

variable {W : Type u} {κ : Type v}

namespace Round

variable {admits : Bool} {r r' : Round W κ} {now : MonoTime}

theorem core_beginClosing (r : Round W κ) (reason : GenerationCloseReason)
    (barrier : CloseBarrier) :
    (r.beginClosing reason barrier).driver.core = r.driver.core := by
  rw [beginClosing_eq]
  rfl

/-! ## The drain -/

theorem settleOrphan_frame (r : Round W κ) (c : CommandId) : (r.settleOrphan c).driver =
    { r.driver with completions := r.driver.completions.erase c } := by
  unfold settleOrphan
  cases hheld : r.driver.completions[c]? with
  | some entry => rfl
  | none =>
    have herase : r.driver.completions.erase c = r.driver.completions := by
      refine ExtTreeMap.ext_getElem? fun c' => ?_
      rw [TreeMap.getElem?_erase]
      split_ifs with hc
      · rw [← hc, hheld]
      · rfl
    rw [herase]

/-- The orphans are gone from the table, and nothing else has changed. -/
theorem foldl_settleOrphan_frame (commandIds : List CommandId) (r : Round W κ) :
    (commandIds.foldl settleOrphan r).driver =
      { r.driver with completions := (commandIds.foldl settleOrphan r).driver.completions } ∧
    ∀ c : CommandId, (commandIds.foldl settleOrphan r).driver.completions[c]? =
      if c ∈ commandIds then none else r.driver.completions[c]? := by
  induction commandIds generalizing r with
  | nil => exact ⟨rfl, fun c => by rw [if_neg List.not_mem_nil]; rfl⟩
  | cons id commandIds ih =>
    obtain ⟨hframe, hlook⟩ := ih (r.settleOrphan id)
    rw [List.foldl_cons]
    refine ⟨?_, fun c => ?_⟩
    · rw [hframe]
      dsimp only
      rw [settleOrphan_frame]
    · rw [hlook, settleOrphan_frame]
      dsimp only
      rw [TreeMap.getElem?_erase]
      by_cases hid : id = c
      · rw [if_pos hid, if_pos (List.mem_cons.mpr (Or.inl hid.symm)), ite_self]
      · have hmem : c ∈ id :: commandIds ↔ c ∈ commandIds :=
          ⟨fun h => (List.mem_cons.mp h).resolve_left fun h => hid h.symm, List.mem_cons_of_mem _⟩
        simp only [if_neg hid, hmem]

/-- The FIFO is empty, and nothing but its bytes has changed with it. -/
theorem foldl_drainCommand_frame {commands : List (AcceptedCommand κ)} (r : Round W κ)
    (h : r.driver.acceptedCommands = commands) : (commands.foldl drainCommand r).driver =
      { r.driver with
        acceptedCommands := []
        commandBytes := (commands.foldl drainCommand r).driver.commandBytes } := by
  induction commands generalizing r with
  | nil =>
    rw [List.foldl_nil, ← h]
  | cons accepted rest ih =>
    have hdrain : (r.drainCommand accepted).driver = r.driver.dequeue accepted := by
      unfold drainCommand
      rw [popCommand_eq]
      rfl
    have htail : (r.drainCommand accepted).driver.acceptedCommands = rest := by
      rw [hdrain]
      exact congrArg List.tail h
    rw [List.foldl_cons, ih _ htail, hdrain]
    rfl

/-- **What the drain leaves**: an empty FIFO, and of the table only what Core owns.  It calls
nobody, so Core and the Writer are as they were. -/
theorem drainAcceptedCommands_frame (r : Round W κ) : r.drainAcceptedCommands.driver =
    { r.driver with
      completions := r.drainAcceptedCommands.driver.completions
      acceptedCommands := []
      commandBytes := r.drainAcceptedCommands.driver.commandBytes } ∧
    ∀ c : CommandId, r.drainAcceptedCommands.driver.completions[c]? =
      if r.driver.core.ownsCommand c then r.driver.completions[c]? else none := by
  obtain ⟨hframe, hlook⟩ := foldl_settleOrphan_frame r.driver.orphaned r
  have hdrain := foldl_drainCommand_frame (r.driver.orphaned.foldl settleOrphan r) rfl
  unfold drainAcceptedCommands
  dsimp only
  refine ⟨?_, fun c => ?_⟩
  · rw [hdrain]
    dsimp only
    rw [hframe]
  · rw [hdrain]
    dsimp only
    rw [hlook]
    unfold orphaned
    cases howned : r.driver.core.ownsCommand c with
    | true => rw [if_neg fun hmem => by simp [howned] at hmem, if_pos rfl]
    | false =>
      rw [if_neg Bool.false_ne_true]
      split_ifs with hmem
      · rfl
      · cases hheld : r.driver.completions[c]? with
        | none => rfl
        | some entry =>
          refine absurd (List.mem_filter.mpr ⟨?_, by rw [howned]; rfl⟩) hmem
          exact TreeMap.mem_keys.mpr ⟨entry, hheld⟩

/-- What `finish_close_if_ready` leaves as it is. -/
theorem finishCloseIfReady_frame (r : Round W κ) : r.finishCloseIfReady.driver =
    { r.driver with
      completions := r.finishCloseIfReady.driver.completions
      acceptedCommands := r.finishCloseIfReady.driver.acceptedCommands
      commandBytes := r.finishCloseIfReady.driver.commandBytes
      transportClosed := r.finishCloseIfReady.driver.transportClosed } := by
  unfold finishCloseIfReady
  split
  · split_ifs
    · rfl
    · rw [(drainAcceptedCommands_frame _).1]
      rfl
  · rfl

/-- A close without a barrier is finished at once. -/
theorem transportClosed_finishCloseIfReady {reason : GenerationCloseReason}
    (h : r.driver.closing = some ⟨reason, none⟩) :
    r.finishCloseIfReady.driver.transportClosed = true := by
  unfold finishCloseIfReady
  rw [h]
  dsimp only
  split_ifs with hclosed
  · exact hclosed
  · rw [(drainAcceptedCommands_frame _).1]
    rfl

/-! ## Core under a batch -/

variable [WriterIngress W]

theorem core_applyAction (permit : Option (WriterIngress.DataPermit W)) (action : CoreAction) :
    (r.applyAction permit action).1.driver.core = r.driver.core := by
  have hrecord : ∀ (r : Round W κ) (frame : OutboundFrame),
      (r.recordAdmission frame).1.driver.core = r.driver.core := by
    intro r frame
    unfold recordAdmission
    dsimp only
    split_ifs
    · rfl
    · rfl
  cases action with
  | deliverPrimary message capability =>
    unfold applyAction
    dsimp only
    split_ifs
    · rfl
    · rfl
  | sendFrame writeId message =>
    unfold applyAction sendFrame
    dsimp only
    split
    · split
      · rfl
      · exact hrecord _ _
    · split
      · rfl
      · split
        · rfl
        · exact hrecord _ _
  | sessionStateChanged state => rfl
  | completeCommand commandId result =>
    unfold applyAction completeCommand
    dsimp only
    split
    · rfl
    · split
      · rfl
      · rfl
  | closeGeneration reason barrier => exact core_beginClosing r reason barrier

theorem core_applyEach (permit : Option (WriterIngress.DataPermit W)) (actions : List CoreAction) :
    (r.applyEach permit actions).1.driver.core = r.driver.core := by
  induction actions generalizing r permit with
  | nil => rfl
  | cons action actions ih =>
    have hcore := core_applyAction (r := r) permit action
    unfold applyEach
    split
    · rename_i happly
      rw [happly] at hcore
      exact hcore
    · rename_i r₁ permit₁ happly
      rw [happly] at hcore
      exact (ih permit₁).trans hcore

/-- Applying a batch is nothing to Core. -/
theorem core_applyActionBatch (permit : Option (WriterIngress.DataPermit W))
    (actions : List CoreAction) :
    (r.applyActionBatch actions permit).1.driver.core = r.driver.core := by
  have hcore := core_applyEach (r := r) permit actions
  unfold applyActionBatch
  split
  · rename_i happly
    rw [happly] at hcore
    exact hcore
  · rename_i happly
    rw [happly] at hcore
    split
    · exact hcore
    · exact hcore

/-- A batch and the handling of its failure leave Core alone or shut it down. -/
theorem core_applyBatch (permit : Option (WriterIngress.DataPermit W)) (actions : List CoreAction)
    (now : MonoTime) (firstReason : Option GenerationCloseReason) :
    (r.applyBatch actions permit now firstReason).driver.core = r.driver.core ∨
      ∃ reason failedWriteId, (r.applyBatch actions permit now firstReason).driver.core =
        (r.driver.core.handle (.shutdown reason failedWriteId now)).core := by
  have hcore := core_applyActionBatch (r := r) permit actions
  unfold applyBatch
  split
  · rename_i happly
    rw [happly] at hcore
    exact Or.inl hcore
  · rename_i r₁ failure happly
    rw [happly] at hcore
    refine Or.inr ⟨firstReason.getD failure.shutdown.1, failure.shutdown.2, ?_⟩
    rw [← hcore]
    unfold handleActionFailureWithReason shutdownAfterDriverFailure
    dsimp only
    rw [core_beginClosing]
    split_ifs
    · rw [core_beginClosing, core_applyActionBatch]
      rfl
    · rw [core_applyActionBatch]
      rfl

/-- A call of Core at a time that Core accepts, with its batch, leaves Core accepting that time. -/
theorem acceptsTime_batch {core : SessionCore} (hcoherent : Coherent none core) {input : Input}
    (haccepts : core.AcceptsTime input.now) (hcore : r.driver.core = (core.handle input).core)
    (actions : List CoreAction) : (r.applyActionsWithoutFinishingClose actions
      input.now).driver.core.AcceptsTime input.now := by
  have hafter := SessionCore.acceptsTime_handle hcoherent haccepts
  rcases core_applyBatch (r := r) none actions input.now none with hsame | ⟨reason, failed, hshut⟩
  · unfold applyActionsWithoutFinishingClose
    rw [hsame, hcore]
    exact hafter
  · unfold applyActionsWithoutFinishingClose
    rw [hshut, hcore]
    have hagain : ((core.handle input).core.handle
        (.shutdown reason failed input.now)).core.AcceptsTime
        (Input.shutdown reason failed input.now).now :=
      SessionCore.acceptsTime_handle (hcoherent.handle input) hafter
    exact hagain

omit [WriterIngress W] in
theorem core_finishCloseIfReady (r : Round W κ) :
    r.finishCloseIfReady.driver.core = r.driver.core := by
  rw [finishCloseIfReady_frame]

/-- A shutdown closes the Driver. -/
theorem closing_onShutdown (reason : GenerationCloseReason) (failedWriteId : Option WriteId) :
    (r.onShutdown reason failedWriteId now).driver.closing.isSome = true := by
  unfold onShutdown
  dsimp only
  rw [finishCloseIfReady_frame]
  exact closing_beginClosing _ _ _

/-- A shutdown at a time that Core accepts leaves Core accepting that time. -/
theorem acceptsTime_onShutdown (hcoherent : Coherent none r.driver.core)
    (haccepts : r.driver.core.AcceptsTime now) (reason : GenerationCloseReason)
    (failedWriteId : Option WriteId) :
    (r.onShutdown reason failedWriteId now).driver.core.AcceptsTime now := by
  unfold onShutdown
  dsimp only
  rw [core_finishCloseIfReady, core_beginClosing]
  have haccepts : r.driver.core.AcceptsTime (Input.shutdown reason failedWriteId now).now :=
    haccepts
  exact acceptsTime_batch hcoherent haccepts rfl _

/-- A shutdown of a Core without a command leaves it so. -/
theorem openCommands_terminal {core : SessionCore} (hcoherent : Coherent none core)
    (hopen : core.openCommands = ∅) (reason : GenerationCloseReason)
    (failedWriteId : Option WriteId)
    (now : MonoTime) : (core.handle
      (.shutdown reason failedWriteId now)).core.openCommands = ∅ := by
  refine TreeMap.eq_empty_iff.mpr fun c => TreeMap.contains_eq_false_iff.mp ?_
  refine Bool.eq_false_of_not_eq_true fun hafter => ?_
  have hbefore := SessionCore.openCommands_handle hcoherent
    (fun kind haccepted => Option.some_ne_none _ haccepted.symm) hafter
  rw [hopen, TreeMap.contains_eq_false_iff.mpr ExtTreeMap.getElem?_empty] at hbefore
  cases hbefore

/-- What is sound stays so through the steps of an operation. -/
theorem Leads.sound {o o' : Option (SessionCore × Input)} {p p' : List CoreAction}
    (h : Leads admits r o p r' o' p') (hsound : Sound ⟨r.driver, o, p⟩) :
    Sound ⟨r'.driver, o', p'⟩ := by
  obtain ⟨effects, -, hsteps⟩ := h
  exact hsteps.preserves (fun _ _ _ hI hstep => hI.step hstep) hsound

/-- The finalization of a closing Core, with its batch, leaves Core without a command. -/
theorem openCommands_finalize (hcoherent : Coherent none r.driver.core)
    (hclosing : r.driver.core.closing = true) (haccepts : r.driver.core.AcceptsTime now) :
    ((r.callCore (.finalizeWriter now)).1.applyActionsWithoutFinishingClose
      (r.callCore (.finalizeWriter now)).2 now).driver.core.openCommands = ∅ := by
  have hempty := (finalizeWriter_settles hcoherent hclosing haccepts).1
  rcases core_applyBatch (r := (r.callCore (.finalizeWriter now)).1) none
    (r.callCore (.finalizeWriter now)).2 now none with hsame | ⟨reason, failed, hshut⟩
  · unfold applyActionsWithoutFinishingClose
    rw [hsame]
    exact hempty
  · unfold applyActionsWithoutFinishingClose
    rw [hshut]
    exact openCommands_terminal (hcoherent.handle _) hempty reason failed now

/-- **What `on_writer_stopped` leaves.**  The transport is closed; and at a time that Core accepts
nothing is queued, no endpoint is left and no write is awaited. -/
theorem onWriterStopped_settles (hsound : Sound ⟨r.driver, none, []⟩) :
    (r.onWriterStopped now).driver.transportClosed = true ∧
      (r.driver.core.AcceptsTime now →
        (r.onWriterStopped now).driver.acceptedCommands = [] ∧
          (r.onWriterStopped now).driver.completions = ∅ ∧
          (r.onWriterStopped now).driver.admittedWrites = ∅) := by
  have hfirst : ∃ r₁, r₁ = (if r.driver.closing.isNone then r.onShutdown .runtimeInvariant none now
      else r) ∧ Sound ⟨r₁.driver, none, []⟩ ∧ r₁.driver.closing.isSome = true ∧
      (r.driver.core.AcceptsTime now → r₁.driver.core.AcceptsTime now) := by
    by_cases hlive : r.driver.closing.isNone = true
    · have hperforms : Performs false r _ := performs_onShutdown .runtimeInvariant none now
      refine ⟨_, rfl, ?_⟩
      rw [if_pos hlive]
      exact ⟨Leads.sound hperforms hsound, closing_onShutdown _ _, fun haccepts =>
        acceptsTime_onShutdown hsound.coherent haccepts _ _⟩
    · refine ⟨_, rfl, ?_⟩
      rw [if_neg hlive]
      refine ⟨hsound, ?_, id⟩
      rwa [Option.isNone_iff_eq_none, ← Option.not_isSome_iff_eq_none, not_not] at hlive
  obtain ⟨r₁, heq, hsound₁, hclosing₁, haccepts₁⟩ := hfirst
  have hbatch : Leads false r₁ none []
      ((r₁.callCore (.finalizeWriter now)).1.applyActionsWithoutFinishingClose
      (r₁.callCore (.finalizeWriter now)).2 now) _ [] :=
    (leads_callCore rfl).trans (leads_terminalBatch false r₁.driver.core
      (show (Input.finalizeWriter now).isTerminal = true from rfl) _ now).choose_spec.choose_spec.2
  have hclosing₂ := hbatch.closing_kept hclosing₁
  have hopen₂ := fun haccepts => openCommands_finalize hsound₁.coherent (hsound₁.closing hclosing₁)
    (haccepts₁ haccepts)
  have hstopped : r.onWriterStopped now =
      (((r₁.callCore (.finalizeWriter now)).1.applyActionsWithoutFinishingClose
        (r₁.callCore (.finalizeWriter now)).2 now).update
          SessionDriver.afterWriter).finishCloseIfReady.drainAcceptedCommands := by
    rw [heq]
    rfl
  rw [hstopped]
  generalize (r₁.callCore (.finalizeWriter now)).1.applyActionsWithoutFinishingClose
    (r₁.callCore (.finalizeWriter now)).2 now = r₂ at hclosing₂ hopen₂
  obtain ⟨⟨reason, barrier⟩, hclosing₂⟩ := Option.isSome_iff_exists.mp hclosing₂
  have hready : (r₂.update SessionDriver.afterWriter).driver.closing = some ⟨reason, none⟩ := by
    show r₂.driver.closing.map _ = _
    rw [hclosing₂]
    rfl
  have hclosed := transportClosed_finishCloseIfReady hready
  have hframe := finishCloseIfReady_frame (r₂.update SessionDriver.afterWriter)
  generalize (r₂.update SessionDriver.afterWriter).finishCloseIfReady = r₃ at hclosed hframe
  obtain ⟨hdrain, hlook⟩ := drainAcceptedCommands_frame r₃
  refine ⟨?_, fun haccepts => ⟨?_, ?_, ?_⟩⟩
  · rw [hdrain]
    exact hclosed
  · rw [hdrain]
  · refine TreeMap.eq_empty_iff.mpr fun c => ?_
    have hunowned : r₃.driver.core.ownsCommand c = false := by
      rw [hframe]
      show r₂.driver.core.openCommands.contains c = false
      rw [hopen₂ haccepts]
      exact TreeMap.contains_eq_false_iff.mpr ExtTreeMap.getElem?_empty
    rw [hlook, hunowned, if_neg Bool.false_ne_true]
  · rw [hdrain, hframe]
    rfl

end Round

end Hsms
end SecsRust

import SecsRust.Lib.Ledger
import SecsRust.Hsms.Core.Session.Handle

/-!
# The command ledger

Every command that the Core accepts is completed once, with a result of its own class, and
by the time the Writer has been finalised no table holds anything of it.  `open_commands` is
a ledger in the sense of `Lib.Ledger`: accepting a command opens an obligation of the class
of the command, and each `CompleteCommand` settles the obligation of its command.

The ledger is not kept by the Core.  It is read off a run: the acceptance of a round is read
off its input and the Core before it, since only `on_command` and `on_reply` accept anything
and only a command that is not open (`runEntries`, `acceptances`), and the completions are
read off the actions.  What has to be shown is that the open commands of the Core are the
balance of these entries.  `ledger_of_effect` shows it for one effect, `ledger_handle` for
one round, and `ledger_run` for a whole run.

From the ledger every count follows.  A command completes as often as it was accepted, up to
the one that may still be open, because acceptances and completions of one command
alternate.  The last section adds what `finalize_writer` leaves, in a Core that is closing:
empty tables, and nothing to do for a second call (`finalizeWriter_settles`).
`accepted_commands_complete_exactly_once` collects all of it.
-/

namespace SecsRust
namespace Hsms

open Std SessionCore

/-- The entry that an action makes: only completions make one. -/
def CoreAction.entry : CoreAction → Option (LedgerEntry CommandId OpenCommandKind)
  | .completeCommand commandId result => some (.settled commandId result.openKind)
  | .deliverPrimary .. | .sendFrame .. | .sessionStateChanged _ | .closeGeneration .. => none

/-- The command that an action completes. -/
def CoreAction.completed : CoreAction → Option CommandId
  | .completeCommand commandId _ => some commandId
  | .deliverPrimary .. | .sendFrame .. | .sessionStateChanged _ | .closeGeneration .. => none

namespace SessionCore

/-- The open commands as a ledger. -/
def ledger (core : SessionCore) : Ledger CommandId OpenCommandKind :=
  fun commandId => core.openCommands[commandId]?

/-- The entries of one round: the acceptance first, then the completions in order. -/
def roundEntries (core : SessionCore) (input : Input) :
    List (LedgerEntry CommandId OpenCommandKind) :=
  ((core.accepted input).toList.map fun (commandId, kind) => .opened commandId kind) ++
    (core.handle input).actions.filterMap CoreAction.entry

/-- The entries of a run. -/
def runEntries (core : SessionCore) : List Input → List (LedgerEntry CommandId OpenCommandKind)
  | [] => []
  | input :: inputs => core.roundEntries input ++ runEntries (core.handle input).core inputs

/-- The commands accepted during a run, with their classes, in order. -/
def acceptances (core : SessionCore) : List Input → List (CommandId × OpenCommandKind)
  | [] => []
  | input :: inputs => (core.accepted input).toList ++ acceptances (core.handle input).core inputs

variable {core after : SessionCore}

/-! ## Ledgers of small changes -/

theorem ledger_detach (c : CommandId) :
    (core.detach c).ledger = Function.update core.ledger c none := by
  funext c'
  unfold ledger
  rw [getElem?_openCommands_detach]
  by_cases hc : c = c'
  · rw [if_pos hc, hc, Function.update_self]
  · rw [if_neg hc, Function.update_of_ne (Ne.symm hc)]

theorem ledger_accept (c : CommandId) (kind : OpenCommandKind) :
    (core.accept c kind).ledger = Function.update core.ledger c (some kind) := by
  funext c'
  unfold ledger accept
  dsimp only
  rw [TreeMap.getElem?_insert]
  by_cases hc : c = c'
  · rw [if_pos hc, hc, Function.update_self]
  · rw [if_neg hc, Function.update_of_ne (Ne.symm hc)]

/-- One completion with a result of the class of its open command. -/
theorem ledger_complete {c : CommandId} {result : CoreCommandResult}
    (hopen : core.openCommands[c]? = some result.openKind) :
    Ledger.Run core.ledger ([CoreAction.completeCommand c result].filterMap CoreAction.entry)
      (core.detach c).ledger := by
  rw [ledger_detach]
  exact .single_settled hopen

/-- The completion of an optional command, which leaves the tables with `release`. -/
theorem ledger_release {c : Option CommandId} {result : Except OperationError Unit}
    (hopen : ∀ c', c = some c' → core.openCommands[c']? = some .control) :
    Ledger.Run core.ledger ((controlCompletion c result).filterMap CoreAction.entry)
      (core.release c).ledger := by
  cases c with
  | none => exact .nil _
  | some c => exact ledger_complete (hopen c rfl)

/-- The loop over a list of commands settles exactly those it completes. -/
theorem ledger_completions {error : OperationError} {ids : List CommandId} (hnodup : ids.Nodup)
    (hids : ∀ c ∈ ids, ∃ kind, core.openCommands[c]? = some kind)
    (hopen : ∀ c : CommandId, after.openCommands[c]? =
      if c ∈ ids ∧ core.writeUnresolved c = false then none else core.openCommands[c]?) :
    Ledger.Run core.ledger
      ((ids.filterMap (core.completion error)).filterMap CoreAction.entry) after.ledger := by
  have hdue : (ids.filterMap (core.completion error)).filterMap CoreAction.entry =
      ids.filterMap fun c =>
        (if core.writeUnresolved c then none else core.openCommands[c]?).map (.settled c) := by
    rw [List.filterMap_filterMap]
    refine List.filterMap_congr fun c _ => ?_
    unfold completion
    cases core.writeUnresolved c with
    | true => rfl
    | false =>
      cases hc : core.openCommands[c]? with
      | none => simp
      | some kind => simp [CoreAction.entry]
  rw [hdue]
  refine .settle_list hnodup (fun c _ kind hkind => ?_) fun c => ?_
  · split at hkind
    · cases hkind
    · exact hkind
  · refine (hopen c).trans ?_
    unfold ledger
    by_cases hc : c ∈ ids
    · obtain ⟨kind, hkind⟩ := hids c hc
      cases hw : core.writeUnresolved c <;> simp [hc, hkind]
    · simp [hc]

/-- `complete_all` settles every open command without an unresolved write. -/
theorem ledger_loss (hopen : ∀ c : CommandId, after.openCommands[c]? =
      if core.writeUnresolved c then core.openCommands[c]? else none) :
    Ledger.Run core.ledger (core.lossCompletions.filterMap CoreAction.entry) after.ledger := by
  refine ledger_completions TreeMap.nodup_keys (fun c hc => TreeMap.mem_keys.mp hc) fun c => ?_
  rw [hopen]
  cases hc : core.openCommands[c]? with
  | none => simp
  | some kind =>
    have hmem : c ∈ core.openCommands.keys := TreeMap.mem_keys.mpr ⟨kind, hc⟩
    cases core.writeUnresolved c with
    | false => simp only [hmem, and_self, if_true, Bool.false_eq_true, if_false]
    | true => simp

/-- A close announcement makes no entry. -/
theorem entries_endActions (reason : GenerationCloseReason) :
    (core.endActions reason).filterMap CoreAction.entry =
      core.lossCompletions.filterMap CoreAction.entry := by
  unfold endActions
  rw [List.filterMap_append]
  cases core.closeActionIssued with
  | true => exact List.append_nil _
  | false => exact List.append_nil _

/-- Giving the drained writes up settles their commands. -/
theorem ledger_abandon (h : Coherent none core) (hdone : core.Abandoned after) :
    Ledger.Run core.ledger (core.abandonments.filterMap CoreAction.entry) after.ledger := by
  have hdue : core.abandonments.filterMap CoreAction.entry =
      ((core.pendingWrites.toList.map Prod.snd).filterMap PendingWrite.commandId).filterMap
        fun c => core.openCommands[c]?.map (.settled c) := by
    unfold abandonments
    rw [List.filterMap_filterMap, List.filterMap_filterMap]
    refine List.filterMap_congr fun write _ => ?_
    unfold abandonment
    cases write.commandId with
    | none => rfl
    | some c =>
      rw [Option.bind_some, Option.bind_some]
      cases core.openCommands[c]? with
      | none => rfl
      | some kind => simp [CoreAction.entry]
  have hnodup : ((core.pendingWrites.toList.map Prod.snd).filterMap
      PendingWrite.commandId).Nodup := by
    refine List.Pairwise.filterMap _ ?_ h.distinct_writes
    rintro a b hab c hc c' hc' rfl
    exact hab c hc hc'
  have hmem : ∀ c : CommandId, c ∈ (core.pendingWrites.toList.map Prod.snd).filterMap
      PendingWrite.commandId ↔ core.writeUnresolved c = true := by
    intro c
    rw [← mem_commands_iff_writeUnresolved, List.mem_filterMap, List.mem_map]
  rw [hdue]
  refine .settle_list hnodup (fun _ _ _ hkind => hkind) fun c => ?_
  refine (hdone.openCommands c).trans ?_
  unfold ledger
  simp only [hmem]
  cases hc : core.openCommands[c]? with
  | none => simp
  | some kind => cases core.writeUnresolved c <;> simp

end SessionCore

/-! ## One effect, one round, one run -/

/-- **The ledger of one effect.**  A completion settles one obligation in its class, and no other
effect touches the ledger. -/
theorem ledger_of_effect {origin : SessionCore} {input : Input} {stage stage' : Stage}
    {actions : List CoreAction} (h : Coherent stage.fresh stage.core)
    (he : Effect origin input stage actions stage') :
    Ledger.Run stage.core.ledger (actions.filterMap CoreAction.entry) stage'.core.ledger := by
  cases he with
  -- effects that complete every command they can
  | @ended s pre s' _ _ _ reason frame _ _ done =>
    rw [entries_endActions]
    refine ledger_loss fun c => ?_
    rw [done.openCommands, frame]
    rfl
  | @lostWrite s pre s' _ _ w _ _ _ reason _ _ _ frame done =>
    have hloss : Ledger.Run (s.eraseWrite w).ledger
        (((s.eraseWrite w).endActions reason).filterMap CoreAction.entry) s'.ledger := by
      rw [entries_endActions]
      refine ledger_loss fun c => ?_
      rw [done.openCommands, frame]
      rfl
    exact hloss
  | @admissionClosed s s' _ reason _ _ _ done =>
    rw [List.filterMap_append]
    refine (List.append_nil _).symm ▸ ledger_loss fun c => ?_
    exact (done.of_keys c).1
  | abandonWrites _ _ done => exact ledger_abandon h done
  | loseCommands _ _ done => exact ledger_loss fun c => (done.of_keys c).1
  | @separate s s' _ _ w sb reason _ _ _ _ _ _ done =>
    rw [List.filterMap_append]
    refine (List.append_nil _).symm ▸ ledger_completions (nodup_dataCommands _) ?_ done.openCommands
    intro c hc
    rcases mem_dataCommands.mp hc with hkind | hkind
    · exact ⟨_, hkind⟩
    · exact ⟨_, hkind⟩
  | @peerSeparate s s' _ _ _ _ _ done =>
    rw [List.filterMap_append]
    refine (List.append_nil _).symm ▸ ledger_completions (nodup_dataCommands _) ?_ done.openCommands
    intro c hc
    rcases mem_dataCommands.mp hc with hkind | hkind
    · exact ⟨_, hkind⟩
    · exact ⟨_, hkind⟩
  -- effects that complete one command
  | lateControl result _ open_ _ => exact ledger_complete open_
  | refuse error open_ _ =>
    exact ledger_complete (by rw [OpenCommandKind.openKind_errorResult, open_])
  | endDrain live pending _ => exact ledger_complete (h.drain_open live _ pending)
  | @retireControl s _ _ transaction result active _ _ =>
    have hrelease : Ledger.Run s.ledger
        ((controlCompletion transaction.commandId result).filterMap CoreAction.entry)
        (s.release transaction.commandId).ledger :=
      ledger_release fun c hc => h.control_open transaction c active hc
    rw [release_frame] at hrelease ⊢
    exact hrelease
  | @retireRequest s _ _ sb transaction result _ pending cause =>
    have hopen : result.openKind = .request := by cases cause <;> rfl
    have hcomplete : Ledger.Run s.ledger _ (s.detach transaction.commandId).ledger :=
      ledger_complete ((h.request_open sb transaction pending).trans (congrArg some hopen.symm))
    exact hcomplete
  | @rejectSend s _ _ w write correlation c _ _ reason _ _ _ _ pending kind command _ =>
    obtain ⟨class_, hclass, hopen⟩ := h.write_open w write c pending command
    rw [kind] at hclass
    obtain rfl : OpenCommandKind.send = class_ := Option.some.inj hclass
    exact ledger_complete hopen
  | @spendContract s _ c _ _ kind result _ _ open_ _ class_ _ =>
    have hcomplete : Ledger.Run s.ledger _ (s.detach c).ledger :=
      ledger_complete (open_.trans (congrArg some class_.symm))
    exact hcomplete
  | @commitCommand s _ w write c result _ _ _ pending command cause =>
    have hopen : s.openCommands[c]? = some result.openKind := by
      obtain ⟨class_, hclass, hopen⟩ := h.write_open w write c pending command
      cases cause with
      | send kind =>
        rw [kind] at hclass
        exact hopen.trans hclass.symm
      | separate kind =>
        rw [kind] at hclass
        exact hopen.trans hclass.symm
      | released open_ _ _ => rw [OpenCommandKind.openKind_errorResult, open_]
    have hcomplete : Ledger.Run (s.eraseWrite w).ledger _ ((s.eraseWrite w).detach c).ledger :=
      ledger_complete hopen
    exact hcomplete
  | @failWrite s _ w write error pending _ _ =>
    have hledger : ((s.eraseWrite w).removeTransactionForWrite w write.kind).ledger = s.ledger := by
      rw [removeTransactionForWrite_frame]
      rfl
    dsimp only
    rw [← hledger]
    cases hcommand : write.commandId with
    | none => exact .nil _
    | some c =>
      obtain ⟨kind, -, hopen⟩ := h.write_open w write c pending hcommand
      have hstill : ((s.eraseWrite w).removeTransactionForWrite w write.kind).openCommands[c]? =
          some (kind.errorResult error).openKind := by
        rw [OpenCommandKind.openKind_errorResult]
        exact (congrFun hledger c).trans hopen
      rw [Option.toList_some, List.filterMap_cons, hopen]
      exact ledger_complete hstill
  -- effects that complete none
  | tick _ | observe _ _ _ | lateAnnounce _ | connect _ _ _ _ _ | selected _ _ _
  | deselected _ _ _ _ _ _ | respond _ _ _ _ _ _ | startDrain _ _ _ _ _ _ _
  | startControl _ _ _ _ _ _ _ _ _ _ | startDeselection _ _ _ _ _ | sendRequest _ _ _ _ _ _ _ _ _
  | sendPrimary _ _ _ _ _ _ _ _ _ | deliver _ _ _ _ _ _ _ _ _ | deliverOneWay _ _ _ _ _ _
  | sendReply _ _ _ _ _ _ _ | commitControl _ _ _ _ _ | commitRequest _ _ _ _ _
  | commitSilently _ _ _ => exact .nil _

theorem ledger_of_steps {origin : SessionCore} {input : Input} {stage stage' : Stage}
    {actions : List CoreAction} (hs : Steps (Effect origin input) stage actions stage')
    (h : Coherent stage.fresh stage.core) :
    Ledger.Run stage.core.ledger (actions.filterMap CoreAction.entry) stage'.core.ledger := by
  induction hs with
  | refl => exact .nil _
  | head he _ ih =>
    rw [List.filterMap_append]
    exact (ledger_of_effect h he).append (ih (he.coherent h))

/-- Beginning a round opens the obligation of the accepted command, if there is one. -/
theorem ledger_entry (core : SessionCore) (input : Input) :
    Ledger.Run core.ledger
      ((core.accepted input).toList.map fun (commandId, kind) => .opened commandId kind)
      (core.entry input).core.ledger := by
  unfold SessionCore.entry
  cases haccepted : core.accepted input with
  | none => exact .nil _
  | some accepted =>
    obtain ⟨-, hvacant⟩ := Option.filter_eq_some_iff.mp haccepted
    have hvacant : core.openCommands[accepted.1]? = none :=
      TreeMap.contains_eq_false_iff.mp (by simpa using hvacant)
    show Ledger.Run core.ledger [.opened accepted.1 accepted.2]
      (core.accept accepted.1 accepted.2).ledger
    rw [ledger_accept]
    exact .single_opened hvacant

/-- **The ledger of one round.**  The acceptance comes first, if there is one, and the effects of
the round then settle in the order of their completions. -/
theorem ledger_handle {core : SessionCore} (h : Coherent none core) (input : Input) :
    Ledger.Run core.ledger (core.roundEntries input) (core.handle input).core.ledger :=
  (ledger_entry core input).append (ledger_of_steps (steps_handle h input) (h.entry input))

/-- **The ledger of a run.**  It is the composition of the ledgers of its rounds. -/
theorem ledger_run {core : SessionCore} (h : Coherent none core) (inputs : List Input) :
    Ledger.Run core.ledger (core.runEntries inputs) (machine.after core inputs).ledger := by
  induction inputs generalizing core with
  | nil => exact .nil _
  | cons input inputs ih => exact (ledger_handle h input).append (ih (h.handle input))

/-! ## Counting acceptances and completions -/

/-- The settled entries of a run are the completions in its history. -/
theorem count_settled (core : SessionCore) (inputs : List Input) (c : CommandId)
    (kind : OpenCommandKind) :
    (core.runEntries inputs).count (.settled c kind) =
      ((machine.history core inputs).filterMap CoreAction.entry).count (.settled c kind) := by
  induction inputs generalizing core with
  | nil => rfl
  | cons input inputs ih =>
    have hopened : ((core.accepted input).toList.map fun (commandId, kind) =>
        (LedgerEntry.opened commandId kind : LedgerEntry CommandId OpenCommandKind)).count
          (.settled c kind) = 0 := by
      rw [List.count_eq_zero, List.mem_map]
      rintro ⟨_, _, heq⟩
      cases heq
    rw [runEntries, roundEntries, Machine.history_cons, List.filterMap_append, List.count_append,
      List.count_append, List.count_append, hopened, ih, Nat.zero_add]
    rfl

/-- The opened entries of a run are its acceptances. -/
theorem count_opened (core : SessionCore) (inputs : List Input) (c : CommandId)
    (kind : OpenCommandKind) :
    (core.runEntries inputs).count (.opened c kind) = (core.acceptances inputs).count
    (c, kind) := by
  induction inputs generalizing core with
  | nil => rfl
  | cons input inputs ih =>
    have hsettled : ((core.handle input).actions.filterMap CoreAction.entry).count
        (.opened c kind) = 0 := by
      rw [List.count_eq_zero, List.mem_filterMap]
      rintro ⟨action, _, heq⟩
      cases action <;> cases heq
    have hinj : Function.Injective fun accepted : CommandId × OpenCommandKind =>
        (LedgerEntry.opened accepted.1 accepted.2 : LedgerEntry CommandId OpenCommandKind) := by
      rintro ⟨c₁, k₁⟩ ⟨c₂, k₂⟩ heq
      cases heq
      rfl
    rw [runEntries, roundEntries, acceptances, List.count_append, List.count_append,
      List.count_append, hsettled, ih, Nat.add_zero]
    exact congrArg (· + _) (List.count_map_of_injective _ _ hinj (c, kind))

theorem countP_settles (actions : List CoreAction) (c : CommandId) :
    (actions.filterMap CoreAction.entry).countP (LedgerEntry.settles c) =
      (actions.filterMap CoreAction.completed).count c := by
  induction actions with
  | nil => rfl
  | cons action actions ih =>
    cases action with
    | completeCommand c' result =>
      simp only [List.filterMap_cons, CoreAction.entry, CoreAction.completed, List.countP_cons,
        List.count_cons, LedgerEntry.settles, ih, beq_iff_eq, decide_eq_true_eq]
    | deliverPrimary _ _ => exact ih
    | sendFrame _ _ => exact ih
    | sessionStateChanged _ => exact ih
    | closeGeneration _ _ => exact ih

theorem countP_settled (core : SessionCore) (inputs : List Input) (c : CommandId) :
    (core.runEntries inputs).countP (LedgerEntry.settles c) =
      ((machine.history core inputs).filterMap CoreAction.completed).count c := by
  induction inputs generalizing core with
  | nil => rfl
  | cons input inputs ih =>
    have hopened : ((core.accepted input).toList.map fun (commandId, kind) =>
        (LedgerEntry.opened commandId kind : LedgerEntry CommandId OpenCommandKind)).countP
          (LedgerEntry.settles c) = 0 := by
      rw [List.countP_eq_zero]
      intro e he
      obtain ⟨_, _, rfl⟩ := List.mem_map.mp he
      exact Bool.false_ne_true
    rw [runEntries, roundEntries, Machine.history_cons, List.filterMap_append,
      List.countP_append, List.countP_append, List.count_append, hopened, countP_settles, ih,
      Nat.zero_add]
    rfl

theorem countP_opened (core : SessionCore) (inputs : List Input) (c : CommandId) :
    (core.runEntries inputs).countP (LedgerEntry.opens c) =
      ((core.acceptances inputs).map Prod.fst).count c := by
  induction inputs generalizing core with
  | nil => rfl
  | cons input inputs ih =>
    have hcompleted : ((core.handle input).actions.filterMap CoreAction.entry).countP
        (LedgerEntry.opens c) = 0 := by
      rw [List.countP_eq_zero]
      intro e he
      obtain ⟨action, _, heq⟩ := List.mem_filterMap.mp he
      cases action <;> cases heq
      exact Bool.false_ne_true
    rw [runEntries, roundEntries, acceptances, List.countP_append, List.countP_append,
      List.map_append, List.count_append, hcompleted, ih, Nat.add_zero]
    cases core.accepted input with
    | none => rfl
    | some accepted => simp [LedgerEntry.opens, List.count_cons]

/-- Per command, what a run completed and what it left open is what it accepted and what was open
before. -/
theorem count_completed {core : SessionCore} (h : Coherent none core) (inputs : List Input)
    (c : CommandId) :
    ((machine.history core inputs).filterMap CoreAction.completed).count c +
        (if (machine.after core inputs).openCommands.contains c then 1 else 0) =
      ((core.acceptances inputs).map Prod.fst).count c +
        (if core.openCommands.contains c then 1 else 0) := by
  have hcount := (ledger_run h inputs).countP c
  rw [countP_settled, countP_opened] at hcount
  simp only [ExtTreeMap.contains_eq_isSome_getElem?]
  exact hcount

/-! ## After the writer has finished -/

/-- `finalize_writer` of a closing Core at a time it accepts. -/
theorem handle_finalizeWriter {core : SessionCore} {now : MonoTime}
    (hclosing : core.closing = true) (haccepts : core.AcceptsTime now) :
    core.handle (.finalizeWriter now) =
      ((Turn.start core).update fun core => { core with lastNow := some now }).finalize := by
  show core.finalizeWriter now = _
  unfold finalizeWriter
  rcases (Turn.start core).acceptTime_cases now with ⟨hrejects, -⟩ | ⟨-, heq⟩
  · exact absurd haccepts hrejects
  · rw [heq]
    have hclosing : (!((Turn.start core).update fun core =>
        { core with lastNow := some now }).core.closing) = false := by
      show (!core.closing) = false
      rw [hclosing]
      rfl
    dsimp only
    rw [hclosing]
    rfl

/-- What `finalize` leaves: every table is empty. -/
theorem finalize_empties {t : Turn} (h : Coherent none t.core) :
    t.finalize.core.openCommands = ∅ ∧ t.finalize.core.pendingWrites = ∅ ∧
      t.finalize.core.deferredErrors = ∅ ∧ t.finalize.core.dataTransactions = ∅ ∧
      t.finalize.core.closing = t.core.closing ∧ t.finalize.core.lastNow = t.core.lastNow := by
  have habandons := abandons_of_coherent h
  have hfinalize : t.finalize = (abandonWrites (t.update fun core =>
      { core with pendingWrites := ∅ })
        (t.core.pendingWrites.toList.map Prod.snd)).completeAll .connectionLost := rfl
  rw [hfinalize]
  generalize abandonWrites (t.update fun core => { core with pendingWrites := ∅ })
    (t.core.pendingWrites.toList.map Prod.snd) = mid at habandons
  have hmid := abandoned_of_abandons habandons
  have hall := (mid.completeAll_completes .connectionLost).toCompleted
  have hresolved : ∀ c, mid.core.writeUnresolved c = false := by
    intro c
    refine writeUnresolved_eq_false_iff.mpr fun w write hw => ?_
    rw [hmid.frame] at hw
    exact absurd hw TreeMap.getElem?_empty_ne
  refine ⟨TreeMap.eq_empty_iff.mpr fun c => ?_, ?_, TreeMap.eq_empty_iff.mpr fun c => ?_, ?_, ?_,
    ?_⟩
  · refine (hall.of_keys c).1.trans ?_
    rw [show SessionCore.writeUnresolved (mid.update fun core =>
      { core with activeTransaction := none, dataTransactions := ∅ }).core c = false
      from hresolved c]
    rfl
  · rw [hall.frame]
    show mid.core.pendingWrites = ∅
    rw [hmid.frame]
  · refine (hall.of_keys c).2.trans ?_
    rw [show SessionCore.writeUnresolved (mid.update fun core =>
      { core with activeTransaction := none, dataTransactions := ∅ }).core c = false
      from hresolved c]
    split
    · rfl
    · -- a deferred error belongs to an unresolved write, and those have just been given up
      show mid.core.deferredErrors[c]? = none
      rw [hmid.deferredErrors]
      split
      · rfl
      · rename_i hunresolved
        cases hdeferred : t.core.deferredErrors[c]? with
        | none => rfl
        | some error => exact absurd (h.deferred_write c error hdeferred) hunresolved
  · rw [hall.frame]
    rfl
  · rw [hall.frame]
    show mid.core.closing = t.core.closing
    rw [hmid.frame]
  · rw [hall.frame]
    show mid.core.lastNow = t.core.lastNow
    rw [hmid.frame]

/-- With nothing open and nothing pending `finalize` has nothing to complete. -/
theorem finalize_actions_of_empty {t : Turn} (h : Coherent none t.core)
    (hopen : t.core.openCommands = ∅) (hpending : t.core.pendingWrites = ∅) :
    t.finalize.actions = t.actions := by
  have habandons := abandons_of_coherent h
  have hfinalize : t.finalize = (abandonWrites (t.update fun core =>
      { core with pendingWrites := ∅ })
        (t.core.pendingWrites.toList.map Prod.snd)).completeAll .connectionLost := rfl
  rw [hfinalize]
  rw [hpending] at habandons ⊢
  generalize abandonWrites (t.update fun core => { core with pendingWrites := ∅ })
    ((∅ : ExtTreeMap WriteId PendingWrite).toList.map Prod.snd) = mid at habandons
  have hmid : mid.core.openCommands = ∅ := by
    refine TreeMap.eq_empty_iff.mpr fun c => ?_
    rw [habandons.openCommands]
    show (if _ then none else t.core.openCommands[c]?) = none
    rw [hopen, ExtTreeMap.getElem?_empty, ite_self]
  rw [Turn.completeAll_actions, habandons.actions, lossCompletions, hmid, TreeMap.toList_empty,
    TreeMap.keys_empty]
  simp only [List.map_nil, List.filterMap_nil, List.append_nil]
  rfl

/-- Once `finalize_writer` has run on a closing Core at an accepted time, nothing is open and a
second call at the same time does nothing. -/
theorem finalizeWriter_settles {core : SessionCore} {now : MonoTime} (h : Coherent none core)
    (hclosing : core.closing = true) (haccepts : core.AcceptsTime now) :
    let last := (core.handle (.finalizeWriter now)).core
    last.openCommands = ∅ ∧ last.pendingWrites = ∅ ∧ last.deferredErrors = ∅ ∧
      last.dataTransactions = ∅ ∧ (last.handle (.finalizeWriter now)).actions = [] := by
  intro last
  have hbase : Coherent none ((Turn.start core).update
    fun core => { core with lastNow := some now }).core := h.observe rfl
  obtain ⟨hopen, hpending, hdeferred, hdata, hclosing', hlast⟩ := finalize_empties hbase
  rw [← handle_finalizeWriter hclosing haccepts] at hopen hpending hdeferred hdata hclosing' hlast
  have haccepts' : last.AcceptsTime now := by
    intro time htime
    rw [show last.lastNow = some now from hlast] at htime
    exact (Option.some.inj htime).symm.le
  have hclosing' : last.closing = true := hclosing'.trans hclosing
  refine ⟨hopen, hpending, hdeferred, hdata, ?_⟩
  have hlastBase : Coherent none ((Turn.start last).update
    fun core => { core with lastNow := some now }).core :=
      (h.handle (.finalizeWriter now)).observe rfl
  rw [handle_finalizeWriter hclosing' haccepts', finalize_actions_of_empty hlastBase hopen hpending]
  rfl

/-- **Every accepted command completes exactly once.**  Over any run from a new Core, whatever its
identifier counters: the completions of a command, together with the command itself if it is still
open, are as many as its acceptances; the same holds within each class of commands, where a
completion counts for the class of its result; and acceptances and completions alternate, each
completion with the class of the acceptance that it answers.  If the run ends closing, an accepted
`finalize_writer` leaves every table empty, and repeating it does nothing. -/
theorem accepted_commands_complete_exactly_once (config : SessionCoreConfig)
    (nextWriteId : Option UInt64) (nextSystemBytes : Option UInt32) (inputs : List Input) :
    let core := SessionCore.initial config nextWriteId nextSystemBytes
    let final := machine.after core inputs
    (∀ c : CommandId,
      ((machine.history core inputs).filterMap CoreAction.completed).count c +
          (if final.openCommands.contains c then 1 else 0) =
        ((core.acceptances inputs).map Prod.fst).count c) ∧
    (∀ (c : CommandId) (kind : OpenCommandKind),
      ((machine.history core inputs).filterMap CoreAction.entry).count (.settled c kind) +
          (if final.openCommands[c]? = some kind then 1 else 0) =
        (core.acceptances inputs).count (c, kind)) ∧
    Ledger.Run (fun _ => none) (core.runEntries inputs) final.ledger ∧
    (final.closing = true → ∀ now, final.AcceptsTime now →
      let last := (final.handle (.finalizeWriter now)).core
      last.openCommands = ∅ ∧ last.pendingWrites = ∅ ∧ last.deferredErrors = ∅ ∧
        last.dataTransactions = ∅ ∧ (last.handle (.finalizeWriter now)).actions = []) := by
  intro core final
  have hcoherent : Coherent none core := coherent_initial config nextWriteId nextSystemBytes
  have hfinal : Coherent none final :=
    machine.invariant (fun _ input h => h.handle input) hcoherent inputs
  have hvacant : core.ledger = fun _ => none := funext fun _ => ExtTreeMap.getElem?_empty
  have hrun := ledger_run hcoherent inputs
  refine ⟨fun c => ?_, fun c kind => ?_, ?_, fun hclosing now haccepts => ?_⟩
  · have hcount := count_completed hcoherent inputs c
    rw [show core.openCommands.contains c = false from
      TreeMap.contains_eq_false_iff.mpr ExtTreeMap.getElem?_empty] at hcount
    exact hcount
  · have hcount := hrun.count c kind
    rw [count_settled, count_opened, hvacant] at hcount
    exact hcount
  · rw [hvacant] at hrun
    exact hrun
  · exact finalizeWriter_settles hfinal hclosing haccepts

end Hsms
end SecsRust

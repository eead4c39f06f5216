import SecsRust.Hsms.Core.Session.Step

/-!
# What completing many commands does

`complete_all`, `complete_data_for_deselection` and the failure of a write all run the same
loop: each listed command either completes or, if one of its writes is unresolved, has its
error parked.  In the loop the tables change under the iteration, and a command that
completes is taken out of every retained write as well.  What makes the loop tractable is
that the listed commands are distinct and open, and that no command of the list changes what
the next one meets.

`Completed` says in closed form what has become of the tables once the loop has gone through
a list, and `Completes` adds the actions, in the order of the list.  `Completes.append`
joins two loops over disjoint lists, and `foldl_completes` is the induction.
`completeAll_completes` and `completeDataForDeselection_completes` say that these functions
do it.  From there on no proof looks inside the loops.

The lemmas before the loop read `detach`, the removal of one command from every table,
through the lookups of the tables.  A write keeps its entry when its command is detached,
and forgets the command (`getElem?_pendingWrites_detach`).
-/

namespace SecsRust
namespace Hsms

open Std

/-! ## Small facts about the tables -/

namespace SessionCore

variable {core : SessionCore} {commandId : CommandId}

theorem writeUnresolved_iff :
    core.writeUnresolved commandId = true ↔
      ∃ (w : WriteId) (write : PendingWrite),
        core.pendingWrites[w]? = some write ∧ write.commandId = some commandId := by
  rw [writeUnresolved, TreeMap.any_toList_iff]
  simp only [decide_eq_true_eq]

theorem writeUnresolved_eq_false_iff :
    core.writeUnresolved commandId = false ↔
      ∀ (w : WriteId) (write : PendingWrite),
        core.pendingWrites[w]? = some write → write.commandId ≠ some commandId := by
  rw [writeUnresolved, TreeMap.any_toList_eq_false_iff]
  simp only [decide_eq_false_iff_not, ne_eq]

/-- No Data obligation of ours remains in the transaction and write tables. -/
def DataQuiet (core : SessionCore) : Prop :=
  core.dataTransactions = ∅ ∧
    ∀ (w : WriteId) (write : PendingWrite),
      core.pendingWrites[w]? = some write → write.kind.isData = false

theorem dataInUse_eq_false_iff :
    core.dataInUse = false ↔ core.DataQuiet ∧ core.replyContracts = ∅ := by
  simp only [dataInUse, DataQuiet, Bool.or_eq_false_iff, Bool.not_eq_false',
    ExtTreeMap.isEmpty_iff, TreeMap.any_toList_eq_false_iff]
  tauto

theorem repliesBlocked_eq_false_iff :
    core.repliesBlocked = false ↔
      ∀ transaction, core.activeTransaction = some transaction → transaction.kind ≠ .deselect := by
  unfold repliesBlocked
  cases core.activeTransaction with
  | none => simp
  | some transaction => simp

/-! ### Detaching a command -/

@[simp] theorem getElem?_openCommands_detach (c : CommandId) :
    (core.detach commandId).openCommands[c]? =
      if commandId = c then none else core.openCommands[c]? :=
  TreeMap.getElem?_erase _ _

@[simp] theorem getElem?_deferredErrors_detach (c : CommandId) :
    (core.detach commandId).deferredErrors[c]? =
      if commandId = c then none else core.deferredErrors[c]? :=
  TreeMap.getElem?_erase _ _

theorem getElem?_pendingWrites_detach (w : WriteId) :
    (core.detach commandId).pendingWrites[w]? =
      core.pendingWrites[w]?.map fun write =>
        if write.commandId = some commandId then { write with commandId := none } else write :=
  ExtTreeMap.getElem?_map

/-- A write found after detaching a command was there before, with the same kind and with the same
command unless that command is the detached one. -/
theorem of_getElem?_pendingWrites_detach {w : WriteId} {write : PendingWrite}
    (h : (core.detach commandId).pendingWrites[w]? = some write) :
    ∃ before, core.pendingWrites[w]? = some before ∧ write.kind = before.kind ∧
      (∀ c, write.commandId = some c ↔ before.commandId = some c ∧ c ≠ commandId) := by
  rw [getElem?_pendingWrites_detach, Option.map_eq_some_iff] at h
  obtain ⟨before, hbefore, rfl⟩ := h
  refine ⟨before, hbefore, ?_, fun c => ?_⟩
  · split <;> rfl
  · split
    · rename_i hc
      simp only [reduceCtorEq, false_iff, not_and, not_not, hc, Option.some.injEq]
      exact Eq.symm
    · rename_i hc
      refine ⟨fun h => ⟨h, ?_⟩, And.left⟩
      rintro rfl
      exact hc h

/-- Detaching a command none of whose writes is unresolved leaves the writes alone. -/
theorem pendingWrites_detach_of_resolved (h : core.writeUnresolved commandId = false) :
    (core.detach commandId).pendingWrites = core.pendingWrites := by
  refine TreeMap.map_id_of_forall fun w write hw => ?_
  rw [if_neg (writeUnresolved_eq_false_iff.mp h w write hw)]

/-! ## The loop over a list of open commands -/

/-- The completion that the loop emits for a command, if it emits one. -/
def completion (core : SessionCore) (error : OperationError) (commandId : CommandId) :
    Option CoreAction :=
  if core.writeUnresolved commandId then none
  else core.openCommands[commandId]?.map fun kind =>
    .completeCommand commandId (kind.errorResult error)

/-- `after` is `core` once each command of `ids` has completed with `error`, or has had `error`
parked behind its unresolved write. -/
structure Completed (core after : SessionCore) (error : OperationError) (ids : List CommandId) :
    Prop where
  frame : after = { core with
    openCommands := after.openCommands
    deferredErrors := after.deferredErrors }
  openCommands : ∀ c : CommandId, after.openCommands[c]? =
    if c ∈ ids ∧ core.writeUnresolved c = false then none else core.openCommands[c]?
  deferredErrors : ∀ c : CommandId, after.deferredErrors[c]? =
    if c ∈ ids then
      if core.writeUnresolved c then some (core.deferredErrors[c]?.getD error) else none
    else core.deferredErrors[c]?

end SessionCore

namespace Turn

/-- The loop completed or deferred every command of `ids`: the Core of `t'` and the actions and
flag it leaves. -/
structure Completes (t t' : Turn) (error : OperationError) (ids : List CommandId) : Prop extends
    SessionCore.Completed t.core t'.core error ids where
  actions : t'.actions = t.actions ++ ids.filterMap (t.core.completion error)
  overflowed : t'.overflowed = t.overflowed

theorem Completes.nil (t : Turn) (error : OperationError) : Completes t t error [] where
  frame := rfl
  openCommands := by simp
  deferredErrors := by simp
  actions := by simp
  overflowed := rfl

/-- One round of the loop. -/
theorem completeOpenOrDefer_completes {t : Turn} {c : CommandId} (error : OperationError)
    (hopen : ∃ kind, t.core.openCommands[c]? = some kind) :
    Completes t (t.completeOpenOrDefer error c) error [c] := by
  obtain ⟨kind, hkind⟩ := hopen
  unfold completeOpenOrDefer
  cases hunres : t.core.writeUnresolved c with
  | true =>
    rw [if_pos rfl]
    refine ⟨⟨rfl, fun c' => ?_, fun c' => ?_⟩, ?_, rfl⟩
    · simp only [deferError, update, List.mem_singleton]
      rw [if_neg]
      rintro ⟨rfl, h⟩
      rw [hunres] at h
      cases h
    · simp only [deferError, update, List.mem_singleton, TreeMap.getElem?_insertIfNew]
      by_cases hc : c = c'
      · subst hc
        simp [hunres]
      · rw [if_neg hc, if_neg (Ne.symm hc)]
    · simp [deferError, update, SessionCore.completion, hunres]
  | false =>
    rw [if_neg (by simp), hkind]
    refine ⟨⟨?_, fun c' => ?_, fun c' => ?_⟩, ?_, rfl⟩
    · have hp := SessionCore.pendingWrites_detach_of_resolved hunres
      simp only [settle, push, update, SessionCore.detach] at hp ⊢
      rw [hp]
    · simp only [settle, push, update, SessionCore.getElem?_openCommands_detach,
        List.mem_singleton]
      by_cases hc : c = c'
      · subst hc
        simp [hunres]
      · rw [if_neg hc, if_neg (by rintro ⟨rfl, -⟩; exact hc rfl)]
    · simp only [settle, push, update, SessionCore.getElem?_deferredErrors_detach,
        List.mem_singleton]
      by_cases hc : c = c'
      · subst hc
        simp [hunres]
      · rw [if_neg hc, if_neg (Ne.symm hc)]
    · simp [settle, push, update, SessionCore.completion, hunres, hkind]

theorem Completes.writeUnresolved {t t' : Turn} {error : OperationError} {ids : List CommandId}
    (h : Completes t t' error ids) (c : CommandId) :
    t'.core.writeUnresolved c = t.core.writeUnresolved c := by
  rw [h.frame]
  rfl

/-- Two loops over disjoint lists make one loop. -/
theorem Completes.append {t t' t'' : Turn} {error : OperationError} {ids ids' : List CommandId}
    (h : Completes t t' error ids) (h' : Completes t' t'' error ids')
    (hdisj : ∀ c ∈ ids, c ∉ ids') : Completes t t'' error (ids ++ ids') where
  frame := by rw [h'.frame, h.frame]
  openCommands c := by
    rw [h'.openCommands, h.openCommands, h.writeUnresolved]
    simp only [List.mem_append]
    by_cases h1 : c ∈ ids <;> by_cases h2 : c ∈ ids' <;>
      cases t.core.writeUnresolved c <;> simp [h1, h2]
  deferredErrors c := by
    rw [h'.deferredErrors, h.deferredErrors, h.writeUnresolved]
    simp only [List.mem_append]
    by_cases h1 : c ∈ ids
    · simp [h1, hdisj c h1]
    · simp [h1]
  actions := by
    rw [h'.actions, h.actions, List.filterMap_append, List.append_assoc]
    congr 2
    refine List.filterMap_congr fun c hc => ?_
    have hc' : c ∉ ids := fun hcon => hdisj c hcon hc
    simp [SessionCore.completion, h.writeUnresolved, h.openCommands, hc']
  overflowed := by rw [h'.overflowed, h.overflowed]

/-- **The loop.**  Over distinct open commands it does what `Completes` says. -/
theorem foldl_completes (error : OperationError) :
    ∀ (ids : List CommandId) (t : Turn), ids.Nodup →
      (∀ c ∈ ids, ∃ kind, t.core.openCommands[c]? = some kind) →
      Completes t (ids.foldl (fun t c => t.completeOpenOrDefer error c) t) error ids
  | [], t, _, _ => Completes.nil t error
  | c :: ids, t, hnodup, hopen => by
    obtain ⟨hc, hnodup⟩ := List.nodup_cons.mp hnodup
    have h1 := completeOpenOrDefer_completes error (hopen c List.mem_cons_self)
    have h2 := foldl_completes error ids (t.completeOpenOrDefer error c) hnodup fun c' hc' => by
      rw [h1.openCommands, if_neg]
      · exact hopen c' (List.mem_cons_of_mem _ hc')
      · rintro ⟨hcc, -⟩
        rw [List.mem_singleton] at hcc
        exact hc (hcc ▸ hc')
    refine h1.append h2 fun c' hc' => ?_
    rw [List.mem_singleton] at hc'
    exact hc' ▸ hc

/-! ## The loops of the source -/

/-- On an open command `complete_or_defer` takes one of its two successful ways out. -/
theorem completeOrDefer_eq {t : Turn} {error : OperationError} {c : CommandId}
    (hopen : ∃ kind, t.core.openCommands[c]? = some kind) :
    t.completeOrDefer c error = t.completeOpenOrDefer error c := by
  obtain ⟨kind, hkind⟩ := hopen
  have hcontains : t.core.openCommands.contains c = true := TreeMap.contains_iff.mpr ⟨kind, hkind⟩
  simp only [completeOrDefer, completeOpenOrDefer, completeError, emitCompletion, hkind, hcontains,
    if_true]

/-- Over distinct open commands the source's loop of `complete_or_defer` is the loop above. -/
theorem foldl_completeOrDefer_eq {error : OperationError} :
    ∀ (ids : List CommandId) (t : Turn), ids.Nodup →
      (∀ c ∈ ids, ∃ kind, t.core.openCommands[c]? = some kind) →
      ids.foldl (fun t c => t.completeOrDefer c error) t =
        ids.foldl (fun t c => t.completeOpenOrDefer error c) t
  | [], _, _, _ => rfl
  | c :: ids, t, hnodup, hopen => by
    obtain ⟨hc, hnodup⟩ := List.nodup_cons.mp hnodup
    have h1 := completeOpenOrDefer_completes error (hopen c List.mem_cons_self)
    rw [List.foldl_cons, List.foldl_cons, completeOrDefer_eq (hopen c List.mem_cons_self)]
    refine foldl_completeOrDefer_eq ids _ hnodup fun c' hc' => ?_
    rw [h1.openCommands, if_neg]
    · exact hopen c' (List.mem_cons_of_mem _ hc')
    · rintro ⟨hcc, -⟩
      rw [List.mem_singleton] at hcc
      exact hc (hcc ▸ hc')

/-- **`complete_all` is the loop of the source**: every open command, in order, goes through
`complete_or_defer`, whose failure path is never taken. -/
theorem completeAll_eq_foldl (t : Turn) (error : OperationError) :
    t.completeAll error =
      t.core.openCommands.keys.foldl (fun t c => t.completeOrDefer c error)
        (t.update fun core => { core with activeTransaction := none, dataTransactions := ∅ }) :=
  (foldl_completeOrDefer_eq _ _ TreeMap.nodup_keys fun _ hc => TreeMap.mem_keys.mp hc).symm

theorem completeAll_completes (t : Turn) (error : OperationError) :
    Completes (t.update fun core => { core with activeTransaction := none, dataTransactions := ∅ })
      (t.completeAll error) error t.core.openCommands.keys :=
  foldl_completes _ _ _ TreeMap.nodup_keys fun _ hc => TreeMap.mem_keys.mp hc

end Turn

namespace SessionCore

/-- The open Data commands, in key order. -/
def dataCommands (core : SessionCore) : List CommandId :=
  core.openCommands.toList.filterMap fun (commandId, kind) =>
    if kind = .send ∨ kind = .request then some commandId else none

theorem mem_dataCommands {core : SessionCore} {c : CommandId} :
    c ∈ core.dataCommands ↔
      core.openCommands[c]? = some .send ∨ core.openCommands[c]? = some .request := by
  simp only [dataCommands, List.mem_filterMap, Prod.exists, TreeMap.mem_toList,
    Option.ite_none_right_eq_some, Option.some.injEq]
  constructor
  · rintro ⟨c', kind, hc', rfl | rfl, rfl⟩
    · exact Or.inl hc'
    · exact Or.inr hc'
  · rintro (h | h)
    · exact ⟨c, _, h, Or.inl rfl, rfl⟩
    · exact ⟨c, _, h, Or.inr rfl, rfl⟩

theorem nodup_dataCommands (core : SessionCore) : core.dataCommands.Nodup := by
  refine List.Pairwise.filterMap _ ?_ (ExtTreeMap.distinct_keys_toList (t := core.openCommands))
  rintro ⟨a, ka⟩ ⟨b, kb⟩ hab c hc c' hc'
  simp only [Option.ite_none_right_eq_some, Option.some.injEq] at hc hc'
  obtain ⟨-, rfl⟩ := hc
  obtain ⟨-, rfl⟩ := hc'
  rintro rfl
  exact hab ReflOrd.compare_self

end SessionCore

namespace Turn

theorem completeDataForDeselection_completes (t : Turn) :
    Completes (t.update fun core => { core with dataTransactions := ∅ })
      t.completeDataForDeselection .sessionDeselected t.core.dataCommands := by
  have hopen : ∀ c ∈ t.core.dataCommands, ∃ kind, t.core.openCommands[c]? = some kind := by
    intro c hc
    rcases SessionCore.mem_dataCommands.mp hc with h | h
    · exact ⟨_, h⟩
    · exact ⟨_, h⟩
  have heq : t.completeDataForDeselection =
      t.core.dataCommands.foldl (fun t c => t.completeOpenOrDefer .sessionDeselected c)
        (t.update fun core => { core with dataTransactions := ∅ }) :=
    foldl_completeOrDefer_eq _ _ (SessionCore.nodup_dataCommands _) hopen
  rw [heq]
  exact foldl_completes _ _ _ (SessionCore.nodup_dataCommands _) hopen

end Turn

/-! ## Ending the generation -/

namespace SessionCore

/-- `after` is `core` once every open command without an unresolved write has completed with
`ConnectionLost` and the generation has been closed. -/
structure Ended (core after : SessionCore) : Prop where
  frame : after = { core with
    openCommands := after.openCommands
    deferredErrors := after.deferredErrors
    activeTransaction := none
    deselectDrain := none
    dataTransactions := ∅
    replyContracts := ∅
    closing := true
    closeActionIssued := true }
  openCommands : ∀ c : CommandId, after.openCommands[c]? =
    if core.writeUnresolved c then core.openCommands[c]? else none
  deferredErrors : ∀ c : CommandId, after.deferredErrors[c]? =
    if core.openCommands[c]?.isSome then
      if core.writeUnresolved c then some (core.deferredErrors[c]?.getD .connectionLost) else none
    else core.deferredErrors[c]?

/-- The completions of `complete_all`, in CommandId order. -/
def lossCompletions (core : SessionCore) : List CoreAction :=
  core.openCommands.keys.filterMap (core.completion .connectionLost)

/-- The batch of actions by which the generation ends: a close is announced only once. -/
def endActions (core : SessionCore) (reason : GenerationCloseReason) : List CoreAction :=
  core.lossCompletions ++
    if core.closeActionIssued then [] else [.closeGeneration reason .immediate]

/-- The lookups left by `complete_all`, whose list is every open command. -/
theorem Completed.of_keys {core after : SessionCore} {error : OperationError}
    (h : core.Completed after error core.openCommands.keys) (c : CommandId) :
    after.openCommands[c]? = (if core.writeUnresolved c then core.openCommands[c]? else none) ∧
    after.deferredErrors[c]? =
      if core.openCommands[c]?.isSome then
        if core.writeUnresolved c then some (core.deferredErrors[c]?.getD error) else none
      else core.deferredErrors[c]? := by
  have hkeys : c ∈ core.openCommands.keys ↔ core.openCommands[c]?.isSome = true := by
    rw [TreeMap.mem_keys, Option.isSome_iff_exists]
  rw [h.openCommands, h.deferredErrors]
  constructor
  · cases hc : core.openCommands[c]? with
    | none => simp
    | some kind =>
      rw [hc] at hkeys
      cases core.writeUnresolved c <;> simp [hkeys]
  · simp only [hkeys]

end SessionCore

namespace Turn

section

variable (t : Turn) (reason : GenerationCloseReason) (barrier : CloseBarrier)

variable {t} in
theorem requestClose_of_issued (h : t.core.closeActionIssued = true) :
    t.requestClose reason barrier = t.update fun core =>
      { core with closing := true, deselectDrain := none, replyContracts := ∅ } :=
  if_pos h

variable {t} in
theorem requestClose_of_not_issued (h : ¬ t.core.closeActionIssued = true) :
    t.requestClose reason barrier = (t.update fun core =>
      { core with
        closing := true
        deselectDrain := none
        replyContracts := ∅
        closeActionIssued := true }).push (.closeGeneration reason barrier) :=
  if_neg h

theorem requestClose_core :
    (t.requestClose reason barrier).core = { t.core with
      deselectDrain := none
      replyContracts := ∅
      closing := true
      closeActionIssued := true } := by
  by_cases h : t.core.closeActionIssued = true
  · rw [requestClose_of_issued _ _ h]
    simp only [update, h]
  · rw [requestClose_of_not_issued _ _ h]
    rfl

theorem requestClose_actions :
    (t.requestClose reason barrier).actions = t.actions ++
      if t.core.closeActionIssued then [] else [.closeGeneration reason barrier] := by
  by_cases h : t.core.closeActionIssued = true
  · rw [requestClose_of_issued _ _ h, if_pos h, List.append_nil]
    rfl
  · rw [requestClose_of_not_issued _ _ h, if_neg h]
    rfl

@[simp] theorem requestClose_overflowed :
    (t.requestClose reason barrier).overflowed = t.overflowed := by
  by_cases h : t.core.closeActionIssued = true
  · rw [requestClose_of_issued _ _ h]
    rfl
  · rw [requestClose_of_not_issued _ _ h]
    rfl

end

/-- `complete_all(ConnectionLost)` followed by `request_close` with an immediate barrier: the pair
by which most closes are written. -/
def endGeneration (t : Turn) (reason : GenerationCloseReason) : Turn :=
  (t.completeAll .connectionLost).requestClose reason .immediate

theorem failRuntimeInvariant_eq (t : Turn) :
    t.failRuntimeInvariant = t.endGeneration .runtimeInvariant := rfl

theorem completeAll_actions (t : Turn) :
    (t.completeAll .connectionLost).actions = t.actions ++ t.core.lossCompletions :=
  (t.completeAll_completes .connectionLost).actions

theorem endGeneration_ended (t : Turn) (reason : GenerationCloseReason) :
    t.core.Ended (t.endGeneration reason).core := by
  have h := (t.completeAll_completes .connectionLost).toCompleted
  have hcore := requestClose_core (t.completeAll .connectionLost) reason .immediate
  constructor
  · rw [endGeneration, hcore, h.frame]
    rfl
  · intro c
    rw [endGeneration, hcore]
    exact (h.of_keys c).1
  · intro c
    rw [endGeneration, hcore]
    exact (h.of_keys c).2

theorem endGeneration_actions (t : Turn) (reason : GenerationCloseReason) :
    (t.endGeneration reason).actions = t.actions ++ t.core.endActions reason := by
  have hissued : (t.completeAll .connectionLost).core.closeActionIssued =
      t.core.closeActionIssued := by
    rw [(t.completeAll_completes .connectionLost).frame]
    rfl
  rw [endGeneration, requestClose_actions, completeAll_actions, hissued, List.append_assoc]
  rfl

@[simp] theorem endGeneration_overflowed (t : Turn) (reason : GenerationCloseReason) :
    (t.endGeneration reason).overflowed = t.overflowed := by
  rw [endGeneration, requestClose_overflowed]
  exact (t.completeAll_completes .connectionLost).overflowed

end Turn

end Hsms
end SecsRust

import SecsRust.Hsms.Core.Session.Coherent

/-!
# Every effect keeps the cross-reference invariant

The rules of `Coherent` applied to the effects one by one: first the ways in which a
generation ends, then the effects that remove a command, then the resolution of a write, and
at the end the start of a timer.  The effects that add an entry, and the collection of all
of them, are in `Preservation`.

A generation ends in four ways: by `complete_all`, by the loop over the Data commands of a
Separate, by a failed admission, and by giving up the writes that are left when the Writer
has stopped.  Each of them has its closed form (`Completed`, `Separated`, `Abandoned`), and
each is a closing in the sense of `Coherent` (`Coherent.closes_of_completed` and its
siblings).  `Precedes` admits that before the loop some fields have changed which closing
resets or does not read.

The resolution of a write is where the tables are most entangled, because a write, its
command, and a transaction may go together or one by one.  The lemmas
`Coherent.control_of_shared` and `Coherent.request_of_shared` say that a write and a
transaction which share their command belong together, and `Coherent.failWrite` is then a
case analysis on the kind of the write.
-/

namespace SecsRust
namespace Hsms

open Std Secs2 SessionCore

/-! ## Ways to end the generation -/

section Closing

variable {fresh : Option CommandId} {core pre after : SessionCore}

/-- `pre` is the Core from which the generation ends: `core` up to the fields that closing resets
or does not read, possibly without a write that has just been resolved. -/
structure Precedes (core pre : SessionCore) : Prop where
  open_ : pre.openCommands = core.openCommands
  deferred : pre.deferredErrors = core.deferredErrors
  write : ∀ (w : WriteId) write, pre.pendingWrites[w]? = some write →
    core.pendingWrites[w]? = some write
  kept : core.closing = true → pre.pendingWrites = core.pendingWrites
  used : pre.nextWriteId = core.nextWriteId ∧ pre.nextSystemBytes = core.nextSystemBytes

theorem writeUnresolved_congr {core after : SessionCore}
    (h : after.pendingWrites = core.pendingWrites) (c : CommandId) :
    after.writeUnresolved c = core.writeUnresolved c := by
  rw [writeUnresolved, writeUnresolved, h]

/-- A command with an unresolved write is open. -/
theorem Coherent.open_of_unresolved (h : Coherent fresh core) {c : CommandId}
    (hc : core.writeUnresolved c = true) : core.openCommands[c]?.isSome = true := by
  obtain ⟨w, write, hw, hcommand⟩ := writeUnresolved_iff.mp hc
  obtain ⟨kind, -, hopen⟩ := h.write_open w write c hw hcommand
  rw [hopen]
  rfl

/-- What `complete_all` leaves, followed by the closing flags. -/
theorem Coherent.closes_of_lookups (h : Coherent fresh core) (hp : Precedes core pre)
    (hclosing : after.closing = true ∧ after.closeActionIssued = true)
    (hcontrol : after.activeTransaction = none) (hrequest : after.dataTransactions = ∅)
    (hwrite : after.pendingWrites = pre.pendingWrites)
    (hused : after.nextWriteId = pre.nextWriteId ∧ after.nextSystemBytes = pre.nextSystemBytes)
    (hstate : after.state = none ∨ after.state = some .notSelected ∨ after.state = some .selected)
    (hopen : ∀ c : CommandId, after.openCommands[c]? =
      if pre.writeUnresolved c then pre.openCommands[c]? else none)
    (hdeferred : ∀ c : CommandId, after.deferredErrors[c]? =
      if pre.openCommands[c]?.isSome then
        if pre.writeUnresolved c then some (pre.deferredErrors[c]?.getD .connectionLost) else none
      else pre.deferredErrors[c]?) : Closes core after where
  closing := hclosing
  control := hcontrol
  request := hrequest
  write w write hw := hp.write w write (hwrite ▸ hw)
  open_ c := by
    rw [hopen, hp.open_]
    split
    · exact Or.inl rfl
    · exact Or.inr rfl
  open_kept c hc := by
    rw [writeUnresolved_congr hwrite] at hc
    rw [hopen, if_pos hc, hp.open_]
  deferred c error herror := by
    rw [writeUnresolved_congr hwrite]
    rw [hdeferred] at herror
    split at herror
    · split at herror
      · assumption
      · cases herror
    · rename_i hclosed
      rw [hp.deferred] at herror
      rw [hp.open_] at hclosed
      exact absurd (h.open_of_unresolved (h.deferred_write c error herror)) hclosed
  deferred_kept w write c hw hc _ := by
    have hunres : pre.writeUnresolved c = true :=
      writeUnresolved_iff.mpr ⟨w, write, hwrite ▸ hw, hc⟩
    obtain ⟨kind, -, hopenKind⟩ := h.write_open w write c (hp.write w write (hwrite ▸ hw)) hc
    have hsome : pre.openCommands[c]?.isSome = true := by
      rw [hp.open_, hopenKind]
      rfl
    exact ⟨_, by rw [hdeferred, if_pos hsome, if_pos hunres]⟩
  used := by rw [hused.1, hused.2, hp.used.1, hp.used.2]; exact ⟨rfl, rfl⟩
  state := hstate

theorem Coherent.closes_of_ended (h : Coherent fresh core) (hp : Precedes core pre)
    (hstate : pre.state = none ∨ pre.state = some .notSelected ∨ pre.state = some .selected)
    (he : pre.Ended after) : Closes core after := by
  have hframe := he.frame
  refine h.closes_of_lookups hp ?_ ?_ ?_ ?_ ?_ ?_ he.openCommands he.deferredErrors
  · rw [hframe]
    exact ⟨rfl, rfl⟩
  · rw [hframe]
  · rw [hframe]
  · rw [hframe]
  · rw [hframe]
    exact ⟨rfl, rfl⟩
  · rw [hframe]
    exact hstate

theorem Coherent.closes_of_completed (h : Coherent fresh core)
    (hc : Completed { core with activeTransaction := none, dataTransactions := ∅ } after
      .connectionLost core.openCommands.keys) :
    Closes core { after with closing := true, closeActionIssued := true } := by
  have hframe := hc.frame
  have hlookups := hc.of_keys
  have hp : Precedes core core := ⟨rfl, rfl, fun _ _ hw => hw, fun _ => rfl, rfl, rfl⟩
  refine h.closes_of_lookups hp ⟨rfl, rfl⟩ ?_ ?_ ?_ ?_ ?_ (fun c => (hlookups c).1)
    (fun c => (hlookups c).2)
  · rw [hframe]
  · rw [hframe]
  · rw [hframe]
  · rw [hframe]
    exact ⟨rfl, rfl⟩
  · rw [hframe]
    exact h.state_range

theorem Coherent.closes_of_separated (h : Coherent fresh core) (hlive : core.closing = false)
    (hidle : core.activeTransaction = none) (hs : core.Separated after) : Closes core after := by
  have hframe := hs.frame
  have hwrite : after.pendingWrites = core.pendingWrites := by rw [hframe]
  constructor
  · rw [hframe]
    exact ⟨rfl, rfl⟩
  · rw [hframe]
    exact hidle
  · rw [hframe]
  · intro w write hw
    rwa [hwrite] at hw
  · intro c
    rw [hs.openCommands]
    split
    · exact Or.inr rfl
    · exact Or.inl rfl
  · intro c hc
    rw [writeUnresolved_congr hwrite] at hc
    rw [hs.openCommands, if_neg]
    rintro ⟨-, hres⟩
    rw [hc] at hres
    cases hres
  · intro c error herror
    rw [writeUnresolved_congr hwrite]
    rw [hs.deferredErrors, h.deferred_closing hlive] at herror
    split at herror
    · split at herror
      · assumption
      · cases herror
    · cases herror
  · intro w write c hw hc hkind
    rw [hwrite] at hw
    have hunres : core.writeUnresolved c = true := writeUnresolved_iff.mpr ⟨w, write, hw, hc⟩
    rcases hkind with hkind | ⟨sb, hkind⟩
    · -- a control request of ours would still be the active transaction
      obtain ⟨transaction, ht, -⟩ := h.write_control hlive w write c hw hkind hc
      rw [hidle] at ht
      cases ht
    · obtain ⟨kind, hopenKind, hopen⟩ := h.write_open w write c hw hc
      rw [hkind, PendingWriteKind.openKind, Option.some.injEq] at hopenKind
      have hdata : c ∈ core.dataCommands := by
        rw [mem_dataCommands, hopen, ← hopenKind]
        exact Or.inr rfl
      exact ⟨_, by rw [hs.deferredErrors, if_pos hdata, if_pos hunres]⟩
  · rw [hframe]
    exact ⟨rfl, rfl⟩
  · rw [hframe]
    exact Or.inr (Or.inl rfl)

theorem Coherent.closes_of_abandoned (h : Coherent fresh core) (hclosing : core.closing = true)
    (ha : core.Abandoned after) : Closes core after := by
  have hframe := ha.frame
  have hnone : ∀ c, after.writeUnresolved c = false := by
    intro c
    rw [writeUnresolved_eq_false_iff]
    intro w write hw
    rw [hframe] at hw
    cases ExtTreeMap.getElem?_empty.symm.trans hw
  obtain ⟨hidle, hempty⟩ := h.closing_empty hclosing
  have hissued := h.closing_issued
  constructor
  · rw [hframe]
    exact ⟨hclosing, hissued.trans hclosing⟩
  · rw [hframe]
    exact hidle
  · rw [hframe]
    exact hempty
  · intro w write hw
    rw [hframe] at hw
    cases ExtTreeMap.getElem?_empty.symm.trans hw
  · intro c
    rw [ha.openCommands]
    split
    · exact Or.inr rfl
    · exact Or.inl rfl
  · intro c hc
    rw [hnone] at hc
    cases hc
  · intro c error herror
    rw [ha.deferredErrors] at herror
    split at herror
    · cases herror
    · rename_i hres
      exact absurd (h.deferred_write c error herror) hres
  · intro w write c hw
    rw [hframe] at hw
    cases ExtTreeMap.getElem?_empty.symm.trans hw
  · rw [hframe]
    exact ⟨rfl, rfl⟩
  · rw [hframe]
    exact h.state_range

end Closing

/-! ## Removing a command -/

namespace SessionCore

variable {core : SessionCore} {removed : Option CommandId}

theorem release_frame (core : SessionCore) (removed : Option CommandId) :
    core.release removed = { core with
    openCommands := (core.release removed).openCommands
    deferredErrors := (core.release removed).deferredErrors
    pendingWrites := (core.release removed).pendingWrites } := by
  cases removed with
  | none => rfl
  | some r => rfl

theorem removeTransactionForWrite_frame (core : SessionCore) (w : WriteId)
    (kind : PendingWriteKind) :
    core.removeTransactionForWrite w kind = { core with
      activeTransaction := (core.removeTransactionForWrite w kind).activeTransaction
      dataTransactions := (core.removeTransactionForWrite w kind).dataTransactions } := by
  cases kind with
  | transactionRequest => unfold removeTransactionForWrite; dsimp only; split <;> rfl
  | dataRequest sb => unfold removeTransactionForWrite; dsimp only; split <;> rfl
  | dataSend correlation => rfl
  | response => rfl
  | separate => rfl

theorem getElem?_openCommands_release (c : CommandId) :
    (core.release removed).openCommands[c]? =
      if removed = some c then none else core.openCommands[c]? := by
  cases removed with
  | none => rw [if_neg (by simp)]; rfl
  | some r => simp only [release, getElem?_openCommands_detach, Option.some.injEq]

theorem getElem?_deferredErrors_release (c : CommandId) :
    (core.release removed).deferredErrors[c]? =
      if removed = some c then none else core.deferredErrors[c]? := by
  cases removed with
  | none => rw [if_neg (by simp)]; rfl
  | some r => simp only [release, getElem?_deferredErrors_detach, Option.some.injEq]

/-- A write after a release is a write of before that has forgotten the released command. -/
theorem of_getElem?_pendingWrites_release {w : WriteId} {write : PendingWrite}
    (hw : (core.release removed).pendingWrites[w]? = some write) :
    ∃ before, core.pendingWrites[w]? = some before ∧ write.kind = before.kind ∧
      ∀ c, write.commandId = some c ↔ before.commandId = some c ∧ removed ≠ some c := by
  cases removed with
  | none => exact ⟨write, hw, rfl, fun c => by simp⟩
  | some r =>
    obtain ⟨before, hbefore, hkind, hiff⟩ := of_getElem?_pendingWrites_detach hw
    refine ⟨before, hbefore, hkind, fun c => ?_⟩
    rw [hiff c]
    refine and_congr_right fun _ => not_congr ?_
    rw [Option.some.injEq, eq_comm]

theorem getElem?_pendingWrites_release_of_ne {w : WriteId} {before : PendingWrite} {c : CommandId}
    (hw : core.pendingWrites[w]? = some before) (hc : before.commandId = some c)
    (hne : removed ≠ some c) : (core.release removed).pendingWrites[w]? = some before := by
  cases removed with
  | none => exact hw
  | some r =>
    rw [release, getElem?_pendingWrites_detach, hw, Option.map_some, if_neg]
    rw [hc]
    exact fun h => hne h.symm

end SessionCore

section Removing

variable {removed : Option CommandId} {core after : SessionCore}

/-- A release, together with whatever fields of the Core a retiring effect resets.  Writes may be
gone that belong to no other command. -/
theorem Removes.of_release (hopen : after.openCommands = (core.release removed).openCommands)
    (hdeferred : after.deferredErrors = (core.release removed).deferredErrors)
    (hpending : ∀ w : WriteId,
      after.pendingWrites[w]? = (core.release removed).pendingWrites[w]? ∨
      after.pendingWrites[w]? = none ∧ ∀ before c, core.pendingWrites[w]? = some before →
        before.commandId = some c → removed = some c)
    (hcontrol : (after.activeTransaction = core.activeTransaction ∧
        ∀ transaction c, core.activeTransaction = some transaction →
          transaction.commandId = some c → removed ≠ some c) ∨
      (after.activeTransaction = none ∧
        ∀ transaction c, core.activeTransaction = some transaction →
          transaction.commandId = some c → removed = some c))
    (hdrain : after.closing = false → after.deselectDrain = none ∨
      after.deselectDrain = core.deselectDrain ∧
        ∀ drain, core.deselectDrain = some drain → removed ≠ some drain.commandId)
    (hrequest : ∀ (sb : SystemBytes) transaction,
      after.dataTransactions[sb]? = some transaction ↔
        core.dataTransactions[sb]? = some transaction ∧ removed ≠ some transaction.commandId)
    (hused : after.nextWriteId = core.nextWriteId ∧ after.nextSystemBytes = core.nextSystemBytes)
    (hclosing : after.closing = core.closing ∧
      after.closeActionIssued = core.closeActionIssued) : Removes removed core after where
  open_ c := by rw [hopen, getElem?_openCommands_release]
  deferred c := by rw [hdeferred, getElem?_deferredErrors_release]
  write w write hw := by
    rcases hpending w with heq | ⟨hnone, -⟩
    · exact of_getElem?_pendingWrites_release (heq ▸ hw)
    · rw [hnone] at hw
      cases hw
  write_kept w before c hw hc hne := by
    rcases hpending w with heq | ⟨-, hgone⟩
    · exact ⟨before, by rw [heq, getElem?_pendingWrites_release_of_ne hw hc hne], hc⟩
    · exact absurd (hgone before c hw hc) hne
  control := hcontrol
  drain := hdrain
  request := hrequest
  used := hused
  closing := hclosing

/-- An effect that touches none of the tables removes nothing. -/
theorem Removes.of_same (hopen : after.openCommands = core.openCommands)
    (hdeferred : after.deferredErrors = core.deferredErrors)
    (hpending : after.pendingWrites = core.pendingWrites)
    (hcontrol : after.activeTransaction = core.activeTransaction)
    (hdrain : after.deselectDrain = core.deselectDrain)
    (hrequest : after.dataTransactions = core.dataTransactions)
    (hused : after.nextWriteId = core.nextWriteId ∧ after.nextSystemBytes = core.nextSystemBytes)
    (hclosing : after.closing = core.closing ∧
      after.closeActionIssued = core.closeActionIssued) : Removes none core after := by
  refine .of_release hopen hdeferred (fun w => Or.inl ?_) (Or.inl ⟨hcontrol, ?_⟩)
    (fun _ => Or.inr ⟨hdrain, ?_⟩) (fun sb transaction => ?_) hused hclosing
  · rw [hpending]
    rfl
  · intro _ _ _ _ h
    cases h
  · intro _ _ h
    cases h
  · rw [hrequest]
    exact ⟨fun h => ⟨h, fun hn => by cases hn⟩, And.left⟩

end Removing

section Steps

variable {fresh : Option CommandId} {core : SessionCore}

theorem Coherent.live_of_active (h : Coherent fresh core) {transaction : ControlTransaction}
    (ht : core.activeTransaction = some transaction) : core.closing = false := by
  cases hclosing : core.closing with
  | false => rfl
  | true =>
    rw [(h.closing_empty hclosing).1] at ht
    cases ht

theorem Coherent.live_of_request (h : Coherent fresh core) {sb : SystemBytes}
    {transaction : DataTransaction} (ht : core.dataTransactions[sb]? = some transaction) :
    core.closing = false := by
  cases hclosing : core.closing with
  | false => rfl
  | true =>
    rw [(h.closing_empty hclosing).2, ExtTreeMap.getElem?_empty] at ht
    cases ht

/-- The command of the control transaction is not that of a Data Request. -/
theorem Coherent.control_ne_request (h : Coherent fresh core) {transaction : ControlTransaction}
    {sb : SystemBytes} {request : DataTransaction}
    (ht : core.activeTransaction = some transaction)
    (hr : core.dataTransactions[sb]? = some request) :
    transaction.commandId ≠ some request.commandId := by
  intro hc
  have hcontrol := h.control_open transaction _ ht hc
  rw [h.request_open sb request hr] at hcontrol
  cases hcontrol

/-- The command of the drain is not that of a Data Request. -/
theorem Coherent.drain_ne_request (h : Coherent fresh core) (hlive : core.closing = false)
    {drain : DeselectDrain} {sb : SystemBytes} {request : DataTransaction}
    (hd : core.deselectDrain = some drain)
    (hr : core.dataTransactions[sb]? = some request) : drain.commandId ≠ request.commandId := by
  intro hc
  have hcontrol := h.drain_open hlive drain hd
  rw [hc, h.request_open sb request hr] at hcontrol
  cases hcontrol

/-- The commands of the drain and of the control transaction differ: there is only one of them. -/
theorem Coherent.drain_ne_control (h : Coherent fresh core) (hlive : core.closing = false)
    {drain : DeselectDrain} {transaction : ControlTransaction}
    (hd : core.deselectDrain = some drain) (ht : core.activeTransaction = some transaction) :
    transaction.commandId ≠ some drain.commandId := by
  rw [(h.drain_alone hlive (by rw [hd]; rfl)).1] at ht
  cases ht

/-- No write belongs to the command of a drain. -/
theorem Coherent.drain_unwritten (h : Coherent fresh core) (hlive : core.closing = false)
    {drain : DeselectDrain} (hd : core.deselectDrain = some drain) :
    core.writeUnresolved drain.commandId = false := by
  rw [writeUnresolved_eq_false_iff]
  intro w write hw hc
  obtain ⟨kind, hkind, hopen⟩ := h.write_open w write _ hw hc
  rw [h.drain_open hlive drain hd, Option.some.injEq] at hopen
  subst hopen
  cases hwrite : write.kind with
  | transactionRequest =>
    obtain ⟨transaction, ht, -⟩ := h.write_control hlive w write _ hw hwrite hc
    rw [(h.drain_alone hlive (by rw [hd]; rfl)).1] at ht
    cases ht
  | separate => exact h.write_separate hlive w write hw hwrite
  | dataSend correlation => simp [hwrite, PendingWriteKind.openKind] at hkind
  | dataRequest sb => simp [hwrite, PendingWriteKind.openKind] at hkind
  | response => simp [hwrite, PendingWriteKind.openKind] at hkind

/-- Only the transaction under whose System Bytes a Request is live belongs to its command. -/
theorem Coherent.request_erase (h : Coherent fresh core) {sb sb' : SystemBytes}
    {transaction transaction' : DataTransaction}
    (ht : core.dataTransactions[sb]? = some transaction) :
    (core.dataTransactions.erase sb)[sb']? = some transaction' ↔
      core.dataTransactions[sb']? = some transaction' ∧
        some transaction.commandId ≠ some transaction'.commandId := by
  rw [TreeMap.getElem?_erase]
  by_cases hsb : sb = sb'
  · subst hsb
    rw [if_pos rfl, ht, Option.some.injEq]
    exact ⟨nofun, fun ⟨heq, hne⟩ => absurd (by rw [heq]) hne⟩
  · rw [if_neg hsb]
    refine ⟨fun ht' => ⟨ht', fun hc => hsb ?_⟩, And.left⟩
    exact h.request_unique sb sb' transaction transaction' ht ht' (Option.some.inj hc)

/-- An effect that changes the selection state and leaves the tables alone. -/
theorem Coherent.reselect {after : SessionCore} (h : Coherent fresh core)
    (hr : Removes none core after)
    (hrange : after.state = some .notSelected ∨ after.state = some .selected)
    (hquiet : after.closing = false → after.state ≠ some .selected →
      after.DataQuiet ∧ after.replyContracts = ∅) : Coherent fresh after := by
  refine h.shrink (hr.shrinks h) (hr.settles h (Or.inr hrange) ?_ hquiet) fun c hc => ⟨hc, ?_⟩
  · intro _ _
    rcases hrange with hstate | hstate
    · rw [hstate]
      rfl
    · rw [hstate]
      rfl
  · obtain ⟨kind, hopen⟩ := h.fresh_open c hc
    rw [hr.isSome_open, hopen]
    exact ⟨rfl, nofun⟩

/-- A command with no transaction and no drain is detached. -/
theorem Coherent.detach {fresh' : Option CommandId} {c : CommandId} (h : Coherent fresh core)
    (hcontrol : ∀ transaction, core.activeTransaction = some transaction →
      transaction.commandId ≠ some c)
    (hdrain : core.closing = false → ∀ drain, core.deselectDrain = some drain →
      drain.commandId ≠ c)
    (hrequest : ∀ (sb : SystemBytes) transaction, core.dataTransactions[sb]? = some transaction →
      transaction.commandId ≠ c)
    (hfresh : ∀ c', fresh' = some c' → fresh = some c' ∧ c ≠ c') :
    Coherent fresh' (core.detach c) := by
  have hr : Removes (some c) core (core.detach c) := by
    refine .of_release rfl rfl (fun _ => Or.inl rfl) (Or.inl ⟨rfl, ?_⟩)
      (fun hlive => Or.inr ⟨rfl, ?_⟩)
      (fun sb transaction => ⟨fun ht => ⟨ht, ?_⟩, And.left⟩) ⟨rfl, rfl⟩ ⟨rfl, rfl⟩
    · intro transaction c' ht hc' heq
      cases heq
      exact hcontrol transaction ht hc'
    · intro drain hd heq
      exact hdrain hlive drain hd (Option.some.inj heq).symm
    · intro heq
      exact hrequest sb transaction ht (Option.some.inj heq).symm
  refine h.remove hr rfl id fun c' hc' => ?_
  obtain ⟨hc', hne⟩ := hfresh c' hc'
  exact ⟨hc', fun heq => hne (Option.some.inj heq)⟩

/-- The accepted command is refused. -/
theorem Coherent.refuse {c : CommandId} (h : Coherent (some c) core) :
    Coherent none (core.detach c) := by
  have hun := h.fresh_unreferenced c rfl
  exact h.detach hun.control hun.drain hun.request nofun

/-- A command whose write carries a Data message that we sent without expecting a reply. -/
theorem Coherent.detach_send {c : CommandId} (h : Coherent fresh core)
    (hopen : core.openCommands[c]? = some .send) (hfresh : fresh ≠ some c) :
    Coherent fresh (core.detach c) := by
  refine h.detach ?_ ?_ ?_ fun c' hc' => ⟨hc', ?_⟩
  · intro transaction ht hc
    rw [h.control_open transaction c ht hc] at hopen
    cases hopen
  · intro hlive drain hd hc
    rw [← hc, h.drain_open hlive drain hd] at hopen
    cases hopen
  · intro sb transaction ht hc
    rw [← hc, h.request_open sb transaction ht] at hopen
    cases hopen
  · rintro rfl
    exact hfresh hc'

theorem Coherent.endDrain {drain : DeselectDrain} (h : Coherent fresh core)
    (hlive : core.closing = false) (hd : core.deselectDrain = some drain) :
    Coherent fresh { core.detach drain.commandId with deselectDrain := none } := by
  have hr : Removes (some drain.commandId) core
      { core.detach drain.commandId with deselectDrain := none } := by
    refine .of_release rfl rfl (fun _ => Or.inl rfl) (Or.inl ⟨rfl, ?_⟩) (fun _ => Or.inl rfl)
      (fun sb transaction => ⟨fun ht => ⟨ht, ?_⟩, And.left⟩) ⟨rfl, rfl⟩ ⟨rfl, rfl⟩
    · intro transaction c ht hc heq
      exact h.drain_ne_control hlive hd ht (hc.trans heq.symm)
    · intro heq
      exact h.drain_ne_request hlive hd ht (Option.some.inj heq)
  refine h.remove hr rfl id fun c hc => ⟨hc, fun heq => ?_⟩
  exact (h.fresh_unreferenced c hc).drain hlive drain hd (Option.some.inj heq)

theorem Coherent.retireControl {transaction : ControlTransaction} (h : Coherent fresh core)
    (ht : core.activeTransaction = some transaction) :
    Coherent fresh { core.release transaction.commandId with activeTransaction := none } := by
  have hlive := h.live_of_active ht
  have hsame : (core.release transaction.commandId).dataTransactions = core.dataTransactions ∧
      (core.release transaction.commandId).deselectDrain = core.deselectDrain ∧
      (core.release transaction.commandId).nextWriteId = core.nextWriteId ∧
      (core.release transaction.commandId).nextSystemBytes = core.nextSystemBytes ∧
      (core.release transaction.commandId).closing = core.closing ∧
      (core.release transaction.commandId).closeActionIssued = core.closeActionIssued ∧
      (core.release transaction.commandId).state = core.state ∧
      (core.release transaction.commandId).replyContracts = core.replyContracts := by
    cases transaction.commandId with
    | none => exact ⟨rfl, rfl, rfl, rfl, rfl, rfl, rfl, rfl⟩
    | some c => exact ⟨rfl, rfl, rfl, rfl, rfl, rfl, rfl, rfl⟩
  obtain ⟨hdata, hdrain, hwrite, hbytes, hclosing, hissued, hstate, hcontracts⟩ := hsame
  have hr : Removes transaction.commandId core
      { core.release transaction.commandId with activeTransaction := none } := by
    refine .of_release rfl rfl (fun _ => Or.inl rfl) (Or.inr ⟨rfl, ?_⟩)
      (fun _ => Or.inr ⟨hdrain, ?_⟩) (fun sb request => ?_) ⟨hwrite, hbytes⟩ ⟨hclosing, hissued⟩
    · intro transaction' c ht' hc
      rw [ht] at ht'
      cases ht'
      exact hc
    · intro drain hd
      exact h.drain_ne_control hlive hd ht
    · show (core.release transaction.commandId).dataTransactions[sb]? = some request ↔ _
      rw [hdata]
      exact ⟨fun hsb => ⟨hsb, h.control_ne_request ht hsb⟩, And.left⟩
  refine h.remove hr hstate (fun hempty => hcontracts.trans hempty) fun c hc => ⟨hc, ?_⟩
  exact (h.fresh_unreferenced c hc).control transaction ht

theorem Coherent.retireRequest {sb : SystemBytes} {transaction : DataTransaction}
    (h : Coherent fresh core) (ht : core.dataTransactions[sb]? = some transaction)
    (tombstones : TransactionTombstones) :
    Coherent fresh { (core.detach transaction.commandId).eraseTransaction sb with
      tombstones := tombstones } := by
  have hlive := h.live_of_request ht
  have hr : Removes (some transaction.commandId) core
      { (core.detach transaction.commandId).eraseTransaction sb with tombstones :=
        tombstones } := by
    refine .of_release rfl rfl (fun _ => Or.inl rfl) (Or.inl ⟨rfl, ?_⟩) (fun _ => Or.inr ⟨rfl, ?_⟩)
      (fun sb' transaction' => h.request_erase ht) ⟨rfl, rfl⟩ ⟨rfl, rfl⟩
    · intro control c hcontrol hc heq
      exact h.control_ne_request hcontrol ht (hc.trans heq.symm)
    · intro drain hd heq
      exact h.drain_ne_request hlive hd ht (Option.some.inj heq).symm
  refine h.remove hr rfl id fun c hc => ⟨hc, fun heq => ?_⟩
  exact (h.fresh_unreferenced c hc).request sb transaction ht (Option.some.inj heq)

/-! ## Resolving a write -/

theorem eraseWrite_pendingWrites (core : SessionCore) (w a : WriteId) :
    (core.eraseWrite w).pendingWrites[a]? = if w = a then none else core.pendingWrites[a]? :=
  TreeMap.getElem?_erase _ _

/-- After a release, an erased write is gone and the others are as a release leaves them. -/
theorem getElem?_pendingWrites_eraseWrite_release {removed : Option CommandId} {w : WriteId}
    {write : PendingWrite} (hw : core.pendingWrites[w]? = some write)
    (hc : ∀ c, write.commandId = some c → removed = some c) (a : WriteId) :
    ((core.eraseWrite w).release removed).pendingWrites[a]? =
        (core.release removed).pendingWrites[a]? ∨
      ((core.eraseWrite w).release removed).pendingWrites[a]? = none ∧
        ∀ before c, core.pendingWrites[a]? = some before → before.commandId = some c →
          removed = some c := by
  by_cases ha : w = a
  · subst ha
    refine Or.inr ⟨?_, fun before c hbefore hbc => ?_⟩
    · cases removed with
      | none => rw [release, eraseWrite_pendingWrites, if_pos rfl]
      | some r =>
        rw [release, getElem?_pendingWrites_detach, eraseWrite_pendingWrites, if_pos rfl,
          Option.map_none]
    · rw [hw] at hbefore
      cases hbefore
      exact hc c hbc
  · left
    cases removed with
    | none => rw [release, release, eraseWrite_pendingWrites, if_neg ha]
    | some r =>
      rw [release, release, getElem?_pendingWrites_detach, getElem?_pendingWrites_detach,
        eraseWrite_pendingWrites, if_neg ha]

/-- A control transaction and a write of the same command belong together. -/
theorem Coherent.control_of_shared (h : Coherent fresh core) {transaction : ControlTransaction}
    {w : WriteId} {write : PendingWrite} {c : CommandId}
    (ht : core.activeTransaction = some transaction) (hc : transaction.commandId = some c)
    (hw : core.pendingWrites[w]? = some write) (hwc : write.commandId = some c) :
    write.kind = .transactionRequest ∧ transaction.writeId = w := by
  have hlive := h.live_of_active ht
  obtain ⟨kind, hkind, hopen⟩ := h.write_open w write c hw hwc
  rw [h.control_open transaction c ht hc, Option.some.injEq] at hopen
  subst hopen
  cases hwrite : write.kind with
  | transactionRequest =>
    obtain ⟨transaction', ht', hown, -⟩ := h.write_control hlive w write c hw hwrite hwc
    rw [ht] at ht'
    cases ht'
    exact ⟨rfl, hown⟩
  | separate => exact absurd hwrite (h.write_separate hlive w write hw)
  | dataSend correlation => simp [hwrite, PendingWriteKind.openKind] at hkind
  | dataRequest sb => simp [hwrite, PendingWriteKind.openKind] at hkind
  | response => simp [hwrite, PendingWriteKind.openKind] at hkind

/-- A Data Request and a write of the same command belong together. -/
theorem Coherent.request_of_shared (h : Coherent fresh core) {sb : SystemBytes}
    {transaction : DataTransaction} {w : WriteId} {write : PendingWrite}
    (ht : core.dataTransactions[sb]? = some transaction)
    (hw : core.pendingWrites[w]? = some write)
    (hwc : write.commandId = some transaction.commandId) :
    write.kind = .dataRequest sb ∧ transaction.writeId = w := by
  have hlive := h.live_of_request ht
  obtain ⟨kind, hkind, hopen⟩ := h.write_open w write _ hw hwc
  rw [h.request_open sb transaction ht, Option.some.injEq] at hopen
  subst hopen
  cases hwrite : write.kind with
  | dataRequest sb' =>
    obtain ⟨transaction', ht', hown, hc⟩ := h.write_request hlive w write sb' _ hw hwrite hwc
    obtain rfl := h.request_unique sb sb' transaction transaction' ht ht' hc.symm
    rw [ht] at ht'
    cases ht'
    exact ⟨rfl, hown⟩
  | transactionRequest => simp [hwrite, PendingWriteKind.openKind] at hkind
  | separate => simp [hwrite, PendingWriteKind.openKind] at hkind
  | dataSend correlation => simp [hwrite, PendingWriteKind.openKind] at hkind
  | response => simp [hwrite, PendingWriteKind.openKind] at hkind

/-- A resolved write takes its command along when the command has neither a transaction nor a
drain. -/
theorem Coherent.concludeWrite {w : WriteId} {write : PendingWrite} (h : Coherent none core)
    (hw : core.pendingWrites[w]? = some write)
    (hfree : ∀ c, write.commandId = some c →
      core.closing = true ∨ core.openCommands[c]? = some .send) :
    Coherent none ((core.eraseWrite w).release write.commandId) := by
  have hframe := release_frame (core.eraseWrite w) write.commandId
  have hr : Removes write.commandId core ((core.eraseWrite w).release write.commandId) := by
    refine .of_release ?_ ?_ (getElem?_pendingWrites_eraseWrite_release hw fun _ hc => hc)
      (Or.inl ⟨?_, ?_⟩) (fun hlive => Or.inr ⟨?_, ?_⟩) (fun sb transaction => ?_) ?_ ?_
    · cases write.commandId <;> rfl
    · cases write.commandId <;> rfl
    · rw [hframe]
      rfl
    · intro transaction c ht hc hwc
      rcases hfree c hwc with hclosing | hopen
      · rw [h.live_of_active ht] at hclosing
        cases hclosing
      · rw [h.control_open transaction c ht hc] at hopen
        cases hopen
    · rw [hframe]
      rfl
    · rw [hframe] at hlive
      intro drain hd hwc
      rcases hfree _ hwc with hclosing | hopen
      · exact absurd hclosing (by rw [show core.closing = false from hlive]; simp)
      · rw [h.drain_open hlive drain hd] at hopen
        cases hopen
    · rw [hframe]
      refine ⟨fun ht => ⟨ht, fun hwc => ?_⟩, And.left⟩
      rcases hfree _ hwc with hclosing | hopen
      · rw [h.live_of_request ht] at hclosing
        cases hclosing
      · rw [h.request_open sb transaction ht] at hopen
        cases hopen
    · rw [hframe]
      exact ⟨rfl, rfl⟩
    · rw [hframe]
      exact ⟨rfl, rfl⟩
  refine h.remove hr ?_ (fun hempty => ?_) nofun
  · rw [hframe]
    rfl
  · rw [hframe]
    exact hempty

/-- What the failure of a write does to the control transaction: it goes exactly when it is the
write's own. -/
theorem Coherent.failWrite_control {w : WriteId} {write : PendingWrite} (h : Coherent none core)
    (hw : core.pendingWrites[w]? = some write) :
    (((core.eraseWrite w).removeTransactionForWrite w write.kind).activeTransaction =
        core.activeTransaction ∧
      ∀ transaction c, core.activeTransaction = some transaction →
        transaction.commandId = some c → write.commandId ≠ some c) ∨
    (((core.eraseWrite w).removeTransactionForWrite w write.kind).activeTransaction = none ∧
      ∀ transaction c, core.activeTransaction = some transaction →
        transaction.commandId = some c → write.commandId = some c) := by
  by_cases hown : write.kind = .transactionRequest ∧
      ∃ transaction, core.activeTransaction = some transaction ∧ transaction.writeId = w
  · obtain ⟨hkind, transaction, ht, rfl⟩ := hown
    refine Or.inr ⟨?_, fun transaction' c ht' hc => ?_⟩
    · rw [hkind]
      simp only [removeTransactionForWrite, eraseWrite, ht, Option.any_some, decide_true, if_true]
    · rw [ht] at ht'
      cases ht'
      rw [(h.control_write transaction write ht hw).2, hc]
  · refine Or.inl ⟨?_, fun transaction c ht hc hwc => ?_⟩
    · cases hkind : write.kind with
      | transactionRequest =>
        have hany : (core.activeTransaction.any fun transaction => transaction.writeId = w) =
            false := by
          rw [Option.any_eq_false]
          intro transaction ht
          exact decide_eq_false fun heq => hown ⟨hkind, transaction, ht, heq⟩
        simp only [removeTransactionForWrite, eraseWrite, hany, Bool.false_eq_true, if_false]
      | dataRequest sb =>
        simp only [removeTransactionForWrite]
        split <;> rfl
      | dataSend correlation => rfl
      | response => rfl
      | separate => rfl
    · obtain ⟨hkind, hwrite⟩ := h.control_of_shared ht hc hw hwc
      exact hown ⟨hkind, transaction, ht, hwrite⟩

/-- The same for the Data transactions. -/
theorem Coherent.failWrite_request {w : WriteId} {write : PendingWrite} (h : Coherent none core)
    (hw : core.pendingWrites[w]? = some write) (sb : SystemBytes) (transaction : DataTransaction) :
    ((core.eraseWrite w).removeTransactionForWrite w write.kind).dataTransactions[sb]? =
        some transaction ↔
      core.dataTransactions[sb]? = some transaction ∧
        write.commandId ≠ some transaction.commandId := by
  by_cases hown : ∃ sb' own, write.kind = .dataRequest sb' ∧
      core.dataTransactions[sb']? = some own ∧ own.writeId = w
  · obtain ⟨sb', own, hkind, ht, rfl⟩ := hown
    obtain ⟨-, hc⟩ := h.request_write sb' own write ht hw
    rw [hkind, hc]
    simp only [removeTransactionForWrite, eraseWrite, ht, Option.any_some, decide_true, if_true]
    exact h.request_erase ht
  · have hsame : ((core.eraseWrite w).removeTransactionForWrite w write.kind).dataTransactions =
        core.dataTransactions := by
      cases hkind : write.kind with
      | transactionRequest =>
        simp only [removeTransactionForWrite]
        split <;> rfl
      | dataRequest sb' =>
        have hany : (core.dataTransactions[sb']?.any fun transaction => transaction.writeId = w) =
            false := by
          rw [Option.any_eq_false]
          intro own ht
          exact decide_eq_false fun heq => hown ⟨sb', own, hkind, ht, heq⟩
        simp only [removeTransactionForWrite, eraseWrite, hany, Bool.false_eq_true, if_false]
      | dataSend correlation => rfl
      | response => rfl
      | separate => rfl
    rw [hsame]
    refine ⟨fun ht => ⟨ht, fun hwc => ?_⟩, And.left⟩
    obtain ⟨hkind, hwrite⟩ := h.request_of_shared ht hw hwc
    exact hown ⟨sb, transaction, hkind, ht, hwrite⟩

theorem Coherent.failWrite {w : WriteId} {write : PendingWrite} (h : Coherent none core)
    (hw : core.pendingWrites[w]? = some write) :
    Coherent none
      (((core.eraseWrite w).removeTransactionForWrite w write.kind).release write.commandId) := by
  have hremove := removeTransactionForWrite_frame (core.eraseWrite w) w write.kind
  have hcontrol := h.failWrite_control hw
  have hrequest := h.failWrite_request hw
  have hpending := getElem?_pendingWrites_eraseWrite_release hw fun _ hc => hc
  generalize (core.eraseWrite w).removeTransactionForWrite w write.kind = mid at *
  have hframe := release_frame mid write.commandId
  have hr : Removes write.commandId core (mid.release write.commandId) := by
    refine .of_release ?_ ?_ (fun a => ?_) ?_ (fun hlive => Or.inr ⟨?_, ?_⟩) ?_ ?_ ?_
    · rw [hremove]
      cases write.commandId <;> rfl
    · rw [hremove]
      cases write.commandId <;> rfl
    · have hsame : (mid.release write.commandId).pendingWrites =
          ((core.eraseWrite w).release write.commandId).pendingWrites := by
        rw [hremove]
        cases write.commandId <;> rfl
      rw [hsame]
      exact hpending a
    · rw [hframe]
      exact hcontrol
    · rw [hframe, hremove]
      rfl
    · rw [hframe, hremove] at hlive
      intro drain hd hwc
      have hnone := h.drain_unwritten hlive hd
      rw [writeUnresolved_eq_false_iff] at hnone
      exact hnone w write hw hwc
    · rw [hframe]
      exact hrequest
    · rw [hframe, hremove]
      exact ⟨rfl, rfl⟩
    · rw [hframe, hremove]
      exact ⟨rfl, rfl⟩
  refine h.remove hr ?_ (fun hempty => ?_) nofun
  · rw [hframe, hremove]
    rfl
  · rw [hframe, hremove]
    exact hempty

end Steps

/-! ## Arming a timer -/

/-- `after` is `core` without the committed write `w`; the transactions are the same up to the
deadline of the one to which the write belongs. -/
structure Arms (w : WriteId) (core after : SessionCore) : Prop where
  frame : after = { core.eraseWrite w with
    activeTransaction := after.activeTransaction
    dataTransactions := after.dataTransactions }
  live : core.closing = false
  control : ∀ transaction, after.activeTransaction = some transaction →
    ∃ before, core.activeTransaction = some before ∧ transaction.commandId = before.commandId ∧
      transaction.writeId = before.writeId ∧ transaction.kind = before.kind ∧
      (transaction.deadline = before.deadline ∨ before.writeId = w)
  control_kept : ∀ before, core.activeTransaction = some before →
    ∃ transaction, after.activeTransaction = some transaction ∧
      transaction.commandId = before.commandId ∧ transaction.writeId = before.writeId
  request : ∀ (sb : SystemBytes) transaction, after.dataTransactions[sb]? = some transaction →
    ∃ before, core.dataTransactions[sb]? = some before ∧
      transaction.commandId = before.commandId ∧ transaction.writeId = before.writeId ∧
      transaction.responseContract = before.responseContract ∧
      (transaction.deadline = before.deadline ∨ before.writeId = w)
  request_kept : ∀ (sb : SystemBytes) before, core.dataTransactions[sb]? = some before →
    ∃ transaction, after.dataTransactions[sb]? = some transaction ∧
      transaction.commandId = before.commandId ∧ transaction.writeId = before.writeId

namespace Arms

variable {w : WriteId} {core after : SessionCore}

theorem of_pending (ha : Arms w core after) {a : WriteId} {write : PendingWrite}
    (hw : after.pendingWrites[a]? = some write) :
    a ≠ w ∧ core.pendingWrites[a]? = some write := by
  rw [ha.frame] at hw
  have hlook := eraseWrite_pendingWrites core w a
  rw [show (core.eraseWrite w).pendingWrites[a]? = some write from hw] at hlook
  split at hlook
  · cases hlook
  · rename_i hne
    exact ⟨fun heq => hne heq.symm, hlook.symm⟩

theorem pending_none (ha : Arms w core after) {a : WriteId}
    (hw : a = w ∨ core.pendingWrites[a]? = none) : after.pendingWrites[a]? = none := by
  cases hafter : after.pendingWrites[a]? with
  | none => rfl
  | some write =>
    obtain ⟨hne, hcore⟩ := ha.of_pending hafter
    rcases hw with heq | hnone
    · exact absurd heq hne
    · rw [hnone] at hcore
      cases hcore

theorem dataQuiet (ha : Arms w core after) (hq : core.DataQuiet) : after.DataQuiet := by
  refine ⟨TreeMap.eq_empty_iff.mpr fun sb => ?_, fun a write hw =>
    hq.2 a write (ha.of_pending hw).2⟩
  cases hsb : after.dataTransactions[sb]? with
  | none => rfl
  | some transaction =>
    obtain ⟨before, hbefore, -⟩ := ha.request sb transaction hsb
    rw [hq.1, ExtTreeMap.getElem?_empty] at hbefore
    cases hbefore

end Arms

/-- **The arming rule.**  A commit that only sets the deadline of what is already there keeps
every reference. -/
theorem Coherent.arm {w : WriteId} {core after : SessionCore} (h : Coherent none core)
    (ha : Arms w core after) : Coherent none after := by
  have hopen : after.openCommands = core.openCommands := by rw [ha.frame]; rfl
  have hclosing : after.closing = core.closing := by rw [ha.frame]; rfl
  have hdrain : after.deselectDrain = core.deselectDrain := by rw [ha.frame]; rfl
  have hstate : after.state = core.state := by rw [ha.frame]; rfl
  have hnot : ∀ {p : Prop}, after.closing = true → p := by
    intro p hclosed
    rw [hclosing, ha.live] at hclosed
    cases hclosed
  have hused : ∀ a, core.WriteUsed a → after.WriteUsed a := by
    intro a hcore
    rw [ha.frame]
    exact hcore
  constructor
  case fresh_open => exact nofun
  case fresh_unreferenced => exact nofun
  case control_open =>
    intro transaction c ht hc
    obtain ⟨before, hbefore, hcommand, -⟩ := ha.control transaction ht
    rw [hopen]
    exact h.control_open before c hbefore (hcommand ▸ hc)
  case drain_open =>
    intro _ drain hd
    rw [hopen]
    exact h.drain_open ha.live drain (hdrain ▸ hd)
  case request_open =>
    intro sb transaction ht
    obtain ⟨before, hbefore, hcommand, -⟩ := ha.request sb transaction ht
    rw [hopen, hcommand]
    exact h.request_open sb before hbefore
  case write_open =>
    intro a write c hw hc
    rw [hopen]
    exact h.write_open a write c (ha.of_pending hw).2 hc
  case request_key =>
    intro sb transaction ht
    obtain ⟨before, hbefore, -, -, hcontract, -⟩ := ha.request sb transaction ht
    rw [hcontract]
    exact h.request_key sb before hbefore
  case write_unique =>
    intro a a' write write' c hw hw'
    exact h.write_unique a a' write write' c (ha.of_pending hw).2 (ha.of_pending hw').2
  case request_unique =>
    intro sb sb' transaction transaction' ht ht' hc
    obtain ⟨before, hbefore, hcommand, -⟩ := ha.request sb transaction ht
    obtain ⟨before', hbefore', hcommand', -⟩ := ha.request sb' transaction' ht'
    exact h.request_unique sb sb' before before' hbefore hbefore'
      (hcommand.symm.trans (hc.trans hcommand'))
  case write_used =>
    intro a write hw
    exact hused a (h.write_used a write (ha.of_pending hw).2)
  case control_used =>
    intro transaction ht
    obtain ⟨before, hbefore, -, hown, -⟩ := ha.control transaction ht
    rw [hown]
    exact hused _ (h.control_used before hbefore)
  case request_used =>
    intro sb transaction ht
    obtain ⟨before, hbefore, -, hown, -⟩ := ha.request sb transaction ht
    obtain ⟨hw, hsb⟩ := h.request_used sb before hbefore
    rw [hown]
    refine ⟨hused _ hw, ?_⟩
    rw [ha.frame]
    exact hsb
  case control_write =>
    intro transaction write ht hw
    obtain ⟨before, hbefore, hcommand, hown, -⟩ := ha.control transaction ht
    rw [hcommand]
    exact h.control_write before write hbefore (hown ▸ (ha.of_pending hw).2)
  case request_write =>
    intro sb transaction write ht hw
    obtain ⟨before, hbefore, hcommand, hown, -⟩ := ha.request sb transaction ht
    rw [hcommand]
    exact h.request_write sb before write hbefore (hown ▸ (ha.of_pending hw).2)
  case write_control =>
    intro _ a write c hw hkind hc
    obtain ⟨before, hbefore, hown, hcommand⟩ :=
      h.write_control ha.live a write c (ha.of_pending hw).2 hkind hc
    obtain ⟨transaction, ht, hcommand', hown'⟩ := ha.control_kept before hbefore
    exact ⟨transaction, ht, hown'.trans hown, hcommand'.trans hcommand⟩
  case write_request =>
    intro _ a write sb c hw hkind hc
    obtain ⟨before, hbefore, hown, hcommand⟩ :=
      h.write_request ha.live a write sb c (ha.of_pending hw).2 hkind hc
    obtain ⟨transaction, ht, hcommand', hown'⟩ := ha.request_kept sb before hbefore
    exact ⟨transaction, ht, hown'.trans hown, hcommand'.trans hcommand⟩
  case write_separate =>
    intro _ a write hw
    exact h.write_separate ha.live a write (ha.of_pending hw).2
  case control_armed =>
    intro transaction ht harmed
    obtain ⟨before, hbefore, -, hown, -, hdeadline⟩ := ha.control transaction ht
    rw [hown]
    rcases hdeadline with hsame | heq
    · rw [hsame] at harmed
      exact ha.pending_none (Or.inr (h.control_armed before hbefore harmed))
    · exact ha.pending_none (Or.inl heq)
  case request_armed =>
    intro sb transaction ht harmed
    obtain ⟨before, hbefore, -, hown, -, hdeadline⟩ := ha.request sb transaction ht
    rw [hown]
    rcases hdeadline with hsame | heq
    · rw [hsame] at harmed
      exact ha.pending_none (Or.inr (h.request_armed sb before hbefore harmed))
    · exact ha.pending_none (Or.inl heq)
  case drain_alone =>
    intro _ hd
    rw [hdrain] at hd
    obtain ⟨hidle, hsome⟩ := h.drain_alone ha.live hd
    refine ⟨?_, by rw [hstate, hsome]⟩
    cases ht : after.activeTransaction with
    | none => rfl
    | some transaction =>
      obtain ⟨before, hbefore, -⟩ := ha.control transaction ht
      rw [hidle] at hbefore
      cases hbefore
  case closing_empty => exact hnot
  case closing_issued =>
    rw [hclosing, ha.frame]
    exact h.closing_issued
  case deferred_closing =>
    intro _ c
    rw [ha.frame]
    exact h.deferred_closing ha.live c
  case deferred_write =>
    intro c error herror
    rw [ha.frame] at herror
    cases (h.deferred_closing ha.live c).symm.trans herror
  case closing_deferred => exact hnot
  case state_range =>
    rw [hstate]
    exact h.state_range
  case deselect_quiet =>
    intro transaction ht hkind
    obtain ⟨before, hbefore, -, -, hsame, -⟩ := ha.control transaction ht
    exact ha.dataQuiet (h.deselect_quiet before hbefore (hsame ▸ hkind))
  case unselected_quiet =>
    intro _ hsel
    rw [hstate] at hsel
    obtain ⟨hquiet, hempty⟩ := h.unselected_quiet ha.live hsel
    refine ⟨ha.dataQuiet hquiet, ?_⟩
    rw [ha.frame]
    exact hempty

end Hsms
end SecsRust

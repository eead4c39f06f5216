import SecsRust.Hsms.Core.Session.Effect

/-!
# The cross-reference invariant

Five tables of the Core refer to one another: the open commands, the pending writes, the
deferred errors, the live Data transactions, and the active control transaction with its
waiting drain. `Coherent` says how: a write that names a command names one that is open, a
transaction belongs to the write of its request until that commits, a parked error waits for
an unresolved write, no command has two owners, and all identifiers in use lie behind the
counters.  The invariant holds for any initial counters. It has a parameter for the command
that has just been accepted and that nothing owns yet.

## One argument for many effects

Most effects only take entries away, and an invariant of the form "every reference is sound"
survives that when what is referred to goes together with what refers to it.  `Shrinks`
describes such an effect and `Coherent.shrink` is the one argument for all of them;
`Removes` is the case of one command (`Coherent.remove`) and `Closes` the case in which the
generation ends (`Coherent.close`).  What is left are the few effects that add an entry, all
of them with a new write: `Tracks` describes these, and the argument is that the identifier
of the write is new (`Coherent.track`).

Each rule has hypotheses about the tables before and after only, read through lookups, so
the effects of `CoherentStep` and `Preservation` discharge them without unfolding a handler.
-/

namespace SecsRust
namespace Hsms

open Std Secs2

namespace SessionCore

/-- The WriteId space has passed `writeId`. -/
def WriteUsed (core : SessionCore) (writeId : WriteId) : Prop :=
  ∀ next, core.nextWriteId = some next → writeId.raw < next

/-- The System Bytes space has passed `systemBytes`. -/
def SystemBytesUsed (core : SessionCore) (systemBytes : SystemBytes) : Prop :=
  ∀ next, core.nextSystemBytes = some next → systemBytes.raw < next

/-- Nothing in the tables belongs to the command. -/
structure Unreferenced (core : SessionCore) (c : CommandId) : Prop where
  control : ∀ transaction, core.activeTransaction = some transaction →
    transaction.commandId ≠ some c
  drain : core.closing = false → ∀ drain, core.deselectDrain = some drain → drain.commandId ≠ c
  request : ∀ (sb : SystemBytes) transaction, core.dataTransactions[sb]? = some transaction →
    transaction.commandId ≠ c
  write : ∀ (w : WriteId) write, core.pendingWrites[w]? = some write → write.commandId ≠ some c

end SessionCore

/-- The class of the command that a write of this kind completes, if it completes one. -/
def PendingWriteKind.openKind : PendingWriteKind → Option OpenCommandKind
  | .transactionRequest => some .control
  | .dataSend _ => some .send
  | .dataRequest _ => some .request
  | .separate => some .control
  | .response => none

open SessionCore

/-- **The cross-reference invariant**, with the accepted command that nothing owns yet.  Whatever
a table says of a command, the other tables bear out; this is what the defensive branches of the
source would otherwise have to find out. -/
structure Coherent (fresh : Option CommandId) (core : SessionCore) : Prop where
  -- an accepted command is open and nothing else refers to it
  fresh_open : ∀ c, fresh = some c → ∃ kind, core.openCommands[c]? = some kind
  fresh_unreferenced : ∀ c, fresh = some c → core.Unreferenced c
  -- whatever belongs to a command belongs to an open command of its class
  control_open : ∀ transaction c, core.activeTransaction = some transaction →
    transaction.commandId = some c → core.openCommands[c]? = some .control
  drain_open : core.closing = false → ∀ drain, core.deselectDrain = some drain →
    core.openCommands[drain.commandId]? = some .control
  request_open : ∀ (sb : SystemBytes) transaction, core.dataTransactions[sb]? = some transaction →
    core.openCommands[transaction.commandId]? = some .request
  write_open : ∀ (w : WriteId) write c, core.pendingWrites[w]? = some write →
    write.commandId = some c →
    ∃ kind, write.kind.openKind = some kind ∧ core.openCommands[c]? = some kind
  -- keys
  request_key : ∀ (sb : SystemBytes) transaction, core.dataTransactions[sb]? = some transaction →
    transaction.responseContract.systemBytes = sb
  write_unique : ∀ (w w' : WriteId) write write' c, core.pendingWrites[w]? = some write →
    core.pendingWrites[w']? = some write' → write.commandId = some c →
    write'.commandId = some c → w = w'
  request_unique : ∀ (sb sb' : SystemBytes) transaction transaction',
    core.dataTransactions[sb]? = some transaction →
    core.dataTransactions[sb']? = some transaction' →
    transaction.commandId = transaction'.commandId → sb = sb'
  write_used : ∀ (w : WriteId) write, core.pendingWrites[w]? = some write → core.WriteUsed w
  control_used : ∀ transaction, core.activeTransaction = some transaction →
    core.WriteUsed transaction.writeId
  request_used : ∀ (sb : SystemBytes) transaction, core.dataTransactions[sb]? = some transaction →
    core.WriteUsed transaction.writeId ∧ core.SystemBytesUsed sb
  -- a transaction and its request write
  control_write : ∀ transaction write, core.activeTransaction = some transaction →
    core.pendingWrites[transaction.writeId]? = some write →
    write.kind = .transactionRequest ∧ write.commandId = transaction.commandId
  request_write : ∀ (sb : SystemBytes) transaction write,
    core.dataTransactions[sb]? = some transaction →
    core.pendingWrites[transaction.writeId]? = some write →
    write.kind = .dataRequest sb ∧ write.commandId = some transaction.commandId
  write_control : core.closing = false → ∀ (w : WriteId) write c,
    core.pendingWrites[w]? = some write → write.kind = .transactionRequest →
    write.commandId = some c → ∃ transaction, core.activeTransaction = some transaction ∧
      transaction.writeId = w ∧ transaction.commandId = some c
  write_request : core.closing = false → ∀ (w : WriteId) write (sb : SystemBytes) c,
    core.pendingWrites[w]? = some write → write.kind = .dataRequest sb →
    write.commandId = some c → ∃ transaction, core.dataTransactions[sb]? = some transaction ∧
      transaction.writeId = w ∧ transaction.commandId = c
  write_separate : core.closing = false → ∀ (w : WriteId) write,
    core.pendingWrites[w]? = some write → write.kind ≠ .separate
  control_armed : ∀ transaction, core.activeTransaction = some transaction →
    transaction.deadline.isSome = true → core.pendingWrites[transaction.writeId]? = none
  request_armed : ∀ (sb : SystemBytes) transaction, core.dataTransactions[sb]? = some transaction →
    transaction.deadline.isSome = true → core.pendingWrites[transaction.writeId]? = none
  -- the drain and the control transaction exclude each other
  drain_alone : core.closing = false → core.deselectDrain.isSome = true →
    core.activeTransaction = none ∧ core.state.isSome = true
  -- closing
  closing_empty : core.closing = true →
    core.activeTransaction = none ∧ core.dataTransactions = ∅
  closing_issued : core.closeActionIssued = core.closing
  deferred_closing : core.closing = false → ∀ c : CommandId, core.deferredErrors[c]? = none
  deferred_write : ∀ (c : CommandId) error, core.deferredErrors[c]? = some error →
    core.writeUnresolved c = true
  closing_deferred : core.closing = true → ∀ (w : WriteId) write c,
    core.pendingWrites[w]? = some write → write.commandId = some c →
    (write.kind = .transactionRequest ∨ ∃ sb, write.kind = .dataRequest sb) →
    ∃ error, core.deferredErrors[c]? = some error
  -- selection and Data
  state_range : core.state = none ∨ core.state = some .notSelected ∨ core.state = some .selected
  deselect_quiet : ∀ transaction, core.activeTransaction = some transaction →
    transaction.kind = .deselect → core.DataQuiet
  unselected_quiet : core.closing = false → core.state ≠ some .selected →
    core.DataQuiet ∧ core.replyContracts = ∅

/-! ## Effects that only take entries away -/

/-- `after` has no table entry that `core` lacks, and what it has lost it has lost together with
its command. -/
structure Shrinks (core after : SessionCore) : Prop where
  control : after.activeTransaction = core.activeTransaction ∨ after.activeTransaction = none ∧
    (after.closing = false → ∀ transaction c, core.activeTransaction = some transaction →
      transaction.commandId = some c → after.openCommands[c]? = none)
  drain : after.closing = false →
    after.deselectDrain = core.deselectDrain ∨ after.deselectDrain = none
  request : ∀ (sb : SystemBytes) transaction, after.dataTransactions[sb]? = some transaction →
    core.dataTransactions[sb]? = some transaction
  request_kept : after.closing = false → ∀ (sb : SystemBytes) transaction,
    core.dataTransactions[sb]? = some transaction →
    after.dataTransactions[sb]? = some transaction ∨
      after.openCommands[transaction.commandId]? = none
  write : ∀ (w : WriteId) write, after.pendingWrites[w]? = some write →
    ∃ before, core.pendingWrites[w]? = some before ∧ write.kind = before.kind ∧
      ∀ c, write.commandId = some c ↔
        before.commandId = some c ∧ after.openCommands[c]?.isSome = true
  open_ : ∀ c : CommandId, after.openCommands[c]? = core.openCommands[c]? ∨
    after.openCommands[c]? = none ∧
      (∀ transaction, after.activeTransaction = some transaction →
        transaction.commandId ≠ some c) ∧
      (after.closing = false → ∀ drain, after.deselectDrain = some drain → drain.commandId ≠ c) ∧
      (∀ (sb : SystemBytes) transaction, after.dataTransactions[sb]? = some transaction →
        transaction.commandId ≠ c)
  used : after.nextWriteId = core.nextWriteId ∧ after.nextSystemBytes = core.nextSystemBytes
  closing : core.closing = true → after.closing = true

/-- The part of `Coherent` about closing and selection, which a shrinking effect must supply. -/
structure Settles (after : SessionCore) : Prop where
  closing_empty : after.closing = true →
    after.activeTransaction = none ∧ after.dataTransactions = ∅
  closing_issued : after.closeActionIssued = after.closing
  deferred_closing : after.closing = false → ∀ c : CommandId, after.deferredErrors[c]? = none
  deferred_write : ∀ (c : CommandId) error, after.deferredErrors[c]? = some error →
    after.writeUnresolved c = true
  closing_deferred : after.closing = true → ∀ (w : WriteId) write c,
    after.pendingWrites[w]? = some write → write.commandId = some c →
    (write.kind = .transactionRequest ∨ ∃ sb, write.kind = .dataRequest sb) →
    ∃ error, after.deferredErrors[c]? = some error
  drain_state : after.closing = false → after.deselectDrain.isSome = true →
    after.state.isSome = true
  state_range : after.state = none ∨ after.state = some .notSelected ∨
    after.state = some .selected
  unselected_quiet : after.closing = false → after.state ≠ some .selected →
    after.DataQuiet ∧ after.replyContracts = ∅

namespace Shrinks

variable {core after : SessionCore}

theorem dataQuiet (h : Shrinks core after) (hq : core.DataQuiet) : after.DataQuiet := by
  refine ⟨TreeMap.eq_empty_iff.mpr fun sb => ?_, fun w write hw => ?_⟩
  · cases hsb : after.dataTransactions[sb]? with
    | none => rfl
    | some transaction =>
      have hbefore := h.request sb transaction hsb
      rw [hq.1, ExtTreeMap.getElem?_empty] at hbefore
      cases hbefore
  · obtain ⟨before, hbefore, hkind, -⟩ := h.write w write hw
    rw [hkind]
    exact hq.2 w before hbefore

theorem writeUsed (h : Shrinks core after) {w : WriteId} (hw : core.WriteUsed w) :
    after.WriteUsed w := by
  intro next hnext
  rw [h.used.1] at hnext
  exact hw next hnext

theorem systemBytesUsed (h : Shrinks core after) {sb : SystemBytes}
    (hsb : core.SystemBytesUsed sb) : after.SystemBytesUsed sb := by
  intro next hnext
  rw [h.used.2] at hnext
  exact hsb next hnext

/-- An entry that survives still has its command. -/
theorem open_of_ne_none (h : Shrinks core after) {c : CommandId}
    (hc : after.openCommands[c]? ≠ none) : after.openCommands[c]? = core.openCommands[c]? := by
  rcases h.open_ c with h | ⟨h, -⟩
  · exact h
  · exact absurd h hc

theorem active_of_some (h : Shrinks core after) {transaction : ControlTransaction}
    (ht : after.activeTransaction = some transaction) :
    core.activeTransaction = some transaction := by
  rcases h.control with h | ⟨h, -⟩
  · rw [← h, ht]
  · rw [ht] at h
    cases h

theorem pending_none (h : Shrinks core after) {w : WriteId} (hw : core.pendingWrites[w]? = none) :
    after.pendingWrites[w]? = none := by
  cases hafter : after.pendingWrites[w]? with
  | none => rfl
  | some write =>
    obtain ⟨before, hbefore, -⟩ := h.write w write hafter
    rw [hw] at hbefore
    cases hbefore

end Shrinks

section

variable {fresh : Option CommandId} {core after : SessionCore}

theorem Shrinks.live (hs : Shrinks core after) (hclosing : after.closing = false) :
    core.closing = false := by
  cases hcore : core.closing with
  | false => rfl
  | true =>
    rw [hs.closing hcore] at hclosing
    cases hclosing

theorem Shrinks.control_open (hs : Shrinks core after) (h : Coherent fresh core)
    {transaction : ControlTransaction} {c : CommandId}
    (ht : after.activeTransaction = some transaction) (hcommand : transaction.commandId = some c) :
    after.openCommands[c]? = some .control := by
  have hopen := h.control_open transaction c (hs.active_of_some ht) hcommand
  rcases hs.open_ c with hc | ⟨-, hc, -⟩
  · rw [hc, hopen]
  · exact absurd hcommand (hc transaction ht)

theorem Shrinks.request_open (hs : Shrinks core after) (h : Coherent fresh core) {sb : SystemBytes}
    {transaction : DataTransaction} (ht : after.dataTransactions[sb]? = some transaction) :
    after.openCommands[transaction.commandId]? = some .request := by
  have hopen := h.request_open sb transaction (hs.request sb transaction ht)
  rcases hs.open_ transaction.commandId with hc | ⟨-, -, -, hc⟩
  · rw [hc, hopen]
  · exact absurd rfl (hc sb transaction ht)

theorem Shrinks.drain_of_some (hs : Shrinks core after) (hclosing : after.closing = false)
    {drain : DeselectDrain} (hdrain : after.deselectDrain = some drain) :
    core.deselectDrain = some drain := by
  rcases hs.drain hclosing with hd | hd
  · rw [← hd, hdrain]
  · rw [hd] at hdrain
    cases hdrain

/-- A command that a surviving write still names is open. -/
theorem Shrinks.write_open (hs : Shrinks core after) {w : WriteId} {write : PendingWrite}
    {c : CommandId} (hw : after.pendingWrites[w]? = some write)
    (hcommand : write.commandId = some c) :
    after.openCommands[c]? = core.openCommands[c]? ∧ after.openCommands[c]?.isSome = true := by
  obtain ⟨before, -, -, hiff⟩ := hs.write w write hw
  have hsome := ((hiff c).mp hcommand).2
  refine ⟨hs.open_of_ne_none fun hnone => ?_, hsome⟩
  rw [hnone] at hsome
  cases hsome

end

/-- **The shrinking rule.**  An effect that only takes entries away keeps the invariant if what
it leaves about closing and selection is supplied. -/
theorem Coherent.shrink {fresh fresh' : Option CommandId} {core after : SessionCore}
    (h : Coherent fresh core) (hs : Shrinks core after) (hset : Settles after)
    (hfresh : ∀ c, fresh' = some c → fresh = some c ∧ after.openCommands[c]?.isSome = true) :
    Coherent fresh' after where
  fresh_open c hc := by
    obtain ⟨-, hopen⟩ := hfresh c hc
    exact Option.isSome_iff_exists.mp hopen
  fresh_unreferenced c hc := by
    obtain ⟨hc, -⟩ := hfresh c hc
    have hun := h.fresh_unreferenced c hc
    refine ⟨fun transaction ht => hun.control transaction (hs.active_of_some ht),
      fun hclosing drain hdrain =>
        hun.drain (hs.live hclosing) drain (hs.drain_of_some hclosing hdrain),
      fun sb transaction ht => hun.request sb transaction (hs.request sb transaction ht), ?_⟩
    intro w write hw hcommand
    obtain ⟨before, hbefore, -, hiff⟩ := hs.write w write hw
    exact hun.write w before hbefore ((hiff c).mp hcommand).1
  control_open transaction c ht hcommand := hs.control_open h ht hcommand
  drain_open hclosing drain hdrain := by
    have hopen := h.drain_open (hs.live hclosing) drain (hs.drain_of_some hclosing hdrain)
    rcases hs.open_ drain.commandId with hc | ⟨-, -, hc, -⟩
    · rw [hc, hopen]
    · exact absurd rfl (hc hclosing drain hdrain)
  request_open sb transaction ht := hs.request_open h ht
  write_open w write c hw hcommand := by
    obtain ⟨before, hbefore, hkind, hiff⟩ := hs.write w write hw
    obtain ⟨kind, hopenKind, hopen⟩ :=
      h.write_open w before c hbefore ((hiff c).mp hcommand).1
    refine ⟨kind, by rw [hkind, hopenKind], ?_⟩
    rw [(hs.write_open hw hcommand).1, hopen]
  request_key sb transaction ht := h.request_key sb transaction (hs.request sb transaction ht)
  write_unique w w' write write' c hw hw' hcommand hcommand' := by
    obtain ⟨before, hbefore, -, hiff⟩ := hs.write w write hw
    obtain ⟨before', hbefore', -, hiff'⟩ := hs.write w' write' hw'
    exact h.write_unique w w' before before' c hbefore hbefore' ((hiff c).mp hcommand).1
      ((hiff' c).mp hcommand').1
  request_unique sb sb' transaction transaction' ht ht' :=
    h.request_unique sb sb' transaction transaction' (hs.request sb transaction ht)
      (hs.request sb' transaction' ht')
  write_used w write hw := by
    obtain ⟨before, hbefore, -⟩ := hs.write w write hw
    exact hs.writeUsed (h.write_used w before hbefore)
  control_used transaction ht := hs.writeUsed (h.control_used transaction (hs.active_of_some ht))
  request_used sb transaction ht := by
    obtain ⟨hw, hsb⟩ := h.request_used sb transaction (hs.request sb transaction ht)
    exact ⟨hs.writeUsed hw, hs.systemBytesUsed hsb⟩
  control_write transaction write ht hw := by
    obtain ⟨before, hbefore, hkind, hiff⟩ := hs.write _ write hw
    obtain ⟨hbeforeKind, hbeforeCommand⟩ :=
      h.control_write transaction before (hs.active_of_some ht) hbefore
    refine ⟨by rw [hkind, hbeforeKind], Option.ext fun c => ?_⟩
    rw [hiff c, hbeforeCommand]
    refine ⟨And.left, fun hc => ⟨hc, ?_⟩⟩
    rw [hs.control_open h ht hc]
    rfl
  request_write sb transaction write ht hw := by
    obtain ⟨before, hbefore, hkind, hiff⟩ := hs.write _ write hw
    obtain ⟨hbeforeKind, hbeforeCommand⟩ :=
      h.request_write sb transaction before (hs.request sb transaction ht) hbefore
    refine ⟨by rw [hkind, hbeforeKind], (hiff _).mpr ⟨hbeforeCommand, ?_⟩⟩
    rw [hs.request_open h ht]
    rfl
  write_control hclosing w write c hw hkind hcommand := by
    obtain ⟨before, hbefore, hbeforeKind, hiff⟩ := hs.write w write hw
    obtain ⟨transaction, ht, hwrite, htc⟩ := h.write_control (hs.live hclosing) w before c hbefore
      (by rw [← hbeforeKind, hkind]) ((hiff c).mp hcommand).1
    rcases hs.control with hc | ⟨-, hc⟩
    · exact ⟨transaction, by rw [hc, ht], hwrite, htc⟩
    · have hsome := (hs.write_open hw hcommand).2
      rw [hc hclosing transaction c ht htc] at hsome
      cases hsome
  write_request hclosing w write sb c hw hkind hcommand := by
    obtain ⟨before, hbefore, hbeforeKind, hiff⟩ := hs.write w write hw
    obtain ⟨transaction, ht, hwrite, rfl⟩ := h.write_request (hs.live hclosing) w before sb c
      hbefore (by rw [← hbeforeKind, hkind]) ((hiff c).mp hcommand).1
    rcases hs.request_kept hclosing sb transaction ht with hc | hc
    · exact ⟨transaction, hc, hwrite, rfl⟩
    · have hsome := (hs.write_open hw hcommand).2
      rw [hc] at hsome
      cases hsome
  write_separate hclosing w write hw := by
    obtain ⟨before, hbefore, hkind, -⟩ := hs.write w write hw
    rw [hkind]
    exact h.write_separate (hs.live hclosing) w before hbefore
  control_armed transaction ht hd :=
    hs.pending_none (h.control_armed transaction (hs.active_of_some ht) hd)
  request_armed sb transaction ht hd :=
    hs.pending_none (h.request_armed sb transaction (hs.request sb transaction ht) hd)
  drain_alone hclosing hdrain := by
    refine ⟨?_, hset.drain_state hclosing hdrain⟩
    have hbefore : core.deselectDrain.isSome = true := by
      obtain ⟨drain, hdrain⟩ := Option.isSome_iff_exists.mp hdrain
      rw [hs.drain_of_some hclosing hdrain]
      rfl
    obtain ⟨hidle, -⟩ := h.drain_alone (hs.live hclosing) hbefore
    rcases hs.control with hc | ⟨hc, -⟩
    · rw [hc, hidle]
    · exact hc
  closing_empty := hset.closing_empty
  closing_issued := hset.closing_issued
  deferred_closing := hset.deferred_closing
  deferred_write := hset.deferred_write
  closing_deferred := hset.closing_deferred
  state_range := hset.state_range
  deselect_quiet transaction ht hkind :=
    hs.dataQuiet (h.deselect_quiet transaction (hs.active_of_some ht) hkind)
  unselected_quiet := hset.unselected_quiet

/-! ## Effects that remove one command -/

/-- `after` is `core` without the command `removed`, if there is one: its entry, its parked error,
the transaction or drain that belonged to it, and its name on the writes that are left.  A write
may be gone when no other command needs it. -/
structure Removes (removed : Option CommandId) (core after : SessionCore) : Prop where
  open_ : ∀ c : CommandId, after.openCommands[c]? =
    if removed = some c then none else core.openCommands[c]?
  deferred : ∀ c : CommandId, after.deferredErrors[c]? =
    if removed = some c then none else core.deferredErrors[c]?
  write : ∀ (w : WriteId) write, after.pendingWrites[w]? = some write →
    ∃ before, core.pendingWrites[w]? = some before ∧ write.kind = before.kind ∧
      ∀ c, write.commandId = some c ↔ before.commandId = some c ∧ removed ≠ some c
  write_kept : ∀ (w : WriteId) before c, core.pendingWrites[w]? = some before →
    before.commandId = some c → removed ≠ some c →
    ∃ write, after.pendingWrites[w]? = some write ∧ write.commandId = some c
  control : (after.activeTransaction = core.activeTransaction ∧
      ∀ transaction c, core.activeTransaction = some transaction →
        transaction.commandId = some c → removed ≠ some c) ∨
    (after.activeTransaction = none ∧
      ∀ transaction c, core.activeTransaction = some transaction →
        transaction.commandId = some c → removed = some c)
  drain : after.closing = false → after.deselectDrain = none ∨
    after.deselectDrain = core.deselectDrain ∧
      ∀ drain, core.deselectDrain = some drain → removed ≠ some drain.commandId
  request : ∀ (sb : SystemBytes) transaction, after.dataTransactions[sb]? = some transaction ↔
    core.dataTransactions[sb]? = some transaction ∧ removed ≠ some transaction.commandId
  used : after.nextWriteId = core.nextWriteId ∧ after.nextSystemBytes = core.nextSystemBytes
  closing : after.closing = core.closing ∧ after.closeActionIssued = core.closeActionIssued

namespace Removes

variable {fresh removed : Option CommandId} {core after : SessionCore}

theorem isSome_open (hr : Removes removed core after) {c : CommandId} :
    after.openCommands[c]?.isSome = true ↔
      core.openCommands[c]?.isSome = true ∧ removed ≠ some c := by
  rw [hr.open_]
  split
  · simp [*]
  · simp [*]

theorem shrinks (hr : Removes removed core after) (h : Coherent fresh core) :
    Shrinks core after where
  control := by
    rcases hr.control with ⟨hc, -⟩ | ⟨hc, hcommand⟩
    · exact Or.inl hc
    · refine Or.inr ⟨hc, fun _ transaction c ht htc => ?_⟩
      rw [hr.open_, if_pos (hcommand transaction c ht htc)]
  drain hclosing := by
    rcases hr.drain hclosing with hd | ⟨hd, -⟩
    · exact Or.inr hd
    · exact Or.inl hd
  request sb transaction ht := ((hr.request sb transaction).mp ht).1
  request_kept _ sb transaction ht := by
    by_cases hc : removed = some transaction.commandId
    · exact Or.inr (by rw [hr.open_, if_pos hc])
    · exact Or.inl ((hr.request sb transaction).mpr ⟨ht, hc⟩)
  write w write hw := by
    obtain ⟨before, hbefore, hkind, hiff⟩ := hr.write w write hw
    refine ⟨before, hbefore, hkind, fun c => ?_⟩
    rw [hiff c, hr.isSome_open]
    refine ⟨fun ⟨hc, hne⟩ => ⟨hc, ?_, hne⟩, fun ⟨hc, _, hne⟩ => ⟨hc, hne⟩⟩
    obtain ⟨kind, -, hopen⟩ := h.write_open w before c hbefore hc
    rw [hopen]
    rfl
  open_ c := by
    rw [hr.open_]
    by_cases hc : removed = some c
    · refine Or.inr ⟨if_pos hc, fun transaction ht htc => ?_, fun hclosing drain hdrain hdc => ?_,
        fun sb transaction ht htc => ?_⟩
      · rcases hr.control with ⟨heq, hne⟩ | ⟨hnone, -⟩
        · exact hne transaction c (heq ▸ ht) htc hc
        · rw [hnone] at ht
          cases ht
      · rcases hr.drain hclosing with hnone | ⟨heq, hne⟩
        · rw [hnone] at hdrain
          cases hdrain
        · exact hne drain (heq ▸ hdrain) (hdc ▸ hc)
      · exact ((hr.request sb transaction).mp ht).2 (htc ▸ hc)
    · exact Or.inl (if_neg hc)
  used := hr.used
  closing hclosing := by rw [hr.closing.1, hclosing]

theorem dataTransactions_empty (hr : Removes removed core after)
    (hempty : core.dataTransactions = ∅) : after.dataTransactions = ∅ := by
  refine TreeMap.eq_empty_iff.mpr fun sb => ?_
  cases hsb : after.dataTransactions[sb]? with
  | none => rfl
  | some transaction =>
    have hbefore := ((hr.request sb transaction).mp hsb).1
    rw [hempty, ExtTreeMap.getElem?_empty] at hbefore
    cases hbefore

theorem settles (hr : Removes removed core after) (h : Coherent fresh core)
    (hrange : after.state = none ∨ after.state = some .notSelected ∨ after.state = some .selected)
    (hdrain : after.closing = false → after.deselectDrain.isSome = true →
      after.state.isSome = true)
    (hquiet : after.closing = false → after.state ≠ some .selected →
      after.DataQuiet ∧ after.replyContracts = ∅) : Settles after where
  closing_empty hclosing := by
    rw [hr.closing.1] at hclosing
    obtain ⟨hidle, hempty⟩ := h.closing_empty hclosing
    refine ⟨?_, hr.dataTransactions_empty hempty⟩
    rcases hr.control with ⟨hc, -⟩ | ⟨hc, -⟩
    · rw [hc, hidle]
    · exact hc
  closing_issued := by rw [hr.closing.1, hr.closing.2, h.closing_issued]
  deferred_closing hclosing c := by
    rw [hr.closing.1] at hclosing
    rw [hr.deferred, h.deferred_closing hclosing c, ite_self]
  deferred_write c error herror := by
    rw [hr.deferred] at herror
    split at herror
    · cases herror
    · rename_i hne
      obtain ⟨w, before, hbefore, hc⟩ :=
        writeUnresolved_iff.mp (h.deferred_write c error herror)
      obtain ⟨write, hwrite, hwc⟩ := hr.write_kept w before c hbefore hc hne
      exact writeUnresolved_iff.mpr ⟨w, write, hwrite, hwc⟩
  closing_deferred hclosing w write c hw hc hkind := by
    rw [hr.closing.1] at hclosing
    obtain ⟨before, hbefore, hbeforeKind, hiff⟩ := hr.write w write hw
    obtain ⟨hbc, hne⟩ := (hiff c).mp hc
    rw [hr.deferred, if_neg hne]
    exact h.closing_deferred hclosing w before c hbefore hbc (hbeforeKind ▸ hkind)
  drain_state := hdrain
  state_range := hrange
  unselected_quiet := hquiet

end Removes

/-- **The removal rule** for an effect that leaves the selection state alone. -/
theorem Coherent.remove {fresh fresh' removed : Option CommandId} {core after : SessionCore}
    (h : Coherent fresh core) (hr : Removes removed core after) (hstate : after.state = core.state)
    (hcontracts : core.replyContracts = ∅ → after.replyContracts = ∅)
    (hfresh : ∀ c, fresh' = some c → fresh = some c ∧ removed ≠ some c) :
    Coherent fresh' after := by
  have hs := hr.shrinks h
  refine h.shrink hs (hr.settles h ?_ ?_ ?_) fun c hc => ?_
  · rw [hstate]
    exact h.state_range
  · intro hclosing hdrain
    obtain ⟨drain, hdrain⟩ := Option.isSome_iff_exists.mp hdrain
    have hbefore := hs.drain_of_some hclosing hdrain
    rw [hstate]
    exact (h.drain_alone (hs.live hclosing) (by rw [hbefore]; rfl)).2
  · intro hclosing hsel
    rw [hstate] at hsel
    obtain ⟨hquiet, hempty⟩ := h.unselected_quiet (hs.live hclosing) hsel
    exact ⟨hs.dataQuiet hquiet, hcontracts hempty⟩
  · obtain ⟨hc, hne⟩ := hfresh c hc
    obtain ⟨kind, hopen⟩ := h.fresh_open c hc
    exact ⟨hc, hr.isSome_open.mpr ⟨by rw [hopen]; rfl, hne⟩⟩

/-! ## Effects that end the generation -/

/-- `after` is closing, with no transaction left, and an open command of `core` has stayed open
where an unresolved write of it is left. -/
structure Closes (core after : SessionCore) : Prop where
  closing : after.closing = true ∧ after.closeActionIssued = true
  control : after.activeTransaction = none
  request : after.dataTransactions = ∅
  write : ∀ (w : WriteId) write, after.pendingWrites[w]? = some write →
    core.pendingWrites[w]? = some write
  open_ : ∀ c : CommandId, after.openCommands[c]? =
    core.openCommands[c]? ∨ after.openCommands[c]? = none
  open_kept : ∀ c : CommandId, after.writeUnresolved c = true →
    after.openCommands[c]? = core.openCommands[c]?
  deferred : ∀ (c : CommandId) error, after.deferredErrors[c]? = some error →
    after.writeUnresolved c = true
  deferred_kept : ∀ (w : WriteId) write c, after.pendingWrites[w]? = some write →
    write.commandId = some c →
    (write.kind = .transactionRequest ∨ ∃ sb, write.kind = .dataRequest sb) →
    ∃ error, after.deferredErrors[c]? = some error
  used : after.nextWriteId = core.nextWriteId ∧ after.nextSystemBytes = core.nextSystemBytes
  state : after.state = none ∨ after.state = some .notSelected ∨ after.state = some .selected

theorem Closes.shrinks {fresh : Option CommandId} {core after : SessionCore}
    (hc : Closes core after) (h : Coherent fresh core) : Shrinks core after where
  control := by
    refine Or.inr ⟨hc.control, fun hlive => ?_⟩
    rw [hc.closing.1] at hlive
    cases hlive
  drain hlive := by
    rw [hc.closing.1] at hlive
    cases hlive
  request sb transaction ht := by
    rw [hc.request, ExtTreeMap.getElem?_empty] at ht
    cases ht
  request_kept hlive := by
    rw [hc.closing.1] at hlive
    cases hlive
  write w write hw := by
    refine ⟨write, hc.write w write hw, rfl, fun c => ⟨fun hcommand => ⟨hcommand, ?_⟩, And.left⟩⟩
    rw [hc.open_kept c (writeUnresolved_iff.mpr ⟨w, write, hw, hcommand⟩)]
    obtain ⟨kind, -, hopen⟩ := h.write_open w write c (hc.write w write hw) hcommand
    rw [hopen]
    rfl
  open_ c := by
    rcases hc.open_ c with heq | hnone
    · exact Or.inl heq
    · refine Or.inr ⟨hnone, fun transaction ht => ?_, fun hlive => ?_, fun sb transaction ht => ?_⟩
      · rw [hc.control] at ht
        cases ht
      · rw [hc.closing.1] at hlive
        cases hlive
      · rw [hc.request, ExtTreeMap.getElem?_empty] at ht
        cases ht
  used := hc.used
  closing _ := hc.closing.1

/-- **The closing rule.**  An effect that closes the generation may leave writes pending, but
nothing that waits for a peer. -/
theorem Coherent.close {fresh fresh' : Option CommandId} {core after : SessionCore}
    (h : Coherent fresh core) (hc : Closes core after)
    (hfresh : ∀ c, fresh' = some c → fresh = some c ∧ after.openCommands[c]?.isSome = true) :
    Coherent fresh' after := by
  refine h.shrink (hc.shrinks h) ?_ hfresh
  have hnot : ∀ {p : Prop}, after.closing = false → p := by
    intro p hlive
    rw [hc.closing.1] at hlive
    cases hlive
  exact {
    closing_empty := fun _ => ⟨hc.control, hc.request⟩
    closing_issued := by rw [hc.closing.1, hc.closing.2]
    deferred_closing := hnot
    deferred_write := hc.deferred
    closing_deferred := fun _ => hc.deferred_kept
    drain_state := hnot
    state_range := hc.state
    unselected_quiet := hnot }

/-! ## Effects that add a write -/

/-- The checked successor of a 64-bit identifier is beyond it. -/
theorem lt_of_u64CheckedSucc {value next : UInt64} (h : u64CheckedSucc value = some next) :
    value < next := by
  unfold u64CheckedSucc at h
  split at h
  · cases h
  · rename_i hmax
    have hne : value.toNat ≠ 18446744073709551615 := fun hc =>
      hmax (UInt64.toNat_inj.mp (by simpa using hc))
    have hlt := value.toNat_lt
    rw [← Option.some.inj h, UInt64.lt_iff_toNat_lt, UInt64.toNat_add]
    simp only [UInt64.toNat_one]
    omega

/-- The checked successor of a 32-bit identifier is beyond it. -/
theorem lt_of_u32CheckedSucc {value next : UInt32} (h : u32CheckedSucc value = some next) :
    value < next := by
  unfold u32CheckedSucc at h
  split at h
  · cases h
  · rename_i hmax
    have hne : value.toNat ≠ 4294967295 := fun hc =>
      hmax (UInt32.toNat_inj.mp (by simpa using hc))
    have hlt := value.toNat_lt
    rw [← Option.some.inj h, UInt32.lt_iff_toNat_lt, UInt32.toNat_add]
    simp only [UInt32.toNat_one]
    omega

/-- `after` is `core` with the new write `w`, whose command, if it has one, was open and owned by
nothing; a control or Data transaction may have come with its request write, and a drain may have
turned into the former. -/
structure Tracks (w : WriteId) (new : PendingWrite) (core after : SessionCore) : Prop where
  next : core.nextWriteId = some w.raw ∧ after.nextWriteId = u64CheckedSucc w.raw
  bytes : ∀ sb, core.SystemBytesUsed sb → after.SystemBytesUsed sb
  write : after.pendingWrites = core.pendingWrites.insert w new
  open_ : after.openCommands = core.openCommands
  deferred : after.deferredErrors = core.deferredErrors
  closing : after.closing = core.closing ∧ after.closeActionIssued = core.closeActionIssued
  state : after.state = core.state
  drain : after.deselectDrain = core.deselectDrain ∨ after.deselectDrain = none
  command : ∀ c, new.commandId = some c →
    ∃ kind, new.kind.openKind = some kind ∧ core.openCommands[c]? = some kind
  unwritten : ∀ c, new.commandId = some c → core.writeUnresolved c = false
  unowned : ∀ c, new.commandId = some c →
    (∀ transaction, core.activeTransaction = some transaction → transaction.commandId ≠ some c) ∧
    ∀ (sb : SystemBytes) transaction, core.dataTransactions[sb]? = some transaction →
      transaction.commandId ≠ c
  control : ∀ transaction, after.activeTransaction = some transaction →
    core.activeTransaction = some transaction ∨
      transaction.writeId = w ∧ new.kind = .transactionRequest ∧
        new.commandId = transaction.commandId ∧ transaction.deadline = none
  control_kept : ∀ transaction, core.activeTransaction = some transaction →
    after.activeTransaction = some transaction
  control_new : core.closing = false → new.kind = .transactionRequest →
    ∃ transaction, after.activeTransaction = some transaction ∧ transaction.writeId = w ∧
      transaction.commandId = new.commandId
  request : ∀ (sb : SystemBytes) transaction, after.dataTransactions[sb]? = some transaction →
    core.dataTransactions[sb]? = some transaction ∨
      transaction.writeId = w ∧ new.kind = .dataRequest sb ∧
        new.commandId = some transaction.commandId ∧ transaction.deadline = none ∧
        transaction.responseContract.systemBytes = sb ∧ after.SystemBytesUsed sb
  request_kept : ∀ (sb : SystemBytes) transaction, core.dataTransactions[sb]? = some transaction →
    after.dataTransactions[sb]? = some transaction
  request_new : core.closing = false → ∀ (sb : SystemBytes) c, new.kind = .dataRequest sb →
    new.commandId = some c → ∃ transaction, after.dataTransactions[sb]? = some transaction ∧
      transaction.writeId = w ∧ transaction.commandId = c
  alone : core.closing = false → after.deselectDrain.isSome = true →
    after.activeTransaction = core.activeTransaction
  closing_kind : core.closing = true → after.activeTransaction = core.activeTransaction ∧
    after.dataTransactions = core.dataTransactions ∧ new.kind ≠ .transactionRequest ∧
    ∀ sb, new.kind ≠ .dataRequest sb
  separate : core.closing = false → new.kind ≠ .separate
  data : new.kind.isData = true → core.state = some .selected ∧
    ∀ transaction, after.activeTransaction = some transaction → transaction.kind ≠ .deselect
  quiet : ∀ transaction, after.activeTransaction = some transaction →
    transaction.kind = .deselect → core.DataQuiet
  contracts : core.replyContracts = ∅ → after.replyContracts = ∅

namespace Tracks

variable {fresh : Option CommandId} {w : WriteId} {new : PendingWrite} {core after : SessionCore}

theorem getElem?_pendingWrites (ht : Tracks w new core after) (a : WriteId) :
    after.pendingWrites[a]? = if w = a then some new else core.pendingWrites[a]? := by
  rw [ht.write, TreeMap.getElem?_insert]

theorem ne_of_used (ht : Tracks w new core after) {a : WriteId} (ha : core.WriteUsed a) :
    a ≠ w := by
  rintro rfl
  exact absurd (ha _ ht.next.1) (UInt64.lt_irrefl _)

theorem writeUsed (ht : Tracks w new core after) {a : WriteId} (ha : core.WriteUsed a) :
    after.WriteUsed a := by
  intro next hnext
  rw [ht.next.2] at hnext
  exact UInt64.lt_trans (ha _ ht.next.1) (lt_of_u64CheckedSucc hnext)

theorem writeUsed_self (ht : Tracks w new core after) : after.WriteUsed w := by
  intro next hnext
  rw [ht.next.2] at hnext
  exact lt_of_u64CheckedSucc hnext

theorem dataQuiet (ht : Tracks w new core after) (hq : core.DataQuiet)
    (hnew : new.kind.isData = false) (hrequest : ∀ sb, new.kind ≠ .dataRequest sb) :
    after.DataQuiet := by
  refine ⟨TreeMap.eq_empty_iff.mpr fun sb => ?_, fun a write ha => ?_⟩
  · cases hsb : after.dataTransactions[sb]? with
    | none => rfl
    | some transaction =>
      rcases ht.request sb transaction hsb with hbefore | ⟨-, hkind, -⟩
      · rw [hq.1, ExtTreeMap.getElem?_empty] at hbefore
        cases hbefore
      · exact absurd hkind (hrequest sb)
  · rw [ht.getElem?_pendingWrites] at ha
    split at ha
    · rw [← Option.some.inj ha, hnew]
    · exact hq.2 a write ha

theorem writeUnresolved_kept (ht : Tracks w new core after) (h : Coherent fresh core)
    {c : CommandId} (hc : core.writeUnresolved c = true) : after.writeUnresolved c = true := by
  obtain ⟨a, write, ha, hcommand⟩ := writeUnresolved_iff.mp hc
  refine writeUnresolved_iff.mpr ⟨a, write, ?_, hcommand⟩
  rw [ht.getElem?_pendingWrites, if_neg]
  · exact ha
  · exact (ht.ne_of_used (h.write_used a write ha)).symm

end Tracks

/-- **The tracking rule.**  An effect that creates a transaction or a write for a command, which
is then owned by it. -/
theorem Coherent.track {fresh : Option CommandId} {w : WriteId} {new : PendingWrite}
    {core after : SessionCore} (h : Coherent fresh core) (ht : Tracks w new core after)
    (fresh' : Option CommandId)
    (hfresh : ∀ c, fresh' = some c → fresh = some c ∧ new.commandId ≠ some c ∧
      after.activeTransaction = core.activeTransaction ∧
      after.dataTransactions = core.dataTransactions) : Coherent fresh' after := by
  have hlook := ht.getElem?_pendingWrites
  have hne := fun a : WriteId => ht.ne_of_used (a := a)
  have hclosing := ht.closing.1
  have hopen := ht.open_
  have hcontrol := ht.control
  have hrequest := ht.request
  constructor
  case fresh_open =>
    intro c hc
    rw [hopen]
    exact h.fresh_open c (hfresh c hc).1
  case fresh_unreferenced =>
    intro c hc
    obtain ⟨hcore, hnew, hsame, hsameData⟩ := hfresh c hc
    have hun := h.fresh_unreferenced c hcore
    refine ⟨fun transaction hactive => hun.control transaction (hsame ▸ hactive),
      fun hlive drain hdrain => ?_,
      fun sb transaction hsb => hun.request sb transaction (hsameData ▸ hsb),
      fun a write ha => ?_⟩
    · rcases ht.drain with heq | hnone
      · exact hun.drain (hclosing ▸ hlive) drain (heq ▸ hdrain)
      · rw [hnone] at hdrain
        cases hdrain
    · rw [hlook] at ha
      split at ha
      · rwa [← Option.some.inj ha]
      · exact hun.write a write ha
  case control_open =>
    intro transaction c hactive hcommand
    rw [hopen]
    rcases hcontrol transaction hactive with hold | ⟨-, hkind, hc, -⟩
    · exact h.control_open transaction c hold hcommand
    · obtain ⟨kind, hopenKind, hc⟩ := ht.command c (hc.trans hcommand)
      rw [hkind, PendingWriteKind.openKind, Option.some.injEq] at hopenKind
      rw [hc, hopenKind]
  case drain_open =>
    intro hlive drain hdrain
    rw [hopen]
    rcases ht.drain with heq | hnone
    · exact h.drain_open (hclosing ▸ hlive) drain (heq ▸ hdrain)
    · rw [hnone] at hdrain
      cases hdrain
  case request_open =>
    intro sb transaction hsb
    rw [hopen]
    rcases hrequest sb transaction hsb with hold | ⟨-, hkind, hc, -⟩
    · exact h.request_open sb transaction hold
    · obtain ⟨kind, hopenKind, hc⟩ := ht.command _ hc
      rw [hkind, PendingWriteKind.openKind, Option.some.injEq] at hopenKind
      rw [hc, hopenKind]
  case write_open =>
    intro a write c ha hcommand
    rw [hopen]
    rw [hlook] at ha
    split at ha
    · cases ha
      exact ht.command c hcommand
    · exact h.write_open a write c ha hcommand
  case request_key =>
    intro sb transaction hsb
    rcases hrequest sb transaction hsb with hold | ⟨-, -, -, -, hkey, -⟩
    · exact h.request_key sb transaction hold
    · exact hkey
  case write_unique =>
    intro a a' write write' c ha ha' hcommand hcommand'
    have hold : ∀ (b : WriteId) (before : PendingWrite), core.pendingWrites[b]? = some before →
        before.commandId = some c → new.commandId ≠ some c := by
      intro b before hb hbc hnew
      have hnone := writeUnresolved_eq_false_iff.mp (ht.unwritten c hnew) b before hb
      exact hnone hbc
    rw [hlook] at ha ha'
    split at ha
    · cases ha
      split at ha'
      · rename_i h1 h2
        exact h1.symm.trans h2
      · exact absurd hcommand (hold a' write' ha' hcommand')
    · split at ha'
      · cases ha'
        exact absurd hcommand' (hold a write ha hcommand)
      · exact h.write_unique a a' write write' c ha ha' hcommand hcommand'
  case request_unique =>
    intro sb sb' transaction transaction' hsb hsb' hcommand
    rcases hrequest sb transaction hsb with hold | ⟨-, hkind, hc, -⟩
    · rcases hrequest sb' transaction' hsb' with hold' | ⟨-, -, hc', -⟩
      · exact h.request_unique sb sb' transaction transaction' hold hold' hcommand
      · exact absurd hcommand ((ht.unowned _ hc').2 sb transaction hold)
    · rcases hrequest sb' transaction' hsb' with hold' | ⟨-, hkind', -⟩
      · exact absurd hcommand.symm ((ht.unowned _ hc).2 sb' transaction' hold')
      · rw [hkind] at hkind'
        exact PendingWriteKind.dataRequest.inj hkind'
  case write_used =>
    intro a write ha
    rw [hlook] at ha
    split at ha
    · rename_i heq
      exact heq ▸ ht.writeUsed_self
    · exact ht.writeUsed (h.write_used a write ha)
  case control_used =>
    intro transaction hactive
    rcases hcontrol transaction hactive with hold | ⟨hown, -⟩
    · exact ht.writeUsed (h.control_used transaction hold)
    · exact hown ▸ ht.writeUsed_self
  case request_used =>
    intro sb transaction hsb
    rcases hrequest sb transaction hsb with hold | ⟨hown, -, -, -, -, hused⟩
    · obtain ⟨hw, hb⟩ := h.request_used sb transaction hold
      exact ⟨ht.writeUsed hw, ht.bytes sb hb⟩
    · exact ⟨hown ▸ ht.writeUsed_self, hused⟩
  case control_write =>
    intro transaction write hactive ha
    rw [hlook] at ha
    rcases hcontrol transaction hactive with hold | ⟨hown, hkind, hc, -⟩
    · rw [if_neg (hne _ (h.control_used transaction hold)).symm] at ha
      exact h.control_write transaction write hold ha
    · rw [if_pos hown.symm] at ha
      cases ha
      exact ⟨hkind, hc⟩
  case request_write =>
    intro sb transaction write hsb ha
    rw [hlook] at ha
    rcases hrequest sb transaction hsb with hold | ⟨hown, hkind, hc, -⟩
    · rw [if_neg (hne _ (h.request_used sb transaction hold).1).symm] at ha
      exact h.request_write sb transaction write hold ha
    · rw [if_pos hown.symm] at ha
      cases ha
      exact ⟨hkind, hc⟩
  case write_control =>
    intro hlive a write c ha hkind hcommand
    rw [hlook] at ha
    split at ha
    · rename_i heq
      cases ha
      obtain ⟨transaction, hactive, hown, hc⟩ := ht.control_new (hclosing ▸ hlive) hkind
      exact ⟨transaction, hactive, hown.trans heq, hc.trans hcommand⟩
    · obtain ⟨transaction, hactive, hrest⟩ :=
        h.write_control (hclosing ▸ hlive) a write c ha hkind hcommand
      exact ⟨transaction, ht.control_kept transaction hactive, hrest⟩
  case write_request =>
    intro hlive a write sb c ha hkind hcommand
    rw [hlook] at ha
    split at ha
    · rename_i heq
      cases ha
      obtain ⟨transaction, hsb, hown, hc⟩ := ht.request_new (hclosing ▸ hlive) sb c hkind hcommand
      exact ⟨transaction, hsb, hown.trans heq, hc⟩
    · obtain ⟨transaction, hsb, hrest⟩ :=
        h.write_request (hclosing ▸ hlive) a write sb c ha hkind hcommand
      exact ⟨transaction, ht.request_kept sb transaction hsb, hrest⟩
  case write_separate =>
    intro hlive a write ha
    rw [hlook] at ha
    split at ha
    · cases ha
      exact ht.separate (hclosing ▸ hlive)
    · exact h.write_separate (hclosing ▸ hlive) a write ha
  case control_armed =>
    intro transaction hactive harmed
    rcases hcontrol transaction hactive with hold | ⟨-, -, -, hnone⟩
    · rw [hlook, if_neg (hne _ (h.control_used transaction hold)).symm]
      exact h.control_armed transaction hold harmed
    · rw [hnone] at harmed
      cases harmed
  case request_armed =>
    intro sb transaction hsb harmed
    rcases hrequest sb transaction hsb with hold | ⟨-, -, -, hnone, -⟩
    · rw [hlook, if_neg (hne _ (h.request_used sb transaction hold).1).symm]
      exact h.request_armed sb transaction hold harmed
    · rw [hnone] at harmed
      cases harmed
  case drain_alone =>
    intro hlive hdrain
    rw [hclosing] at hlive
    have hbefore : core.deselectDrain.isSome = true := by
      rcases ht.drain with heq | hnone
      · rw [← heq, hdrain]
      · rw [hnone] at hdrain
        cases hdrain
    rw [ht.alone hlive hdrain, ht.state]
    exact h.drain_alone hlive hbefore
  case closing_empty =>
    intro hclosed
    rw [hclosing] at hclosed
    obtain ⟨hsame, hsameData, -⟩ := ht.closing_kind hclosed
    rw [hsame, hsameData]
    exact h.closing_empty hclosed
  case closing_issued => rw [ht.closing.2, hclosing, h.closing_issued]
  case deferred_closing =>
    intro hlive c
    rw [ht.deferred]
    exact h.deferred_closing (hclosing ▸ hlive) c
  case deferred_write =>
    intro c error herror
    rw [ht.deferred] at herror
    exact ht.writeUnresolved_kept h (h.deferred_write c error herror)
  case closing_deferred =>
    intro hclosed a write c ha hcommand hkind
    rw [hclosing] at hclosed
    rw [ht.deferred]
    obtain ⟨-, -, hcontrolKind, hrequestKind⟩ := ht.closing_kind hclosed
    rw [hlook] at ha
    split at ha
    · cases ha
      rcases hkind with hkind | ⟨sb, hkind⟩
      · exact absurd hkind hcontrolKind
      · exact absurd hkind (hrequestKind sb)
    · exact h.closing_deferred hclosed a write c ha hcommand hkind
  case state_range =>
    rw [ht.state]
    exact h.state_range
  case deselect_quiet =>
    intro transaction hactive hkind
    refine ht.dataQuiet (ht.quiet transaction hactive hkind) ?_ fun sb hnew => ?_
    · cases hdata : new.kind.isData with
      | false => rfl
      | true => exact absurd hkind ((ht.data hdata).2 transaction hactive)
    · exact (ht.data (by rw [hnew]; rfl)).2 transaction hactive hkind
  case unselected_quiet =>
    intro hlive hstate
    rw [ht.state] at hstate
    obtain ⟨hquiet, hcontracts⟩ := h.unselected_quiet (hclosing ▸ hlive) hstate
    refine ⟨ht.dataQuiet hquiet ?_ fun sb hnew => ?_, ht.contracts hcontracts⟩
    · cases hdata : new.kind.isData with
      | false => rfl
      | true => exact absurd (ht.data hdata).1 hstate
    · exact hstate (ht.data (by rw [hnew]; rfl)).1

end Hsms
end SecsRust

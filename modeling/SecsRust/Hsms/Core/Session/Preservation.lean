import SecsRust.Hsms.Core.Session.CoherentStep

/-!
# Every effect keeps the cross-reference invariant: the collection

The effects that add a write, one lemma each, and then `Effect.coherent`, which goes through
all effects, and its consequence for a sequence of them (`coherent_of_steps`).

An effect that sends a frame takes a new write identifier, and often new System Bytes as
well.  Both are taken from counters that have passed everything in use, so the new entry
meets no old one (`systemBytesUsed_take`), and the command of the frame is either the one
that was just accepted (`Coherent.fresh_unwritten`) or none.  The one frame that is sent
while the generation is already closing is that of a Separate, and it is treated apart
(`Coherent.trackSeparate`).

The lemmas of the second half each take one constructor of `Effect` to the rule that it
falls under.  They state the condition of the constructor as a hypothesis and nothing else,
so when a handler of the source changes, the lemma for the effect that it performs is what
has to be looked at again.
-/

namespace SecsRust
namespace Hsms

open Std Secs2 SessionCore

section Tracking

variable {fresh : Option CommandId} {core : SessionCore}

/-- An accepted command may be given to a new write. -/
theorem Coherent.fresh_unwritten {c : CommandId} (h : Coherent (some c) core) :
    core.writeUnresolved c = false :=
  writeUnresolved_eq_false_iff.mpr (h.fresh_unreferenced c rfl).write

theorem systemBytesUsed_take {sb : SystemBytes} {raw : UInt32}
    (hnext : core.nextSystemBytes = some raw) (hsb : core.SystemBytesUsed sb) :
    ∀ next, u32CheckedSucc raw = some next → sb.raw < next := by
  intro next hsucc
  exact UInt32.lt_trans (hsb raw hnext) (lt_of_u32CheckedSucc hsucc)

/-- The condition of a live effect contradicts closing. -/
theorem not_closing {p : Prop} (hlive : core.closing = false) (hclosed : core.closing = true) :
    p := by
  rw [hlive] at hclosed
  cases hclosed

theorem Coherent.respond {w : WriteId} (h : Coherent fresh core)
    (hnext : core.nextWriteId = some w.raw) (hlive : core.closing = false) :
    Coherent fresh (core.trackWrite w ⟨.response, none⟩) := by
  have ht : Tracks w ⟨.response, none⟩ core (core.trackWrite w ⟨.response, none⟩) := {
    next := ⟨hnext, rfl⟩
    bytes := fun _ hsb => hsb
    write := rfl
    open_ := rfl
    deferred := rfl
    closing := ⟨rfl, rfl⟩
    state := rfl
    drain := Or.inl rfl
    command := nofun
    unwritten := nofun
    unowned := nofun
    control := fun _ ht => Or.inl ht
    control_kept := fun _ ht => ht
    control_new := nofun
    request := fun _ _ ht => Or.inl ht
    request_kept := fun _ _ ht => ht
    request_new := nofun
    alone := fun _ _ => rfl
    closing_kind := not_closing hlive
    separate := nofun
    data := nofun
    quiet := h.deselect_quiet
    contracts := id }
  exact h.track ht fresh fun c hc => ⟨hc, nofun, rfl, rfl⟩

/-- The write of the Separate frame, produced while the generation is already closing. -/
theorem Coherent.trackSeparate {w : WriteId} {sb : SystemBytes} (h : Coherent fresh core)
    (hclosing : core.closing = true) (hnext : core.Allocates sb w)
    (hopen : ∀ c, fresh = some c → core.openCommands[c]? = some .control) :
    Coherent none ((core.takeSystemBytes sb).trackWrite w ⟨.separate, fresh⟩) := by
  obtain ⟨hidle, hempty⟩ := h.closing_empty hclosing
  have ht : Tracks w ⟨.separate, fresh⟩ core
      ((core.takeSystemBytes sb).trackWrite w ⟨.separate, fresh⟩) := {
    next := ⟨hnext.2, rfl⟩
    bytes := fun _ hsb => systemBytesUsed_take hnext.1 hsb
    write := rfl
    open_ := rfl
    deferred := rfl
    closing := ⟨rfl, rfl⟩
    state := rfl
    drain := Or.inl rfl
    command := fun c hc => ⟨.control, rfl, hopen c hc⟩
    unwritten := fun c hc => writeUnresolved_eq_false_iff.mpr (h.fresh_unreferenced c hc).write
    unowned := fun c hc => ⟨(h.fresh_unreferenced c hc).control,
      (h.fresh_unreferenced c hc).request⟩
    control := fun _ ht => Or.inl ht
    control_kept := fun _ ht => ht
    control_new := nofun
    request := fun _ _ ht => Or.inl ht
    request_kept := fun _ _ ht => ht
    request_new := nofun
    alone := fun _ _ => rfl
    closing_kind := fun _ => ⟨rfl, rfl, nofun, nofun⟩
    separate := fun hlive => not_closing hlive hclosing
    data := nofun
    quiet := h.deselect_quiet
    contracts := id }
  exact h.track ht none nofun

theorem Coherent.startControl {w : WriteId} {sb : SystemBytes} {kind : TransactionKind}
    (h : Coherent fresh core) (hother : kind ≠ .deselect) (hlive : core.closing = false)
    (hopen : ∀ c, fresh = some c → core.openCommands[c]? = some .control)
    (hidle : core.activeTransaction = none) (hdrain : core.deselectDrain = none)
    (hnext : core.Allocates sb w) :
    Coherent none { (core.takeSystemBytes sb).trackWrite w ⟨.transactionRequest, fresh⟩ with
      activeTransaction := some ⟨kind, fresh, controlSessionId, sb, w, none⟩ } := by
  have ht : Tracks w ⟨.transactionRequest, fresh⟩ core
      { (core.takeSystemBytes sb).trackWrite w ⟨.transactionRequest, fresh⟩ with
        activeTransaction := some ⟨kind, fresh, controlSessionId, sb, w, none⟩ } := {
    next := ⟨hnext.2, rfl⟩
    bytes := fun _ hsb => systemBytesUsed_take hnext.1 hsb
    write := rfl
    open_ := rfl
    deferred := rfl
    closing := ⟨rfl, rfl⟩
    state := rfl
    drain := Or.inl rfl
    command := fun c hc => ⟨.control, rfl, hopen c hc⟩
    unwritten := fun c hc => writeUnresolved_eq_false_iff.mpr (h.fresh_unreferenced c hc).write
    unowned := fun c hc => ⟨(h.fresh_unreferenced c hc).control,
      (h.fresh_unreferenced c hc).request⟩
    control := fun transaction ht => by
      cases ht
      exact Or.inr ⟨rfl, rfl, rfl, rfl⟩
    control_kept := fun transaction ht => by
      rw [hidle] at ht
      cases ht
    control_new := fun _ _ => ⟨_, rfl, rfl, rfl⟩
    request := fun _ _ ht => Or.inl ht
    request_kept := fun _ _ ht => ht
    request_new := nofun
    alone := fun _ hsome => by
      have hsome : core.deselectDrain.isSome = true := hsome
      rw [hdrain] at hsome
      cases hsome
    closing_kind := not_closing hlive
    separate := nofun
    data := nofun
    quiet := fun transaction ht hkind => by
      cases ht
      exact absurd hkind hother
    contracts := id }
  exact h.track ht none nofun

theorem Coherent.startDeselection {w : WriteId} {sb : SystemBytes} {drain : DeselectDrain}
    (h : Coherent none core) (hlive : core.closing = false)
    (hdrain : core.deselectDrain = some drain) (hquiet : core.dataInUse = false)
    (hnext : core.Allocates sb w) :
    Coherent none { (core.takeSystemBytes sb).trackWrite w
        ⟨.transactionRequest, some drain.commandId⟩ with
      deselectDrain := none
      activeTransaction :=
        some ⟨.deselect, some drain.commandId, controlSessionId, sb, w, none⟩ } := by
  have hidle : core.activeTransaction = none :=
    (h.drain_alone hlive (by rw [hdrain]; rfl)).1
  have ht : Tracks w ⟨.transactionRequest, some drain.commandId⟩ core
      { (core.takeSystemBytes sb).trackWrite w ⟨.transactionRequest, some drain.commandId⟩ with
        deselectDrain := none
        activeTransaction :=
          some ⟨.deselect, some drain.commandId, controlSessionId, sb, w, none⟩ } := {
    next := ⟨hnext.2, rfl⟩
    bytes := fun _ hsb => systemBytesUsed_take hnext.1 hsb
    write := rfl
    open_ := rfl
    deferred := rfl
    closing := ⟨rfl, rfl⟩
    state := rfl
    drain := Or.inr rfl
    command := fun c hc => by
      cases hc
      exact ⟨.control, rfl, h.drain_open hlive drain hdrain⟩
    unwritten := fun c hc => by
      cases hc
      exact h.drain_unwritten hlive hdrain
    unowned := fun c hc => by
      cases hc
      exact ⟨fun transaction ht => h.drain_ne_control hlive hdrain ht,
        fun sb transaction ht hc => h.drain_ne_request hlive hdrain ht hc.symm⟩
    control := fun transaction ht => by
      cases ht
      exact Or.inr ⟨rfl, rfl, rfl, rfl⟩
    control_kept := fun transaction ht => by
      rw [hidle] at ht
      cases ht
    control_new := fun _ _ => ⟨_, rfl, rfl, rfl⟩
    request := fun _ _ ht => Or.inl ht
    request_kept := fun _ _ ht => ht
    request_new := nofun
    alone := nofun
    closing_kind := not_closing hlive
    separate := nofun
    data := nofun
    quiet := fun _ _ _ => (dataInUse_eq_false_iff.mp hquiet).1
    contracts := id }
  exact h.track ht none nofun

/-- The write of a Data frame that leaves no transaction behind: a one-way Primary or a reply. -/
theorem Coherent.trackSend {after : SessionCore} {w : WriteId} {c : CommandId}
    {correlation : DataWriteCorrelation} (h : Coherent (some c) core)
    (hstate : core.state = some .selected) (hlive : core.closing = false)
    (hopen : core.openCommands[c]? = some .send) (hunblocked : core.repliesBlocked = false)
    (hnext : core.nextWriteId = some w.raw)
    (hbytes : ∀ sb, core.SystemBytesUsed sb → after.SystemBytesUsed sb)
    (hframe : after = { core.trackWrite w ⟨.dataSend correlation, some c⟩ with
      nextSystemBytes := after.nextSystemBytes
      replyContracts := after.replyContracts })
    (hcontracts : core.replyContracts = ∅ → after.replyContracts = ∅) : Coherent none after := by
  have hcommand : ∀ c', (⟨.dataSend correlation, some c⟩ : PendingWrite).commandId = some c' →
      c = c' := fun c' hc => Option.some.inj hc
  have ht : Tracks w ⟨.dataSend correlation, some c⟩ core after := {
    next := ⟨hnext, by rw [hframe]; rfl⟩
    bytes := hbytes
    write := by rw [hframe]; rfl
    open_ := by rw [hframe]; rfl
    deferred := by rw [hframe]; rfl
    closing := by rw [hframe]; exact ⟨rfl, rfl⟩
    state := by rw [hframe]; rfl
    drain := Or.inl (by rw [hframe]; rfl)
    command := fun c' hc => ⟨.send, rfl, hcommand c' hc ▸ hopen⟩
    unwritten := fun c' hc => hcommand c' hc ▸ h.fresh_unwritten
    unowned := fun c' hc => hcommand c' hc ▸
      ⟨(h.fresh_unreferenced c rfl).control, (h.fresh_unreferenced c rfl).request⟩
    control := fun _ ht => Or.inl (by rw [hframe] at ht; exact ht)
    control_kept := fun _ ht => by rw [hframe]; exact ht
    control_new := nofun
    request := fun _ _ ht => Or.inl (by rw [hframe] at ht; exact ht)
    request_kept := fun _ _ ht => by rw [hframe]; exact ht
    request_new := nofun
    alone := fun _ _ => by rw [hframe]; rfl
    closing_kind := not_closing hlive
    separate := nofun
    data := fun _ => ⟨hstate, fun transaction ht => by
      rw [hframe] at ht
      exact repliesBlocked_eq_false_iff.mp hunblocked transaction ht⟩
    quiet := fun transaction ht hkind => by
      rw [hframe] at ht
      exact absurd hkind (repliesBlocked_eq_false_iff.mp hunblocked transaction ht)
    contracts := hcontracts }
  exact h.track ht none nofun

theorem Coherent.sendRequest {w : WriteId} {sb : SystemBytes} {c : CommandId}
    {transaction : DataTransaction} (h : Coherent (some c) core)
    (hstate : core.state = some .selected) (hlive : core.closing = false)
    (hopen : core.openCommands[c]? = some .request) (hunblocked : core.repliesBlocked = false)
    (hnext : core.Allocates sb w) (hcommand : transaction.commandId = c)
    (hown : transaction.writeId = w) (hunarmed : transaction.deadline = none)
    (hkey : transaction.responseContract.systemBytes = sb) :
    Coherent none { (core.takeSystemBytes sb).trackWrite w ⟨.dataRequest sb, some c⟩ with
      dataTransactions := core.dataTransactions.insert sb transaction } := by
  have hlook : ∀ sb', (core.dataTransactions.insert sb transaction)[sb']? =
      if sb = sb' then some transaction else core.dataTransactions[sb']? :=
    fun sb' => TreeMap.getElem?_insert _ _ _
  have hvacant : ∀ sb' old, core.dataTransactions[sb']? = some old → sb ≠ sb' := by
    rintro sb' old ht rfl
    exact absurd ((h.request_used sb old ht).2 _ hnext.1) (UInt32.lt_irrefl _)
  have hcommand' : ∀ c', (⟨.dataRequest sb, some c⟩ : PendingWrite).commandId = some c' →
      c = c' := fun c' hc => Option.some.inj hc
  have ht : Tracks w ⟨.dataRequest sb, some c⟩ core
      { (core.takeSystemBytes sb).trackWrite w ⟨.dataRequest sb, some c⟩ with
        dataTransactions := core.dataTransactions.insert sb transaction } := {
    next := ⟨hnext.2, rfl⟩
    bytes := fun _ hsb => systemBytesUsed_take hnext.1 hsb
    write := rfl
    open_ := rfl
    deferred := rfl
    closing := ⟨rfl, rfl⟩
    state := rfl
    drain := Or.inl rfl
    command := fun c' hc => ⟨.request, rfl, hcommand' c' hc ▸ hopen⟩
    unwritten := fun c' hc => hcommand' c' hc ▸ h.fresh_unwritten
    unowned := fun c' hc => hcommand' c' hc ▸
      ⟨(h.fresh_unreferenced c rfl).control, (h.fresh_unreferenced c rfl).request⟩
    control := fun _ ht => Or.inl ht
    control_kept := fun _ ht => ht
    control_new := nofun
    request := fun sb' found ht => by
      rw [hlook] at ht
      split at ht
      · rename_i heq
        cases ht
        subst heq
        exact Or.inr ⟨hown, rfl, congrArg some hcommand.symm, hunarmed, hkey,
          fun next hsucc => lt_of_u32CheckedSucc hsucc⟩
      · exact Or.inl ht
    request_kept := fun sb' old ht => by
      rw [hlook, if_neg (hvacant sb' old ht)]
      exact ht
    request_new := fun _ sb' c' hkind hc => by
      cases hkind
      exact ⟨transaction, by rw [hlook, if_pos rfl], hown, hcommand.trans (hcommand' c' hc)⟩
    alone := fun _ _ => rfl
    closing_kind := not_closing hlive
    separate := nofun
    data := fun _ => ⟨hstate, repliesBlocked_eq_false_iff.mp hunblocked⟩
    quiet := fun control ht hkind =>
      absurd hkind (repliesBlocked_eq_false_iff.mp hunblocked control ht)
    contracts := id }
  exact h.track ht none nofun

end Tracking

section Arming

variable {core : SessionCore} {w : WriteId} {deadline : MonoTime}

theorem Coherent.commitControl {transaction : ControlTransaction} (h : Coherent none core)
    (hactive : core.activeTransaction = some transaction) (hown : transaction.writeId = w) :
    Coherent none { core.eraseWrite w with
      activeTransaction := some { transaction with deadline := some deadline } } := by
  refine h.arm (w := w) ⟨rfl, h.live_of_active hactive, fun found hfound => ?_,
    fun before hbefore => ?_, fun sb found hfound => ⟨found, hfound, rfl, rfl, rfl, Or.inl rfl⟩,
    fun sb before hbefore => ⟨before, hbefore, rfl, rfl⟩⟩
  · cases hfound
    exact ⟨transaction, hactive, rfl, rfl, rfl, Or.inr hown⟩
  · rw [hactive] at hbefore
    cases hbefore
    exact ⟨_, rfl, rfl, rfl⟩

theorem Coherent.commitRequest {sb : SystemBytes} {transaction : DataTransaction}
    (h : Coherent none core) (hlive : core.dataTransactions[sb]? = some transaction)
    (hown : transaction.writeId = w) :
    Coherent none { core.eraseWrite w with
      dataTransactions :=
        core.dataTransactions.insert sb { transaction with deadline := some deadline } } := by
  have hlook : ∀ sb', (core.dataTransactions.insert sb
      { transaction with deadline := some deadline })[sb']? =
      if sb = sb' then some { transaction with deadline := some deadline }
      else core.dataTransactions[sb']? := fun sb' => TreeMap.getElem?_insert _ _ _
  refine h.arm (w := w) ⟨rfl, h.live_of_request hlive,
    fun found hfound => ⟨found, hfound, rfl, rfl, rfl, Or.inl rfl⟩,
    fun before hbefore => ⟨before, hbefore, rfl, rfl⟩, fun sb' found hfound => ?_,
    fun sb' before hbefore => ?_⟩
  · rw [hlook] at hfound
    split at hfound
    · rename_i heq
      cases hfound
      exact ⟨transaction, heq ▸ hlive, rfl, rfl, rfl, Or.inr hown⟩
    · exact ⟨found, hfound, rfl, rfl, rfl, Or.inl rfl⟩
  · by_cases heq : sb = sb'
    · subst heq
      rw [hlive] at hbefore
      cases hbefore
      exact ⟨_, (hlook sb).trans (if_pos rfl), rfl, rfl⟩
    · exact ⟨before, (hlook sb').trans ((if_neg heq).trans hbefore), rfl, rfl⟩

end Arming

/-! ## The collection -/

section Collection

variable {fresh : Option CommandId} {core after : SessionCore}

/-- An effect on the fields that no table refers to. -/
theorem Coherent.observe (h : Coherent fresh core) (hframe : after = { core with
      lastNow := after.lastNow
      notice := after.notice
      lastActivity := after.lastActivity
      idleDeadline := after.idleDeadline }) : Coherent fresh after := by
  rw [hframe]
  have hr : Removes none core { core with
      lastNow := after.lastNow
      notice := after.notice
      lastActivity := after.lastActivity
      idleDeadline := after.idleDeadline } :=
    .of_same rfl rfl rfl rfl rfl rfl ⟨rfl, rfl⟩ ⟨rfl, rfl⟩
  exact h.remove hr rfl id fun c hc => ⟨hc, nofun⟩

theorem Coherent.ended {pre : SessionCore} (h : Coherent fresh core) (hframe : pre = { core with
      state := pre.state
      selectionDeadline := pre.selectionDeadline
      lastActivity := pre.lastActivity
      idleDeadline := pre.idleDeadline
      deselectDrain := pre.deselectDrain
      replyContracts := pre.replyContracts })
    (hstate : pre.state = core.state ∨ pre.state = some .notSelected ∨ pre.state = some .selected)
    (hdone : pre.Ended after) : Coherent none after := by
  have hp : Precedes core pre := by
    refine ⟨?_, ?_, fun w write hw => ?_, fun _ => ?_, ?_⟩
    · rw [hframe]
    · rw [hframe]
    · rw [hframe] at hw
      exact hw
    · rw [hframe]
    · rw [hframe]
      exact ⟨rfl, rfl⟩
  refine h.close (h.closes_of_ended hp ?_ hdone) nofun
  rcases hstate with hstate | hstate
  · rw [hstate]
    exact h.state_range
  · exact Or.inr hstate

theorem Coherent.lostWrite {pre : SessionCore} {w : WriteId} (h : Coherent fresh core)
    (hlive : core.closing = false) (hframe : pre = { core.eraseWrite w with
      lastActivity := pre.lastActivity
      idleDeadline := pre.idleDeadline }) (hdone : pre.Ended after) : Coherent none after := by
  have hp : Precedes core pre := by
    refine ⟨?_, ?_, fun a write hw => ?_, not_closing hlive, ?_⟩
    · rw [hframe]
      rfl
    · rw [hframe]
      rfl
    · rw [hframe] at hw
      have hw : (core.eraseWrite w).pendingWrites[a]? = some write := hw
      rw [eraseWrite_pendingWrites] at hw
      split at hw
      · cases hw
      · exact hw
    · rw [hframe]
      exact ⟨rfl, rfl⟩
  refine h.close (h.closes_of_ended hp ?_ hdone) nofun
  rw [hframe]
  exact h.state_range

theorem Coherent.loseCommands (h : Coherent none core) (hclosing : core.closing = true)
    (hdone : Completed { core with activeTransaction := none, dataTransactions := ∅ } after
      .connectionLost core.openCommands.keys) : Coherent none after := by
  have hflags : after.closing = true ∧ after.closeActionIssued = true := by
    rw [hdone.frame]
    exact ⟨hclosing, h.closing_issued.trans hclosing⟩
  have hsame : ({ after with closing := true, closeActionIssued := true } :
      SessionCore) = after := by
    obtain ⟨hclosed, hissued⟩ := hflags
    cases after
    subst hclosed hissued
    rfl
  have hclosed : Coherent none _ := h.close (h.closes_of_completed hdone) nofun
  rwa [hsame] at hclosed

theorem Coherent.lateControl {c : CommandId} (h : Coherent fresh core)
    (hclosing : core.closing = true) (hfresh : fresh ≠ some c) :
    Coherent fresh (core.detach c) := by
  obtain ⟨hidle, hempty⟩ := h.closing_empty hclosing
  refine h.detach (fun transaction ht => ?_) (fun hlive => not_closing hlive hclosing)
    (fun sb transaction ht => ?_) fun c' hc' => ⟨hc', ?_⟩
  · rw [hidle] at ht
    cases ht
  · rw [hempty, ExtTreeMap.getElem?_empty] at ht
    cases ht
  · rintro rfl
    exact hfresh hc'

theorem Coherent.startDrain {c : CommandId} {deadline : MonoTime} (h : Coherent (some c) core)
    (hstate : core.state = some .selected) (hopen : core.openCommands[c]? = some .control)
    (hidle : core.activeTransaction = none) :
    Coherent none { core with deselectDrain := some ⟨c, deadline⟩ } := {
  h with
  fresh_open := nofun
  fresh_unreferenced := nofun
  drain_open := fun _ drain hd => by
    cases hd
    exact hopen
  drain_alone := fun _ _ => ⟨hidle, by rw [hstate]; rfl⟩ }

/-- Separate with a command of ours: the preempted generation, then the frame's own write. -/
theorem Coherent.separate {w : WriteId} {sb : SystemBytes} (h : Coherent fresh core)
    (hlive : core.closing = false) (hidle : core.activeTransaction = none)
    (hopen : ∀ c, fresh = some c → core.openCommands[c]? = some .control)
    (hnext : core.Allocates sb w) (hdone : core.Separated after) :
    Coherent none ((after.takeSystemBytes sb).trackWrite w ⟨.separate, fresh⟩) := by
  have hkept : ∀ c, fresh = some c → after.openCommands[c]? = some .control := by
    intro c hc
    rw [hdone.openCommands, if_neg, hopen c hc]
    rintro ⟨hdata, -⟩
    rw [mem_dataCommands, hopen c hc] at hdata
    rcases hdata with hdata | hdata
    · cases hdata
    · cases hdata
  have hclosed : Coherent fresh after := by
    refine h.close (h.closes_of_separated hlive hidle hdone) fun c hc => ⟨hc, ?_⟩
    rw [hkept c hc]
    rfl
  refine hclosed.trackSeparate ?_ ?_ hkept
  · rw [hdone.frame]
  · rw [hdone.frame]
    exact hnext

theorem Coherent.rejectSend {w : WriteId} {write : PendingWrite} {c : CommandId}
    {correlation : DataWriteCorrelation} (h : Coherent fresh core)
    (hw : core.pendingWrites[w]? = some write) (hkind : write.kind = .dataSend correlation)
    (hc : write.commandId = some c) : Coherent fresh (core.detach c) := by
  obtain ⟨kind, hopenKind, hopen⟩ := h.write_open w write c hw hc
  rw [hkind, PendingWriteKind.openKind, Option.some.injEq] at hopenKind
  refine h.detach_send (by rw [hopen, hopenKind]) fun hfresh => ?_
  exact (h.fresh_unreferenced c hfresh).write w write hw hc

theorem Coherent.eraseContract {capability : ReplyCapabilityId} (h : Coherent fresh core) :
    Coherent fresh (core.eraseContract capability) := by
  have hr : Removes none core (core.eraseContract capability) :=
    .of_same rfl rfl rfl rfl rfl rfl ⟨rfl, rfl⟩ ⟨rfl, rfl⟩
  refine h.remove hr rfl (fun hempty => ?_) fun c hc => ⟨hc, nofun⟩
  refine TreeMap.eq_empty_iff.mpr fun k => ?_
  show (core.replyContracts.erase capability)[k]? = none
  rw [hempty, TreeMap.getElem?_erase, ExtTreeMap.getElem?_empty, ite_self]

theorem Coherent.commitCommand {w : WriteId} {write : PendingWrite} {c : CommandId}
    {result : CoreCommandResult} (h : Coherent none core)
    (hw : core.pendingWrites[w]? = some write) (hc : write.commandId = some c)
    (hcause : CommitCause core w write c result) :
    Coherent none ((core.eraseWrite w).detach c) := by
  have hclose := h.concludeWrite hw fun c' hc' => ?_
  · rwa [hc] at hclose
  · rw [hc] at hc'
    cases hc'
    obtain ⟨kind, hopenKind, hopen⟩ := h.write_open w write c hw hc
    cases hcause with
    | send hkind =>
      rw [hkind, PendingWriteKind.openKind, Option.some.injEq] at hopenKind
      exact Or.inr (by rw [hopen, hopenKind])
    | separate hkind =>
      cases hclosing : core.closing with
      | true => exact Or.inl rfl
      | false => exact absurd hkind (h.write_separate hclosing w write hw)
    | released _ _ hdeferred =>
      cases hclosing : core.closing with
      | true => exact Or.inl rfl
      | false => cases (h.deferred_closing hclosing c).symm.trans hdeferred

end Collection

/-- **Every effect keeps the cross-reference invariant.**  One case for each effect, closed by
the rule of its kind. -/
theorem Effect.coherent {origin : SessionCore} {input : Input} {stage stage' : Stage}
    {actions : List CoreAction} (h : Coherent stage.fresh stage.core)
    (he : Effect origin input stage actions stage') : Coherent stage'.fresh stage'.core := by
  cases he with
  | tick _ => exact h.observe rfl
  | observe _ _ _ => exact h.observe rfl
  | ended _ frame state _ done => exact h.ended frame state done
  | lostWrite _ _ _ live frame done => exact h.lostWrite live frame done
  | lateAnnounce _ => exact h
  | lateControl _ closing _ notFresh => exact h.lateControl closing notFresh
  | admissionClosed _ _ _ _ done => exact h.close (h.closes_of_completed done) nofun
  | abandonWrites _ closing done => exact h.close (h.closes_of_abandoned closing done) nofun
  | loseCommands _ closing done => exact h.loseCommands closing done
  | connect _ state live _ =>
    refine h.reselect (.of_same rfl rfl rfl rfl rfl rfl ⟨rfl, rfl⟩ ⟨rfl, rfl⟩) (Or.inl rfl) ?_
    intro _ _
    exact h.unselected_quiet live (by rw [state]; nofun)
  | selected _ _ _ =>
    refine h.reselect (.of_same rfl rfl rfl rfl rfl rfl ⟨rfl, rfl⟩ ⟨rfl, rfl⟩) (Or.inr rfl) ?_
    intro _ hsel
    exact absurd rfl hsel
  | deselected _ _ _ quiet _ _ =>
    refine h.reselect (.of_same rfl rfl rfl rfl rfl rfl ⟨rfl, rfl⟩ ⟨rfl, rfl⟩) (Or.inl rfl) ?_
    exact fun _ _ => ⟨quiet, rfl⟩
  | respond _ _ live next _ _ => exact h.respond next live
  | refuse _ _ _ => exact h.refuse
  | startDrain state _ open_ idle _ _ _ => exact h.startDrain state open_ idle
  | endDrain live pending _ => exact h.endDrain live pending
  | startControl _ other _ live open_ idle noDrain next _ _ =>
    exact h.startControl other live open_ idle noDrain next
  | startDeselection _ live pending quiet next =>
    exact h.startDeselection live pending quiet next
  | retireControl active _ _ => exact h.retireControl active
  | separate _ _ live open_ idle _ next done => exact h.separate live idle open_ next done
  | peerSeparate _ live idle _ done =>
    exact h.close (h.closes_of_separated live idle done) nofun
  | sendRequest _ _ state live open_ _ unblocked _ next =>
    exact h.sendRequest state live open_ unblocked.2 next rfl rfl rfl rfl
  | sendPrimary _ _ state live open_ _ unblocked _ next =>
    exact h.trackSend state live open_ unblocked.2 next.2
      (fun _ hsb => systemBytesUsed_take next.1 hsb) rfl id
  | retireRequest _ pending _ => exact h.retireRequest pending _
  | rejectSend _ _ pending kind command _ => exact h.rejectSend pending kind command
  | deliver _ state _ _ _ _ _ _ _ =>
    refine h.reselect (.of_same rfl rfl rfl rfl rfl rfl ⟨rfl, rfl⟩ ⟨rfl, rfl⟩) (Or.inr state) ?_
    intro _ hsel
    exact absurd state hsel
  | deliverOneWay _ _ _ _ _ _ => exact h
  | spendContract _ _ _ _ _ _ => exact h.refuse.eraseContract
  | sendReply state live open_ _ unblocked next _ =>
    exact h.eraseContract.trackSend state live open_ unblocked.2 next (fun _ hsb => hsb) rfl id
  | commitControl _ _ active own _ => exact h.commitControl active own
  | commitRequest _ _ live own _ => exact h.commitRequest live own
  | commitCommand _ pending command cause => exact h.commitCommand pending command cause
  | commitSilently _ pending orphan =>
    have hclose := h.concludeWrite pending fun c hc => by rw [orphan] at hc; cases hc
    rwa [orphan] at hclose
  | failWrite pending _ _ => exact h.failWrite pending

/-- A round keeps the invariant. -/
theorem coherent_of_steps {origin : SessionCore} {input : Input} {stage stage' : Stage}
    {actions : List CoreAction} (hs : Steps (Effect origin input) stage actions stage')
    (h : Coherent stage.fresh stage.core) : Coherent stage'.fresh stage'.core :=
  hs.preserves (I := fun stage => Coherent stage.fresh stage.core)
    (fun _ _ _ h he => he.coherent h) h

end Hsms
end SecsRust

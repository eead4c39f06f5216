import SecsRust.Hsms.Core.Session.Handle

/-!
# Who waits for an open command

An open command is waiting for something: its write's outcome, its control transaction, its
Data Request, or the drain of its Deselect.  `Owned` says so, and `Settled` that it holds of
every open command, except the one that the round has just accepted.  While the generation
lives any of the four will do; once it is closing only a write is left to wait for.

This is the converse of the cross-reference invariant.  `Coherent` says that what refers to
a command refers to one that is open; here an open command is referred to by something.
Together they mean that a command can neither be completed behind the back of its owner nor
be forgotten by it.

## The effect that breaks it

A peer Separate that arrives during a local drain closes the generation and drops the drain
without completing its command (`SessionCore.StrandsDeselect`).  A local Separate in the
same state completes it first.  Along every run in which no round does that the invariant
holds, and it is what keeps a close from stranding a command: in a closed generation every
command that is still open has a pending write, so the end of the Writer completes it
(`StrandsNoCommand`).

`Settled.keep` is the rule for the effects that leave the owners alone, and most effects
fall under it.
-/

namespace SecsRust
namespace Hsms

open Std SessionCore

/-- Something will complete the open command. -/
inductive Owned (core : SessionCore) (c : CommandId) : Prop where
  | write (unresolved : core.writeUnresolved c = true)
  | control {transaction : ControlTransaction} (live : core.closing = false)
      (active : core.activeTransaction = some transaction)
      (command : transaction.commandId = some c)
  | drain {drain : DeselectDrain} (live : core.closing = false)
      (pending : core.deselectDrain = some drain) (command : drain.commandId = c)
  | request {systemBytes : SystemBytes} {transaction : DataTransaction}
      (live : core.closing = false)
      (pending : core.dataTransactions[systemBytes]? = some transaction)
      (command : transaction.commandId = c)

/-- **The ownership invariant**: every open command is owned, or is the accepted one.  A command
without an owner would stay open until the generation ends; this is what the invariant excludes. -/
def Settled (fresh : Option CommandId) (core : SessionCore) : Prop :=
  ∀ (c : CommandId) (kind : OpenCommandKind),
    core.openCommands[c]? = some kind → fresh = some c ∨ Owned core c

namespace SessionCore

variable {core : SessionCore} {c : CommandId}

/-- A release keeps the writes of every other command. -/
theorem writeUnresolved_release {removed : Option CommandId} (hne : removed ≠ some c)
    (h : core.writeUnresolved c = true) : (core.release removed).writeUnresolved c = true := by
  obtain ⟨w, write, hw, hcommand⟩ := writeUnresolved_iff.mp h
  exact writeUnresolved_iff.mpr
    ⟨w, write, getElem?_pendingWrites_release_of_ne hw hcommand hne, hcommand⟩

/-- Resolving a write of another command keeps a command unresolved. -/
theorem writeUnresolved_eraseWrite {w : WriteId} {write : PendingWrite}
    (hw : core.pendingWrites[w]? = some write) (hne : write.commandId ≠ some c)
    (h : core.writeUnresolved c = true) : (core.eraseWrite w).writeUnresolved c = true := by
  obtain ⟨w', write', hw', hcommand⟩ := writeUnresolved_iff.mp h
  refine writeUnresolved_iff.mpr ⟨w', write', ?_, hcommand⟩
  rw [eraseWrite_pendingWrites, if_neg]
  · exact hw'
  · rintro rfl
    rw [hw] at hw'
    rw [← Option.some.inj hw'] at hcommand
    exact hne hcommand

/-- A write under a new WriteId leaves the writes of every command in place. -/
theorem writeUnresolved_trackWrite {w : WriteId} {write : PendingWrite}
    (hvacant : core.pendingWrites[w]? = none) (h : core.writeUnresolved c = true) :
    (core.trackWrite w write).writeUnresolved c = true := by
  obtain ⟨w', write', hw', hcommand⟩ := writeUnresolved_iff.mp h
  refine writeUnresolved_iff.mpr ⟨w', write', ?_, hcommand⟩
  refine (TreeMap.getElem?_insert _ _ _).trans ((if_neg ?_).trans hw')
  rintro rfl
  rw [hvacant] at hw'
  cases hw'

/-- The command of a new write is unresolved. -/
theorem writeUnresolved_trackWrite_self {w : WriteId} {kind : PendingWriteKind} :
    (core.trackWrite w ⟨kind, some c⟩).writeUnresolved c = true :=
  writeUnresolved_iff.mpr ⟨w, _, (TreeMap.getElem?_insert _ _ _).trans (if_pos rfl), rfl⟩

end SessionCore

/-- The next WriteId is not pending. -/
theorem Coherent.vacant_next {fresh : Option CommandId} {core : SessionCore} {w : WriteId}
    (h : Coherent fresh core) (hnext : core.nextWriteId = some w.raw) :
    core.pendingWrites[w]? = none := by
  cases hw : core.pendingWrites[w]? with
  | none => rfl
  | some write => exact absurd (h.write_used w write hw _ hnext) (UInt64.lt_irrefl _)

section

variable {fresh fresh' : Option CommandId} {core after : SessionCore}

/-- The rule for an effect: what is still open was open before, what was owned and is still open is
still owned, and the accepted command is owned if it is no longer the accepted one. -/
theorem Settled.step (h : Settled fresh core)
    (hopen : ∀ (c : CommandId) kind, after.openCommands[c]? = some kind →
      ∃ kind', core.openCommands[c]? = some kind')
    (howned : ∀ (c : CommandId) kind, after.openCommands[c]? = some kind → Owned core c →
      Owned after c)
    (hfresh : ∀ (c : CommandId) kind, after.openCommands[c]? = some kind → fresh = some c →
      fresh' = some c ∨ Owned after c) : Settled fresh' after := by
  intro c kind hc
  obtain ⟨kind', hc'⟩ := hopen c kind hc
  rcases h c kind' hc' with hf | ho
  · exact hfresh c kind hc hf
  · exact Or.inr (howned c kind hc ho)

/-- A close that completes every command without an unresolved write. -/
theorem Settled.of_loss (core before : SessionCore)
    (hpending : after.pendingWrites = before.pendingWrites)
    (hopen : ∀ c : CommandId, after.openCommands[c]? =
      if before.writeUnresolved c then core.openCommands[c]? else none) : Settled fresh' after := by
  intro c kind hc
  rw [hopen] at hc
  split at hc
  · rename_i hunresolved
    refine Or.inr (.write ?_)
    rw [writeUnresolved_congr hpending]
    exact hunresolved
  · cases hc

/-- Removing one command, in whatever way, from the tables. -/
theorem Settled.release (removed : Option CommandId) (h : Settled fresh core)
    (hopen : after.openCommands = (core.release removed).openCommands)
    (hunresolved : ∀ c, removed ≠ some c → core.writeUnresolved c = true →
      after.writeUnresolved c = true)
    (hclosing : after.closing = core.closing)
    (hcontrol : ∀ transaction c, core.activeTransaction = some transaction →
      transaction.commandId = some c → removed ≠ some c → ∃ transaction',
        after.activeTransaction = some transaction' ∧ transaction'.commandId = some c)
    (hdrain : ∀ drain, core.deselectDrain = some drain → removed ≠ some drain.commandId →
      after.deselectDrain = some drain)
    (hrequest : ∀ (sb : SystemBytes) transaction, core.dataTransactions[sb]? = some transaction →
      removed ≠ some transaction.commandId → ∃ transaction',
        after.dataTransactions[sb]? = some transaction' ∧
          transaction'.commandId = transaction.commandId)
    (hfresh : ∀ c, fresh = some c → fresh' = some c ∨ removed = some c) : Settled fresh' after := by
  have hne : ∀ (c : CommandId) kind, after.openCommands[c]? = some kind →
      removed ≠ some c ∧ core.openCommands[c]? = some kind := by
    intro c kind hc
    rw [hopen, getElem?_openCommands_release] at hc
    split at hc
    · cases hc
    · exact ⟨‹_›, hc⟩
  refine h.step (fun c kind hc => ⟨kind, (hne c kind hc).2⟩) (fun c kind hc ho => ?_)
    (fun c kind hc hf => ?_)
  · have hremoved := (hne c kind hc).1
    cases ho with
    | write unresolved => exact .write (hunresolved c hremoved unresolved)
    | control live active command =>
      obtain ⟨transaction', hactive, hcommand⟩ := hcontrol _ c active command hremoved
      exact .control (hclosing.trans live) hactive hcommand
    | drain live pending command =>
      subst command
      exact .drain (hclosing.trans live) (hdrain _ pending hremoved) rfl
    | request live pending command =>
      subst command
      obtain ⟨transaction', hsb, hcommand⟩ := hrequest _ _ pending hremoved
      exact .request (hclosing.trans live) hsb hcommand
  · rcases hfresh c hf with hf' | hremoved
    · exact Or.inl hf'
    · exact absurd hremoved (hne c kind hc).1

/-- The command of a refused or settled acceptance leaves; nothing else referred to it. -/
theorem Settled.detach_fresh {c : CommandId} (h : Settled (some c) core)
    (hopen : after.openCommands = (core.release (some c)).openCommands)
    (hunresolved : ∀ c', some c ≠ some c' → core.writeUnresolved c' = true →
      after.writeUnresolved c' = true)
    (hkept : after.closing = core.closing ∧ after.activeTransaction = core.activeTransaction ∧
      after.deselectDrain = core.deselectDrain ∧ after.dataTransactions = core.dataTransactions) :
    Settled none after := by
  obtain ⟨hclosing, hcontrol, hdrain, hrequest⟩ := hkept
  refine h.release (some c) hopen hunresolved hclosing ?_ ?_ ?_ fun c' hc' => Or.inr hc'
  · intro transaction c' hactive hcommand _
    exact ⟨transaction, hcontrol.trans hactive, hcommand⟩
  · intro drain hd _
    exact hdrain.trans hd
  · intro sb transaction hsb _
    exact ⟨transaction, by rw [hrequest, hsb], rfl⟩

/-- An effect that opens or removes no command: what was owned still is. -/
theorem Settled.keep (h : Settled fresh core)
    (hopen : after.openCommands = core.openCommands)
    (hunresolved : ∀ c, core.writeUnresolved c = true → after.writeUnresolved c = true)
    (hclosing : after.closing = core.closing)
    (hcontrol : ∀ transaction c, core.activeTransaction = some transaction →
      transaction.commandId = some c → after.activeTransaction = some transaction)
    (hdrain : core.closing = false → ∀ drain, core.deselectDrain = some drain →
      Owned after drain.commandId)
    (hrequest : ∀ (sb : SystemBytes) transaction, core.dataTransactions[sb]? = some transaction →
      after.dataTransactions[sb]? = some transaction)
    (hfresh : ∀ c, fresh = some c → fresh' = some c ∨ Owned after c) : Settled fresh' after := by
  refine h.step (fun c kind hc => ⟨kind, by rw [← hopen, hc]⟩) (fun c kind _ ho => ?_)
    (fun c kind _ hf => hfresh c hf)
  cases ho with
  | write unresolved => exact .write (hunresolved c unresolved)
  | control live active command =>
    exact .control (hclosing.trans live) (hcontrol _ c active command) command
  | drain live pending command => exact command ▸ hdrain live _ pending
  | request live pending command =>
    exact .request (hclosing.trans live) (hrequest _ _ pending) command

/-- The tables that ownership reads are the same. -/
theorem Settled.of_same (h : Settled fresh core) (hopen : after.openCommands = core.openCommands)
    (hpending : after.pendingWrites = core.pendingWrites) (hclosing : after.closing = core.closing)
    (hcontrol : after.activeTransaction = core.activeTransaction)
    (hdrain : after.deselectDrain = core.deselectDrain)
    (hrequest : after.dataTransactions = core.dataTransactions) : Settled fresh after := by
  refine h.keep hopen (fun c hc => ?_) hclosing (fun _ _ hactive _ => hcontrol.trans hactive)
    (fun hlive drain hd => .drain (hclosing.trans hlive) (hdrain.trans hd) rfl)
    (fun sb _ hsb => by rw [hrequest, hsb]) fun _ hc => Or.inl hc
  rw [writeUnresolved_congr hpending]
  exact hc

end

/-- What is left after a Separate is owned: the Data commands that could complete have, and no
control procedure was left. -/
theorem Settled.separated {fresh : Option CommandId} {core after : SessionCore}
    (h : Settled fresh core) (hc : Coherent fresh core) (hidle : core.activeTransaction = none)
    (hnoDrain : core.deselectDrain = none) (hdone : core.Separated after) :
    Settled fresh after := by
  refine h.step (fun c kind hopen => ?_) (fun c kind hopen ho => ?_) (fun c kind _ hf => Or.inl hf)
  · rw [hdone.openCommands] at hopen
    split at hopen
    · cases hopen
    · exact ⟨kind, hopen⟩
  · rw [hdone.openCommands] at hopen
    split at hopen
    · cases hopen
    · rename_i hstays
      have hpending : after.pendingWrites = core.pendingWrites := by rw [hdone.frame]
      have hunresolved : after.writeUnresolved c = core.writeUnresolved c :=
        writeUnresolved_congr hpending c
      cases ho with
      | write unresolved => exact .write (hunresolved.trans unresolved)
      | control _ active _ =>
        rw [hidle] at active
        cases active
      | drain _ pending _ =>
        rw [hnoDrain] at pending
        cases pending
      | request _ pending command =>
        subst command
        -- a Request is a Data command, so if it stays open its write is unresolved
        have hdata := mem_dataCommands.mpr (Or.inr (hc.request_open _ _ pending))
        refine .write (hunresolved.trans ?_)
        cases hw : core.writeUnresolved _ with
        | true => rfl
        | false => exact absurd ⟨hdata, hw⟩ hstays

/-- **The ownership invariant is kept by every effect** of a round that strands no drain.  The
two places of the source that strand a drain are excluded by name. -/
theorem Effect.settled {origin : SessionCore} {input : Input} {stage stage' : Stage}
    {actions : List CoreAction} (hstrands : ¬ origin.StrandsDeselect input)
    (hc : Coherent stage.fresh stage.core) (h : Settled stage.fresh stage.core)
    (he : Effect origin input stage actions stage') : Settled stage'.fresh stage'.core := by
  cases he with
  -- the generation ends
  | @ended s pre s' _ _ _ _ frame _ _ done =>
    refine .of_loss s s ?_ fun c => ?_
    · rw [done.frame, frame]
    · rw [done.openCommands, frame]
      rfl
  | @lostWrite s pre s' _ _ w _ _ _ _ _ _ _ frame done =>
    refine .of_loss (s.eraseWrite w) (s.eraseWrite w) ?_ fun c => ?_
    · rw [done.frame, frame]
    · rw [done.openCommands, frame]
      rfl
  | @admissionClosed s s' _ _ _ _ _ done =>
    refine .of_loss s s ?_ fun c => (done.of_keys c).1
    dsimp only
    rw [done.frame]
  | @loseCommands s s' _ _ _ _ done =>
    refine .of_loss s s ?_ fun c => (done.of_keys c).1
    dsimp only
    rw [done.frame]
  | @abandonWrites s s' _ _ _ closing done =>
    intro c kind hopen
    rw [done.openCommands] at hopen
    split at hopen
    · cases hopen
    · rename_i hresolved
      rcases h c kind hopen with hf | ho
      · cases hf
      · cases ho with
        | write unresolved => exact absurd unresolved hresolved
        | control live _ _ | drain live _ _ | request live _ _ =>
          rw [closing] at live
          cases live
  | @separate s s' _ f w sb reason _ live _ idle noDrain next done =>
    have hsep := h.separated hc idle noDrain done
    have hclosing : s'.closing = true := by rw [done.frame]
    have hpending : s'.pendingWrites = s.pendingWrites := by rw [done.frame]
    have hvacant : s'.pendingWrites[w]? = none := by
      rw [hpending]
      exact hc.vacant_next next.2
    refine hsep.step (fun c kind hopen => ⟨kind, hopen⟩) (fun c kind _ ho => ?_)
      (fun c kind _ hf => ?_)
    · cases ho with
      | write unresolved => exact .write (writeUnresolved_trackWrite hvacant unresolved)
      | control live _ _ | drain live _ _ | request live _ _ =>
        rw [hclosing] at live
        cases live
    · subst hf
      exact Or.inr (.write writeUnresolved_trackWrite_self)
  | peerSeparate _ live idle stranded done =>
    exact h.separated hc idle (stranded.resolve_right hstrands) done
  -- nothing that ownership reads changes
  | tick _ | observe _ _ _ | lateAnnounce _ | connect _ _ _ _ _ | selected _ _ _
  | deselected _ _ _ _ _ _ | deliver _ _ _ _ _ _ _ _ _ | deliverOneWay _ _ _ _ _ _ =>
    exact h.of_same rfl rfl rfl rfl rfl rfl
  -- one command leaves
  | @lateControl s f c _ closing _ _ =>
    refine h.release (some c) rfl (fun c' hne => writeUnresolved_release hne) rfl ?_ ?_ ?_
      fun c' hf => Or.inl hf
    · exact fun transaction c' hactive hcommand _ => ⟨transaction, hactive, hcommand⟩
    · exact fun drain hd _ => hd
    · exact fun sb transaction hsb _ => ⟨transaction, hsb, rfl⟩
  | refuse _ _ _ =>
    exact h.detach_fresh rfl (fun c' hne => writeUnresolved_release hne) ⟨rfl, rfl, rfl, rfl⟩
  | spendContract _ _ _ _ _ _ =>
    exact h.detach_fresh rfl (fun c' hne => writeUnresolved_release hne) ⟨rfl, rfl, rfl, rfl⟩
  | @endDrain s _ f drain _ live pending _ =>
    refine h.release (some drain.commandId) rfl
      (fun c' hne => writeUnresolved_release hne) rfl ?_ ?_ ?_ fun c' hf => Or.inl hf
    · exact fun transaction c' hactive hcommand _ => ⟨transaction, hactive, hcommand⟩
    · intro drain' hd hne
      rw [pending] at hd
      exact absurd (congrArg (fun d : DeselectDrain => some d.commandId) (Option.some.inj hd)) hne
    · exact fun sb transaction hsb _ => ⟨transaction, hsb, rfl⟩
  | @retireControl s _ f transaction _ active _ _ =>
    refine h.release transaction.commandId rfl (fun c' hne => writeUnresolved_release hne) ?_ ?_ ?_
      ?_ fun c' hf => Or.inl hf
    · dsimp only
      rw [release_frame]
    · intro transaction' c' hactive hcommand hne
      rw [active] at hactive
      rw [← Option.some.inj hactive] at hcommand
      exact absurd hcommand hne
    · dsimp only
      rw [release_frame]
      exact fun drain hd _ => hd
    · dsimp only
      rw [release_frame]
      exact fun sb transaction hsb _ => ⟨transaction, hsb, rfl⟩
  | @retireRequest s _ f sb transaction _ _ pending _ =>
    refine h.release (some transaction.commandId) rfl (fun c' hne => writeUnresolved_release hne)
      rfl ?_ ?_ ?_ fun c' hf => Or.inl hf
    · exact fun transaction c' hactive hcommand _ => ⟨transaction, hactive, hcommand⟩
    · exact fun drain hd _ => hd
    · intro sb' transaction' hsb hne
      refine ⟨transaction', (TreeMap.getElem?_erase _ _).trans ((if_neg ?_).trans hsb), rfl⟩
      rintro rfl
      rw [pending] at hsb
      exact hne (by rw [Option.some.inj hsb])
  | @rejectSend s _ f w write correlation c _ _ _ _ _ _ _ _ _ _ _ =>
    refine h.release (some c) rfl (fun c' hne => writeUnresolved_release hne) rfl ?_ ?_ ?_
      fun c' hf => Or.inl hf
    · exact fun transaction c' hactive hcommand _ => ⟨transaction, hactive, hcommand⟩
    · exact fun drain hd _ => hd
    · exact fun sb transaction hsb _ => ⟨transaction, hsb, rfl⟩
  | @commitCommand s _ w write c _ _ _ _ pending command _ =>
    refine h.release (some c) rfl (fun c' hne hc' => ?_) rfl ?_ ?_ ?_ fun c' hf => Or.inl hf
    · have hother : write.commandId ≠ some c' := by
        rw [command]
        exact hne
      exact writeUnresolved_release hne (writeUnresolved_eraseWrite pending hother hc')
    · exact fun transaction c' hactive hcommand _ => ⟨transaction, hactive, hcommand⟩
    · exact fun drain hd _ => hd
    · exact fun sb transaction hsb _ => ⟨transaction, hsb, rfl⟩
  | @commitSilently s _ w write _ _ _ pending orphan =>
    refine h.keep rfl (fun c' hc' => ?_) rfl (fun _ _ hactive _ => hactive)
      (fun hlive drain hd => .drain hlive hd rfl) (fun _ _ hsb => hsb) fun _ hf => Or.inl hf
    exact writeUnresolved_eraseWrite pending (by rw [orphan]; nofun) hc'
  | @failWrite s _ w write _ pending _ _ =>
    have hcontrol := hc.failWrite_control pending
    have hrequest := hc.failWrite_request pending
    have hframe := removeTransactionForWrite_frame (s.eraseWrite w) w write.kind
    generalize (s.eraseWrite w).removeTransactionForWrite w write.kind = mid at *
    refine h.release write.commandId ?_ (fun c' hne hc' => ?_) ?_
      (fun transaction c' hactive hcommand hne => ?_)
      (fun drain hd hne => ?_) (fun sb transaction hsb hne => ?_) nofun
    · rw [hframe]
      cases write.commandId <;> rfl
    · have hpending : mid.pendingWrites = (s.eraseWrite w).pendingWrites := by rw [hframe]
      refine writeUnresolved_release hne ?_
      rw [writeUnresolved_congr hpending]
      exact writeUnresolved_eraseWrite pending hne hc'
    · dsimp only
      rw [release_frame, hframe]
      rfl
    · dsimp only
      rw [release_frame]
      rcases hcontrol with ⟨hsame, -⟩ | ⟨-, hall⟩
      · exact ⟨transaction, hsame.trans hactive, hcommand⟩
      · exact absurd (hall transaction c' hactive hcommand) hne
    · dsimp only
      rw [release_frame, hframe]
      exact hd
    · dsimp only
      rw [release_frame]
      exact ⟨transaction, (hrequest sb transaction).mpr ⟨hsb, hne⟩, rfl⟩
  -- a write is armed or resolved
  | @commitControl s _ w write transaction _ _ deadline _ pending active own _ =>
    have hlive := hc.live_of_active active
    obtain ⟨-, hsame⟩ := hc.control_write transaction write active (by rw [own, pending])
    refine h.step (fun c kind hopen => ⟨kind, hopen⟩) (fun c kind _ ho => ?_) fun _ _ _ hf =>
      Or.inl hf
    cases ho with
    | write unresolved =>
      by_cases hown : write.commandId = some c
      · exact .control hlive rfl (hsame.symm.trans hown)
      · exact .write (writeUnresolved_eraseWrite pending hown unresolved)
    | control _ active' command =>
      rw [active] at active'
      obtain rfl := Option.some.inj active'
      exact .control hlive rfl command
    | drain live pending command => exact .drain live pending command
    | request live pending command => exact .request live pending command
  | @commitRequest s _ w write sb transaction _ _ deadline _ pending live own _ =>
    have hlive := hc.live_of_request live
    obtain ⟨-, hsame⟩ := hc.request_write sb transaction write live (by rw [own, pending])
    have hself : (s.dataTransactions.insert sb
        { transaction with deadline := some deadline })[sb]? =
          some { transaction with deadline := some deadline } :=
      (TreeMap.getElem?_insert _ _ _).trans (if_pos rfl)
    refine h.step (fun c kind hopen => ⟨kind, hopen⟩) (fun c kind _ ho => ?_) fun _ _ _ hf =>
      Or.inl hf
    cases ho with
    | write unresolved =>
      by_cases hown : write.commandId = some c
      · exact .request hlive hself (Option.some.inj (hsame.symm.trans hown))
      · exact .write (writeUnresolved_eraseWrite pending hown unresolved)
    | control live active command => exact .control live active command
    | drain live pending command => exact .drain live pending command
    | @request sb' transaction' _ pending' command =>
      by_cases hsb : sb = sb'
      · subst hsb
        rw [live] at pending'
        obtain rfl := Option.some.inj pending'
        exact .request hlive hself command
      · exact .request hlive ((TreeMap.getElem?_insert _ _ _).trans ((if_neg hsb).trans pending'))
          command
  -- a write is added
  | @respond s _ f w message _ live next _ _ =>
    refine h.keep rfl (fun c' hc' => ?_) rfl (fun _ _ hactive _ => hactive)
      (fun hlive drain hd => .drain hlive hd rfl) (fun _ _ hsb => hsb) fun _ hf => Or.inl hf
    exact writeUnresolved_trackWrite (hc.vacant_next next) hc'
  | @startDrain s _ c deadline _ live _ idle noDrain _ _ =>
    refine h.keep rfl (fun _ hc' => hc') rfl (fun _ _ hactive _ => hactive) (fun _ drain hd => ?_)
      (fun _ _ hsb => hsb) fun c' hf => Or.inr ?_
    · rw [noDrain] at hd
      cases hd
    · exact .drain live rfl (Option.some.inj hf)
  | @startControl s _ f w sb kind _ _ live _ idle noDrain next _ _ =>
    refine h.keep rfl (fun c' hc' => ?_) rfl (fun _ _ hactive _ => ?_) (fun _ drain hd => ?_)
      (fun _ _ hsb => hsb) fun c' hf => Or.inr ?_
    · exact writeUnresolved_trackWrite (hc.vacant_next next.2) hc'
    · rw [idle] at hactive
      cases hactive
    · rw [noDrain] at hd
      cases hd
    · exact .control live rfl hf
  | @startDeselection s _ w sb drain _ live pending _ next =>
    have hidle := (hc.drain_alone live (by rw [pending]; rfl)).1
    refine h.keep rfl (fun c' hc' => ?_) rfl (fun _ _ hactive _ => ?_) (fun _ drain' hd => ?_)
      (fun _ _ hsb => hsb) nofun
    · exact writeUnresolved_trackWrite (hc.vacant_next next.2) hc'
    · rw [hidle] at hactive
      cases hactive
    · rw [pending] at hd
      exact .control live rfl (congrArg (fun d : DeselectDrain => some d.commandId)
        (Option.some.inj hd))
  | @sendRequest s _ c w sb _ primary _ _ live open_ noDrain _ _ next =>
    refine h.keep rfl (fun c' hc' => ?_) rfl (fun _ _ hactive _ => hactive) (fun hlive drain hd =>
      .drain hlive hd rfl)
      (fun sb' transaction hsb => ?_) fun c' hf => Or.inr ?_
    · exact writeUnresolved_trackWrite (hc.vacant_next next.2) hc'
    · refine (TreeMap.getElem?_insert _ _ _).trans ((if_neg ?_).trans hsb)
      rintro rfl
      exact absurd ((hc.request_used sb transaction hsb).2 _ next.1) (UInt32.lt_irrefl _)
    · obtain rfl := Option.some.inj hf
      exact .write writeUnresolved_trackWrite_self
  | @sendPrimary s _ c w sb _ primary _ _ live open_ noDrain _ _ next =>
    refine h.keep rfl (fun c' hc' => ?_) rfl (fun _ _ hactive _ => hactive)
      (fun hlive drain hd => .drain hlive hd rfl) (fun _ _ hsb => hsb) fun c' hf => Or.inr ?_
    · exact writeUnresolved_trackWrite (hc.vacant_next next.2) hc'
    · obtain rfl := Option.some.inj hf
      exact .write writeUnresolved_trackWrite_self
  | @sendReply s _ c capability header w _ _ _ live open_ _ _ next _ =>
    refine h.keep rfl (fun c' hc' => ?_) rfl (fun _ _ hactive _ => hactive)
      (fun hlive drain hd => .drain hlive hd rfl) (fun _ _ hsb => hsb) fun c' hf => Or.inr ?_
    · exact writeUnresolved_trackWrite (hc.vacant_next next) hc'
    · obtain rfl := Option.some.inj hf
      exact .write writeUnresolved_trackWrite_self

/-! ## Rounds and runs -/

theorem Settled.entry {core : SessionCore} (h : Settled none core) (input : Input) :
    Settled (core.entry input).fresh (core.entry input).core := by
  unfold SessionCore.entry
  cases core.accepted input with
  | none => exact h
  | some accepted =>
    intro c kind hopen
    have hopen : (core.openCommands.insert accepted.1 accepted.2)[c]? = some kind := hopen
    rw [TreeMap.getElem?_insert] at hopen
    split at hopen
    · rename_i hc
      exact Or.inl (congrArg some hc)
    · rcases h c kind hopen with hf | ho
      · cases hf
      · refine Or.inr ?_
        cases ho with
        | write unresolved => exact .write unresolved
        | control live active command => exact .control live active command
        | drain live pending command => exact .drain live pending command
        | request live pending command => exact .request live pending command

/-- One round that strands no drain keeps the ownership invariant. -/
theorem Settled.handle {core : SessionCore} {input : Input} (h : Settled none core)
    (hc : Coherent none core) (hstrands : ¬ core.StrandsDeselect input) :
    Settled none (core.handle input).core := by
  have hboth := (steps_handle hc input).preserves
    (I := fun stage => Coherent stage.fresh stage.core ∧ Settled stage.fresh stage.core)
    (fun _ _ _ hI he => ⟨he.coherent hI.1, he.settled hstrands hI.1 hI.2⟩)
    ⟨hc.entry input, h.entry input⟩
  exact hboth.2

namespace SessionCore

/-- Every command that is open in a closed generation has a pending write. -/
def StrandsNoCommand (core : SessionCore) : Prop :=
  core.closing = true → ∀ c : CommandId, core.openCommands.contains c = true →
    ∃ (w : WriteId) (write : PendingWrite),
      core.pendingWrites[w]? = some write ∧ write.commandId = some c

end SessionCore

/-- **No command is stranded by a close**, in every run in which no peer Separate arrives while a
local Deselect is draining in the Selected state. -/
theorem close_strands_no_command (config : SessionCoreConfig) (nextWriteId : Option UInt64)
    (nextSystemBytes : Option UInt32) (inputs : List Input)
    (hstrands : machine.Along (fun core input => ¬ core.StrandsDeselect input)
      (SessionCore.initial config nextWriteId nextSystemBytes) inputs) :
    (machine.after (SessionCore.initial config nextWriteId nextSystemBytes)
      inputs).StrandsNoCommand := by
  have hfinal := machine.invariant_along
    (I := fun core => Coherent none core ∧ Settled none core)
    (fun core input hstep hI => ⟨hI.1.handle input, hI.2.handle hI.1 hstep⟩)
    ⟨coherent_initial config nextWriteId nextSystemBytes,
      fun c kind hopen => absurd hopen TreeMap.getElem?_empty_ne⟩ hstrands
  intro hclosing c hopen
  obtain ⟨kind, hopen⟩ := TreeMap.contains_iff.mp hopen
  rcases hfinal.2 c kind hopen with hf | ho
  · cases hf
  · cases ho with
    | write unresolved => exact writeUnresolved_iff.mp unresolved
    | control live _ _ | drain live _ _ | request live _ _ =>
      rw [hclosing] at live
      cases live

/-- A Send whose frame is in flight when the peer separates: the run strands nothing. -/
theorem close_strands_no_command_of_separated_send :
    (machine.after (SessionCore.new Scenario.config) (Scenario.selected ++
      [.command ⟨⟨1⟩, .send Scenario.request⟩ .zero,
        .message (.control (.separateRequest controlSessionId ⟨5⟩)) .zero])).StrandsNoCommand := by
  refine close_strands_no_command Scenario.config (some 0) (some 0) _ ⟨?_, ?_, ?_, ?_, ?_, trivial⟩
  · rintro ⟨_, _, _, heq, -⟩
    cases heq
  · rintro ⟨_, _, _, heq, -⟩
    cases heq
  · rintro ⟨_, _, _, heq, -⟩
    cases heq
  · rintro ⟨_, _, _, heq, -⟩
    cases heq
  · rintro ⟨_, _, _, -, -, -, -, -, hdrain⟩
    revert hdrain
    decide

/-- A peer Separate that finds a local Deselect draining strands that command. -/
theorem separate_strands_draining_deselect :
    ¬ (machine.after (SessionCore.new Scenario.config) (Scenario.selected ++
      [.message (.data (Scenario.primary 1 true 42)) .zero,
        .command ⟨⟨1⟩, .deselect⟩ .zero,
        .message (.control (.separateRequest controlSessionId ⟨5⟩)) .zero])).StrandsNoCommand := by
  intro h
  have hpending := h (by decide) ⟨1⟩ (by decide)
  have hunresolved := writeUnresolved_iff.mpr hpending
  revert hunresolved
  decide

end Hsms
end SecsRust

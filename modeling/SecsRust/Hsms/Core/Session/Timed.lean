import SecsRust.Hsms.Core.Session.Matching
import SecsRust.Hsms.Core.Session.Writes

/-!
# Timers that a commit arms

T6 and T3 start when the Writer reports the request frame committed.  A `CommitTimer` is
such a timer together with the write that it waits for and the command that it serves; the
control transaction of a command has one and so has every live Request.  `TimerOrigin` says
where the timer that an effect leaves comes from: it was there before, it is new and not
armed yet, or the outcome of its write has just armed it.  Treating the two timers as one
kind of object is what makes one proof serve both.

## Both directions

From this follow both directions over a run.  An armed timer was armed by a committed
outcome of its write (`Armed`), and once a committed outcome has been handled the timer of
its write is armed with it (`Timed`).  The second direction also needs that a write has one
outcome at most: in an open Core no write that an earlier outcome names is pending.

## A tenure

T7 is armed otherwise, by the input that makes the session NotSelected, and has its own
invariant (`Tenured`).  All three come together in the claim about deadlines before input,
where a run of the Driver supplies the history that these statements are about.
-/

namespace SecsRust
namespace Hsms

open Std Secs2 SessionCore

/-! ## Timers -/

/-- A timer, the pending write that starts it, and the command it serves. -/
structure CommitTimer where
  writeId : WriteId
  kind : PendingWriteKind
  commandId : CommandId
  deadline : Option MonoTime

namespace SessionCore

/-- The T6 of the control transaction of a command. -/
def controlTimer (core : SessionCore) : Option CommitTimer :=
  core.activeTransaction.bind fun transaction => transaction.commandId.map fun c =>
    ⟨transaction.writeId, .transactionRequest, c, transaction.deadline⟩

/-- The T3 of a live Request. -/
def requestTimer (core : SessionCore) (sb : SystemBytes) : Option CommitTimer :=
  core.dataTransactions[sb]?.map fun transaction =>
    ⟨transaction.writeId, .dataRequest sb, transaction.commandId, transaction.deadline⟩

/-- What the Core knows about a timer that it holds. -/
structure Keeps (core : SessionCore) (timer : CommitTimer) : Prop where
  live : core.closing = false
  open_ : core.openCommands[timer.commandId]? ≠ none
  write : ∀ write, core.pendingWrites[timer.writeId]? = some write →
    write.kind = timer.kind ∧ write.commandId = some timer.commandId
  used : core.WriteUsed timer.writeId

end SessionCore

section

variable {fresh : Option CommandId} {core : SessionCore} {timer : CommitTimer}

theorem controlTimer_eq_some : core.controlTimer = some timer ↔ ∃ transaction c,
    core.activeTransaction = some transaction ∧ transaction.commandId = some c ∧
      ⟨transaction.writeId, .transactionRequest, c, transaction.deadline⟩ = timer := by
  simp only [controlTimer, Option.bind_eq_some_iff, Option.map_eq_some_iff]
  constructor
  · rintro ⟨transaction, hactive, c, hc, heq⟩
    exact ⟨transaction, c, hactive, hc, heq⟩
  · rintro ⟨transaction, c, hactive, hc, heq⟩
    exact ⟨transaction, hactive, c, hc, heq⟩

theorem requestTimer_eq_some {sb : SystemBytes} : core.requestTimer sb = some timer ↔
    ∃ transaction, core.dataTransactions[sb]? = some transaction ∧
      ⟨transaction.writeId, .dataRequest sb, transaction.commandId,
        transaction.deadline⟩ = timer := by
  rw [requestTimer, Option.map_eq_some_iff]

theorem Coherent.keeps_control (h : Coherent fresh core) (ht : core.controlTimer = some timer) :
    core.Keeps timer := by
  obtain ⟨transaction, c, hactive, hcommand, rfl⟩ := controlTimer_eq_some.mp ht
  refine ⟨h.live_of_active hactive, ?_, fun write hwrite => ?_, h.control_used transaction hactive⟩
  · dsimp only
    rw [h.control_open transaction c hactive hcommand]
    nofun
  · rw [← hcommand]
    exact h.control_write transaction write hactive hwrite

theorem Coherent.keeps_request (h : Coherent fresh core) {sb : SystemBytes}
    (ht : core.requestTimer sb = some timer) : core.Keeps timer := by
  obtain ⟨transaction, hlive, rfl⟩ := requestTimer_eq_some.mp ht
  refine ⟨h.live_of_request hlive, ?_, fun write hwrite =>
    h.request_write sb transaction write hlive
    hwrite, (h.request_used sb transaction hlive).1⟩
  dsimp only
  rw [h.request_open sb transaction hlive]
  nofun

end

/-! ## Where a timer comes from -/

/-- Where the timer in a slot comes from, given the timer `old` that the slot held before. -/
inductive TimerOrigin (period : Duration) (input : Input) (before : SessionCore)
    (old : Option CommitTimer) : CommitTimer → Prop where
  | kept {timer : CommitTimer} (held : old = some timer) : TimerOrigin period input before old timer
  | started {w : WriteId} {kind : PendingWriteKind} {c : CommandId}
      (next : before.nextWriteId = some w.raw) :
      TimerOrigin period input before old ⟨w, kind, c, none⟩
  | armed {timer : CommitTimer} {occurredAt now deadline : MonoTime} (held : old = some timer)
      (pending : before.writeKind timer.writeId ≠ none)
      (outcome : input = .writeOutcome timer.writeId .committed occurredAt now)
      (adds : occurredAt.checkedAdd period = some deadline) :
      TimerOrigin period input before old { timer with deadline := some deadline }

section

variable {origin : SessionCore} {input : Input} {stage stage' : Stage} {actions : List CoreAction}
  {timer : CommitTimer} {before after : SessionCore}

/-- A slot that an effect leaves alone. -/
theorem TimerOrigin.of_control (h : after.activeTransaction = before.activeTransaction)
    {period : Duration} (ht : after.controlTimer = some timer) :
    TimerOrigin period input before before.controlTimer timer := by
  refine .kept ?_
  unfold controlTimer at ht ⊢
  rwa [h] at ht

/-- An effect that leaves the slot empty. -/
theorem controlTimer_of_idle (h : after.activeTransaction = none) :
    after.controlTimer ≠ some timer := by
  unfold controlTimer
  rw [h]
  nofun

theorem Effect.controlTimer (he : Effect origin input stage actions stage')
    (h : stage'.core.controlTimer = some timer) :
    TimerOrigin stage.core.config.timeouts.t6 input stage.core stage.core.controlTimer timer := by
  cases he with
  | ended _ _ _ _ done | lostWrite _ _ _ _ _ done | loseCommands _ _ done
  | admissionClosed _ _ _ _ done =>
    refine absurd h (controlTimer_of_idle ?_)
    dsimp only
    rw [done.frame]
  | @separate s s' _ _ w systemBytes _ _ _ _ idle _ _ done =>
    refine absurd h (controlTimer_of_idle ?_)
    dsimp only [trackWrite, takeSystemBytes]
    rw [done.frame]
    exact idle
  | peerSeparate _ _ idle _ done =>
    refine absurd h (controlTimer_of_idle ?_)
    dsimp only
    rw [done.frame]
    exact idle
  | abandonWrites _ _ done =>
    refine .of_control ?_ h
    dsimp only
    rw [done.frame]
  | retireControl _ _ _ => exact absurd h (controlTimer_of_idle rfl)
  | @failWrite s _ w write _ _ _ _ =>
    dsimp only at h ⊢
    have hsame : ((s.eraseWrite w).removeTransactionForWrite w write.kind).activeTransaction =
        s.activeTransaction ∨
        ((s.eraseWrite w).removeTransactionForWrite w write.kind).activeTransaction = none := by
      unfold removeTransactionForWrite
      cases write.kind with
      | transactionRequest =>
        dsimp only
        split
        · exact Or.inr rfl
        · exact Or.inl rfl
      | dataRequest sb =>
        dsimp only
        split
        · exact Or.inl rfl
        · exact Or.inl rfl
      | dataSend _ | response | separate => exact Or.inl rfl
    rcases hsame with hsame | hnone
    · refine .of_control ?_ h
      rw [release_frame]
      exact hsame
    · refine absurd h (controlTimer_of_idle ?_)
      rw [release_frame]
      exact hnone
  | @startControl s _ f w systemBytes kind _ _ _ _ _ _ next _ _ =>
    obtain ⟨transaction, c, hactive, -, rfl⟩ := controlTimer_eq_some.mp h
    rw [← Option.some.inj hactive]
    exact .started next.2
  | startDeselection _ _ _ _ next =>
    obtain ⟨transaction, c, hactive, -, rfl⟩ := controlTimer_eq_some.mp h
    rw [← Option.some.inj hactive]
    exact .started next.2
  | @commitControl s _ w write transaction occurredAt now deadline outcome pending
      active own armed =>
    obtain ⟨transaction', c, hactive, hcommand, rfl⟩ := controlTimer_eq_some.mp h
    obtain rfl := Option.some.inj hactive
    subst own
    have hheld : s.controlTimer = some ⟨transaction.writeId, .transactionRequest, c,
        transaction.deadline⟩ := controlTimer_eq_some.mpr ⟨transaction, c, active, hcommand, rfl⟩
    refine .armed hheld ?_ outcome armed
    rw [writeKind, show s.pendingWrites[transaction.writeId]? = some write from pending]
    exact Option.some_ne_none _
  | tick _ | observe _ _ _ | lateAnnounce _ | lateControl _ _ _ _ | connect _ _ _ _ _
  | selected _ _ _ | deselected _ _ _ _ _ _ | respond _ _ _ _ _ _ | refuse _ _ _
  | startDrain _ _ _ _ _ _ _ | endDrain _ _ _ | sendRequest _ _ _ _ _ _ _ _ _
  | sendPrimary _ _ _ _ _ _ _ _ _ | retireRequest _ _ _ | rejectSend _ _ _ _ _ _
  | deliver _ _ _ _ _ _ _ _ _ | deliverOneWay _ _ _ _ _ _ | spendContract _ _ _ _ _ _
  | sendReply _ _ _ _ _ _ _ | commitRequest _ _ _ _ _ | commitCommand _ _ _ _
  | commitSilently _ _ _ => exact .of_control rfl h

/-- A table that an effect leaves alone, or takes entries from. -/
theorem TimerOrigin.of_request {sb : SystemBytes}
    (h : ∀ transaction, after.dataTransactions[sb]? = some transaction →
      before.dataTransactions[sb]? = some transaction)
    {period : Duration} (ht : after.requestTimer sb = some timer) :
    TimerOrigin period input before (before.requestTimer sb) timer := by
  obtain ⟨transaction, hlive, rfl⟩ := requestTimer_eq_some.mp ht
  exact .kept (requestTimer_eq_some.mpr ⟨transaction, h transaction hlive, rfl⟩)

theorem Effect.requestTimer (he : Effect origin input stage actions stage') {sb : SystemBytes}
    (h : stage'.core.requestTimer sb = some timer) :
    TimerOrigin stage.core.config.timeouts.t3 input stage.core
      (stage.core.requestTimer sb) timer := by
  have hempty : stage'.core.dataTransactions = ∅ → TimerOrigin stage.core.config.timeouts.t3 input
      stage.core (stage.core.requestTimer sb) timer := by
    intro hnone
    obtain ⟨transaction, hlive, -⟩ := requestTimer_eq_some.mp h
    rw [hnone] at hlive
    exact absurd hlive TreeMap.getElem?_empty_ne
  have herase : ∀ {key : SystemBytes}, stage'.core.dataTransactions =
      stage.core.dataTransactions.erase key → TimerOrigin stage.core.config.timeouts.t3 input
        stage.core (stage.core.requestTimer sb) timer := by
    intro key heq
    refine .of_request (fun transaction hlive => ?_) h
    rw [heq, TreeMap.getElem?_erase] at hlive
    split at hlive
    · cases hlive
    · exact hlive
  cases he with
  | ended _ _ _ _ done | lostWrite _ _ _ _ _ done | loseCommands _ _ done
  | separate _ _ _ _ _ _ _ done
  | admissionClosed _ _ _ _ done | peerSeparate _ _ _ _ done =>
    refine hempty ?_
    dsimp only [trackWrite, takeSystemBytes]
    rw [done.frame]
  | abandonWrites _ _ done =>
    refine .of_request (fun transaction hlive => ?_) h
    dsimp only at hlive
    rwa [done.frame] at hlive
  | retireControl _ _ _ =>
    refine .of_request (fun transaction hlive => ?_) h
    dsimp only at hlive
    rwa [release_frame] at hlive
  | @failWrite s _ w write _ _ _ _ =>
    refine .of_request (fun transaction hlive => ?_) h
    dsimp only at hlive
    rw [release_frame] at hlive
    unfold removeTransactionForWrite at hlive
    cases hkind : write.kind with
    | dataRequest key =>
      rw [hkind] at hlive
      dsimp only at hlive
      split at hlive
      · rw [TreeMap.getElem?_erase] at hlive
        split at hlive
        · cases hlive
        · exact hlive
      · exact hlive
    | transactionRequest =>
      rw [hkind] at hlive
      dsimp only at hlive
      split at hlive
      · exact hlive
      · exact hlive
    | dataSend _ | response | separate =>
      rw [hkind] at hlive
      exact hlive
  | @sendRequest s _ c w systemBytes now primary _ _ _ _ _ _ _ next =>
    obtain ⟨transaction, hlive, rfl⟩ := requestTimer_eq_some.mp h
    have hlook : (s.dataTransactions.insert systemBytes ⟨c, w, .forRequest s.config.sessionId
        systemBytes primary.stream primary.function, none⟩)[sb]? = some transaction := hlive
    rw [TreeMap.getElem?_insert] at hlook
    split at hlook
    · rw [← Option.some.inj hlook]
      exact .started next.2
    · exact .kept (requestTimer_eq_some.mpr ⟨transaction, hlook, rfl⟩)
  | retireRequest _ _ _ => exact herase rfl
  | @commitRequest s _ w write key transaction occurredAt now deadline outcome pending
      live own armed =>
    obtain ⟨transaction', hlive, rfl⟩ := requestTimer_eq_some.mp h
    have hlook : (s.dataTransactions.insert key
        { transaction with deadline := some deadline })[sb]? = some transaction' := hlive
    rw [TreeMap.getElem?_insert] at hlook
    split at hlook
    · rename_i hkey
      subst hkey
      subst own
      rw [← Option.some.inj hlook]
      have hheld : s.requestTimer key = some ⟨transaction.writeId, .dataRequest key,
          transaction.commandId, transaction.deadline⟩ :=
        requestTimer_eq_some.mpr ⟨transaction, live, rfl⟩
      refine .armed hheld ?_ outcome armed
      rw [writeKind, show s.pendingWrites[transaction.writeId]? = some write from pending]
      exact Option.some_ne_none _
    · exact .kept (requestTimer_eq_some.mpr ⟨transaction', hlook, rfl⟩)
  | tick _ | observe _ _ _ | lateAnnounce _ | lateControl _ _ _ _ | connect _ _ _ _ _
  | selected _ _ _ | deselected _ _ _ _ _ _ | respond _ _ _ _ _ _ | refuse _ _ _
  | startDrain _ _ _ _ _ _ _ | endDrain _ _ _ | startControl _ _ _ _ _ _ _ _ _ _
  | startDeselection _ _ _ _ _ | sendPrimary _ _ _ _ _ _ _ _ _ | rejectSend _ _ _ _ _ _
  | deliver _ _ _ _ _ _ _ _ _ | deliverOneWay _ _ _ _ _ _ | spendContract _ _ _ _ _ _
  | sendReply _ _ _ _ _ _ _ | commitControl _ _ _ _ _ | commitCommand _ _ _ _
  | commitSilently _ _ _ => exact .of_request (fun _ hlive => hlive) h

end

/-! ## Pending and armed timers -/

section

variable {origin : SessionCore} {input : Input} {stage stage' : Stage} {actions : List CoreAction}
  {timer : CommitTimer}

/-- The timers of a Core. -/
def SessionCore.Holds (core : SessionCore) (timer : CommitTimer) : Prop :=
  core.controlTimer = some timer ∨ ∃ sb, core.requestTimer sb = some timer

theorem Coherent.keeps {fresh : Option CommandId} {core : SessionCore} (h : Coherent fresh core)
    (ht : core.Holds timer) : core.Keeps timer := by
  rcases ht with ht | ⟨sb, ht⟩
  · exact h.keeps_control ht
  · exact h.keeps_request ht

theorem SessionCore.Holds.kind {core : SessionCore} (h : core.Holds timer) :
    timer.kind = .transactionRequest ∧ core.controlTimer = some timer ∨
      ∃ sb, timer.kind = .dataRequest sb ∧ core.requestTimer sb = some timer := by
  rcases h with h | ⟨sb, h⟩
  · obtain ⟨transaction, c, -, -, rfl⟩ := controlTimer_eq_some.mp h
    exact .inl ⟨rfl, h⟩
  · obtain ⟨transaction, -, rfl⟩ := requestTimer_eq_some.mp h
    exact .inr ⟨sb, rfl, h⟩

/-- Of the effects of an open Core only an outcome of the write of a timer takes that write away,
and then it arms the timer or ends it. -/
theorem Effect.timer_pending (he : Effect origin input stage actions stage')
    (h : Coherent stage.fresh stage.core) (hbefore : stage.core.Keeps timer)
    (hafter : stage'.core.Holds timer) (hlive : stage'.core.closing = false)
    (hunarmed : timer.deadline = none) (hpending : stage.core.writeKind timer.writeId ≠ none) :
    stage'.core.writeKind timer.writeId ≠ none := by
  have herase (core : SessionCore) (w : WriteId) (hother : timer.writeId = w → False)
      (hp : core.writeKind timer.writeId ≠ none) :
      (core.eraseWrite w).writeKind timer.writeId ≠ none := by
    rwa [writeKind_eraseWrite, if_neg fun heq => hother heq.symm]
  have htrack (core : SessionCore) (w : WriteId) (write : PendingWrite)
      (hp : core.writeKind timer.writeId ≠ none) :
      (core.trackWrite w write).writeKind timer.writeId ≠ none := by
    rw [writeKind_trackWrite]
    split
    · exact Option.some_ne_none _
    · exact hp
  cases he with
  | ended _ _ _ _ done | lostWrite _ _ _ _ _ done | peerSeparate _ _ _ _ done =>
    dsimp only at hlive
    rw [done.frame] at hlive
    cases hlive
  | separate _ _ _ _ _ _ _ done =>
    dsimp only [trackWrite, takeSystemBytes] at hlive
    rw [done.frame] at hlive
    cases hlive
  | admissionClosed _ _ _ _ done => cases hlive
  | abandonWrites _ closing done =>
    dsimp only at hlive
    rw [done.frame] at hlive
    cases closing.symm.trans hlive
  | loseCommands _ closing done =>
    dsimp only at hlive
    rw [done.frame] at hlive
    cases closing.symm.trans hlive
  | @commitControl s _ w write transaction occurredAt now deadline outcome pending
      active own armed =>
    refine herase s w (fun heq => ?_) hpending
    subst heq
    obtain ⟨hkind, -⟩ := hbefore.write write pending
    obtain ⟨hcontrol, -⟩ := h.control_write transaction write active (own ▸ pending)
    rcases hafter.kind with ⟨-, hheld⟩ | ⟨sb, hrequest, -⟩
    · obtain ⟨transaction', c, hactive, -, rfl⟩ := controlTimer_eq_some.mp hheld
      obtain rfl := Option.some.inj hactive
      cases hunarmed
    · rw [← hkind, hcontrol] at hrequest
      cases hrequest
  | @commitRequest s _ w write key transaction occurredAt now deadline outcome pending
      live own armed =>
    refine herase s w (fun heq => ?_) hpending
    subst heq
    obtain ⟨hkind, -⟩ := hbefore.write write pending
    obtain ⟨hdata, -⟩ := h.request_write key transaction write live (own ▸ pending)
    rcases hafter.kind with ⟨hcontrol, -⟩ | ⟨sb, hrequest, hheld⟩
    · rw [← hkind, hdata] at hcontrol
      cases hcontrol
    · rw [← hkind, hdata] at hrequest
      obtain rfl := PendingWriteKind.dataRequest.inj hrequest
      obtain ⟨transaction', hlook, rfl⟩ := requestTimer_eq_some.mp hheld
      have hlook : (s.dataTransactions.insert key
          { transaction with deadline := some deadline })[key]? = some transaction' := hlook
      rw [TreeMap.getElem?_insert, if_pos rfl] at hlook
      obtain rfl := Option.some.inj hlook
      cases hunarmed
  | @commitCommand s _ w write c result occurredAt now outcome pending command cause =>
    refine fun hnone => herase s w (fun heq => ?_) hpending
      ((writeKind_detach c _).symm.trans hnone)
    subst heq
    obtain ⟨hkind, -⟩ := hbefore.write write pending
    cases cause with
    | send other =>
      rw [hkind] at other
      rcases hafter.kind with ⟨hcontrol, -⟩ | ⟨sb, hrequest, -⟩
      · cases hcontrol.symm.trans other
      · cases hrequest.symm.trans other
    | separate other =>
      rw [hkind] at other
      rcases hafter.kind with ⟨hcontrol, -⟩ | ⟨sb, hrequest, -⟩
      · cases hcontrol.symm.trans other
      · cases hrequest.symm.trans other
    | released _ _ deferred => cases (h.deferred_closing hbefore.live c).symm.trans deferred
  | @commitSilently s _ w write occurredAt now outcome pending orphan =>
    refine herase s w (fun heq => ?_) hpending
    subst heq
    cases orphan.symm.trans (hbefore.write write pending).2
  | @failWrite s _ w write error pending cause before =>
    have hpending' : ((s.eraseWrite w).removeTransactionForWrite w write.kind).writeKind
        timer.writeId =
        (s.eraseWrite w).writeKind timer.writeId := by rw [removeTransactionForWrite_frame]; rfl
    dsimp only
    rw [writeKind_release, hpending']
    refine herase s w (fun heq => ?_) hpending
    subst heq
    obtain ⟨hkind, -⟩ := hbefore.write write pending
    rcases hafter.kind with ⟨hcontrol, hheld⟩ | ⟨sb, hrequest, hheld⟩
    · obtain ⟨transaction, c, hactive, -, rfl⟩ := controlTimer_eq_some.mp hheld
      dsimp only at hactive
      rw [release_frame, hkind, hcontrol] at hactive
      unfold removeTransactionForWrite at hactive
      dsimp only at hactive
      split at hactive
      · cases hactive
      · next hother =>
        rw [show (s.eraseWrite transaction.writeId).activeTransaction =
          some transaction from hactive]
          at hother
        exact hother (decide_eq_true rfl)
    · obtain ⟨transaction, hlook, rfl⟩ := requestTimer_eq_some.mp hheld
      dsimp only at hlook
      rw [release_frame, hkind, hrequest] at hlook
      unfold removeTransactionForWrite at hlook
      dsimp only at hlook
      split at hlook
      · rw [TreeMap.getElem?_erase, if_pos rfl] at hlook
        cases hlook
      · next hother =>
        rw [show (s.eraseWrite transaction.writeId).dataTransactions[sb]? =
          some transaction from hlook]
          at hother
        exact hother (decide_eq_true rfl)
  | startControl | startDeselection | sendRequest | sendPrimary | respond =>
    exact htrack _ _ _ hpending
  | @sendReply s _ _ capability _ w _ _ _ _ _ _ _ _ _ =>
    exact htrack (s.eraseContract capability) w _ hpending
  | retireControl => exact fun hnone => hpending ((writeKind_release _ _).symm.trans hnone)
  | endDrain | refuse | retireRequest | rejectSend | spendContract | lateControl =>
    exact fun hnone => hpending ((writeKind_detach _ _).symm.trans hnone)
  | _ => exact hpending

/-- The write of an armed timer is not pending. -/
theorem Coherent.writeKind_of_armed {fresh : Option CommandId} {core : SessionCore}
    (h : Coherent fresh core) (hheld : core.Holds timer) (harmed : timer.deadline.isSome = true) :
    core.writeKind timer.writeId = none := by
  rw [writeKind]
  rcases hheld with hheld | ⟨sb, hheld⟩
  · obtain ⟨transaction, c, hactive, -, rfl⟩ := controlTimer_eq_some.mp hheld
    rw [h.control_armed transaction hactive harmed]
    rfl
  · obtain ⟨transaction, hlive, rfl⟩ := requestTimer_eq_some.mp hheld
    rw [h.request_armed sb transaction hlive harmed]
    rfl

/-! ## What a committed outcome has armed -/

/-- The period that a timer runs for. -/
def SessionCore.period (core : SessionCore) : PendingWriteKind → Duration
  | .transactionRequest => core.config.timeouts.t6
  | .dataSend _ | .dataRequest _ | .response | .separate => core.config.timeouts.t3

/-- Where the timers that an effect leaves come from. -/
theorem Effect.holds (he : Effect origin input stage actions stage') (h : stage'.core.Holds timer) :
    stage.core.Holds timer ∨
      timer.deadline = none ∧ stage.core.nextWriteId = some timer.writeId.raw ∨
      ∃ occurredAt now deadline, input = .writeOutcome timer.writeId .committed occurredAt now ∧
        stage.core.writeKind timer.writeId ≠ none ∧
        occurredAt.checkedAdd (stage.core.period timer.kind) = some deadline ∧
        timer.deadline = some deadline := by
  rcases h with h | ⟨sb, h⟩
  · cases he.controlTimer h with
    | kept held => exact .inl (.inl held)
    | started next => exact .inr (.inl ⟨rfl, next⟩)
    | armed held pending outcome adds =>
      obtain ⟨transaction, c, -, -, rfl⟩ := controlTimer_eq_some.mp held
      exact .inr (.inr ⟨_, _, _, outcome, pending, adds, rfl⟩)
  · cases he.requestTimer h with
    | kept held => exact .inl (.inr ⟨sb, held⟩)
    | started next => exact .inr (.inl ⟨rfl, next⟩)
    | armed held pending outcome adds =>
      obtain ⟨transaction, -, rfl⟩ := requestTimer_eq_some.mp held
      exact .inr (.inr ⟨_, _, _, outcome, pending, adds, rfl⟩)

theorem period_eq {before after : SessionCore} (h : after.config = before.config)
    (kind : PendingWriteKind) : after.period kind = before.period kind := by
  unfold period
  rw [h]

/-- **Every timer runs from the committed outcome of its write**, if that has been handled, and
waits for it otherwise. -/
structure Timed (seen : List Input) (core : SessionCore) : Prop where
  contracts : core.PrimaryContracts
  resolved : core.closing = false → ∀ w outcome occurredAt now,
    .writeOutcome w outcome occurredAt now ∈ seen → core.WriteUsed w ∧ core.writeKind w = none
  unarmed : ∀ timer, core.Holds timer → timer.deadline = none → core.writeKind timer.writeId ≠ none
  armed : ∀ timer, core.Holds timer → ∀ occurredAt now,
    .writeOutcome timer.writeId .committed occurredAt now ∈ seen →
    occurredAt.checkedAdd (core.period timer.kind) = timer.deadline

/-- A write that is used and not pending stays so. -/
theorem WriteStep.forgets {before after : SessionCore} {w : WriteId}
    (h : WriteStep input before after actions) (hused : before.WriteUsed w)
    (hnone : before.writeKind w = none) : after.writeKind w = none := by
  cases h with
  | keeps _ _ _ kinds => rw [kinds, hnone]
  | sends v _ _ _ _ next _ _ kinds _ =>
    rw [kinds, if_neg, hnone]
    rintro rfl
    exact UInt64.lt_irrefl _ (hused _ next)
  | resolves v _ _ _ kinds _ =>
    rw [kinds]
    split
    · rfl
    · exact hnone
  | abandons _ _ _ kinds _ => exact kinds w

/-- A write that takes the next id is pending from then on. -/
theorem WriteStep.writeKind_next {before after : SessionCore} {w : WriteId}
    (h : WriteStep input before after actions) (hnext : before.nextWriteId = some w.raw)
    (hused : after.WriteUsed w) : after.writeKind w ≠ none := by
  cases h with
  | keeps _ same _ _ => exact absurd (hused _ (same.trans hnext)) (UInt64.lt_irrefl _)
  | resolves _ _ same _ _ _ => exact absurd (hused _ (same.trans hnext)) (UInt64.lt_irrefl _)
  | abandons _ same _ _ _ => exact absurd (hused _ (same.trans hnext)) (UInt64.lt_irrefl _)
  | sends v _ kind _ _ next _ _ kinds _ =>
    have hv : v = w := congrArg InternalId.mk (Option.some.inj (next.symm.trans hnext))
    rw [kinds, if_pos hv]
    exact Option.some_ne_none _

theorem Timed.step {seen : List Input} (h : Timed seen stage.core)
    (hc : Coherent stage.fresh stage.core) (he : Effect origin input stage actions stage') :
    Timed seen stage'.core := by
  have hwrite := he.writeStep h.contracts
  have hlive (hafter : stage'.core.closing = false) : stage.core.closing = false := by
    cases hclosing : stage.core.closing with
    | false => rfl
    | true => rw [he.closing_mono hclosing] at hafter; cases hafter
  refine ⟨he.authority.primaryContracts h.contracts, ?_, ?_, ?_⟩
  · intro hafter w outcome occurredAt now hmem
    obtain ⟨hused, hnone⟩ := h.resolved (hlive hafter) w outcome occurredAt now hmem
    exact ⟨hwrite.writeUsed hused, hwrite.forgets hused hnone⟩
  · intro timer hheld hunarmed
    have hkeeps := (he.coherent hc).keeps hheld
    rcases he.holds hheld with hbefore | ⟨-, hnext⟩ | ⟨_, _, deadline, -, -, -, harmed⟩
    · exact he.timer_pending hc (hc.keeps hbefore) hheld hkeeps.live hunarmed
        (h.unarmed timer hbefore hunarmed)
    · exact hwrite.writeKind_next hnext hkeeps.used
    · cases harmed.symm.trans hunarmed
  · intro timer hheld occurredAt now hmem
    have hopen := hlive ((he.coherent hc).keeps hheld).live
    obtain ⟨hused, hnone⟩ := h.resolved hopen _ _ _ _ hmem
    rcases he.holds hheld with hbefore | ⟨-, hnext⟩ | ⟨_, _, _, -, hpending, -, -⟩
    · rw [period_eq he.config_eq]
      exact h.armed timer hbefore occurredAt now hmem
    · exact absurd (hused _ hnext) (UInt64.lt_irrefl _)
    · exact absurd hnone hpending

/-- What the timers of one pending write can become while its outcome is handled. -/
theorem Effect.timer_settles (he : Effect origin input stage actions stage')
    (h : stage'.core.Holds timer) {occurredAt now : MonoTime}
    (hinput : input = .writeOutcome timer.writeId .committed occurredAt now)
    (hbefore : stage.core.Holds timer → timer.deadline = none ∨
      occurredAt.checkedAdd (stage.core.period timer.kind) = timer.deadline) :
    timer.deadline = none ∨ occurredAt.checkedAdd
      (stage'.core.period timer.kind) = timer.deadline := by
  rw [period_eq he.config_eq]
  rcases he.holds h with hheld | ⟨hnone, -⟩ | ⟨at_, now', deadline, houtcome, -, hadds, harmed⟩
  · exact hbefore hheld
  · exact .inl hnone
  · rw [hinput] at houtcome
    obtain ⟨-, -, rfl, -⟩ := Input.writeOutcome.inj houtcome
    exact .inr (hadds.trans harmed.symm)

/-- **One round keeps the timers.**  A timer that is held was started by the commit of its own
write, or by the tenure that it belongs to. -/
theorem Timed.handle {seen : List Input} {core : SessionCore} (h : Timed seen core)
    (hc : Coherent none core) (input : Input) :
    Timed (seen ++ [input]) (core.handle input).core := by
  have hold : Timed seen (core.handle input).core :=
    ((steps_handle hc input).preserves
      (I := fun stage => Coherent stage.fresh stage.core ∧ Timed seen stage.core)
      (fun _ _ _ hI he => ⟨he.coherent hI.1, hI.2.step hI.1 he⟩)
      ⟨hc.entry input, by
        rw [entry_frame]
        exact ⟨h.contracts, h.resolved, h.unarmed, h.armed⟩⟩).2
  have hafter := hc.handle input
  -- an outcome after which Core is open was that of a pending write, and is consumed
  have hconsumed {w : WriteId} {outcome : WriteOutcome} {occurredAt now : MonoTime}
      (hinput : input = .writeOutcome w outcome occurredAt now)
      (hopen : (core.handle input).core.closing = false) :
      core.writeKind w ≠ none ∧ (core.handle input).core.writeKind w = none := by
    subst hinput
    by_cases hall : core.AcceptsTime now ∧ occurredAt ≤ now ∧ core.writeKind w ≠ none
    · exact ⟨hall.2.2, handle_consumes hc ⟨rfl, hall.1, hall.2.1⟩⟩
    · have hfails : FailsClosed core (core.handle (.writeOutcome w outcome occurredAt now)) :=
        onWriteOutcomeAt_fails hall
      rw [hfails.closing] at hopen
      cases hopen
  refine ⟨hold.contracts, ?_, hold.unarmed, ?_⟩
  · intro hopen w outcome occurredAt now hmem
    rcases List.mem_append.mp hmem with hmem | hmem
    · exact hold.resolved hopen w outcome occurredAt now hmem
    · obtain ⟨hpending, hgone⟩ := hconsumed (List.mem_singleton.mp hmem).symm hopen
      refine ⟨?_, hgone⟩
      obtain ⟨write, hwrite⟩ := Option.ne_none_iff_exists'.mp
        (fun hnone => hpending (by rw [writeKind, hnone]; rfl) : core.pendingWrites[w]? ≠ none)
      have hused := (steps_handle hc input).preserves
        (I := fun stage => stage.core.PrimaryContracts ∧ stage.core.WriteUsed w)
        (fun _ _ _ hI he => ⟨he.authority.primaryContracts hI.1,
          (he.writeStep hI.1).writeUsed hI.2⟩)
        (by
          rw [entry_frame]
          exact ⟨h.contracts, hc.write_used w write hwrite⟩)
      exact hused.2
  · intro timer hheld occurredAt now hmem
    rcases List.mem_append.mp hmem with hmem | hmem
    · exact hold.armed timer hheld occurredAt now hmem
    · have hinput := (List.mem_singleton.mp hmem).symm
      obtain ⟨hpending, hgone⟩ := hconsumed hinput (hafter.keeps hheld).live
      have hsettles : ∀ timer' : CommitTimer, timer'.writeId = timer.writeId →
          (core.handle input).core.Holds timer' → timer'.deadline = none ∨
            occurredAt.checkedAdd ((core.handle input).core.period
              timer'.kind) = timer'.deadline := by
        refine (steps_handle hc input).preserves
          (I := fun stage => ∀ timer' : CommitTimer, timer'.writeId = timer.writeId →
            stage.core.Holds timer' → timer'.deadline = none ∨
              occurredAt.checkedAdd (stage.core.period timer'.kind) = timer'.deadline)
          (fun _ _ _ hI he timer' hwrite hheld' =>
            he.timer_settles hheld' (by rw [hinput, hwrite]) (hI timer' hwrite)) ?_
        rw [entry_frame]
        intro timer' hwrite hheld'
        refine .inl (Option.not_isSome_iff_eq_none.mp fun harmed => hpending ?_)
        rw [← hwrite]
        exact hc.writeKind_of_armed hheld' harmed
      refine (hsettles timer rfl hheld).resolve_left fun hunarmed => ?_
      exact hold.unarmed timer hheld hunarmed hgone

end

/-! ## The NotSelected tenure -/

/-- The announcement by which a NotSelected tenure starts, and its time. -/
def tenureOf : Input × CoreAction → Option MonoTime
  | (input, .sessionStateChanged .notSelected) => some input.now
  | _ => none

/-- When the last NotSelected tenure has started. -/
def tenureStart (past : List (Input × CoreAction)) : Option MonoTime :=
  (past.filterMap tenureOf).getLast?

/-- T7 runs from the start of the NotSelected tenure. -/
def SessionCore.Tenured (past : List (Input × CoreAction)) (core : SessionCore) : Prop :=
  core.closing = false → core.state = some .notSelected → ∃ start deadline,
    tenureStart past = some start ∧ start.checkedAdd core.config.timeouts.t7 = some deadline ∧
      core.selectionDeadline = some deadline

section

variable {origin : SessionCore} {input : Input} {stage stage' : Stage} {actions : List CoreAction}
  {past : List (Input × CoreAction)}

theorem tenureStart_append_silent (h : ∀ a ∈ actions, tenureOf (input, a) = none) :
    tenureStart (past ++ actions.map fun a => (input, a)) = tenureStart past := by
  have hnone : (actions.map fun a => (input, a)).filterMap tenureOf = [] := by
    refine List.filterMap_eq_nil_iff.mpr fun emission hmem => ?_
    obtain ⟨a, ha, rfl⟩ := List.mem_map.mp hmem
    exact h a ha
  unfold tenureStart
  rw [List.filterMap_append, hnone, List.append_nil]

/-- How an effect that leaves the Core open treats the tenure.  A tenure begins where the session
ceases to be selected, or with the connection. -/
inductive TenureStep (input : Input) (before after : SessionCore) (actions : List CoreAction) :
    Prop where
  | keeps (state : after.state = before.state)
      (deadline : after.selectionDeadline = before.selectionDeadline)
      (silent : ∀ a ∈ actions, tenureOf (input, a) = none)
  | starts {deadline : MonoTime}
      (armed : input.now.checkedAdd before.config.timeouts.t7 = some deadline)
      (actions : actions = [.sessionStateChanged .notSelected])
      (deadline : after.selectionDeadline = some deadline)
  | ends (state : after.state = some .selected)

theorem Effect.tenureStep (he : Effect origin input stage actions stage')
    (hlive : stage'.core.closing = false) : TenureStep input stage.core stage'.core actions := by
  have hone {action : CoreAction} (h : tenureOf (input, action) = none) :
      ∀ a ∈ [action], tenureOf (input, a) = none := fun a ha => by rwa [List.mem_singleton.mp ha]
  have hnil : ∀ a ∈ ([] : List CoreAction), tenureOf (input, a) = none := fun a ha => (nomatch ha)
  cases he with
  | ended _ _ _ _ done | lostWrite _ _ _ _ _ done | peerSeparate _ _ _ _ done =>
    dsimp only at hlive
    rw [done.frame] at hlive
    cases hlive
  | separate _ _ _ _ _ _ _ done =>
    dsimp only [trackWrite, takeSystemBytes] at hlive
    rw [done.frame] at hlive
    cases hlive
  | admissionClosed _ _ _ _ done => cases hlive
  | abandonWrites _ closing done =>
    dsimp only at hlive
    rw [done.frame] at hlive
    cases closing.symm.trans hlive
  | loseCommands _ closing done =>
    dsimp only at hlive
    rw [done.frame] at hlive
    cases closing.symm.trans hlive
  | lateAnnounce closing => cases closing.symm.trans hlive
  | lateControl _ closing _ _ => cases closing.symm.trans hlive
  | connect deadline _ _ armed _ => exact .starts armed rfl rfl
  | deselected deadline _ _ _ armed _ => exact .starts armed rfl rfl
  | selected _ _ _ => exact .ends rfl
  | @retireControl s _ f transaction result active cause before =>
    refine .keeps ?_ ?_ fun a ha => ?_
    · dsimp only
      rw [release_frame]
    · dsimp only
      rw [release_frame]
    · unfold controlCompletion at ha
      split at ha
      · cases ha
      · rw [List.mem_singleton.mp ha]
        rfl
  | @failWrite s _ w write error pending cause before =>
    refine .keeps ?_ ?_ fun a ha => ?_
    · dsimp only
      rw [release_frame, removeTransactionForWrite_frame]
      rfl
    · dsimp only
      rw [release_frame, removeTransactionForWrite_frame]
      rfl
    · obtain ⟨c, -, hcompletion⟩ := List.mem_filterMap.mp ha
      obtain ⟨kind, -, rfl⟩ := Option.map_eq_some_iff.mp hcompletion
      rfl
  | tick _ | observe _ _ _ | startDrain _ _ _ _ _ _ _ | commitControl _ _ _ _ _
  | commitRequest _ _ _ _ _ | commitSilently _ _ _ => exact .keeps rfl rfl hnil
  | respond _ _ _ _ _ _ | refuse _ _ _ | endDrain _ _ _ | startControl _ _ _ _ _ _ _ _ _ _
  | startDeselection _ _ _ _ _ | sendRequest _ _ _ _ _ _ _ _ _ | sendPrimary _ _ _ _ _ _ _ _ _
  | retireRequest _ _ _ | rejectSend _ _ _ _ _ _ | deliver _ _ _ _ _ _ _ _ _
  | deliverOneWay _ _ _ _ _ _ | spendContract _ _ _ _ _ _ | sendReply _ _ _ _ _ _ _
  | commitCommand _ _ _ _ => exact .keeps rfl rfl (hone rfl)

theorem SessionCore.Tenured.step (h : stage.core.Tenured past)
    (he : Effect origin input stage actions stage') :
    stage'.core.Tenured (past ++ actions.map fun a => (input, a)) := by
  intro hlive hstate
  rw [he.config_eq]
  cases he.tenureStep hlive with
  | keeps state deadline silent =>
    have hbefore : stage.core.closing = false := by
      cases hclosing : stage.core.closing with
      | false => rfl
      | true => rw [he.closing_mono hclosing] at hlive; cases hlive
    rw [tenureStart_append_silent silent, deadline]
    exact h hbefore (state.symm.trans hstate)
  | @starts deadline armed hactions hdeadline =>
    refine ⟨input.now, deadline, ?_, armed, hdeadline⟩
    subst hactions
    unfold tenureStart
    rw [List.filterMap_append]
    exact List.getLast?_concat
  | ends state => cases state.symm.trans hstate

/-- One round keeps the tenure. -/
theorem SessionCore.Tenured.handle {core : SessionCore} (h : core.Tenured past)
    (hc : Coherent none core) (input : Input) : (core.handle input).core.Tenured
      (past ++ (core.handle input).actions.map fun a => (input, a)) := by
  have hround := (steps_handle hc input).accumulates_nil
    (I := fun actions stage => stage.core.Tenured (past ++ actions.map fun a => (input, a)))
    (fun earlier stage actions stage' hI he => by
      rw [List.map_append, ← List.append_assoc]
      exact hI.step he)
    (by
      rw [entry_frame, List.map_nil, List.append_nil]
      exact h)
  exact hround

end

/-! ## Control commands that a message completes -/

/-- The control command has been waiting for the peer: in the slot of the control transaction or in
the drain. -/
def SessionCore.Waits (core : SessionCore) (c : CommandId) : Prop :=
  (∃ transaction, core.activeTransaction = some transaction ∧ transaction.commandId = some c) ∨
    ∃ drain, core.deselectDrain = some drain ∧ drain.commandId = c

section

variable {origin : SessionCore} {input : Input} {stage stage' : Stage} {actions : List CoreAction}

/-- An error is no success of a control command. -/
theorem success_not_mem_completions {core : SessionCore} {error : OperationError}
    {ids : List CommandId}
    {c : CommandId} : .completeCommand c (.control (.ok ())) ∉ ids.filterMap
    (core.completion error) := by
  intro hmem
  obtain ⟨id, -, hcompletion⟩ := List.mem_filterMap.mp hmem
  unfold completion at hcompletion
  split at hcompletion
  · cases hcompletion
  · obtain ⟨kind, -, heq⟩ := Option.map_eq_some_iff.mp hcompletion
    have hresult := (CoreAction.completeCommand.inj heq).2
    cases kind <;> cases hresult

theorem success_not_mem_endActions {core : SessionCore} {reason : GenerationCloseReason}
    {c : CommandId} : .completeCommand c (.control (.ok ())) ∉ core.endActions reason := by
  intro hmem
  unfold endActions at hmem
  rcases List.mem_append.mp hmem with hmem | hmem
  · exact success_not_mem_completions hmem
  · split at hmem
    · cases hmem
    · cases List.mem_singleton.mp hmem

/-- Which control command an effect of a message completes with success. -/
theorem Effect.success (he : Effect origin input stage actions stage') {message : ProtocolMessage}
    {now : MonoTime} (hinput : input = .message message now) (hover : stage'.overflowed = false)
    {c : CommandId} (hmem : .completeCommand c (.control (.ok ())) ∈ actions) :
    (stage.core.control = origin.control ∧
      ∃ transaction, stage.core.activeTransaction = some transaction ∧
        transaction.commandId = some c) ∨
    stage.core.closing = false ∧
      ∃ drain, stage.core.deselectDrain = some drain ∧ drain.commandId = c := by
  subst hinput
  cases he with
  | ended _ _ _ _ _ | lostWrite _ _ _ _ _ _ => exact absurd hmem success_not_mem_endActions
  | admissionClosed _ failed _ _ _ =>
    obtain ⟨_, _, _, heq, -, -⟩ := failed
    cases heq
  | abandonWrites finalize _ _ => cases finalize
  | loseCommands finalize _ _ => cases finalize
  | lateControl _ _ _ _ => cases hover
  | separate _ _ _ _ _ _ _ _ =>
    rcases List.mem_append.mp hmem with hmem | hmem
    · exact absurd hmem success_not_mem_completions
    · simp at hmem
  | peerSeparate _ _ _ _ _ =>
    rcases List.mem_append.mp hmem with hmem | hmem
    · exact absurd hmem success_not_mem_completions
    · simp at hmem
  | @refuse s o _ kind _ _ _ =>
    have hresult := (CoreAction.completeCommand.inj (List.mem_singleton.mp hmem)).2
    cases kind <;> cases hresult
  | spendContract _ _ _ _ _ cause =>
    cases cause with
    | abandoned reply => cases reply
    | exhausted reply _ => cases reply
  | @endDrain s o f drain result live pending cause =>
    obtain ⟨rfl, -⟩ := CoreAction.completeCommand.inj (List.mem_singleton.mp hmem)
    exact .inr ⟨live, drain, pending, rfl⟩
  | @retireControl s _ _ transaction outcome active cause before =>
    refine .inl ⟨before, transaction, active, ?_⟩
    unfold controlCompletion at hmem
    split at hmem
    · cases hmem
    · next own hown =>
      obtain ⟨rfl, -⟩ := CoreAction.completeCommand.inj (List.mem_singleton.mp hmem)
      exact hown
  | retireRequest _ _ cause =>
    have hresult := (CoreAction.completeCommand.inj (List.mem_singleton.mp hmem)).2
    subst hresult
    cases cause
  | rejectSend _ _ _ _ _ _ => cases (CoreAction.completeCommand.inj (List.mem_singleton.mp hmem)).2
  | commitCommand outcome _ _ _ => cases outcome
  | failWrite _ cause _ =>
    cases cause with
    | notWritten outcome => cases outcome
    | indeterminate outcome => cases outcome
    | notAdmitted shutdown _ => cases shutdown
  | lateAnnounce _ | connect _ _ _ _ _ | selected _ _ _ | deselected _ _ _ _ _ _
  | respond _ _ _ _ _ _
  | startControl _ _ _ _ _ _ _ _ _ _ | startDeselection _ _ _ _ _ | sendRequest _ _ _ _ _ _ _ _ _
  | sendPrimary _ _ _ _ _ _ _ _ _ | deliver _ _ _ _ _ _ _ _ _ | deliverOneWay _ _ _ _ _ _
  | sendReply _ _ _ _ _ _ _ => cases List.mem_singleton.mp hmem
  | tick _ | observe _ _ _ | startDrain _ _ _ _ _ _ _ | commitControl _ _ _ _ _
  | commitRequest _ _ _ _ _ | commitSilently _ _ _ => cases hmem

/-- A round without a new command starts no drain. -/
theorem Effect.drain_inherits (he : Effect origin input stage actions stage')
    (hfresh : stage.fresh = none) (hlive : stage'.core.closing = false) : stage'.fresh = none ∧
      ∀ drain, stage'.core.deselectDrain = some drain → stage.core.deselectDrain = some drain := by
  have hnone {core : SessionCore} (h : core.deselectDrain = none) :
      ∀ drain, core.deselectDrain = some drain → stage.core.deselectDrain = some drain := by
    intro drain hdrain
    cases h.symm.trans hdrain
  cases he with
  | ended _ _ _ _ done | lostWrite _ _ _ _ _ done | peerSeparate _ _ _ _ done =>
    dsimp only at hlive
    rw [done.frame] at hlive
    cases hlive
  | separate _ _ _ _ _ _ _ done =>
    dsimp only [trackWrite, takeSystemBytes] at hlive
    rw [done.frame] at hlive
    cases hlive
  | admissionClosed _ _ _ _ done => cases hlive
  | abandonWrites _ closing done =>
    dsimp only at hlive
    rw [done.frame] at hlive
    cases closing.symm.trans hlive
  | loseCommands _ closing done =>
    dsimp only at hlive
    rw [done.frame] at hlive
    cases closing.symm.trans hlive
  | startDrain _ _ _ _ _ _ _ | refuse _ _ _ | spendContract _ _ _ _ _ _
  | sendRequest _ _ _ _ _ _ _ _ _ | sendPrimary _ _ _ _ _ _ _ _ _ | sendReply _ _ _ _ _ _ _ =>
    cases hfresh
  | endDrain _ _ _ => exact ⟨hfresh, hnone rfl⟩
  | startDeselection _ _ _ _ _ => exact ⟨rfl, hnone rfl⟩
  | startControl _ _ _ _ _ _ noDrain _ _ _ => exact ⟨rfl, hnone noDrain⟩
  | retireControl _ _ _ =>
    refine ⟨hfresh, fun drain hdrain => ?_⟩
    dsimp only at hdrain
    rwa [release_frame] at hdrain
  | failWrite _ _ _ =>
    refine ⟨rfl, fun drain hdrain => ?_⟩
    dsimp only at hdrain
    rw [release_frame, removeTransactionForWrite_frame] at hdrain
    exact hdrain
  | tick _ | observe _ _ _ | lateAnnounce _ | lateControl _ _ _ _ | connect _ _ _ _ _
  | selected _ _ _ | deselected _ _ _ _ _ _ | respond _ _ _ _ _ _ | retireRequest _ _ _
  | rejectSend _ _ _ _ _ _ | deliver _ _ _ _ _ _ _ _ _ | deliverOneWay _ _ _ _ _ _
  | commitControl _ _ _ _ _ | commitRequest _ _ _ _ _ | commitCommand _ _ _ _
  | commitSilently _ _ _ => exact ⟨hfresh, fun _ hdrain => hdrain⟩

/-- A control command that a message completes with success has been waiting. -/
theorem waits_of_success {core : SessionCore} (hc : Coherent none core) {message : ProtocolMessage}
    {now : MonoTime} (hover : (core.handle (.message message now)).overflowed = false)
    {c : CommandId}
    (hmem : .completeCommand c (.control (.ok ())) ∈ (core.handle (.message message now)).actions) :
    core.Waits c := by
  have hround := (steps_handle hc (.message message now)).accumulates_nil
    (I := fun past stage => stage.overflowed = false → (stage.core.closing = false →
        stage.fresh = none ∧ ∀ drain, stage.core.deselectDrain = some drain →
          core.deselectDrain = some drain) ∧
      (.completeCommand c (.control (.ok ())) ∈ past → core.Waits c))
    (fun past stage actions stage' hI he hover' => by
      obtain ⟨hdrain, hpast⟩ := hI (he.overflow_mono hover')
      refine ⟨fun hlive' => ?_, fun hmem => ?_⟩
      · have hlive : stage.core.closing = false := by
          cases hclosing : stage.core.closing with
          | false => rfl
          | true => rw [he.closing_mono hclosing] at hlive'; cases hlive'
        obtain ⟨hfresh, hinherited⟩ := hdrain hlive
        obtain ⟨hfresh', hdrains⟩ := he.drain_inherits hfresh hlive'
        exact ⟨hfresh', fun drain hdrain' => hinherited drain (hdrains drain hdrain')⟩
      · rcases List.mem_append.mp hmem with hmem | hmem
        · exact hpast hmem
        · rcases he.success rfl hover' hmem with ⟨hcontrol, transaction, hactive, hown⟩ |
            ⟨hlive, drain, hpending, hown⟩
          · refine .inl ?_
            unfold SessionCore.control at hcontrol
            rw [hactive, Option.map_some] at hcontrol
            obtain ⟨found, hfound, hsame⟩ := Option.map_eq_some_iff.mp hcontrol.symm
            exact ⟨found, hfound, (congrArg ControlTransaction.commandId hsame).trans hown⟩
          · exact .inr ⟨drain, (hdrain hlive).2 drain hpending, hown⟩)
    (by
      rw [entry_frame]
      exact fun _ => ⟨fun _ => ⟨rfl, fun _ hdrain => hdrain⟩, fun hmem => (nomatch hmem)⟩)
  exact (hround hover).2 hmem

end

end Hsms
end SecsRust

import SecsRust.Lib.Steps
import SecsRust.Hsms.Core.Session.Batch
import SecsRust.Hsms.Generation.Driver.Step

/-!
# The small steps of the Session Driver

One call of the Driver does a great deal: it expires deadlines, calls Core, applies the
batch of actions that Core has returned, turns a failure into a shutdown of Core, applies
that batch as well, and may end the close.  An invariant of the Driver that is checked
function by function is checked many times over the same few changes.  So the changes are
named here, once (`DriverStep`): one call of Core, one action applied, one command moved, or
one change of the close.

## Stages

Between two steps of a call a batch may be half applied.  A `DriverStage` therefore holds,
besides the Driver, the call of Core whose batch is being applied and those of its actions
that are left.  The call is kept with the Core that it was made on, because what an action
means is a matter of the round that emitted it.  A Driver at rest applies no batch.  A batch
that fails is followed at once by a shutdown of Core, and the batch of such a shutdown is
abandoned where it fails.

## Sequences

`Leads` says that a part of an operation goes from one stage to another by steps and adds
their effects, and `Performs` is the case that begins and ends at rest.  Applying a batch
has two outcomes, so it is described by `Tries`: where no action has failed, the rest of the
batch is left.  The lemmas follow the functions of the source from the innermost
(`leads_drainCommand`, `tries_applyAction`) to the entry points (`performs_onMessage`,
`performs_driveNextCommand`), and `perform_performs` puts these together.

Whether a call may accept commands is a parameter of the steps (`admits`), so that only the
calls that offer a command can be steps that take one.  `SessionDriver.invariant_history` is
the rule by which all of this is used: what every step keeps holds after every run.
-/

namespace SecsRust
namespace Hsms

open Std Secs2 WriterIngress

universe u v

variable {W : Type u} {κ : Type v}

/-! ## Stages -/

/-- The Driver between two steps.  It keeps the call of Core whose batch is being applied, and
the actions of it that are still pending. -/
structure DriverStage (W : Type u) (κ : Type v) where
  driver : SessionDriver W κ
  /-- The call of Core whose batch is being applied, with the Core it was made on. -/
  origin : Option (SessionCore × Input)
  /-- The actions of that call still to be applied. -/
  pending : List CoreAction

/-- The close once the outcome of a write is there. -/
def ClosingState.satisfy (writeId : WriteId) (closing : ClosingState) : ClosingState :=
  if closing.barrierWriteId = some writeId then { closing with barrierWriteId := none } else closing

namespace SessionDriver

/-- The effect of subtracting a charge that is not there. -/
def dischargeEffects (driver : SessionDriver W κ) (charge : ℕ) : List (DriverEffect κ) :=
  if charge ≤ driver.commandBytes then [] else [.underflow]

/-- The FIFO without its first command. -/
def dequeue (driver : SessionDriver W κ) (accepted : AcceptedCommand κ) : SessionDriver W κ :=
  { driver with
    acceptedCommands := driver.acceptedCommands.tail
    commandBytes := driver.commandBytes - accepted.byteCharge }

/-- The Driver once `begin_closing` has run. -/
def closeWith (driver : SessionDriver W κ) (reason : GenerationCloseReason)
    (barrier : CloseBarrier) :
    SessionDriver W κ :=
  { driver with
    closing := match driver.closing with
      | some closing =>
        some (if barrier = .immediate then { closing with barrierWriteId := none } else closing)
      | none => some ⟨reason, barrier.writeId⟩ }

/-- The effect of `begin_closing`: only the first reason is recorded. -/
def closeEffects (driver : SessionDriver W κ) (reason : GenerationCloseReason)
    (barrier : CloseBarrier) : List (DriverEffect κ) :=
  if driver.closing.isNone then [.closing reason barrier] else []

/-- The Driver once the outcome of a write has been processed. -/
def afterOutcome (driver : SessionDriver W κ) (writeId : WriteId) : SessionDriver W κ :=
  { driver with
    admittedWrites := driver.admittedWrites.erase writeId
    closing := driver.closing.map (ClosingState.satisfy writeId) }

/-- The Driver once the Writer has stopped. -/
def afterWriter (driver : SessionDriver W κ) : SessionDriver W κ :=
  { driver with
    admittedWrites := ∅
    closing := driver.closing.map fun closing => { closing with barrierWriteId := none } }

/-- The Driver once Core has handled an input. -/
def afterCall (driver : SessionDriver W κ) (input : Input) : SessionDriver W κ :=
  { driver with core := (driver.core.handle input).core }

/-- The Driver once a command has an id and its endpoint is in the table. -/
def register (driver : SessionDriver W κ) (accepted : AcceptedCommand κ) (value : UInt64) :
    SessionDriver W κ :=
  { driver with
    nextCommandId := u64CheckedSucc value
    completions := driver.completions.insert ⟨value⟩ accepted.pending }

end SessionDriver

/-- Whether the Driver makes this call of Core while it is `open_` or closing; commands and replies
are only ever presented from the FIFO. -/
def Input.callable (open_ : Bool) : Input → Bool
  | .connected _ | .message .. | .inboundViolation .. | .advanceTime _ => open_
  | .writeOutcome .. | .shutdown .. | .finishShutdownDrain .. | .finalizeWriter _ => true
  | .command .. | .reply .. => false

/-- The effect only tells the caller how the call went; an admission also hands an endpoint or a
token back. -/
def DriverEffect.isReturn (admits : Bool) : DriverEffect κ → Bool
  | .controlRefused .. | .dataRefused .. | .replyRefused .. => admits
  | .takenError _ | .returned _ => true
  | _ => false

/-- The call asks the Driver to accept a command. -/
def DriverInput.isAdmission : DriverInput κ → Bool
  | .acceptControl .. | .acceptSend .. | .acceptRequest .. | .acceptReply .. => true
  | _ => false

/-- The command is a reply. -/
def AcceptedCommandKind.isReply : AcceptedCommandKind → Bool
  | .reply .. => true
  | _ => false

variable [WriterIngress W]

/-- The Writer has moved without taking a frame. -/
inductive Idle : W → W → Prop where
  | refl (writer : W) : Idle writer writer
  | reserve (writer : W) (body : Option SecsItem) : Idle writer (tryReserveMessage writer body).2
  | release (writer : W) (permit : DataPermit W) : Idle writer (releaseData writer permit).2
  | refuseData {writer writer' : W} {permit : DataPermit W} {frame : OutboundFrame}
      {error : ReservedDataAdmissionError}
      (refused : admitReservedData writer permit frame = (.error error, writer')) :
      Idle writer writer'
  | refuseControl {writer writer' : W} {frame : OutboundFrame} {error : WriteAdmissionError}
      (refused : tryAdmit writer frame = (.error error, writer')) : Idle writer writer'

/-- The Writer has taken a frame. -/
inductive Takes (writer : W) (frame : OutboundFrame) (writer' : W) : Prop where
  | control (taken : tryAdmit writer frame = (.ok (), writer'))
  | data {permit : DataPermit W} (taken : admitReservedData writer permit frame = (.ok (), writer'))

/-! ## Steps -/

open SessionDriver

/-- **The steps of the Driver.**  Only an admission accepts commands and hands them back. -/
inductive DriverStep (admits : Bool) :
    DriverStage W κ → List (DriverEffect κ) → DriverStage W κ → Prop where
  -- calls of Core
  | call {d} (input : Input) (allowed : input.callable d.closing.isNone = true) :
      DriverStep admits ⟨d, none, []⟩ [.called d.core input]
        ⟨d.afterCall input, some (d.core, input), (d.core.handle input).actions⟩
  | present {d accepted rest value} (now : MonoTime) (live : d.closing = none)
      (queue : d.acceptedCommands = accepted :: rest)
      (unblocked : accepted.kind.isFramedReply = true → d.core.repliesBlocked = false)
      (next : d.nextCommandId = some value) :
      DriverStep admits ⟨d, none, []⟩
        (d.dischargeEffects accepted.byteCharge ++
          [.presented ⟨value⟩ accepted, .called d.core (accepted.kind.coreInput ⟨value⟩ now)])
        ⟨((d.dequeue accepted).register accepted value).afterCall
            (accepted.kind.coreInput ⟨value⟩ now),
          some (d.core, accepted.kind.coreInput ⟨value⟩ now),
          (d.core.handle (accepted.kind.coreInput ⟨value⟩ now)).actions⟩
  | fail {d call pending} (reason : GenerationCloseReason) (failedWriteId : Option WriteId)
      (now : MonoTime) :
      DriverStep admits ⟨d, some call, pending⟩
        [.called d.core (.shutdown reason failedWriteId now)]
        ⟨d.afterCall (.shutdown reason failedWriteId now),
          some (d.core, .shutdown reason failedWriteId now),
          (d.core.handle (.shutdown reason failedWriteId now)).actions⟩
  -- actions of a batch
  | deliver {d origin message capability pending} (room : d.inbound.length < d.inboundCapacity) :
      DriverStep admits ⟨d, origin, .deliverPrimary message capability :: pending⟩
        ((capability.map (d.mint message.header)).map .minted).toList
        ⟨((Round.start d).deliver message capability).driver, origin, pending⟩
  | send {d origin writeId message pending writer}
      (taken : Takes d.writer ⟨writeId, message⟩ writer) (fresh : writeId ∉ d.admittedWrites) :
      DriverStep admits ⟨d, origin, .sendFrame writeId message :: pending⟩
        [.admitted ⟨writeId, message⟩]
        ⟨{ d with writer := writer, admittedWrites := insert writeId d.admittedWrites }, origin,
          pending⟩
  | sendAgain {d origin writeId message pending writer}
      (taken : Takes d.writer ⟨writeId, message⟩ writer) (known : writeId ∈ d.admittedWrites) :
      DriverStep admits ⟨d, origin, .sendFrame writeId message :: pending⟩
        [.admitted ⟨writeId, message⟩]
        ⟨{ d with writer := writer }, origin, pending⟩
  | observe {d origin state pending} :
      DriverStep admits ⟨d, origin, .sessionStateChanged state :: pending⟩ [.observe state]
        ⟨d, origin, pending⟩
  | settle {d origin commandId result pending entry materialized}
      (held : d.completions[commandId]? = some entry)
      (materializes : d.materializeResult entry.kind result = some materialized) :
      DriverStep admits ⟨d, origin, .completeCommand commandId result :: pending⟩
        [.complete entry.completion materialized]
        ⟨{ d with completions := d.completions.erase commandId }, origin, pending⟩
  | close {d origin reason barrier pending} :
      DriverStep admits ⟨d, origin, .closeGeneration reason barrier :: pending⟩
        (d.closeEffects reason barrier) ⟨d.closeWith reason barrier, origin, pending⟩
  | idle {d origin pending writer} (moved : Idle d.writer writer) :
      DriverStep admits ⟨d, origin, pending⟩ [] ⟨{ d with writer := writer }, origin, pending⟩
  | abandon {d core input pending} (terminal : input.isTerminal = true) :
      DriverStep admits ⟨d, some (core, input), pending⟩ [] ⟨d, some (core, input), []⟩
  | rest {d core input} (settled : input.isTerminal = true → d.closing.isSome = true) :
      DriverStep admits ⟨d, some (core, input), []⟩ [] ⟨d, none, []⟩
  -- the close
  | shutDown {d core input} (reason : GenerationCloseReason) (terminal : input.isTerminal = true) :
      DriverStep admits ⟨d, some (core, input), []⟩ (d.closeEffects reason .immediate)
        ⟨d.closeWith reason .immediate, some (core, input), []⟩
  | settleWrite {d origin} (writeId : WriteId) :
      DriverStep admits ⟨d, origin, []⟩ [.settledWrite writeId] ⟨d.afterOutcome writeId, origin, []⟩
  | stopWriter {d core input} (terminal : input.isTerminal = true) :
      DriverStep admits ⟨d, some (core, input), []⟩ [] ⟨d.afterWriter, some (core, input), []⟩
  | closeTransport {d origin reason} (ready : d.closing = some ⟨reason, none⟩)
      (still : d.transportClosed = false) :
      DriverStep admits ⟨d, origin, []⟩ [.closeTransport] ⟨{ d with transportClosed := true },
        origin, []⟩
  -- custody
  | accept {d origin command} (admission : admits = true) (live : d.closing = none)
      (owned : ∀ intent token body, command.kind = .reply intent token body →
        token.belongsTo d.tokenOwner d.generation = true)
      (gate : command.kind.isReply = true ∨ d.shutdownDraining = false)
      (room : d.acceptedCommands.length < d.commandCapacity)
      (fits : command.byteCharge ≤ d.commandByteCapacity - d.commandBytes) :
      DriverStep admits ⟨d, origin, []⟩ [.accepted command]
        ⟨{ d with
          commandBytes := d.commandBytes + command.byteCharge
          acceptedCommands := d.acceptedCommands ++ [command] }, origin, []⟩
  | reject {d origin accepted rest} (error : OperationError)
      (queue : d.acceptedCommands = accepted :: rest) :
      DriverStep admits ⟨d, origin, []⟩
        (d.dischargeEffects accepted.byteCharge ++
          [.complete accepted.completion (accepted.kind.rejected error)])
        ⟨d.dequeue accepted, origin, []⟩
  | orphan {d origin commandId entry} (held : d.completions[commandId]? = some entry)
      (unowned : d.core.ownsCommand commandId = false) :
      DriverStep admits ⟨d, origin, []⟩ [.complete entry.completion entry.kind.connectionLostResult]
        ⟨{ d with completions := d.completions.erase commandId }, origin, []⟩
  -- the rest
  | answer {d origin effect} (returns : effect.isReturn admits = true) :
      DriverStep admits ⟨d, origin, []⟩ [effect] ⟨d, origin, []⟩
  | notice {d origin} (value : ProtocolNotice) :
      DriverStep admits ⟨d, origin, []⟩ [.notice d.generation value]
        ⟨{ d with core := d.core.withoutNotice }, origin, []⟩
  | takeInbound {d origin} :
      DriverStep admits ⟨d, origin, []⟩ [.takenInbound d.inbound.head?]
        ⟨{ d with inbound := d.inbound.tail }, origin, []⟩
  | drain {d origin} :
      DriverStep admits ⟨d, origin, []⟩ [] ⟨{ d with shutdownDraining := true }, origin, []⟩
  | adjust {d origin} (inboundCapacity protocolErrorCapacity : ℕ)
      (protocolErrors : List InboundProtocolError) :
      DriverStep admits ⟨d, origin, []⟩ []
        ⟨{ d with
          inboundCapacity := inboundCapacity
          protocolErrorCapacity := protocolErrorCapacity
          protocolErrors := protocolErrors }, origin, []⟩

/-- **A close keeps its reason.**  A later reason can only take the barrier away. -/
theorem DriverStep.reason_kept {admits : Bool} {stage stage' : DriverStage W κ}
    {effects : List (DriverEffect κ)} (h : DriverStep admits stage effects stage')
    {reason : GenerationCloseReason}
    (hreason : stage.driver.closing.map ClosingState.reason = some reason) :
    stage'.driver.closing.map ClosingState.reason = some reason := by
  cases h with
  | @close d _ reason' barrier _ | @shutDown d _ _ reason' _ =>
    obtain ⟨closing, hclosing, rfl⟩ := Option.map_eq_some_iff.mp hreason
    unfold closeWith
    dsimp only at hclosing ⊢
    rw [hclosing]
    dsimp only
    split_ifs
    · rfl
    · rfl
  | settleWrite writeId =>
    obtain ⟨closing, hclosing, rfl⟩ := Option.map_eq_some_iff.mp hreason
    unfold afterOutcome
    dsimp only at hclosing ⊢
    rw [hclosing, Option.map_some, Option.map_some]
    unfold ClosingState.satisfy
    split_ifs
    · rfl
    · rfl
  | stopWriter _ =>
    obtain ⟨closing, hclosing, rfl⟩ := Option.map_eq_some_iff.mp hreason
    unfold afterWriter
    dsimp only at hclosing ⊢
    rw [hclosing]
    rfl
  | call _ _ | present _ _ _ _ _ | fail _ _ _ | deliver _ | send _ _ | sendAgain _ _ | observe
  | settle _ _ | idle _ | abandon _ | rest _
  | closeTransport _ _ | accept _ _ _ _ _ _ | reject _ _ | orphan _ _ | answer _
  | notice _ | takeInbound
  | drain | adjust _ _ _ => exact hreason

namespace Round

/-! ## Sequences of steps -/

/-- `r` becomes `r'` by steps with the effects that `r'` has in addition. -/
def Leads (admits : Bool) (r : Round W κ) (o : Option (SessionCore × Input)) (p : List CoreAction)
    (r' : Round W κ) (o' : Option (SessionCore × Input)) (p' : List CoreAction) : Prop :=
  ∃ effects, r'.effects = r.effects ++ effects ∧
    Steps (DriverStep admits) ⟨r.driver, o, p⟩ effects ⟨r'.driver, o', p'⟩

/-- `r` becomes `r'` by steps that begin and end at rest. -/
def Performs (admits : Bool) (r r' : Round W κ) : Prop := Leads admits r none [] r' none []

variable {admits : Bool} {r r' r'' : Round W κ} {o o' o'' : Option (SessionCore × Input)}
  {p p' p'' : List CoreAction} {now : MonoTime}

theorem Leads.refl (r : Round W κ) (o : Option (SessionCore × Input)) (p : List CoreAction) :
    Leads admits r o p r o p :=
  ⟨[], (List.append_nil _).symm, .refl _⟩

theorem Leads.trans (h : Leads admits r o p r' o' p') (h' : Leads admits r' o' p' r'' o'' p'') :
    Leads admits r o p r'' o'' p'' := by
  obtain ⟨effects, heffects, hsteps⟩ := h
  obtain ⟨effects', heffects', hsteps'⟩ := h'
  exact ⟨effects ++ effects', by rw [heffects', heffects, List.append_assoc], hsteps.trans hsteps'⟩

theorem Leads.step {effects : List (DriverEffect κ)} {stage : DriverStage W κ}
    (h : DriverStep admits ⟨r.driver, o, p⟩ effects stage) :
    Leads admits r o p ⟨stage.driver, r.effects ++ effects⟩ stage.origin stage.pending :=
  ⟨effects, rfl, .single h⟩

theorem Performs.refl (r : Round W κ) : Performs admits r r := Leads.refl r none []

theorem Performs.trans (h : Performs admits r r') (h' : Performs admits r' r'') :
    Performs admits r r'' := Leads.trans h h'

/-- A single step that begins and ends at rest. -/
theorem Performs.step {effects : List (DriverEffect κ)} {driver : SessionDriver W κ}
    (h : DriverStep admits ⟨r.driver, none, []⟩ effects ⟨driver, none, []⟩) :
    Performs admits r ⟨driver, r.effects ++ effects⟩ := Leads.step h

theorem Performs.emit {effect : DriverEffect κ} (h : Performs admits r r')
    (returns : effect.isReturn admits = true) : Performs admits r (r'.emit effect) :=
  h.trans (.step (.answer returns))

/-- A batch ends once its actions are applied; the close of a terminal call is there by then. -/
theorem leads_rest {core : SessionCore} {input : Input}
    (settled : input.isTerminal = true → r.driver.closing.isSome = true) :
    Leads admits r (some (core, input)) [] r none [] :=
  ⟨[], (List.append_nil _).symm, .single (.rest settled)⟩

/-- A Driver that is closing stays so. -/
theorem Leads.closing_kept (h : Leads admits r o p r' o' p')
    (hclosing : r.driver.closing.isSome = true) :
    r'.driver.closing.isSome = true := by
  obtain ⟨effects, -, hsteps⟩ := h
  obtain ⟨closing, hclosing⟩ := Option.isSome_iff_exists.mp hclosing
  have hkept := hsteps.preserves
    (I := fun stage => stage.driver.closing.map ClosingState.reason = some closing.reason)
    (fun _ _ _ hI hstep => hstep.reason_kept hI) (by
      dsimp only
      rw [hclosing]
      rfl)
  obtain ⟨closing', hclosing', -⟩ := Option.map_eq_some_iff.mp hkept
  exact Option.isSome_iff_exists.mpr ⟨closing', hclosing'⟩

/-! ## Equations of the parts -/

omit [WriterIngress W] in
theorem uncharge_eq (r : Round W κ) (charge : ℕ) : r.uncharge charge =
    ⟨{ r.driver with commandBytes := r.driver.commandBytes - charge },
      r.effects ++ r.driver.dischargeEffects charge⟩ := by
  unfold uncharge dischargeEffects
  by_cases h : charge ≤ r.driver.commandBytes
  · rw [if_pos h, if_pos h, List.append_nil]
    rfl
  · rw [if_neg h, if_neg h]
    rfl

omit [WriterIngress W] in
theorem popCommand_eq (r : Round W κ) (accepted : AcceptedCommand κ) : r.popCommand accepted =
    ⟨r.driver.dequeue accepted, r.effects ++ r.driver.dischargeEffects accepted.byteCharge⟩ :=
  uncharge_eq _ accepted.byteCharge

omit [WriterIngress W] in
theorem beginClosing_eq (r : Round W κ) (reason : GenerationCloseReason) (barrier : CloseBarrier) :
    r.beginClosing reason barrier =
      ⟨r.driver.closeWith reason barrier, r.effects ++ r.driver.closeEffects reason barrier⟩ := by
  unfold beginClosing closeWith closeEffects
  cases hclosing : r.driver.closing with
  | none => rfl
  | some closing =>
    have hsilent : r.effects ++ (if (some closing).isNone = true then
        [DriverEffect.closing reason barrier] else []) = r.effects := List.append_nil _
    rw [hsilent]
    dsimp only
    by_cases himmediate : barrier = .immediate
    · rw [if_pos himmediate, if_pos himmediate]
      rfl
    · rw [if_neg himmediate, if_neg himmediate, ← hclosing]

omit [WriterIngress W] in
theorem satisfyCloseBarrier_eq (r : Round W κ) (writeId : WriteId) : r.satisfyCloseBarrier writeId =
    ⟨{ r.driver with closing := r.driver.closing.map (ClosingState.satisfy writeId) },
      r.effects⟩ := by
  have hsame : ∀ closing, closing = r.driver.closing →
      r = ⟨{ r.driver with closing := closing }, r.effects⟩ := by
    rintro closing rfl
    rfl
  unfold satisfyCloseBarrier
  cases hclosing : r.driver.closing with
  | none => exact hsame none hclosing.symm
  | some closing =>
    rw [Option.map_some]
    unfold ClosingState.satisfy
    dsimp only
    by_cases hbarrier : closing.barrierWriteId = some writeId
    · rw [if_pos hbarrier, if_pos hbarrier]
      rfl
    · rw [if_neg hbarrier, if_neg hbarrier]
      exact hsame _ hclosing.symm

/-! ## Custody and close -/

theorem leads_foldl_settleOrphan {commandIds : List CommandId}
    (h : ∀ c ∈ commandIds, r.driver.core.ownsCommand c = false) :
    Leads admits r o [] (commandIds.foldl settleOrphan r) o [] := by
  induction commandIds generalizing r with
  | nil => exact .refl r o []
  | cons c commandIds ih =>
    have hrest : ∀ d ∈ commandIds, r.driver.core.ownsCommand d = false :=
      fun d hd => h d (List.mem_cons_of_mem _ hd)
    rw [List.foldl_cons]
    cases hheld : r.driver.completions[c]? with
    | none =>
      have hsame : r.settleOrphan c = r := by
        unfold settleOrphan
        rw [hheld]
      rw [hsame]
      exact ih hrest
    | some entry =>
      have hsettle : Leads admits r o [] (r.settleOrphan c) o [] := by
        unfold settleOrphan
        rw [hheld]
        exact .step (.orphan hheld (h c List.mem_cons_self))
      have hcore : (r.settleOrphan c).driver.core = r.driver.core := by
        unfold settleOrphan
        rw [hheld]
        rfl
      exact hsettle.trans (ih fun d hd => by rw [hcore]; exact hrest d hd)

theorem leads_drainCommand {accepted : AcceptedCommand κ} {rest : List (AcceptedCommand κ)}
    (h : r.driver.acceptedCommands = accepted :: rest) (error : OperationError) :
    Leads admits r o [] ((r.popCommand accepted).rejectCommand accepted error) o [] := by
  rw [popCommand_eq]
  unfold rejectCommand emit
  rw [List.append_assoc]
  exact .step (.reject error h)

theorem leads_foldl_drainCommand {commands : List (AcceptedCommand κ)}
    (h : r.driver.acceptedCommands = commands) :
    Leads admits r o [] (commands.foldl drainCommand r) o [] := by
  induction commands generalizing r with
  | nil => exact .refl r o []
  | cons accepted rest ih =>
    have htail : (r.drainCommand accepted).driver.acceptedCommands = rest := by
      unfold drainCommand
      rw [popCommand_eq]
      exact congrArg List.tail h
    exact (leads_drainCommand h _).trans (ih htail)

theorem leads_drainAcceptedCommands : Leads admits r o [] r.drainAcceptedCommands o [] := by
  unfold drainAcceptedCommands
  refine (leads_foldl_settleOrphan fun c hc => ?_).trans (leads_foldl_drainCommand rfl)
  have hunowned := (List.mem_filter.mp hc).2
  rwa [Bool.not_eq_true'] at hunowned

theorem leads_finishCloseIfReady : Leads admits r o [] r.finishCloseIfReady o [] := by
  unfold finishCloseIfReady
  split
  · rename_i reason hready
    split_ifs with hclosed
    · exact .refl r o []
    · exact (Leads.step (.closeTransport hready (Bool.eq_false_of_not_eq_true hclosed))).trans
        leads_drainAcceptedCommands
  · exact .refl r o []

/-! ## Action batches -/

/-- Actions of a batch have been tried: where none has failed, `p'` is left. -/
def Tries (admits : Bool) (r : Round W κ) (o : Option (SessionCore × Input)) (p : List CoreAction)
    (r' : Round W κ) (failure : Option ActionApplicationFailure) (p' : List CoreAction) : Prop :=
  ∃ q, Leads admits r o p r' o q ∧ (failure = none → q = p')

theorem Leads.tries (h : Leads admits r o p r' o p') (failure : Option ActionApplicationFailure) :
    Tries admits r o p r' failure p' := ⟨p', h, fun _ => rfl⟩

theorem leads_setWriter {writer : W} (h : Idle r.driver.writer writer) :
    Leads admits r o p (r.setWriter writer) o p :=
  ⟨[], (List.append_nil _).symm, .single (.idle h)⟩

/-- An action that fails before it has an effect. -/
theorem tries_failed {failure : ActionApplicationFailure} :
    Tries admits r o p r (some failure) p' := ⟨p, .refl r o p, fun h => nomatch h⟩

theorem leads_recordAdmission {frame : OutboundFrame} {writer : W}
    (h : Takes r.driver.writer frame writer) :
    Leads admits r o (.sendFrame frame.writeId frame.message :: p)
      ((r.setWriter writer).recordAdmission frame).1 o p := by
  unfold recordAdmission
  by_cases hknown : frame.writeId ∈ r.driver.admittedWrites
  · rw [if_pos (show frame.writeId ∈
      ((r.setWriter writer).emit _).driver.admittedWrites from hknown)]
    exact .step (.sendAgain h hknown)
  · rw [if_neg (show frame.writeId ∉
      ((r.setWriter writer).emit _).driver.admittedWrites from hknown)]
    exact .step (.send h hknown)

theorem tries_sendFrame (permit : Option (DataPermit W)) (frame : OutboundFrame) :
    Tries admits r o (.sendFrame frame.writeId frame.message :: p) (r.sendFrame permit frame).1
      (r.sendFrame permit frame).2.2 p := by
  have hrefused : ∀ {writer : W} {failure}, Idle r.driver.writer writer →
      Tries admits r o (.sendFrame frame.writeId frame.message :: p) (r.setWriter writer)
        (some failure) p :=
    fun hmoved => ⟨_, leads_setWriter hmoved, fun h => nomatch h⟩
  obtain ⟨writeId, message | message⟩ := frame
  · cases permit with
    | none => exact tries_failed
    | some permit =>
      unfold sendFrame
      dsimp only
      rcases hadmit : admitReservedData r.driver.writer permit ⟨writeId, .data message⟩ with
        ⟨error | _, writer⟩
      · exact hrefused (.refuseData hadmit)
      · exact (leads_recordAdmission (.data hadmit)).tries _
  · unfold sendFrame
    dsimp only
    rcases hadmit : tryAdmit r.driver.writer ⟨writeId, .control message⟩ with ⟨error | _, writer⟩
    · exact hrefused (.refuseControl hadmit)
    · exact (leads_recordAdmission (.control hadmit)).tries _

theorem tries_completeCommand (commandId : CommandId) (result : CoreCommandResult) :
    Tries admits r o (.completeCommand commandId result :: p) (r.completeCommand commandId result).1
      (r.completeCommand commandId result).2 p := by
  unfold completeCommand
  cases hheld : r.driver.completions[commandId]? with
  | none => exact tries_failed
  | some entry =>
    dsimp only
    cases hmaterialized : r.driver.materializeResult entry.kind result with
    | none => exact tries_failed
    | some materialized => exact ⟨p, .step (.settle hheld hmaterialized), fun _ => rfl⟩

theorem tries_applyAction (permit : Option (DataPermit W)) (action : CoreAction) :
    Tries admits r o (action :: p) (r.applyAction permit action).1
      (r.applyAction permit action).2.2 p := by
  cases action with
  | deliverPrimary message capability =>
    unfold applyAction
    dsimp only
    by_cases hfull : r.driver.inbound.length ≥ r.driver.inboundCapacity
    · rw [if_pos hfull]
      exact tries_failed
    · rw [if_neg hfull]
      exact ⟨p, .step (.deliver (Nat.not_le.mp hfull)), fun _ => rfl⟩
  | sendFrame writeId message => exact tries_sendFrame permit ⟨writeId, message⟩
  | sessionStateChanged state => exact ⟨p, .step .observe, fun _ => rfl⟩
  | completeCommand commandId result => exact tries_completeCommand commandId result
  | closeGeneration reason barrier =>
    unfold applyAction
    dsimp only
    rw [beginClosing_eq]
    exact ⟨p, .step .close, fun _ => rfl⟩

/-- A batch is applied up to its end or to the action that fails. -/
theorem tries_applyEach (permit : Option (DataPermit W)) (actions : List CoreAction) :
    Tries admits r o actions (r.applyEach permit actions).1
      (r.applyEach permit actions).2.2 [] := by
  induction actions generalizing r permit with
  | nil => exact (Leads.refl r o []).tries _
  | cons action actions ih =>
    have htry : Tries admits r o (action :: actions) _ _ actions :=
      tries_applyAction (r := r) permit action
    obtain ⟨q, hlead, hrest⟩ := htry
    unfold applyEach
    split
    · rename_i r₁ permit₁ failure happly
      rw [happly] at hlead
      exact ⟨q, hlead, fun h => nomatch h⟩
    · rename_i r₁ permit₁ happly
      rw [happly] at hlead hrest
      obtain ⟨q', hlead', hrest'⟩ := ih (r := r₁) permit₁
      rw [hrest rfl] at hlead
      exact ⟨q', hlead.trans hlead', hrest'⟩

theorem tries_applyActionBatch (permit : Option (DataPermit W)) (actions : List CoreAction) :
    Tries admits r o actions (r.applyActionBatch actions permit).1
      (r.applyActionBatch actions permit).2 [] := by
  have htry : Tries admits r o actions _ _ [] := tries_applyEach (r := r) permit actions
  obtain ⟨q, hlead, hrest⟩ := htry
  unfold applyActionBatch
  split
  · rename_i r₁ failure happly
    rw [happly] at hlead hrest
    exact ⟨q, hlead, hrest⟩
  · rename_i r₁ permit₁ failure happly
    rw [happly] at hlead hrest
    have hmoved : Idle r₁.driver.writer (releaseData r₁.driver.writer permit₁).2 := .release _ _
    split
    · rename_i error writer hrelease
      rw [hrelease] at hmoved
      exact ⟨q, hlead.trans (leads_setWriter hmoved), fun h => nomatch h⟩
    · rename_i writer hrelease
      rw [hrelease] at hmoved
      exact ⟨q, hlead.trans (leads_setWriter hmoved), hrest⟩

/-! ## Calls of Core -/

theorem leads_callCore {input : Input} (h : input.callable r.driver.closing.isNone = true) :
    Leads admits r none [] (r.callCore input).1 (some (r.driver.core, input))
      (r.callCore input).2 :=
  .step (.call input h)

/-- The shutdown that follows a failed batch. -/
theorem leads_callShutdown {call : SessionCore × Input} (reason : GenerationCloseReason)
    (failedWriteId : Option WriteId) (now : MonoTime) :
    Leads admits r (some call) p (r.callCore (.shutdown reason failedWriteId now)).1
      (some (r.driver.core, .shutdown reason failedWriteId now))
      (r.callCore (.shutdown reason failedWriteId now)).2 :=
  .step (.fail reason failedWriteId now)

/-- The batch of a shutdown that fails is abandoned. -/
theorem leads_abandon {core : SessionCore} {input : Input} (h : input.isTerminal = true) :
    Leads admits r (some (core, input)) p r (some (core, input)) [] :=
  ⟨[], (List.append_nil _).symm, .single (.abandon h)⟩

/-- The close by which every terminal input ends. -/
theorem leads_beginClosing {core : SessionCore} {input : Input} (h : input.isTerminal = true)
    (reason : GenerationCloseReason) :
    Leads admits r (some (core, input)) [] (r.beginClosing reason .immediate)
      (some (core, input)) [] := by
  rw [beginClosing_eq]
  exact .step (.shutDown reason h)

omit [WriterIngress W] in
theorem closing_beginClosing (r : Round W κ) (reason : GenerationCloseReason)
    (barrier : CloseBarrier) : (r.beginClosing reason barrier).driver.closing.isSome = true := by
  rw [beginClosing_eq]
  unfold closeWith
  dsimp only
  split
  · rfl
  · rfl

omit [WriterIngress W] in
theorem closing_shutdownAfterDriverFailure [WriterIngress W] (r : Round W κ)
    (reason : GenerationCloseReason) (failedWriteId : Option WriteId) (now : MonoTime) :
    (r.shutdownAfterDriverFailure reason failedWriteId now).driver.closing.isSome = true :=
  closing_beginClosing _ _ _

/-- The rest of `shutdown_after_driver_failure`, after its call of Core. -/
theorem leads_shutdownAfterDriverFailure {reason : GenerationCloseReason}
    {failedWriteId : Option WriteId} {now : MonoTime}
    (hcall : Leads admits r o p (r.callCore (.shutdown reason failedWriteId now)).1
      (some (r.driver.core, .shutdown reason failedWriteId now))
      (r.callCore (.shutdown reason failedWriteId now)).2) :
    Leads admits r o p (r.shutdownAfterDriverFailure reason failedWriteId now)
      (some (r.driver.core, .shutdown reason failedWriteId now)) [] := by
  have htry : Tries admits _ _ _ _ _ [] := tries_applyActionBatch
    (r := (r.callCore (.shutdown reason failedWriteId now)).1)
    (o := some (r.driver.core, .shutdown reason failedWriteId now)) none
    (r.callCore (.shutdown reason failedWriteId now)).2
  obtain ⟨q, hbatch, -⟩ := htry
  have hended := (hcall.trans hbatch).trans (leads_abandon rfl)
  unfold shutdownAfterDriverFailure
  dsimp only
  split_ifs
  · exact (hended.trans (leads_beginClosing rfl _)).trans (leads_beginClosing rfl _)
  · exact hended.trans (leads_beginClosing rfl _)

/-- A batch with the handling of its failure ends at its own call or at a shutdown that has closed
the Driver. -/
theorem leads_applyBatch (admits : Bool) (call : SessionCore × Input)
    (permit : Option (DataPermit W))
    (actions : List CoreAction) (now : MonoTime) (firstReason : Option GenerationCloseReason) :
    ∃ call', Leads admits r (some call) actions (r.applyBatch actions permit now firstReason)
      (some call') [] ∧ (call' = call ∨ call'.2.isTerminal = true ∧
        (r.applyBatch actions permit now firstReason).driver.closing.isSome = true) := by
  have htry : Tries admits r (some call) actions _ _ [] :=
    tries_applyActionBatch (r := r) permit actions
  obtain ⟨q, hlead, hrest⟩ := htry
  unfold applyBatch
  split
  · rename_i r₁ happly
    rw [happly] at hlead hrest
    rw [hrest rfl] at hlead
    exact ⟨call, hlead, Or.inl rfl⟩
  · rename_i r₁ failure happly
    rw [happly] at hlead
    exact ⟨_, hlead.trans (leads_shutdownAfterDriverFailure (leads_callShutdown _ _ _)),
      Or.inr ⟨rfl, closing_shutdownAfterDriverFailure _ _ _ _⟩⟩

/-- The batch of a call that is not terminal ends at rest. -/
theorem leads_batch (core : SessionCore) {input : Input} (hlive : input.isTerminal = false)
    (permit : Option (DataPermit W)) (actions : List CoreAction) (now : MonoTime)
    (firstReason : Option GenerationCloseReason) :
    Leads admits r (some (core, input)) actions (r.applyBatch actions permit now firstReason)
      none [] := by
  obtain ⟨⟨core', input'⟩, hlead, hend⟩ :=
    leads_applyBatch (r := r) admits (core, input) permit actions now firstReason
  refine hlead.trans (leads_rest fun hterminal => ?_)
  rcases hend with heq | ⟨-, hclosing⟩
  · rw [(Prod.mk.inj heq).2, hlive] at hterminal
    cases hterminal
  · exact hclosing

/-- A terminal call with its batch ends at a terminal call. -/
theorem leads_terminalBatch (admits : Bool) (core : SessionCore) {input : Input}
    (h : input.isTerminal = true)
    (actions : List CoreAction) (now : MonoTime) : ∃ core' input', input'.isTerminal = true ∧
      Leads admits r (some (core, input)) actions (r.applyActionsWithoutFinishingClose actions now)
        (some (core', input')) [] := by
  obtain ⟨⟨core', input'⟩, hlead, hend⟩ :=
    leads_applyBatch (r := r) admits (core, input) none actions now none
  refine ⟨core', input', ?_, hlead⟩
  rcases hend with heq | ⟨hterminal, -⟩
  · rw [(Prod.mk.inj heq).2]
    exact h
  · exact hterminal

/-- The call of an input with its whole batch. -/
theorem performs_applyActions (input : Input) (h : input.callable r.driver.closing.isNone = true)
    (hlive : input.isTerminal = false) (now : MonoTime) :
    Performs admits r ((r.callCore input).1.applyActions (r.callCore input).2 now) :=
  ((leads_callCore h).trans (leads_batch r.driver.core hlive none _ now none)).trans
    leads_finishCloseIfReady

theorem performs_processDueDeadlines (now : MonoTime) :
    Performs admits r (r.processDueDeadlines now) := by
  unfold processDueDeadlines
  split_ifs with hdue
  · exact performs_applyActions (.advanceTime now) (Bool.and_eq_true_iff.mp hdue).1 rfl now
  · exact .refl r

/-- A shutdown of Core with everything that follows it. -/
theorem performs_onShutdown (reason : GenerationCloseReason) (failedWriteId : Option WriteId)
    (now : MonoTime) : Performs admits r (r.onShutdown reason failedWriteId now) := by
  have hcall : Leads admits r none [] (r.callCore (.shutdown reason failedWriteId now)).1 _ _ :=
    leads_callCore rfl
  obtain ⟨core, input, hterminal, hlead⟩ := leads_terminalBatch
    (r := (r.callCore (.shutdown reason failedWriteId now)).1) admits r.driver.core
    (show (Input.shutdown reason failedWriteId now).isTerminal = true from rfl)
    (r.callCore (.shutdown reason failedWriteId now)).2 now
  refine ((hcall.trans hlead).trans (leads_beginClosing hterminal reason)).trans
    (Leads.trans (leads_rest fun _ => closing_beginClosing _ _ _) leads_finishCloseIfReady)

theorem performs_failRuntimeInvariant (now : MonoTime) :
    Performs admits r (r.failRuntimeInvariant now) :=
  performs_onShutdown .runtimeInvariant none now

/-! ## Operations -/

omit [WriterIngress W] in
theorem isNone_of_not_isSome {α : Type*} {value : Option α} (h : ¬ value.isSome = true) :
    value.isNone = true := by
  rw [Option.not_isSome_iff_eq_none.mp h]
  rfl

omit [WriterIngress W] in
theorem commandCharge_le {driver : SessionDriver W κ} {body : Option SecsItem} {charge : ℕ}
    (h : driver.commandCharge body = .ok charge) :
    charge ≤ driver.commandByteCapacity - driver.commandBytes := by
  unfold commandCharge at h
  split at h
  · cases h
  · split at h
    · cases h
    · split at h
      · cases h
      · split_ifs at h with hover
        rw [← Except.ok.inj h]
        exact Nat.not_lt.mp hover

theorem performs_enqueue {command : AcceptedCommand κ} (admission : admits = true)
    (owned : ∀ intent token body, command.kind = .reply intent token body →
      token.belongsTo r.driver.tokenOwner r.driver.generation = true)
    (live : ¬ r.driver.closing.isSome = true)
    (gate : command.kind.isReply = true ∨ r.driver.shutdownDraining = false)
    (room : ¬ r.driver.acceptedCommands.length ≥ r.driver.commandCapacity)
    (fits : command.byteCharge ≤ r.driver.commandByteCapacity - r.driver.commandBytes) :
    Performs admits r (r.enqueue command) :=
  .step (.accept admission (Option.not_isSome_iff_eq_none.mp live) owned gate
    (Nat.not_le.mp room) fits)

theorem performs_answer {effect : DriverEffect κ} (returns : effect.isReturn admits = true) :
    Performs admits r (r.emit effect) :=
  (Performs.refl r).emit returns

theorem performs_tryAcceptControl (intent : ControlIntent) (completion : κ) :
    Performs true r (r.tryAcceptControl intent completion) := by
  unfold tryAcceptControl
  by_cases hclosing : r.driver.closing.isSome = true
  · rw [if_pos hclosing]
    exact performs_answer rfl
  · rw [if_neg hclosing]
    cases coreCommandKind intent with
    | none => exact performs_answer rfl
    | some kind =>
      dsimp only
      split_ifs with hdraining hfull
      · exact performs_answer rfl
      · exact performs_answer rfl
      · exact performs_enqueue rfl (fun _ _ _ h => nomatch h) hclosing
          (Or.inr (Bool.eq_false_of_not_eq_true hdraining)) hfull (Nat.zero_le _)

theorem performs_tryAcceptData (message : PrimaryMessage) (completion : κ) (replyExpected : Bool) :
    Performs true r (r.tryAcceptData message completion replyExpected) := by
  unfold tryAcceptData
  by_cases hclosing : r.driver.closing.isSome = true
  · rw [if_pos hclosing]
    exact performs_answer rfl
  by_cases hdraining : r.driver.shutdownDraining = true
  · rw [if_neg hclosing, if_pos hdraining]
    exact performs_answer rfl
  by_cases hfull : r.driver.acceptedCommands.length ≥ r.driver.commandCapacity
  · rw [if_neg hclosing, if_neg hdraining, if_pos hfull]
    exact performs_answer rfl
  · rw [if_neg hclosing, if_neg hdraining, if_neg hfull]
    cases hcharge : r.driver.commandCharge message.body with
    | error error => exact performs_answer rfl
    | ok charge =>
      refine performs_enqueue rfl (fun _ _ _ h => ?_) hclosing
        (Or.inr (Bool.eq_false_of_not_eq_true hdraining)) hfull (commandCharge_le hcharge)
      cases replyExpected <;> cases h

theorem performs_tryAcceptReply (intent : ReplyIntent) (token : ReplyToken)
    (body : Option SecsItem) (completion : κ) :
    Performs true r (r.tryAcceptReply intent token body completion) := by
  unfold tryAcceptReply
  dsimp only
  cases herror : replyError r.driver intent token with
  | some error => exact performs_answer rfl
  | none =>
    unfold replyError at herror
    split_ifs at herror with hclosing hblocked hforeign habort hfull
    dsimp only
    split
    · exact performs_answer rfl
    · rename_i charge hcharge
      refine performs_enqueue rfl (fun intent' token' body' h => ?_) hclosing (Or.inl rfl) hfull
        (commandCharge_le hcharge)
      obtain ⟨-, rfl, -⟩ := AcceptedCommandKind.reply.inj h
      rwa [Bool.not_eq_true', Bool.not_eq_false] at hforeign

theorem performs_onConnected (now : MonoTime) : Performs admits r (r.onConnected now) := by
  unfold onConnected
  split_ifs with hclosing
  · exact performs_answer rfl
  · exact (performs_applyActions (.connected now) (isNone_of_not_isSome hclosing) rfl
      now).emit rfl

/-- A command that is dequeued and given up. -/
theorem performs_reject {accepted : AcceptedCommand κ} {rest : List (AcceptedCommand κ)}
    {writer : W}
    (queue : r.driver.acceptedCommands = accepted :: rest) (moved : Idle r.driver.writer writer)
    (error : OperationError) :
    Performs admits r (((r.popCommand accepted).setWriter writer).rejectCommand
      accepted error) := by
  have hreject : Performs admits r _ := Leads.trans (leads_setWriter moved)
    (leads_drainCommand (r := r.setWriter writer) queue error)
  rw [popCommand_eq] at hreject ⊢
  exact hreject

/-- A command that is dequeued and presented to Core. -/
theorem performs_presentCommand {accepted : AcceptedCommand κ} {rest : List (AcceptedCommand κ)}
    {writer : W} {permit : Option (DataPermit W)} (live : r.driver.closing = none)
    (queue : r.driver.acceptedCommands = accepted :: rest)
    (unblocked : accepted.kind.isFramedReply = true → r.driver.core.repliesBlocked = false)
    (moved : Idle r.driver.writer writer) (now : MonoTime) :
    Performs admits r (((r.popCommand accepted).setWriter writer).presentCommand accepted
      permit now) := by
  have hnext : ((r.popCommand accepted).setWriter writer).driver.nextCommandId =
      r.driver.nextCommandId := by
    rw [popCommand_eq]
    rfl
  unfold presentCommand
  rw [hnext]
  cases hvalue : r.driver.nextCommandId with
  | none =>
    dsimp only
    cases permit with
    | none =>
      exact (performs_reject queue moved .connectionLost).trans (performs_failRuntimeInvariant now)
    | some permit =>
      dsimp only
      have hmoved : Performs admits r (r.setWriter writer) := leads_setWriter moved
      have hreject : Performs admits (r.setWriter writer) ((((r.setWriter writer).popCommand
          accepted).setWriter (releaseData writer permit).2).rejectCommand accepted
            .connectionLost) :=
        performs_reject (r := r.setWriter writer) queue (.release writer permit) .connectionLost
      rw [popCommand_eq] at hreject ⊢
      exact (hmoved.trans hreject).trans (performs_failRuntimeInvariant now)
  | some value =>
    dsimp only
    rw [popCommand_eq]
    -- the Writer moves before the command leaves the FIFO here, and after it in the source
    let r₁ : Round W κ := ⟨((r.setWriter writer).driver.dequeue accepted).register accepted value,
      r.effects ++ r.driver.dischargeEffects accepted.byteCharge ++ [.presented ⟨value⟩ accepted]⟩
    have hpresent : Leads admits (r.setWriter writer) none []
        (r₁.callCore (accepted.kind.coreInput ⟨value⟩ now)).1
        (some (r.driver.core, accepted.kind.coreInput ⟨value⟩ now))
        (r₁.callCore (accepted.kind.coreInput ⟨value⟩ now)).2 :=
      ⟨r.driver.dischargeEffects accepted.byteCharge ++
          [.presented ⟨value⟩ accepted, .called r.driver.core
            (accepted.kind.coreInput ⟨value⟩ now)],
        by simp [callCore, emit, update, setWriter, r₁, SessionDriver.register,
          SessionDriver.dequeue],
        .single (.present (d := (r.setWriter writer).driver) now live queue unblocked hvalue)⟩
    have hlive : (accepted.kind.coreInput ⟨value⟩ now).isTerminal = false := by
      cases accepted.kind <;> rfl
    have hbatch := hpresent.trans (leads_batch r.driver.core hlive permit
      (r₁.callCore (accepted.kind.coreInput ⟨value⟩ now)).2 now none)
    exact Leads.trans (leads_setWriter moved) (hbatch.trans leads_finishCloseIfReady)

theorem performs_driveCommand {accepted : AcceptedCommand κ} {rest : List (AcceptedCommand κ)}
    (live : r.driver.closing = none) (queue : r.driver.acceptedCommands = accepted :: rest)
    (now : MonoTime) : Performs admits r ((r.popCommand accepted).driveCommand accepted now) := by
  have hcore : (r.popCommand accepted).driver.core = r.driver.core := by
    rw [popCommand_eq]
    rfl
  have hwriter : (r.popCommand accepted).driver.writer = r.driver.writer := by
    rw [popCommand_eq]
    rfl
  have hsame : (r.popCommand accepted).setWriter r.driver.writer = r.popCommand accepted := by
    rw [popCommand_eq]
    rfl
  have hidle : Idle r.driver.writer (tryReserveMessage r.driver.writer accepted.kind.body).2 :=
    .reserve _ _
  unfold driveCommand
  rw [hcore, hwriter]
  by_cases hblocked : (accepted.kind.isFramedReply && r.driver.core.repliesBlocked) = true
  · rw [if_pos hblocked]
    exact leads_drainCommand queue .draining
  · rw [if_neg hblocked]
    have hunblocked : accepted.kind.isFramedReply = true →
        r.driver.core.repliesBlocked = false := by
      intro hframed
      rw [hframed, Bool.true_and] at hblocked
      exact Bool.eq_false_of_not_eq_true hblocked
    by_cases hpermit : accepted.kind.requiresDataPermit = true
    · rw [if_pos hpermit]
      rcases hreserve : tryReserveMessage r.driver.writer accepted.kind.body with ⟨error | permit,
        writer⟩
      · rw [hreserve] at hidle
        have hreject : ∀ error, Performs admits r
            (((r.popCommand accepted).setWriter writer).rejectCommand accepted error) :=
          performs_reject queue hidle
        have hlost : Performs admits r
            ((((r.popCommand accepted).setWriter writer).rejectCommand accepted
              .connectionLost).shutdownAfterDriverFailure .transportLost none
                now).finishCloseIfReady :=
          (hreject _).trans (Leads.trans (leads_shutdownAfterDriverFailure (leads_callCore rfl))
            (Leads.trans (leads_rest fun _ => closing_shutdownAfterDriverFailure _ _ _ _)
              leads_finishCloseIfReady))
        cases error with
        | connectionLost => exact hlost
        | _ => exact hreject _
      · rw [hreserve] at hidle
        exact performs_presentCommand live queue hunblocked hidle now
    · rw [if_neg hpermit]
      rw [← hsame]
      exact performs_presentCommand live queue hunblocked (.refl _) now

theorem performs_driveNextCommand (now : MonoTime) :
    Performs admits r (r.driveNextCommand now) := by
  unfold driveNextCommand
  have hdue : Performs admits r _ := performs_processDueDeadlines now
  by_cases hclosing : (r.processDueDeadlines now).driver.closing.isSome = true
  · rw [if_pos hclosing]
    exact hdue.emit rfl
  · rw [if_neg hclosing]
    cases hqueue : (r.processDueDeadlines now).driver.acceptedCommands with
    | nil => exact hdue.emit rfl
    | cons accepted rest =>
      exact (hdue.trans (performs_driveCommand (Option.not_isSome_iff_eq_none.mp hclosing) hqueue
        now)).emit rfl

theorem performs_takeNotice : Performs admits r r.takeNotice := by
  unfold takeNotice
  cases r.driver.core.notice with
  | none => exact .refl r
  | some notice => exact .step (.notice notice)

theorem performs_onMessage (message : ProtocolMessage) (now : MonoTime) :
    Performs admits r (r.onMessage message now) := by
  unfold onMessage
  have hdue : Performs admits r _ := performs_processDueDeadlines now
  by_cases hclosing : (r.processDueDeadlines now).driver.closing.isSome = true
  · rw [if_pos hclosing]
    exact hdue.emit rfl
  · rw [if_neg hclosing]
    exact ((hdue.trans (performs_applyActions (.message message now)
      (isNone_of_not_isSome hclosing) rfl now)).trans performs_takeNotice).emit rfl

/-- A change of the bounds and of the queue of protocol errors. -/
theorem performs_adjust (inboundCapacity protocolErrorCapacity : ℕ)
    (protocolErrors : List InboundProtocolError) : Performs admits r (r.update fun driver =>
      { driver with
        inboundCapacity := inboundCapacity
        protocolErrorCapacity := protocolErrorCapacity
        protocolErrors := protocolErrors }) :=
  ⟨[], (List.append_nil _).symm,
    .single (.adjust inboundCapacity protocolErrorCapacity protocolErrors)⟩

theorem performs_onViolation (violation : InboundViolation) (context : MessageContext)
    (kind : InboundViolationKind) (source : Option DecodeError)
    (rawHeader : Option (Vector UInt8 10)) (now : MonoTime)
    (hclosing : ¬ r.driver.closing.isSome = true) :
    Performs admits r (r.onViolation violation context kind source rawHeader now) := by
  unfold onViolation
  by_cases hfull : r.driver.protocolErrors.length ≥ r.driver.protocolErrorCapacity
  · rw [if_pos hfull]
    exact (performs_onShutdown _ _ _).emit rfl
  · rw [if_neg hfull]
    have hpush : ∀ error, Performs admits r (r.update fun driver =>
        { driver with protocolErrors := driver.protocolErrors ++ [error] }) := fun error =>
      performs_adjust r.driver.inboundCapacity r.driver.protocolErrorCapacity
        (r.driver.protocolErrors ++ [error])
    refine Performs.emit ((hpush _).trans
      (performs_applyActions (.inboundViolation violation now) ?_ rfl now)) rfl
    exact isNone_of_not_isSome hclosing

theorem performs_onDecodeStep (step : HsmsSsDecodeStep) (rawHeader : Option (Vector UInt8 10))
    (now : MonoTime) : Performs admits r (r.onDecodeStep step rawHeader now) := by
  have hdue : Performs admits r _ := performs_processDueDeadlines now
  by_cases hclosing : (r.processDueDeadlines now).driver.closing.isSome = true
  · cases step with
    | message message => exact performs_onMessage message now
    | _ =>
      unfold onDecodeStep
      dsimp only
      rw [if_pos hclosing]
      exact hdue.emit rfl
  · cases step with
    | message message => exact performs_onMessage message now
    | needMore progress =>
      unfold onDecodeStep
      dsimp only
      rw [if_neg hclosing]
      exact (hdue.trans (performs_failRuntimeInvariant now)).emit rfl
    | headerViolation violation =>
      unfold onDecodeStep
      dsimp only
      rw [if_neg hclosing]
      exact hdue.trans (performs_onViolation _ _ _ _ _ _ hclosing)
    | payloadViolation violation source =>
      unfold onDecodeStep
      dsimp only
      rw [if_neg hclosing]
      exact hdue.trans (performs_onViolation _ _ _ _ _ _ hclosing)

theorem performs_onWriteOutcomeAt (writeId : WriteId) (outcome : WriteOutcome)
    (occurredAt now : MonoTime) :
    Performs admits r (r.onWriteOutcomeAt writeId outcome occurredAt now) := by
  have hdue : Performs admits r
      (if outcome = .committed then r.processDueDeadlines now else r) := by
    split_ifs
    · exact performs_processDueDeadlines now
    · exact .refl r
  unfold onWriteOutcomeAt
  refine hdue.trans ?_
  dsimp only
  generalize (if outcome = .committed then r.processDueDeadlines now else r) = r₁
  have hcall : Leads admits r₁ none [] _
      (some (r₁.driver.core, .writeOutcome writeId outcome occurredAt now)) _ := leads_callCore rfl
  have hsettle : Leads admits r₁ none [] _ none [] :=
    (hcall.trans (leads_batch r₁.driver.core rfl none _ now none)).trans
    (.step (.settleWrite writeId))
  refine Leads.trans ?_ leads_finishCloseIfReady
  rw [satisfyCloseBarrier_eq]
  exact hsettle

theorem performs_beginShutdownDrain : Performs admits r r.beginShutdownDrain :=
  ⟨[], (List.append_nil _).symm, .single .drain⟩

theorem performs_finishShutdownDrain (reason : GenerationCloseReason) (now : MonoTime) :
    Performs admits r (r.finishShutdownDrain reason now) := by
  unfold finishShutdownDrain
  refine performs_beginShutdownDrain.trans ?_
  have hcall : Leads admits r.beginShutdownDrain none [] _
      (some (r.beginShutdownDrain.driver.core, .finishShutdownDrain reason now)) _ :=
        leads_callCore rfl
  have hbatch : Leads admits r.beginShutdownDrain none [] _ none [] :=
    hcall.trans (leads_batch r.beginShutdownDrain.driver.core rfl none _ now (some reason))
  exact hbatch.trans leads_finishCloseIfReady

theorem performs_advanceTime (now : MonoTime) : Performs admits r (r.advanceTime now) := by
  unfold advanceTime
  split_ifs with hclosing
  · exact performs_answer rfl
  · exact (performs_applyActions (.advanceTime now) (isNone_of_not_isSome hclosing) rfl
      now).emit rfl

theorem performs_takeProtocolError : Performs admits r r.takeProtocolError :=
  (performs_adjust r.driver.inboundCapacity r.driver.protocolErrorCapacity
    r.driver.protocolErrors.tail).trans (.step (.answer rfl))

theorem leads_stopWriter {core : SessionCore} {input : Input} (h : input.isTerminal = true) :
    Leads admits r (some (core, input)) [] (r.update SessionDriver.afterWriter)
      (some (core, input)) [] :=
  ⟨[], (List.append_nil _).symm, .single (.stopWriter h)⟩

theorem performs_onWriterStopped (now : MonoTime) : Performs admits r (r.onWriterStopped now) := by
  have hshutdown : Performs admits r
      (if r.driver.closing.isNone then r.onShutdown .runtimeInvariant none now else r) ∧
      (if r.driver.closing.isNone then r.onShutdown .runtimeInvariant none now
        else r).driver.closing.isSome = true := by
    split_ifs with hlive
    · refine ⟨performs_onShutdown _ _ _, ?_⟩
      have hfinish : Leads admits _ none [] _ none [] :=
        leads_finishCloseIfReady (r := ((r.callCore (.shutdown .runtimeInvariant none
          now)).1.applyActionsWithoutFinishingClose (r.callCore (.shutdown .runtimeInvariant none
            now)).2 now).beginClosing .runtimeInvariant .immediate)
      exact hfinish.closing_kept (closing_beginClosing _ _ _)
    · refine ⟨.refl r, ?_⟩
      rwa [Option.isNone_iff_eq_none, ← Option.not_isSome_iff_eq_none, not_not] at hlive
  unfold onWriterStopped
  obtain ⟨hperforms, hclosing⟩ := hshutdown
  refine hperforms.trans ?_
  dsimp only
  generalize (if r.driver.closing.isNone then r.onShutdown .runtimeInvariant none now else r) = r₁
    at hclosing
  obtain ⟨core, input, hterminal, hbatch⟩ := leads_terminalBatch admits
    (r := (r₁.callCore (.finalizeWriter now)).1) r₁.driver.core
    (show (Input.finalizeWriter now).isTerminal = true from rfl)
    (r₁.callCore (.finalizeWriter now)).2 now
  have hstop : Leads admits r₁ none [] _ _ _ := ((leads_callCore rfl).trans hbatch).trans
    ((leads_stopWriter hterminal).trans leads_finishCloseIfReady)
  have hdrain := hstop.trans leads_drainAcceptedCommands
  exact hdrain.trans (leads_rest fun _ => hdrain.closing_kept hclosing)

/-- **Every operation is a sequence of steps.**  With it an invariant of the Driver is one case
for each kind of step. -/
theorem perform_performs (r : Round W κ) (input : DriverInput κ) :
    Performs input.isAdmission r (SessionDriver.perform r input) := by
  cases input with
  | acceptControl intent completion => exact performs_tryAcceptControl intent completion
  | acceptSend message completion => exact performs_tryAcceptData message completion false
  | acceptRequest message completion => exact performs_tryAcceptData message completion true
  | acceptReply intent token body completion =>
    exact performs_tryAcceptReply intent token body completion
  | connected now => exact performs_onConnected now
  | driveNextCommand now => exact performs_driveNextCommand now
  | decoded step rawHeader now => exact performs_onDecodeStep step rawHeader now
  | writeOutcome writeId outcome occurredAt now =>
    exact performs_onWriteOutcomeAt writeId outcome occurredAt now
  | beginShutdownDrain => exact performs_beginShutdownDrain
  | finishShutdownDrain reason now => exact performs_finishShutdownDrain reason now
  | shutdown reason failedWriteId now => exact performs_onShutdown reason failedWriteId now
  | advanceTime now => exact performs_advanceTime now
  | setDeliveryCapacity primaries errors => exact performs_adjust primaries errors _
  | takeInbound => exact .step .takeInbound
  | takeProtocolError => exact performs_takeProtocolError
  | writerStopped now => exact performs_onWriterStopped now

end Round

/-- One call of the Driver is a sequence of steps. -/
theorem SessionDriver.steps_step (driver : SessionDriver W κ) (input : DriverInput κ) :
    Steps (DriverStep input.isAdmission) ⟨driver, none, []⟩ (machine.step driver input).2
      ⟨(machine.step driver input).1, none, []⟩ := by
  obtain ⟨effects, heffects, hsteps⟩ := Round.perform_performs (.start driver) input
  rw [show (machine.step driver input).2 = effects from heffects]
  exact hsteps

/-- **The rule of invariants for the Driver**: what every step keeps holds after every run.  It
is the history rule of `Lib.Machine`, together with the fact that every operation is a sequence
of steps. -/
theorem SessionDriver.invariant_history {I : List (DriverEffect κ) → DriverStage W κ → Prop}
    (hstep : ∀ admits past stage effects stage', I past stage →
      DriverStep admits stage effects stage' → I (past ++ effects) stage')
    {driver : SessionDriver W κ} (h : I [] ⟨driver, none, []⟩) (inputs : List (DriverInput κ)) :
    I (machine.history driver inputs) ⟨machine.after driver inputs, none, []⟩ :=
  machine.invariant_history (I := fun past driver => I past ⟨driver, none, []⟩)
    (fun _ driver input hI => (steps_step driver input).accumulates (hstep _) hI) h inputs

end Hsms
end SecsRust

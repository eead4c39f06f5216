import SecsRust.Hsms.Generation.Driver.Stop

/-!
# Endpoints of accepted commands

An application that has handed a command to the Driver holds the other half of a completion
endpoint, and waits on it.  What is shown here is that the wait ends, and ends once: every
endpoint that the Driver has accepted is settled exactly once by the time the Writer has
stopped, and one that it has not accepted is handed back with the message or the token that
came with it.

## Two accounts

`Custody` follows the endpoints.  At any time those that have been accepted are, each once,
among those that have been settled, those of the commands in the FIFO, and those in the
table of commands that Core has.  It is a statement about multisets, and each step of the
Driver moves one endpoint from one of these places to another.  `Charged` follows the bytes:
what the FIFO is charged with is the sum of the charges of its commands, it does not exceed
its capacity, and no subtraction from it was ever inexact, which is what the effect
`underflow` would show.

Both are invariants of single steps in the sense of `Driver.Trace`, and neither looks at the
Writer, so they hold of every Writer.

## What a call returns

That a refused command comes back is a statement about one call rather than about a run
(`SessionDriver.offered_step`): what a call offers it accepts or hands back, and the two effects
exclude one another.  With it `accepted_endpoints_settle_exactly_once` closes the account.
-/

namespace SecsRust
namespace Hsms

open Std Secs2 SessionDriver

universe u v

variable {W : Type u} {κ : Type v}

/-! ## Endpoints in a history -/

/-- The command that an effect accepts. -/
def DriverEffect.acceptance : DriverEffect κ → Option (AcceptedCommand κ)
  | .accepted command => some command
  | _ => none

/-- The command that an effect presents to Core. -/
def DriverEffect.presentation : DriverEffect κ → Option (AcceptedCommand κ)
  | .presented _ command => some command
  | _ => none

/-- The endpoint that an effect completes, with its result. -/
def DriverEffect.completion : DriverEffect κ → Option (κ × DriverCommandResult)
  | .complete completion result => some (completion, result)
  | _ => none

/-- The effect moves an endpoint. -/
def DriverEffect.isCustody : DriverEffect κ → Bool
  | .accepted _ | .presented _ _ | .complete _ _ => true
  | _ => false

/-- The accepted commands of a history. -/
def acceptedIn (past : List (DriverEffect κ)) : Multiset (AcceptedCommand κ) :=
  past.filterMap DriverEffect.acceptance

/-- The presented commands of a history. -/
def presentedIn (past : List (DriverEffect κ)) : Multiset (AcceptedCommand κ) :=
  past.filterMap DriverEffect.presentation

/-- The completions of a history. -/
def completedIn (past : List (DriverEffect κ)) : Multiset (κ × DriverCommandResult) :=
  past.filterMap DriverEffect.completion

@[simp] theorem acceptedIn_append (past effects : List (DriverEffect κ)) :
    acceptedIn (past ++ effects) = acceptedIn past + acceptedIn effects := by
  unfold acceptedIn
  rw [List.filterMap_append, Multiset.coe_add]

@[simp] theorem presentedIn_append (past effects : List (DriverEffect κ)) :
    presentedIn (past ++ effects) = presentedIn past + presentedIn effects := by
  unfold presentedIn
  rw [List.filterMap_append, Multiset.coe_add]

@[simp] theorem completedIn_append (past effects : List (DriverEffect κ)) :
    completedIn (past ++ effects) = completedIn past + completedIn effects := by
  unfold completedIn
  rw [List.filterMap_append, Multiset.coe_add]

/-- Effects that move no endpoint are not counted. -/
theorem counts_of_quiet {effects : List (DriverEffect κ)} (h : ∀ e ∈ effects, e.isCustody = false) :
    acceptedIn effects = 0 ∧ presentedIn effects = 0 ∧ completedIn effects = 0 := by
  have hnone : ∀ {β : Type _} (f : DriverEffect κ → Option β),
      (∀ e : DriverEffect κ, e.isCustody = false → f e = none) → effects.filterMap f = [] :=
    fun f hf => List.filterMap_eq_nil_iff.mpr fun e he => hf e (h e he)
  refine ⟨?_, ?_, ?_⟩
  · exact congrArg _ (hnone DriverEffect.acceptance fun e he => by
      cases e <;> first | rfl | cases he)
  · exact congrArg _ (hnone DriverEffect.presentation fun e he => by
      cases e <;> first | rfl | cases he)
  · exact congrArg _ (hnone DriverEffect.completion fun e he => by
      cases e <;> first | rfl | cases he)

theorem isCustody_dischargeEffects (d : SessionDriver W κ) (charge : ℕ) :
    ∀ e ∈ d.dischargeEffects charge, e.isCustody = false := by
  intro e he
  unfold dischargeEffects at he
  split at he
  · cases he
  · rw [List.mem_singleton.mp he]
    rfl

theorem isCustody_closeEffects {d : SessionDriver W κ} {reason : GenerationCloseReason}
    {barrier : CloseBarrier} : ∀ e ∈ d.closeEffects reason barrier, e.isCustody = false := by
  intro e he
  unfold closeEffects at he
  split at he
  · rw [List.mem_singleton.mp he]
    rfl
  · cases he

/-! ## Results of the right kind -/

/-- The result is one that Core gives to a command of this class. -/
def CompletionKind.Answers : CompletionKind → DriverCommandResult → Prop
  | control, .control _ => True
  | send, .send _ => True
  | request, .request _ => True
  | _, _ => False

theorem CompletionKind.answers_connectionLost (kind : CompletionKind) :
    kind.Answers kind.connectionLostResult := by
  cases kind <;> trivial

theorem SessionDriver.answers_materializeResult {d : SessionDriver W κ} {kind : CompletionKind}
    {result : CoreCommandResult} {materialized : DriverCommandResult}
    (h : d.materializeResult kind result = some materialized) : kind.Answers materialized := by
  unfold materializeResult at h
  split at h
  · rw [← Option.some.inj h]
    trivial
  · split_ifs at h
    rw [← Option.some.inj h]
    trivial
  · rw [← Option.some.inj h]
    trivial
  · rw [← Option.some.inj h]
    trivial
  · rw [← Option.some.inj h]
    trivial
  · rw [← Option.some.inj h]
    trivial
  · cases h

/-! ## Custody -/

/-- The endpoints of the completion table. -/
def SessionDriver.table (d : SessionDriver W κ) : Multiset (PendingCompletion κ) :=
  Multiset.map Prod.snd (d.completions.toList : Multiset (CommandId × PendingCompletion κ))

/-- **Where the accepted endpoints are.**  `refused` are the commands given up before Core took
them, `held` those whose endpoint is in the table, and `settled` those completed from the table. -/
structure Custody (past : List (DriverEffect κ)) (d : SessionDriver W κ)
    (refused : Multiset (AcceptedCommand κ × OperationError)) (held : Multiset (AcceptedCommand κ))
    (settled : Multiset (AcceptedCommand κ × DriverCommandResult)) : Prop where
  accepted : acceptedIn past =
    (d.acceptedCommands : Multiset (AcceptedCommand κ)) + refused.map Prod.fst + presentedIn past
  presented : presentedIn past = held + settled.map Prod.fst
  table : held.map AcceptedCommand.pending = d.table
  completed : completedIn past =
    refused.map (fun x => (x.1.completion, x.1.kind.rejected x.2)) +
      settled.map fun x => (x.1.completion, x.2)
  answers : ∀ x ∈ settled, x.1.kind.completionKind.Answers x.2

namespace Custody

variable {past effects : List (DriverEffect κ)} {d d' : SessionDriver W κ}
  {refused : Multiset (AcceptedCommand κ × OperationError)} {held : Multiset (AcceptedCommand κ)}
  {settled : Multiset (AcceptedCommand κ × DriverCommandResult)}

/-- A step that moves no endpoint. -/
theorem keep (h : Custody past d refused held settled)
    (hquiet : ∀ e ∈ effects, e.isCustody = false)
    (hqueue : d'.acceptedCommands = d.acceptedCommands) (htable : d'.completions = d.completions) :
    Custody (past ++ effects) d' refused held settled := by
  obtain ⟨haccepted, hpresented, hcompleted⟩ := counts_of_quiet hquiet
  refine ⟨?_, ?_, ?_, ?_, h.answers⟩
  · rw [acceptedIn_append, presentedIn_append, haccepted, hpresented, hqueue, add_zero, add_zero]
    exact h.accepted
  · rw [presentedIn_append, hpresented, add_zero]
    exact h.presented
  · unfold SessionDriver.table
    rw [htable]
    exact h.table
  · rw [completedIn_append, hcompleted, add_zero]
    exact h.completed

theorem accept (h : Custody past d refused held settled) {command : AcceptedCommand κ}
    (hqueue : d'.acceptedCommands = d.acceptedCommands ++ [command])
    (htable : d'.completions = d.completions) :
    Custody (past ++ [.accepted command]) d' refused held settled := by
  refine ⟨?_, ?_, ?_, ?_, h.answers⟩
  · have hone : acceptedIn [DriverEffect.accepted command] = {command} := rfl
    have hnone : presentedIn [DriverEffect.accepted command] = 0 := rfl
    rw [acceptedIn_append, presentedIn_append, hone, hnone, h.accepted, hqueue, ← Multiset.coe_add,
      Multiset.coe_singleton, add_zero]
    abel
  · exact (presentedIn_append _ _).trans ((add_zero _).trans h.presented)
  · unfold SessionDriver.table
    rw [htable]
    exact h.table
  · exact (completedIn_append _ _).trans ((add_zero _).trans h.completed)

/-- The queue of a Driver whose first command is `accepted`. -/
theorem queue_cons {accepted : AcceptedCommand κ} {rest : List (AcceptedCommand κ)}
    (h : d.acceptedCommands = accepted :: rest) :
    (d.acceptedCommands : Multiset (AcceptedCommand κ)) = {accepted} + (rest : Multiset _) := by
  rw [h, ← Multiset.cons_coe, Multiset.singleton_add]

theorem reject (h : Custody past d refused held settled) {accepted : AcceptedCommand κ}
    {rest : List (AcceptedCommand κ)} (error : OperationError)
    (hqueue : d.acceptedCommands = accepted :: rest) :
    Custody (past ++ (d.dischargeEffects accepted.byteCharge ++
        [.complete accepted.completion (accepted.kind.rejected error)])) (d.dequeue accepted)
      ((accepted, error) ::ₘ refused) held settled := by
  obtain ⟨haccepted, hpresented, hcompleted⟩ :=
    counts_of_quiet (isCustody_dischargeEffects d accepted.byteCharge)
  have htail : (d.dequeue accepted).acceptedCommands = rest := congrArg List.tail hqueue
  refine ⟨?_, ?_, h.table, ?_, h.answers⟩
  · rw [acceptedIn_append, acceptedIn_append, haccepted, presentedIn_append, presentedIn_append,
      hpresented, h.accepted, htail, queue_cons hqueue, Multiset.map_cons]
    rw [show acceptedIn [DriverEffect.complete accepted.completion
      (accepted.kind.rejected error)] = 0
      from rfl, show presentedIn [DriverEffect.complete accepted.completion
        (accepted.kind.rejected error)] = 0 from rfl, ← Multiset.singleton_add]
    simp only [add_zero]
    abel
  · rw [presentedIn_append, presentedIn_append, hpresented]
    exact (add_zero _).trans h.presented
  · rw [completedIn_append, completedIn_append, hcompleted, h.completed, Multiset.map_cons,
      ← Multiset.singleton_add]
    rw [show completedIn [DriverEffect.complete accepted.completion
      (accepted.kind.rejected error)] =
      {(accepted.completion, accepted.kind.rejected error)} from rfl]
    abel

theorem present (h : Custody past d refused held settled) {accepted : AcceptedCommand κ}
    {rest : List (AcceptedCommand κ)} {value : UInt64} {core : SessionCore} {input : Input}
    (hqueue : d.acceptedCommands = accepted :: rest)
    (hvacant : d.completions[(⟨value⟩ : CommandId)]? = none)
    (hrest : d'.acceptedCommands = rest)
    (htable : d'.completions = d.completions.insert ⟨value⟩ accepted.pending) :
    Custody (past ++ (d.dischargeEffects accepted.byteCharge ++
        [.presented ⟨value⟩ accepted, .called core input])) d'
      refused (accepted ::ₘ held) settled := by
  obtain ⟨haccepted, hpresented, hcompleted⟩ :=
    counts_of_quiet (isCustody_dischargeEffects d accepted.byteCharge)
  have hone : presentedIn [DriverEffect.presented ⟨value⟩ accepted, .called core input] =
      {accepted} := rfl
  refine ⟨?_, ?_, ?_, ?_, h.answers⟩
  · rw [acceptedIn_append, acceptedIn_append, haccepted, presentedIn_append, presentedIn_append,
      hpresented, hone, h.accepted, hrest, queue_cons hqueue]
    rw [show acceptedIn [DriverEffect.presented ⟨value⟩ accepted, .called core input] = 0 from rfl]
    simp only [add_zero, zero_add]
    abel
  · rw [presentedIn_append, presentedIn_append, hpresented, hone, h.presented,
      ← Multiset.singleton_add]
    abel
  · unfold SessionDriver.table
    rw [htable, TreeMap.coe_toList_insert hvacant, Multiset.map_cons, Multiset.map_cons, h.table]
    rfl
  · rw [completedIn_append, completedIn_append, hcompleted]
    exact (add_zero _).trans h.completed

/-- An endpoint leaves the table with a result of its class. -/
theorem settle (h : Custody past d refused held settled) {c : CommandId}
    {entry : PendingCompletion κ}
    {result : DriverCommandResult} (hentry : d.completions[c]? = some entry)
    (hanswers : entry.kind.Answers result) (hqueue : d'.acceptedCommands = d.acceptedCommands)
    (htable : d'.completions = d.completions.erase c) : ∃ held' settled',
      Custody (past ++ [.complete entry.completion result]) d' refused held' settled' := by
  have hsplit : held.map AcceptedCommand.pending = entry ::ₘ d'.table := by
    rw [h.table]
    unfold SessionDriver.table
    rw [htable, TreeMap.coe_toList_erase hentry, Multiset.map_cons]
  obtain ⟨command, hcommand, hpending⟩ := Multiset.mem_map.mp
    (hsplit ▸ Multiset.mem_cons_self entry d'.table)
  obtain ⟨held', rfl⟩ := Multiset.exists_cons_of_mem hcommand
  rw [Multiset.map_cons, hpending, Multiset.cons_inj_right] at hsplit
  have hnone : acceptedIn [DriverEffect.complete entry.completion result] = 0 ∧
      presentedIn [DriverEffect.complete entry.completion result] = 0 := ⟨rfl, rfl⟩
  refine ⟨held', (command, result) ::ₘ settled, ?_, ?_, hsplit, ?_, fun x hx => ?_⟩
  · rw [acceptedIn_append, presentedIn_append, h.accepted, hqueue, hnone.1, hnone.2, add_zero,
      add_zero]
  · rw [presentedIn_append, h.presented, hnone.2, Multiset.map_cons, ← Multiset.singleton_add,
      ← Multiset.singleton_add, add_zero]
    abel
  · have hcompletion : command.completion = entry.completion :=
      congrArg PendingCompletion.completion hpending
    rw [completedIn_append, h.completed, Multiset.map_cons, ← Multiset.singleton_add, hcompletion]
    rw [show completedIn [DriverEffect.complete entry.completion result] =
      {(entry.completion, result)} from rfl]
    abel
  · rcases Multiset.mem_cons.mp hx with rfl | hx
    · have hkind : command.kind.completionKind = entry.kind :=
        congrArg PendingCompletion.kind hpending
      exact hkind ▸ hanswers
    · exact h.answers x hx

/-- No endpoint is completed more often than it has been accepted. -/
theorem completed_le (h : Custody past d refused held settled) :
    (completedIn past).map Prod.fst ≤ (acceptedIn past).map AcceptedCommand.completion := by
  have hcompleted : (completedIn past).map Prod.fst =
      (refused.map Prod.fst).map AcceptedCommand.completion +
        (settled.map Prod.fst).map AcceptedCommand.completion := by
    rw [h.completed, Multiset.map_add]
    simp only [Multiset.map_map, Function.comp_apply]
  rw [hcompleted, h.accepted, h.presented]
  simp only [Multiset.map_add]
  calc (refused.map Prod.fst).map AcceptedCommand.completion +
        (settled.map Prod.fst).map AcceptedCommand.completion
      ≤ (refused.map Prod.fst).map AcceptedCommand.completion +
        ((held.map AcceptedCommand.completion) + (settled.map Prod.fst).map
          AcceptedCommand.completion) :=
        by gcongr; exact Multiset.le_add_left _ _
    _ ≤ _ := by
        rw [add_assoc]
        exact Multiset.le_add_left _ _

variable [WriterIngress W]

/-- **Every step keeps the custody of endpoints.**  An endpoint moves from one of the places to
another, and nothing is copied or dropped. -/
theorem step {admits : Bool} {stage stage' : DriverStage W κ}
    (h : Custody past stage.driver refused held settled)
    (hsound : Sound stage) (hstep : DriverStep admits stage effects stage') :
    ∃ refused' held' settled',
      Custody (past ++ effects) stage'.driver refused' held' settled' := by
  have hkeep : ∀ {d' : SessionDriver W κ}, (∀ e ∈ effects, e.isCustody = false) →
      d'.acceptedCommands = stage.driver.acceptedCommands →
      d'.completions = stage.driver.completions → ∃ refused' held' settled',
        Custody (past ++ effects) d' refused' held' settled' :=
    fun hquiet hqueue htable => ⟨refused, held, settled, h.keep hquiet hqueue htable⟩
  cases hstep with
  | present now live queue unblocked next =>
    exact ⟨_, _, _, h.present queue (hsound.vacant next) (congrArg List.tail queue) rfl⟩
  | accept _ live _ gate room fits => exact ⟨_, _, _, h.accept rfl rfl⟩
  | reject error queue => exact ⟨_, _, _, h.reject error queue⟩
  | settle hheld materializes =>
    exact ⟨_, h.settle hheld (answers_materializeResult materializes) rfl rfl⟩
  | @orphan d _ _ entry hheld _ =>
    exact ⟨_, h.settle hheld entry.kind.answers_connectionLost rfl rfl⟩
  | close | shutDown _ _ => exact hkeep isCustody_closeEffects rfl rfl
  | deliver _ =>
    refine hkeep (fun e he => ?_) rfl rfl
    obtain ⟨token, -, rfl⟩ := Option.map_eq_some_iff.mp (Option.mem_toList.mp he)
    rfl
  | answer returns =>
    refine hkeep (fun e he => ?_) rfl rfl
    rw [List.mem_singleton.mp he]
    rename_i effect
    cases effect <;> first | rfl | cases returns
  | idle _ | abandon _ | rest _ | stopWriter _ | drain
  | adjust _ _ _ => exact hkeep (fun _ he => nomatch he) rfl rfl
  | call _ _ | fail _ _ _ | send _ _ | sendAgain _ _ | observe | settleWrite _ | closeTransport _ _
  | notice _
  | takeInbound =>
    refine hkeep (fun e he => ?_) rfl rfl
    rw [List.mem_singleton.mp he]
    rfl

end Custody

/-! ## The byte account -/

/-- **The byte account of the FIFO.**  The charge of a command is taken when it is accepted and
given back when it leaves the FIFO, by whatever way. -/
structure Charged (past : List (DriverEffect κ)) (d : SessionDriver W κ) : Prop where
  bytes : d.commandBytes = (d.acceptedCommands.map AcceptedCommand.byteCharge).sum
  bound : d.commandBytes ≤ d.commandByteCapacity
  exact : DriverEffect.underflow ∉ past

namespace Charged

variable {past effects : List (DriverEffect κ)} {d d' : SessionDriver W κ}

/-- A step that leaves the FIFO alone. -/
theorem keep (h : Charged past d) (hexact : DriverEffect.underflow ∉ effects)
    (hqueue : d'.acceptedCommands = d.acceptedCommands) (hbytes : d'.commandBytes = d.commandBytes)
    (hcapacity : d'.commandByteCapacity = d.commandByteCapacity) :
    Charged (past ++ effects) d' where
  bytes := by
    rw [hbytes, hqueue]
    exact h.bytes
  bound := by
    rw [hbytes, hcapacity]
    exact h.bound
  exact := fun hmem => (List.mem_append.mp hmem).elim h.exact hexact

/-- The charge of the first command is there to be subtracted. -/
theorem covered (h : Charged past d) {accepted : AcceptedCommand κ}
    {rest : List (AcceptedCommand κ)}
    (hqueue : d.acceptedCommands = accepted :: rest) : d.commandBytes =
      accepted.byteCharge + (rest.map AcceptedCommand.byteCharge).sum := by
  rw [h.bytes, hqueue, List.map_cons, List.sum_cons]

/-- A command leaves the FIFO with its charge. -/
theorem dequeue (h : Charged past d) {accepted : AcceptedCommand κ}
    {rest : List (AcceptedCommand κ)}
    (hqueue : d.acceptedCommands = accepted :: rest) (hexact : DriverEffect.underflow ∉ effects)
    (hrest : d'.acceptedCommands = rest)
    (hbytes : d'.commandBytes = d.commandBytes - accepted.byteCharge)
    (hcapacity : d'.commandByteCapacity = d.commandByteCapacity) :
    Charged (past ++ (d.dischargeEffects accepted.byteCharge ++ effects)) d' := by
  have hcovered := h.covered hqueue
  have hnone : d.dischargeEffects accepted.byteCharge = [] := by
    unfold dischargeEffects
    rw [if_pos (by omega)]
  rw [hnone, List.nil_append]
  refine ⟨?_, ?_, fun hmem => (List.mem_append.mp hmem).elim h.exact hexact⟩
  · rw [hbytes, hrest, hcovered]
    omega
  · rw [hbytes, hcapacity]
    exact (Nat.sub_le _ _).trans h.bound

variable [WriterIngress W]

theorem step {admits : Bool} {stage stage' : DriverStage W κ} (h : Charged past stage.driver)
    (hstep : DriverStep admits stage effects stage') : Charged (past ++ effects) stage'.driver := by
  cases hstep with
  | @accept d _ command _ live _ gate room fits =>
    have hbound : d.commandBytes ≤ d.commandByteCapacity := h.bound
    refine ⟨?_, ?_, fun hmem => (List.mem_append.mp hmem).elim h.exact fun hmem => ?_⟩
    · dsimp only
      rw [show d.commandBytes = _ from h.bytes, List.map_append, List.sum_append,
        List.map_singleton, List.sum_singleton]
    · dsimp only
      omega
    · cases List.mem_singleton.mp hmem
  | present now live queue unblocked next =>
    exact h.dequeue queue (fun hmem => nomatch List.mem_pair.mp hmem)
      (congrArg List.tail queue) rfl rfl
  | reject error queue =>
    exact h.dequeue queue (fun hmem => nomatch List.mem_singleton.mp hmem)
      (congrArg List.tail queue) rfl rfl
  | close | shutDown _ _ =>
    refine h.keep (fun hmem => ?_) rfl rfl rfl
    unfold closeEffects at hmem
    split at hmem
    · cases List.mem_singleton.mp hmem
    · cases hmem
  | deliver _ =>
    refine h.keep (fun hmem => ?_) rfl rfl rfl
    obtain ⟨token, -, htoken⟩ := Option.map_eq_some_iff.mp (Option.mem_toList.mp hmem)
    cases htoken
  | answer returns =>
    refine h.keep (fun hmem => ?_) rfl rfl rfl
    rw [← List.mem_singleton.mp hmem] at returns
    cases returns
  | idle _ | abandon _ | rest _ | stopWriter _ | drain
  | adjust _ _ _ => exact h.keep (fun hmem => nomatch hmem) rfl rfl rfl
  | call _ _ | fail _ _ _ | send _ _ | sendAgain _ _ | observe | settle _ _ | settleWrite _
  | closeTransport _ _
  | orphan _ _ | notice _ | takeInbound =>
    exact h.keep (fun hmem => nomatch List.mem_singleton.mp hmem) rfl rfl rfl

end Charged

/-! ## Admission -/

/-- The endpoint that a call offers. -/
def DriverInput.endpoint : DriverInput κ → Option κ
  | .acceptControl _ completion | .acceptSend _ completion | .acceptRequest _ completion
  | .acceptReply _ _ _ completion => some completion
  | _ => none

/-- The command is the one that the call offers. -/
def DriverInput.Offers : DriverInput κ → AcceptedCommand κ → Prop
  | .acceptControl intent completion, command => command.completion = completion ∧
      ∃ kind, Round.coreCommandKind intent = some kind ∧ command.kind = .control kind
  | .acceptSend message completion, command =>
    command.completion = completion ∧ command.kind = .send message
  | .acceptRequest message completion, command =>
    command.completion = completion ∧ command.kind = .request message
  | .acceptReply intent token body completion, command =>
    command.completion = completion ∧ command.kind = .reply intent token body
  | _, _ => False

/-- The effect hands everything back that the call offers. -/
def DriverInput.HandsBack : DriverInput κ → DriverEffect κ → Prop
  | .acceptControl intent completion, effect =>
    ∃ kind, effect = .controlRefused kind intent completion
  | .acceptSend message completion, effect | .acceptRequest message completion, effect =>
    ∃ kind, effect = .dataRefused kind message completion
  | .acceptReply intent token body completion, effect =>
    ∃ error, effect = .replyRefused completion (.replyRejected intent token body error)
  | _, _ => False

/-- The endpoint that an effect hands back. -/
def DriverEffect.handedBack : DriverEffect κ → Option κ
  | .controlRefused _ _ completion | .dataRefused _ _ completion | .replyRefused completion _ =>
    some completion
  | _ => none

/-- The endpoints that a run offers. -/
def offeredIn (inputs : List (DriverInput κ)) : Multiset κ := inputs.filterMap DriverInput.endpoint

/-- The endpoints that a history hands back. -/
def handedBackIn (past : List (DriverEffect κ)) :
    Multiset κ := past.filterMap DriverEffect.handedBack

/-- `r` has accepted what the call offers, or has handed it back. -/
def Round.Admits (input : DriverInput κ) (r r' : Round W κ) : Prop :=
  (∃ command, input.Offers command ∧ r' = r.enqueue command) ∨
    ∃ effect, input.HandsBack effect ∧ r' = r.emit effect

theorem Round.admits_tryAcceptControl (r : Round W κ) (intent : ControlIntent) (completion : κ) :
    Admits (.acceptControl intent completion) r (r.tryAcceptControl intent completion) := by
  have hback : ∀ kind, Admits (.acceptControl intent completion) r
      (r.emit (.controlRefused kind intent completion)) := fun kind => Or.inr ⟨_, ⟨kind, rfl⟩, rfl⟩
  unfold tryAcceptControl
  cases hkind : coreCommandKind intent with
  | none =>
    dsimp only
    split_ifs
    · exact hback _
    · exact hback _
  | some kind =>
    dsimp only
    split_ifs
    · exact hback _
    · exact hback _
    · exact hback _
    · exact Or.inl ⟨_, ⟨rfl, kind, hkind, rfl⟩, rfl⟩

theorem Round.admits_tryAcceptData (r : Round W κ) (message : PrimaryMessage) (completion : κ)
    (replyExpected : Bool) {input : DriverInput κ}
    (hoffers : ∀ charge, input.Offers
      ⟨charge, if replyExpected then .request message else .send message, completion⟩)
    (hback : ∀ kind, input.HandsBack (.dataRefused kind message completion)) :
    Admits input r (r.tryAcceptData message completion replyExpected) := by
  have hback : ∀ kind, Admits input r (r.emit (.dataRefused kind message completion)) :=
    fun kind => Or.inr ⟨_, hback kind, rfl⟩
  unfold tryAcceptData
  cases r.driver.commandCharge message.body with
  | error error =>
    dsimp only
    split_ifs
    all_goals exact hback _
  | ok charge =>
    dsimp only
    by_cases hclosing : r.driver.closing.isSome = true
    · rw [if_pos hclosing]
      exact hback _
    rw [if_neg hclosing]
    by_cases hdraining : r.driver.shutdownDraining = true
    · rw [if_pos hdraining]
      exact hback _
    rw [if_neg hdraining]
    by_cases hfull : r.driver.acceptedCommands.length ≥ r.driver.commandCapacity
    · rw [if_pos hfull]
      exact hback _
    rw [if_neg hfull]
    exact Or.inl ⟨_, hoffers charge, rfl⟩

theorem Round.admits_tryAcceptReply (r : Round W κ) (intent : ReplyIntent) (token : ReplyToken)
    (body : Option SecsItem) (completion : κ) :
    Admits (.acceptReply intent token body completion) r
      (r.tryAcceptReply intent token body completion) := by
  unfold tryAcceptReply
  dsimp only
  cases replyError r.driver intent token with
  | some error => exact Or.inr ⟨_, ⟨error, rfl⟩, rfl⟩
  | none =>
    dsimp only
    cases r.driver.commandCharge body with
    | error error => exact Or.inr ⟨_, ⟨error, rfl⟩, rfl⟩
    | ok charge => exact Or.inl ⟨_, ⟨rfl, rfl⟩, rfl⟩

section

variable [WriterIngress W]

/-- **An admission accepts what it is offered, or hands it back and changes nothing.**  The state
after a refusal is the state before it. -/
theorem SessionDriver.step_admission (d : SessionDriver W κ) {input : DriverInput κ}
    (h : input.isAdmission = true) :
    (∃ command, input.Offers command ∧ (machine.step d input).2 = [.accepted command]) ∨
      ((machine.step d input).1 = d ∧
        ∃ effect, input.HandsBack effect ∧ (machine.step d input).2 = [effect]) := by
  have hadmits : Round.Admits input (.start d) (perform (.start d) input) := by
    cases input with
    | acceptControl intent completion => exact Round.admits_tryAcceptControl _ intent completion
    | acceptSend message completion =>
      exact Round.admits_tryAcceptData _ message completion false (fun _ => ⟨rfl, rfl⟩) fun kind =>
        ⟨kind, rfl⟩
    | acceptRequest message completion =>
      exact Round.admits_tryAcceptData _ message completion true (fun _ => ⟨rfl, rfl⟩) fun kind =>
        ⟨kind, rfl⟩
    | acceptReply intent token body completion =>
      exact Round.admits_tryAcceptReply _ intent token body completion
    | _ => cases h
  rcases hadmits with ⟨command, hoffers, heq⟩ | ⟨effect, hback, heq⟩
  · refine Or.inl ⟨command, hoffers, ?_⟩
    show (perform (.start d) input).effects = _
    rw [heq]
    rfl
  · refine Or.inr ⟨?_, effect, hback, ?_⟩
    · show (perform (.start d) input).driver = d
      rw [heq]
      rfl
    · show (perform (.start d) input).effects = _
      rw [heq]
      rfl

/-- Other calls accept nothing and hand nothing back. -/
theorem DriverStep.admits_nothing {stage stage' : DriverStage W κ} {effects : List (DriverEffect κ)}
    (hstep : DriverStep false stage effects stage') :
    ∀ e ∈ effects, e.acceptance = none ∧ e.handedBack = none := by
  have hdischarge : ∀ (d : SessionDriver W κ) charge, ∀ e ∈ d.dischargeEffects charge,
      e.acceptance = none ∧ e.handedBack = none := by
    intro d charge e he
    unfold dischargeEffects at he
    split at he
    · cases he
    · rw [List.mem_singleton.mp he]
      exact ⟨rfl, rfl⟩
  intro e he
  cases hstep with
  | accept admission _ _ _ _ _ => cases admission
  | present now live queue unblocked next =>
    rcases List.mem_append.mp he with he | he
    · exact hdischarge _ _ e he
    · rcases List.mem_pair.mp he with rfl | rfl <;> exact ⟨rfl, rfl⟩
  | reject error queue =>
    rcases List.mem_append.mp he with he | he
    · exact hdischarge _ _ e he
    · rw [List.mem_singleton.mp he]
      exact ⟨rfl, rfl⟩
  | close | shutDown _ _ =>
    unfold closeEffects at he
    split at he
    · rw [List.mem_singleton.mp he]
      exact ⟨rfl, rfl⟩
    · cases he
  | deliver _ =>
    obtain ⟨token, -, rfl⟩ := Option.map_eq_some_iff.mp (Option.mem_toList.mp he)
    exact ⟨rfl, rfl⟩
  | @answer _ _ effect returns =>
    rw [List.mem_singleton.mp he]
    cases effect <;> first | exact ⟨rfl, rfl⟩ | cases returns
  | idle _ | abandon _ | rest _ | stopWriter _ | drain | adjust _ _ _ => cases he
  | call _ _ | fail _ _ _ | send _ _ | sendAgain _ _ | observe | settle _ _ | settleWrite _
  | closeTransport _ _
  | orphan _ _ | notice _ | takeInbound =>
    rw [List.mem_singleton.mp he]
    exact ⟨rfl, rfl⟩

/-- What one call offers it accepts or hands back. -/
theorem SessionDriver.offered_step (d : SessionDriver W κ) (input : DriverInput κ) :
    offeredIn [input] = (acceptedIn (machine.step d input).2).map AcceptedCommand.completion +
      handedBackIn (machine.step d input).2 := by
  cases hadmission : input.isAdmission with
  | true =>
    rcases step_admission d hadmission with ⟨command, hoffers, heffects⟩ | ⟨-, effect,
      hback, heffects⟩
    · rw [heffects]
      cases input with
      | acceptControl _ _ | acceptSend _ _ | acceptRequest _ _ | acceptReply _ _ _ _ =>
        obtain ⟨rfl, -⟩ := hoffers
        rfl
      | _ => cases hadmission
    · rw [heffects]
      cases input with
      | acceptControl _ _ | acceptSend _ _ | acceptRequest _ _ | acceptReply _ _ _ _ =>
        obtain ⟨_, rfl⟩ := hback
        rfl
      | _ => cases hadmission
  | false =>
    have hquiet : ∀ e ∈ (machine.step d input).2, e.acceptance = none ∧ e.handedBack = none := by
      intro e he
      have hsteps := steps_step d input
      rw [hadmission] at hsteps
      obtain ⟨_, _, _, now, _, _, hstep, _, hmem, _⟩ := hsteps.exists_of_mem he
      exact hstep.admits_nothing e hmem
    have haccepted : acceptedIn (machine.step d input).2 = 0 :=
      congrArg _ (List.filterMap_eq_nil_iff.mpr fun e he => (hquiet e he).1)
    have hback : handedBackIn (machine.step d input).2 = 0 :=
      congrArg _ (List.filterMap_eq_nil_iff.mpr fun e he => (hquiet e he).2)
    rw [haccepted, hback]
    cases input <;> first | rfl | cases hadmission

/-- **What a run offers it accepts or hands back.** -/
theorem SessionDriver.offered_history (d : SessionDriver W κ) (inputs : List (DriverInput κ)) :
    offeredIn inputs = (acceptedIn (machine.history d inputs)).map AcceptedCommand.completion +
      handedBackIn (machine.history d inputs) := by
  induction inputs generalizing d with
  | nil => rfl
  | cons input inputs ih =>
    have hsplit : offeredIn (input :: inputs) = offeredIn [input] + offeredIn inputs := by
      unfold offeredIn
      rw [Multiset.coe_add, ← List.filterMap_append]
      rfl
    have hback : ∀ past effects : List (DriverEffect κ),
        handedBackIn (past ++ effects) = handedBackIn past + handedBackIn effects := by
      intro past effects
      unfold handedBackIn
      rw [List.filterMap_append, Multiset.coe_add]
    rw [hsplit, offered_step d input, ih, machine.history_cons, acceptedIn_append, hback,
      Multiset.map_add]
    abel

end

/-! ## Runs -/

section

variable [WriterIngress W] (generation : ConnectionGeneration) (tokenOwner : ℕ)
  (config : SessionCoreConfig) (nextWriteId : Option UInt64) (nextSystemBytes : Option UInt32)
  (writer : W) (bounds : DriverBounds)

omit [WriterIngress W] in
theorem custody_initial :
    Custody [] (.initial generation tokenOwner config nextWriteId nextSystemBytes
    writer bounds : SessionDriver W κ) 0 0 0 where
  accepted := rfl
  presented := rfl
  table := rfl
  completed := rfl
  answers _ hx := absurd hx (Multiset.notMem_zero _)

omit [WriterIngress W] in
theorem charged_initial :
    Charged [] (.initial generation tokenOwner config nextWriteId nextSystemBytes
    writer bounds : SessionDriver W κ) where
  bytes := rfl
  bound := Nat.zero_le _
  exact := List.not_mem_nil

/-- The two accounts after every run. -/
theorem SessionDriver.accounts_history (inputs : List (DriverInput κ)) :
    let driver := initial generation tokenOwner config nextWriteId nextSystemBytes writer bounds
    Sound ⟨machine.after driver inputs, none, []⟩ ∧
      (∃ refused held settled,
        Custody (machine.history driver inputs)
          (machine.after driver inputs) refused held settled) ∧
      Charged (machine.history driver inputs) (machine.after driver inputs) := by
  intro driver
  refine invariant_history (I := fun past stage => Sound stage ∧
    (∃ refused held settled, Custody past stage.driver refused held settled) ∧
      Charged past stage.driver) (fun admits past stage effects stage' hI hstep => ?_)
    ⟨sound_initial _ _ _ _ _ _ _, ⟨0, 0, 0, custody_initial _ _ _ _ _ _ _⟩,
      charged_initial _ _ _ _ _ _ _⟩ inputs
  obtain ⟨hsound, ⟨refused, held, settled, hcustody⟩, hcharged⟩ := hI
  exact ⟨hsound.step hstep, hcustody.step hsound hstep, hcharged.step hstep⟩

/-- **Every accepted endpoint is settled exactly once.**  Over every run of a new Driver on any
Writer: a call that offers an endpoint accepts it or hands it back with what came with it and
changes nothing; no endpoint is ever completed more often than accepted; and the byte account of the
FIFO is exact, within its capacity and never underflows.  Once the Writer has stopped, at a time
that Core accepts, nothing is queued, in the table or awaited, and the endpoints offered are those
completed and those handed back.  The completed ones are the `refused`, which Core never took, with
the error that hands their intent back, and the `settled`, which Core took, each with a result of
its class. -/
theorem accepted_endpoints_settle_exactly_once (inputs : List (DriverInput κ)) :
    let driver := initial generation tokenOwner config nextWriteId nextSystemBytes writer bounds
    (∀ earlier input later, inputs = earlier ++ input :: later → input.isAdmission = true →
      let before := machine.after driver earlier
      (∃ command, input.Offers command ∧ (machine.step before input).2 = [.accepted command]) ∨
        ((machine.step before input).1 = before ∧
          ∃ effect, input.HandsBack effect ∧ (machine.step before input).2 = [effect])) ∧
    (completedIn (machine.history driver inputs)).map Prod.fst ≤
      (acceptedIn (machine.history driver inputs)).map AcceptedCommand.completion ∧
    ((machine.after driver inputs).commandBytes =
        ((machine.after driver inputs).acceptedCommands.map AcceptedCommand.byteCharge).sum ∧
      (machine.after driver inputs).commandBytes ≤
        (machine.after driver inputs).commandByteCapacity ∧
      DriverEffect.underflow ∉ machine.history driver inputs) ∧
    ∀ now, (machine.after driver inputs).core.AcceptsTime now →
      let past := machine.history driver (inputs ++ [.writerStopped now])
      let last := machine.after driver (inputs ++ [.writerStopped now])
      last.acceptedCommands = [] ∧ last.completions = ∅ ∧ last.admittedWrites = ∅ ∧
        last.commandBytes = 0 ∧
        offeredIn inputs = (completedIn past).map Prod.fst + handedBackIn past ∧
        ∃ (refused : Multiset (AcceptedCommand κ × OperationError))
          (settled : Multiset (AcceptedCommand κ × DriverCommandResult)),
          acceptedIn past = refused.map Prod.fst + settled.map Prod.fst ∧
          presentedIn past = settled.map Prod.fst ∧
          completedIn past = refused.map (fun x => (x.1.completion, x.1.kind.rejected x.2)) +
            settled.map (fun x => (x.1.completion, x.2)) ∧
          ∀ x ∈ settled, x.1.kind.completionKind.Answers x.2 := by
  intro driver
  obtain ⟨hsound, ⟨_, _, _, hcustody⟩, hcharged⟩ := accounts_history generation tokenOwner config
    nextWriteId nextSystemBytes writer bounds inputs
  refine ⟨fun earlier input later _ hadmission => step_admission _ hadmission,
    hcustody.completed_le, ⟨hcharged.bytes, hcharged.bound, hcharged.exact⟩, fun now haccepts => ?_⟩
  intro past last
  obtain ⟨-, ⟨refused, held, settled, hlast⟩, hbytes⟩ := accounts_history generation tokenOwner
    config nextWriteId nextSystemBytes writer bounds (inputs ++ [.writerStopped now])
  have hstopped : last = ((Round.start (machine.after driver inputs)).onWriterStopped now).driver :=
    machine.after_append_singleton driver inputs _
  obtain ⟨hqueue, htable, hwrites⟩ :=
    (Round.onWriterStopped_settles (r := .start (machine.after driver inputs)) hsound).2 haccepts
  rw [← hstopped] at hqueue htable hwrites
  have hheld : held = 0 := by
    have hempty : last.table = 0 := by
      unfold SessionDriver.table
      rw [htable]
      rfl
    exact Multiset.map_eq_zero.mp (hlast.table.trans hempty)
  have haccepted : acceptedIn past = refused.map Prod.fst + settled.map Prod.fst := by
    have h := hlast.accepted
    rw [show (machine.after _ _).acceptedCommands = [] from hqueue, hlast.presented, hheld] at h
    rw [h, Multiset.coe_nil, zero_add, zero_add]
  have hpresented : presentedIn past = settled.map Prod.fst := by
    rw [hlast.presented, hheld, zero_add]
  refine ⟨hqueue, htable, hwrites, ?_, ?_, refused, settled, haccepted, hpresented, hlast.completed,
    hlast.answers⟩
  · rw [show last.commandBytes = _ from hbytes.bytes, hqueue]
    rfl
  · have hoffered := offered_history driver (inputs ++ [.writerStopped now])
    have hsame : offeredIn (inputs ++ [.writerStopped now]) = offeredIn inputs := by
      unfold offeredIn
      rw [List.filterMap_append]
      exact congrArg _ (List.append_nil _)
    rw [hsame] at hoffered
    rw [hoffered, show acceptedIn (machine.history driver _) = _ from haccepted,
      show completedIn past = _ from hlast.completed]
    simp only [Multiset.map_add, Multiset.map_map, Function.comp_def]
    rfl

end

/-! ## A run -/

/-- A Linktest is presented to Core and a Separate is not: the endpoints 7 and 8 are completed. -/
theorem accepted_endpoints_settle_exactly_once_of_linktest :
    let driver : SessionDriver Scenario.Sink ℕ := Scenario.driver
    let inputs := [.connected .zero, .acceptControl .linktest 7, .driveNextCommand .zero,
      .acceptControl .separate 8]
    offeredIn inputs = {7, 8} ∧
      (completedIn (machine.history driver (inputs ++ [.writerStopped .zero]))).map Prod.fst +
        handedBackIn (machine.history driver (inputs ++ [.writerStopped .zero])) = {7, 8} := by
  intro driver inputs
  have haccepts : (machine.after driver inputs).core.AcceptsTime .zero := by
    intro last hlast
    have hnow : (machine.after driver inputs).core.lastNow = some .zero := by decide
    rw [hnow] at hlast
    cases hlast
    exact le_rfl
  have hoffered := ((accepted_endpoints_settle_exactly_once ⟨0⟩ 0 Scenario.config (some 0) (some 0)
    Scenario.Sink.mk ⟨4, 4, 4, 64, 64⟩ inputs).2.2.2 .zero haccepts).2.2.2.2.1
  exact ⟨rfl, hoffered.symm⟩

end Hsms
end SecsRust

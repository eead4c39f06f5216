import SecsRust.Hsms.Core.Session.Farewell
import SecsRust.Hsms.Generation.Driver.Settlement

/-!
# The books of the Driver and of Core

Core keeps a ledger of the commands it has open, and the Driver a table of their endpoints.
A completion that Core pushes has to find an endpoint in that table, of the class that it
answers; if it did not, the Driver would take it for a broken invariant and close.

Between two operations the table covers the ledger (`SessionDriver.Covers`): every command
that Core has open has its endpoint there.  In the middle of one it does not, since Core
settles all the commands of a round at once and the Driver their endpoints one after the
other.  What holds throughout is `Tabled`: from some ledger that the table covers, the
completions that are still pending lead to the ledger of Core.  Each completion that is
applied moves that ledger by one entry, and a batch that is given up halfway is no
exception, since a table may cover more than there is.

`Booked` adds the FIFO: a queued command will be opened with the class of its endpoint.  It
is kept by every step of an operation (`Booked.step`), by an operation (`Booked.leads`) and
by a call from outside (`Booked.call`).

The last section draws the conclusion.  A booked completion succeeds
(`completeCommand_succeeds`).  The one that can still fail is the success of a Send, which
also needs its write among the admitted ones.
-/

namespace SecsRust
namespace Hsms

open Std SessionDriver SessionCore

universe u v

variable {W : Type u} {κ : Type v}

/-- The class under which Core opens the command of an endpoint. -/
def CompletionKind.openKind : CompletionKind → OpenCommandKind
  | .control => .control
  | .send => .send
  | .request => .request

/-- Every obligation of the ledger has its endpoint in the table, of the same class. -/
def SessionDriver.Covers (d : SessionDriver W κ) (l : Ledger CommandId OpenCommandKind) : Prop :=
  ∀ c kind, l c = some kind → ∃ entry, d.completions[c]? = some entry ∧ entry.kind.openKind = kind

/-- A control command asks for a control procedure; `core_command_kind` makes no other. -/
def AcceptedCommandKind.Fits : AcceptedCommandKind → Prop
  | .control kind => kind.openKind = .control
  | _ => True

/-- The books agree: what the pending completions settle, the table covers. -/
def Tabled (stage : DriverStage W κ) : Prop :=
  ∃ l, stage.driver.Covers l ∧
    Ledger.Run l (stage.pending.filterMap CoreAction.entry) stage.driver.core.ledger

namespace Tabled

variable {d d' : SessionDriver W κ} {o o' : Option (SessionCore × Input)} {p p' : List CoreAction}

/-- What Core has open the table covers. -/
theorem covers (h : Tabled ⟨d, o, p⟩) : d.Covers d.core.ledger := by
  obtain ⟨l, hcovers, hrun⟩ := h
  intro c kind hopen
  exact hcovers c kind (hrun.of_settled (fun _ _ => not_opened_mem_entries) hopen)

theorem of_covers (h : d.Covers d.core.ledger) : Tabled ⟨d, o, []⟩ := ⟨_, h, .nil _⟩

/-- A step that leaves the table and the completions alone. -/
theorem keep (h : Tabled ⟨d, o, p⟩) (hcompletions : d'.completions = d.completions)
    (hledger : d'.core.ledger = d.core.ledger)
    (hpending : p'.filterMap CoreAction.entry = p.filterMap CoreAction.entry) :
    Tabled ⟨d', o', p'⟩ := by
  obtain ⟨l, hcovers, hrun⟩ := h
  refine ⟨l, fun c kind hopen => ?_, ?_⟩
  · rw [hcompletions]
    exact hcovers c kind hopen
  · show Ledger.Run l (p'.filterMap CoreAction.entry) d'.core.ledger
    rw [hpending, hledger]
    exact hrun

/-- A step that drops the rest of a batch. -/
theorem drop (h : Tabled ⟨d, o, p⟩) (hcompletions : d'.completions = d.completions)
    (hledger : d'.core.ledger = d.core.ledger) : Tabled ⟨d', o', []⟩ :=
  of_covers fun c kind hopen => hcompletions ▸ h.covers c kind (hledger ▸ hopen)

/-- A call of Core that presents no command. -/
theorem call (h : Tabled ⟨d, o, p⟩) (hcoherent : Coherent none d.core) {input : Input}
    (hsilent : d.core.accepted input = none) :
    Tabled ⟨d.afterCall input, some (d.core, input), (d.core.handle input).actions⟩ := by
  have hround := ledger_handle hcoherent input
  unfold roundEntries at hround
  rw [hsilent] at hround
  exact ⟨_, h.covers, hround⟩

theorem presented_coreInput {kind : AcceptedCommandKind} (hfits : kind.Fits) (c : CommandId)
    (now : MonoTime) : (kind.coreInput c now).presented = some
    (c, kind.completionKind.openKind) := by
  cases kind with
  | reply intent token body => cases intent <;> rfl
  | control kind => exact congrArg some (congrArg (Prod.mk c) hfits)
  | send message => rfl
  | request message => rfl

/-- A command is presented: its endpoint is in the table before Core takes it. -/
theorem present (h : Tabled ⟨d, none, []⟩) (hsound : Sound ⟨d, none, []⟩)
    {accepted : AcceptedCommand κ}
    {value : UInt64} (hfits : accepted.kind.Fits) (hnext : d.nextCommandId = some value)
    (now : MonoTime) :
    Tabled ⟨((d.dequeue accepted).register accepted value).afterCall
      (accepted.kind.coreInput ⟨value⟩ now), some (d.core, accepted.kind.coreInput ⟨value⟩ now),
      (d.core.handle (accepted.kind.coreInput ⟨value⟩ now)).actions⟩ := by
  have hvacant : d.core.ledger ⟨value⟩ = none := by
    cases hopen : d.core.ledger ⟨value⟩ with
    | none => rfl
    | some kind =>
      obtain ⟨entry, hentry, -⟩ := h.covers _ _ hopen
      rw [hsound.vacant hnext] at hentry
      cases hentry
  have haccepted : d.core.accepted (accepted.kind.coreInput ⟨value⟩ now) =
      some (⟨value⟩, accepted.kind.completionKind.openKind) := by
    unfold SessionCore.accepted
    rw [presented_coreInput hfits]
    refine Option.filter_eq_some_iff.mpr ⟨rfl, ?_⟩
    dsimp only
    rw [TreeMap.contains_eq_false_iff.mpr hvacant]
    rfl
  have hround := ledger_handle hsound.coherent (accepted.kind.coreInput ⟨value⟩ now)
  unfold roundEntries at hround
  rw [haccepted] at hround
  cases hround with
  | opened vacant rest =>
    refine ⟨_, fun c kind hopen => ?_, rest⟩
    show ∃ entry, (d.completions.insert ⟨value⟩ accepted.pending)[c]? = some entry ∧ _
    by_cases hc : c = ⟨value⟩
    · rw [hc, Function.update_self] at hopen
      refine ⟨accepted.pending, ?_, Option.some.inj hopen⟩
      rw [TreeMap.getElem?_insert, if_pos hc.symm]
    · rw [Function.update_of_ne hc] at hopen
      obtain ⟨entry, hentry, hkind⟩ := h.covers c kind hopen
      refine ⟨entry, ?_, hkind⟩
      rw [TreeMap.getElem?_insert, if_neg (Ne.symm hc)]
      exact hentry

theorem accepted_of_callable {core : SessionCore} {input : Input} {live : Bool}
    (h : input.callable live = true) : core.accepted input = none := by
  cases input with
  | command _ _ | reply _ _ _ _ _ => cases h
  | connected _ | message _ _ | inboundViolation _ _ | writeOutcome _ _ _ _ | shutdown _ _ _
  | finishShutdownDrain _ _ | advanceTime _ | finalizeWriter _ => rfl

/-- An endpoint leaves the table together with the obligation of its command. -/
theorem settle {c : CommandId} {result : CoreCommandResult}
    (h : Tabled ⟨d, o, .completeCommand c result :: p⟩) :
    Tabled ⟨{ d with completions := d.completions.erase c }, o, p⟩ := by
  obtain ⟨l, hcovers, hrun⟩ := h
  cases hrun with
  | settled outstanding rest =>
    refine ⟨_, fun c' kind hopen => ?_, rest⟩
    by_cases hc : c' = c
    · rw [hc, Function.update_self] at hopen
      cases hopen
    · rw [Function.update_of_ne hc] at hopen
      obtain ⟨entry, hentry, hkind⟩ := hcovers c' kind hopen
      refine ⟨entry, ?_, hkind⟩
      show (d.completions.erase c)[c']? = some entry
      rw [TreeMap.getElem?_erase, if_neg (Ne.symm hc)]
      exact hentry

/-- An orphan is nothing that Core has open. -/
theorem orphan {c : CommandId} (h : Tabled ⟨d, o, []⟩) (hunowned : d.core.ownsCommand c = false) :
    Tabled ⟨{ d with completions := d.completions.erase c }, o, []⟩ := by
  refine of_covers fun c' kind hopen => ?_
  obtain ⟨entry, hentry, hkind⟩ := h.covers c' kind hopen
  refine ⟨entry, ?_, hkind⟩
  show (d.completions.erase c)[c']? = some entry
  rw [TreeMap.getElem?_erase, if_neg]
  · exact hentry
  · rintro rfl
    have howned : d.core.openCommands.contains c = true := TreeMap.contains_iff.mpr ⟨kind, hopen⟩
    exact Bool.false_ne_true (hunowned.symm.trans howned)

end Tabled

/-- **The books of the Driver.**  The endpoint of what Core has open is in the table, with its
class, and what is queued will be opened with the class of its endpoint. -/
structure Booked (stage : DriverStage W κ) : Prop where
  sound : Sound stage
  fitting : ∀ command ∈ stage.driver.acceptedCommands, command.kind.Fits
  table : Tabled stage

/-- What is queued was queued before or has been accepted. -/
theorem DriverStep.queue [WriterIngress W] {admits : Bool} {stage stage' : DriverStage W κ}
    {effects : List (DriverEffect κ)} (hstep : DriverStep admits stage effects stage') :
    ∀ command ∈ stage'.driver.acceptedCommands,
      command ∈ stage.driver.acceptedCommands ∨ .accepted command ∈ effects := by
  intro command hcommand
  cases hstep with
  | accept _ _ _ _ _ _ =>
    refine (List.mem_append.mp hcommand).imp_right fun hlast => ?_
    rw [List.mem_singleton.mp hlast]
    exact List.mem_singleton_self _
  | present _ _ _ _ _ | reject _ _ => exact Or.inl (List.mem_of_mem_tail hcommand)
  | call _ _ | fail _ _ _ | deliver _ | send _ _ | sendAgain _ _ | observe | settle _ _
  | close | idle _
  | abandon _ | rest _ | shutDown _ _ | settleWrite _ | stopWriter _ | closeTransport _ _
  | orphan _ _
  | answer _ | notice _ | takeInbound | drain | adjust _ _ _ => exact Or.inl hcommand

namespace Booked

variable [WriterIngress W] {stage stage' : DriverStage W κ} {effects : List (DriverEffect κ)}

theorem step {admits : Bool} (h : Booked stage) (hstep : DriverStep admits stage effects stage')
    (haccepts : ∀ command, .accepted command ∈ effects → command.kind.Fits) : Booked stage' := by
  refine ⟨h.sound.step hstep, fun command hcommand => ?_, ?_⟩
  · exact (hstep.queue command hcommand).elim (h.fitting command) (haccepts command)
  · cases hstep with
    | call input allowed => exact h.table.call h.sound.coherent (Tabled.accepted_of_callable
        allowed)
    | present now _ queue _ hnext =>
      refine h.table.present h.sound (h.fitting _ ?_) hnext now
      show _ ∈ SessionDriver.acceptedCommands _
      rw [queue]
      exact List.mem_cons_self
    | fail reason failedWriteId now => exact h.table.call h.sound.coherent rfl
    | settle _ _ => exact h.table.settle
    | orphan _ unowned => exact h.table.orphan unowned
    | abandon _ => exact h.table.drop rfl rfl
    | rest _ | deliver _ | send _ _ | sendAgain _ _ | observe | close | idle _ | shutDown _ _
    | settleWrite _
    | stopWriter _ | closeTransport _ _ | accept _ _ _ _ _ _ | reject _ _ | answer _
    | notice _ | takeInbound
    | drain | adjust _ _ _ => exact h.table.keep rfl rfl rfl

/-- Steps that accept nothing. -/
theorem steps (h : Booked stage) (hsteps : Steps (DriverStep false) stage effects stage') :
    Booked stage' :=
  hsteps.preserves (fun _ _ _ hI hstep => hI.step hstep fun command hmem => by
    have hnone := (hstep.admits_nothing _ hmem).1
    cases hnone) h

theorem leads {r r' : Round W κ} {o o' : Option (SessionCore × Input)} {p p' : List CoreAction}
    (h : Booked ⟨r.driver, o, p⟩) (hleads : Round.Leads false r o p r' o' p') :
    Booked ⟨r'.driver, o', p'⟩ := by
  obtain ⟨effects, -, hsteps⟩ := hleads
  exact h.steps hsteps

theorem fits_of_accepted (d : SessionDriver W κ) (input : DriverInput κ)
    {command : AcceptedCommand κ}
    (hmem : .accepted command ∈ (machine.step d input).2) : command.kind.Fits := by
  cases hadmission : input.isAdmission with
  | false =>
    have hsteps := steps_step d input
    rw [hadmission] at hsteps
    obtain ⟨_, _, _, _, _, _, hstep, _, hnow, _⟩ := hsteps.exists_of_mem hmem
    cases (hstep.admits_nothing _ hnow).1
  | true =>
    rcases step_admission d hadmission with ⟨offered, hoffers, heffects⟩ | ⟨-, effect,
      hback, heffects⟩
    · rw [heffects] at hmem
      obtain rfl : command = offered := DriverEffect.accepted.inj (List.mem_singleton.mp hmem)
      cases input with
      | acceptControl intent completion =>
        obtain ⟨-, kind, hkind, heq⟩ := hoffers
        rw [heq]
        cases intent <;> (cases hkind; rfl)
      | acceptSend _ _ | acceptRequest _ _ | acceptReply _ _ _ _ =>
        rw [hoffers.2]
        trivial
      | _ => cases hadmission
    · rw [heffects] at hmem
      have heq := List.mem_singleton.mp hmem
      cases input with
      | acceptControl _ _ | acceptSend _ _ | acceptRequest _ _ | acceptReply _ _ _ _ =>
        obtain ⟨_, rfl⟩ := hback
        cases heq
      | _ => cases hadmission

/-- **Every call of the Driver keeps the books.**  The endpoint of an accepted command enters the
FIFO with its class and the table with its identity. -/
theorem call {d : SessionDriver W κ} (h : Booked ⟨d, none, []⟩) (input : DriverInput κ) :
    Booked ⟨(machine.step d input).1, none, []⟩ := by
  have hround := (steps_step d input).accumulates_nil
    (I := fun past stage => (∀ command, .accepted command ∈ past → command.kind.Fits) →
      Booked stage)
    (fun past _ effects _ hI hstep hfits => (hI fun command hmem => hfits command
      (List.mem_append_left _ hmem)).step
      hstep fun command hmem => hfits command (List.mem_append_right _ hmem))
    fun _ => h
  exact hround fun command => fits_of_accepted d input

omit [WriterIngress W] in
theorem initial (generation : ConnectionGeneration) (tokenOwner : ℕ) (config : SessionCoreConfig)
    (nextWriteId : Option UInt64) (nextSystemBytes : Option UInt32) (writer : W)
    (bounds : DriverBounds) :
    Booked (⟨.initial generation tokenOwner config nextWriteId nextSystemBytes writer bounds,
      none, []⟩ :
      DriverStage W κ) where
  sound := sound_initial generation tokenOwner config nextWriteId nextSystemBytes writer bounds
  fitting _ h := absurd h List.not_mem_nil
  table := Tabled.of_covers fun c _ h =>
    absurd (show (∅ : ExtTreeMap CommandId OpenCommandKind)[c]? = some _
    from h) TreeMap.getElem?_empty_ne

end Booked

/-! ## Completions that succeed -/

namespace Round

variable {r : Round W κ} {o : Option (SessionCore × Input)} {p : List CoreAction}

/-- A result of the right class is materialized, unless it is the success of a Send. -/
theorem materializeResult_isSome (d : SessionDriver W κ) {kind : CompletionKind}
    {result : CoreCommandResult}
    (hkind : kind.openKind = result.openKind) (hreceipt : result.isReceipt = false) :
    (d.materializeResult kind result).isSome = true := by
  cases result with
  | control result =>
    cases kind with
    | control => rfl
    | send | request => cases hkind
  | send result =>
    cases kind with
    | send =>
      cases result with
      | error error => rfl
      | ok committed => cases hreceipt
    | control | request => cases hkind
  | request result =>
    cases kind with
    | request =>
      cases result with
      | error error => rfl
      | ok matched => rfl
    | control | send => cases hkind
  | requestTimedOut header =>
    cases kind with
    | request => rfl
    | control | send => cases hkind

/-- **A booked completion succeeds.**  The hypothesis about the write is needed for a Send that
has succeeded, and for nothing else. -/
theorem completeCommand_succeeds {c : CommandId} {result : CoreCommandResult}
    (h : Tabled ⟨r.driver, o, .completeCommand c result :: p⟩)
    (hreceipt : result.isReceipt = false) :
    (r.completeCommand c result).2 = none := by
  obtain ⟨l, hcovers, hrun⟩ := h
  cases hrun with
  | settled outstanding rest =>
    obtain ⟨entry, hentry, hkind⟩ := hcovers c _ outstanding
    unfold completeCommand
    rw [hentry]
    dsimp only
    obtain ⟨materialized, hmaterialized⟩ :=
      Option.isSome_iff_exists.mp (materializeResult_isSome r.driver hkind hreceipt)
    rw [hmaterialized]

end Round

end Hsms
end SecsRust

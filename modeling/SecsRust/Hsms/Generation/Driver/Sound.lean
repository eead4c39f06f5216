import SecsRust.Hsms.Generation.Driver.Trace

/-!
# What every Driver keeps

The invariant that the properties of the Driver share.  `Sound` says that the Core of a
Driver is coherent, that the ids in the completion table have been given out before, and
that the close of the Driver is never ahead of the close of its Core, whether it has begun,
waits in the rest of a batch, or is what the present call asks for.

Every other invariant of the Driver is proved beside this one, since a call of Core can be
analysed only if that Core is coherent.  There is one lemma for each kind of step
(`Sound.keep`, `Sound.close`, `Sound.call`, `Sound.register`), and `Sound.step` puts them
together.

A new Driver is made on a new Core, with any bounds and any identifier counters of Core
(`SessionDriver.initial`).  The counters are arbitrary so that what holds of every run also
holds near their ends.  `SessionDriver.fromConfig_eq` shows that the Driver of a validated
configuration is one of these.
-/

namespace SecsRust
namespace Hsms

open Std SessionDriver

universe u v

variable {W : Type u} {κ : Type v}

/-- **The shared invariant of the Driver.**  The other invariants are proved on top of it, since
a call of Core is analysed only for a coherent one. -/
structure Sound (stage : DriverStage W κ) : Prop where
  coherent : Coherent none stage.driver.core
  ids : ∀ (c : CommandId) entry, stage.driver.completions[c]? = some entry →
    ∀ value, stage.driver.nextCommandId = some value → c.raw < value
  closing : stage.driver.closing.isSome = true → stage.driver.core.closing = true
  pending : ∀ a ∈ stage.pending, a.isClose = true → stage.driver.core.closing = true
  terminal : ∀ core input, stage.origin = some (core, input) → input.isTerminal = true →
    stage.driver.core.closing = true

namespace Sound

variable {d d' : SessionDriver W κ} {origin : Option (SessionCore × Input)}
  {pending : List CoreAction}

/-- A step that leaves Core, the ids and the close as they are. -/
theorem keep {rest : List CoreAction} (h : Sound ⟨d, origin, pending⟩) (hcore : d'.core = d.core)
    (hids : ∀ (c : CommandId) entry, d'.completions[c]? = some entry →
      ∃ entry', d.completions[c]? = some entry')
    (hnext : d'.nextCommandId = d.nextCommandId) (hclosing : d'.closing.isSome = d.closing.isSome)
    (hrest : ∀ a ∈ rest, a ∈ pending) : Sound ⟨d', origin, rest⟩ := by
  refine ⟨?_, fun c entry hentry value hvalue => ?_, fun hclosed => ?_, fun a ha hclose => ?_,
    fun core input horigin hterminal => ?_⟩
  · show Coherent none d'.core
    rw [hcore]
    exact h.coherent
  · obtain ⟨entry', hentry'⟩ := hids c entry hentry
    exact h.ids c entry' hentry' value (hnext.symm.trans hvalue)
  · show d'.core.closing = true
    rw [hcore]
    exact h.closing (hclosing.symm.trans hclosed)
  · show d'.core.closing = true
    rw [hcore]
    exact h.pending a (hrest a ha) hclose
  · show d'.core.closing = true
    rw [hcore]
    exact h.terminal core input horigin hterminal

/-- A step that closes the Driver after its Core. -/
theorem close {rest : List CoreAction} (h : Sound ⟨d, origin, pending⟩)
    (hclosed : d.core.closing = true) (hcore : d'.core = d.core)
    (hcompletions : d'.completions = d.completions) (hnext : d'.nextCommandId = d.nextCommandId) :
    Sound ⟨d', origin, rest⟩ := by
  have hclosed' : d'.core.closing = true := by rw [hcore]; exact hclosed
  refine ⟨?_, fun c entry hentry value hvalue => ?_, fun _ => hclosed', fun _ _ _ => hclosed',
    fun _ _ _ _ => hclosed'⟩
  · show Coherent none d'.core
    rw [hcore]
    exact h.coherent
  · exact h.ids c entry (hcompletions ▸ hentry) value (hnext.symm.trans hvalue)

/-- A call of Core. -/
theorem call (h : Sound ⟨d, origin, pending⟩) (input : Input) :
    Sound ⟨d.afterCall input, some (d.core, input), (d.core.handle input).actions⟩ := by
  have honce := closesOnce_handle h.coherent input
  refine ⟨h.coherent.handle input, h.ids, fun hclosing => honce.kept (h.closing hclosing),
    honce.closed, fun core input' horigin hterminal => ?_⟩
  obtain ⟨rfl, rfl⟩ := Prod.mk.inj (Option.some.inj horigin)
  exact (SessionCore.terminal_closes h.coherent hterminal).2

theorem erased {c c' : CommandId} {entry : PendingCompletion κ}
    (h : (d.completions.erase c)[c']? = some entry) :
    ∃ entry', d.completions[c']? = some entry' := by
  rw [TreeMap.getElem?_erase] at h
  split at h
  · cases h
  · exact ⟨entry, h⟩

theorem register {accepted : AcceptedCommand κ} {value : UInt64} (h : Sound ⟨d, origin, pending⟩)
    (hnext : d.nextCommandId = some value) :
    Sound ⟨(d.dequeue accepted).register accepted value, origin, pending⟩ := by
  refine ⟨h.coherent, fun c entry hentry value' hvalue' => ?_, h.closing, h.pending, h.terminal⟩
  have hlt := lt_of_u64CheckedSucc hvalue'
  have hlook : (d.completions.insert ⟨value⟩ accepted.pending)[c]? = some entry := hentry
  rw [TreeMap.getElem?_insert] at hlook
  split at hlook
  · rename_i hc
    rw [← hc]
    exact hlt
  · exact UInt64.lt_trans (h.ids c entry hlook value hnext) hlt

/-- The id of a command that is presented is not in the table. -/
theorem vacant {value : UInt64} (h : Sound ⟨d, origin, pending⟩)
    (hnext : d.nextCommandId = some value) : d.completions[(⟨value⟩ : CommandId)]? = none := by
  cases hentry : d.completions[(⟨value⟩ : CommandId)]? with
  | none => rfl
  | some entry => exact absurd (h.ids ⟨value⟩ entry hentry value hnext) (UInt64.lt_irrefl value)

variable [WriterIngress W]

theorem step {admits : Bool} {stage stage' : DriverStage W κ} {effects : List (DriverEffect κ)}
    (h : Sound stage)
    (hstep : DriverStep admits stage effects stage') : Sound stage' := by
  cases hstep with
  | call input _ => exact h.call input
  | present now _ _ _ hnext => exact (h.register hnext).call _
  | close =>
    exact h.close (h.pending _ List.mem_cons_self rfl) rfl rfl rfl
  | shutDown reason terminal => exact h.close (h.terminal _ _ rfl terminal) rfl rfl rfl
  | settleWrite _ =>
    exact h.keep rfl (fun _ entry hc => ⟨entry, hc⟩) rfl (by
      unfold afterOutcome
      rw [Option.isSome_map]) fun _ ha => ha
  | stopWriter _ =>
    exact h.keep rfl (fun _ entry hc => ⟨entry, hc⟩) rfl (by
      unfold afterWriter
      rw [Option.isSome_map]) fun _ ha => ha
  | settle _ _ => exact h.keep rfl (fun _ _ => erased) rfl rfl fun _ => List.mem_cons_of_mem _
  | orphan _ _ => exact h.keep rfl (fun _ _ => erased) rfl rfl fun _ ha => ha
  | notice value =>
    exact ⟨h.coherent.observe rfl, h.ids, h.closing, h.pending, h.terminal⟩
  | fail _ _ _ => exact h.call _
  | rest _ =>
    exact ⟨h.coherent, h.ids, h.closing, fun _ ha => (nomatch ha), fun _ _ ho => nomatch ho⟩
  | deliver _ | send _ _ | sendAgain _ _ | observe =>
    exact h.keep rfl (fun _ entry hc => ⟨entry, hc⟩) rfl rfl fun _ => List.mem_cons_of_mem _
  | abandon _ =>
    exact h.keep rfl (fun _ entry hc => ⟨entry, hc⟩) rfl rfl fun _ ha => absurd ha List.not_mem_nil
  | idle _ | closeTransport _ _ | accept _ _ _ _ _ _ | reject _ _ | answer _ | takeInbound | drain
  | adjust _ _ _ =>
    exact h.keep rfl (fun _ entry hc => ⟨entry, hc⟩) rfl rfl fun _ ha => ha

end Sound

/-! ## New Drivers -/

/-- The bounds of a Driver.  They are data of the configuration, and no property depends on their
values. -/
structure DriverBounds where
  inboundCapacity : ℕ
  protocolErrorCapacity : ℕ
  commandCapacity : ℕ
  commandByteCapacity : ℕ
  maximumMessageLength : ℕ

/-- A new Driver on a new Core, with any bounds and any identifier counters of Core. -/
def SessionDriver.initial (generation : ConnectionGeneration) (tokenOwner : ℕ)
    (config : SessionCoreConfig) (nextWriteId : Option UInt64) (nextSystemBytes : Option UInt32)
    (writer : W) (bounds : DriverBounds) : SessionDriver W κ :=
  { withCommandCapacity generation tokenOwner (.initial config nextWriteId nextSystemBytes) writer
      bounds.commandCapacity with
    inboundCapacity := bounds.inboundCapacity
    protocolErrorCapacity := bounds.protocolErrorCapacity
    commandByteCapacity := bounds.commandByteCapacity
    maximumMessageLength := bounds.maximumMessageLength }

/-- **The Driver of a validated configuration is one of these.**  So whatever holds of all new
Drivers holds of those that the program makes. -/
theorem SessionDriver.fromConfig_eq {generation : ConnectionGeneration} {tokenOwner : ℕ}
    {config : EndpointConfig} {writer : W} {now : MonoTime} {driver : SessionDriver W κ}
    (h : fromConfig generation tokenOwner config writer now = .ok driver) :
    driver = .initial generation tokenOwner (.fromEndpoint config) (some 0) (some 0) writer
      ⟨config.limits.applicationEventCapacity, config.runtime.protocolErrorCapacity,
        config.limits.commandCapacity, config.runtime.commandBytes,
        config.limits.maxMessageLength⟩ := by
  unfold fromConfig at h
  split at h
  · cases h
  · exact (Except.ok.inj h).symm

section

variable (generation : ConnectionGeneration) (tokenOwner : ℕ) (config : SessionCoreConfig)
  (nextWriteId : Option UInt64) (nextSystemBytes : Option UInt32) (writer : W)
  (bounds : DriverBounds)

theorem sound_initial : Sound (⟨.initial generation tokenOwner config nextWriteId nextSystemBytes
    writer bounds, none, []⟩ : DriverStage W κ) where
  coherent := coherent_initial config nextWriteId nextSystemBytes
  ids _ _ h := absurd h TreeMap.getElem?_empty_ne
  closing := fun h => nomatch h
  pending := fun _ h => nomatch h
  terminal := fun _ _ h => nomatch h

end

/-! ## A Driver to start from -/

namespace Scenario

/-- A Writer that takes everything. -/
structure Sink where

instance : WriterIngress Sink where
  DataPermit := Unit
  tryReserveMessage writer _ := (.ok (), writer)
  releaseData writer _ := (.ok (), writer)
  admitReservedData writer _ _ := (.ok (), writer)
  tryAdmit writer _ := (.ok (), writer)

/-- A Driver of the default session with room for four of everything. -/
def driver : SessionDriver Sink ℕ :=
  .initial ⟨0⟩ 0 config (some 0) (some 0) .mk ⟨4, 4, 4, 64, 64⟩

end Scenario

end Hsms
end SecsRust

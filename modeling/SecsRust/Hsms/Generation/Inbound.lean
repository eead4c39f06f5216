import SecsRust.Hsms.Generation.Driver.Inbound
import SecsRust.Hsms.Generation.Graceful

/-!
# Inbound Primaries of a generation

A generation lies between a Driver and the supervisor that owns it.  Of the inbound
Primaries it neither makes nor takes any; it only decides when its Driver is called, and
with what.  What is shown here is that the account of the Driver survives this.

One round of a generation gives Core at most one message of the peer
(`GenerationRound.Reads`), because it selects one input.  So its Driver delivers at most one
Primary in a round, and once it closes, none (`GenerationRound.Proceeds.adds`).  That is
used by the endpoint loop, which empties the queue between two rounds.

`Supplied` is the account of a generation, with the messages that its Core has been given
left open.  It is kept by the two ways in which a generation goes on: calls of its Driver,
and a drain of the queue (`Supplied.call`, `Supplied.drain`), and a new generation has
queued nothing (`supplied_fromStream`).
-/

namespace SecsRust
namespace Hsms

open Std Secs2 SessionDriver

universe u v

variable {W : Type u} {κ : Type v}

/-- What a Driver does that takes nothing out of its queue: it delivers at most the messages that it
is given, and nothing once it closes. -/
structure Adds (d d' : SessionDriver W κ) (effects : List (DriverEffect κ)) : Prop where
  taken : takenIn effects = []
  delivered : (deliveredIn effects).length ≤ messagesIn effects
  inbound : d'.inbound.length ≤ d.inbound.length + messagesIn effects
  closing : d.closing.isSome = true → d'.closing.isSome = true ∧ deliveredIn effects = []

namespace Adds

variable {d d' d'' : SessionDriver W κ} {effects effects' : List (DriverEffect κ)}

theorem refl (hinbound : d'.inbound = d.inbound) (hclosing : d'.closing = d.closing) :
    Adds d d' [] :=
  ⟨rfl, le_rfl, hinbound ▸ Nat.le_add_right _ _, fun h => ⟨hclosing ▸ h, rfl⟩⟩

theorem trans (h : Adds d d' effects) (h' : Adds d' d'' effects') :
    Adds d d'' (effects ++ effects') where
  taken := by rw [takenIn_append, h.taken, h'.taken]; rfl
  delivered := by
    rw [deliveredIn_append, messagesIn_append, List.length_append]
    exact Nat.add_le_add h.delivered h'.delivered
  inbound := by
    have hfirst := h.inbound
    have hthen := h'.inbound
    rw [messagesIn_append]
    omega
  closing hclosing := by
    obtain ⟨hkept, hnone⟩ := h.closing hclosing
    obtain ⟨hkept', hnone'⟩ := h'.closing hkept
    exact ⟨hkept', by rw [deliveredIn_append, hnone, hnone']; rfl⟩

end Adds

section

variable [WriterIngress W]

theorem Round.messages_onMessage (r : Round W κ) (message : ProtocolMessage) (now : MonoTime) :
    ∃ effects, (r.onMessage message now).effects = r.effects ++ effects ∧ messagesIn
      effects ≤ 1 := by
  obtain ⟨due, hdue, hnone, -⟩ :=
    (Calls.processDueDeadlines ordinary_silent r now).no_message fun _ _ => rfl
  unfold onMessage
  dsimp only
  split
  · exact ⟨due ++ [_], by rw [← List.append_assoc, ← hdue]; rfl, by
      rw [messagesIn_append, hnone]; exact Nat.zero_le 1⟩
  · generalize r.processDueDeadlines now = r₁ at hdue ⊢
    obtain ⟨rest, hrest, hquiet, -⟩ :=
      (Calls.received ordinary_silent (r₁.callCore (.message message now)).1
      (r₁.callCore (.message message now)).2 now).no_message fun _ _ => rfl
    refine ⟨due ++ [.called r₁.driver.core (.message message now)] ++ rest, ?_, ?_⟩
    · rw [hrest, ← List.append_assoc, ← List.append_assoc, ← hdue]
      rfl
    · rw [messagesIn_append, messagesIn_append, hnone, hquiet]
      exact le_rfl

/-- **An operation gives Core at most the message that it reads.**  It is one for a message and
for a decoded frame, and none for everything else. -/
theorem SessionDriver.messages_step (d : SessionDriver W κ) (input : DriverInput κ) :
    messagesIn (machine.step d input).2 ≤ input.reads := by
  have hzero {r : Round W κ} (h : ∃ effects, r.effects = (Round.start d).effects ++ effects ∧
      messagesIn effects ≤ input.reads) : messagesIn r.effects ≤ input.reads := by
    obtain ⟨effects, heffects, hle⟩ := h
    rw [show r.effects = effects from heffects]
    exact hle
  have hquiet {r : Round W κ} (h : ∃ effects, r.effects = (Round.start d).effects ++ effects ∧
      messagesIn effects = 0 ∧ takenIn effects = []) :
      messagesIn r.effects ≤ input.reads := by
    obtain ⟨effects, heffects, hnone, -⟩ := h
    rw [show r.effects = effects from heffects]
    exact hnone.le.trans (Nat.zero_le _)
  show messagesIn (perform (.start d) input).effects ≤ input.reads
  by_cases hreads : ∃ message rawHeader now, input = .decoded (.message message) rawHeader now
  · obtain ⟨message, rawHeader, now, rfl⟩ := hreads
    exact hzero (Round.messages_onMessage (.start d) message now)
  · cases input with
    | decoded step rawHeader now =>
      exact hquiet ((Round.Calls.onDecodeStep Round.ordinary_silent (.start d)
        (fun message heq => hreads ⟨message, rawHeader, now, by rw [heq]⟩) rawHeader now
        fun _ _ => rfl).no_message fun _ _ => rfl)
    | takeInbound => exact le_rfl
    | acceptControl _ _ | acceptSend _ _ | acceptRequest _ _ | acceptReply _ _ _ _ | connected _
    | driveNextCommand _ | writeOutcome _ _ _ _ | beginShutdownDrain | finishShutdownDrain _ _
    | shutdown _ _ _
    | advanceTime _ | setDeliveryCapacity _ _ | takeProtocolError | writerStopped _ =>
      exact hquiet (Round.Calls.perform_silent (.start d) nofun rfl)

/-- **An operation that takes nothing** queues at most what Core is given.  Once the Driver
closes it queues nothing at all. -/
theorem SessionDriver.adds_step {d : SessionDriver W κ} (h : Booked ⟨d, none, []⟩)
    {input : DriverInput κ}
    (htakes : input ≠ .takeInbound) : Adds d (machine.step d input).1 (machine.step d input).2 := by
  obtain ⟨effects', heffects', -, hnone⟩ := Round.Calls.perform (.start d) htakes
  have htaken : takenIn (machine.step d input).2 = [] := by
    rw [show (machine.step d input).2 = effects' from heffects']
    exact hnone
  have hkept (hclosing : d.closing.isSome = true) :
      (machine.step d input).1.closing.isSome = true :=
    Round.Leads.closing_kept (Round.perform_performs (.start d) input) hclosing
  rcases inbound_cases h htakes with ⟨hinbound, effects, heffects, hquiet⟩ |
    ⟨hopen, effects, delivery, heffects, hdelivered, -, hqueued⟩
  · have hinbound : (machine.step d input).1.inbound = d.inbound := hinbound
    have heffects : (machine.step d input).2 = effects := heffects
    rw [← heffects] at hquiet
    exact ⟨htaken, hquiet ▸ Nat.zero_le _, hinbound ▸ Nat.le_add_right _ _, fun hclosing =>
      ⟨hkept hclosing, hquiet⟩⟩
  · have heffects : (machine.step d input).2 = effects := heffects
    have hopen : d.closing = none := hopen
    rw [← heffects] at hdelivered
    have hmessage : 1 ≤ messagesIn (machine.step d input).2 := by
      refine Nat.one_le_iff_ne_zero.mpr fun hzero => ?_
      obtain ⟨-, hquiet⟩ := inbound_of_silent (steps_step d input) h.sound rfl hzero htaken
      rw [hdelivered] at hquiet
      cases hquiet
    refine ⟨htaken, hdelivered ▸ hmessage, ?_, fun hclosing => ?_⟩
    · rcases hqueued with hroom | ⟨hfull, -⟩
      · have hroom : (machine.step d input).1.inbound = d.inbound ++ [d.primary delivery] := hroom
        rw [hroom, List.length_append]
        exact Nat.add_le_add_left hmessage _
      · have hfull : (machine.step d input).1.inbound = d.inbound := hfull
        exact hfull ▸ Nat.le_add_right _ _
    · rw [hopen] at hclosing
      cases hclosing

end

/-! ## Rounds -/

namespace GenerationRound

variable {r r' r'' : GenerationRound W κ} {n m : ℕ}

/-- From `r` to `r'` Core is given at most so many messages. -/
def Reads (n : ℕ) (r r' : GenerationRound W κ) : Prop :=
  ∃ effects, r'.effects = r.effects ++ effects ∧ messagesIn effects ≤ n

namespace Reads

theorem refl (r : GenerationRound W κ) :
    Reads n r r := ⟨[], (List.append_nil _).symm, Nat.zero_le _⟩

theorem trans (h : Reads n r r') (h' : Reads m r' r'') : Reads (n + m) r r'' := by
  obtain ⟨effects, heffects, hle⟩ := h
  obtain ⟨effects', heffects', hle'⟩ := h'
  refine ⟨effects ++ effects', by rw [heffects', heffects, List.append_assoc], ?_⟩
  rw [messagesIn_append]
  exact Nat.add_le_add hle hle'

theorem note (r : GenerationRound W κ) (preferCommand : Bool) (shutdown : Option ShutdownDrain) :
    Reads n r (r.note preferCommand shutdown) := ⟨[], (List.append_nil _).symm, Nat.zero_le _⟩

variable [WriterIngress W]

theorem call (r : GenerationRound W κ) {input : DriverInput (RuntimeCompletion κ)}
    (h : input.reads ≤ n) :
    Reads n r (r.call input) := ⟨_, rfl, (messages_step _ input).trans h⟩

theorem beginGracefulClose (r : GenerationRound W κ) (reason : GenerationCloseReason)
    (now logical : MonoTime) : Reads 0 r (r.beginGracefulClose reason now logical) := by
  unfold GenerationRound.beginGracefulClose
  split
  · exact refl r
  · have hbegun : Reads 0 r (r.call .beginShutdownDrain) := call r le_rfl
    dsimp only
    split
    · exact hbegun.trans (m := 0) (note _ _ _)
    · exact hbegun.trans (m := 0) (call _ le_rfl)

theorem advanceShutdown (r : GenerationRound W κ) (now logical : MonoTime) :
    Reads 0 r (r.advanceShutdown now logical) := by
  unfold GenerationRound.advanceShutdown
  split
  · exact refl r
  · split
    · exact call r le_rfl
    · split
      · exact (note r _ _).trans (n := 0) (m := 0) (call _ le_rfl)
      · exact refl r

theorem applyWriteReport (r : GenerationRound W κ) (report : WriterReport) (now : MonoTime) :
    Reads 0 r (r.applyWriteReport report now) := by
  unfold GenerationRound.applyWriteReport
  split
  · exact call r le_rfl
  · exact call r le_rfl

theorem applyEvent (r : GenerationRound W κ) (event : Option IoEvent) (now : MonoTime) :
    Reads 1 r (r.applyEvent event now) := by
  unfold GenerationRound.applyEvent
  split
  · split
    · exact call r (Nat.zero_le 1)
    · exact call r le_rfl
  · exact (refl r).trans (n := 1) (m := 0) (applyWriteReport r _ now)
  · exact call r (Nat.zero_le 1)
  · exact (call r (Nat.zero_le 1)).trans (n := 1) (m := 0) (call _ le_rfl)
  · exact call r (Nat.zero_le 1)

theorem sampleCapacity (r : GenerationRound W κ) (capacity : Option (ℕ × ℕ)) :
    Reads 0 r (r.sampleCapacity capacity) := by
  unfold GenerationRound.sampleCapacity
  split
  · exact call r le_rfl
  · exact refl r

/-- The round of a timer. -/
theorem applyTimer (r : GenerationRound W κ) (capacity : Option (ℕ × ℕ)) (readings : Readings) :
    Reads 0 r (r.applyRound .timer capacity readings) :=
  ((sampleCapacity r capacity).trans (m := 0) (call _ le_rfl)).trans (m := 0)
  (advanceShutdown _ _ _)

theorem applyRound (r : GenerationRound W κ) (input : RoundInput) (capacity : Option (ℕ × ℕ))
    (readings : Readings) : Reads 1 r (r.applyRound input capacity readings) := by
  have hsampled := sampleCapacity r capacity
  cases input with
  | shutdown => exact hsampled.trans (m := 1) ((refl _).trans (n := 1) (m := 0)
      (advanceShutdown _ _ _))
  | io event => exact (hsampled.trans (m := 0) (note _ _ _)).trans (m := 1) (applyEvent _ _ _)
  | timer => exact (refl r).trans (n := 1) (m := 0) (applyTimer r capacity readings)
  | command => exact (hsampled.trans (m := 0) (note _ _ _)).trans (m := 1) (call _ (Nat.zero_le 1))

theorem step (r : GenerationRound W κ) (polls : Polls) (capacity : Option (ℕ × ℕ))
    (readings : Readings) :
    Reads 1 r (r.step polls capacity readings) := by
  unfold GenerationRound.step
  split
  · exact refl r
  · split
    · exact refl r
    · exact applyRound r _ capacity readings

theorem processReadyPriority (r : GenerationRound W κ) (terminal : Option IoEvent)
    (first second : Readings) : Reads 1 r (r.processReadyPriority terminal first second) := by
  have htimer {r r' : GenerationRound W κ} (h : Reads 1 r r') :
      Reads 1 r (r'.applyRound .timer none second) := h.trans (m := 0) (applyTimer r' none second)
  unfold GenerationRound.processReadyPriority
  split
  · exact refl r
  · dsimp only
    cases terminal with
    | some event =>
      dsimp only
      split
      · exact applyRound r _ none first
      · exact htimer (applyRound r _ none first)
    | none =>
      dsimp only
      split
      · exact refl r
      · exact htimer (refl r)

theorem cleanUp (r : GenerationRound W κ) (reason : GenerationCloseReason) (now : MonoTime)
    (cleanup : Cleanup) : Reads 0 r (r.cleanUp reason now cleanup) := by
  have hsettled (r : GenerationRound W κ) (settled : List (WriterReport × MonoTime)) :
      Reads 0 r (settled.foldl (fun r settled => r.applyWriteReport settled.1 settled.2) r) := by
    induction settled generalizing r with
    | nil => exact refl r
    | cons report settled ih => exact (applyWriteReport r report.1 report.2).trans (m := 0) (ih _)
  have hclosed : Reads 0 r (r.forceClose reason now) := call r le_rfl
  unfold GenerationRound.cleanUp
  dsimp only
  split
  · exact (hclosed.trans (m := 0) (hsettled _ _)).trans (m := 0) (call _ le_rfl)
  · exact hclosed.trans (m := 0) (hsettled _ _)

end Reads

end GenerationRound

/-! ## Steps -/

/-- **What a generation has made of what its Core has delivered.**  It is the account of its
Driver, whose generation is that of the runtime. -/
structure Supplied (past : List (DriverEffect (RuntimeCompletion κ))) (g : GenerationRuntime W κ) :
    Prop where
  booked : g.Booked
  fed : ∃ read, Fed read past g.driver
  generation : g.driver.generation = g.generation

section

variable [WriterIngress W] {calls : DriverInput (RuntimeCompletion κ) → Prop}
  {reads : MonoTime → Prop}
  {g g' : GenerationRuntime W κ} {past effects : List (DriverEffect (RuntimeCompletion κ))}

theorem Supplied.call (h : Supplied past g) (input : DriverInput (RuntimeCompletion κ)) :
    Supplied (past ++ (machine.step g.driver input).2) { g with driver :=
      (machine.step g.driver input).1 } := by
  obtain ⟨read, hfed⟩ := h.fed
  exact ⟨Hsms.Booked.call h.booked input, ⟨_, hfed.call h.booked input⟩,
    (Prod.mk.inj (Fed.minter_step g.driver input)).2.trans h.generation⟩

theorem Supplied.drain (h : Supplied past g) :
    Supplied past { g with driver := { g.driver with shutdownDraining := true } } := by
  obtain ⟨read, hfed⟩ := h.fed
  exact ⟨Booked.steps h.booked (.single .drain), ⟨read, hfed.queued, hfed.order⟩, h.generation⟩

theorem GenerationStep.supplied (h : GenerationStep calls reads g effects g')
    (hsupplied : Supplied past g) :
    Supplied (past ++ effects) g' := by
  cases h with
  | call input _ _ => exact hsupplied.call input
  | prefer _ => rw [List.append_nil]; exact ⟨hsupplied.booked, hsupplied.fed, hsupplied.generation⟩
  | begin _ _ _ _ =>
    rw [List.append_nil]
    exact ⟨hsupplied.drain.booked, hsupplied.drain.fed, hsupplied.generation⟩
  | giveUp _ => rw [List.append_nil]; exact hsupplied.drain
  | @finalize drain _ logical _ _ _ _ =>
    have hcalled := hsupplied.call (.finishShutdownDrain drain.reason logical)
    exact ⟨hcalled.booked, hcalled.fed, hcalled.generation⟩

theorem GenerationStep.adds (h : GenerationStep calls reads g effects g') (hbooked : g.Booked)
    (hcalls : ¬ calls .takeInbound) : Adds g.driver g'.driver effects := by
  cases h with
  | call input called _ =>
    refine SessionDriver.adds_step hbooked ?_
    rintro rfl
    exact called.elim (fun hown => nomatch hown) hcalls
  | prefer _ | begin _ _ _ _ | giveUp _ => exact .refl rfl rfl
  | finalize _ _ _ _ _ _ => exact SessionDriver.adds_step hbooked nofun

namespace GenerationRound

variable {r : GenerationRound W κ}

theorem Proceeds.supplied (h : Proceeds calls reads (.start g) r) (hsupplied : Supplied past g) :
    Supplied (past ++ r.effects) r.runtime := by
  obtain ⟨effects, heffects, hsteps⟩ := h
  rw [show r.effects = effects from heffects]
  exact hsteps.accumulates (fun past _ _ _ hI hstep => hstep.supplied hI) hsupplied

theorem Proceeds.adds (h : Proceeds calls reads (.start g) r) (hbooked : g.Booked)
    (hcalls : ¬ calls .takeInbound) :
    Adds g.driver r.runtime.driver r.effects := by
  obtain ⟨effects, heffects, hsteps⟩ := h
  rw [show r.effects = effects from heffects]
  have hrun := hsteps.accumulates_nil (I := fun past reached => reached.Booked ∧
      Adds g.driver reached.driver past)
    (fun past reached effects next hI hstep =>
      ⟨hstep.booked hI.1, hI.2.trans (hstep.adds hI.1 hcalls)⟩) ⟨hbooked, .refl rfl rfl⟩
  exact hrun.2

end GenerationRound

omit [WriterIngress W] in
/-- Where Core has delivered nothing, nothing has been queued. -/
theorem Supplied.nothing (h : Supplied past g) (hnone : deliveredIn past = []) :
    takenIn past = [] ∧ g.driver.inbound = [] := by
  obtain ⟨_, ⟨kept, lost, hsplit, hkept, -⟩, -⟩ := h.fed
  rw [hnone] at hsplit
  rw [(List.append_eq_nil_iff.mp hsplit.symm).1] at hkept
  exact List.append_eq_nil_iff.mp hkept.symm

/-- A new generation has queued nothing. -/
theorem supplied_fromStream {launched : Except ConfigError W} {generation : ConnectionGeneration}
    {tokenOwner : ℕ}
    {config : EndpointConfig} {now : MonoTime} {r : GenerationRound W κ}
    (h : GenerationRuntime.fromStream launched generation tokenOwner config now = .ok r) :
    Supplied r.effects r.runtime ∧ deliveredIn r.effects = [] := by
  have hcall {r : GenerationRound W κ} (h : Supplied r.effects r.runtime ∧
      deliveredIn r.effects = [])
      (input : DriverInput (RuntimeCompletion κ)) (htakes : input ≠ .takeInbound)
      (hreads : input.reads = 0) :
      Supplied (r.call input).effects (r.call input).runtime ∧
        deliveredIn (r.call input).effects = [] := by
    refine ⟨h.1.call input, ?_⟩
    have hadds := (SessionDriver.adds_step h.1.booked htakes).delivered
    have hnone := messages_step r.runtime.driver input
    show deliveredIn (r.effects ++ (machine.step r.runtime.driver input).2) = []
    rw [deliveredIn_append, h.2, List.nil_append]
    exact List.length_eq_zero_iff.mp (by omega)
  unfold GenerationRuntime.fromStream at h
  split at h
  · cases h
  · split at h
    · cases h
    · unfold GenerationRuntime.fromTransport at h
      split at h
      · cases h
      · next driver hdriver =>
        have hdriver := SessionDriver.fromConfig_eq hdriver
        have hfresh : Supplied ([] : List (DriverEffect (RuntimeCompletion κ)))
            ⟨generation, driver, false, config.runtime, none⟩ := by
          rw [hdriver]
          exact ⟨Hsms.Booked.initial _ _ _ _ _ _ _, ⟨[], ⟨[], [], rfl, rfl, Nat.zero_le 1,
            fun hsome => absurd rfl hsome⟩, .slnil⟩, rfl⟩
        have hconnected := hcall (r := .start ⟨generation, driver, false, config.runtime, none⟩)
            ⟨hfresh, rfl⟩
          (.connected .zero) nofun rfl
        dsimp only at h
        split at h
        · have hselects := hcall hconnected (.acceptControl .select .internal) nofun rfl
          split at h
          · rw [← Except.ok.inj h]
            exact hcall hselects _ nofun rfl
          · rw [← Except.ok.inj h]
            exact hselects
        · rw [← Except.ok.inj h]
          exact hconnected

end

end Hsms
end SecsRust

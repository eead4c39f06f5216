import SecsRust.Hsms.Supervisor.Slot

/-!
# Replacing a connection

At any time an endpoint has at most one connection generation, and a generation that has
ended is replaced only when nothing of it is left.  That is a statement about the whole life
of a supervisor, and about whatever the network, the construction of a generation and its
cleanup answer.

The proof does not look at whole lives.  The supervisor refines the connection slot of
`Supervisor.Slot`: its state is a slot (`ConnectionSupervisor.slot`), its effects are events
of the slot (`SupervisorEffect.slotEvent`) or nothing to it, and each of its operations is
one step of the slot (`slotStep_perform`).  The lemmas before it go through the operations
in the order of the source.  Most say nothing to the slot, some report an exit, and only the
end of `connect` creates a generation.  By induction every run is a history of the slot
(`slotTrace`), and everything about histories is known already.

## The listener

One part of the statement is not about the slot.  While a generation owns the slot, no
source may listen, since a second peer would then be accepted.  `Closed` is this invariant,
and the operations keep it for two reasons: those that keep the source fill no free slot,
and `connect`, which fills one, does so with a candidate, and a source that has handed one
out does not listen.

`one_clean_generation` puts both together, for every run from a new supervisor.
-/

namespace SecsRust
namespace Hsms

universe u v

/-! ## The slot of a supervisor -/

/-- What an effect is to the slot. -/
def SupervisorEffect.slotEvent {κ : Type v} : SupervisorEffect κ → Option SlotEvent
  | prepared => some .prepared
  | exhausted => some .exhausted
  | launched generation created => some (.launched generation created)
  | exited exit => some (.exited exit)
  | _ => none

/-- The history of the slot. -/
def slotEvents {κ : Type v} (past : List (SupervisorEffect κ)) : List SlotEvent :=
  past.filterMap SupervisorEffect.slotEvent

variable {W : Type u} {κ : Type v}

/-- The slot that a supervisor owns. -/
def ConnectionSupervisor.slot (s : ConnectionSupervisor W κ) : Slot where
  holder := s.current.map GenerationRuntime.generation
  shut := s.faulted || !s.running
  next := s.nextGeneration

theorem mem_slotEvents {past : List (SupervisorEffect κ)} {effect : SupervisorEffect κ}
    {event : SlotEvent} (h : effect ∈ past) (hevent : effect.slotEvent = some event) :
    event ∈ slotEvents past :=
  List.mem_filterMap.mpr ⟨effect, h, hevent⟩

/-- Only an exit is an exit to the slot. -/
theorem exited_mem_of_mem_slotEvents {past : List (SupervisorEffect κ)} {exit : SessionExit}
    (h : .exited exit ∈ slotEvents past) : .exited exit ∈ past := by
  obtain ⟨effect, hmem, hevent⟩ := List.mem_filterMap.mp h
  cases effect with
  | exited other =>
    obtain rfl := SlotEvent.exited.inj (Option.some.inj hevent)
    exact hmem
  | _ => cases hevent

theorem launched_mem_of_mem_slotEvents {past : List (SupervisorEffect κ)}
    {generation : ConnectionGeneration} {created : Bool}
    (h : .launched generation created ∈ slotEvents past) : .launched generation created ∈ past := by
  obtain ⟨effect, hmem, hevent⟩ := List.mem_filterMap.mp h
  cases effect with
  | launched other made =>
    obtain ⟨rfl, rfl⟩ := SlotEvent.launched.inj (Option.some.inj hevent)
    exact hmem
  | _ => cases hevent

theorem slotEvents_append (past effects : List (SupervisorEffect κ)) :
    slotEvents (past ++ effects) = slotEvents past ++ slotEvents effects :=
  List.filterMap_append

namespace ConnectionSupervisor

/-- The rounds of a generation are nothing to the slot. -/
@[simp] theorem slotEvents_driverEffects (r : GenerationRound W κ) :
    slotEvents (driverEffects r) = [] := by
  refine List.filterMap_eq_nil_iff.mpr fun effect h => ?_
  obtain ⟨inner, -, rfl⟩ := List.mem_map.mp h
  rfl

/-- A round of the generation leaves the slot with the generation that it has. -/
theorem slotStep_round {s s' : ConnectionSupervisor W κ} {effects : List (SupervisorEffect κ)}
    {runtime runtime' : GenerationRuntime W κ} (hcurrent : s.current = some runtime)
    (hcurrent' : s'.current = some runtime')
    (hgeneration : runtime'.generation = runtime.generation)
    (heffects : slotEvents effects = []) (hshut : s.slot.shut = true → s'.slot.shut = true)
    (hnext : s'.nextGeneration = s.nextGeneration) :
    SlotStep s.slot (slotEvents effects) s'.slot := by
  have hslot : s'.slot = { s.slot with shut := s'.slot.shut } := by
    unfold slot
    rw [hcurrent, hcurrent', hnext, Option.map_some, Option.map_some, hgeneration]
  rw [heffects, hslot]
  exact .quiet hshut

/-- An operation that says nothing to the slot. -/
theorem slotStep_quiet {s s' : ConnectionSupervisor W κ} {effects : List (SupervisorEffect κ)}
    (hcurrent : s'.current = s.current) (heffects : slotEvents effects = [])
    (hshut : s.slot.shut = true → s'.slot.shut = true)
    (hnext : s'.nextGeneration = s.nextGeneration) :
    SlotStep s.slot (slotEvents effects) s'.slot := by
  have hslot : s'.slot = { s.slot with shut := s'.slot.shut } := by
    unfold slot
    rw [hcurrent, hnext]
  rw [heffects, hslot]
  exact .quiet hshut

/-- The report of an exit is all that its operation says to the slot. -/
theorem slotEvents_exit (r : GenerationRound W κ) (exit : SessionExit)
    {returned : SupervisorEffect κ}
    (h : returned.slotEvent = none) :
    slotEvents (driverEffects r ++ [.exited exit, returned]) = [.exited exit] := by
  have hreturned : slotEvents [.exited exit, returned] = [.exited exit] := by
    unfold slotEvents
    rw [List.filterMap_cons, List.filterMap_cons, h]
    rfl
  rw [slotEvents_append, slotEvents_driverEffects, hreturned, List.nil_append]

theorem slotStep_start (s : ConnectionSupervisor W κ) (validated now : MonoTime)
    (bound : Option (Except IoError SocketAddr)) :
    SlotStep s.slot (slotEvents (s.start validated now bound).2)
      (s.start validated now bound).1.slot := by
  unfold start
  split
  · exact slotStep_quiet rfl rfl id rfl
  · next hfaulted =>
    split
    · exact slotStep_quiet rfl rfl id rfl
    · split
      · exact slotStep_quiet rfl rfl id rfl
      · next hcurrent =>
        split
        · exact slotStep_quiet rfl rfl id rfl
        · exact slotStep_quiet rfl rfl id rfl
        · next source hsource =>
          have hnone : s.current = none := Option.not_isSome_iff_eq_none.mp hcurrent
          have hfree : s.slot.holder = none := by
            unfold slot
            rw [hnone, Option.map_none]
          have hopen : s.faulted = false := Bool.eq_false_iff.mpr hfaulted
          have hslot : ({ s with source := some source, running := true } :
              ConnectionSupervisor W κ).slot =
              { s.slot with shut := false } := by
            unfold slot
            rw [hopen]
            rfl
          rw [hslot]
          exact .prepared hfree

variable [WriterIngress W]

/-- A generation is made under the identity that it is given. -/
theorem fromStream_generation {launched : Except ConfigError W} {generation : ConnectionGeneration}
    {tokenOwner : ℕ} {config : EndpointConfig} {now : MonoTime} {r : GenerationRound W κ}
    (h : GenerationRuntime.fromStream launched generation tokenOwner config now = .ok r) :
    r.runtime.generation = generation := by
  unfold GenerationRuntime.fromStream at h
  split at h
  · cases h
  · split at h
    · cases h
    · unfold GenerationRuntime.fromTransport at h
      split at h
      · cases h
      · dsimp only at h
        split at h
        · split at h
          · obtain rfl := Except.ok.inj h
            rfl
          · obtain rfl := Except.ok.inj h
            rfl
        · obtain rfl := Except.ok.inj h
          rfl

/-! ## One operation -/

/-- The end of `connect` hands out the next identity. -/
theorem slotStep_launch {s : ConnectionSupervisor W κ} {id : UInt64} (hcurrent : s.current = none)
    (hfaulted : s.faulted = false) (hrunning : s.running = true)
    (hnext : s.nextGeneration = some id)
    (launched : Except ConfigError W) (tokenOwner : ℕ) (now : MonoTime) :
    SlotStep s.slot (slotEvents (s.launch id launched tokenOwner now).2)
      (s.launch id launched tokenOwner now).1.slot := by
  have hfree : s.slot.holder = none := by
    unfold slot
    rw [hcurrent, Option.map_none]
  have hopen : s.slot.shut = false := by
    unfold slot
    rw [hfaulted, hrunning]
    rfl
  unfold launch
  dsimp only
  split
  · next r hr =>
    have hevents : slotEvents (.launched ⟨id⟩ true :: driverEffects r ++ [.connected (.ok true)]) =
        [.launched ⟨id⟩ true] := by
      rw [List.cons_append, ← List.singleton_append, slotEvents_append, slotEvents_append,
        slotEvents_driverEffects]
      rfl
    have hslot : ({ s with nextGeneration := u64CheckedSucc id, current := some r.runtime } :
        ConnectionSupervisor W κ).slot = ⟨some ⟨id⟩, false, u64CheckedSucc id⟩ := by
      unfold slot
      rw [Option.map_some, fromStream_generation hr, hfaulted, hrunning]
      rfl
    rw [hevents, hslot]
    exact .created hfree hopen hnext
  · next error hr =>
    have hslot : ({ s with nextGeneration := u64CheckedSucc id, faulted := true, source := none } :
        ConnectionSupervisor W κ).slot = ⟨none, true, u64CheckedSucc id⟩ := by
      unfold slot
      rw [hcurrent]
      rfl
    rw [hslot]
    exact .failed hfree hopen hnext

theorem slotStep_connect (s : ConnectionSupervisor W κ) (attempt : Attempt)
    (launched : Except ConfigError W) (tokenOwner : ℕ) (now : MonoTime) :
    SlotStep s.slot (slotEvents (s.connect attempt launched tokenOwner now).2)
      (s.connect attempt launched tokenOwner now).1.slot := by
  unfold connect
  split
  · exact slotStep_quiet rfl rfl id rfl
  · next hfaulted =>
    split
    · exact slotStep_quiet rfl rfl id rfl
    · next hstopped =>
      split
      · exact slotStep_quiet rfl rfl id rfl
      · next hcurrent =>
        have hfaulted : s.faulted = false := Bool.eq_false_iff.mpr hfaulted
        have hrunning : s.running = true := by simpa using hstopped
        have hcurrent : s.current = none := Option.not_isSome_iff_eq_none.mp hcurrent
        split
        · next hnext => exact .exhausted hnext
        · next id hnext =>
          split
          · exact slotStep_quiet rfl rfl (fun h => h) rfl
          · next source hsource =>
            dsimp only
            split
            · exact slotStep_quiet rfl rfl (fun h => h) rfl
            · exact slotStep_quiet rfl rfl (fun h => h) rfl
            · exact slotStep_quiet rfl rfl (fun h => h) rfl
            · exact slotStep_launch (s := { s with source := some (source.next attempt).2 })
                hcurrent
                hfaulted hrunning hnext launched tokenOwner now

theorem slotStep_stepCurrent (s : ConnectionSupervisor W κ) (polls : Polls)
    (capacity : Option (ℕ × ℕ))
    (readings : Readings) (closing logical : MonoTime) :
    SlotStep s.slot (slotEvents (s.stepCurrent polls capacity readings closing logical).2)
      (s.stepCurrent polls capacity readings closing logical).1.slot := by
  unfold stepCurrent
  split
  · exact slotStep_quiet rfl rfl id rfl
  · next runtime hcurrent =>
    dsimp only
    split
    · refine slotStep_round hcurrent rfl
        (GenerationRound.Drives.step _ polls capacity readings).generation
        ?_ id rfl
      rw [slotEvents_append, slotEvents_driverEffects]
      rfl
    · refine slotStep_round hcurrent rfl
        (GenerationRound.Drives.beginGracefulClose _ _ closing logical).generation ?_ id rfl
      rw [slotEvents_append, slotEvents_driverEffects]
      rfl
    · exact slotStep_quiet rfl rfl id rfl

theorem slotStep_beginStop (s : ConnectionSupervisor W κ) (now logical : MonoTime) :
    SlotStep s.slot (slotEvents (s.beginStop now logical).2) (s.beginStop now logical).1.slot := by
  unfold beginStop
  dsimp only
  split
  · next runtime hcurrent =>
    exact slotStep_round hcurrent rfl
      (GenerationRound.Drives.beginGracefulClose _ _ now logical).generation
      (slotEvents_driverEffects _) (fun _ => Bool.or_true _) rfl
  · exact slotStep_quiet rfl rfl (fun _ => rfl) rfl

theorem slotStep_beginDisconnect (s : ConnectionSupervisor W κ) (now logical : MonoTime) :
    SlotStep s.slot (slotEvents (s.beginDisconnect now logical).2)
      (s.beginDisconnect now logical).1.slot := by
  unfold beginDisconnect
  split
  · next runtime hcurrent =>
    exact slotStep_round hcurrent rfl
      (GenerationRound.Drives.beginGracefulClose _ _ now logical).generation
      (slotEvents_driverEffects _) id rfl
  · exact slotStep_quiet rfl rfl id rfl

theorem slotStep_recoverStopped (s : ConnectionSupervisor W κ) (now : MonoTime)
    (cleanup : Cleanup) :
    SlotStep s.slot (slotEvents (s.recoverStopped now cleanup).2)
      (s.recoverStopped now cleanup).1.slot := by
  unfold recoverStopped
  split
  · exact slotStep_quiet rfl rfl id rfl
  · next hstopped =>
    have hstopped : s.running = false := Bool.eq_false_iff.mpr hstopped
    have hshut (faulted : Bool) : (faulted || !s.running) = true := by
      rw [hstopped]
      exact Bool.or_true _
    split
    · exact slotStep_quiet rfl rfl (fun _ => hshut false) rfl
    · next runtime hcurrent =>
      split
      · exact slotStep_quiet rfl rfl id rfl
      · have hround := (GenerationRound.Drives.cleanUp (GenerationRound.start runtime)
          (runtime.driver.closeReason.getD .runtimeInvariant) now cleanup).generation
        dsimp only
        split
        · exact slotStep_round hcurrent rfl hround (slotEvents_driverEffects _) id rfl
        · next exit hexit =>
          have hgeneration := (GenerationRound.recoverCleanup_exit hexit).1
          have hholder : s.slot.holder = some exit.generation := by
            unfold slot
            rw [hcurrent, hgeneration]
            rfl
          split
          · next hclean =>
            have hslot : ({ s with current := none, faulted := false } :
                ConnectionSupervisor W κ).slot =
                { s.slot with holder := none, shut := true } := by
              unfold slot
              rw [hshut false]
              rfl
            rw [slotEvents_exit _ exit rfl]
            exact hslot ▸ .clean hholder hclean (fun _ => rfl) (fun _ => rfl)
          · next hpoisoned =>
            have hslot : ({ s with
                current :=
                  some ((GenerationRound.start runtime).recoverCleanup now cleanup).1.runtime,
                faulted := true } : ConnectionSupervisor W κ).slot =
                { s.slot with shut := true } := by
              unfold slot
              rw [hcurrent, Option.map_some, Option.map_some]
              exact congrArg (fun generation => (⟨some generation, true, s.nextGeneration⟩ :
                Slot)) hround
            rw [slotEvents_exit _ exit rfl]
            exact hslot ▸ .poisoned hholder hpoisoned

theorem slotStep_finishGeneration (s : ConnectionSupervisor W κ) (now : MonoTime)
    (cleanup : Cleanup) :
    SlotStep s.slot (slotEvents (s.finishGeneration now cleanup).2)
      (s.finishGeneration now cleanup).1.slot := by
  unfold finishGeneration
  split
  · exact slotStep_quiet rfl rfl id rfl
  · next runtime hcurrent =>
    split
    · exact slotStep_quiet rfl rfl id rfl
    · have hround := (GenerationRound.Drives.cleanUp (GenerationRound.start runtime)
        ((runtime.driver.closeReason <|> runtime.shutdown.map ShutdownDrain.reason).getD
          .runtimeInvariant) now cleanup).generation
      dsimp only
      split
      · exact slotStep_round hcurrent rfl hround (slotEvents_driverEffects _) id rfl
      · next exit hexit =>
        have hgeneration := (GenerationRound.close_exit hexit).1
        have hholder : s.slot.holder = some exit.generation := by
          unfold slot
          rw [hcurrent, hgeneration]
          rfl
        split
        · next hpoisoned =>
          have hslot : ({ s with
              current := some ((GenerationRound.start runtime).finish now cleanup).1.runtime,
              faulted := true, source := none } : ConnectionSupervisor W κ).slot =
              { s.slot with shut := true } := by
            unfold slot
            rw [hcurrent, Option.map_some, Option.map_some]
            exact congrArg (fun generation => (⟨some generation, true, s.nextGeneration⟩ :
              Slot)) hround
          rw [slotEvents_exit _ exit rfl]
          exact hslot ▸ .poisoned hholder hpoisoned
        · next hclean =>
          have hclean : exit.cleanup = .clean := not_not.mp hclean
          split
          · next hstopped =>
            have hslot : ({ s with current := none, faulted := false } :
                ConnectionSupervisor W κ).slot =
                { s.slot with holder := none, shut := true } := by
              unfold slot
              rw [hstopped]
              rfl
            rw [slotEvents_exit _ exit rfl]
            exact hslot ▸ .clean hholder hclean (fun _ => rfl) (fun _ => rfl)
          · split
            · rw [slotEvents_exit _ exit rfl]
              exact .clean hholder hclean (fun _ => rfl) (fun _ => rfl)
            · next hreason =>
              rw [slotEvents_exit _ exit rfl]
              refine .clean hholder hclean id fun h => ?_
              rw [h] at hreason
              exact absurd rfl hreason

theorem slotStep_turnCurrent (s : ConnectionSupervisor W κ) (turn : GenerationTurn κ) :
    SlotStep s.slot (slotEvents (s.turnCurrent turn).2) (s.turnCurrent turn).1.slot := by
  unfold turnCurrent
  split
  · exact slotStep_quiet rfl rfl id rfl
  · next runtime hcurrent =>
    refine slotStep_round hcurrent rfl ?_ (slotEvents_driverEffects _) id rfl
    cases turn with
    | driver input => exact (GenerationRound.Drives.call _ input).generation
    | forceClose reason now => exact (GenerationRound.Drives.call _ _).generation
    | processReadyPriority terminal first second =>
      exact (GenerationRound.Drives.processReadyPriority _ terminal first second).generation

/-- **Every operation of the supervisor is one step of its slot.** -/
theorem slotStep_perform (s : ConnectionSupervisor W κ) (input : SupervisorInput W κ) :
    SlotStep s.slot (slotEvents (s.perform input).2) (s.perform input).1.slot := by
  cases input with
  | start validated now bound => exact slotStep_start s validated now bound
  | connect attempt launched tokenOwner now =>
    exact slotStep_connect s attempt launched tokenOwner now
  | stepCurrent polls capacity readings closing logical =>
    exact slotStep_stepCurrent s polls capacity readings closing logical
  | beginStop now logical => exact slotStep_beginStop s now logical
  | beginDisconnect now logical => exact slotStep_beginDisconnect s now logical
  | finishGeneration now cleanup => exact slotStep_finishGeneration s now cleanup
  | recoverStopped now cleanup => exact slotStep_recoverStopped s now cleanup
  | faultSource => exact slotStep_quiet rfl rfl (fun _ => rfl) rfl
  | turn turn => exact slotStep_turnCurrent s turn

/-- Every run of the supervisor is a history of its slot. -/
theorem slotTrace (config : EndpointConfig) (inputs : List (SupervisorInput W κ)) :
    SlotTrace (slotEvents (machine.history (stopped config) inputs))
      (machine.after (stopped (W := W) (κ := κ) config) inputs).slot := by
  have hnew : SlotTrace (slotEvents ([] : List (SupervisorEffect κ)))
      (stopped (W := W) (κ := κ) config).slot := .new
  refine Machine.invariant_history
    (I := fun past s => SlotTrace (slotEvents past) (ConnectionSupervisor.slot s)) ?_ hnew inputs
  intro past s input h
  rw [slotEvents_append]
  exact h.step (slotStep_perform s input)

/-! ## The listener -/

/-- While a generation owns the slot, no source listens. -/
def Closed (s : ConnectionSupervisor W κ) : Prop :=
  s.current ≠ none → ∀ source, s.source = some source → source.isListening = false

omit [WriterIngress W] in
/-- An operation that keeps the source and fills no free slot. -/
theorem Closed.of_source {s s' : ConnectionSupervisor W κ} (h : s.Closed)
    (hsource : s'.source = s.source)
    (hcurrent : s'.current ≠ none → s.current ≠ none) : s'.Closed := by
  intro hsome source hmem
  rw [hsource] at hmem
  exact h (hcurrent hsome) source hmem

omit [WriterIngress W] in
theorem Closed.of_none {s : ConnectionSupervisor W κ} (h : s.source = none) : s.Closed := by
  intro _ source hsource
  rw [h] at hsource
  cases hsource

omit [WriterIngress W] in
theorem Closed.of_free {s : ConnectionSupervisor W κ} (h : s.current = none) : s.Closed :=
  fun hsome => absurd h hsome

theorem closed_connect {s : ConnectionSupervisor W κ} (h : s.Closed) (attempt : Attempt)
    (launched : Except ConfigError W) (tokenOwner : ℕ) (now : MonoTime) :
    (s.connect attempt launched tokenOwner now).1.Closed := by
  unfold connect
  split
  · exact h
  · split
    · exact h
    · split
      · exact h
      · next hcurrent =>
        have hfree : s.current = none := Option.not_isSome_iff_eq_none.mp hcurrent
        split
        · exact .of_none rfl
        · split
          · exact h
          · next id hnext source hsource =>
            dsimp only
            split
            · exact .of_free hfree
            · exact .of_free hfree
            · exact .of_free hfree
            · next hcandidate =>
              unfold launch
              dsimp only
              split
              · intro _ after hafter
                have hnext : source.next attempt = (some (.ok true), (source.next attempt).2) :=
                  Prod.ext hcandidate rfl
                rw [← Option.some.inj hafter]
                exact ConnectionSource.isListening_of_next hnext
              · exact .of_none rfl

theorem closed_finishGeneration {s : ConnectionSupervisor W κ} (h : s.Closed) (now : MonoTime)
    (cleanup : Cleanup) : (s.finishGeneration now cleanup).1.Closed := by
  unfold finishGeneration
  split
  · exact h
  · next runtime hcurrent =>
    have hsome : s.current ≠ none := by simp [hcurrent]
    split
    · exact h
    · dsimp only
      split
      · exact h.of_source rfl fun _ => hsome
      · split
        · exact .of_none rfl
        · split
          · exact .of_free rfl
          · split
            · exact .of_none rfl
            · exact .of_free rfl

theorem closed_recoverStopped {s : ConnectionSupervisor W κ} (h : s.Closed) (now : MonoTime)
    (cleanup : Cleanup) : (s.recoverStopped now cleanup).1.Closed := by
  unfold recoverStopped
  split
  · exact h
  · split
    · next hfree => exact .of_free hfree
    · next runtime hcurrent =>
      have hsome : s.current ≠ none := by simp [hcurrent]
      split
      · exact h
      · dsimp only
        split
        · exact h.of_source rfl fun _ => hsome
        · split
          · exact .of_free rfl
          · exact h.of_source rfl fun _ => hsome

/-- **No operation makes a source listen beside a generation.** -/
theorem closed_perform {s : ConnectionSupervisor W κ} (h : s.Closed) (input : SupervisorInput W κ) :
    (s.perform input).1.Closed := by
  cases input with
  | start validated now bound =>
    unfold perform start
    dsimp only
    split
    · exact h
    · split
      · exact h
      · split
        · exact h
        · next hcurrent =>
          have hfree : s.current = none := Option.not_isSome_iff_eq_none.mp hcurrent
          split
          · exact h
          · exact h
          · exact .of_free hfree
  | connect attempt launched tokenOwner now =>
    exact closed_connect h attempt launched tokenOwner now
  | stepCurrent polls capacity readings closing logical =>
    unfold perform stepCurrent
    dsimp only
    split
    · exact h
    · next runtime hcurrent =>
      have hsome : s.current ≠ none := by simp [hcurrent]
      split
      · exact h.of_source rfl fun _ => hsome
      · exact .of_none rfl
      · exact h
  | beginStop now logical =>
    unfold perform beginStop
    dsimp only
    split <;> exact .of_none rfl
  | beginDisconnect now logical =>
    unfold perform beginDisconnect
    dsimp only
    split
    · next runtime hcurrent => exact h.of_source rfl fun _ => by simp [hcurrent]
    · exact h
  | finishGeneration now cleanup => exact closed_finishGeneration h now cleanup
  | recoverStopped now cleanup => exact closed_recoverStopped h now cleanup
  | faultSource => exact .of_none rfl
  | turn turn =>
    unfold perform turnCurrent
    dsimp only
    split
    · exact h
    · next runtime hcurrent => exact h.of_source rfl fun _ => by simp [hcurrent]

/-! ## Runs -/

/-- What one operation does to the one slot. -/
structure SlotTurn (s s' : ConnectionSupervisor W κ) (effects : List (SupervisorEffect κ)) :
    Prop where
  created : ∀ generation, .launched generation true ∈ effects →
    s.running = true ∧ s.faulted = false ∧ s.current = none
  filled : s.current = none → ∀ runtime, s'.current = some runtime →
    .launched runtime.generation true ∈ effects
  held : ∀ runtime, s.current = some runtime → ∀ runtime', s'.current = some runtime' →
    runtime'.generation = runtime.generation
  emptied : ∀ runtime, s.current = some runtime → s'.current = none →
    ∃ exit, .exited exit ∈ effects ∧ exit.generation = runtime.generation ∧ exit.cleanup = .clean

theorem slotTurn (s : ConnectionSupervisor W κ) (input : SupervisorInput W κ) :
    SlotTurn s (s.perform input).1 (s.perform input).2 := by
  have hstep := slotStep_perform s input
  have hholder (s : ConnectionSupervisor W κ) :
      s.slot.holder = s.current.map GenerationRuntime.generation := rfl
  refine ⟨?_, ?_, ?_, ?_⟩
  · intro generation hmem
    obtain ⟨hfree, hopen⟩ := hstep.of_created (mem_slotEvents hmem rfl)
    obtain ⟨hfaulted, hstopped⟩ := Bool.or_eq_false_iff.mp hopen
    exact ⟨by simpa using hstopped, hfaulted, Option.map_eq_none_iff.mp hfree⟩
  · intro hfree runtime hcurrent
    refine launched_mem_of_mem_slotEvents (hstep.filled ?_ ?_)
    · rw [hholder, hfree, Option.map_none]
    · rw [hholder, hcurrent, Option.map_some]
  · intro runtime hcurrent runtime' hcurrent'
    refine hstep.held ?_ ?_
    · rw [hholder, hcurrent, Option.map_some]
    · rw [hholder, hcurrent', Option.map_some]
  · intro runtime hcurrent hfree
    have hheld : s.slot.holder = some runtime.generation := by
      rw [hholder, hcurrent, Option.map_some]
    have hempty : (s.perform input).1.slot.holder = none := by rw [hholder, hfree, Option.map_none]
    obtain ⟨exit, hmem, hexit⟩ := hstep.emptied hheld hempty
    exact ⟨exit, exited_mem_of_mem_slotEvents hmem, hexit⟩

/-- **One proven-clean generation at a time.**  After every run of the supervisor: the identities
handed to new generations increase strictly, and the last one there is ends them; the next operation
creates a generation only while running, unfaulted and with a free slot, keeps the one in the slot,
and frees the slot only by a clean exit of it; no source listens beside a generation; after a
poisoned exit, a clean one that is not recoverable, a failed construction or the end of the
identities, a new generation waits for a fresh source, and after a poisoned one also for a clean
exit of the same generation before that. -/
theorem one_clean_generation (config : EndpointConfig) (inputs : List (SupervisorInput W κ)) :
    let s := machine.after (stopped (W := W) (κ := κ) config) inputs
    let past := slotEvents (machine.history (stopped (W := W) (κ := κ) config) inputs)
    ((handedOut past).Pairwise (· < ·) ∧
      ∀ earlier later, handedOut past = earlier ++ 0xFFFFFFFFFFFFFFFF :: later → later = []) ∧
    (∀ input, SlotTurn s (s.perform input).1 (s.perform input).2) ∧
    (∀ runtime source, s.current = some runtime → s.source = some source →
      source.isListening = false) ∧
    (∀ earlier event middle generation later,
      past = earlier ++ event :: middle ++ .launched generation true :: later →
      event.Blocks → .prepared ∈ middle) ∧
    ∀ earlier exit middle generation later,
      past = earlier ++ .exited exit :: middle ++ .launched generation true :: later →
      exit.cleanup ≠ .clean →
      ∃ first event second, middle = first ++ event :: second ∧ CleanExit exit.generation event ∧
        .prepared ∈ second := by
  have htrace := slotTrace (W := W) (κ := κ) config inputs
  have hclosed : (machine.after (stopped (W := W) (κ := κ) config) inputs).Closed :=
    Machine.invariant (I := Closed) (fun s input h => closed_perform h input)
      (s := stopped config) (.of_free rfl) inputs
  have hincreasing := htrace.handedOut_increasing.1
  refine ⟨⟨hincreasing, ?_⟩, slotTurn _, ?_, ?_, ?_⟩
  · intro earlier later heq
    rw [heq] at hincreasing
    refine List.eq_nil_iff_forall_not_mem.mpr fun id hid => ?_
    have hlt := List.rel_of_pairwise_cons (List.pairwise_append.mp hincreasing).2.1 hid
    exact absurd (UInt64.lt_iff_toNat_lt.mp hlt) (Nat.not_lt.mpr (Nat.le_pred_of_lt id.toNat_lt))
  · intro runtime source hcurrent hsource
    exact hclosed (by rw [hcurrent]; nofun) source hsource
  · intro earlier event middle generation later heq hblocks
    exact htrace.prepared_between hblocks heq
  · intro earlier exit middle generation later heq hpoisoned
    exact htrace.clean_between hpoisoned heq

end ConnectionSupervisor

end Hsms
end SecsRust

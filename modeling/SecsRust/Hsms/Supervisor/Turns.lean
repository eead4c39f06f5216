import SecsRust.Hsms.Generation.Graceful
import SecsRust.Hsms.Supervisor.Runtime

/-!
# The turns of the supervisor

The endpoint loop sees the Driver of a generation only through its supervisor.  For what it
promises about commands and about messages it has to know what an operation of the
supervisor does to that Driver, and nothing else about the operation.

`SupervisorTurn` is the answer, and there are three cases.  The slot stays as it is; or its
generation goes on by a part of its own run, after which it keeps the slot or leaves it; or
the generation is a new one.  The relation also says which calls of the Driver the part of
the run may contain: those that the endpoint asked for, and those that a drain makes.
`turn_perform` shows it for every operation.

## The intent

The second half is about the running intent and the fault latch.  An endpoint may complete a
`Stop` only when the supervisor is stopped and will stay so, and a stopped supervisor may
still hold a generation. It holds it only while it drains (`Steady`), so nothing new is
accepted on it.  The facts about the single operations say what each of them leaves of the
intent and the latch, and the last section reads off what an operation returns from the
state after it: the loop decides by the returned values, and claims are made about the
states.
-/

namespace SecsRust
namespace Hsms

open SessionDriver

universe u v

variable {W : Type u} {κ : Type v}

/-! ## Generations that drain -/

section

variable [WriterIngress W] {calls : DriverInput (RuntimeCompletion κ) → Prop}
  {reads : MonoTime → Prop}

/-- A close that has begun goes on. -/
theorem SessionDriver.closeReason_isSome {d : SessionDriver W (RuntimeCompletion κ)}
    (h : d.closeReason.isSome = true) (input : DriverInput (RuntimeCompletion κ)) :
    (machine.step d input).1.closeReason.isSome = true := by
  obtain ⟨reason, hreason⟩ := Option.isSome_iff_exists.mp h
  rw [closeReason_call hreason input]
  rfl

theorem GenerationStep.isDraining {g g' : GenerationRuntime W κ}
    {effects : List (DriverEffect (RuntimeCompletion κ))}
    (h : GenerationStep calls reads g effects g') (hdraining : g.isDraining = true) :
    g'.isDraining = true := by
  cases h with
  | call input _ _ =>
    unfold GenerationRuntime.isDraining at hdraining ⊢
    rw [Bool.or_eq_true] at hdraining ⊢
    exact hdraining.imp_right fun hclosing => closeReason_isSome hclosing input
  | prefer _ => exact hdraining
  | begin _ _ _ _ | finalize _ _ _ _ _ _ => rfl
  | giveUp fresh => exact absurd (fresh.symm.trans hdraining) Bool.false_ne_true

theorem GenerationStep.generation {g g' : GenerationRuntime W κ}
    {effects : List (DriverEffect (RuntimeCompletion κ))}
    (h : GenerationStep calls reads g effects g') :
    g'.generation = g.generation := by
  cases h with
  | call _ _ _ | prefer _ | begin _ _ _ _ | giveUp _ | finalize _ _ _ _ _ _ => rfl

namespace GenerationRound

variable {r r' : GenerationRound W κ}

theorem Proceeds.isDraining (h : Proceeds calls reads r r')
    (hdraining : r.runtime.isDraining = true) :
    r'.runtime.isDraining = true := by
  obtain ⟨_, -, hsteps⟩ := h
  exact hsteps.preserves (I := fun g => g.isDraining = true) (fun _ _ _ hI hstep =>
    hstep.isDraining hI) hdraining

theorem Proceeds.generation (h : Proceeds calls reads r r') :
    r'.runtime.generation = r.runtime.generation := by
  obtain ⟨_, -, hsteps⟩ := h
  exact hsteps.preserves (I := fun g => g.generation = r.runtime.generation)
    (fun _ _ _ hI hstep => hstep.generation.trans hI) rfl

/-- After `begin_graceful_close` the generation drains, also where its deadlines overflow. -/
theorem isDraining_beginGracefulClose (r : GenerationRound W κ) (reason : GenerationCloseReason)
    (now logical : MonoTime) :
    (r.beginGracefulClose reason now logical).runtime.isDraining = true := by
  unfold GenerationRound.beginGracefulClose
  split
  · next hdraining => exact hdraining
  · dsimp only
    split
    · rfl
    · unfold GenerationRuntime.isDraining
      rw [Bool.or_eq_true]
      refine Or.inr ?_
      show Option.isSome (Option.map ClosingState.reason _) = true
      rw [Option.isSome_map]
      exact Round.closing_onShutdown _ _

end GenerationRound

end

/-! ## One operation -/

/-- What the Driver of a generation does. -/
def SupervisorEffect.driven : SupervisorEffect κ →
    Option (ConnectionGeneration × DriverEffect (RuntimeCompletion κ))
  | driver generation effect => some (generation, effect)
  | _ => none

/-- What the Drivers have done, in order.  The effects of the slot and of the source are left
out. -/
def drivenIn (past : List (SupervisorEffect κ)) :
    List (ConnectionGeneration × DriverEffect (RuntimeCompletion κ)) :=
  past.filterMap SupervisorEffect.driven

/-- The call of the Driver that the endpoint makes. -/
def SupervisorInput.Calls : SupervisorInput W κ → DriverInput (RuntimeCompletion κ) → Prop
  | .turn (.driver input), called => called = input
  | _, _ => False

/-- The operation calls the Driver past its generation, to begin or end a drain. -/
def SupervisorInput.drains : SupervisorInput W κ → Bool
  | .turn (.driver input) => input.drains
  | _ => false

/-- The operation leaves a generation in the slot. -/
def SupervisorInput.keeps : SupervisorInput W κ → Bool
  | .stepCurrent .. | .beginStop .. | .beginDisconnect .. | .turn _ => true
  | _ => false

/-- **The turn of a supervisor**: the slot stays as it is, its generation goes on and keeps the slot
or gives it up, or a new one gets it. -/
inductive SupervisorTurn [WriterIngress W] (calls : DriverInput (RuntimeCompletion κ) → Prop)
    (s s' : ConnectionSupervisor W κ) :
    List (ConnectionGeneration × DriverEffect (RuntimeCompletion κ)) → Prop where
  | idle (same : s'.current = s.current) : SupervisorTurn calls s s' []
  | serve {g : GenerationRuntime W κ} {r : GenerationRound W κ} (holds : s.current = some g)
      (proceeds : GenerationRound.Proceeds calls (fun _ => True) (.start g) r)
      (next : s'.current = some r.runtime) :
      SupervisorTurn calls s s' (r.effects.map fun effect => (g.generation, effect))
  | release {g : GenerationRuntime W κ} {r : GenerationRound W κ} (holds : s.current = some g)
      (proceeds : GenerationRound.Proceeds calls (fun _ => True) (.start g) r)
      (free : s'.current = none) :
      SupervisorTurn calls s s' (r.effects.map fun effect => (g.generation, effect))
  | launch {r : GenerationRound W κ} {launched : Except ConfigError W} {id : UInt64}
      {tokenOwner : ℕ}
      {now : MonoTime} (free : s.current = none) (running : s.running = true)
      (made : GenerationRuntime.fromStream launched ⟨id⟩ tokenOwner s.config now = .ok r)
      (next : s'.current = some r.runtime) :
      SupervisorTurn calls s s' (r.effects.map fun effect => (r.runtime.generation, effect))

namespace ConnectionSupervisor

theorem drivenIn_driverEffects (r : GenerationRound W κ) :
    drivenIn (driverEffects r) = r.effects.map fun effect => (r.runtime.generation, effect) := by
  unfold drivenIn driverEffects
  rw [List.filterMap_map]
  exact congrFun List.filterMap_eq_map r.effects

theorem drivenIn_append (past effects : List (SupervisorEffect κ)) :
    drivenIn (past ++ effects) = drivenIn past ++ drivenIn effects := List.filterMap_append

variable [WriterIngress W]

/-- The round of the generation in the slot. -/
theorem turn_round {calls : DriverInput (RuntimeCompletion κ) → Prop}
    {s s' : ConnectionSupervisor W κ}
    {g : GenerationRuntime W κ} {r : GenerationRound W κ} (holds : s.current = some g)
    (proceeds : GenerationRound.Proceeds calls (fun _ => True) (.start g) r)
    (next : s'.current = some r.runtime ∨ s'.current = none) :
    SupervisorTurn calls s s' (drivenIn (driverEffects r)) := by
  rw [drivenIn_driverEffects, proceeds.generation]
  rcases next with hnext | hfree
  · exact .serve holds proceeds hnext
  · exact .release holds proceeds hfree

theorem turn_returned {calls : DriverInput (RuntimeCompletion κ) → Prop}
    {s s' : ConnectionSupervisor W κ}
    {effects more : List (SupervisorEffect κ)} (h : SupervisorTurn calls s s' (drivenIn effects))
    (hmore : drivenIn more = []) : SupervisorTurn calls s s' (drivenIn (effects ++ more)) := by
  rw [drivenIn_append, hmore, List.append_nil]
  exact h

/-- The end of `connect`, where only the source has changed before. -/
theorem turn_launch {calls : DriverInput (RuntimeCompletion κ) → Prop}
    {s : ConnectionSupervisor W κ} {id : UInt64}
    (free : s.current = none) (running : s.running = true) (source : Option ConnectionSource)
    (launched : Except ConfigError W) (tokenOwner : ℕ) (now : MonoTime) :
    SupervisorTurn calls s ({ s with source := source }.launch id launched tokenOwner now).1
      (drivenIn ({ s with source := source }.launch id launched tokenOwner now).2) := by
  unfold launch
  dsimp only
  split
  · next r hmade =>
    have heffects : drivenIn (.launched ⟨id⟩ true :: driverEffects r ++ [.connected (.ok true)]) =
        r.effects.map fun effect => (r.runtime.generation, effect) := by
      rw [← drivenIn_driverEffects]
      exact (drivenIn_append (.launched ⟨id⟩ true :: driverEffects r) _).trans (List.append_nil _)
    rw [heffects]
    exact .launch free running hmade rfl
  · exact .idle rfl

/-- **One operation is a turn.**  One case for each operation of the supervisor; what follows
about runs needs no other case distinction. -/
theorem turn_perform (s : ConnectionSupervisor W κ) {input :
    SupervisorInput W κ} (h : input.drains = false) :
    SupervisorTurn input.Calls s (s.perform input).1 (drivenIn (s.perform input).2) := by
  cases input with
  | start validated now bound =>
    show SupervisorTurn _ s (s.start validated now bound).1
        (drivenIn (s.start validated now bound).2)
    unfold start
    repeat' split
    all_goals exact .idle rfl
  | connect attempt launched tokenOwner now =>
    show SupervisorTurn _ s (s.connect attempt launched tokenOwner now).1
      (drivenIn (s.connect attempt launched tokenOwner now).2)
    unfold connect
    split
    · exact .idle rfl
    · split
      · exact .idle rfl
      · next hrunning =>
        split
        · exact .idle rfl
        · next hfree =>
          rw [Bool.not_eq_true, Bool.not_eq_false'] at hrunning
          rw [Option.not_isSome_iff_eq_none] at hfree
          split
          · exact .idle rfl
          · next id _ =>
            split
            · exact .idle rfl
            · next source _ =>
              dsimp only
              split
              · exact .idle rfl
              · exact .idle rfl
              · exact .idle rfl
              · exact turn_launch hfree hrunning _ launched tokenOwner now
  | stepCurrent polls capacity readings closing logical =>
    show SupervisorTurn _ s (s.stepCurrent polls capacity readings closing logical).1
      (drivenIn (s.stepCurrent polls capacity readings closing logical).2)
    unfold stepCurrent
    split
    · exact .idle rfl
    · next g hcurrent =>
      dsimp only
      split
      · exact turn_returned (turn_round hcurrent (.step _ polls capacity trivial) (Or.inl rfl)) rfl
      · exact turn_returned (turn_round hcurrent (.beginGracefulClose _ _ closing logical)
          (Or.inl rfl)) rfl
      · exact .idle rfl
  | beginStop now logical =>
    show SupervisorTurn _ s (s.beginStop now logical).1 (drivenIn (s.beginStop now logical).2)
    unfold beginStop
    dsimp only
    split
    · next g hcurrent =>
      exact turn_round hcurrent (.beginGracefulClose _ _ now logical) (Or.inl rfl)
    · exact .idle rfl
  | beginDisconnect now logical =>
    show SupervisorTurn _ s (s.beginDisconnect now logical).1
      (drivenIn (s.beginDisconnect now logical).2)
    unfold beginDisconnect
    split
    · next g hcurrent =>
      exact turn_round hcurrent (.beginGracefulClose _ _ now logical) (Or.inl rfl)
    · exact .idle rfl
  | finishGeneration now cleanup =>
    show SupervisorTurn _ s (s.finishGeneration now cleanup).1
        (drivenIn (s.finishGeneration now cleanup).2)
    unfold finishGeneration
    split
    · exact .idle rfl
    · next g hcurrent =>
      split
      · exact .idle rfl
      · dsimp only
        split
        · exact turn_round hcurrent (.cleanUp _ _ now cleanup) (Or.inl rfl)
        · split
          · exact turn_returned (turn_round hcurrent (.cleanUp _ _ now cleanup) (Or.inl rfl)) rfl
          · split
            · exact turn_returned (turn_round hcurrent (.cleanUp _ _ now cleanup) (Or.inr rfl)) rfl
            · split
              · exact turn_returned (turn_round hcurrent (.cleanUp _ _ now cleanup)
                  (Or.inr rfl)) rfl
              · exact turn_returned (turn_round hcurrent (.cleanUp _ _ now cleanup)
                  (Or.inr rfl)) rfl
  | recoverStopped now cleanup =>
    show SupervisorTurn _ s (s.recoverStopped now cleanup).1
        (drivenIn (s.recoverStopped now cleanup).2)
    unfold recoverStopped
    split
    · exact .idle rfl
    · split
      · next hfree => exact .idle rfl
      · next g hcurrent =>
        split
        · exact .idle rfl
        · dsimp only
          split
          · exact turn_round hcurrent (.cleanUp _ _ now cleanup) (Or.inl rfl)
          · split
            · exact turn_returned (turn_round hcurrent (.cleanUp _ _ now cleanup) (Or.inr rfl)) rfl
            · exact turn_returned (turn_round hcurrent (.cleanUp _ _ now cleanup) (Or.inl rfl)) rfl
  | faultSource => exact .idle rfl
  | turn turn =>
    show SupervisorTurn _ s (s.turnCurrent turn).1 (drivenIn (s.turnCurrent turn).2)
    unfold turnCurrent
    split
    · exact .idle rfl
    · next g hcurrent =>
      cases turn with
      | driver input => exact turn_round hcurrent (.call _ (Or.inr rfl) h) (Or.inl rfl)
      | forceClose reason now => exact turn_round hcurrent (.call _ (Or.inl rfl) rfl) (Or.inl rfl)
      | processReadyPriority terminal first second =>
        exact turn_round hcurrent (.processReadyPriority _ terminal trivial trivial) (Or.inl rfl)

/-! ## The running intent and the fault latch -/

/-- Only `begin_stop` stops a supervisor that runs. -/
theorem running_perform (s : ConnectionSupervisor W κ) {input : SupervisorInput W κ}
    (h : ∀ now logical, input ≠ .beginStop now logical)
    (hstopped : (s.perform input).1.running = false) :
    s.running = false := by
  have hlaunch (s : ConnectionSupervisor W κ) (id : UInt64) (launched : Except ConfigError W)
      (tokenOwner : ℕ)
      (now : MonoTime) : (s.launch id launched tokenOwner now).1.running = s.running := by
    unfold launch
    dsimp only
    split
    · rfl
    · rfl
  cases input with
  | start validated now bound =>
    have hstopped : (s.start validated now bound).1.running = false := hstopped
    unfold start at hstopped
    repeat' split at hstopped
    all_goals first | exact hstopped | cases hstopped
  | connect attempt launched tokenOwner now =>
    have hstopped : (s.connect attempt launched tokenOwner now).1.running = false := hstopped
    unfold connect at hstopped
    dsimp only at hstopped
    repeat' split at hstopped
    all_goals first | exact hstopped | (rw [hlaunch] at hstopped; exact hstopped)
  | stepCurrent polls capacity readings closing logical =>
    have hstopped : (s.stepCurrent polls capacity readings closing logical).1.running = false :=
      hstopped
    unfold stepCurrent at hstopped
    dsimp only at hstopped
    repeat' split at hstopped
    all_goals exact hstopped
  | beginStop now logical => exact absurd rfl (h now logical)
  | beginDisconnect now logical =>
    have hstopped : (s.beginDisconnect now logical).1.running = false := hstopped
    unfold beginDisconnect at hstopped
    split at hstopped
    · exact hstopped
    · exact hstopped
  | finishGeneration now cleanup =>
    have hstopped : (s.finishGeneration now cleanup).1.running = false := hstopped
    unfold finishGeneration at hstopped
    dsimp only at hstopped
    repeat' split at hstopped
    all_goals exact hstopped
  | recoverStopped now cleanup =>
    have hstopped : (s.recoverStopped now cleanup).1.running = false := hstopped
    unfold recoverStopped at hstopped
    dsimp only at hstopped
    repeat' split at hstopped
    all_goals exact hstopped
  | faultSource => exact hstopped
  | turn turn =>
    have hstopped : (s.turnCurrent turn).1.running = false := hstopped
    unfold turnCurrent at hstopped
    split at hstopped
    · exact hstopped
    · exact hstopped

/-- Only `start` starts a supervisor that is stopped. -/
theorem stopped_perform {s : ConnectionSupervisor W κ} (hstopped : s.running = false)
    (input : SupervisorInput W κ) (hkeeps : input.keeps = true) :
    (s.perform input).1.running = false := by
  cases input with
  | stepCurrent polls capacity readings closing logical =>
    show (s.stepCurrent polls capacity readings closing logical).1.running = false
    unfold stepCurrent
    dsimp only
    repeat' split
    all_goals exact hstopped
  | beginStop now logical =>
    show (s.beginStop now logical).1.running = false
    unfold beginStop
    dsimp only
    split
    · rfl
    · rfl
  | beginDisconnect now logical =>
    show (s.beginDisconnect now logical).1.running = false
    unfold beginDisconnect
    split
    · exact hstopped
    · exact hstopped
  | turn turn =>
    show (s.turnCurrent turn).1.running = false
    unfold turnCurrent
    split
    · exact hstopped
    · exact hstopped
  | start _ _ _ | connect _ _ _ _ | finishGeneration _ _ | recoverStopped _ _ | faultSource =>
    cases hkeeps

/-- A stopped supervisor holds a generation only while it drains. -/
def Steady (s : ConnectionSupervisor W κ) : Prop :=
  s.running = false → ∀ g, s.current = some g → g.isDraining = true

/-- **Every operation keeps it.** -/
theorem steady_perform {s : ConnectionSupervisor W κ} (h : s.Steady) {input : SupervisorInput W κ}
    (hquiet : input.drains = false) : (s.perform input).1.Steady := by
  intro hstopped g hcurrent
  by_cases hstop : ∃ now logical, input = .beginStop now logical
  · obtain ⟨now, logical, rfl⟩ := hstop
    have hcurrent : (s.beginStop now logical).1.current = some g := hcurrent
    unfold beginStop at hcurrent
    dsimp only at hcurrent
    split at hcurrent
    · rw [← Option.some.inj hcurrent]
      exact GenerationRound.isDraining_beginGracefulClose _ _ _ _
    · next hfree => cases hfree.symm.trans hcurrent
  · have hbefore := s.running_perform (fun now logical heq => hstop ⟨now, logical, heq⟩) hstopped
    have hturn := s.turn_perform hquiet
    generalize drivenIn _ = effects at hturn
    cases hturn with
    | idle same => exact h hbefore g (same.symm.trans hcurrent)
    | serve holds proceeds next =>
      rw [next, Option.some.injEq] at hcurrent
      rw [← hcurrent]
      exact proceeds.isDraining (h hbefore _ holds)
    | release _ _ free => cases free.symm.trans hcurrent
    | launch _ running _ _ => cases running.symm.trans hbefore

/-- What keeps the slot leaves its generation and the fault latch. -/
theorem holds_perform {s : ConnectionSupervisor W κ} {g : GenerationRuntime W κ}
    (hcurrent : s.current = some g)
    (input : SupervisorInput W κ) (hkeeps : input.keeps = true) (hquiet : input.drains = false) :
    (∃ g', (s.perform input).1.current = some g' ∧ g'.generation = g.generation) ∧
      (s.perform input).1.faulted = s.faulted := by
  have hstill : (s.perform input).1.current.isSome = true ∧
      (s.perform input).1.faulted = s.faulted := by
    cases input with
    | stepCurrent polls capacity readings closing logical =>
      show (s.stepCurrent polls capacity readings closing logical).1.current.isSome = true ∧
        (s.stepCurrent polls capacity readings closing logical).1.faulted = s.faulted
      unfold stepCurrent
      rw [hcurrent]
      dsimp only
      split
      · exact ⟨rfl, rfl⟩
      · exact ⟨rfl, rfl⟩
      · exact ⟨rfl, rfl⟩
    | beginStop now logical =>
      show (s.beginStop now logical).1.current.isSome = true ∧
          (s.beginStop now logical).1.faulted = s.faulted
      unfold beginStop
      rw [hcurrent]
      exact ⟨rfl, rfl⟩
    | beginDisconnect now logical =>
      show (s.beginDisconnect now logical).1.current.isSome = true ∧ _
      unfold perform beginDisconnect
      rw [hcurrent]
      exact ⟨rfl, rfl⟩
    | turn turn =>
      show (s.turnCurrent turn).1.current.isSome = true ∧ (s.turnCurrent turn).1.faulted = s.faulted
      unfold turnCurrent
      rw [hcurrent]
      exact ⟨rfl, rfl⟩
    | start _ _ _ | connect _ _ _ _ | finishGeneration _ _ | recoverStopped _ _ | faultSource =>
      cases hkeeps
  refine ⟨?_, hstill.2⟩
  have hturn := s.turn_perform hquiet
  generalize drivenIn _ = effects at hturn
  cases hturn with
  | idle same => exact ⟨g, same.trans hcurrent, rfl⟩
  | @serve g₀ r holds proceeds next =>
    obtain rfl : g₀ = g := Option.some.inj (holds.symm.trans hcurrent)
    exact ⟨r.runtime, next, proceeds.generation⟩
  | release _ _ free => rw [free] at hstill; cases hstill.1
  | launch free _ _ _ => cases free.symm.trans hcurrent

/-- `begin_stop` stops, and without a generation it takes the fault away. -/
theorem beginStop_stops (s : ConnectionSupervisor W κ) (now logical : MonoTime) :
    (s.beginStop now logical).1.running = false ∧ (s.current = none →
      (s.beginStop now logical).1.current = none ∧
      (s.beginStop now logical).1.faulted = false) := by
  unfold beginStop
  dsimp only
  cases hcurrent : s.current with
  | none => exact ⟨rfl, fun _ => ⟨rfl, rfl⟩⟩
  | some g => exact ⟨rfl, fun hfree => nomatch hfree⟩

/-! ## What the operations return -/

omit [WriterIngress W] in
/-- A round of the Driver returns nothing. -/
theorem findSome?_driverEffects {α : Type*} {f : SupervisorEffect κ → Option α}
    (h : ∀ generation effect, f (.driver generation effect) = none) (r : GenerationRound W κ) :
    (driverEffects r).findSome? f = none := by
  refine List.findSome?_eq_none_iff.mpr fun effect hmem => ?_
  obtain ⟨inner, -, rfl⟩ := List.mem_map.mp hmem
  exact h _ _

omit [WriterIngress W] in
/-- `start` succeeds on a supervisor that runs and is not faulted. -/
theorem started_ok {s : ConnectionSupervisor W κ} {validated now : MonoTime}
    {bound : Option (Except IoError SocketAddr)}
    (h : .started (.ok ()) ∈ (s.start validated now bound).2) :
    (s.start validated now bound).1.running = true ∧
    (s.start validated now bound).1.faulted = false := by
  unfold start at h ⊢
  by_cases hfaulted : s.faulted = true
  · rw [if_pos hfaulted] at h
    simp at h
  · rw [if_neg hfaulted] at h ⊢
    rw [Bool.not_eq_true] at hfaulted
    by_cases hrunning : s.running = true
    · rw [if_pos hrunning]
      exact ⟨hrunning, hfaulted⟩
    · rw [if_neg hrunning] at h ⊢
      by_cases hheld : s.current.isSome = true
      · rw [if_pos hheld] at h
        simp at h
      · rw [if_neg hheld] at h ⊢
        split at h
        · simp at h
        · simp at h
        · exact ⟨rfl, hfaulted⟩

omit [WriterIngress W] in
theorem not_mem_driverEffects {effect : SupervisorEffect κ} (h : effect.driven = none)
    (r : GenerationRound W κ) :
    effect ∉ driverEffects r := by
  intro hmem
  obtain ⟨inner, -, rfl⟩ := List.mem_map.mp hmem
  cases h

/-- A `connect` that fails leaves the slot free. -/
theorem connected_error {s : ConnectionSupervisor W κ} (hfree : s.current = none)
    {attempt : Attempt}
    {launched : Except ConfigError W} {tokenOwner : ℕ} {now : MonoTime} {error : SupervisorError}
    (h : .connected (.error error) ∈ (s.connect attempt launched tokenOwner now).2) :
    (s.connect attempt launched tokenOwner now).1.current = none := by
  have hlaunch {s : ConnectionSupervisor W κ} {id : UInt64} (hfree : s.current = none)
      (h : .connected (.error error) ∈ (s.launch id launched tokenOwner now).2) :
      (s.launch id launched tokenOwner now).1.current = none := by
    unfold launch at h ⊢
    dsimp only at h ⊢
    split at h
    · rcases List.mem_append.mp h with h | h
      · rcases List.mem_cons.mp h with h | h
        · cases h
        · exact absurd h (not_mem_driverEffects rfl _)
      · simp at h
    · exact hfree
  unfold connect at h ⊢
  by_cases hfaulted : s.faulted = true
  · rw [if_pos hfaulted]
    exact hfree
  · rw [if_neg hfaulted] at h ⊢
    by_cases hstopped : (!s.running) = true
    · rw [if_pos hstopped]
      exact hfree
    · rw [if_neg hstopped] at h ⊢
      rw [if_neg (by simp [hfree])] at h ⊢
      split at h
      · exact hfree
      · split at h
        · exact hfree
        · dsimp only at h ⊢
          split at h
          · exact hfree
          · exact hfree
          · exact hfree
          · exact hlaunch hfree h

/-- `recover_stopped` succeeds on a stopped supervisor, and unless it reports a poisoned exit the
slot is free then, and the fault is gone. -/
theorem recovered_ok {s : ConnectionSupervisor W κ} {now : MonoTime} {cleanup : Cleanup}
    {exit : Option SessionExit} (h : .recovered (.ok exit) ∈ (s.recoverStopped now cleanup).2)
    (hclean : ∀ e, exit = some e → e.cleanup = .clean) :
    (s.recoverStopped now cleanup).1.running = false ∧
    (s.recoverStopped now cleanup).1.current = none ∧
      (s.recoverStopped now cleanup).1.faulted = false := by
  unfold recoverStopped at h ⊢
  by_cases hrunning : s.running = true
  · rw [if_pos hrunning] at h
    simp at h
  · rw [if_neg hrunning] at h ⊢
    rw [Bool.not_eq_true] at hrunning
    split at h
    · next hfree => exact ⟨hrunning, hfree, rfl⟩
    · next g hcurrent =>
      dsimp only at h ⊢
      by_cases hclosed : (!g.driver.transportClosed) = true
      · rw [if_pos hclosed] at h
        simp at h
      · rw [if_neg hclosed] at h ⊢
        split at h
        · exact absurd h (not_mem_driverEffects rfl _)
        · next e _ =>
          have hexit : exit = some e := by
            split at h
            all_goals
              rcases List.mem_append.mp h with h | h
              · exact absurd h (not_mem_driverEffects rfl _)
              · simpa using h
          rw [if_pos (hclean e hexit)]
          exact ⟨hrunning, rfl, rfl⟩

theorem running_finishGeneration (s : ConnectionSupervisor W κ) (now : MonoTime)
    (cleanup : Cleanup) :
    (s.finishGeneration now cleanup).1.running = s.running := by
  unfold finishGeneration
  dsimp only
  repeat' split
  all_goals rfl

/-- What `finish_generation` reports is the exit of the generation in the slot; a clean one frees
the slot, and a stopped supervisor is without a fault then. -/
theorem finished_ok {s : ConnectionSupervisor W κ} {now : MonoTime} {cleanup : Cleanup}
    {exit : SessionExit}
    (h : .finished (.ok (some exit)) ∈ (s.finishGeneration now cleanup).2) :
    (∃ g, s.current = some g ∧ exit.generation = g.generation) ∧
      (exit.cleanup = .clean → (s.finishGeneration now cleanup).1.current = none ∧
        (s.running = false → (s.finishGeneration now cleanup).1.faulted = false)) := by
  unfold finishGeneration at h ⊢
  split at h
  · simp at h
  · next g hcurrent =>
    dsimp only at h ⊢
    by_cases hclosed : (!g.driver.transportClosed) = true
    · rw [if_pos hclosed] at h
      simp at h
    · rw [if_neg hclosed] at h ⊢
      split at h
      · exact absurd h (not_mem_driverEffects rfl _)
      · next e he =>
        have hgeneration : e.generation = g.generation := by
          obtain ⟨result, -, rfl⟩ := Option.map_eq_some_iff.mp he
          have hproceeds (reason : GenerationCloseReason) :
              GenerationRound.Proceeds (fun _ => False)
              (fun _ => True) (.start g) ((GenerationRound.start g).cleanUp reason now cleanup) :=
            .cleanUp (.start g) reason now cleanup
          exact (hproceeds _).generation
        have hexit : exit = e := by
          repeat' split at h
          all_goals
            rcases List.mem_append.mp h with h | h
            · exact absurd h (not_mem_driverEffects rfl _)
            · simpa using h
        rw [hexit]
        refine ⟨⟨g, hcurrent, hgeneration⟩, fun hclean => ?_⟩
        rw [if_neg (not_not_intro hclean)]
        by_cases hrunning : s.running = true
        · rw [if_neg (by simp [hrunning])]
          refine ⟨?_, fun hstopped => absurd (hstopped.symm.trans hrunning) Bool.false_ne_true⟩
          split
          · rfl
          · rfl
        · rw [if_pos (by simp [hrunning])]
          exact ⟨rfl, fun _ => rfl⟩

end ConnectionSupervisor

end Hsms
end SecsRust

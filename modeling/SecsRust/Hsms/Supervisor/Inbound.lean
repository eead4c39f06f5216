import SecsRust.Hsms.Generation.Inbound
import SecsRust.Hsms.Supervisor.Replacement
import SecsRust.Hsms.Supervisor.Turns

/-!
# Inbound Primaries of the supervisor

What a generation has done with the messages of its peer is known from its Driver, and the
Driver knows only its own run.  The supervisor makes one generation after the other, and its
history is that of all of them. This file cuts it up again.

Two facts are needed.  An operation of the supervisor gives the Core of its generation at
most one message (`messages_perform`), because a step of a generation polls its Reader at
most once and every other operation polls it not at all.  And what the Driver of one
generation has done is a part of the history of its own (`drivenBy`), because no identity is
used twice.  The second is the invariant `Identified`: every generation that has done
anything, and the one in the slot, has an identity below the next one, so a generation that
has just been made has done nothing yet (`drivenBy_of_launched`).
-/

namespace SecsRust
namespace Hsms

open SessionDriver

universe u v

variable {W : Type u} {κ : Type v}

/-- How many messages of the peer an operation may give to Core. -/
def SupervisorInput.reads : SupervisorInput W κ → ℕ
  | .stepCurrent .. | .turn (.processReadyPriority ..) => 1
  | .turn (.driver input) => input.reads
  | _ => 0

/-- What the Driver of this generation has done. -/
def drivenBy (generation : ConnectionGeneration) (past : List (SupervisorEffect κ)) :
    List (DriverEffect (RuntimeCompletion κ)) :=
  (drivenIn past).filterMap fun driven => if driven.1 = generation then some driven.2 else none

/-- The identity has been used. -/
def Used (id : UInt64) (next : Option UInt64) : Prop := ∀ bound, next = some bound → id < bound

/-- Every generation that has done anything, and the one in the slot, has a used identity.  It is
what makes the effects of one generation a part of the history that can be told by its identity. -/
structure Identified (past : List (SupervisorEffect κ)) (s : ConnectionSupervisor W κ) : Prop where
  driven : ∀ driven ∈ drivenIn past, Used driven.1.raw s.nextGeneration
  holder : ∀ g, s.current = some g → Used g.generation.raw s.nextGeneration

theorem SlotStep.used {slot slot' : Slot} {events : List SlotEvent} (h : SlotStep slot events slot')
    {id : UInt64}
    (hused : Used id slot.next) : Used id slot'.next := by
  have hsucc {last : UInt64} (hnext : slot.next = some last) : Used id (u64CheckedSucc last) :=
    fun bound hbound => UInt64.lt_trans (hused last hnext) (lt_of_u64CheckedSucc hbound)
  cases h with
  | created _ _ hnext | failed _ _ hnext => exact hsucc hnext
  | quiet _ | prepared _ | exhausted _ | poisoned _ _ | clean _ _ _ _ => exact hused

/-- A new generation has the next identity. -/
theorem SlotStep.fresh {slot slot' : Slot} {events : List SlotEvent}
    (h : SlotStep slot events slot')
    {generation : ConnectionGeneration} (hfree : slot.holder = none)
    (hholder : slot'.holder = some generation) :
    slot.next = some generation.raw ∧ Used generation.raw slot'.next := by
  cases h with
  | @created id _ _ hnext =>
    obtain rfl : ⟨id⟩ = generation := Option.some.inj hholder
    exact ⟨hnext, fun bound hbound => lt_of_u64CheckedSucc hbound⟩
  | failed _ _ _ | clean _ _ _ _ => cases hholder
  | quiet _ | prepared _ | exhausted _ | poisoned _ _ => exact nomatch hfree.symm.trans hholder

theorem drivenBy_append (generation : ConnectionGeneration)
    (past effects : List (SupervisorEffect κ)) :
    drivenBy generation (past ++ effects) =
      drivenBy generation past ++ drivenBy generation effects := by
  unfold drivenBy
  rw [ConnectionSupervisor.drivenIn_append, List.filterMap_append]

/-- The effects of one generation. -/
theorem drivenBy_of_same {generation : ConnectionGeneration} {past : List (SupervisorEffect κ)}
    {effects : List (DriverEffect (RuntimeCompletion κ))}
    (h : drivenIn past = effects.map fun effect => (generation, effect)) :
    drivenBy generation past = effects := by
  unfold drivenBy
  rw [h, List.filterMap_map]
  refine (List.filterMap_congr fun effect _ => ?_).trans List.filterMap_some
  exact if_pos rfl

theorem drivenBy_of_other {generation other : ConnectionGeneration}
    {past : List (SupervisorEffect κ)}
    {effects : List (DriverEffect (RuntimeCompletion κ))}
    (h : drivenIn past = effects.map fun effect => (generation, effect))
    (hother : other ≠ generation) :
    drivenBy other past = [] := by
  unfold drivenBy
  rw [h, List.filterMap_map, List.filterMap_eq_nil_iff]
  exact fun effect _ => if_neg hother.symm

namespace ConnectionSupervisor

/-- What a round reads. -/
theorem messages_round {n : ℕ} {g : GenerationRuntime W κ} {r : GenerationRound W κ}
    (h : GenerationRound.Reads n (.start g) r) {more : List (SupervisorEffect κ)}
    (hmore : drivenIn more = []) :
    messagesIn ((drivenIn (driverEffects r ++ more)).map Prod.snd) ≤ n := by
  obtain ⟨effects, heffects, hle⟩ := h
  have hsame : (drivenIn (driverEffects r ++ more)).map Prod.snd = effects := by
    rw [drivenIn_append, hmore, List.append_nil, drivenIn_driverEffects, List.map_map]
    exact (List.map_id r.effects).trans heffects
  rw [hsame]
  exact hle

theorem messages_round' {n : ℕ} {g : GenerationRuntime W κ} {r : GenerationRound W κ}
    (h : GenerationRound.Reads n (.start g) r) :
    messagesIn ((drivenIn (driverEffects r)).map Prod.snd) ≤ n := by
  have hround : messagesIn ((drivenIn (driverEffects r ++ [])).map Prod.snd) ≤ n :=
    messages_round h rfl
  rwa [List.append_nil] at hround

variable [WriterIngress W]

open GenerationRound in
/-- **An operation on a generation gives its Core at most the message that it reads.** -/
theorem messages_perform {s : ConnectionSupervisor W κ} {g : GenerationRuntime W κ}
    (hcurrent : s.current = some g)
    (input : SupervisorInput W κ) :
    messagesIn ((drivenIn (s.perform input).2).map Prod.snd) ≤ input.reads := by
  cases input with
  | start validated now bound =>
    show messagesIn ((drivenIn (s.start validated now bound).2).map Prod.snd) ≤ _
    unfold start
    repeat' split
    all_goals exact Nat.zero_le _
  | connect attempt launched tokenOwner now =>
    show messagesIn ((drivenIn (s.connect attempt launched tokenOwner now).2).map Prod.snd) ≤ _
    unfold connect
    split
    · exact Nat.zero_le _
    · split
      · exact Nat.zero_le _
      · split
        · exact Nat.zero_le _
        · next hfree => exact absurd (hcurrent ▸ rfl) hfree
  | stepCurrent polls capacity readings closing logical =>
    show messagesIn ((drivenIn (s.stepCurrent polls capacity readings closing logical).2).map
        Prod.snd) ≤ _
    unfold stepCurrent
    rw [hcurrent]
    dsimp only
    split
    · exact messages_round (.step _ polls capacity readings) rfl
    · exact (messages_round (.beginGracefulClose _ _ closing logical) rfl).trans (Nat.zero_le 1)
    · exact Nat.zero_le _
  | beginStop now logical =>
    show messagesIn ((drivenIn (s.beginStop now logical).2).map Prod.snd) ≤ _
    unfold beginStop
    rw [hcurrent]
    exact messages_round' (.beginGracefulClose _ _ now logical)
  | beginDisconnect now logical =>
    show messagesIn ((drivenIn (s.beginDisconnect now logical).2).map Prod.snd) ≤ _
    unfold beginDisconnect
    rw [hcurrent]
    exact messages_round' (.beginGracefulClose _ _ now logical)
  | finishGeneration now cleanup =>
    show messagesIn ((drivenIn (s.finishGeneration now cleanup).2).map Prod.snd) ≤ _
    have hround : Reads 0 (.start g) ((GenerationRound.start g).finish now cleanup).1 :=
      .cleanUp _ _ now cleanup
    unfold finishGeneration
    rw [hcurrent]
    dsimp only
    repeat' split
    · exact Nat.zero_le _
    · exact messages_round' hround
    all_goals exact messages_round hround rfl
  | recoverStopped now cleanup =>
    show messagesIn ((drivenIn (s.recoverStopped now cleanup).2).map Prod.snd) ≤ _
    have hround : Reads 0 (.start g) ((GenerationRound.start g).recoverCleanup now cleanup).1 :=
      .cleanUp _ _ now cleanup
    unfold recoverStopped
    rw [hcurrent]
    dsimp only
    repeat' split
    · exact Nat.zero_le _
    · exact Nat.zero_le _
    · exact messages_round' hround
    all_goals exact messages_round hround rfl
  | faultSource => exact Nat.zero_le _
  | turn turn =>
    show messagesIn ((drivenIn (s.turnCurrent turn).2).map Prod.snd) ≤ _
    unfold turnCurrent
    rw [hcurrent]
    cases turn with
    | driver input => exact messages_round' (.call _ le_rfl)
    | forceClose reason now => exact messages_round' (.call _ le_rfl)
    | processReadyPriority terminal first second =>
      exact messages_round' (.processReadyPriority _ terminal first second)

/-- **No identity is used twice**: a new generation has one that no effect so far is of. -/
theorem identified_perform {past : List (SupervisorEffect κ)} {s : ConnectionSupervisor W κ}
    (h : Identified past s)
    (input : SupervisorInput W κ) (hquiet : input.drains = false) :
    Identified (past ++ (s.perform input).2) (s.perform input).1 := by
  have hslot := slotStep_perform s input
  have hkept {id : UInt64} (hused : Used id s.nextGeneration) :
      Used id (s.perform input).1.nextGeneration :=
    hslot.used hused
  have hpast {effects : List (ConnectionGeneration × DriverEffect (RuntimeCompletion κ))}
      (hnew : ∀ driven ∈ effects, Used driven.1.raw (s.perform input).1.nextGeneration) :
      ∀ driven ∈ drivenIn past ++ effects, Used driven.1.raw (s.perform input).1.nextGeneration :=
    fun driven hmem => (List.mem_append.mp hmem).elim (fun hold => hkept (h.driven driven hold))
      (hnew driven)
  have hof {generation : ConnectionGeneration} {effects : List (DriverEffect (RuntimeCompletion κ))}
      (hused : Used generation.raw (s.perform input).1.nextGeneration) :
      ∀ driven ∈ effects.map fun effect => (generation, effect),
        Used driven.1.raw (s.perform input).1.nextGeneration := by
    intro driven hmem
    obtain ⟨effect, -, rfl⟩ := List.mem_map.mp hmem
    exact hused
  have hturn := turn_perform s hquiet
  generalize (s.perform input).1 = s' at hslot hkept hpast hof hturn ⊢
  suffices ∀ effects, SupervisorTurn input.Calls s s' effects →
      (∀ driven ∈ effects, Used driven.1.raw s'.nextGeneration) ∧
        ∀ g, s'.current = some g → Used g.generation.raw s'.nextGeneration by
    obtain ⟨hdriven, hholder⟩ := this _ hturn
    refine ⟨?_, hholder⟩
    rw [drivenIn_append]
    exact hpast hdriven
  intro effects hturn
  cases hturn with
  | idle same =>
    refine ⟨fun driven hmem => absurd hmem List.not_mem_nil, fun g hcurrent => ?_⟩
    rw [same] at hcurrent
    exact hkept (h.holder g hcurrent)
  | @serve g r holds proceeds next =>
    have hused := hkept (h.holder g holds)
    refine ⟨hof hused, fun g' hcurrent => ?_⟩
    rw [← Option.some.inj (next.symm.trans hcurrent), proceeds.generation]
    exact hused
  | @release g r holds proceeds free =>
    exact ⟨hof (hkept (h.holder g holds)), fun g' hcurrent => nomatch free.symm.trans hcurrent⟩
  | @launch r launched id tokenOwner now free running made next =>
    have hfree : s.slot.holder = none := congrArg (Option.map GenerationRuntime.generation) free
    have hholder : s'.slot.holder = some r.runtime.generation :=
      congrArg (Option.map GenerationRuntime.generation) next
    have hused : Used r.runtime.generation.raw s'.nextGeneration := (hslot.fresh hfree hholder).2
    refine ⟨hof hused, fun g' hcurrent => ?_⟩
    rw [← Option.some.inj (next.symm.trans hcurrent)]
    exact hused

/-- What is known of a generation that has just been made: nothing has been done by it before. -/
theorem drivenBy_of_launched {past : List (SupervisorEffect κ)} {s : ConnectionSupervisor W κ}
    (h : Identified past s)
    (input : SupervisorInput W κ) {g : GenerationRuntime W κ} (hfree : s.current = none)
    (hcurrent : (s.perform input).1.current = some g) : drivenBy g.generation past = [] := by
  have hnone : s.slot.holder = none := congrArg (Option.map GenerationRuntime.generation) hfree
  have hholder : (s.perform input).1.slot.holder = some g.generation :=
    congrArg (Option.map GenerationRuntime.generation) hcurrent
  obtain ⟨hnext, -⟩ := (slotStep_perform s input).fresh hnone hholder
  unfold drivenBy
  refine List.filterMap_eq_nil_iff.mpr fun driven hmem => if_neg fun heq => ?_
  have hlt : driven.1.raw < g.generation.raw := h.driven driven hmem _ hnext
  rw [heq] at hlt
  exact UInt64.lt_irrefl _ hlt

end ConnectionSupervisor

end Hsms
end SecsRust

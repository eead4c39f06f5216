import SecsRust.Hsms.Core.Session.Coherent
import SecsRust.Hsms.Supervisor.Runtime

/-!
# The connection slot

What the supervisor is for, apart from how it does it: one slot for one generation, a supply
of identities, and a gate.  A generation is created only in a free slot with an open gate,
under the next identity.

The gate is shut whenever the endpoint does not run or is faulted.  It is shut by everything
that casts doubt on a new generation: a stop, a fault, a generation that could not be made,
an exit that was not clean or has a reason that is not recoverable, a supply of identities
that is exhausted.  It is opened by nothing but a start that has prepared a fresh source.
So between a blocking event and the next generation there is always such a start
(`SlotTrace.prepared_between`).

A slot with a poisoned generation has to be emptied first.  It is emptied only by a clean
exit of the same generation, and until then no source is prepared either
(`SlotTrace.clean_between`).

Both are statements about what lies between two events of a history, and both are proved in
the same way.  After the earlier event the slot is in a state (`SlotTrace.shut_since`,
`SlotTrace.held_since`) that only the events in question can end; so if none of them has
happened, the slot is still in that state, and the later event is impossible.

The identities come from a counter that never goes back, and that is empty after the last
one (`SlotTrace.handedOut_increasing`).
-/

namespace SecsRust
namespace Hsms

/-- What happens to the slot. -/
inductive SlotEvent where
  | prepared
  | exhausted
  | launched (generation : ConnectionGeneration) (created : Bool)
  | exited (exit : SessionExit)
  deriving DecidableEq

/-- The generation in the slot, the gate, and the next identity. -/
structure Slot where
  holder : Option ConnectionGeneration
  shut : Bool
  next : Option UInt64

/-- After this event a generation needs a start with a fresh source. -/
def SlotEvent.Blocks : SlotEvent → Prop
  | prepared => False
  | exhausted => True
  | launched _ created => created = false
  | exited exit => exit.cleanup = .clean → recoverable exit.reason = false

/-- **The steps of the slot**, each with at most one event. -/
inductive SlotStep (slot : Slot) : List SlotEvent → Slot → Prop where
  | quiet {shut : Bool} (hshut : slot.shut = true → shut = true) :
      SlotStep slot [] { slot with shut := shut }
  | prepared (hholder : slot.holder = none) : SlotStep slot [.prepared] { slot with shut := false }
  | exhausted (hnext : slot.next = none) : SlotStep slot [.exhausted] { slot with shut := true }
  | created {id : UInt64} (hholder : slot.holder = none) (hshut : slot.shut = false)
      (hnext : slot.next = some id) :
      SlotStep slot [.launched ⟨id⟩ true] ⟨some ⟨id⟩, false, u64CheckedSucc id⟩
  | failed {id : UInt64} (hholder : slot.holder = none) (hshut : slot.shut = false)
      (hnext : slot.next = some id) :
      SlotStep slot [.launched ⟨id⟩ false] ⟨none, true, u64CheckedSucc id⟩
  | poisoned {exit : SessionExit} (hholder : slot.holder = some exit.generation)
      (hcleanup : exit.cleanup ≠ .clean) : SlotStep slot [.exited exit] { slot with shut := true }
  | clean {exit : SessionExit} {shut : Bool} (hholder : slot.holder = some exit.generation)
      (hcleanup : exit.cleanup = .clean) (hshut : slot.shut = true → shut = true)
      (hreason : recoverable exit.reason = false → shut = true) :
      SlotStep slot [.exited exit] { slot with holder := none, shut := shut }

/-- The histories of the slot. -/
inductive SlotTrace : List SlotEvent → Slot → Prop where
  | new : SlotTrace [] ⟨none, true, some 1⟩
  | step {past events : List SlotEvent} {slot slot' : Slot} (h : SlotTrace past slot)
      (hstep : SlotStep slot events slot') : SlotTrace (past ++ events) slot'

/-- A clean exit of the generation. -/
def CleanExit (generation : ConnectionGeneration) (event : SlotEvent) : Prop :=
  ∃ exit : SessionExit, event = .exited exit ∧ exit.generation = generation ∧ exit.cleanup = .clean

/-- The identities that have been handed out. -/
def handedOut (past : List SlotEvent) : List UInt64 :=
  past.filterMap fun
    | .launched generation _ => some generation.raw
    | _ => none

/-- A list with one more element, cut at one of its elements. -/
theorem append_singleton_eq_split {α : Type} {past earlier later : List α} {last cut : α}
    (h : past ++ [last] = earlier ++ cut :: later) :
    (past = earlier ∧ last = cut ∧ later = []) ∨
      ∃ rest, later = rest ++ [last] ∧ past = earlier ++ cut :: rest := by
  rcases List.eq_nil_or_concat later with rfl | ⟨rest, final, rfl⟩
  · obtain ⟨hpast, hlast⟩ := List.append_inj' h rfl
    exact .inl ⟨hpast, (List.cons.inj hlast).1, rfl⟩
  · rw [List.concat_eq_append, ← List.cons_append, ← List.append_assoc] at h
    obtain ⟨hpast, hlast⟩ := List.append_inj' h rfl
    obtain rfl := (List.cons.inj hlast).1
    exact .inr ⟨rest, List.concat_eq_append, hpast⟩

namespace SlotStep

variable {slot slot' : Slot} {events : List SlotEvent}

theorem cases_events (h : SlotStep slot events slot') :
    events = [] ∨ ∃ event, events = [event] := by
  cases h with
  | quiet => exact .inl rfl
  | _ => exact .inr ⟨_, rfl⟩

/-- A gate that is shut stays so unless a source is prepared. -/
theorem shut_of_shut (h : SlotStep slot events slot') (hshut : slot.shut = true) :
    .prepared ∈ events ∨ slot'.shut = true := by
  cases h with
  | quiet hkept => exact .inr (hkept hshut)
  | prepared => exact .inl (List.mem_singleton.mpr rfl)
  | exhausted => exact .inr rfl
  | created _ hopen => rw [hopen] at hshut; cases hshut
  | failed => exact .inr rfl
  | poisoned => exact .inr rfl
  | clean _ _ hkept => exact .inr (hkept hshut)

/-- A blocking event shuts the gate. -/
theorem shut_of_blocks {event : SlotEvent} (h : SlotStep slot [event] slot')
    (hblocks : event.Blocks) :
    slot'.shut = true := by
  cases h with
  | prepared => exact hblocks.elim
  | exhausted => rfl
  | created => cases hblocks
  | failed => rfl
  | poisoned => rfl
  | clean hholder hcleanup hshut hreason => exact hreason (hblocks hcleanup)

/-- A generation is created only in a free slot with an open gate. -/
theorem of_created {generation : ConnectionGeneration} (h : SlotStep slot events slot')
    (hmem : .launched generation true ∈ events) : slot.holder = none ∧ slot.shut = false := by
  cases h with
  | quiet => cases hmem
  | created hholder hshut => exact ⟨hholder, hshut⟩
  | failed hholder hshut => exact ⟨hholder, hshut⟩
  | _ => cases List.mem_singleton.mp hmem

/-- A free slot is filled only by the creation of a generation. -/
theorem filled {generation : ConnectionGeneration} (h : SlotStep slot events slot')
    (hfree : slot.holder = none) (hholder : slot'.holder = some generation) :
    .launched generation true ∈ events := by
  cases h with
  | created =>
    obtain rfl := Option.some.inj hholder
    exact List.mem_singleton.mpr rfl
  | failed => cases hholder
  | clean => cases hholder
  | _ => cases hfree.symm.trans hholder

/-- A generation in the slot is not replaced by another one. -/
theorem held {generation generation' : ConnectionGeneration} (h : SlotStep slot events slot')
    (hholder : slot.holder = some generation) (hholder' : slot'.holder = some generation') :
    generation' = generation := by
  cases h with
  | created hfree => cases hfree.symm.trans hholder
  | failed => cases hholder'
  | clean => cases hholder'
  | _ => exact Option.some.inj (hholder'.symm.trans hholder)

/-- The slot is emptied only by a clean exit of its generation. -/
theorem emptied {generation : ConnectionGeneration} (h : SlotStep slot events slot')
    (hholder : slot.holder = some generation) (hfree : slot'.holder = none) :
    ∃ exit, .exited exit ∈ events ∧ exit.generation = generation ∧ exit.cleanup = .clean := by
  cases h with
  | created => cases hfree
  | failed hnone => cases hnone.symm.trans hholder
  | @clean exit shut hexit hcleanup =>
    exact ⟨exit, List.mem_singleton.mpr rfl, Option.some.inj (hexit.symm.trans hholder), hcleanup⟩
  | _ => cases hfree.symm.trans hholder

end SlotStep

namespace SlotTrace

variable {past : List SlotEvent} {slot : Slot}

/-- **After a blocking event** the gate is shut until a source has been prepared. -/
theorem shut_since (h : SlotTrace past slot) {earlier later : List SlotEvent} {event : SlotEvent}
    (hpast : past = earlier ++ event :: later) (hblocks : event.Blocks) :
    .prepared ∈ later ∨ slot.shut = true := by
  induction h generalizing later with
  | new => exact absurd hpast.symm (List.append_ne_nil_of_right_ne_nil _ (List.cons_ne_nil _ _))
  | @step past events slot slot' h hstep ih =>
    rcases hstep.cases_events with rfl | ⟨last, rfl⟩
    · rw [List.append_nil] at hpast
      exact (ih hpast).imp_right fun hshut =>
        (hstep.shut_of_shut hshut).resolve_left List.not_mem_nil
    · rcases append_singleton_eq_split hpast with ⟨-, rfl, rfl⟩ | ⟨rest, rfl, hrest⟩
      · exact .inr (hstep.shut_of_blocks hblocks)
      · rcases ih hrest with hprepared | hshut
        · exact .inl (List.mem_append_left _ hprepared)
        · exact (hstep.shut_of_shut hshut).imp_left (List.mem_append_right _)

/-- **Between a blocking event and a new generation a source is prepared.** -/
theorem prepared_between (h : SlotTrace past slot) {earlier middle later : List SlotEvent}
    {event : SlotEvent} {generation : ConnectionGeneration} (hblocks : event.Blocks)
    (hpast : past = earlier ++ event :: middle ++ .launched generation true :: later) :
    .prepared ∈ middle := by
  induction h generalizing later with
  | new => exact absurd hpast.symm (List.append_ne_nil_of_right_ne_nil _ (List.cons_ne_nil _ _))
  | @step past events slot slot' h hstep ih =>
    rcases hstep.cases_events with rfl | ⟨last, rfl⟩
    · rw [List.append_nil] at hpast
      exact ih hpast
    · rcases append_singleton_eq_split hpast with ⟨hbefore, rfl, -⟩ | ⟨rest, -, hrest⟩
      · refine (h.shut_since hbefore hblocks).resolve_right fun hshut => ?_
        rw [(hstep.of_created (List.mem_singleton.mpr rfl)).2] at hshut
        cases hshut
      · exact ih hrest

/-- **After a poisoned exit** the generation stays in the slot until it exits cleanly, and no source
is prepared before that. -/
theorem held_since (h : SlotTrace past slot) {earlier later : List SlotEvent} {exit : SessionExit}
    (hpast : past = earlier ++ .exited exit :: later) (hpoisoned : exit.cleanup ≠ .clean) :
    (slot.holder = some exit.generation ∧ .prepared ∉ later) ∨
      ∃ first event second, later = first ++ event :: second ∧ CleanExit exit.generation event ∧
        .prepared ∉ first := by
  induction h generalizing later with
  | new => exact absurd hpast.symm (List.append_ne_nil_of_right_ne_nil _ (List.cons_ne_nil _ _))
  | @step past events slot slot' h hstep ih =>
    have hafter {rest : List SlotEvent} {last : SlotEvent} (hrest :
        past = earlier ++ .exited exit :: rest)
        (hstays : slot.holder = some exit.generation → last ≠ .prepared ∧
          slot'.holder = some exit.generation ∨ CleanExit exit.generation last) :
        (slot'.holder = some exit.generation ∧ .prepared ∉ rest ++ [last]) ∨
          ∃ first event second, rest ++ [last] = first ++ event :: second ∧
            CleanExit exit.generation event ∧ .prepared ∉ first := by
      rcases ih hrest with ⟨hholder, hquiet⟩ | ⟨first, event, second, rfl, hclean, hquiet⟩
      · rcases hstays hholder with ⟨hlast, hheld⟩ | hclean
        · refine .inl ⟨hheld, fun hmem => ?_⟩
          rcases List.mem_append.mp hmem with hold | hnew
          · exact hquiet hold
          · exact hlast (List.mem_singleton.mp hnew).symm
        · exact .inr ⟨rest, last, [], rfl, hclean, hquiet⟩
      · exact .inr ⟨first, event, second ++ [last], by rw [List.append_assoc, List.cons_append],
          hclean, hquiet⟩
    cases hstep with
    | quiet =>
      rw [List.append_nil] at hpast
      exact ih hpast
    | prepared hnone =>
      rcases append_singleton_eq_split hpast with ⟨-, heq, -⟩ | ⟨rest, rfl, hrest⟩
      · cases heq
      · exact hafter hrest fun hholder => by rw [hnone] at hholder; cases hholder
    | exhausted =>
      rcases append_singleton_eq_split hpast with ⟨-, heq, -⟩ | ⟨rest, rfl, hrest⟩
      · cases heq
      · exact hafter hrest fun hholder => .inl ⟨nofun, hholder⟩
    | created hnone =>
      rcases append_singleton_eq_split hpast with ⟨-, heq, -⟩ | ⟨rest, rfl, hrest⟩
      · cases heq
      · exact hafter hrest fun hholder => by rw [hnone] at hholder; cases hholder
    | failed hnone =>
      rcases append_singleton_eq_split hpast with ⟨-, heq, -⟩ | ⟨rest, rfl, hrest⟩
      · cases heq
      · exact hafter hrest fun hholder => by rw [hnone] at hholder; cases hholder
    | poisoned hheld =>
      rcases append_singleton_eq_split hpast with ⟨-, heq, rfl⟩ | ⟨rest, rfl, hrest⟩
      · obtain rfl := SlotEvent.exited.inj heq
        exact .inl ⟨hheld, List.not_mem_nil⟩
      · exact hafter hrest fun hholder => .inl ⟨nofun, hholder⟩
    | @clean other shut hheld hcleanup =>
      rcases append_singleton_eq_split hpast with ⟨-, heq, -⟩ | ⟨rest, rfl, hrest⟩
      · rw [SlotEvent.exited.inj heq] at hcleanup
        exact absurd hcleanup hpoisoned
      · refine hafter hrest fun hholder => .inr ⟨other, rfl, ?_, hcleanup⟩
        exact Option.some.inj (hheld.symm.trans hholder)

/-- **Between a poisoned exit and a new generation** the same generation exits cleanly, and only
then a source is prepared. -/
theorem clean_between (h : SlotTrace past slot) {earlier middle later : List SlotEvent}
    {exit : SessionExit} {generation : ConnectionGeneration} (hpoisoned : exit.cleanup ≠ .clean)
    (hpast : past = earlier ++ .exited exit :: middle ++ .launched generation true :: later) :
    ∃ first event second, middle = first ++ event :: second ∧ CleanExit exit.generation event ∧
      .prepared ∈ second := by
  have hblocks : (SlotEvent.exited exit).Blocks := fun hclean => absurd hclean hpoisoned
  have hprepared := h.prepared_between hblocks hpast
  induction h generalizing later with
  | new => exact absurd hpast.symm (List.append_ne_nil_of_right_ne_nil _ (List.cons_ne_nil _ _))
  | @step past events slot slot' h hstep ih =>
    rcases hstep.cases_events with rfl | ⟨last, rfl⟩
    · rw [List.append_nil] at hpast
      exact ih hpast
    · rcases append_singleton_eq_split hpast with ⟨hbefore, rfl, -⟩ | ⟨rest, -, hrest⟩
      · rcases h.held_since hbefore hpoisoned with
          ⟨hholder, hquiet⟩ | ⟨first, event, second, rfl, hclean, hquiet⟩
        · exact absurd hprepared hquiet
        · refine ⟨first, event, second, rfl, hclean, ?_⟩
          rcases List.mem_append.mp hprepared with hmem | hmem
          · exact absurd hmem hquiet
          · refine (List.mem_cons.mp hmem).resolve_left fun heq => ?_
            obtain ⟨other, rfl, -⟩ := hclean
            cases heq
      · exact ih hrest

/-- **Identities are strictly increasing**, so none is used twice, and none after the last one. -/
theorem handedOut_increasing (h : SlotTrace past slot) : (handedOut past).Pairwise (· < ·) ∧
    ∀ id ∈ handedOut past, ∀ next, slot.next = some next → id < next := by
  induction h with
  | new => exact ⟨.nil, nofun⟩
  | @step past events slot slot' h hstep ih =>
    obtain ⟨hpairwise, hbound⟩ := ih
    have hkept {event : SlotEvent} (hevent : handedOut [event] = []) (hnext :
        slot'.next = slot.next) :
        (handedOut (past ++ [event])).Pairwise (· < ·) ∧
          ∀ id ∈ handedOut (past ++ [event]), ∀ next, slot'.next = some next → id < next := by
      have heq : handedOut (past ++ [event]) = handedOut past := by
        unfold handedOut at hevent ⊢
        rw [List.filterMap_append, hevent, List.append_nil]
      rw [heq, hnext]
      exact ⟨hpairwise, hbound⟩
    have hnew {id : UInt64} {created : Bool} (hnext : slot.next = some id)
        (hnext' : slot'.next = u64CheckedSucc id) :
        (handedOut (past ++ [.launched ⟨id⟩ created])).Pairwise (· < ·) ∧
          ∀ old ∈ handedOut (past ++ [.launched ⟨id⟩ created]), ∀ next,
            slot'.next = some next → old < next := by
      have heq : handedOut (past ++ [.launched ⟨id⟩ created]) = handedOut past ++ [id] := by
        unfold handedOut
        rw [List.filterMap_append]
        rfl
      rw [heq, hnext']
      refine ⟨List.pairwise_append.mpr ⟨hpairwise, List.pairwise_singleton _ _, ?_⟩, ?_⟩
      · intro old hold other hother
        rw [List.mem_singleton.mp hother]
        exact hbound old hold id hnext
      · intro old hold next hsucc
        have hlt := lt_of_u64CheckedSucc hsucc
        rcases List.mem_append.mp hold with hmem | hmem
        · exact UInt64.lt_trans (hbound old hmem id hnext) hlt
        · rw [List.mem_singleton.mp hmem]
          exact hlt
    cases hstep with
    | quiet =>
      rw [List.append_nil]
      exact ⟨hpairwise, hbound⟩
    | prepared => exact hkept rfl rfl
    | exhausted => exact hkept rfl rfl
    | created _ _ hnext => exact hnew hnext rfl
    | failed _ _ hnext => exact hnew hnext rfl
    | poisoned => exact hkept rfl rfl
    | clean => exact hkept rfl rfl

end SlotTrace

end Hsms
end SecsRust

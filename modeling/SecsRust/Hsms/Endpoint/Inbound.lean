import SecsRust.Hsms.Endpoint.Loop
import SecsRust.Hsms.Supervisor.Inbound

/-!
# Inbound Primaries of the endpoint

A Primary that Core delivers passes three queues: that of the Driver, that of the channel to
the application, and the application itself.  Two of them are bounded, the consumer runs on
its own, and the capacity is read before the generation is served.  That nothing is lost
between two Primaries which do arrive rests on an order of events rather than on a bound,
and this order is what is followed here.

## The argument

`publish` offers to the application what the Driver has queued, in this order, and serves
the generation again only when there is nothing left to offer.  Serving it once delivers one
Primary at most, so at most one waits in the Driver when `publish` runs.  If the channel
takes it, all is handed over.  If not, the Primary is lost, the generation is closed with
`ApplicationBackpressure` unless it was closing, and a generation that closes delivers
nothing more.  So what has found a place is always the first part of what Core has
delivered, and one more has been delivered at most (`GapFree`).

`Handed` is the invariant over the steps of the loop.  It knows in addition how far
`publish` has come (`Handover`), which is what makes the count of one available where an
offer fails (`Handed.offer`). Generations follow one another in the slot, so the statement
is made for each of them by its number; what another generation does is nothing to it
(`GapFree.frame`).

## The application

Behind the channel there is no loss at all.  What has found a place is received in this
order or is still queued, until the receiver is dropped, and the bytes charged are those of
the queued Primaries (`Received`).  `primaries_reach_the_application` puts the two accounts
together.
-/

namespace SecsRust
namespace Hsms

open Secs2 SessionDriver EndpointRound

universe u v

variable {W : Type u} {κ : Type v}

/-! ## What is seen of Primaries -/

namespace EndpointEffect

/-- What the supervisor does. -/
def supervised : EndpointEffect κ → Option (SupervisorEffect (LifecycleCommand κ))
  | supervisor effect => some effect
  | _ => none

/-- The Primary that finds a place. -/
def queues : EndpointEffect κ → Option InboundPrimary
  | primary inbound true => some inbound
  | _ => none

/-- The Primary that the application receives. -/
def receives : EndpointEffect κ → Option InboundPrimary
  | receivedPrimary inbound => some inbound
  | _ => none

/-- The effect is none of a Primary, and none of the supervisor. -/
def aside : EndpointEffect κ → Bool
  | supervisor _ | primary _ _ | receivedPrimary _ => false
  | _ => true

end EndpointEffect

/-- What the supervisor has done. -/
def supervisedIn (past : List (EndpointEffect κ)) : List (SupervisorEffect (LifecycleCommand κ)) :=
  past.filterMap EndpointEffect.supervised

/-- The Primaries that have found a place. -/
def queuedIn (past : List (EndpointEffect κ)) : List InboundPrimary :=
  past.filterMap EndpointEffect.queues

/-- The Primaries that the application has received. -/
def consumedIn (past : List (EndpointEffect κ)) : List InboundPrimary :=
  past.filterMap EndpointEffect.receives

/-- The Primaries of a generation that have found a place. -/
def placedIn (generation : ConnectionGeneration) (past : List (EndpointEffect κ)) :
    List InboundPrimary :=
  (queuedIn past).filter fun primary => primary.context.generation = generation

/-- What the Driver of a generation has done. -/
def drivenOf (generation : ConnectionGeneration) (past : List (EndpointEffect κ)) :
    List (DriverEffect (RuntimeCompletion (LifecycleCommand κ))) :=
  drivenBy generation (supervisedIn past)

section

variable (past effects : List (EndpointEffect κ)) (generation : ConnectionGeneration)

theorem supervisedIn_append :
    supervisedIn (past ++ effects) = supervisedIn past ++ supervisedIn effects :=
  List.filterMap_append

theorem queuedIn_append : queuedIn (past ++ effects) = queuedIn past ++ queuedIn effects :=
  List.filterMap_append

theorem consumedIn_append : consumedIn (past ++ effects) = consumedIn past ++ consumedIn effects :=
  List.filterMap_append

theorem placedIn_append :
    placedIn generation (past ++ effects) =
      placedIn generation past ++ placedIn generation effects := by
  unfold placedIn
  rw [queuedIn_append, List.filter_append]

theorem drivenOf_append :
    drivenOf generation (past ++ effects) =
      drivenOf generation past ++ drivenOf generation effects := by
  unfold drivenOf
  rw [supervisedIn_append, drivenBy_append]

end

/-- Effects that are none of a Primary. -/
theorem aside_seen {effects : List (EndpointEffect κ)}
    (h : ∀ effect ∈ effects, effect.aside = true) :
    supervisedIn effects = [] ∧ queuedIn effects = [] ∧ consumedIn effects = [] := by
  refine ⟨List.filterMap_eq_nil_iff.mpr fun effect hmem => ?_,
    List.filterMap_eq_nil_iff.mpr fun effect hmem => ?_,
    List.filterMap_eq_nil_iff.mpr fun effect hmem => ?_⟩
  all_goals
    have haside := h effect hmem
    cases effect <;> first | rfl | cases haside

theorem seen_during [WriterIngress W] (s : HsmsRuntime W κ)
    (input : SupervisorInput W (LifecycleCommand κ)) :
    supervisedIn (during s input) = (s.supervisor.perform input).2 ∧
      queuedIn (during s input) = [] ∧
      consumedIn (during s input) = [] := by
  have hnotices : ∀ effect ∈
      ((s.supervisor.perform input).2.filterMap SupervisorEffect.notified).map
        (EndpointEffect.diagnostic (κ := κ)), effect.aside = true := by
    intro effect hmem
    obtain ⟨event, -, rfl⟩ := List.mem_map.mp hmem
    rfl
  obtain ⟨hsupervised, hqueued, hreceived⟩ := aside_seen hnotices
  have hown : ∀ effects : List (SupervisorEffect (LifecycleCommand κ)),
      supervisedIn (effects.map EndpointEffect.supervisor) = effects ∧
        queuedIn (effects.map EndpointEffect.supervisor) = [] ∧
          consumedIn (effects.map EndpointEffect.supervisor) = [] := by
    intro effects
    unfold supervisedIn queuedIn consumedIn
    rw [List.filterMap_map, List.filterMap_map, List.filterMap_map]
    exact ⟨List.filterMap_some, List.filterMap_eq_nil_iff.mpr fun _ _ => rfl,
      List.filterMap_eq_nil_iff.mpr fun _ _ => rfl⟩
  obtain ⟨hsupervised', hqueued', hreceived'⟩ := hown (s.supervisor.perform input).2
  have hduring : during s input = (s.supervisor.perform input).2.map .supervisor ++
      ((s.supervisor.perform input).2.filterMap SupervisorEffect.notified).map .diagnostic := rfl
  rw [hduring, supervisedIn_append, queuedIn_append, consumedIn_append, hsupervised,
    hqueued, hreceived, hsupervised', hqueued', hreceived', List.append_nil]
  exact ⟨rfl, rfl, rfl⟩

/-! ## Generations -/

/-- The Primary that a Driver with these tokens makes of a delivery. -/
def InboundPrimary.of (owner : ℕ) (generation : ConnectionGeneration)
    (delivery : DataMessage × Option ReplyCapabilityId) : InboundPrimary :=
  let header := delivery.1.header
  ⟨⟨header.stream, header.function, delivery.1.body⟩,
    ((delivery.2.map fun capability => ⟨owner, capability, generation,
      header.function.raw < 255⟩).map .reply).getD
      .data, .fromData generation header⟩

theorem SessionDriver.primary_eq (driver : SessionDriver W κ) :
    driver.primary = .of driver.tokenOwner driver.generation := rfl

/-- **The Primaries of a generation have found a place without a gap**: they are the first that its
Core has delivered, and at most one more has been delivered. -/
structure GapFree (generation : ConnectionGeneration) (past : List (EndpointEffect κ)) : Prop where
  made : ∃ owner, takenIn (drivenOf generation past) <+:
    (deliveredIn (drivenOf generation past)).map (.of owner generation)
  taken : placedIn generation past <+: takenIn (drivenOf generation past)
  short : (deliveredIn (drivenOf generation past)).length ≤ (placedIn generation past).length + 1

/-- What the loop knows of the Primaries.  It is about the generation in the slot and about all
that came before it. -/
structure Handed (past : List (EndpointEffect κ)) (stage : EndpointStage W κ) : Prop where
  generations : ∀ generation, GapFree generation past
  identified : Identified (supervisedIn past) stage.runtime.supervisor
  supplied : ∀ g, stage.runtime.supervisor.current = some g →
    Supplied (drivenOf g.generation past) g
  refused : ∀ g, stage.runtime.supervisor.current = some g →
    takenIn (drivenOf g.generation past) ≠ placedIn g.generation past →
      g.driver.closing.isSome = true ∨ stage.locals.handover = .refused
  drained : ∀ g, stage.runtime.supervisor.current = some g → stage.locals.handover ≠ .served →
    g.driver.inbound = []

/-- The Primaries that have been taken are the first that Core has delivered. -/
theorem Supplied.taken {past : List (DriverEffect (RuntimeCompletion κ))}
    {g : GenerationRuntime W κ}
    (h : Supplied past g) : ∃ lost,
    (deliveredIn past).map g.driver.primary = takenIn past ++ g.driver.inbound ++ lost ∧
      (lost ≠ [] → g.driver.closing.isSome = true) := by
  obtain ⟨_, ⟨kept, lost, hsplit, hkept, -, hlost⟩, -⟩ := h.fed
  refine ⟨lost.map g.driver.primary, ?_, fun hsome => ?_⟩
  · rw [hsplit, List.map_append, hkept]
  · have hreason := hlost fun hnil => hsome (by rw [hnil]; rfl)
    have hclosing : (g.driver.closing.map ClosingState.reason).isSome = true := by rw [hreason]; rfl
    rwa [Option.isSome_map] at hclosing

/-- Only what has been delivered and taken counts. -/
theorem Supplied.same {past past' : List (DriverEffect (RuntimeCompletion κ))}
    {g : GenerationRuntime W κ}
    (h : Supplied past g) (hdelivered : deliveredIn past' = deliveredIn past)
    (htaken : takenIn past' = takenIn past) : Supplied past' g := by
  obtain ⟨hbooked, ⟨read, hqueued, horder⟩, hgeneration⟩ := h
  refine ⟨hbooked, ⟨read, ?_, ?_⟩, hgeneration⟩
  · rw [hdelivered, htaken]
    exact hqueued
  · rw [hdelivered]
    exact horder

namespace GapFree

variable {past effects : List (EndpointEffect κ)} {generation : ConnectionGeneration}

/-- What is nothing to a generation. -/
theorem frame (h : GapFree generation past)
    (hdelivered : deliveredIn (drivenOf generation effects) = [])
    (htaken : takenIn (drivenOf generation effects) = [])
    (hplaced : placedIn generation effects = []) :
    GapFree generation (past ++ effects) := by
  obtain ⟨hmade, hprefix, hshort⟩ := h
  refine ⟨?_, ?_, ?_⟩
  all_goals rw [drivenOf_append]
  · rw [takenIn_append, deliveredIn_append, hdelivered, htaken, List.append_nil, List.append_nil]
    exact hmade
  · rw [takenIn_append, htaken, List.append_nil, placedIn_append, hplaced, List.append_nil]
    exact hprefix
  · rw [deliveredIn_append, hdelivered, List.append_nil, placedIn_append, hplaced, List.append_nil]
    exact hshort

theorem idle (h : GapFree generation past) (hdriven : drivenOf generation effects = [])
    (hplaced : placedIn generation effects = []) : GapFree generation (past ++ effects) :=
  h.frame (by rw [hdriven]; rfl) (by rw [hdriven]; rfl) hplaced

theorem of_supplied {g : GenerationRuntime W (LifecycleCommand κ)}
    (h : Supplied (drivenOf g.generation past) g)
    (htaken : placedIn g.generation past <+: takenIn (drivenOf g.generation past))
    (hshort : (deliveredIn (drivenOf g.generation past)).length ≤
      (placedIn g.generation past).length + 1) :
    GapFree g.generation past := by
  obtain ⟨lost, hall, -⟩ := h.taken
  rw [List.append_assoc, SessionDriver.primary_eq, h.generation] at hall
  exact ⟨⟨g.driver.tokenOwner, _, hall.symm⟩, htaken, hshort⟩

end GapFree

namespace Handed

variable {past effects : List (EndpointEffect κ)} {s s' : HsmsRuntime W κ} {l l' : LoopLocals κ}

/-- What delivers nothing, takes nothing and finds no place for anything. -/
theorem frame (h : Handed past ⟨s, l⟩) (hsupervisor : s'.supervisor = s.supervisor)
    (hdelivered : ∀ generation, deliveredIn (drivenOf generation effects) = [])
    (htaken : ∀ generation, takenIn (drivenOf generation effects) = [])
    (hqueued : queuedIn effects = [])
    (hidentified : Identified (supervisedIn (past ++ effects)) s.supervisor)
    (hserved : l'.handover ≠ .served → l.handover ≠ .served ∨ s.Drained)
    (hrefused : l.handover = .refused → l'.handover = .refused) :
    Handed (past ++ effects) ⟨s', l'⟩ := by
  have hplaced (generation : ConnectionGeneration) : placedIn generation effects = [] := by
    unfold placedIn
    rw [hqueued]
    rfl
  have hdelivers (generation : ConnectionGeneration) :
      deliveredIn (drivenOf generation (past ++ effects)) =
        deliveredIn (drivenOf generation past) := by
    rw [drivenOf_append, deliveredIn_append, hdelivered, List.append_nil]
  have htakes (generation : ConnectionGeneration) :
      takenIn (drivenOf generation (past ++ effects)) = takenIn (drivenOf generation past) := by
    rw [drivenOf_append, takenIn_append, htaken, List.append_nil]
  refine ⟨fun generation => (h.generations generation).frame (hdelivered _) (htaken _) (hplaced _),
    ?_, fun g hcurrent => ?_, fun g hcurrent hmissing => ?_, fun g hcurrent hoffered => ?_⟩
  · show Identified _ s'.supervisor
    rw [hsupervisor]
    exact hidentified
  all_goals replace hcurrent : s.supervisor.current = some g := hsupervisor ▸ hcurrent
  · exact (h.supplied g hcurrent).same (hdelivers _) (htakes _)
  · rw [htakes, placedIn_append, hplaced, List.append_nil] at hmissing
    exact (h.refused g hcurrent hmissing).imp_right hrefused
  · rcases hserved hoffered with hbefore | hempty
    · exact h.drained g hcurrent hbefore
    · exact hempty g hcurrent

/-- What leaves the supervisor alone. -/
theorem quiet (h : Handed past ⟨s, l⟩) (hsupervisor : s'.supervisor = s.supervisor)
    (hsupervised : supervisedIn effects = []) (hqueued : queuedIn effects = [])
    (hserved : l'.handover ≠ .served → l.handover ≠ .served ∨ s.Drained)
    (hrefused : l.handover = .refused → l'.handover = .refused) :
    Handed (past ++ effects) ⟨s', l'⟩ := by
  have hdriven (generation : ConnectionGeneration) : drivenOf generation effects = [] := by
    unfold drivenOf
    rw [hsupervised]
    rfl
  refine h.frame hsupervisor (fun _ => ?_) (fun _ => ?_) hqueued ?_ hserved hrefused
  · rw [hdriven]
    rfl
  · rw [hdriven]
    rfl
  · rw [supervisedIn_append, hsupervised, List.append_nil]
    exact h.identified

variable [WriterIngress W]

/-- A round of the generation in the slot.  It may read once all is handed over. -/
theorem round {reads : ℕ} {calls : DriverInput (RuntimeCompletion (LifecycleCommand κ)) → Prop}
    {g : GenerationRuntime W (LifecycleCommand κ)} {r : GenerationRound W (LifecycleCommand κ)}
    (h : Handed past ⟨s, l⟩) (hcurrent : s.supervisor.current = some g)
    (proceeds : GenerationRound.Proceeds calls (fun _ => True) (.start g) r)
    (hcalls : ¬ calls .takeInbound)
    (hmessages : messagesIn r.effects ≤ reads)
    (hreads : reads = 0 ∨ reads = 1 ∧ l.handover = .drained) :
    (deliveredIn (drivenOf g.generation past ++ r.effects)).length ≤
      (placedIn g.generation past).length + 1 := by
  have hadds := proceeds.adds (h.supplied g hcurrent).booked hcalls
  have hshort := (h.generations g.generation).short
  have hdelivered := hadds.delivered
  rw [deliveredIn_append, List.length_append]
  rcases hreads with hnone | ⟨hone, hdrained⟩
  · omega
  · by_cases hclosing : g.driver.closing.isSome = true
    · rw [(hadds.closing hclosing).2]
      exact hshort
    · have hall : takenIn (drivenOf g.generation past) = placedIn g.generation past := by
        by_contra hmissing
        rcases h.refused g hcurrent hmissing with hcloses | hrefused
        · exact hclosing hcloses
        · exact nomatch hdrained.symm.trans hrefused
      obtain ⟨lost, hsplit, hlost⟩ := (h.supplied g hcurrent).taken
      have hempty : g.driver.inbound = [] := h.drained g hcurrent fun hserved =>
        nomatch hdrained.symm.trans hserved
      have hkept : lost = [] := by
        by_contra hsome
        exact hclosing (hlost hsome)
      rw [hempty, hkept, List.append_nil, List.append_nil, hall] at hsplit
      have hlength := congrArg List.length hsplit
      rw [List.length_map] at hlength
      omega

/-- **An operation of the supervisor** that takes no Primary.  It may serve the generation once all
is handed over. -/
theorem perform (h : Handed past ⟨s, l⟩) {input : SupervisorInput W (LifecycleCommand κ)}
    (hquiet : input.drains = false) (htakes : ¬ input.Calls .takeInbound)
    (hreads : input.reads = 0 ∧ (l'.handover ≠ .served → l.handover ≠ .served) ∨
      input.reads = 1 ∧ l.handover = .drained ∧ l'.handover = .served)
    (hrefused : l.handover = .refused → l'.handover = .refused ∨
      ∀ g, (s.supervisor.perform input).1.current = some g → g.driver.closing.isSome = true) :
    Handed (past ++ during s input) ⟨after s input, l'⟩ := by
  obtain ⟨hsupervised, hqueued, -⟩ := seen_during s input
  have hidentified : Identified (supervisedIn past) s.supervisor := h.identified
  have hplaced (generation : ConnectionGeneration) : placedIn generation (during s input) = [] := by
    unfold placedIn
    rw [hqueued]
    rfl
  have hdriven (generation : ConnectionGeneration) : drivenOf generation (during s input) =
      drivenBy generation (s.supervisor.perform input).2 := by
    unfold drivenOf
    rw [hsupervised]
  have hplaces (generation : ConnectionGeneration) :
      placedIn generation (past ++ during s input) = placedIn generation past := by
    rw [placedIn_append, hplaced, List.append_nil]
  have hafter : (after s input).supervisor = (s.supervisor.perform input).1 := rfl
  have hidentified' : Identified (supervisedIn (past ++ during s input))
      (after s input).supervisor := by
    rw [supervisedIn_append, hsupervised]
    exact ConnectionSupervisor.identified_perform hidentified input hquiet
  have hidle (generation : ConnectionGeneration) (hnone :
      drivenBy generation (s.supervisor.perform input).2 = []) :
      GapFree generation (past ++ during s input) :=
    (h.generations generation).idle ((hdriven _).trans hnone) (hplaced _)
  have hturn := ConnectionSupervisor.turn_perform s.supervisor hquiet
  have hmessages {g : GenerationRuntime W (LifecycleCommand κ)} (hcurrent :
      s.supervisor.current = some g) :=
    ConnectionSupervisor.messages_perform hcurrent input
  have hlaunched {g : GenerationRuntime W (LifecycleCommand κ)} (hfree :
      s.supervisor.current = none) :=
    ConnectionSupervisor.drivenBy_of_launched hidentified input (g := g) hfree
  have hserved {g : GenerationRuntime W (LifecycleCommand κ)} {r :
      GenerationRound W (LifecycleCommand κ)}
      (hcurrent : s.supervisor.current = some g)
      (proceeds : GenerationRound.Proceeds input.Calls (fun _ => True) (.start g) r)
      (hgone : drivenIn (s.supervisor.perform input).2 = r.effects.map fun effect =>
        (g.generation, effect)) :
      Supplied (drivenOf r.runtime.generation (past ++ during s input)) r.runtime ∧
        (∀ generation, GapFree generation (past ++ during s input)) ∧
          Adds g.driver r.runtime.driver r.effects ∧ messagesIn r.effects ≤ input.reads ∧
            drivenOf g.generation (past ++ during s input) =
              drivenOf g.generation past ++ r.effects := by
    have hsame : r.runtime.generation = g.generation := proceeds.generation
    have hown : drivenOf g.generation
        (past ++ during s input) = drivenOf g.generation past ++ r.effects := by
      rw [drivenOf_append, hdriven, drivenBy_of_same hgone]
    have hsupplied : Supplied
        (drivenOf r.runtime.generation (past ++ during s input)) r.runtime := by
      rw [hsame, hown]
      exact proceeds.supplied (h.supplied g hcurrent)
    have hadds := proceeds.adds (h.supplied g hcurrent).booked htakes
    have hread : messagesIn r.effects ≤ input.reads := by
      have hle := hmessages hcurrent
      rw [hgone, List.map_map] at hle
      exact (congrArg messagesIn (List.map_id r.effects)).ge.trans hle
    refine ⟨hsupplied, fun generation => ?_, hadds, hread, hown⟩
    by_cases hother : generation = r.runtime.generation
    · rw [hother]
      refine .of_supplied hsupplied ?_ ?_
      · rw [hplaces, hsame, hown, takenIn_append, hadds.taken, List.append_nil]
        exact (h.generations g.generation).taken
      · rw [hplaces, hsame, hown]
        exact h.round hcurrent proceeds htakes hread (hreads.imp And.left fun hone =>
          ⟨hone.1, hone.2.1⟩)
    · rw [hsame] at hother
      exact hidle generation (drivenBy_of_other hgone hother)
  generalize hgone : drivenIn (s.supervisor.perform input).2 = gone at hturn
  cases hturn with
  | idle same =>
    have hnone (generation : ConnectionGeneration) :
        drivenBy generation (s.supervisor.perform input).2 = [] := by
      unfold drivenBy
      rw [hgone]
      rfl
    have hsame (generation : ConnectionGeneration) :
        drivenOf generation (past ++ during s input) = drivenOf generation past := by
      rw [drivenOf_append, hdriven, hnone, List.append_nil]
    refine ⟨fun generation => hidle generation (hnone generation), hidentified',
      fun g hcurrent => ?_, fun g hcurrent hmissing => ?_, fun g hcurrent hoffered => ?_⟩
    all_goals have hbefore : s.supervisor.current = some g := same.symm.trans hcurrent
    · rw [hsame]
      exact h.supplied g hbefore
    · rw [hsame, hplaces] at hmissing
      rcases h.refused g hbefore hmissing with hclosing | hrefuses
      · exact Or.inl hclosing
      · exact (hrefused hrefuses).elim Or.inr fun hcloses => Or.inl (hcloses g hcurrent)
    · rcases hreads with ⟨-, hkeeps⟩ | ⟨-, -, hserves⟩
      · exact h.drained g hbefore (hkeeps hoffered)
      · exact absurd hserves hoffered
  | @serve g r holds proceeds next =>
    obtain ⟨hsupplied, hgenerations, hadds, hread, hown⟩ := hserved holds proceeds hgone
    have hsame : r.runtime.generation = g.generation := proceeds.generation
    refine ⟨hgenerations, hidentified', fun g' hcurrent => ?_, fun g' hcurrent hmissing => ?_,
      fun g' hcurrent hoffered => ?_⟩
    all_goals obtain rfl : r.runtime = g' := Option.some.inj (next.symm.trans hcurrent)
    · exact hsupplied
    · rw [hsame, hown, hplaces, takenIn_append, hadds.taken, List.append_nil] at hmissing
      rcases h.refused g holds hmissing with hclosing | hrefuses
      · exact Or.inl (hadds.closing hclosing).1
      · exact (hrefused hrefuses).elim Or.inr fun hcloses => Or.inl (hcloses _ hcurrent)
    · rcases hreads with ⟨hnone, hkeeps⟩ | ⟨-, -, hserves⟩
      · have hempty := h.drained g holds (hkeeps hoffered)
        have hle := hadds.inbound
        rw [hempty, List.length_nil] at hle
        exact List.length_eq_zero_iff.mp (by omega)
      · exact absurd hserves hoffered
  | @release g r holds proceeds free =>
    obtain ⟨-, hgenerations, -⟩ := hserved holds proceeds hgone
    have hgone (g' : GenerationRuntime W (LifecycleCommand κ)) :
        (after s input).supervisor.current ≠ some g' := by
      intro hcurrent
      cases free.symm.trans hcurrent
    exact ⟨hgenerations, hidentified', fun g' hcurrent => absurd hcurrent (hgone g'),
      fun g' hcurrent => absurd hcurrent (hgone g'), fun g' hcurrent => absurd hcurrent (hgone g')⟩
  | @launch r launched id tokenOwner now free running made next =>
    obtain ⟨hsupplied, hnothing⟩ := supplied_fromStream made
    have hfresh : drivenOf r.runtime.generation past = [] := hlaunched free next
    have hown : drivenOf r.runtime.generation (past ++ during s input) = r.effects := by
      rw [drivenOf_append, hfresh, hdriven, drivenBy_of_same hgone, List.nil_append]
    have hunplaced : placedIn r.runtime.generation past = [] := by
      have hprefix := (h.generations r.runtime.generation).taken
      rw [hfresh] at hprefix
      exact List.prefix_nil.mp hprefix
    obtain ⟨htaken, hempty⟩ := hsupplied.nothing hnothing
    refine ⟨fun generation => ?_, hidentified', fun g' hcurrent => ?_, fun g' hcurrent hmissing =>
      ?_, fun g' hcurrent _ => ?_⟩
    · by_cases hother : generation = r.runtime.generation
      · rw [hother]
        refine .of_supplied (by rwa [hown]) ?_ ?_
        · rw [hplaces, hunplaced]
          exact List.nil_prefix
        · rw [hown, hnothing]
          exact Nat.zero_le _
      · exact hidle generation (drivenBy_of_other hgone hother)
    all_goals obtain rfl : r.runtime = g' := Option.some.inj (next.symm.trans hcurrent)
    · rwa [hown]
    · rw [hown, hplaces, hunplaced, htaken] at hmissing
      exact absurd rfl hmissing
    · exact hempty

/-- A forced close closes. -/
theorem closing_forceClose {reason : GenerationCloseReason} {now : MonoTime}
    {g : GenerationRuntime W (LifecycleCommand κ)}
    (hcurrent : (s.supervisor.perform (.turn (.forceClose reason now))).1.current = some g) :
    g.driver.closing.isSome = true := by
  have hcurrent : (s.supervisor.turnCurrent (.forceClose reason now)).1.current = some g := hcurrent
  unfold ConnectionSupervisor.turnCurrent at hcurrent
  split at hcurrent
  · next hfree => exact nomatch hfree.symm.trans hcurrent
  · next before _ =>
    rw [← Option.some.inj hcurrent]
    exact Round.closing_onShutdown _ _

omit [WriterIngress W] in
/-- What is queued in a Driver is of its generation. -/
theorem generation_of_mem {driven : List (DriverEffect (RuntimeCompletion κ))}
    {g : GenerationRuntime W κ}
    (h : Supplied driven g) {primary : InboundPrimary} (hmem : primary ∈ g.driver.inbound) :
    primary.context.generation = g.generation := by
  obtain ⟨_, ⟨kept, _, -, hkept, -⟩, -⟩ := h.fed
  have hmem : primary ∈ kept.map g.driver.primary := by
    rw [hkept]
    exact List.mem_append_right _ hmem
  obtain ⟨delivery, -, rfl⟩ := List.mem_map.mp hmem
  exact h.generation

/-- **The first Primary in the queue is offered** to the application.  If it finds no place it was
the last. -/
theorem offer (h : Handed past ⟨s, l⟩) {primary : InboundPrimary}
    (taken : (s.supervisor.current.bind fun current => current.driver.inbound.head?) = some primary)
    (queued : Bool)
    (delivery : Delivery) :
    Handed (past ++ (during s (.turn (.driver .takeInbound)) ++ [.primary primary queued]))
      ⟨{ after s (.turn (.driver .takeInbound)) with delivery := delivery },
        { l with handover := l.handover.offered queued }⟩ := by
  obtain ⟨g, hcurrent, hhead⟩ := Option.bind_eq_some_iff.mp taken
  obtain ⟨rest, hinbound⟩ : ∃ rest, g.driver.inbound = primary :: rest := by
    cases hcases : g.driver.inbound with
    | nil => rw [hcases] at hhead; cases hhead
    | cons first rest =>
      rw [hcases] at hhead
      obtain rfl := Option.some.inj hhead
      exact ⟨rest, rfl⟩
  have hsupplied : Supplied (drivenOf g.generation past) g := h.supplied g hcurrent
  have hof : primary.context.generation = g.generation :=
    generation_of_mem hsupplied (hinbound ▸ List.mem_cons_self)
  generalize hinput : (SupervisorInput.turn (.driver .takeInbound) :
    SupervisorInput W (LifecycleCommand κ)) = input
  have hperform : s.supervisor.perform input =
      ({ s.supervisor with current := some { g with driver := { g.driver with inbound := rest } } },
        [.driver g.generation (.takenInbound (some primary))]) := by
    subst hinput
    show s.supervisor.turnCurrent (.driver .takeInbound) = _
    unfold ConnectionSupervisor.turnCurrent
    rw [hcurrent]
    have htail : g.driver.inbound.tail = rest := by rw [hinbound]; rfl
    rw [← htail, ← hhead]
    rfl
  have hstep := hsupplied.call .takeInbound
  have hnext : (machine.step g.driver (.takeInbound :
      DriverInput (RuntimeCompletion (LifecycleCommand κ)))).1 =
      { g.driver with inbound := g.driver.inbound.tail } := rfl
  have htook : (machine.step g.driver (.takeInbound :
      DriverInput (RuntimeCompletion (LifecycleCommand κ)))).2 =
      [.takenInbound g.driver.inbound.head?] := rfl
  rw [hnext, htook, hinbound, List.tail_cons, List.head?_cons] at hstep
  -- what is waiting in the Driver is all that has not found a place
  obtain ⟨lost, hsplit, -⟩ := hsupplied.taken
  obtain ⟨missing, hmissing⟩ := (h.generations g.generation).taken
  have hshort := (h.generations g.generation).short
  have hlength := congrArg List.length hsplit
  rw [List.length_map, ← hmissing, hinbound, List.length_append, List.length_append,
    List.length_append, List.length_cons] at hlength
  obtain rfl : missing = [] := List.length_eq_zero_iff.mp (by omega)
  obtain rfl : rest = [] := List.length_eq_zero_iff.mp (by omega)
  rw [List.append_nil] at hmissing
  obtain ⟨hsupervised, hqueued, -⟩ := seen_during s input
  rw [hperform] at hsupervised
  have hseen : supervisedIn (during s input ++ [.primary primary queued]) =
      [.driver g.generation (.takenInbound (some primary))] := by
    rw [supervisedIn_append, hsupervised]
    rfl
  have hown : drivenOf g.generation (past ++ (during s input ++ [.primary primary queued])) =
      drivenOf g.generation past ++ [.takenInbound (some primary)] := by
    have hlast : drivenOf g.generation (during s input ++ [.primary primary queued]) =
        [.takenInbound (some primary)] := by
      unfold drivenOf
      rw [hseen]
      exact drivenBy_of_same rfl
    rw [drivenOf_append, hlast]
  have hdelivered : deliveredIn (drivenOf g.generation past ++ [.takenInbound (some primary)]) =
      deliveredIn (drivenOf g.generation past) := by
    rw [deliveredIn_append]
    exact List.append_nil _
  have htaken : takenIn (drivenOf g.generation past ++ [.takenInbound (some primary)]) =
      placedIn g.generation past ++ [primary] := by
    rw [takenIn_append, ← hmissing]
    rfl
  have hplaced (generation : ConnectionGeneration) : placedIn generation (during s input ++
      [.primary primary queued]) = if queued ∧
        g.generation = generation then [primary] else [] := by
    unfold placedIn
    rw [queuedIn_append, hqueued, List.nil_append]
    cases queued with
    | false => rfl
    | true =>
      show [primary].filter _ = _
      by_cases hsame : g.generation = generation
      · rw [if_pos ⟨rfl, hsame⟩, List.filter_cons_of_pos (by rw [hof]; exact decide_eq_true hsame)]
        rfl
      · rw [if_neg fun hboth => hsame hboth.2,
          List.filter_cons_of_neg (by rw [hof]; simpa using hsame)]
        rfl
  obtain ⟨g₁, hg₁, hsame, hempty⟩ : ∃ g₁ : GenerationRuntime W (LifecycleCommand κ),
      g₁ = { g with driver := { g.driver with inbound := [] } } ∧ g.generation = g₁.generation ∧
        g₁.driver.inbound = [] := ⟨_, rfl, rfl, rfl⟩
  have hafter : (after s input).supervisor = { s.supervisor with current := some g₁ } := by
    rw [hg₁]
    exact congrArg Prod.fst hperform
  rw [← hg₁] at hstep
  rw [hsame] at hown hstep hmissing htaken hdelivered hshort
  refine ⟨fun generation => ?_, ?_, fun g' hcurrent' => ?_, fun g' hcurrent' hmissing' => ?_,
    fun g' hcurrent' _ => ?_⟩
  · by_cases hother : generation = g₁.generation
    · rw [hother]
      refine .of_supplied (by rwa [hown]) ?_ ?_
      · rw [hown, htaken, placedIn_append, hplaced]
        refine (List.prefix_append_right_inj _).mpr ?_
        split
        · exact List.prefix_rfl
        · exact List.nil_prefix
      · rw [hown, hdelivered, placedIn_append, List.length_append]
        exact hshort.trans (Nat.add_le_add_right (Nat.le_add_right _ _) _)
    · refine (h.generations generation).idle ?_ ?_
      · unfold drivenOf
        rw [hseen]
        rw [← hsame] at hother
        have hone : drivenIn [SupervisorEffect.driver g.generation (.takenInbound (some primary))] =
            [DriverEffect.takenInbound (κ := RuntimeCompletion (LifecycleCommand κ))
              (some primary)].map
              fun effect => (g.generation, effect) := rfl
        exact drivenBy_of_other hone hother
      · rw [hplaced, if_neg fun hboth => hother (hboth.2.symm.trans hsame)]
  · have hidentified := ConnectionSupervisor.identified_perform h.identified input
        (by rw [← hinput]; rfl)
    rw [supervisedIn_append, hseen]
    rw [hperform] at hidentified
    show Identified _ (after s input).supervisor
    rw [hafter, hg₁]
    exact hidentified
  all_goals
    replace hcurrent' : (after s input).supervisor.current = some g' := hcurrent'
    rw [hafter] at hcurrent'
    obtain rfl := Option.some.inj hcurrent'
  · rwa [hown]
  · rw [hown, htaken, placedIn_append, hplaced] at hmissing'
    cases queued with
    | false => exact Or.inr rfl
    | true =>
      rw [if_pos ⟨rfl, hsame⟩] at hmissing'
      exact absurd rfl hmissing'
  · exact hempty

/-- Where there is nothing to take. -/
theorem takeNothing (h : Handed past ⟨s, l⟩) (hempty : s.Drained) :
    Handed (past ++ during s (.turn (.driver .takeInbound)))
      ⟨after s (.turn (.driver .takeInbound)), l⟩ := by
  obtain ⟨hsupervised, hqueued, -⟩ := seen_during s (.turn (.driver .takeInbound))
  have hidentified := ConnectionSupervisor.identified_perform h.identified
      (.turn (.driver .takeInbound)) rfl
  have hkept : (s.supervisor.perform (.turn (.driver .takeInbound))).1 = s.supervisor ∧
      ∀ driven ∈ drivenIn (s.supervisor.perform (.turn (.driver .takeInbound))).2,
        driven.2 = .takenInbound none := by
    show (s.supervisor.turnCurrent (.driver .takeInbound)).1 = _ ∧
      ∀ driven ∈ drivenIn (s.supervisor.turnCurrent (.driver .takeInbound)).2,
        driven.2 = .takenInbound none
    unfold ConnectionSupervisor.turnCurrent
    cases hcurrent : s.supervisor.current with
    | none => exact ⟨rfl, fun driven hmem => absurd hmem List.not_mem_nil⟩
    | some g =>
      have hnone : g.driver.inbound = [] := hempty g hcurrent
      have hnext : ({ g.driver with inbound := g.driver.inbound.tail } :
          SessionDriver W _) = g.driver := by
        rw [hnone, List.tail_nil, ← hnone]
      refine ⟨?_, fun driven hmem => ?_⟩
      · show { s.supervisor with current := some { g with driver := { g.driver with
          inbound := g.driver.inbound.tail } } } = s.supervisor
        rw [hnext, ← hcurrent]
      · have hmem : driven ∈ [(g.generation, DriverEffect.takenInbound g.driver.inbound.head?)] :=
          hmem
        rw [List.mem_singleton.mp hmem, hnone]
        rfl
  have hnothing (generation : ConnectionGeneration) :
      ∀ effect ∈ drivenOf generation (during s (.turn (.driver .takeInbound))),
        effect = .takenInbound none := by
    intro effect hmem
    unfold drivenOf at hmem
    rw [hsupervised] at hmem
    obtain ⟨driven, hdriven, heq⟩ := List.mem_filterMap.mp hmem
    split at heq
    · rw [← Option.some.inj heq]
      exact hkept.2 driven hdriven
    · cases heq
  refine h.frame hkept.1 (fun generation => ?_) (fun generation => ?_) hqueued ?_ Or.inl id
  · refine List.flatMap_eq_nil_iff.mpr fun effect hmem => ?_
    rw [hnothing generation effect hmem]
    rfl
  · refine List.filterMap_eq_nil_iff.mpr fun effect hmem => ?_
    rw [hnothing generation effect hmem]
    rfl
  · rw [supervisedIn_append, hsupervised]
    rw [hkept.1] at hidentified
    exact hidentified

omit [WriterIngress W] in
/-- What is none of a Primary, and no operation. -/
theorem aside (h : Handed past ⟨s, l⟩) (hsupervisor : s'.supervisor = s.supervisor)
    (haside : ∀ effect ∈ effects, effect.aside = true) (hhandover : l'.handover = l.handover) :
    Handed (past ++ effects) ⟨s', l'⟩ := by
  obtain ⟨hsupervised, hqueued, -⟩ := aside_seen haside
  exact h.quiet hsupervisor hsupervised hqueued (fun hserved => Or.inl (hhandover ▸ hserved))
    fun hrefused => hhandover.trans hrefused

omit [WriterIngress W] in
theorem none (h : Handed past ⟨s, l⟩) (hsupervisor : s'.supervisor = s.supervisor)
    (hhandover : l'.handover = l.handover) : Handed (past ++ []) ⟨s', l'⟩ :=
  h.aside hsupervisor (fun _ hmem => absurd hmem List.not_mem_nil) hhandover

omit [WriterIngress W] in
theorem one (h : Handed past ⟨s, l⟩) (hsupervisor : s'.supervisor = s.supervisor)
    {effect : EndpointEffect κ}
    (haside : effect.aside = true) (hhandover : l'.handover = l.handover) :
    Handed (past ++ [effect]) ⟨s', l'⟩ :=
  h.aside hsupervisor (fun other hmem => by rwa [List.mem_singleton.mp hmem]) hhandover

/-- **An operation that the loop may make.** -/
theorem supervise (h : Handed past ⟨s, l⟩) {input : SupervisorInput W (LifecycleCommand κ)}
    (permitted : input.Permitted ⟨s, l⟩) (hempty : input.Calls .takeInbound → s.Drained) :
    Handed (past ++ during s input) ⟨after s input,
      { l with handover := input.leaves l.handover }⟩ := by
  have hserves {input : SupervisorInput W (LifecycleCommand κ)} (permitted : input.Permitted ⟨s, l⟩)
      (hreads : input.reads = 1) (hdrained : l.handover = .drained)
      (hleaves : input.leaves l.handover = .served)
      (htakes : ¬ input.Calls .takeInbound) :
      Handed (past ++ during s input) ⟨after s input,
        { l with handover := input.leaves l.handover }⟩ :=
    h.perform permitted.quiet htakes (Or.inr ⟨hreads, hdrained, hleaves⟩) fun hrefused =>
      nomatch hdrained.symm.trans hrefused
  have hstays {input : SupervisorInput W (LifecycleCommand κ)} (permitted : input.Permitted ⟨s, l⟩)
      (hreads : input.reads = 0) (hleaves : input.leaves l.handover = l.handover)
      (htakes : ¬ input.Calls .takeInbound) :
      Handed (past ++ during s input) ⟨after s input,
        { l with handover := input.leaves l.handover }⟩ :=
    h.perform permitted.quiet htakes
      (Or.inl ⟨hreads, fun hserved => hleaves ▸ hserved⟩) fun hrefused =>
      Or.inl (hleaves.trans hrefused)
  cases input with
  | stepCurrent polls capacity readings closing logical =>
    exact hserves permitted rfl permitted.2 rfl nofun
  | finishGeneration now cleanup => cases permitted
  | start _ _ _ | connect _ _ _ _ | beginStop _ _ | beginDisconnect _ _ | recoverStopped _ _
  | faultSource =>
    exact hstays permitted rfl rfl nofun
  | turn turn =>
    cases turn with
    | processReadyPriority terminal first second => exact hserves permitted rfl permitted rfl nofun
    | forceClose reason now =>
      have hrefused : l.handover = .refused := permitted.2
      exact h.perform rfl nofun
        (Or.inl ⟨rfl, fun _ hserved => nomatch hrefused.symm.trans hserved⟩) fun _ =>
        Or.inr fun g hcurrent => closing_forceClose hcurrent
    | driver input =>
      have hpublishes : input = .takeInbound ∨ input = .takeProtocolError := permitted
      rcases hpublishes with rfl | rfl
      · exact h.takeNothing (hempty rfl)
      · exact hstays permitted rfl rfl nofun

omit [WriterIngress W] in
/-- The application leaves the generations alone. -/
theorem apply (h : Handed past ⟨s, l⟩) (input : LoopInput W κ) :
    Handed (past ++ (EndpointLoop.apply s input).2) ⟨(EndpointLoop.apply s input).1, l⟩ := by
  have hsame : (EndpointLoop.apply s input).1.supervisor = s.supervisor ∧
      supervisedIn (EndpointLoop.apply s input).2 = [] ∧
          queuedIn (EndpointLoop.apply s input).2 = [] := by
    cases input with
    | submit command =>
      dsimp only [EndpointLoop.apply]
      split
      · exact ⟨rfl, rfl, rfl⟩
      · exact ⟨rfl, rfl, rfl⟩
    | recvPrimary =>
      dsimp only [EndpointLoop.apply]
      cases s.delivery.recvPrimary.1 <;> exact ⟨rfl, rfl, rfl⟩
    | recvProtocolError =>
      dsimp only [EndpointLoop.apply]
      cases s.delivery.recvProtocolError.1 <;> exact ⟨rfl, rfl, rfl⟩
    | dropHandles | recvDiagnostic | dropPrimaries | dropErrors | dropDiagnostics
    | advance _ | resume _
    | drop => exact ⟨rfl, rfl, rfl⟩
  exact h.quiet hsame.1 hsame.2.1 hsame.2.2 Or.inl id

/-- **Every step keeps the books of Primaries.**  What is handed over is what the Driver has
taken, in the same order. -/
theorem step {stage stage' : EndpointStage W κ} (h : Handed past stage)
    (hstep : EndpointStep stage effects stage') : Handed (past ++ effects) stage' := by
  cases hstep with
  | supervise input permitted empty => exact h.supervise permitted empty
  | finish now cleanup sound _ exits => exact h.perform rfl nofun (Or.inl ⟨rfl, id⟩) Or.inl
  | unfinished now cleanup _ stays => exact h.perform rfl nofun (Or.inl ⟨rfl, id⟩) Or.inl
  | deliverPrimary primary delivery taken delivered _ => exact h.offer taken _ _
  | @deliverError s hand waiting exit handover error delivery taken delivered hdrained =>
    have htaken : Handed (past ++ during s (.turn (.driver .takeProtocolError)))
        ⟨after s (.turn (.driver .takeProtocolError)), hand, waiting, exit, handover⟩ :=
      h.perform rfl nofun (Or.inl ⟨rfl, id⟩) Or.inl
    rw [← List.append_assoc]
    refine htaken.quiet rfl rfl rfl (fun _ => Or.inl hdrained) fun hrefused => ?_
    have hrefused : handover = .refused := hrefused
    rw [hrefused]
    cases delivery with
    | none => rfl
    | some _ => rfl
  | drain empty hopen =>
    exact h.quiet rfl rfl rfl (fun _ => Or.inr empty) fun hrefused => absurd hrefused hopen
  | receive queue => refine h.one ?_ ?_ ?_ <;> rfl
  | hangUp queue => refine h.one ?_ ?_ ?_ <;> rfl
  | quit => exact h.none rfl rfl
  | @handOver s command waiting generation handover input sound _ holder calls =>
    have hinput : input.drains = false ∧ input ≠ .takeInbound ∧ input.reads = 0 := by
      generalize command.intent = intent at calls
      cases intent with
      | reply _ _ _ _ | control _ _ => rw [calls.2]; exact ⟨rfl, nofun, rfl⟩
      | data _ _ replyExpected => rw [calls.2]; cases replyExpected <;> exact ⟨rfl, nofun, rfl⟩
      | start | stop | disconnect _ => cases calls
    exact h.perform hinput.1 (fun htakes => hinput.2.1 htakes.symm) (Or.inl ⟨hinput.2.2, id⟩) Or.inl
  | answer result answers => exact h.one rfl rfl rfl
  | wait waits => exact h.none rfl rfl
  | lose => exact h.one rfl rfl rfl
  | publish sequence next => refine h.one ?_ ?_ ?_ <;> rfl
  | settle =>
    refine h.aside rfl (fun effect hmem => ?_) rfl
    obtain ⟨_, -, rfl⟩ := List.mem_map.mp hmem
    rfl
  | record report => exact h.none rfl rfl
  | acknowledge published recorded =>
    refine h.aside rfl (fun effect hmem => ?_) rfl
    obtain ⟨_, -, rfl⟩ := List.mem_map.mp hmem
    rfl
  | diagnose event => refine h.one ?_ ?_ ?_ <;> rfl
  | prefer preference => exact h.none rfl rfl
  | returns result => exact h.one rfl rfl rfl
  | orphan snapshot faulted => refine h.one ?_ ?_ ?_ <;> rfl
  | refuse queue =>
    refine h.aside rfl (fun effect hmem => ?_) rfl
    rcases List.mem_cons.mp hmem with rfl | hmem
    · rfl
    · rw [List.mem_singleton.mp hmem]
      rfl
  | abandon =>
    refine h.aside rfl (fun effect hmem => ?_) rfl
    obtain ⟨_, -, rfl⟩ := List.mem_map.mp hmem
    rfl
  | apply input => exact h.apply input

omit [WriterIngress W] in
/-- A new endpoint. -/
theorem new (config : EndpointConfig) :
    Handed [] ⟨(EndpointLoop.new (W := W) (κ := κ) config).runtime, .none, [], .none, .served⟩ := by
  have hfree : (EndpointLoop.new (W := W) (κ := κ) config).runtime.supervisor.current = .none := rfl
  refine ⟨fun _ => ⟨⟨0, List.nil_prefix⟩, List.nil_prefix, Nat.zero_le _⟩,
    ⟨fun driven hmem => absurd hmem List.not_mem_nil, ?_⟩, ?_, ?_, ?_⟩
  all_goals
    intro g hcurrent
    cases hfree.symm.trans hcurrent

end Handed

/-! ## The application -/

/-- **What the application has received**: of what has found a place the first, and the rest is in
the queue, unless the receiver has been dropped.  The bytes are those that the queued Primaries
leave. -/
structure Received (budget : ℕ) (past : List (EndpointEffect κ)) (delivery : Delivery) : Prop where
  order : ∃ dropped, consumedIn past ++ delivery.primaries.map
    QueuedPrimary.primary ++ dropped = queuedIn past ∧
    (delivery.primariesClosed = false → dropped = [])
  closed : delivery.primariesClosed = true → delivery.primaries = []
  bytes : delivery.bytes + (delivery.primaries.map QueuedPrimary.bytes).sum = budget

namespace Received

variable {budget : ℕ} {past effects : List (EndpointEffect κ)} {delivery delivery' : Delivery}

theorem quiet (h : Received budget past delivery) (hqueued : queuedIn effects = [])
    (hconsumed : consumedIn effects = []) :
    Received budget (past ++ effects) delivery := by
  refine ⟨?_, h.closed, h.bytes⟩
  rw [consumedIn_append, queuedIn_append, hqueued, hconsumed, List.append_nil, List.append_nil]
  exact h.order

/-- A Primary finds a place. -/
theorem primary (h : Received budget past delivery) {target : Target} {primary : InboundPrimary}
    (hplace : delivery.primary target primary = some delivery')
    (hqueued : queuedIn effects = [primary])
    (hconsumed : consumedIn effects = []) : Received budget (past ++ effects) delivery' := by
  unfold Delivery.primary at hplace
  split at hplace
  · cases hplace
  · next length _ =>
    split at hplace
    · cases hplace
    · next hbytes =>
      split at hplace
      · cases hplace
      · next hroom =>
        obtain rfl := Option.some.inj hplace
        have hopen : delivery.primariesClosed = false := by
          rw [← Bool.not_eq_true]
          exact fun hclosed => hroom (Or.inl hclosed)
        obtain ⟨dropped, horder, hnone⟩ := h.order
        obtain rfl := hnone hopen
        refine ⟨⟨[], ?_, fun _ => rfl⟩, fun hclosed => ?_, ?_⟩
        · rw [consumedIn_append, queuedIn_append, hqueued, hconsumed, ← horder]
          simp
        · exact nomatch hopen.symm.trans hclosed
        · have hbudget := h.bytes
          rw [List.map_append, List.sum_append, List.map_singleton, List.sum_singleton]
          dsimp only
          omega

/-- What happens in the other queue. -/
theorem aside (h : Received budget past delivery)
    (hprimaries : delivery'.primaries = delivery.primaries)
    (hclosed : delivery'.primariesClosed = delivery.primariesClosed)
    (hbytes : delivery'.bytes = delivery.bytes) :
    Received budget past delivery' := by
  obtain ⟨horder, hdropped, hbudget⟩ := h
  refine ⟨?_, ?_, ?_⟩
  · rw [hprimaries, hclosed]
    exact horder
  · rw [hprimaries, hclosed]
    exact hdropped
  · rw [hprimaries, hbytes]
    exact hbudget

theorem error (h : Received budget past delivery) {error : InboundProtocolError}
    (hplace : delivery.error error = some delivery') : Received budget past delivery' := by
  unfold Delivery.error at hplace
  split at hplace
  · cases hplace
  · obtain rfl := Option.some.inj hplace
    exact h.aside rfl rfl rfl

/-- What the application does. -/
theorem apply {s : HsmsRuntime W κ} (h : Received budget past s.delivery) (input : LoopInput W κ) :
    Received budget (past ++ (EndpointLoop.apply s input).2)
      (EndpointLoop.apply s input).1.delivery := by
  cases input with
  | recvPrimary =>
    have hsame : EndpointLoop.apply s
        .recvPrimary = ({ s with delivery := s.delivery.recvPrimary.2 },
        (s.delivery.recvPrimary.1.map EndpointEffect.receivedPrimary).toList) := rfl
    rw [hsame]
    unfold Delivery.recvPrimary
    obtain ⟨⟨dropped, horder, hnone⟩, hclosed, hbytes⟩ := h
    split
    · exact Received.quiet ⟨⟨dropped, horder, hnone⟩, hclosed, hbytes⟩ rfl rfl
    · next queued rest hprimaries =>
      rw [hprimaries] at horder hclosed hbytes
      refine ⟨⟨dropped, ?_, hnone⟩, fun hshut => absurd (hclosed hshut) (List.cons_ne_nil _ _), ?_⟩
      · rw [consumedIn_append, queuedIn_append, ← horder]
        show consumedIn past ++ [queued.primary] ++ rest.map QueuedPrimary.primary ++ dropped =
          consumedIn past ++ (queued.primary :: rest.map QueuedPrimary.primary) ++ dropped ++ []
        simp
      · rw [List.map_cons, List.sum_cons] at hbytes
        show s.delivery.bytes + queued.bytes + (rest.map QueuedPrimary.bytes).sum = budget
        omega
  | dropPrimaries =>
    have hsame : EndpointLoop.apply s
        .dropPrimaries = ({ s with delivery := s.delivery.dropPrimaries }, []) := rfl
    rw [hsame, List.append_nil]
    obtain ⟨⟨dropped, horder, -⟩, -, hbytes⟩ := h
    refine ⟨⟨s.delivery.primaries.map QueuedPrimary.primary ++ dropped, ?_, nofun⟩, fun _ => rfl,
      hbytes⟩
    rw [← horder]
    show consumedIn past ++ [] ++ (_ ++ dropped) = _
    rw [List.append_nil, List.append_assoc]
  | recvProtocolError =>
    have hsame : EndpointLoop.apply s .recvProtocolError = ({ s with delivery :=
      s.delivery.recvProtocolError.2 },
        (s.delivery.recvProtocolError.1.map EndpointEffect.receivedError).toList) := rfl
    rw [hsame]
    have hquiet (error : Option InboundProtocolError) :
        queuedIn (error.map (EndpointEffect.receivedError (κ := κ))).toList = [] ∧
          consumedIn (error.map (EndpointEffect.receivedError (κ := κ))).toList = [] := by
      cases error with
      | none => exact ⟨rfl, rfl⟩
      | some _ => exact ⟨rfl, rfl⟩
    refine Received.quiet (h.aside ?_ ?_ ?_) (hquiet _).1 (hquiet _).2
    all_goals
      unfold Delivery.recvProtocolError
      split
      · rfl
      · rfl
  | submit command =>
    have hquiet : queuedIn (EndpointLoop.apply s (.submit command)).2 = [] ∧
        consumedIn (EndpointLoop.apply s (.submit command)).2 = [] ∧
          (EndpointLoop.apply s (.submit command)).1.delivery = s.delivery := by
      dsimp only [EndpointLoop.apply]
      split
      · exact ⟨rfl, rfl, rfl⟩
      · exact ⟨rfl, rfl, rfl⟩
    rw [hquiet.2.2]
    exact h.quiet hquiet.1 hquiet.2.1
  | dropErrors => exact Received.quiet (h.aside rfl rfl rfl) rfl rfl
  | dropHandles | recvDiagnostic | dropDiagnostics | advance _ | resume _ | drop =>
    exact h.quiet rfl rfl

theorem elsewhere (h : Received budget past delivery)
    (haside : ∀ effect ∈ effects, effect.aside = true) :
    Received budget (past ++ effects) delivery := by
  obtain ⟨-, hqueued, hconsumed⟩ := aside_seen haside
  exact h.quiet hqueued hconsumed

theorem one (h : Received budget past delivery) {effect : EndpointEffect κ}
    (haside : effect.aside = true) :
    Received budget (past ++ [effect]) delivery :=
  h.elsewhere fun other hmem => by rwa [List.mem_singleton.mp hmem]

/-- **Every step keeps the account of the application.**  What the application has received and
what is queued for it is what was handed over, and the bytes that are not free are those of the
queue. -/
theorem step [WriterIngress W] {stage stage' : EndpointStage W κ}
    (h : Received budget past stage.runtime.delivery)
    (hstep : EndpointStep stage effects stage') :
    Received budget (past ++ effects) stage'.runtime.delivery := by
  have hoperation {s : HsmsRuntime W κ} (h : Received budget past s.delivery)
      (input : SupervisorInput W (LifecycleCommand κ)) :
      Received budget (past ++ during s input) s.delivery := by
    obtain ⟨-, hqueued, hconsumed⟩ := seen_during s input
    exact h.quiet hqueued hconsumed
  have hnone : Received budget (past ++ []) stage.runtime.delivery := by rwa [List.append_nil]
  cases hstep with
  | supervise input _ _ => exact hoperation h input
  | finish now cleanup _ _ _ => exact hoperation h (.finishGeneration now cleanup)
  | unfinished now cleanup _ _ => exact hoperation h (.finishGeneration now cleanup)
  | @handOver s _ _ _ _ input _ _ _ _ => exact hoperation h (.turn (.driver input))
  | @deliverPrimary s _ _ _ _ primary delivery taken delivered _ =>
    rw [← List.append_assoc]
    have htaken := hoperation h (.turn (.driver .takeInbound))
    cases delivery with
    | some delivery => exact htaken.primary delivered rfl rfl
    | none => exact htaken.quiet rfl rfl
  | @deliverError s _ _ _ _ error delivery taken delivered _ =>
    rw [← List.append_assoc]
    have htaken := hoperation h (.turn (.driver .takeProtocolError))
    cases delivery with
    | some delivery => exact (htaken.error delivered).quiet rfl rfl
    | none => exact htaken.quiet rfl rfl
  | drain _ _ | quit | wait _ | record _ | prefer _ => exact hnone
  | receive _ | hangUp _ | answer _ _ | lose | publish _ _ | diagnose _ | returns _ | orphan _ _ =>
    exact h.one rfl
  | settle | acknowledge _ _ | abandon =>
    refine h.elsewhere fun effect hmem => ?_
    obtain ⟨_, -, rfl⟩ := List.mem_map.mp hmem
    rfl
  | refuse _ =>
    refine h.elsewhere fun effect hmem => ?_
    rcases List.mem_cons.mp hmem with rfl | hmem
    · rfl
    · rw [List.mem_singleton.mp hmem]
      rfl
  | apply input => exact h.apply input

/-- A new endpoint. -/
theorem new (config : EndpointConfig) :
    Received config.runtime.primaryQueueBytes ([] : List (EndpointEffect κ)) (.new config) := by
  refine ⟨⟨[], rfl, fun _ => rfl⟩, fun _ => rfl, ?_⟩
  show config.runtime.primaryQueueBytes + 0 = _
  rfl

end Received

/-! ## The endpoint -/

/-- **Primaries reach the application without a gap.**  Over every run of the endpoint loop:

* what the application receives, followed by what is in its queue, is what has found a place there,
  in this order; only the drop of the receiver takes the rest away;
* the bytes that the queue charges and those that are left are the budget;
* of each generation the Primaries that have found a place are the first that its Core has
  delivered, in this order, each with the generation and its reply token; at most one more has been
  delivered, and if its generation is still there, it waits in the Driver or the generation closes.
  -/
theorem primaries_reach_the_application [WriterIngress W] (config : EndpointConfig)
    (inputs : List (LoopInput W κ)) :
    let past := EndpointLoop.machine.history (EndpointLoop.new (W := W) (κ := κ) config) inputs
    let last := (EndpointLoop.machine.after
        (EndpointLoop.new (W := W) (κ := κ) config) inputs).runtime
    (∃ dropped, consumedIn past ++ last.delivery.primaries.map
      QueuedPrimary.primary ++ dropped = queuedIn past ∧
      (last.delivery.primariesClosed = false → dropped = [])) ∧
    last.delivery.bytes + (last.delivery.primaries.map QueuedPrimary.bytes).sum =
      config.runtime.primaryQueueBytes ∧
    ∀ generation, ∃ owner missing,
      (deliveredIn (drivenOf generation past)).map
      (.of owner generation) = placedIn generation past ++ missing ∧
        missing.length ≤ 1 ∧ (missing ≠ [] → ∀ current, last.supervisor.current = some current →
          current.generation = generation →
            current.driver.inbound = missing ∨ current.driver.closing.isSome = true) := by
  intro past last
  have hnew := And.intro (Handed.new (W := W) (κ := κ) config) (Received.new (κ := κ) config)
  obtain ⟨locals, hrests, hhanded, hreceived⟩ := EndpointLoop.invariant_history
    (I := fun past stage => Handed past stage ∧
      Received config.runtime.primaryQueueBytes past stage.runtime.delivery)
    (fun past stage effects stage' hI hstep => ⟨hI.1.step hstep, hI.2.step hstep⟩) hnew rfl inputs
  refine ⟨hreceived.order, hreceived.bytes, fun generation => ?_⟩
  obtain ⟨⟨owner, rest, hrest⟩, ⟨refused, htaken⟩, hshort⟩ := hhanded.generations generation
  have hmissing {owner : ℕ} {missing : List InboundPrimary} (hsplit :
      (deliveredIn (drivenOf generation past)).map
      (.of owner generation) = placedIn generation past ++ missing) : missing.length ≤ 1 := by
    have hlength := congrArg List.length hsplit
    rw [List.length_map, List.length_append] at hlength
    change (deliveredIn (drivenOf generation past)).length ≤
      (placedIn generation past).length + 1 at hshort
    omega
  by_cases hheld : ∃ g, last.supervisor.current = some g ∧ g.generation = generation
  · obtain ⟨g, hcurrent, rfl⟩ := hheld
    have hsupplied := hhanded.supplied g hcurrent
    obtain ⟨lost, hsplit, hlost⟩ := hsupplied.taken
    rw [SessionDriver.primary_eq, hsupplied.generation, ← htaken, List.append_assoc,
      List.append_assoc] at hsplit
    refine ⟨_, _, hsplit, hmissing hsplit, fun _ other hother _ => ?_⟩
    obtain rfl : g = other := Option.some.inj (hcurrent.symm.trans hother)
    by_cases hall : refused = [] ∧ lost = []
    · rw [hall.1, hall.2, List.nil_append, List.append_nil]
      exact Or.inl rfl
    · refine Or.inr ((not_and_or.mp hall).elim (fun hrefused => ?_) hlost)
      have hdiffers : takenIn (drivenOf g.generation past) ≠ placedIn g.generation past := by
        intro hsame
        exact hrefused (List.append_cancel_left
          (htaken.trans (hsame.trans (List.append_nil _).symm)))
      exact (hhanded.refused g hcurrent hdiffers).resolve_right hrests.open_
  · rw [← htaken, List.append_assoc] at hrest
    exact ⟨owner, _, hrest.symm, hmissing hrest.symm, fun _ other hother hsame =>
      absurd ⟨other, hother, hsame⟩ hheld⟩

end Hsms
end SecsRust

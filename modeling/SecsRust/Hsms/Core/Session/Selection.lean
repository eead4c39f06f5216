import SecsRust.Hsms.Core.Session.Procedure

/-!
# Selection, its publication and T7

Three things change together when the selection state does: the state, the published value,
and the T7 deadline of the NotSelected tenure.  In an open Core four effects change them,
each in one step, and the input says which of them a round can contain: a connection, a
Select message or a Deselect message.  So a round makes at most one transition, and
`Transition` describes the Core after a round by the Core before it.

Over a run the published values then alternate, the last of them is the state, and the
deadline of a tenure is the one that its first input set: the time of the input that made
the session NotSelected plus T7, for as long as the session stays so.  `InStep` is the
invariant that ties the three to the history.

A time addition that overflows ends the generation in the middle of a transition, and the
deselection is announced behind the close all the same.  The claim excludes overflow, and so
does the result; the effect `lateAnnounce` is where the two would part.
-/

namespace SecsRust
namespace Hsms

open Std SessionCore

/-- The state that an action publishes. -/
def CoreAction.published : CoreAction → Option SessionState
  | sessionStateChanged state => some state
  | sendFrame .. | deliverPrimary .. | completeCommand .. | closeGeneration .. => none

/-- The states published by some actions, in order. -/
def publishedBy (actions : List CoreAction) : List SessionState :=
  actions.filterMap CoreAction.published

theorem publishedBy_append {past actions : List CoreAction} :
    publishedBy (past ++ actions) = publishedBy past ++ publishedBy actions :=
  List.filterMap_append

theorem publishedBy_of_completions {actions : List CoreAction}
    (h : ∀ a ∈ actions, a.isCompletion = true) : publishedBy actions = [] := by
  refine List.filterMap_eq_nil_iff.mpr fun a ha => ?_
  have hcompletion := h a ha
  cases a <;> first | rfl | cases hcompletion

/-! ## What one effect does to the selection -/

/-- The transitions of an open Core from before the round: none, or the one that the input calls
for. -/
inductive Transition (origin : SessionCore) (input : Input) (core : SessionCore) : Prop where
  | none (state : core.state = origin.state)
      (deadline : core.selectionDeadline = origin.selectionDeadline)
  | connected (received : input = .connected input.now) (before : origin.state = none)
      (state : core.state = some .notSelected) (armed : core.selectionDeadline.isSome = true)
      (deadline : input.now.checkedAdd core.config.timeouts.t7 = core.selectionDeadline)
  | selected (cause : SelectCause input) (before : origin.state = some .notSelected)
      (state : core.state = some .selected) (deadline : core.selectionDeadline = none)
  | deselected (cause : DeselectCause input) (before : origin.state = some .selected)
      (state : core.state = some .notSelected) (armed : core.selectionDeadline.isSome = true)
      (deadline : input.now.checkedAdd core.config.timeouts.t7 = core.selectionDeadline)

/-- The ways in which an effect treats the selection. -/
inductive SelectionStep (input : Input) (before after : SessionCore) (actions : List CoreAction) :
    Prop where
  | keeps (silent : publishedBy actions = []) (config : after.config = before.config)
      (state : after.state = before.state)
      (deadline : after.selectionDeadline = before.selectionDeadline)
  | enters (deadline : MonoTime) (published : publishedBy actions = [.notSelected])
      (config : after.config = before.config)
      (cause : input = .connected input.now ∧ before.state = none ∨
        DeselectCause input ∧ before.state = some .selected)
      (live : before.closing = false) (state : after.state = some .notSelected)
      (armed : after.selectionDeadline = some deadline)
      (deadline_eq : input.now.checkedAdd before.config.timeouts.t7 = some deadline)
  | leaves (published : publishedBy actions = [.selected]) (config : after.config = before.config)
      (cause : SelectCause input) (live : before.closing = false)
      (before_state : before.state = some .notSelected) (state : after.state = some .selected)
      (deadline : after.selectionDeadline = none)
  | separates (published : publishedBy actions = [.notSelected]) (live : before.closing = false)
      (before_state : before.state = some .selected) (closing : after.closing = true)
  | closes (silent : publishedBy actions = []) (closing : after.closing = true)

/-- **What one effect does to the selection**, unless an overflow has closed the Core.  It stays,
or it changes and says so. -/
theorem Effect.selectionStep {origin : SessionCore} {input : Input} {stage stage' : Stage}
    {actions : List CoreAction} (he : Effect origin input stage actions stage') :
    stage'.overflowed = true ∧ stage'.core.closing = true ∨
      SelectionStep input stage.core stage'.core actions := by
  have hended : ∀ {core : SessionCore} (reason : GenerationCloseReason),
      publishedBy (core.endActions reason) = [] := by
    intro core reason
    rw [endActions, publishedBy_append,
      publishedBy_of_completions fun a ha => isCompletion_of_mem_loss ha]
    split <;> rfl
  cases he with
  | ended reason _ _ _ done => exact Or.inr <| .closes (hended reason) (by rw [done.frame])
  | lostWrite _ _ _ _ _ done => exact Or.inl ⟨rfl, by rw [done.frame]⟩
  | lateAnnounce closing => exact Or.inl ⟨rfl, closing⟩
  | lateControl _ closing _ _ => exact Or.inl ⟨rfl, closing⟩
  | admissionClosed _ _ _ _ _ =>
    refine Or.inr <| .closes ?_ rfl
    rw [publishedBy_append, publishedBy_of_completions fun a ha => isCompletion_of_mem_loss ha]
    rfl
  | abandonWrites _ closing done =>
    exact Or.inr <| .closes (publishedBy_of_completions fun a ha =>
      isCompletion_of_mem_abandonments ha)
      (by rw [done.frame]; exact closing)
  | loseCommands _ closing done =>
    exact Or.inr <| .closes (publishedBy_of_completions fun a ha => isCompletion_of_mem_loss ha)
      (by rw [done.frame]; exact closing)
  | @separate s s' _ _ _ _ _ state live _ _ _ _ done =>
    have hclosed : s'.closing = true := by rw [done.frame]
    refine Or.inr <| .separates ?_ live state hclosed
    rw [publishedBy_append, publishedBy_of_completions fun a ha => isCompletion_of_mem_separate ha]
    rfl
  | peerSeparate state live _ _ done =>
    refine Or.inr <| .separates ?_ live state (by rw [done.frame])
    rw [publishedBy_append, publishedBy_of_completions fun a ha => isCompletion_of_mem_separate ha]
    rfl
  | connect deadline state live armed received =>
    exact Or.inr <| .enters deadline rfl rfl (Or.inl ⟨received, state⟩) live rfl rfl armed
  | deselected deadline state live _ armed cause =>
    exact Or.inr <| .enters deadline rfl rfl (Or.inr ⟨cause, state⟩) live rfl rfl armed
  | selected cause state live => exact Or.inr <| .leaves rfl rfl cause live state rfl rfl
  | retireControl _ _ _ =>
    refine Or.inr <| .keeps (publishedBy_of_completions fun a ha =>
      isCompletion_of_mem_control ha) ?_ ?_ ?_
    all_goals
      dsimp only
      rw [release_frame]
  | failWrite _ _ _ =>
    refine Or.inr <| .keeps (publishedBy_of_completions fun a ha => ?_) ?_ ?_ ?_
    · obtain ⟨c, -, hc⟩ := List.mem_filterMap.mp ha
      obtain ⟨kind, -, rfl⟩ := Option.map_eq_some_iff.mp hc
      rfl
    all_goals
      dsimp only
      rw [release_frame, removeTransactionForWrite_frame]
      rfl
  | tick _ | observe _ _ _ | respond _ _ _ _ _ _ | refuse _ _ _ | startDrain _ _ _ _ _ _ _
  | endDrain _ _ _ | startControl _ _ _ _ _ _ _ _ _ _ | startDeselection _ _ _ _ _
  | sendRequest _ _ _ _ _ _ _ _ _ | sendPrimary _ _ _ _ _ _ _ _ _ | retireRequest _ _ _
  | rejectSend _ _ _ _ _ _ | deliver _ _ _ _ _ _ _ _ _ | deliverOneWay _ _ _ _ _ _
  | spendContract _ _ _ _ _ _ | sendReply _ _ _ _ _ _ _ | commitControl _ _ _ _ _
  | commitRequest _ _ _ _ _ | commitCommand _ _ _ _ | commitSilently _ _ _ =>
    exact Or.inr <| .keeps rfl rfl rfl rfl

/-! ## One round makes at most one transition -/

section

variable {origin : SessionCore} {input : Input}

theorem SelectCause.not_deselect (h : SelectCause input) : ¬ DeselectCause input := by
  rintro (⟨heq⟩ | ⟨heq⟩)
  all_goals
    cases h with
    | requested message => rw [message] at heq; cases heq
    | answered message => rw [message] at heq; cases heq

theorem SelectCause.not_connected (h : SelectCause input) : input ≠ .connected input.now := by
  cases h with
  | requested message => rw [message]; nofun
  | answered message => rw [message]; nofun

theorem Transition.step {stage stage' : Stage} {actions : List CoreAction}
    (h : stage.core.closing = false → Transition origin input stage.core)
    (he : Effect origin input stage actions stage') (hlive : stage'.core.closing = false) :
    Transition origin input stage'.core := by
  have hopen : stage.core.closing = false := by
    cases hclosing : stage.core.closing with
    | false => rfl
    | true => rw [he.closing_mono hclosing] at hlive; cases hlive
  have hbefore := h hopen
  have hstep := he.selectionStep.resolve_left fun hclosed =>
    absurd hclosed.2 (Bool.not_eq_true _ ▸ hlive)
  cases hstep with
  | keeps _ config state deadline =>
    cases hbefore with
    | none same same' => exact .none (state.trans same) (deadline.trans same')
    | connected received before same armed expiry =>
      rw [← deadline] at armed expiry
      exact .connected received before (state.trans same) armed (by rw [config]; exact expiry)
    | selected cause before same expiry =>
      exact .selected cause before (state.trans same) (deadline.trans expiry)
    | deselected cause before same armed expiry =>
      rw [← deadline] at armed expiry
      exact .deselected cause before (state.trans same) armed (by rw [config]; exact expiry)
  | enters deadline _ config cause _ state armed expiry =>
    have harmed : stage'.core.selectionDeadline.isSome = true := by rw [armed]; rfl
    have hexpiry : input.now.checkedAdd stage'.core.config.timeouts.t7 =
        stage'.core.selectionDeadline := by rw [config, armed]; exact expiry
    rcases cause with ⟨received, hnone⟩ | ⟨cause, hselected⟩
    · cases hbefore with
      | none same _ => exact .connected received (same.symm.trans hnone) state harmed hexpiry
      | connected _ _ same _ _ => rw [hnone] at same; cases same
      | selected _ _ same _ => rw [hnone] at same; cases same
      | deselected _ _ same _ _ => rw [hnone] at same; cases same
    · cases hbefore with
      | none same _ => exact .deselected cause (same.symm.trans hselected) state harmed hexpiry
      | connected _ _ same _ _ => rw [hselected] at same; cases same
      | selected select _ _ _ => exact absurd cause select.not_deselect
      | deselected _ _ same _ _ => rw [hselected] at same; cases same
  | leaves _ _ cause _ hnot state deadline =>
    cases hbefore with
    | none same _ => exact .selected cause (same.symm.trans hnot) state deadline
    | connected received _ _ _ _ => exact absurd received cause.not_connected
    | selected _ _ same _ => rw [hnot] at same; cases same
    | deselected other _ _ _ _ => exact absurd other cause.not_deselect
  | separates _ _ _ closing => rw [closing] at hlive; cases hlive
  | closes _ closing => rw [closing] at hlive; cases hlive

/-- **One round makes at most one transition**, as long as it leaves the Core open.  The
published value is then the new one, and the last that was published. -/
theorem transition_handle {core : SessionCore} (hc : Coherent none core)
    (hlive : (core.handle input).core.closing = false) :
    Transition core input (core.handle input).core := by
  refine (steps_handle hc input).preserves
    (I := fun stage => stage.core.closing = false → Transition core input stage.core)
    (fun _ _ _ hI he => Transition.step hI he) (fun _ => ?_) hlive
  rw [entry_frame]
  exact .none rfl rfl

end

/-! ## The published values -/

/-- The first `n` values that a generation publishes: NotSelected and Selected in turn. -/
def alternation (n : ℕ) : List SessionState :=
  (List.range n).map fun i => if i % 2 = 0 then .notSelected else .selected

/-- The state after `n` publications. -/
def stateAfter : ℕ → Option SessionState
  | 0 => none
  | n + 1 => some (if n % 2 = 0 then .notSelected else .selected)

theorem alternation_succ (n : ℕ) :
    alternation (n + 1) = alternation n ++ [if n % 2 = 0 then .notSelected else .selected] := by
  rw [alternation, List.range_succ, List.map_append]
  rfl

theorem getLast?_alternation (n : ℕ) : (alternation n).getLast? = stateAfter n := by
  cases n with
  | zero => rfl
  | succ n => rw [alternation_succ, List.getLast?_concat]; rfl

theorem stateAfter_eq_none {n : ℕ} (h : stateAfter n = none) : n = 0 := by
  cases n with
  | zero => rfl
  | succ n => cases h

theorem stateAfter_eq_notSelected {n : ℕ} (h : stateAfter n = some .notSelected) : n % 2 = 1 := by
  cases n with
  | zero => cases h
  | succ n =>
    have heq := Option.some.inj h
    split at heq
    · omega
    · cases heq

theorem stateAfter_eq_selected {n : ℕ} (h : stateAfter n = some .selected) : n % 2 = 0 := by
  cases n with
  | zero => cases h
  | succ n =>
    have heq := Option.some.inj h
    split at heq
    · cases heq
    · omega

/-- What has been published is an alternation, and an open Core is in the state published last. -/
def Published (past : List CoreAction) (core : SessionCore) : Prop :=
  ∃ n, publishedBy past = alternation n ∧ (core.closing = false → core.state = stateAfter n)

theorem Published.append {past actions : List CoreAction} {core' : SessionCore} {n : ℕ}
    {state : SessionState} (h : publishedBy past = alternation n)
    (hactions : publishedBy actions = [state])
    (hstate : state = if n % 2 = 0 then .notSelected else .selected)
    (hafter : core'.closing = false → core'.state = some state) :
    Published (past ++ actions) core' := by
  refine ⟨n + 1, ?_, fun hlive => ?_⟩
  · rw [publishedBy_append, h, hactions, alternation_succ, hstate]
  · rw [hafter hlive, hstate]
    rfl

theorem Published.step {origin : SessionCore} {input : Input} {past actions : List CoreAction}
    {stage stage' : Stage} (h : Published past stage.core)
    (he : Effect origin input stage actions stage') (hoverflow : stage'.overflowed = false) :
    Published (past ++ actions) stage'.core := by
  obtain ⟨n, hpast, hstate⟩ := h
  have hsilent : publishedBy actions = [] → (stage'.core.closing = false →
      stage.core.closing = false ∧ stage'.core.state = stage.core.state) →
      Published (past ++ actions) stage'.core := by
    intro hnone hsame
    refine ⟨n, ?_, fun hlive => (hsame hlive).2.trans (hstate (hsame hlive).1)⟩
    rw [publishedBy_append, hnone, List.append_nil, hpast]
  have hstep := he.selectionStep.resolve_left fun hover => by
    rw [hoverflow] at hover
    cases hover.1
  cases hstep with
  | keeps silent _ state _ =>
    refine hsilent silent fun hlive => ⟨?_, state⟩
    cases hclosing : stage.core.closing with
    | false => rfl
    | true => rw [he.closing_mono hclosing] at hlive; cases hlive
  | enters deadline published _ cause live state _ _ =>
    refine .append hpast published ?_ fun _ => state
    rcases cause with ⟨-, hnone⟩ | ⟨-, hselected⟩
    · rw [stateAfter_eq_none ((hstate live).symm.trans hnone)]
      rfl
    · rw [if_pos (stateAfter_eq_selected ((hstate live).symm.trans hselected))]
  | leaves published _ _ live before_state state _ =>
    refine .append hpast published ?_ fun _ => state
    have hodd := stateAfter_eq_notSelected ((hstate live).symm.trans before_state)
    rw [if_neg (by omega)]
  | separates published live before_state closing =>
    refine .append hpast published ?_ fun hlive => ?_
    · rw [if_pos (stateAfter_eq_selected ((hstate live).symm.trans before_state))]
    · rw [closing] at hlive
      cases hlive
  | closes silent closing =>
    refine hsilent silent fun hlive => ?_
    rw [closing] at hlive
    cases hlive

theorem Published.handle {past : List CoreAction} {core : SessionCore} {input : Input}
    (h : Published past core) (hc : Coherent none core)
    (hoverflow : (core.handle input).overflowed = false) :
    Published (past ++ (core.handle input).actions) (core.handle input).core := by
  have hround := (steps_handle hc input).accumulates
    (I := fun past stage => stage.overflowed = false → Published past stage.core)
    (fun past stage actions stage' hI he hover =>
      (hI (he.overflow_mono hover)).step he hover)
    (fun _ => by
      rw [entry_frame]
      exact h)
  exact hround hoverflow

/-! ## The tenure of NotSelected -/

/-- In an open Core T7 runs exactly while NotSelected. -/
def TimesTenure (core : SessionCore) : Prop :=
  core.closing = false → (core.selectionDeadline.isSome = true ↔ core.state = some .notSelected)

/-- The current NotSelected tenure of a run began with an input that set T7, and nothing changed the
deadline since. -/
def HasTenure (core : SessionCore) (inputs : List Input) : Prop :=
  ∃ earlier input later, inputs = earlier ++ input :: later ∧
    (machine.after core earlier).state ≠ some .notSelected ∧
    input.now.checkedAdd core.config.timeouts.t7 = (machine.after core inputs).selectionDeadline ∧
    ∀ past rest, later = past ++ rest →
      (machine.after core (earlier ++ input :: past)).state = some .notSelected ∧
      (machine.after core (earlier ++ input :: past)).selectionDeadline =
        (machine.after core inputs).selectionDeadline

section

variable {core : SessionCore} {inputs : List Input} {input : Input}

theorem TimesTenure.handle (h : TimesTenure core) (hc : Coherent none core) :
    TimesTenure (core.handle input).core := by
  intro hlive
  cases transition_handle hc hlive with
  | none state deadline =>
    rw [state, deadline]
    exact h (live_of_handle hc hlive)
  | connected _ _ state armed _ => exact iff_of_true armed state
  | selected _ _ state deadline =>
    rw [state, deadline]
    decide
  | deselected _ _ state armed _ => exact iff_of_true armed state

/-- A tenure that the last input of the run has begun. -/
theorem HasTenure.begin (hbefore : (machine.after core inputs).state ≠ some .notSelected)
    (hstate : (machine.after core (inputs ++ [input])).state = some .notSelected)
    (hdeadline : input.now.checkedAdd core.config.timeouts.t7 =
      (machine.after core (inputs ++ [input])).selectionDeadline) :
    HasTenure core (inputs ++ [input]) := by
  refine ⟨inputs, input, [], rfl, hbefore, hdeadline, fun past rest hsplit => ?_⟩
  obtain ⟨rfl, -⟩ := List.append_eq_nil_iff.mp hsplit.symm
  exact ⟨hstate, rfl⟩

/-- A tenure that goes on. -/
theorem HasTenure.continue (h : HasTenure core inputs)
    (hstate : (machine.after core (inputs ++ [input])).state = some .notSelected)
    (hdeadline : (machine.after core (inputs ++ [input])).selectionDeadline =
      (machine.after core inputs).selectionDeadline) : HasTenure core (inputs ++ [input]) := by
  obtain ⟨earlier, first, later, rfl, hbefore, harmed, hall⟩ := h
  refine ⟨earlier, first, later ++ [input], by simp, hbefore, harmed.trans hdeadline.symm,
    fun past rest hsplit => ?_⟩
  rcases List.eq_nil_or_concat rest with rfl | ⟨rest, last, rfl⟩
  · rw [List.append_nil] at hsplit
    rw [← hsplit, ← List.cons_append, ← List.append_assoc]
    exact ⟨hstate, rfl⟩
  · rw [List.concat_eq_append, ← List.append_assoc] at hsplit
    obtain ⟨hlater, -⟩ := List.append_inj' hsplit rfl
    rw [hdeadline]
    exact hall past rest hlater

/-- The tenure of a longer run. -/
theorem HasTenure.append_singleton
    (h : (machine.after core inputs).closing = false →
      (machine.after core inputs).state = some .notSelected → HasTenure core inputs)
    (hc : Coherent none (machine.after core inputs))
    (hconfig : (machine.after core (inputs ++ [input])).config = core.config)
    (hlive : (machine.after core (inputs ++ [input])).closing = false)
    (hstate : (machine.after core (inputs ++ [input])).state = some .notSelected) :
    HasTenure core (inputs ++ [input]) := by
  have hstep : machine.after core (inputs ++ [input]) =
      ((machine.after core inputs).handle input).core := Machine.after_append_singleton _ _ _ _
  have htransition : Transition (machine.after core inputs) input
      (machine.after core (inputs ++ [input])) := by
    rw [hstep] at hlive ⊢
    exact transition_handle hc hlive
  cases htransition with
  | none state deadline =>
    rw [hstep] at hlive
    have hopen := live_of_handle hc hlive
    exact (h hopen (state.symm.trans hstate)).continue hstate deadline
  | connected _ before _ _ deadline =>
    exact .begin (by rw [before]; nofun) hstate (hconfig ▸ deadline)
  | selected _ _ state _ =>
    rw [hstate] at state
    cases state
  | deselected _ before _ _ deadline =>
    exact .begin (by rw [before]; nofun) hstate (hconfig ▸ deadline)

end

/-! ## Runs -/

/-- The selection of a run, its publication and T7. -/
structure InStep (core : SessionCore) (inputs : List Input) : Prop where
  alternates : ∀ (i : ℕ) state, (publishedBy (machine.history core inputs))[i]? = some state →
    state = if i % 2 = 0 then .notSelected else .selected
  published : ∀ state, (machine.after core inputs).closing = false →
    (machine.after core inputs).state = some state →
    (publishedBy (machine.history core inputs)).getLast? = some state
  timed : ∀ state, (machine.after core inputs).closing = false →
    (machine.after core inputs).state = some state →
    ((machine.after core inputs).selectionDeadline.isSome = true ↔ state = .notSelected)
  tenure : (machine.after core inputs).closing = false →
    (machine.after core inputs).state = some .notSelected → HasTenure core inputs

theorem getElem?_alternation {n i : ℕ} {state : SessionState}
    (h : (alternation n)[i]? = some state) :
    state = if i % 2 = 0 then .notSelected else .selected := by
  rw [alternation, List.getElem?_map] at h
  obtain ⟨j, hj, rfl⟩ := Option.map_eq_some_iff.mp h
  obtain ⟨_, hget⟩ := List.getElem?_eq_some_iff.mp hj
  rw [List.getElem_range] at hget
  rw [hget]

section

variable (config : SessionCoreConfig) (nextWriteId : Option UInt64)
  (nextSystemBytes : Option UInt32)

theorem tenure_run (inputs : List Input) :
    (machine.after (SessionCore.initial config nextWriteId nextSystemBytes)
      inputs).closing = false →
    (machine.after (SessionCore.initial config nextWriteId nextSystemBytes) inputs).state =
      some .notSelected →
    HasTenure (SessionCore.initial config nextWriteId nextSystemBytes) inputs := by
  induction inputs using List.reverseRecOn with
  | nil => intro _ hstate; cases hstate
  | append_singleton inputs input ih =>
    exact HasTenure.append_singleton ih (coherent_run config nextWriteId nextSystemBytes inputs)
      (config_run config nextWriteId nextSystemBytes _)

/-- **Selection state, its publication and T7 stay in step**, in every run in which no time addition
overflows. -/
theorem selection_stays_in_step (inputs : List Input)
    (hoverflow : machine.Along (fun core input => (core.handle input).overflowed = false)
      (SessionCore.initial config nextWriteId nextSystemBytes) inputs) :
    InStep (SessionCore.initial config nextWriteId nextSystemBytes) inputs := by
  have hstart : Published [] (SessionCore.initial config nextWriteId nextSystemBytes) :=
    ⟨0, rfl, fun _ => rfl⟩
  have htimed : TimesTenure (SessionCore.initial config nextWriteId nextSystemBytes) :=
    fun _ => iff_of_false nofun nofun
  have hpublished := machine.invariant_history_along
    (I := fun past core => Coherent none core ∧ Published past core ∧ TimesTenure core)
    (fun past core input hstep hI => ⟨hI.1.handle input, hI.2.1.handle hI.1 hstep,
      hI.2.2.handle hI.1⟩)
    ⟨coherent_initial config nextWriteId nextSystemBytes, hstart, htimed⟩ hoverflow
  obtain ⟨-, ⟨n, hpast, hstate⟩, htimed⟩ := hpublished
  rw [List.nil_append] at hpast
  refine ⟨fun i state h => ?_, fun state hlive h => ?_, fun state hlive h => ?_,
    tenure_run config nextWriteId nextSystemBytes inputs⟩
  · rw [hpast] at h
    exact getElem?_alternation h
  · rw [hpast, getLast?_alternation, ← hstate hlive, h]
  · rw [htimed hlive, h, Option.some.injEq]

end

/-- A peer selects the session, deselects it and selects it again. -/
theorem selection_stays_in_step_of_reselection :
    InStep (SessionCore.new Scenario.config) (Scenario.selected ++
      [.message (.control (.deselectRequest controlSessionId ⟨5⟩)) .zero,
        .message (.control (.selectRequest controlSessionId ⟨6⟩)) .zero]) := by
  refine selection_stays_in_step Scenario.config (some 0) (some 0) _ ⟨?_, ?_, ?_, ?_, ?_, trivial⟩
  all_goals decide

end Hsms
end SecsRust

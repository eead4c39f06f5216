import SecsRust.Hsms.Generation.Driver.Stop

/-!
# The close of the transport

A Driver may be told to close from many sides: by Core, by the peer, by a Writer that fails,
by the owner of the generation, and by an action that cannot be applied.  The transport is
closed once nevertheless, and not before the write that the close waits for.

## The history of a close

A close is entered by one `closing` effect and ended by one `closeTransport`.
`CloseHistory` reads the history around these two.  Before the first there is neither.
After it there are only calls of Core that a closing Driver makes.  Between the two, if the
close waits for a write, there is the outcome of that write or a terminal call (`Released`),
which is how a barrier may be given up.

## Batches

What keeps a second announcement out of a batch that has installed a barrier is `Batch`,
which says what the Driver knows of the actions it still has to apply: a batch closes at
most once, a close with a barrier is the last of its batch, and a terminal batch closes only
at once.  These are facts about the rounds of Core, taken over action by action while the
batch is applied.

Each step of the Driver extends the history (`CloseHistory.step`).  That the reason of the
first close is kept, and that the transport is closed at most once, and exactly once when
the Writer has stopped, are then read off (`transport_closes_once_after_its_barrier`).
-/

namespace SecsRust
namespace Hsms

open Std SessionDriver

universe u v

variable {W : Type u} {κ : Type v}

/-! ## The batch that is being applied -/

/-- What the Driver knows of the batch it is applying.  A close may still stand in the rest of
it, and its barrier then names a write of the same batch or an earlier one. -/
structure Batch (stage : DriverStage W κ) : Prop where
  origin : stage.origin = none → stage.pending = []
  atOnce : ∀ core input, stage.origin = some (core, input) → input.isTerminal = true →
    ∀ reason barrier, CoreAction.closeGeneration reason barrier ∈ stage.pending →
      barrier = .immediate
  single : ∀ core input, stage.origin = some (core, input) → input.isTerminal = false →
    stage.pending.Pairwise fun a b => a.isClose = true → b.isClose = false

namespace Batch

variable {d d' : SessionDriver W κ} {o : Option (SessionCore × Input)} {p : List CoreAction}

/-- A step that leaves a batch behind. -/
theorem tail {action : CoreAction} (h : Batch ⟨d, o, action :: p⟩) : Batch ⟨d', o, p⟩ where
  origin ho := nomatch h.origin ho
  atOnce core input ho hterminal reason barrier hmem :=
    h.atOnce core input ho hterminal reason barrier (List.mem_cons_of_mem _ hmem)
  single core input ho hlive := (List.pairwise_cons.mp (h.single core input ho hlive)).2

/-- A step at the end of a batch, or one that abandons it. -/
theorem done (o : Option (SessionCore × Input)) : Batch ⟨d', o, []⟩ where
  origin _ := rfl
  atOnce _ _ _ _ _ _ hmem := nomatch hmem
  single _ _ _ _ := .nil

theorem not_failsAdmission {core : SessionCore} {input : Input} (h : input.isTerminal = false) :
    ¬ core.FailsAdmission input := by
  rintro ⟨reason, writeId, now, rfl, -⟩
  cases h

/-- A call of Core. -/
theorem call (hcoherent : Coherent none d.core) (input : Input) :
    Batch ⟨d', some (d.core, input), (d.core.handle input).actions⟩ where
  origin ho := nomatch ho
  atOnce core input' ho hterminal reason barrier hmem := by
    obtain ⟨rfl, rfl⟩ := Prod.mk.inj (Option.some.inj ho)
    exact (SessionCore.terminal_closes hcoherent hterminal).1 reason barrier hmem
  single core input' ho hlive := by
    obtain ⟨rfl, rfl⟩ := Prod.mk.inj (Option.some.inj ho)
    exact (closesOnce_handle hcoherent input).single (not_failsAdmission hlive)

variable [WriterIngress W]

theorem step {admits : Bool} {stage stage' : DriverStage W κ} {effects : List (DriverEffect κ)}
    (h : Batch stage) (hsound : Sound stage) (hstep : DriverStep admits stage effects stage') :
    Batch stage' := by
  cases hstep with
  | call input _ => exact .call hsound.coherent input
  | present _ _ _ _ _ => exact .call hsound.coherent _
  | fail _ _ _ => exact .call hsound.coherent _
  | idle _ => exact ⟨h.origin, h.atOnce, h.single⟩
  | deliver _ | send _ _ | sendAgain _ _ | observe | settle _ _ | close => exact h.tail
  | abandon _ | rest _ | shutDown _ _ | settleWrite _ | stopWriter _ | closeTransport _ _
  | accept _ _ _ _ _ _ | reject _ _ | orphan _ _ | answer _ | notice _ | takeInbound | drain
  | adjust _ _ _ => exact .done _

end Batch

/-! ## The history of a close -/

/-- The effect enters the close. -/
def DriverEffect.isClosing : DriverEffect κ → Bool
  | .closing .. => true
  | _ => false

/-- The effect closes the transport. -/
def DriverEffect.isTransportClose : DriverEffect κ → Bool
  | .closeTransport => true
  | _ => false

/-- The effect is a call of Core that only an open Driver makes. -/
def DriverEffect.isLiveCall : DriverEffect κ → Bool
  | .called _ input => !input.callable false
  | _ => false

/-- The effect is a terminal call of Core. -/
def DriverEffect.isTerminalCall : DriverEffect κ → Bool
  | .called _ input => input.isTerminal
  | _ => false

/-- The outcome of the write has been processed, or the close no longer waits for it. -/
def Released (writeId : WriteId) (effects : List (DriverEffect κ)) : Prop :=
  ∃ e ∈ effects, e = .settledWrite writeId ∨ e.isTerminalCall = true

theorem Released.mono {writeId : WriteId} {effects effects' : List (DriverEffect κ)}
    (h : Released writeId effects) (hsub : ∀ e ∈ effects, e ∈ effects') :
    Released writeId effects' := by
  obtain ⟨e, he, hreleases⟩ := h
  exact ⟨e, hsub e he, hreleases⟩

/-- Effects that neither enter nor end a close. -/
def Unmarked (effects : List (DriverEffect κ)) : Prop :=
  ∀ e ∈ effects, e.isClosing = false ∧ e.isTransportClose = false

/-- Effects of a Driver that is closing already. -/
def Quiet (effects : List (DriverEffect κ)) : Prop :=
  ∀ e ∈ effects, e.isClosing = false ∧ e.isLiveCall = false

theorem Unmarked.append {effects effects' : List (DriverEffect κ)} (h : Unmarked effects)
    (h' : Unmarked effects') : Unmarked (effects ++ effects') :=
  fun e he => (List.mem_append.mp he).elim (h e) (h' e)

theorem Quiet.append {effects effects' : List (DriverEffect κ)} (h : Quiet effects)
    (h' : Quiet effects') : Quiet (effects ++ effects') :=
  fun e he => (List.mem_append.mp he).elim (h e) (h' e)

/-- **The history around a close.**  It has a part before the close, one while a barrier is
waited for, and one behind the end of the transport. -/
inductive CloseHistory (past : List (DriverEffect κ)) (stage : DriverStage W κ) : Prop where
  | live (open_ : stage.driver.closing = none) (unmarked : Unmarked past)
  | waiting (reason : GenerationCloseReason) (writeId : WriteId) (a b : List (DriverEffect κ))
      (waits : stage.driver.closing = some ⟨reason, some writeId⟩)
      (split : past = a ++ .closing reason (.afterWrite writeId) :: b)
      (before : Unmarked a) (between : Unmarked b) (quiet : Quiet b)
      (barred : Released writeId b ∨
        (∀ x ∈ stage.pending, x.isClose = false) ∧
          ∀ core input, stage.origin = some (core, input) → input.isTerminal = false)
  | ready (reason : GenerationCloseReason) (barrier : CloseBarrier) (a b c : List (DriverEffect κ))
      (unbarred : stage.driver.closing = some ⟨reason, none⟩)
      (split : past = a ++ .closing reason barrier :: (b ++ c))
      (before : Unmarked a) (between : Unmarked b) (quiet : Quiet (b ++ c))
      (released : ∀ writeId, barrier = .afterWrite writeId → Released writeId b)

namespace CloseHistory

variable {past effects : List (DriverEffect κ)} {d d' : SessionDriver W κ}
  {o o' : Option (SessionCore × Input)} {p p' : List CoreAction}

/-- A step without a mark that leaves the close as it is. -/
theorem keep (h : CloseHistory past ⟨d, o, p⟩) (hunmarked : Unmarked effects)
    (hquiet : d.closing.isSome = true → Quiet effects) (hclosing : d'.closing = d.closing)
    (hbarred : d.closing.isSome = true → (∀ x ∈ p, x.isClose = false) ∧
        (∀ core input, o = some (core, input) → input.isTerminal = false) →
      (∀ writeId, Released writeId effects) ∨ (∀ x ∈ p', x.isClose = false) ∧
        ∀ core input, o' = some (core, input) → input.isTerminal = false) :
    CloseHistory (past ++ effects) ⟨d', o', p'⟩ := by
  cases h with
  | live open_ unmarked => exact .live (hclosing.trans open_) (unmarked.append hunmarked)
  | waiting reason writeId a b waits split before between quiet barred =>
    have hsome : d.closing.isSome = true := by rw [show d.closing = _ from waits]; rfl
    have hquiet := hquiet hsome
    refine .waiting reason writeId a (b ++ effects) (hclosing.trans waits) ?_ before
      (between.append hunmarked) (quiet.append hquiet) ?_
    · rw [split, List.append_assoc, List.cons_append]
    · rcases barred with hreleased | hbatch
      · exact Or.inl (hreleased.mono fun _ => List.mem_append_left _)
      · rcases hbarred hsome hbatch with hreleased | hbatch
        · exact Or.inl ((hreleased writeId).mono fun _ => List.mem_append_right _)
        · exact Or.inr hbatch
  | ready reason barrier a b c unbarred split before between quiet released =>
    have hquiet := hquiet (by rw [show d.closing = _ from unbarred]; rfl)
    refine .ready reason barrier a b (c ++ effects) (hclosing.trans unbarred) ?_ before between ?_
      released
    · rw [split]
      simp only [List.append_assoc, List.cons_append]
    · rw [← List.append_assoc]
      exact quiet.append hquiet

/-- A step that leaves the close and the batch as they are. -/
theorem keep_batch (h : CloseHistory past ⟨d, o, p⟩) (hunmarked : Unmarked effects)
    (hquiet : d.closing.isSome = true → Quiet effects) (hclosing : d'.closing = d.closing)
    (hsub : ∀ x ∈ p', x ∈ p) : CloseHistory (past ++ effects) ⟨d', o, p'⟩ :=
  h.keep hunmarked hquiet hclosing fun _ hbatch => Or.inr ⟨fun x hx => hbatch.1 x (hsub x hx),
    hbatch.2⟩

/-- A call of Core. -/
theorem call (h : CloseHistory past ⟨d, o, p⟩) (hsound : Sound ⟨d, o, p⟩) {input : Input}
    (hallowed : input.callable d.closing.isNone = true) :
    CloseHistory (past ++ [.called d.core input])
      ⟨d.afterCall input, some (d.core, input), (d.core.handle input).actions⟩ := by
  refine h.keep (fun e he => ?_) (fun hclosing e he => ?_) rfl fun hclosing _ => ?_
  · rw [List.mem_singleton.mp he]
    exact ⟨rfl, rfl⟩
  · have hcallable : input.callable false = true := by
      obtain ⟨closing, hclosing⟩ := Option.isSome_iff_exists.mp hclosing
      rw [hclosing] at hallowed
      exact hallowed
    rw [List.mem_singleton.mp he]
    refine ⟨rfl, ?_⟩
    show (!input.callable false) = false
    rw [hcallable]
    rfl
  · cases hterminal : input.isTerminal with
    | true => exact Or.inl fun _ => ⟨_, List.mem_singleton_self _, Or.inr hterminal⟩
    | false =>
      refine Or.inr ⟨(closesOnce_handle hsound.coherent input).silent (hsound.closing hclosing)
        (Batch.not_failsAdmission hterminal), fun core input' ho => ?_⟩
      obtain ⟨rfl, rfl⟩ := Prod.mk.inj (Option.some.inj ho)
      exact hterminal

/-- The close by `begin_closing`: one with a barrier is the last of its batch, and one that takes a
barrier away comes from a terminal call. -/
theorem close (h : CloseHistory past ⟨d, o, p⟩) (reason : GenerationCloseReason)
    {barrier : CloseBarrier}
    (hbarrier : barrier = .immediate ∨ (∀ x ∈ p', x.isClose = false) ∧
      ∀ core input, o = some (core, input) → input.isTerminal = false)
    (hrelease : ¬ ((∀ x ∈ p, x.isClose = false) ∧
      ∀ core input, o = some (core, input) → input.isTerminal = false)) :
    CloseHistory (past ++ d.closeEffects reason barrier) ⟨d.closeWith reason barrier, o, p'⟩ := by
  cases h with
  | live open_ unmarked =>
    have hclosing : (d.closeWith reason barrier).closing = some ⟨reason, barrier.writeId⟩ := by
      unfold closeWith
      rw [show d.closing = none from open_]
    have heffects : d.closeEffects reason barrier = [.closing reason barrier] := by
      unfold closeEffects
      rw [show d.closing = none from open_]
      rfl
    rw [heffects]
    have hnone : ∀ {P : DriverEffect κ → Prop}, ∀ e ∈ ([] : List (DriverEffect κ)), P e :=
      fun _ he => nomatch he
    cases barrier with
    | immediate =>
      exact .ready reason .immediate past [] [] hclosing rfl unmarked hnone hnone fun _ h =>
        nomatch h
    | afterWrite writeId =>
      rcases hbarrier with himmediate | hbatch
      · cases himmediate
      · exact .waiting reason writeId past [] hclosing rfl unmarked hnone hnone (Or.inr hbatch)
  | waiting reason' writeId a b waits split before between quiet barred =>
    have heffects : d.closeEffects reason barrier = ([] : List (DriverEffect κ)) := by
      unfold closeEffects
      rw [show d.closing = _ from waits]
      rfl
    have hreleased := barred.resolve_right hrelease
    rw [heffects, List.append_nil]
    by_cases himmediate : barrier = .immediate
    · refine .ready reason' (.afterWrite writeId) a b [] ?_ (by rw [List.append_nil]; exact split)
        before between (by rw [List.append_nil]; exact quiet) fun writeId' heq => ?_
      · unfold closeWith
        rw [show d.closing = _ from waits]
        dsimp only
        rw [if_pos himmediate]
      · obtain rfl : writeId = writeId' := CloseBarrier.afterWrite.inj heq
        exact hreleased
    · refine .waiting reason' writeId a b ?_ split before between quiet (Or.inl hreleased)
      unfold closeWith
      rw [show d.closing = _ from waits]
      dsimp only
      rw [if_neg himmediate]
  | ready reason' barrier' a b c unbarred split before between quiet released =>
    have heffects : d.closeEffects reason barrier = ([] : List (DriverEffect κ)) := by
      unfold closeEffects
      rw [show d.closing = _ from unbarred]
      rfl
    rw [heffects, List.append_nil]
    refine .ready reason' barrier' a b c ?_ split before between quiet released
    unfold closeWith
    rw [show d.closing = _ from unbarred]
    dsimp only
    split_ifs
    · rfl
    · rfl

/-- A step that takes the barrier away, if it is there, for a reason. -/
theorem unbar (h : CloseHistory past ⟨d, o, []⟩) (hunmarked : Unmarked effects)
    (hquiet : Quiet effects)
    (satisfied : WriteId → Prop) (hnone : d.closing = none → d'.closing = none)
    (hsame : ∀ reason writeId, d.closing = some ⟨reason, some writeId⟩ → ¬ satisfied writeId →
      d'.closing = d.closing)
    (hgone : ∀ reason barrier, d.closing = some ⟨reason, barrier⟩ →
      (∀ writeId, barrier = some writeId → satisfied writeId) → d'.closing = some ⟨reason, none⟩)
    (hreleases : ∀ writeId, satisfied writeId → Released writeId effects ∨
      ∃ core input, o = some (core, input) ∧ input.isTerminal = true) :
    CloseHistory (past ++ effects) ⟨d', o, []⟩ := by
  cases h with
  | live open_ unmarked => exact .live (hnone open_) (unmarked.append hunmarked)
  | waiting reason writeId a b waits split before between quiet barred =>
    have hsplit : past ++ effects =
        a ++ .closing reason (.afterWrite writeId) :: (b ++ effects) := by
      rw [split, List.append_assoc, List.cons_append]
    by_cases hsatisfied : satisfied writeId
    · refine .ready reason (.afterWrite writeId) a (b ++ effects) [] ?_ ?_ before
        (between.append hunmarked) ?_ fun writeId' heq => ?_
      · refine hgone reason _ waits fun writeId' heq => ?_
        rwa [← Option.some.inj heq]
      · rw [List.append_nil]
        exact hsplit
      · rw [List.append_nil]
        exact quiet.append hquiet
      · obtain rfl : writeId = writeId' := CloseBarrier.afterWrite.inj heq
        rcases barred with hreleased | hbatch
        · exact hreleased.mono fun _ => List.mem_append_left _
        · rcases hreleases writeId hsatisfied with hreleased | ⟨core, input, ho, hterminal⟩
          · exact hreleased.mono fun _ => List.mem_append_right _
          · rw [hbatch.2 core input ho] at hterminal
            cases hterminal
    · refine .waiting reason writeId a (b ++ effects) ((hsame reason writeId waits hsatisfied).trans
        waits) hsplit before (between.append hunmarked) (quiet.append hquiet) ?_
      exact barred.imp_left fun hreleased => hreleased.mono fun _ => List.mem_append_left _
  | ready reason barrier a b c unbarred split before between quiet released =>
    refine .ready reason barrier a b (c ++ effects)
      (hgone reason none unbarred fun _ heq => nomatch heq) ?_ before between ?_ released
    · rw [split]
      simp only [List.append_assoc, List.cons_append]
    · rw [← List.append_assoc]
      exact quiet.append hquiet

/-- The transport is closed: the close has no barrier by now. -/
theorem transport (h : CloseHistory past ⟨d, o, []⟩) {reason : GenerationCloseReason}
    (hready : d.closing = some ⟨reason, none⟩) (hclosing : d'.closing = d.closing) :
    CloseHistory (past ++ [.closeTransport]) ⟨d', o, []⟩ := by
  have hnot : ∀ closing : Option ClosingState, d.closing = closing →
      closing = some ⟨reason, none⟩ :=
    fun closing h => h.symm.trans hready
  cases h with
  | live open_ unmarked => exact absurd (hnot _ open_) (fun h => nomatch h)
  | waiting reason' writeId a b waits split before between quiet barred =>
    exact absurd (hnot _ waits) (fun h => nomatch h)
  | ready reason' barrier a b c unbarred split before between quiet released =>
    refine .ready reason' barrier a b (c ++ [.closeTransport]) (hclosing.trans unbarred) ?_ before
      between ?_ released
    · rw [split]
      simp only [List.append_assoc, List.cons_append]
    · rw [← List.append_assoc]
      refine quiet.append fun e he => ?_
      rw [List.mem_singleton.mp he]
      exact ⟨rfl, rfl⟩

variable [WriterIngress W]

/-- **Every step extends the history of the close.**  Which part a step belongs to is decided by
the state before it. -/
theorem step {admits : Bool} {stage stage' : DriverStage W κ} (h : CloseHistory past stage)
    (hsound : Sound stage) (hbatch : Batch stage) (hstep : DriverStep admits stage effects stage') :
    CloseHistory (past ++ effects) stage' := by
  have hquiet : ∀ {effects : List (DriverEffect κ)},
      (∀ e ∈ effects, e.isClosing = false ∧ e.isTransportClose = false ∧ e.isLiveCall = false) →
      Unmarked effects ∧ Quiet effects := fun hall =>
    ⟨fun e he => ⟨(hall e he).1, (hall e he).2.1⟩, fun e he => ⟨(hall e he).1, (hall e he).2.2⟩⟩
  have hkeep : ∀ {d d' : SessionDriver W κ} {o p p'}, CloseHistory past ⟨d, o, p⟩ →
      (∀ e ∈ effects, e.isClosing = false ∧ e.isTransportClose = false ∧ e.isLiveCall = false) →
      d'.closing = d.closing → (∀ x ∈ p', x ∈ p) → CloseHistory (past ++ effects) ⟨d', o, p'⟩ :=
    fun h hall hclosing hsub => h.keep_batch (hquiet hall).1
      (fun _ => (hquiet hall).2) hclosing hsub
  have hdischarge : ∀ (d : SessionDriver W κ) charge, ∀ e ∈ d.dischargeEffects charge,
      e.isClosing = false ∧ e.isTransportClose = false ∧ e.isLiveCall = false := by
    intro d charge e he
    unfold dischargeEffects at he
    split at he
    · cases he
    · rw [List.mem_singleton.mp he]
      exact ⟨rfl, rfl, rfl⟩
  cases hstep with
  | call input allowed => exact h.call hsound allowed
  | fail _ _ _ => exact h.call hsound rfl
  | present now live queue unblocked next =>
    -- only an open Driver presents a command
    cases h with
    | live open_ unmarked =>
      refine .live open_ (unmarked.append fun e he => ?_)
      rcases List.mem_append.mp he with he | he
      · exact ⟨(hdischarge _ _ e he).1, (hdischarge _ _ e he).2.1⟩
      · rcases List.mem_pair.mp he with rfl | rfl
        · exact ⟨rfl, rfl⟩
        · exact ⟨rfl, rfl⟩
    | waiting _ _ _ _ waits => exact nomatch waits.symm.trans live
    | ready _ _ _ _ _ unbarred => exact nomatch unbarred.symm.trans live
  | @close d origin reason barrier pending =>
    refine h.close reason ?_ fun hnone => nomatch hnone.1 _ List.mem_cons_self
    cases ho : origin with
    | none => exact nomatch hbatch.origin ho
    | some call =>
      obtain ⟨core, input⟩ := call
      cases hterminal : input.isTerminal with
      | true => exact Or.inl (hbatch.atOnce core input ho hterminal reason barrier
          List.mem_cons_self)
      | false =>
        refine Or.inr ⟨fun x hx => ?_, fun core' input' ho' => ?_⟩
        · exact (List.pairwise_cons.mp (hbatch.single core input ho hterminal)).1 x hx rfl
        · obtain ⟨rfl, rfl⟩ := Prod.mk.inj (Option.some.inj ho')
          exact hterminal
  | @shutDown d core input reason terminal =>
    refine h.close reason (Or.inl rfl) fun hnone => ?_
    rw [hnone.2 core input rfl] at terminal
    cases terminal
  | @settleWrite d o writeId =>
    have hall : Unmarked [(DriverEffect.settledWrite writeId : DriverEffect κ)] ∧
        Quiet [(DriverEffect.settledWrite writeId : DriverEffect κ)] := hquiet fun e he => by
      rw [List.mem_singleton.mp he]
      exact ⟨rfl, rfl, rfl⟩
    have hsatisfy : ∀ closing, d.closing = some closing →
        (d.afterOutcome writeId).closing = some (closing.satisfy writeId) := by
      intro closing hclosing
      unfold afterOutcome
      rw [hclosing]
      rfl
    refine h.unbar hall.1 hall.2 (· = writeId) (fun hnone => ?_)
      (fun reason w hsome hne => ?_) (fun reason barrier hsome hgone => ?_)
      fun w hw => Or.inl ⟨_, List.mem_singleton_self _, Or.inl (by rw [hw])⟩
    · unfold afterOutcome
      rw [hnone]
      rfl
    · rw [hsatisfy _ hsome, hsome]
      unfold ClosingState.satisfy
      rw [if_neg fun heq => hne (Option.some.inj heq)]
    · rw [hsatisfy _ hsome]
      unfold ClosingState.satisfy
      cases barrier with
      | none => exact congrArg some (if_neg (Option.some_ne_none writeId).symm)
      | some w => rw [if_pos (congrArg some (hgone w rfl))]
  | @stopWriter d core input terminal =>
    rw [← List.append_nil past] at h ⊢
    refine h.unbar (fun _ he => nomatch he) (fun _ he => nomatch he) (fun _ => True)
      (fun hnone => ?_) (fun _ _ _ hne => absurd trivial hne) (fun reason barrier hsome _ => ?_)
      fun w _ => Or.inr ⟨core, input, rfl, terminal⟩
    · unfold afterWriter
      rw [hnone]
      rfl
    · unfold afterWriter
      rw [hsome]
      rfl
  | closeTransport ready still => exact h.transport ready rfl
  | reject error queue =>
    refine hkeep h (fun e he => ?_) rfl fun _ hx => hx
    rcases List.mem_append.mp he with he | he
    · exact hdischarge _ _ e he
    · rw [List.mem_singleton.mp he]
      exact ⟨rfl, rfl, rfl⟩
  | deliver _ =>
    refine hkeep h (fun e he => ?_) rfl fun _ => List.mem_cons_of_mem _
    obtain ⟨token, -, rfl⟩ := Option.map_eq_some_iff.mp (Option.mem_toList.mp he)
    exact ⟨rfl, rfl, rfl⟩
  | @answer _ _ effect returns =>
    refine hkeep h (fun e he => ?_) rfl fun _ hx => hx
    rw [List.mem_singleton.mp he]
    cases effect <;> first | exact ⟨rfl, rfl, rfl⟩ | cases returns
  | abandon _ => exact hkeep h (fun _ he => nomatch he) rfl fun _ hx => nomatch hx
  | rest _ =>
    exact h.keep (fun _ he => nomatch he) (fun _ _ he => nomatch he) rfl fun _ _ =>
      Or.inr ⟨fun _ hx => (nomatch hx), fun _ _ ho => nomatch ho⟩
  | idle _ | drain | adjust _ _ _ => exact hkeep h (fun _ he => nomatch he) rfl fun _ hx => hx
  | send _ _ | sendAgain _ _ | observe | settle _ _ =>
    refine hkeep h (fun e he => ?_) rfl fun _ => List.mem_cons_of_mem _
    rw [List.mem_singleton.mp he]
    exact ⟨rfl, rfl, rfl⟩
  | accept _ _ _ _ _ _ | orphan _ _ | notice _ | takeInbound =>
    refine hkeep h (fun e he => ?_) rfl fun _ hx => hx
    rw [List.mem_singleton.mp he]
    exact ⟨rfl, rfl, rfl⟩

omit [WriterIngress W] in
/-- The close was entered once, with its reason. -/
theorem entered {stage : DriverStage W κ} (h : CloseHistory past stage)
    {reason : GenerationCloseReason}
    {barrier : CloseBarrier} {a b : List (DriverEffect κ)}
    (hpast : past = a ++ .closing reason barrier :: b) :
    stage.driver.closing.map ClosingState.reason = some reason ∧
      ∀ e ∈ b, e.isClosing = false ∧ e.isLiveCall = false := by
  have hnot : ∀ {l : List (DriverEffect κ)}, (∀ e ∈ l, e.isClosing = false) →
      DriverEffect.closing reason barrier ∉ l := fun hl hmem => nomatch hl _ hmem
  cases h with
  | live open_ unmarked =>
    rw [hpast] at unmarked
    exact nomatch (unmarked _ (List.mem_append_right _ List.mem_cons_self)).1
  | waiting reason' writeId a' b' waits split before between quiet barred =>
    obtain ⟨rfl, heq, rfl⟩ := (List.append_cons_inj_of_notMem (hnot fun e he => (before e he).1)
      (hnot fun e he => (between e he).1)).mp (split.symm.trans hpast)
    obtain ⟨rfl, -⟩ := DriverEffect.closing.inj heq
    rw [waits]
    exact ⟨rfl, quiet⟩
  | ready reason' barrier' a' b' c unbarred split before between quiet released =>
    obtain ⟨rfl, heq, rfl⟩ := (List.append_cons_inj_of_notMem (hnot fun e he => (before e he).1)
      (hnot fun e he => (quiet e he).1)).mp (split.symm.trans hpast)
    obtain ⟨rfl, -⟩ := DriverEffect.closing.inj heq
    rw [unbarred]
    exact ⟨rfl, quiet⟩

omit [WriterIngress W] in
/-- The transport is closed after the close has been entered and its barrier released. -/
theorem released {stage : DriverStage W κ} (h : CloseHistory past stage)
    {x y : List (DriverEffect κ)}
    (hpast : past = x ++ .closeTransport :: y) : ∃ reason barrier a b,
      x = a ++ .closing reason barrier :: b ∧
        ∀ writeId, barrier = .afterWrite writeId → Released writeId b := by
  have hmem : DriverEffect.closeTransport ∈ past := by
    rw [hpast]
    exact List.mem_append_right _ List.mem_cons_self
  have hnot : ∀ {l : List (DriverEffect κ)}, Unmarked l → DriverEffect.closeTransport ∉ l :=
    fun hl hmem => nomatch (hl _ hmem).2
  have hentry : ∀ reason barrier {a b : List (DriverEffect κ)}, Unmarked a → Unmarked b →
      DriverEffect.closeTransport ∉ a ++ .closing reason barrier :: b := by
    intro reason barrier a b ha hb hmem
    rcases List.mem_append.mp hmem with hmem | hmem
    · exact hnot ha hmem
    · rcases List.mem_cons.mp hmem with heq | hmem
      · cases heq
      · exact hnot hb hmem
  cases h with
  | live open_ unmarked => exact absurd hmem (hnot unmarked)
  | waiting reason writeId a b waits split before between quiet barred =>
    rw [split] at hmem
    exact absurd hmem (hentry reason _ before between)
  | ready reason barrier a b c unbarred split before between quiet released =>
    have hentered : (a ++ .closing reason barrier :: b) ++ c = x ++ .closeTransport :: y := by
      rw [← hpast, split]
      simp only [List.append_assoc, List.cons_append]
    rcases List.append_eq_append_iff.mp hentered with ⟨b', rfl, -⟩ | ⟨b', hx, hy⟩
    · refine ⟨reason, barrier, a, b ++ b', ?_, fun writeId hw => ?_⟩
      · simp only [List.append_assoc, List.cons_append]
      · exact (released writeId hw).mono fun _ => List.mem_append_left _
    · cases b' with
      | nil =>
        rw [List.append_nil] at hx
        exact ⟨reason, barrier, a, b, hx.symm, released⟩
      | cons e b' =>
        obtain ⟨rfl, -⟩ := List.cons.inj hy
        refine absurd ?_ (hentry reason barrier before between)
        rw [hx]
        exact List.mem_append_right _ List.mem_cons_self

end CloseHistory

/-! ## Closes of the transport -/

section

variable [WriterIngress W]

/-- The transport is closed once at most, and stays closed. -/
theorem DriverStep.countP_transport {admits : Bool} {past effects : List (DriverEffect κ)}
    {stage stage' : DriverStage W κ} (hstep : DriverStep admits stage effects stage')
    (h : past.countP DriverEffect.isTransportClose = if stage.driver.transportClosed then 1
      else 0) :
    (past ++ effects).countP DriverEffect.isTransportClose =
      if stage'.driver.transportClosed then 1 else 0 := by
  have hkeep : ∀ {effects : List (DriverEffect κ)}, (∀ e ∈ effects, e.isTransportClose = false) →
      (past ++ effects).countP DriverEffect.isTransportClose =
        if stage.driver.transportClosed then 1 else 0 := by
    intro effects hquiet
    have hzero : effects.countP DriverEffect.isTransportClose = 0 :=
      List.countP_eq_zero.mpr fun e he => by rw [hquiet e he]; exact Bool.false_ne_true
    rw [List.countP_append, h, hzero, Nat.add_zero]
  have hdischarge : ∀ (d : SessionDriver W κ) charge, ∀ e ∈ d.dischargeEffects charge,
      e.isTransportClose = false := by
    intro d charge e he
    unfold dischargeEffects at he
    split at he
    · cases he
    · rw [List.mem_singleton.mp he]
      rfl
  cases hstep with
  | closeTransport ready still =>
    rw [List.countP_append, h]
    dsimp only
    rw [still]
    rfl
  | present _ _ _ _ _ =>
    refine hkeep fun e he => ?_
    rcases List.mem_append.mp he with he | he
    · exact hdischarge _ _ e he
    · rcases List.mem_pair.mp he with rfl | rfl
      · rfl
      · rfl
  | reject _ _ =>
    refine hkeep fun e he => ?_
    rcases List.mem_append.mp he with he | he
    · exact hdischarge _ _ e he
    · rw [List.mem_singleton.mp he]
      rfl
  | close | shutDown _ _ =>
    refine hkeep fun e he => ?_
    unfold closeEffects at he
    split at he
    · rw [List.mem_singleton.mp he]
      rfl
    · cases he
  | deliver _ =>
    refine hkeep fun e he => ?_
    obtain ⟨token, -, rfl⟩ := Option.map_eq_some_iff.mp (Option.mem_toList.mp he)
    rfl
  | @answer _ _ effect returns =>
    refine hkeep fun e he => ?_
    rw [List.mem_singleton.mp he]
    cases effect <;> first | rfl | cases returns
  | idle _ | abandon _ | rest _ | stopWriter _ | drain
  | adjust _ _ _ => exact hkeep fun _ he => nomatch he
  | call _ _ | fail _ _ _ | send _ _ | sendAgain _ _ | observe | settle _ _ | settleWrite _
  | accept _ _ _ _ _ _
  | orphan _ _ | notice _ | takeInbound =>
    refine hkeep fun e he => ?_
    rw [List.mem_singleton.mp he]
    rfl

variable (generation : ConnectionGeneration) (tokenOwner : ℕ) (config : SessionCoreConfig)
  (nextWriteId : Option UInt64) (nextSystemBytes : Option UInt32) (writer : W)
  (bounds : DriverBounds)

/-- The history of the close after every run. -/
theorem SessionDriver.close_history (inputs : List (DriverInput κ)) :
    let driver := initial generation tokenOwner config nextWriteId nextSystemBytes writer bounds
    Sound ⟨machine.after driver inputs, none, []⟩ ∧
      CloseHistory (machine.history driver inputs) ⟨machine.after driver inputs, none, []⟩ ∧
      (machine.history driver inputs).countP DriverEffect.isTransportClose =
        if (machine.after driver inputs).transportClosed then 1 else 0 := by
  intro driver
  have hstart : Sound ⟨driver, none, []⟩ := sound_initial _ _ _ _ _ _ _
  obtain ⟨hsound, -, hhistory, hcount⟩ := invariant_history (I := fun past stage => Sound stage ∧
    Batch stage ∧ CloseHistory past stage ∧ past.countP DriverEffect.isTransportClose =
      if stage.driver.transportClosed then 1 else 0)
    (fun admits past stage effects stage' hI hstep => ⟨hI.1.step hstep, hI.2.1.step hI.1 hstep,
      hI.2.2.1.step hI.1 hI.2.1 hstep, hstep.countP_transport hI.2.2.2⟩)
    ⟨hstart, .done none, .live rfl (fun _ he => nomatch he), rfl⟩ inputs
  exact ⟨hsound, hhistory, hcount⟩

/-- The reason of a close is kept by every call. -/
theorem SessionDriver.reason_kept (d : SessionDriver W κ) (inputs : List (DriverInput κ))
    {reason : GenerationCloseReason} (h : d.closing.map ClosingState.reason = some reason) :
    (machine.after d inputs).closing.map ClosingState.reason = some reason := by
  refine machine.invariant (I := fun d : SessionDriver W κ =>
    d.closing.map ClosingState.reason = some reason) (fun d input hd => ?_) h inputs
  exact (steps_step d input).preserves
    (I := fun stage => stage.driver.closing.map ClosingState.reason = some reason)
    (fun _ _ _ hI hstep => hstep.reason_kept hI) hd

/-- **The transport is closed once and not before its barrier.**  Over every run of a new Driver on
any Writer: the transport is closed at most once, and exactly once as soon as the Writer has
stopped; the reason of the close never changes; a close of the transport comes after the close was
entered, and where that waits for a write, after its outcome has been processed or a terminal call
has intervened; and once the close is entered Core gets neither a message nor a violation nor a
command nor a tick. -/
theorem transport_closes_once_after_its_barrier (inputs : List (DriverInput κ)) :
    let driver := initial generation tokenOwner config nextWriteId nextSystemBytes writer bounds
    let past := machine.history driver inputs
    let last := machine.after driver inputs
    past.countP DriverEffect.isTransportClose ≤ 1 ∧
    ((∃ now, .writerStopped now ∈ inputs) → past.countP DriverEffect.isTransportClose = 1) ∧
    (∀ earlier later, inputs = earlier ++ later → ∀ reason,
      (machine.after driver earlier).closing.map ClosingState.reason = some reason →
        last.closing.map ClosingState.reason = some reason) ∧
    (∀ x y, past = x ++ .closeTransport :: y → ∃ reason barrier a b,
      x = a ++ .closing reason barrier :: b ∧
        ∀ writeId, barrier = .afterWrite writeId → Released writeId b) ∧
    ∀ reason barrier a b, past = a ++ .closing reason barrier :: b →
      last.closing.map ClosingState.reason = some reason ∧
        ∀ e ∈ b, e.isClosing = false ∧ e.isLiveCall = false := by
  intro driver past last
  obtain ⟨-, hhistory, hcount⟩ := close_history generation tokenOwner config nextWriteId
    nextSystemBytes writer bounds inputs
  have hmost : past.countP DriverEffect.isTransportClose ≤ 1 := by
    rw [show past.countP _ = _ from hcount]
    split_ifs
    · exact le_rfl
    · exact Nat.zero_le _
  refine ⟨hmost, ?_, ?_, fun x y => hhistory.released, fun reason barrier a b => hhistory.entered⟩
  · rintro ⟨now, hmem⟩
    obtain ⟨earlier, later, rfl⟩ := List.append_of_mem hmem
    obtain ⟨hsound, -, -⟩ := close_history generation tokenOwner config nextWriteId
      nextSystemBytes writer bounds earlier
    obtain ⟨-, -, hstopped⟩ := close_history generation tokenOwner config nextWriteId
      nextSystemBytes writer bounds (earlier ++ [.writerStopped now])
    rw [machine.after_append_singleton] at hstopped
    have hstop :
        ((Round.start (machine.after driver earlier)).onWriterStopped now).driver.transportClosed =
          true := (Round.onWriterStopped_settles hsound).1
    have hclosed : (machine.step (machine.after driver earlier)
        (.writerStopped now)).1.transportClosed =
        true := hstop
    have hone : (machine.history driver (earlier ++ [.writerStopped now])).countP
        DriverEffect.isTransportClose = 1 := hstopped.trans (if_pos hclosed)
    have hleast : 1 ≤ past.countP DriverEffect.isTransportClose := by
      have hsplit : past = machine.history driver (earlier ++ [.writerStopped now]) ++
          machine.history (machine.after driver (earlier ++ [.writerStopped now])) later := by
        rw [← machine.history_append, List.append_assoc]
        rfl
      rw [hsplit, List.countP_append, hone]
      exact Nat.le_add_right _ _
    exact Nat.le_antisymm hmost hleast
  · rintro earlier later rfl reason hreason
    show (machine.after driver (earlier ++ later)).closing.map _ = _
    rw [machine.after_append]
    exact reason_kept _ later hreason

end

end Hsms
end SecsRust

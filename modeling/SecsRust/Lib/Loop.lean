import Mathlib.Tactic

/-!
# Loops that end

A `loop` of the source turns a state into the next one until it returns or fails.  As a
recursive function it would be defined by well-founded recursion, which the kernel does not
unfold, and it could not be run on a concrete input.  `Loop.run` is such a loop for a turn
that makes a measure of the state smaller.  It is computed by structural recursion, with the
measure as fuel, and the fuel suffices (`iterate_isSome`), so `Loop.run_eq` is the equation
that the recursive definition would have: a loop is one turn and the loop again.

A property of all results is proved by the invariant rule (`Loop.run_rule`): what every turn
keeps, and what every returning turn turns into the conclusion, the result has.

The last section looks inside a loop.  `Loop.Reaches` relates a state to those that its
turns lead to, also when the loop fails in the end.  `Loop.Reaches.invariant` carries an
invariant to all of these states, and `Loop.run_last` finds the last of them: whatever the
loop returns or fails with, some reached state has a turn that returns or fails with it.
-/

namespace SecsRust

universe u v w

/-- What one turn of a loop leads to, when it does not fail: another turn, or the result. -/
inductive Turn (σ : Type u) (α : Type v) where
  | next (s : σ)
  | done (result : α)

namespace Loop

variable {σ : Type u} {α : Type v} {ε : Type w} (turn : σ → Except ε (Turn σ α))

/-- At most so many turns. -/
def iterate : ℕ → σ → Option (Except ε α)
  | 0, _ => none
  | fuel + 1, s =>
    match turn s with
    | .error e => some (.error e)
    | .ok (.done result) => some (.ok result)
    | .ok (.next s) => iterate fuel s

variable {turn} {μ : σ → ℕ}

theorem iterate_isSome (h : ∀ s s', turn s = .ok (.next s') → μ s' < μ s) {fuel : ℕ} :
    ∀ {s : σ}, μ s < fuel → (iterate turn fuel s).isSome = true := by
  induction fuel with
  | zero => intro s hfuel; exact absurd hfuel (Nat.not_lt_zero _)
  | succ fuel ih =>
    intro s hfuel
    rw [iterate]
    cases hturn : turn s with
    | error e => rfl
    | ok result =>
      cases result with
      | done result => rfl
      | next s' => exact ih (Nat.lt_of_lt_of_le (h s s' hturn) (Nat.lt_succ_iff.mp hfuel))

theorem iterate_mono {fuel k : ℕ} {result : Except ε α} :
    ∀ {s : σ}, iterate turn fuel s = some result → iterate turn (fuel + k) s = some result := by
  induction fuel with
  | zero => intro s h; cases h
  | succ fuel ih =>
    intro s h
    rw [Nat.add_right_comm]
    rw [iterate] at h ⊢
    cases hturn : turn s with
    | error e => rw [hturn] at h; exact h
    | ok next =>
      rw [hturn] at h
      cases next with
      | done result => exact h
      | next s' => exact ih h

/-- The loop of a turn that makes the measure smaller.  It runs on a fuel that the measure gives,
and the proof that the measure decreases is an argument, so that the loop has a value in every
state. -/
def run (turn : σ → Except ε (Turn σ α)) (μ : σ → ℕ)
    (h : ∀ s s', turn s = .ok (.next s') → μ s' < μ s) (s : σ) : Except ε α :=
  (iterate turn (μ s + 1) s).get (iterate_isSome h (Nat.lt_succ_self _))

/-- More fuel makes no difference. -/
theorem iterate_eq_run (h : ∀ s s', turn s = .ok (.next s') → μ s' < μ s) {fuel : ℕ} {s : σ}
    (hfuel : μ s < fuel) : iterate turn fuel s = some (run turn μ h s) := by
  have hleast : iterate turn (μ s + 1) s = some (run turn μ h s) := (Option.some_get _).symm
  have hmore := iterate_mono (k := fuel - (μ s + 1)) hleast
  rwa [Nat.add_sub_cancel' hfuel] at hmore

/-- **A loop is one turn and the loop again.**  It is the equation by which everything else about
a loop is proved. -/
theorem run_eq (h : ∀ s s', turn s = .ok (.next s') → μ s' < μ s) (s : σ) :
    run turn μ h s = match turn s with
      | .error e => .error e
      | .ok (.done result) => .ok result
      | .ok (.next s) => run turn μ h s := by
  have hrun := iterate_eq_run h (Nat.lt_succ_self (μ s))
  rw [iterate] at hrun
  cases hturn : turn s with
  | error e => rw [hturn] at hrun; exact (Option.some.inj hrun).symm
  | ok next =>
    rw [hturn] at hrun
    cases next with
    | done result => exact (Option.some.inj hrun).symm
    | next s' =>
      dsimp only at hrun ⊢
      rw [iterate_eq_run h (h s s' hturn)] at hrun
      exact (Option.some.inj hrun).symm

/-- **The invariant rule**: what every turn keeps, the result has.  The state of the last turn
has `P`, and the turn itself yields `Q`. -/
theorem run_rule {P : σ → Prop} {Q : α → Prop} (h : ∀ s s', turn s = .ok (.next s') → μ s' < μ s)
    (hnext : ∀ s s', P s → turn s = .ok (.next s') → P s')
    (hdone : ∀ s result, P s → turn s = .ok (.done result) → Q result) {s : σ} {result : α}
    (hs : P s) (hrun : run turn μ h s = .ok result) : Q result := by
  induction hn : μ s using Nat.strong_induction_on generalizing s with
  | _ n ih =>
    rw [run_eq] at hrun
    cases hturn : turn s with
    | error e => rw [hturn] at hrun; cases hrun
    | ok next =>
      rw [hturn] at hrun
      cases next with
      | done result' => cases hrun; exact hdone s result hs hturn
      | next s' => exact ih (μ s') (hn ▸ h s s' hturn) (hnext s s' hs hturn) hrun rfl

/-! ## The states of a loop -/

/-- Turns of the loop lead from the first state to the second. -/
abbrev Reaches (turn : σ → Except ε (Turn σ α)) : σ → σ → Prop :=
  Relation.ReflTransGen fun s s' => turn s = .ok (.next s')

/-- What every turn keeps, every state of the loop has. -/
theorem Reaches.invariant {I : σ → Prop} (hnext : ∀ s s', I s → turn s = .ok (.next s') → I s')
    {s s' : σ} (h : Reaches turn s s') (hs : I s) : I s' := by
  induction h with
  | refl => exact hs
  | tail _ hturn ih => exact hnext _ _ ih hturn

/-- **A loop ends with its last turn**, in the result of that turn or in its error. -/
theorem run_last (h : ∀ s s', turn s = .ok (.next s') → μ s' < μ s) (s : σ) :
    ∃ last, Reaches turn s last ∧
      ((∃ e, turn last = .error e ∧ run turn μ h s = .error e) ∨
        ∃ result, turn last = .ok (.done result) ∧ run turn μ h s = .ok result) := by
  induction hn : μ s using Nat.strong_induction_on generalizing s with
  | _ n ih =>
    rw [run_eq]
    cases hturn : turn s with
    | error e => exact ⟨s, .refl, .inl ⟨e, hturn, rfl⟩⟩
    | ok next =>
      cases next with
      | done result => exact ⟨s, .refl, .inr ⟨result, hturn, rfl⟩⟩
      | next s' =>
        obtain ⟨last, hreach, hlast⟩ := ih (μ s') (hn ▸ h s s' hturn) s' rfl
        exact ⟨last, .head hturn hreach, hlast⟩

end Loop

end SecsRust

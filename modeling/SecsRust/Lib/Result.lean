import Mathlib.Tactic

/-!
# Fallible steps

A function that may fail is a sequence of steps, and it fails with the error of the first
step that does. Written with `do`, such a sequence is a nest of binds, and a proof that
unfolds it splits on every step again.  The two lemmas here take it apart without unfolding
anything: `Except.bind_eq_ok` turns the success of a sequence into the success of its first
step and of the others on its result, and `Except.bind_ok` replaces a step that is known to
succeed by its value.

`ensure` is the step that only checks a condition.  It succeeds exactly when the condition
holds (`ensure_eq_ok`), so a chain of checks is a conjunction.
-/

namespace SecsRust

universe u v w

variable {ε : Type u} {α : Type v} {β : Type v}

/-- Fails with the error unless the condition holds. -/
def ensure (c : Prop) [Decidable c] (e : ε) : Except ε Unit := if c then .ok () else .error e

theorem ensure_eq_ok {c : Prop} [Decidable c] {e : ε} {u : Unit} : ensure c e = .ok u ↔ c := by
  unfold ensure
  split <;> simp_all

theorem ensure_of {c : Prop} [Decidable c] {e : ε} (h : c) : ensure c e = .ok () := if_pos h

/-- **Two steps succeed when the first does and the second does on its result.** -/
theorem bind_eq_ok {x : Except ε α} {f : α → Except ε β} {b : β} :
    x >>= f = .ok b ↔ ∃ a, x = .ok a ∧ f a = .ok b := by
  cases x with
  | error e => exact iff_of_false (fun h => nomatch h) fun ⟨_, h, _⟩ => nomatch h
  | ok a => exact ⟨fun h => ⟨a, rfl, h⟩, fun ⟨_, ha, h⟩ => Except.ok.inj ha ▸ h⟩

theorem bind_ok {x : Except ε α} {a : α} (h : x = .ok a) (f : α → Except ε β) : x >>= f = f a := by
  rw [h]
  rfl

theorem pure_eq_ok {a b : α} : (pure a : Except ε α) = .ok b ↔ a = b :=
  ⟨Except.ok.inj, congrArg Except.ok⟩

end SecsRust

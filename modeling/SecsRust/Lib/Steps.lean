import SecsRust.Lib.Machine

/-!
# Labelled steps and refinement of machines

A handler of a large component does many small things one after the other: it inserts into
one table, takes from another, pushes an output, and then does the next thing.  A proof that
an invariant survives the handler should not see its control flow.

`Steps R` is the closure of a step relation `R` whose every step carries the outputs it
makes.  The plan that it serves has two parts.  First every handler is shown to be a finite
sequence of steps of the relation, with the same outputs in the same order; this is done
once, and it is where the control flow is looked at.  Then a predicate is proved for single
steps only, and the rules carry it to the handlers:

* `Steps.preserves`: a predicate of the state that every step keeps;
* `Steps.accumulates`: a predicate of the outputs so far and the state that every step
  extends;
* `Steps.exists_of_mem`: every output of a sequence is an output of one of its steps.

Sequences are built from single steps (`Steps.single`) by composition (`Steps.trans`), which
follows the order of the statements in the handler.
-/

namespace SecsRust

universe u v

variable {σ : Type u} {ω : Type v}

/-- A finite sequence of labelled steps, with the outputs of all of them in order. -/
inductive Steps (R : σ → List ω → σ → Prop) : σ → List ω → σ → Prop where
  | refl (s : σ) : Steps R s [] s
  | head {s s₁ s₂ : σ} {a b : List ω} (h : R s a s₁) (rest : Steps R s₁ b s₂) :
      Steps R s (a ++ b) s₂

namespace Steps

variable {R : σ → List ω → σ → Prop} {s s₁ s₂ : σ} {a b : List ω}

theorem single (h : R s a s₁) : Steps R s a s₁ := by
  have := head h (refl s₁)
  rwa [List.append_nil] at this

theorem trans (h : Steps R s a s₁) (h' : Steps R s₁ b s₂) : Steps R s (a ++ b) s₂ := by
  induction h with
  | refl => exact h'
  | head h _ ih =>
    rw [List.append_assoc]
    exact head h (ih h')

/-- **The step rule**: a predicate that every step keeps is kept by a sequence of steps. -/
theorem preserves {I : σ → Prop} (hstep : ∀ s a s', I s → R s a s' → I s') (h : Steps R s a s₁)
    (hs : I s) : I s₁ := by
  induction h with
  | refl => exact hs
  | head h _ ih => exact ih (hstep _ _ _ hs h)

/-- **The step rule with outputs**: a predicate of the outputs so far and the state that every
step extends is extended by a sequence of steps. -/
theorem accumulates {I : List ω → σ → Prop}
    (hstep : ∀ past s a s', I past s → R s a s' → I (past ++ a) s') {past : List ω}
    (h : Steps R s a s₁) (hs : I past s) : I (past ++ a) s₁ := by
  induction h generalizing past with
  | refl => rwa [List.append_nil]
  | head h _ ih =>
    rw [← List.append_assoc]
    exact ih (hstep _ _ _ _ hs h)

/-- The step rule with outputs, from the beginning of the sequence. -/
theorem accumulates_nil {I : List ω → σ → Prop}
    (hstep : ∀ past s a s', I past s → R s a s' → I (past ++ a) s') (h : Steps R s a s₁)
    (hs : I [] s) : I a s₁ := h.accumulates hstep hs

/-- Every output of a sequence of steps is an output of one of them. -/
theorem exists_of_mem {o : ω} (h : Steps R s a s₁) (ho : o ∈ a) :
    ∃ (before after : σ) (past now later : List ω), Steps R s past before ∧ R before now after ∧
      Steps R after later s₁ ∧ o ∈ now ∧ a = past ++ now ++ later := by
  induction h with
  | refl => cases ho
  | @head s s₁ s₂ a b hstep rest ih =>
    rcases List.mem_append.mp ho with ho | ho
    · exact ⟨s, s₁, [], a, b, refl s, hstep, rest, ho, rfl⟩
    · obtain ⟨before, after, past, now, later, hpast, hnow, hlater, hmem, heq⟩ := ih ho
      refine ⟨before, after, a ++ past, now, later, head hstep hpast, hnow, hlater, hmem, ?_⟩
      rw [heq]
      simp only [List.append_assoc]

end Steps

end SecsRust

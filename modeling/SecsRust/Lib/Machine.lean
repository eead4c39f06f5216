import Mathlib.Tactic

/-!
# Reactive machines and their runs

A component that owns its state and is driven from outside answers each input with a next
state and a list of outputs, and nothing else happens.  `Machine` is that, and a run is a
list of inputs from a start state.  `Machine.after` is the state that a run leads to and
`Machine.history` everything output on the way.

Few facts about such a component are about one step.  This file holds the rules by which a
fact about single steps becomes one about runs, so that no development that uses them has an
induction over inputs of its own:

* `Machine.invariant`: a predicate of the state that every step keeps holds after every run;
* `Machine.invariant_history`: the same for a predicate of the state and the whole history,
  for facts such as that an output occurs once;
* `Machine.invariant_inputs`: the same for a predicate of the state and the inputs so far.

## Runs under a condition

Some components keep an invariant only as long as their environment, or a known defect,
leaves them alone.  `Machine.Along C` says that every step of a run meets `C`, read at the
state before the step and at its input.  The `Along` forms of the rules ask of a step only
what it does under the condition, so the condition of a theorem about runs is a predicate of
the runs and not of the states they end in.

## Labels

What an output means may depend on the input it answers.  `Machine.labelled` is the same
machine with every output paired with its input, and its history projects to the one of the
machine.
-/

namespace SecsRust

universe u v w

/-- A deterministic machine that consumes inputs and emits lists of outputs.  Whatever is
observable is an output, so that a property of a run is one of its history and its last state. -/
structure Machine (σ : Type u) (ι : Type v) (ω : Type w) where
  step : σ → ι → σ × List ω

namespace Machine

variable {σ : Type u} {ι : Type v} {ω : Type w} (m : Machine σ ι ω)

/-- The state after a run. -/
def after : σ → List ι → σ
  | s, [] => s
  | s, i :: is => after (m.step s i).1 is

/-- Everything output during a run, in order. -/
def history : σ → List ι → List ω
  | _, [] => []
  | s, i :: is => (m.step s i).2 ++ history (m.step s i).1 is

@[simp] theorem after_nil (s : σ) : m.after s [] = s := rfl

@[simp] theorem after_cons (s : σ) (i : ι) (is : List ι) :
    m.after s (i :: is) = m.after (m.step s i).1 is := rfl

@[simp] theorem history_nil (s : σ) : m.history s [] = [] := rfl

@[simp] theorem history_cons (s : σ) (i : ι) (is : List ι) :
    m.history s (i :: is) = (m.step s i).2 ++ m.history (m.step s i).1 is := rfl

theorem after_append (s : σ) (is js : List ι) :
    m.after s (is ++ js) = m.after (m.after s is) js := by
  induction is generalizing s with
  | nil => rfl
  | cons i is ih => exact ih _

theorem history_append (s : σ) (is js : List ι) :
    m.history s (is ++ js) = m.history s is ++ m.history (m.after s is) js := by
  induction is generalizing s with
  | nil => rfl
  | cons i is ih => rw [List.cons_append, history_cons, ih, history_cons, after_cons,
      List.append_assoc]

theorem after_append_singleton (s : σ) (is : List ι) (i : ι) :
    m.after s (is ++ [i]) = (m.step (m.after s is) i).1 := by
  rw [after_append, after_cons, after_nil]

theorem history_append_singleton (s : σ) (is : List ι) (i : ι) :
    m.history s (is ++ [i]) = m.history s is ++ (m.step (m.after s is) i).2 := by
  rw [history_append, history_cons, history_nil, List.append_nil]

/-- Every output of a run is an output of one of its rounds. -/
theorem exists_of_mem_history {s : σ} {is : List ι} {o : ω} (h : o ∈ m.history s is) :
    ∃ earlier i later, is = earlier ++ i :: later ∧ o ∈ (m.step (m.after s earlier) i).2 := by
  induction is generalizing s with
  | nil => cases h
  | cons i is ih =>
    rcases List.mem_append.mp h with h | h
    · exact ⟨[], i, is, rfl, h⟩
    · obtain ⟨earlier, j, later, rfl, hmem⟩ := ih h
      exact ⟨i :: earlier, j, later, rfl, hmem⟩

/-- The machine whose every output carries the input that it answers. -/
def labelled : Machine σ ι (ι × ω) where
  step s i := ((m.step s i).1, (m.step s i).2.map fun o => (i, o))

@[simp] theorem labelled_after (s : σ) (is : List ι) : m.labelled.after s is = m.after s is := by
  induction is generalizing s with
  | nil => rfl
  | cons i is ih => exact ih _

/-- Without the labels the history is that of the machine. -/
theorem map_snd_labelled_history (s : σ) (is : List ι) :
    (m.labelled.history s is).map Prod.snd = m.history s is := by
  induction is generalizing s with
  | nil => rfl
  | cons i is ih =>
    have hround : ((m.step s i).2.map fun o => (i, o)).map Prod.snd = (m.step s i).2 := by
      rw [List.map_map]
      exact List.map_id _
    rw [history_cons, history_cons, List.map_append, ← ih]
    exact congrArg (· ++ _) hround

/-! ## Runs whose steps meet a condition -/

/-- Every step of the run meets `C`, read at the state before the step and its input.  It is how
a run is restricted where a claim about runs holds only off a defect. -/
def Along (C : σ → ι → Prop) : σ → List ι → Prop
  | _, [] => True
  | s, i :: is => C s i ∧ Along C (m.step s i).1 is

variable {m}

@[simp] theorem along_nil {C : σ → ι → Prop} {s : σ} : m.Along C s [] := trivial

@[simp] theorem along_cons {C : σ → ι → Prop} {s : σ} {i : ι} {is : List ι} :
    m.Along C s (i :: is) ↔ C s i ∧ m.Along C (m.step s i).1 is := Iff.rfl

theorem along_append {C : σ → ι → Prop} {s : σ} {is js : List ι} :
    m.Along C s (is ++ js) ↔ m.Along C s is ∧ m.Along C (m.after s is) js := by
  induction is generalizing s with
  | nil => simp
  | cons i is ih => simp only [List.cons_append, along_cons, ih, after_cons, and_assoc]

theorem Along.mono {C D : σ → ι → Prop} (hCD : ∀ s i, C s i → D s i) {s : σ} {is : List ι}
    (h : m.Along C s is) : m.Along D s is := by
  induction is generalizing s with
  | nil => trivial
  | cons i is ih => exact ⟨hCD _ _ h.1, ih h.2⟩

/-- A condition of the inputs alone may be read off the list of inputs. -/
theorem Along.and_inputs {C : σ → ι → Prop} {P : ι → Prop} {s : σ} {is : List ι}
    (h : m.Along C s is) (hP : ∀ i ∈ is, P i) : m.Along (fun s i => C s i ∧ P i) s is := by
  induction is generalizing s with
  | nil => trivial
  | cons i is ih =>
    exact ⟨⟨h.1, hP i List.mem_cons_self⟩, ih h.2 fun j hj => hP j (List.mem_cons_of_mem _ hj)⟩

/-- A condition that holds of every step holds along every run. -/
theorem along_of_forall {C : σ → ι → Prop} (hC : ∀ s i, C s i) (s : σ) (is : List ι) :
    m.Along C s is := by
  induction is generalizing s with
  | nil => trivial
  | cons i is ih => exact ⟨hC _ _, ih _⟩

/-! ## Invariants -/

/-- **The invariant rule**, along a condition: what every admitted step keeps holds after the
run. -/
theorem invariant_along {C : σ → ι → Prop} {I : σ → Prop}
    (hstep : ∀ s i, C s i → I s → I (m.step s i).1) {s : σ} (hs : I s) {is : List ι}
    (h : m.Along C s is) : I (m.after s is) := by
  induction is generalizing s with
  | nil => exact hs
  | cons i is ih => exact ih (hstep s i h.1 hs) h.2

/-- **The invariant rule.** -/
theorem invariant {I : σ → Prop} (hstep : ∀ s i, I s → I (m.step s i).1) {s : σ} (hs : I s)
    (is : List ι) : I (m.after s is) :=
  invariant_along (C := fun _ _ => True) (fun s i _ => hstep s i) hs
    (along_of_forall (fun _ _ => trivial) s is)

/-- **The history rule**, along a condition: a predicate of the outputs so far and the state that
every admitted step extends holds after the run. -/
theorem invariant_history_along {C : σ → ι → Prop} {I : List ω → σ → Prop}
    (hstep : ∀ past s i, C s i → I past s → I (past ++ (m.step s i).2) (m.step s i).1)
    {past : List ω} {s : σ} (hs : I past s) {is : List ι} (h : m.Along C s is) :
    I (past ++ m.history s is) (m.after s is) := by
  induction is generalizing past s with
  | nil => simpa using hs
  | cons i is ih =>
    rw [history_cons, ← List.append_assoc]
    exact ih (hstep past s i h.1 hs) h.2

/-- **The history rule.** -/
theorem invariant_history {I : List ω → σ → Prop}
    (hstep : ∀ past s i, I past s → I (past ++ (m.step s i).2) (m.step s i).1)
    {s : σ} (hs : I [] s) (is : List ι) : I (m.history s is) (m.after s is) := by
  have h := invariant_history_along (C := fun _ _ => True) (fun past s i _ => hstep past s i) hs
    (along_of_forall (m := m) (fun _ _ => trivial) s is)
  simpa using h

/-- **The input rule**: a predicate of the inputs so far and the state that every step extends
holds after every run.  It is the rule for what has come in, as the history rule is for what has
gone out. -/
theorem invariant_inputs {I : List ι → σ → Prop}
    (hstep : ∀ seen s i, I seen s → I (seen ++ [i]) (m.step s i).1) {s : σ} (hs : I [] s)
    (is : List ι) : I is (m.after s is) := by
  induction is using List.reverseRecOn with
  | nil => exact hs
  | append_singleton is i ih =>
    rw [after_append_singleton]
    exact hstep is _ i ih

end Machine

end SecsRust

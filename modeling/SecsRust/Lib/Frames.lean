import Mathlib.Tactic

/-!
# Reading trees with an explicit stack

A reader that builds a tree without recursion keeps the nodes that are still open on a stack
of frames.  It starts an item; a leaf goes to the innermost frame, and a node opens a frame
of its own.  After every delivery it asks whether the innermost frame takes another child,
and if not it closes the frame, which delivers the finished node one level up.  Such a
reader cannot overflow the call stack, and it can refuse an item by the number of frames
that are open; for both reasons it is how a decoder of untrusted input is written.

It is not how the input is described.  A grammar is recursive: an item is a leaf, or a node
followed by its children.  `FrameReader.run` is the loop, for any way of starting an item
and any way of deciding when a frame is full, and `FrameReader.Reads` is the recursive
reading of the same grammar.

## Why the two agree

A state of the loop is a stack, and the recursion knows no stacks.  `FrameReader.Delivers`
bridges them: it says what the recursion still has to read for each open frame until a
delivered item has become part of the root.  With it both directions are inductions: over
the recursive reading for what the loop does (`FrameReader.run_of_reads`), and over the fuel
for what the recursion does (`FrameReader.reads_of_run`).  The loop needs no more fuel than
the input has items, as long as every item consumes something (`FrameReader.run_isSome`).

## Two readers side by side

Some statements compare the loop on two inputs, or under two limits, where only one of them
succeeds.  `FrameReader.run_beside` runs the loop on two states at once.  As long as the
second can follow the first both read the same value; where it cannot, it ends with an error
of that very step.
-/

namespace SecsRust

universe u v w x

/-- An open node with the children it has received so far. -/
structure Frame (η : Type v) (α : Type w) where
  header : η
  children : List α

namespace Frame

variable {η : Type v} {α : Type w}

/-- The frame receives one more child. -/
def push (frame : Frame η α) (item : α) : Frame η α :=
  { frame with children := frame.children ++ [item] }

@[simp] theorem push_header (frame : Frame η α) (item : α) :
    (frame.push item).header = frame.header := rfl

@[simp] theorem push_children (frame : Frame η α) (item : α) :
    (frame.push item).children = frame.children ++ [item] := rfl

end Frame

/-- What the beginning of an item is: a complete leaf, or an open node. -/
inductive Started (η : Type v) (α : Type w) where
  | leaf (item : α)
  | opened (header : η)

/-- How far a delivery has got: the root is complete, or a frame waits for another item. -/
inductive Settled (σ : Type u) (η : Type v) (α : Type w) where
  | root (item : α) (s : σ)
  | more (stack : List (Frame η α)) (s : σ)

/-- A way of starting an item, of asking a frame for another child, and of building a node.  The
stack is there for the depth it shows and for the errors that name an open frame.  The loop knows
nothing else of the format, so that the wire and the text share it. -/
structure FrameReader (σ : Type u) (η : Type v) (α : Type w) (ε : Type x) where
  start : List (Frame η α) → σ → Except ε (Started η α × σ)
  next : Frame η α → List (Frame η α) → σ → Except ε (Bool × σ)
  node : List α → α

namespace FrameReader

variable {σ : Type u} {η : Type v} {α : Type w} {ε : Type x} (r : FrameReader σ η α ε)

/-! ## The loop -/

/-- Closes the innermost frame, and then its ancestors, as long as they take no further child. -/
def settle : Frame η α → List (Frame η α) → σ → Except ε (Settled σ η α)
  | frame, [], s =>
    match r.next frame [] s with
    | .error e => .error e
    | .ok (true, s) => .ok (.more [frame] s)
    | .ok (false, s) => .ok (.root (r.node frame.children) s)
  | frame, parent :: stack, s =>
    match r.next frame (parent :: stack) s with
    | .error e => .error e
    | .ok (true, s) => .ok (.more (frame :: parent :: stack) s)
    | .ok (false, s) => settle (parent.push (r.node frame.children)) stack s

/-- Hands a complete item to the innermost frame, or to the caller. -/
def deliver (item : α) : List (Frame η α) → σ → Except ε (Settled σ η α)
  | [], s => .ok (.root item s)
  | frame :: stack, s => r.settle (frame.push item) stack s

/-- Hands on what has been started. -/
def attach (stack : List (Frame η α)) : Started η α × σ → Except ε (Settled σ η α)
  | (.leaf item, s) => r.deliver item stack s
  | (.opened header, s) => r.settle ⟨header, []⟩ stack s

/-- The loop; each unit of fuel starts one item. -/
def run : ℕ → List (Frame η α) → σ → Option (Except ε (α × σ))
  | 0, _, _ => none
  | fuel + 1, stack, s =>
    match r.start stack s with
    | .error e => some (.error e)
    | .ok started =>
      match r.attach stack started with
      | .error e => some (.error e)
      | .ok (.root item s) => some (.ok (item, s))
      | .ok (.more stack s) => run fuel stack s

/-- What the loop does after a delivery. -/
def resume (fuel : ℕ) : Except ε (Settled σ η α) → Option (Except ε (α × σ))
  | .error e => some (.error e)
  | .ok (.root item s) => some (.ok (item, s))
  | .ok (.more stack s) => r.run fuel stack s

variable {r} {stack : List (Frame η α)} {frame : Frame η α} {s s' : σ} {item : α}

theorem settle_error {e : ε} (h : r.next frame stack s = .error e) :
    r.settle frame stack s = .error e := by
  cases stack <;> simp only [settle, h]

theorem settle_more (h : r.next frame stack s = .ok (true, s')) :
    r.settle frame stack s = .ok (.more (frame :: stack) s') := by
  cases stack <;> simp only [settle, h]

theorem settle_close (h : r.next frame stack s = .ok (false, s')) :
    r.settle frame stack s = r.deliver (r.node frame.children) stack s' := by
  cases stack <;> simp only [settle, h, deliver]

theorem run_error {fuel : ℕ} {e : ε} (h : r.start stack s = .error e) :
    r.run (fuel + 1) stack s = some (.error e) := by
  rw [run, h]

theorem run_start {fuel : ℕ} {started : Started η α × σ} (h : r.start stack s = .ok started) :
    r.run (fuel + 1) stack s = r.resume fuel (r.attach stack started) := by
  rw [run, h]
  dsimp only
  cases r.attach stack started with
  | error e => rfl
  | ok settled => cases settled <;> rfl

/-! ## The recursion -/

variable (r)

mutual

/-- The recursive reading of one item.  It takes the same steps as the loop, and what the loop
keeps on a stack is the recursion itself. -/
inductive Reads : List (Frame η α) → σ → α → σ → Prop where
  | leaf {stack : List (Frame η α)} {s s' : σ} {item : α}
      (start : r.start stack s = .ok (.leaf item, s')) : Reads stack s item s'
  | node {stack : List (Frame η α)} {s s₁ s' : σ} {header : η} {items : List α}
      (start : r.start stack s = .ok (.opened header, s₁))
      (children : Fills ⟨header, []⟩ stack s₁ items s') : Reads stack s (r.node items) s'

/-- The recursive reading of the children that an open frame is still to receive. -/
inductive Fills : Frame η α → List (Frame η α) → σ → List α → σ → Prop where
  | close {frame : Frame η α} {stack : List (Frame η α)} {s s' : σ}
      (next : r.next frame stack s = .ok (false, s')) : Fills frame stack s frame.children s'
  | more {frame : Frame η α} {stack : List (Frame η α)} {s s₁ s₂ s' : σ} {item : α}
      {items : List α} (next : r.next frame stack s = .ok (true, s₁))
      (child : Reads (frame :: stack) s₁ item s₂)
      (rest : Fills (frame.push item) stack s₂ items s') :
      Fills frame stack s items s'

end

/-- A complete item, once the frames of the stack have received what they are still to receive,
makes the root. -/
def Delivers : List (Frame η α) → α → σ → α → σ → Prop
  | [], item, s, root, s' => root = item ∧ s' = s
  | frame :: stack, item, s, root, s' => ∃ items s₁, r.Fills (frame.push item) stack s items s₁ ∧
      Delivers stack (r.node items) s₁ root s'

variable {r}

/-! ## The loop reads what the recursion reads -/

mutual

theorem run_of_reads : ∀ {stack : List (Frame η α)} {s s' : σ} {item : α},
    r.Reads stack s item s' →
    ∃ n, ∀ fuel, r.run (fuel + n) stack s = r.resume fuel (r.deliver item stack s')
  | _, _, _, _, .leaf start => ⟨1, fun _ => run_start start⟩
  | _, _, _, _, .node start children =>
    let ⟨n, hn⟩ := resume_of_fills children
    ⟨n + 1, fun fuel => (run_start start).trans (hn fuel)⟩

theorem resume_of_fills : ∀ {frame : Frame η α} {stack : List (Frame η α)} {s s' : σ}
    {items : List α}, r.Fills frame stack s items s' →
    ∃ n, ∀ fuel, r.resume (fuel + n) (r.settle frame stack s) =
      r.resume fuel (r.deliver (r.node items) stack s')
  | _, _, _, _, _, .close next => ⟨0, fun fuel => by rw [settle_close next]; rfl⟩
  | _, _, _, _, _, .more next child rest =>
    let ⟨n, hn⟩ := run_of_reads child
    let ⟨k, hk⟩ := resume_of_fills rest
    ⟨k + n, fun fuel => by
      rw [settle_more next, ← Nat.add_assoc]
      exact (hn (fuel + k)).trans (hk fuel)⟩

end

/-! ## The recursion reads what the loop reads -/

/-- A delivery that leads to the root, if the loop does. -/
theorem delivers_of_resume {fuel : ℕ} {root : α}
    (ih : ∀ {stack : List (Frame η α)} {s : σ}, r.run fuel stack s = some (.ok (root, s')) →
      ∃ item s₁, r.Reads stack s item s₁ ∧ r.Delivers stack item s₁ root s') :
    ∀ (stack : List (Frame η α)) (frame : Frame η α) (s : σ),
      r.resume fuel (r.settle frame stack s) = some (.ok (root, s')) →
      ∃ items s₁, r.Fills frame stack s items s₁ ∧ r.Delivers stack (r.node items) s₁ root s' := by
  intro stack
  induction stack with
  | nil =>
    intro frame s h
    cases hnext : r.next frame [] s with
    | error e => rw [settle_error hnext] at h; cases h
    | ok result =>
      obtain ⟨more, s₁⟩ := result
      cases more with
      | true =>
        rw [settle_more hnext] at h
        obtain ⟨item, s₂, hchild, items, s₃, hrest, hroot⟩ := ih h
        exact ⟨items, s₃, .more hnext hchild hrest, hroot⟩
      | false =>
        rw [settle_close hnext] at h
        cases h
        exact ⟨frame.children, _, .close hnext, rfl, rfl⟩
  | cons parent stack ihstack =>
    intro frame s h
    cases hnext : r.next frame (parent :: stack) s with
    | error e => rw [settle_error hnext] at h; cases h
    | ok result =>
      obtain ⟨more, s₁⟩ := result
      cases more with
      | true =>
        rw [settle_more hnext] at h
        obtain ⟨item, s₂, hchild, items, s₃, hrest, hroot⟩ := ih h
        exact ⟨items, s₃, .more hnext hchild hrest, hroot⟩
      | false =>
        rw [settle_close hnext] at h
        obtain ⟨items, s₂, hfills, hroot⟩ := ihstack (parent.push (r.node frame.children)) s₁ h
        exact ⟨frame.children, s₁, .close hnext, items, s₂, hfills, hroot⟩

/-- What the loop reads from any stack. -/
theorem delivers_of_run {fuel : ℕ} {root : α} :
    ∀ {stack : List (Frame η α)} {s : σ}, r.run fuel stack s = some (.ok (root, s')) →
      ∃ item s₁, r.Reads stack s item s₁ ∧ r.Delivers stack item s₁ root s' := by
  induction fuel with
  | zero => intro stack s h; cases h
  | succ fuel ih =>
    intro stack s h
    cases hstart : r.start stack s with
    | error e => rw [run_error hstart] at h; cases h
    | ok started =>
      rw [run_start hstart] at h
      obtain ⟨started, s₁⟩ := started
      cases started with
      | leaf item =>
        refine ⟨item, s₁, .leaf hstart, ?_⟩
        cases stack with
        | nil => cases h; exact ⟨rfl, rfl⟩
        | cons frame stack => exact delivers_of_resume ih stack (frame.push item) s₁ h
      | opened header =>
        obtain ⟨items, s₂, hfills, hroot⟩ := delivers_of_resume ih stack ⟨header, []⟩ s₁ h
        exact ⟨r.node items, s₂, .node hstart hfills, hroot⟩

/-- **What the loop reads the recursion reads.** -/
theorem reads_of_run {fuel : ℕ} (h : r.run fuel [] s = some (.ok (item, s'))) :
    r.Reads [] s item s' := by
  obtain ⟨other, s₁, hreads, rfl, rfl⟩ := delivers_of_run h
  exact hreads

/-! ## Fuel -/

theorem run_mono {fuel : ℕ} {result : Except ε (α × σ)} :
    ∀ {stack : List (Frame η α)} {s : σ} (k : ℕ), r.run fuel stack s = some result →
      r.run (fuel + k) stack s = some result := by
  induction fuel with
  | zero => intro stack s k h; cases h
  | succ fuel ih =>
    intro stack s k h
    rw [Nat.add_right_comm]
    cases hstart : r.start stack s with
    | error e =>
      rw [run_error hstart] at h ⊢
      exact h
    | ok started =>
      rw [run_start hstart] at h ⊢
      cases hattach : r.attach stack started with
      | error e => rw [hattach] at h; exact h
      | ok settled =>
        rw [hattach] at h
        cases settled with
        | root item s => exact h
        | more stack s => exact ih k h

section

variable {μ : σ → ℕ}

/-- Closing frames consumes nothing. -/
theorem measure_settle (hnext : ∀ frame stack s more s', r.next frame stack s = .ok (more, s') →
      μ s' ≤ μ s) :
    ∀ (stack : List (Frame η α)) (frame : Frame η α) (s : σ) {stack' s'},
      r.settle frame stack s = .ok (.more stack' s') → μ s' ≤ μ s := by
  intro stack
  induction stack with
  | nil =>
    intro frame s stack' s' h
    cases hcase : r.next frame [] s with
    | error e => rw [settle_error hcase] at h; cases h
    | ok result =>
      obtain ⟨more, s₁⟩ := result
      cases more with
      | true => rw [settle_more hcase] at h; cases h; exact hnext _ _ _ _ _ hcase
      | false => rw [settle_close hcase] at h; cases h
  | cons parent stack ih =>
    intro frame s stack' s' h
    cases hcase : r.next frame (parent :: stack) s with
    | error e => rw [settle_error hcase] at h; cases h
    | ok result =>
      obtain ⟨more, s₁⟩ := result
      cases more with
      | true => rw [settle_more hcase] at h; cases h; exact hnext _ _ _ _ _ hcase
      | false =>
        rw [settle_close hcase] at h
        exact (ih _ _ h).trans (hnext _ _ _ _ _ hcase)

/-- **The loop ends** when every item that it starts consumes something.  There is fuel for one
item for each unit of the measure. -/
theorem run_isSome
    (hstart : ∀ stack s started s', r.start stack s = .ok (started, s') → μ s' < μ s)
    (hnext : ∀ frame stack s more s', r.next frame stack s = .ok (more, s') → μ s' ≤ μ s)
    {fuel : ℕ} : ∀ {stack : List (Frame η α)} {s : σ}, μ s < fuel →
      (r.run fuel stack s).isSome = true := by
  induction fuel with
  | zero => intro stack s h; exact absurd h (Nat.not_lt_zero _)
  | succ fuel ih =>
    intro stack s hfuel
    cases hcase : r.start stack s with
    | error e => rw [run_error hcase]; rfl
    | ok started =>
      rw [run_start hcase]
      obtain ⟨started, s₁⟩ := started
      have hless := hstart _ _ _ _ hcase
      cases hattach : r.attach stack (started, s₁) with
      | error e => rfl
      | ok settled =>
        cases settled with
        | root item s => rfl
        | more stack' s₂ =>
          refine ih (Nat.lt_of_le_of_lt ?_ (Nat.lt_of_lt_of_le hless (Nat.lt_succ_iff.mp hfuel)))
          cases started with
          | leaf item =>
            cases stack with
            | nil => cases hattach
            | cons frame stack => exact measure_settle hnext _ _ _ hattach
          | opened header => exact measure_settle hnext _ _ _ hattach

/-- **The loop and the recursion agree** on the fuel that the loop needs.  It is what the
acceptance proofs of both formats start from. -/
theorem run_eq_ok_iff
    (hstart : ∀ stack s started s', r.start stack s = .ok (started, s') → μ s' < μ s)
    (hnext : ∀ frame stack s more s', r.next frame stack s = .ok (more, s') → μ s' ≤ μ s)
    {fuel : ℕ} (hfuel : μ s < fuel) :
    r.run fuel [] s = some (.ok (item, s')) ↔ r.Reads [] s item s' := by
  refine ⟨reads_of_run, fun h => ?_⟩
  obtain ⟨n, hn⟩ := run_of_reads h
  have hends : (r.run fuel [] s).isSome = true := run_isSome hstart hnext hfuel
  obtain ⟨result, hresult⟩ := Option.isSome_iff_exists.mp hends
  have hmore := run_mono n hresult
  rw [hn fuel] at hmore
  rw [hresult, ← hmore]
  rfl

end

/-! ## Two runs side by side -/

section

variable {R : σ → σ → Prop} {E : ε → Prop}

/-- Two deliveries that have got equally far, on related states. -/
inductive Beside (R : σ → σ → Prop) : Settled σ η α → Settled σ η α → Prop where
  | root {item : α} {s t : σ} (related : R s t) : Beside R (.root item s) (.root item t)
  | more {stack : List (Frame η α)} {s t : σ} (related : R s t) :
      Beside R (.more stack s) (.more stack t)

theorem settle_beside
    (hnext : ∀ frame stack s t more s', R s t → r.next frame stack s = .ok (more, s') →
      ∃ t', r.next frame stack t = .ok (more, t') ∧ R s' t') :
    ∀ (stack : List (Frame η α)) (frame : Frame η α) (s t : σ) (settled : Settled σ η α), R s t →
      r.settle frame stack s = .ok settled →
      ∃ settled', r.settle frame stack t = .ok settled' ∧ Beside R settled settled' := by
  intro stack
  induction stack with
  | nil =>
    intro frame s t settled hst h
    cases hcase : r.next frame [] s with
    | error e => rw [settle_error hcase] at h; cases h
    | ok result =>
      obtain ⟨more, s₁⟩ := result
      obtain ⟨t₁, hbeside, hrelated⟩ := hnext _ _ _ _ _ _ hst hcase
      cases more with
      | true =>
        rw [settle_more hcase] at h
        cases h
        exact ⟨_, settle_more hbeside, .more hrelated⟩
      | false =>
        rw [settle_close hcase] at h
        cases h
        exact ⟨_, settle_close hbeside, .root hrelated⟩
  | cons parent stack ih =>
    intro frame s t settled hst h
    cases hcase : r.next frame (parent :: stack) s with
    | error e => rw [settle_error hcase] at h; cases h
    | ok result =>
      obtain ⟨more, s₁⟩ := result
      obtain ⟨t₁, hbeside, hrelated⟩ := hnext _ _ _ _ _ _ hst hcase
      cases more with
      | true =>
        rw [settle_more hcase] at h
        cases h
        exact ⟨_, settle_more hbeside, .more hrelated⟩
      | false =>
        rw [settle_close hcase] at h
        rw [settle_close hbeside]
        exact ih _ _ _ _ hrelated h

/-- **A run beside another**: it reads the same value, or a step of it that cannot follow fails.
It compares two inputs as well as two states of one input; nothing is asked of the items. -/
theorem run_beside
    (hstart : ∀ stack s t started s', R s t → r.start stack s = .ok (started, s') →
      (∃ t', r.start stack t = .ok (started, t') ∧ R s' t') ∨ ∃ e, r.start stack t = .error e ∧ E e)
    (hnext : ∀ frame stack s t more s', R s t → r.next frame stack s = .ok (more, s') →
      ∃ t', r.next frame stack t = .ok (more, t') ∧ R s' t') {fuel : ℕ} :
    ∀ {stack : List (Frame η α)} {s t : σ}, R s t → r.run fuel stack s = some (.ok (item, s')) →
      (∃ t', r.run fuel stack t = some (.ok (item, t')) ∧ R s' t') ∨
        ∃ e, r.run fuel stack t = some (.error e) ∧ E e := by
  induction fuel with
  | zero => intro stack s t _ h; cases h
  | succ fuel ih =>
    intro stack s t hst h
    cases hcase : r.start stack s with
    | error e => rw [run_error hcase] at h; cases h
    | ok started =>
      obtain ⟨started, s₁⟩ := started
      rcases hstart _ _ _ _ _ hst hcase with ⟨t₁, hbeside, hrelated⟩ | ⟨e, hfails, he⟩
      · rw [run_start hcase] at h
        rw [run_start hbeside]
        have hattach : ∀ settled, r.attach stack (started, s₁) = .ok settled →
            ∃ settled', r.attach stack (started, t₁) = .ok settled' ∧
              Beside R settled settled' := by
          intro settled hsettled
          cases started with
          | leaf item =>
            cases stack with
            | nil =>
              cases hsettled
              exact ⟨_, rfl, .root hrelated⟩
            | cons frame stack => exact settle_beside hnext _ _ _ _ _ hrelated hsettled
          | opened header => exact settle_beside hnext _ _ _ _ _ hrelated hsettled
        cases hsettled : r.attach stack (started, s₁) with
        | error e => rw [hsettled] at h; cases h
        | ok settled =>
          obtain ⟨settled', hsettled', hboth⟩ := hattach settled hsettled
          rw [hsettled] at h
          rw [hsettled']
          cases hboth with
          | root related =>
            cases h
            exact Or.inl ⟨_, rfl, related⟩
          | more related => exact ih related h
      · exact Or.inr ⟨e, run_error hfails, he⟩

end

end FrameReader

end SecsRust

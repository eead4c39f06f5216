import Mathlib.Tactic

/-!
# Walking a tree with an explicit stack

A tree whose depth is not bounded by its owner must not be walked by recursion.  A walker
visits it with a list of pending work instead: it holds the item to visit next and, for each
open ancestor, the children of that ancestor that are still to be visited.

The tree is any type with a function that lists the children of an item, so no datatype of
trees is fixed here.  `preorder` is any function that satisfies the equation of the
recursive walk: an item comes before its children, each in preorder.  Such a function is a
recursive one, defined beside the type.

The state of a walker says what is left to do: `Walker.pending` are the items that it is
still to visit, in order.  One visit takes the first of them (`Walker.pending_step`),
whether it goes down to a child, on to a sibling, or up to the next sibling of an ancestor.
So the walker visits the pending items in order (`Walker.visit_eq`), and a new one visits
the tree in preorder (`Walker.visit_new`).
-/

namespace SecsRust

universe u

/-- The item to visit next, and the unvisited children of its ancestors, innermost first. -/
structure Walker (α : Type u) where
  next : Option α
  parents : List (List α)

namespace Walker

variable {α : Type u}

/-- The walker that is to visit `root`. -/
def new (root : α) : Walker α := ⟨some root, []⟩

/-- The next sibling of the innermost ancestor that has one. -/
def advance : List (List α) → Walker α
  | [] => ⟨none, []⟩
  | [] :: parents => advance parents
  | (sibling :: rest) :: parents => ⟨some sibling, rest :: parents⟩

/-- Visits one item, if any is left. -/
def step (children : α → List α) (walker : Walker α) : Option (α × Walker α) :=
  match walker.next with
  | none => none
  | some current =>
    let parents :=
      if (children current).isEmpty then walker.parents else children current :: walker.parents
    some (current, advance parents)

/-- The next items that a walker visits, at most as many as the fuel. -/
def visit (children : α → List α) : ℕ → Walker α → List α
  | 0, _ => []
  | fuel + 1, walker =>
    match walker.step children with
    | none => []
    | some (item, walker) => item :: visit children fuel walker

/-! ## What is left to visit -/

section

variable {children : α → List α} {preorder : α → List α}

/-- The items that a walker is still to visit, in order. -/
def pending (preorder : α → List α) (walker : Walker α) : List α :=
  match walker.next with
  | none => []
  | some current => preorder current ++ walker.parents.flatMap fun rest => rest.flatMap preorder

theorem pending_advance (parents : List (List α)) :
    pending preorder (advance parents) =
      parents.flatMap fun rest => rest.flatMap preorder := by
  induction parents with
  | nil => rfl
  | cons rest parents ih =>
    cases rest with
    | nil => exact ih
    | cons sibling rest =>
      have hsibling : (sibling :: rest).flatMap preorder =
          preorder sibling ++ rest.flatMap preorder := List.flatMap_cons
      rw [List.flatMap_cons, hsibling, List.append_assoc]
      rfl

/-- One visit takes the first of the pending items. -/
theorem pending_step (h : ∀ a, preorder a = a :: (children a).flatMap preorder)
    (walker : Walker α) :
    pending preorder walker = match walker.step children with
      | none => []
      | some (item, walker) => item :: pending preorder walker := by
  obtain ⟨next, parents⟩ := walker
  cases next with
  | none => rfl
  | some current =>
    show preorder current ++ parents.flatMap (fun rest => rest.flatMap preorder) =
      current :: pending preorder (advance (if (children current).isEmpty then parents
        else children current :: parents))
    rw [pending_advance, h current]
    cases hchildren : children current with
    | nil => rfl
    | cons child rest =>
      rw [if_neg (by simp)]
      rfl

/-- **The walker visits the pending items in order.** -/
theorem visit_eq (h : ∀ a, preorder a = a :: (children a).flatMap preorder) (fuel : ℕ)
    (walker : Walker α) :
    walker.visit children fuel = (walker.pending preorder).take fuel := by
  induction fuel generalizing walker with
  | zero => rw [List.take_zero]; rfl
  | succ fuel ih =>
    rw [pending_step h, visit]
    cases walker.step children with
    | none => rfl
    | some result =>
      obtain ⟨item, walker⟩ := result
      dsimp only
      rw [List.take_succ_cons, ih]

/-- **The walker visits the tree in preorder**, given fuel for its items. -/
theorem visit_new (h : ∀ a, preorder a = a :: (children a).flatMap preorder) {fuel : ℕ} {root : α}
    (hfuel : (preorder root).length ≤ fuel) : (new root).visit children fuel = preorder root := by
  have hpending : (new root).pending preorder = preorder root := List.append_nil _
  rw [visit_eq h, hpending, List.take_of_length_le hfuel]

end

end Walker

end SecsRust

import Mathlib.Tactic

/-!
# Accounts in balance

A pool hands out what it has and gets it back later.  Its users see only what is free;
whoever holds something holds it until it is given back, and nobody keeps a list of the
holders.  So the question that matters, whether the pool has ever handed out more than it
had, cannot be answered from the pool alone.

The account of a pool puts the holdings beside it, each with a weight.  It is in balance
(`InBalance`) when what is free and the weights of what is held add up to the capacity.
That is an equation and not a bound, and this is what makes it an invariant: a step that
moves some weight between the two sides keeps it, whichever side it moves the weight to
(`InBalance.step`), and nothing has to be known about how much is free.

The bounds are read off afterwards.  A pool in balance has never handed out more than its
capacity (`InBalance.held_le`), is exhausted only if all of it is held
(`InBalance.held_eq`), and is whole again when nothing is held (`InBalance.free_eq`).

A holding that is given back is usually found by its place in some list of what is under
way. `sum_map_eraseIdx` is the sum over such a list without the entry at one place.
-/

namespace SecsRust

universe u

variable {α : Type u} {weight : α → ℕ} {capacity free free' : ℕ} {held held' : List α}

/-- What is free and what is held make up the capacity.  It is the invariant of a semaphore whose
permits are carried by the entries of a queue. -/
def InBalance (weight : α → ℕ) (capacity free : ℕ) (held : List α) : Prop :=
  free + (held.map weight).sum = capacity

namespace InBalance

/-- **The step rule**: the free part moves against the holdings. -/
theorem step (h : InBalance weight capacity free held)
    (hsum : free' + (held'.map weight).sum = free + (held.map weight).sum) :
    InBalance weight capacity free' held' := hsum.trans h

theorem held_le (h : InBalance weight capacity free held) : (held.map weight).sum ≤ capacity :=
  Nat.le.intro ((Nat.add_comm _ _).trans h)

theorem held_eq (h : InBalance weight capacity free held) (hfree : free = 0) :
    (held.map weight).sum = capacity := by
  rw [← h, hfree, Nat.zero_add]

theorem free_eq (h : InBalance weight capacity free []) : free = capacity := h

end InBalance

/-- A sum over a list, by one of its entries and the others. -/
theorem sum_map_eraseIdx (f : α → ℕ) {l : List α} {a : α} {i : ℕ} (h : l[i]? = some a) :
    (l.map f).sum = f a + ((l.eraseIdx i).map f).sum := by
  obtain ⟨hi, rfl⟩ := List.getElem?_eq_some_iff.mp h
  exact ((List.getElem_cons_eraseIdx_perm hi).symm.map f).sum_eq

end SecsRust

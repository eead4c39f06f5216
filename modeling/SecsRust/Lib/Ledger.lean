import Mathlib.Tactic

/-!
# Ledgers of obligations

A component that accepts commands owes each of them an answer, of a kind that depends on the
command.  It pays its debts in many places, and to count answers at the end is to count over
all of them.  A ledger keeps the count as it goes: it records, for each key, whether an
obligation of some class is outstanding.

Its entries open an obligation for a key that has none and settle one with the class under
which it was opened.  A list of entries is a `Ledger.Run` when every entry is admissible
where it stands.  The discipline is local, and what it implies is not: the obligations of a
key alternate between opened and settled, and each is settled in its class.

* `Ledger.Run.count` is the accounting identity: per key and class, what was settled plus
  what is still outstanding is what was opened plus what was outstanding at the start.
* `Ledger.Run.countP` is the same over all classes of one key.
* `Ledger.Run.of_settled`: entries that only settle leave no obligation that was not there.

A program connects to its ledger by saying which of its outputs settle and which of its
inputs open, and by exhibiting a run between the ledgers of its states.  Runs compose
(`Ledger.Run.append`), so this is done one step at a time; `Ledger.Run.settle_list` is the
step that settles a whole table at once.
-/

namespace SecsRust

universe u v

variable {κ : Type u} {τ : Type v}

/-- One entry of a ledger. -/
inductive LedgerEntry (κ : Type u) (τ : Type v) where
  | opened (key : κ) (kind : τ)
  | settled (key : κ) (kind : τ)
  deriving DecidableEq

namespace LedgerEntry

variable [DecidableEq κ]

/-- The entry opens an obligation of the key. -/
def opens (key : κ) : LedgerEntry κ τ → Bool
  | opened k _ => k = key
  | settled _ _ => false

/-- The entry settles an obligation of the key. -/
def settles (key : κ) : LedgerEntry κ τ → Bool
  | opened _ _ => false
  | settled k _ => k = key

end LedgerEntry

/-- The outstanding obligations: at most one class per key.  Whether a key can be opened twice is
then a question about the function only. -/
abbrev Ledger (κ : Type u) (τ : Type v) := κ → Option τ

namespace Ledger

variable [DecidableEq κ]

/-- A run of admissible entries from one ledger to another.  A key is opened while it is free and
settled in the class in which it was opened. -/
inductive Run : Ledger κ τ → List (LedgerEntry κ τ) → Ledger κ τ → Prop where
  | nil (l : Ledger κ τ) : Run l [] l
  | opened {l l' : Ledger κ τ} {key : κ} {kind : τ} {es : List (LedgerEntry κ τ)}
      (vacant : l key = none) (rest : Run (Function.update l key (some kind)) es l') :
      Run l (.opened key kind :: es) l'
  | settled {l l' : Ledger κ τ} {key : κ} {kind : τ} {es : List (LedgerEntry κ τ)}
      (outstanding : l key = some kind) (rest : Run (Function.update l key none) es l') :
      Run l (.settled key kind :: es) l'

namespace Run

theorem append {l l' l'' : Ledger κ τ} {es es' : List (LedgerEntry κ τ)} (h : Run l es l')
    (h' : Run l' es' l'') : Run l (es ++ es') l'' := by
  induction h with
  | nil => exact h'
  | opened vacant _ ih => exact .opened vacant (ih h')
  | settled outstanding _ ih => exact .settled outstanding (ih h')

/-- One settled obligation. -/
theorem single_settled {l : Ledger κ τ} {key : κ} {kind : τ} (h : l key = some kind) :
    Run l [.settled key kind] (Function.update l key none) :=
  .settled h (.nil _)

/-- One opened obligation. -/
theorem single_opened {l : Ledger κ τ} {key : κ} {kind : τ} (h : l key = none) :
    Run l [.opened key kind] (Function.update l key (some kind)) :=
  .opened h (.nil _)

/-- Settling some keys of a list without repetitions: `due` names the class of each key that is
settled, and only keys with an outstanding obligation of that class may be named. -/
theorem settle_list {l l' : Ledger κ τ} {due : κ → Option τ} {keys : List κ} (hnodup : keys.Nodup)
    (houtstanding : ∀ key ∈ keys, ∀ kind, due key = some kind → l key = some kind)
    (hl : ∀ key, l' key = if key ∈ keys ∧ (due key).isSome then none else l key) :
    Run l (keys.filterMap fun key => (due key).map (.settled key)) l' := by
  induction keys generalizing l with
  | nil =>
    obtain rfl : l' = l := by
      funext key
      rw [hl, if_neg (by simp)]
    exact .nil _
  | cons key keys ih =>
    obtain ⟨hkey, hnodup⟩ := List.nodup_cons.mp hnodup
    cases hdue : due key with
    | none =>
      rw [List.filterMap_cons, hdue, Option.map_none]
      refine ih hnodup (fun k hk => houtstanding k (List.mem_cons_of_mem _ hk)) fun k => ?_
      rw [hl]
      by_cases hk : k = key
      · subst hk
        simp [hdue]
      · simp [hk]
    | some kind =>
      rw [List.filterMap_cons, hdue, Option.map_some]
      refine .settled (houtstanding key List.mem_cons_self kind hdue) ?_
      refine ih hnodup (fun k hk kind' hkind' => ?_) fun k => ?_
      · rw [Function.update_of_ne (fun h => hkey (by rw [← h]; exact hk))]
        exact houtstanding k (List.mem_cons_of_mem _ hk) kind' hkind'
      · rw [hl]
        by_cases hk : k = key
        · subst hk
          simp [hdue]
        · rw [Function.update_of_ne hk]
          simp [hk]

/-- Entries that only settle leave no obligation that was not there. -/
theorem of_settled {l l' : Ledger κ τ} {es : List (LedgerEntry κ τ)} (h : Run l es l')
    (hsettled : ∀ key kind, LedgerEntry.opened key kind ∉ es) {key : κ} {kind : τ}
    (hkey : l' key = some kind) : l key = some kind := by
  induction h with
  | nil => exact hkey
  | @opened l l' k τ' es _ _ _ => exact absurd List.mem_cons_self (hsettled k τ')
  | @settled l l' k τ' es _ _ ih =>
    have hrest := ih (fun key kind hmem => hsettled key kind (List.mem_cons_of_mem _ hmem)) hkey
    by_cases hk : key = k
    · rw [hk, Function.update_self] at hrest
      cases hrest
    · rwa [Function.update_of_ne hk] at hrest

variable [DecidableEq τ]

/-- **The accounting identity.**  What was outstanding or opened is settled or still outstanding,
for each key and each class. -/
theorem count {l l' : Ledger κ τ} {es : List (LedgerEntry κ τ)} (h : Run l es l') (key : κ)
    (kind : τ) :
    es.count (.settled key kind) + (if l' key = some kind then 1 else 0) =
      es.count (.opened key kind) + (if l key = some kind then 1 else 0) := by
  induction h with
  | nil => simp
  | @opened l l' k τ' es vacant _ ih =>
    rw [List.count_cons_of_ne (by simp), ih, List.count_cons]
    by_cases hk : k = key
    · subst hk
      by_cases hτ : τ' = kind
      · simp [hτ, vacant]
      · simp [hτ, vacant]
    · rw [Function.update_of_ne (Ne.symm hk)]
      simp [hk]
  | @settled l l' k τ' es outstanding _ ih =>
    rw [List.count_cons_of_ne (by simp) (l := es) (a := LedgerEntry.opened key kind),
      List.count_cons, Nat.add_right_comm, ih]
    by_cases hk : k = key
    · subst hk
      by_cases hτ : τ' = kind
      · simp [hτ, outstanding]
      · simp [hτ, outstanding]
    · rw [Function.update_of_ne (Ne.symm hk)]
      simp [hk]

omit [DecidableEq τ] in
/-- The same identity over all classes of a key: what was settled plus whether anything is
outstanding. -/
theorem countP {l l' : Ledger κ τ} {es : List (LedgerEntry κ τ)} (h : Run l es l') (key : κ) :
    es.countP (LedgerEntry.settles key) + (if (l' key).isSome then 1 else 0) =
      es.countP (LedgerEntry.opens key) + (if (l key).isSome then 1 else 0) := by
  induction h with
  | nil => simp
  | @opened l l' k τ' es vacant _ ih =>
    rw [List.countP_cons_of_neg (by simp [LedgerEntry.settles]), ih, List.countP_cons]
    by_cases hk : k = key
    · subst hk
      simp [LedgerEntry.opens, vacant]
    · rw [Function.update_of_ne (Ne.symm hk)]
      simp [LedgerEntry.opens, hk]
  | @settled l l' k τ' es outstanding _ ih =>
    rw [List.countP_cons, Nat.add_right_comm, ih,
      List.countP_cons_of_neg (by simp [LedgerEntry.opens])]
    by_cases hk : k = key
    · subst hk
      simp [LedgerEntry.settles, outstanding]
    · rw [Function.update_of_ne (Ne.symm hk)]
      simp [LedgerEntry.settles, hk]

end Run

end Ledger

end SecsRust

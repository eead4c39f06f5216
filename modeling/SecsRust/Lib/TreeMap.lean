import Mathlib.Tactic

/-!
# Lookups in ordered maps

A table of a program is an ordered map, and what a proof wants to know about it is what it
looks up.  These are facts about `Std.ExtTreeMap`, the map in which equality is equality of
the contents, read through `m[k]?`: what an insertion, an erasure and a map over the values
look up, and how the entries in key order relate to lookups.

A program that completes or discards everything in a table walks its entries, and each of
them must be met once.  The entries have distinct keys (`nodup_keys`, `nodup_toList`) and
are exactly what is looked up (`mem_toList`, `mem_keys`).

Where the values matter and their keys do not, the entries are taken as a multiset: an
insertion at a vacant key adds one entry (`coe_toList_insert`) and an erasure takes one out
(`coe_toList_erase`), so that an account over several tables is an equation between sums.
-/

namespace SecsRust
namespace TreeMap

open Std

universe u v

variable {κ : Type u} {ν : Type v} [Ord κ] [TransOrd κ]

variable {m : ExtTreeMap κ ν}

theorem contains_iff {k : κ} : m.contains k = true ↔ ∃ v, m[k]? = some v := by
  rw [ExtTreeMap.contains_eq_isSome_getElem?, Option.isSome_iff_exists]

theorem contains_eq_false_iff {k : κ} : m.contains k = false ↔ m[k]? = none := by
  rw [ExtTreeMap.contains_eq_isSome_getElem?, Option.isSome_eq_false_iff, Option.isNone_iff_eq_none]

theorem nodup_keys : m.keys.Nodup := ExtTreeMap.nodup_keys

theorem nodup_toList : m.toList.Nodup := by
  refine List.Nodup.of_map Prod.fst ?_
  rw [ExtTreeMap.map_fst_toList_eq_keys]
  exact nodup_keys

variable [LawfulEqOrd κ]

section

variable [DecidableEq κ]

@[simp] theorem getElem?_insert (k a : κ) (v : ν) :
    (m.insert k v)[a]? = if k = a then some v else m[a]? := by
  rw [ExtTreeMap.getElem?_insert]
  simp only [Std.compare_eq_iff_eq]

@[simp] theorem getElem?_erase (k a : κ) :
    (m.erase k)[a]? = if k = a then none else m[a]? := by
  rw [ExtTreeMap.getElem?_erase]
  simp only [Std.compare_eq_iff_eq]

/-- An insertion that keeps an entry already there. -/
@[simp] theorem getElem?_insertIfNew (k a : κ) (v : ν) :
    (m.insertIfNew k v)[a]? = if k = a then some (m[a]?.getD v) else m[a]? := by
  rw [ExtTreeMap.getElem?_insertIfNew]
  simp only [Std.compare_eq_iff_eq]
  by_cases hk : k = a
  · subst hk
    cases hm : m[k]? with
    | none => simp [ExtTreeMap.mem_iff_isSome_getElem?, hm]
    | some old => simp [ExtTreeMap.mem_iff_isSome_getElem?, hm]
  · simp [hk]

end

theorem mem_toList {k : κ} {v : ν} : (k, v) ∈ m.toList ↔ m[k]? = some v :=
  ExtTreeMap.mem_toList_iff_getElem?_eq_some

theorem mem_keys {k : κ} : k ∈ m.keys ↔ ∃ v, m[k]? = some v := by
  rw [ExtTreeMap.mem_keys, ← ExtTreeMap.contains_iff_mem, contains_iff]

theorem mem_map_snd_toList {v : ν} : v ∈ m.toList.map Prod.snd ↔ ∃ k : κ, m[k]? = some v := by
  simp only [List.mem_map, Prod.exists, exists_eq_right, mem_toList]

theorem any_toList_iff {p : κ × ν → Bool} :
    m.toList.any p = true ↔ ∃ (k : κ) (v : ν), m[k]? = some v ∧ p (k, v) = true := by
  simp only [List.any_eq_true, Prod.exists, mem_toList]

theorem any_toList_eq_false_iff {p : κ × ν → Bool} :
    m.toList.any p = false ↔ ∀ (k : κ) (v : ν), m[k]? = some v → p (k, v) = false := by
  simp only [List.any_eq_false, Prod.forall, mem_toList, Bool.not_eq_true]

omit [LawfulEqOrd κ] in
/-- An empty map looks nothing up. -/
theorem getElem?_empty_ne {k : κ} {v : ν} : (∅ : ExtTreeMap κ ν)[k]? ≠ some v := by
  rw [ExtTreeMap.getElem?_empty]
  nofun

omit [LawfulEqOrd κ] in
@[simp] theorem toList_empty : (∅ : ExtTreeMap κ ν).toList = [] := rfl

omit [LawfulEqOrd κ] in
@[simp] theorem keys_empty : (∅ : ExtTreeMap κ ν).keys = [] := rfl

/-- A map is empty when no key looks anything up. -/
theorem eq_empty_iff : m = ∅ ↔ ∀ k : κ, m[k]? = none := by
  constructor
  · rintro rfl k
    exact ExtTreeMap.getElem?_empty
  · intro h
    exact ExtTreeMap.ext_getElem? fun {k} => by rw [h k, ExtTreeMap.getElem?_empty]

theorem map_id_of_forall {f : κ → ν → ν} (h : ∀ k v, m[k]? = some v → f k v = v) :
    m.map f = m := by
  refine ExtTreeMap.ext_getElem? fun {k} => ?_
  rw [ExtTreeMap.getElem?_map]
  cases hk : m[k]? with
  | none => rfl
  | some v => rw [Option.map_some, h k v hk]

/-! ## Entries as a multiset -/

/-- An insertion at a vacant key adds one entry. -/
theorem coe_toList_insert [DecidableEq κ] {k : κ} {v : ν} (h : m[k]? = none) :
    ((m.insert k v).toList : Multiset (κ × ν)) = (k, v) ::ₘ (m.toList : Multiset (κ × ν)) := by
  rw [Multiset.cons_coe, Multiset.coe_eq_coe]
  have hvacant : (k, v) ∉ m.toList := fun hmem => by
    rw [mem_toList, h] at hmem
    cases hmem
  refine (List.perm_ext_iff_of_nodup nodup_toList
    (List.nodup_cons.mpr ⟨hvacant, nodup_toList⟩)).mpr fun ⟨a, w⟩ => ?_
  rw [List.mem_cons, mem_toList, mem_toList, getElem?_insert, Prod.mk.injEq]
  by_cases hk : k = a
  · subst hk
    simp [h, eq_comm]
  · simp [hk, Ne.symm hk]

/-- An erasure takes the entry of its key out. -/
theorem coe_toList_erase [DecidableEq κ] {k : κ} {v : ν} (h : m[k]? = some v) :
    (m.toList : Multiset (κ × ν)) = (k, v) ::ₘ ((m.erase k).toList : Multiset (κ × ν)) := by
  have hvacant : (m.erase k)[k]? = none := by rw [getElem?_erase, if_pos rfl]
  rw [← coe_toList_insert hvacant]
  have hrestore : (m.erase k).insert k v = m := by
    refine ExtTreeMap.ext_getElem? fun {a} => ?_
    rw [getElem?_insert, getElem?_erase]
    by_cases hk : k = a
    · rw [if_pos hk, ← hk, h]
    · rw [if_neg hk, if_neg hk]
  rw [hrestore]

end TreeMap
end SecsRust

import SecsRust.Secs2.Item
import SecsRust.Secs2.Limits

/-!
# Item trees

An item is a tree: a List carries the items below it, every other item is a leaf.  This
module has the shape of that tree, which the encoder walks, the decoder and the SML parser
build, and `DecodeLimits` bounds: the items in preorder, their number, and the depth to
which Lists are nested.

`SecsItem.Within` says what it means for a tree to satisfy four limits.  It is stated about
the tree alone; that the decoder and the parser enforce exactly this, although they look at
the tree before it exists, is proved where they are.

For that proof a tree has to be counted from the front.  `SecsItem.Room` says that there is
room for a list of items inside so many open Lists and behind so many other items.  It is
the condition that a reader checks piece by piece: items take room one after another
(`room_cons`), a List takes room for itself and, one level deeper, for its children
(`room_list`), and at the start there is room for exactly what satisfies the limits
(`room_start`).

`SecsItem.treeInduction` is the induction that all of this uses: a List is reached from its
children.
-/

namespace SecsRust
namespace Secs2

namespace SecsItem

/-! ## Shape -/

/-- The direct children; only a List has any. -/
def children : SecsItem → List SecsItem
  | list items => items
  | _ => []

/-- The item is a List. -/
def isList : SecsItem → Bool
  | list _ => true
  | _ => false

mutual

/-- The item and everything below it, each before its children. -/
def preorder : SecsItem → List SecsItem
  | list items => list items :: preorderAll items
  | leaf => [leaf]

/-- The items of several trees, one tree after another. -/
def preorderAll : List SecsItem → List SecsItem
  | [] => []
  | item :: items => item.preorder ++ preorderAll items

end

mutual

/-- How deep Lists are nested: an empty List is one level, a scalar none. -/
def nesting : SecsItem → ℕ
  | list items => nestingAll items + 1
  | _ => 0

/-- The deepest of several trees. -/
def nestingAll : List SecsItem → ℕ
  | [] => 0
  | item :: items => max item.nesting (nestingAll items)

end

/-- The number of items in the tree. -/
def nodeCount (item : SecsItem) : ℕ := item.preorder.length

/-- The encoded payload bytes of an item that is not a List. -/
def payloadBytes : SecsItem → ℕ
  | list _ => 0
  | binary bytes => bytes.length
  | boolean values => values.length
  | ascii text => text.bytes.length
  | jis8 bytes => bytes.length
  | localized text => text.bytes.length + 2
  | i8 values => values.length * 8
  | i1 values => values.length
  | i2 values => values.length * 2
  | i4 values => values.length * 4
  | f8 bits => bits.length * 8
  | f4 bits => bits.length * 4
  | u8 values => values.length * 8
  | u1 values => values.length
  | u2 values => values.length * 2
  | u4 values => values.length * 4

/-! ## Induction -/

/-- **Induction over a tree**: a List is reached from its children. -/
@[elab_as_elim]
theorem treeInduction {motive : SecsItem → Prop}
    (leaf : ∀ item, item.isList = false → motive item)
    (list : ∀ items, (∀ item ∈ items, motive item) → motive (list items)) (item : SecsItem) :
    motive item := by
  refine @SecsItem.rec motive (fun items => ∀ item ∈ items, motive item) list
    (fun _ => leaf _ rfl) (fun _ => leaf _ rfl) (fun _ => leaf _ rfl) (fun _ => leaf _ rfl)
    (fun _ => leaf _ rfl) (fun _ => leaf _ rfl) (fun _ => leaf _ rfl) (fun _ => leaf _ rfl)
    (fun _ => leaf _ rfl) (fun _ => leaf _ rfl) (fun _ => leaf _ rfl) (fun _ => leaf _ rfl)
    (fun _ => leaf _ rfl) (fun _ => leaf _ rfl) (fun _ => leaf _ rfl) ?_ ?_ item
  · rintro _ ⟨⟩
  · intro head tail hhead htail item hitem
    rcases List.mem_cons.mp hitem with rfl | hitem
    · exact hhead
    · exact htail item hitem

/-- A List is all that is not a leaf. -/
theorem eq_list_of_isList {item : SecsItem} (h : item.isList = true) :
    item = list item.children := by
  cases item <;> first | rfl | cases h

/-! ## Preorder -/

variable {item : SecsItem} {items : List SecsItem}

theorem preorderAll_eq_flatMap (items : List SecsItem) :
    preorderAll items = items.flatMap preorder := by
  induction items with
  | nil => rfl
  | cons item items ih => rw [preorderAll, ih, List.flatMap_cons]

theorem children_of_leaf (h : item.isList = false) : item.children = [] := by
  cases item <;> first | rfl | cases h

theorem preorder_of_leaf (h : item.isList = false) : item.preorder = [item] := by
  cases item <;> first | rfl | cases h

theorem nesting_of_leaf (h : item.isList = false) : item.nesting = 0 := by
  cases item <;> first | rfl | cases h

theorem nodeCount_of_leaf (h : item.isList = false) : item.nodeCount = 1 := by
  rw [nodeCount, preorder_of_leaf h, List.length_singleton]

/-- **An item comes before its children, and they in order.** -/
theorem preorder_eq (item : SecsItem) : item.preorder = item :: item.children.flatMap preorder := by
  cases hlist : item.isList with
  | false => rw [preorder_of_leaf hlist, children_of_leaf hlist, List.flatMap_nil]
  | true => rw [eq_list_of_isList hlist, preorder, preorderAll_eq_flatMap, children]

theorem mem_preorder_self (item : SecsItem) : item ∈ item.preorder := by
  rw [preorder_eq]
  exact List.mem_cons_self

@[simp] theorem nodeCount_list : (list items).nodeCount = (preorderAll items).length + 1 := rfl

@[simp] theorem nesting_list : (list items).nesting = nestingAll items + 1 := by rw [nesting]

@[simp] theorem children_list : (list items).children = items := rfl

theorem nodeCount_pos (item : SecsItem) : 0 < item.nodeCount := by
  rw [nodeCount, preorder_eq, List.length_cons]
  exact Nat.succ_pos _

/-- Every tree of a forest has at least one item. -/
theorem length_le_preorderAll (items : List SecsItem) :
    items.length ≤ (preorderAll items).length := by
  induction items with
  | nil => exact le_refl _
  | cons item items ih =>
    have hpos := item.nodeCount_pos
    rw [nodeCount] at hpos
    rw [preorderAll, List.length_append, List.length_cons]
    omega

theorem nestingAll_le {bound : ℕ} : nestingAll items ≤ bound ↔ ∀ item ∈ items,
    item.nesting ≤ bound := by
  induction items with
  | nil => simp [nestingAll]
  | cons item items ih => rw [nestingAll, max_le_iff, ih, List.forall_mem_cons]

/-! ## Limits -/

/-- The item by itself satisfies the per-item limits. -/
structure Admitted (limits : DecodeLimits) (item : SecsItem) : Prop where
  payload : item.payloadBytes ≤ limits.maxItemBytes
  children : item.children.length ≤ limits.maxListItems

/-- **The tree satisfies the limits**: the nesting of its Lists, the number of its items, and of
every item in it the payload bytes and the direct children. -/
structure Within (limits : DecodeLimits) (item : SecsItem) : Prop where
  nesting : item.nesting ≤ limits.maxDepth
  nodes : item.nodeCount ≤ limits.maxTotalItems
  each : ∀ node ∈ item.preorder, node.Admitted limits

/-! ## Room under the limits -/

@[simp] theorem preorderAll_singleton (item : SecsItem) : preorderAll [item] = item.preorder := by
  rw [preorderAll, preorderAll, List.append_nil]

@[simp] theorem nestingAll_singleton (item : SecsItem) : nestingAll [item] = item.nesting := by
  rw [nestingAll, nestingAll, Nat.max_zero]

/-- There is room for the items inside so many open Lists and behind so many other items: what a
reader that counts as it goes has to know. -/
structure Room (limits : DecodeLimits) (depth count : ℕ) (items : List SecsItem) : Prop where
  nesting : depth + nestingAll items ≤ limits.maxDepth
  total : count + (preorderAll items).length ≤ limits.maxTotalItems
  each : ∀ item ∈ preorderAll items, item.Admitted limits

variable {limits : DecodeLimits} {depth count : ℕ}

theorem room_nil : Room limits depth count [] ↔
    depth ≤ limits.maxDepth ∧ count ≤ limits.maxTotalItems :=
  ⟨fun h => ⟨h.nesting, h.total⟩, fun h => ⟨h.1, h.2, fun _ h => nomatch h⟩⟩

/-- **Items take room one after another.** -/
theorem room_cons : Room limits depth count (item :: items) ↔
    Room limits depth count [item] ∧ Room limits depth (count + item.nodeCount) items := by
  constructor
  · rintro ⟨hnesting, htotal, heach⟩
    rw [nestingAll] at hnesting
    rw [preorderAll, List.length_append] at htotal
    rw [preorderAll, List.forall_mem_append] at heach
    refine ⟨⟨?_, ?_, ?_⟩, ⟨?_, ?_, heach.2⟩⟩
    · rw [nestingAll_singleton]
      omega
    · rw [preorderAll_singleton]
      omega
    · rw [preorderAll_singleton]
      exact heach.1
    · omega
    · rw [nodeCount]
      omega
  · rintro ⟨⟨hnesting, htotal, heach⟩, ⟨hnesting', htotal', heach'⟩⟩
    rw [nestingAll_singleton] at hnesting
    rw [preorderAll_singleton] at heach
    rw [nodeCount] at htotal'
    refine ⟨?_, ?_, ?_⟩
    · rw [nestingAll]
      omega
    · rw [preorderAll, List.length_append]
      omega
    · rw [preorderAll, List.forall_mem_append]
      exact ⟨heach, heach'⟩

/-- **A List takes room for itself and, one level deeper, for its children.** -/
theorem room_list : Room limits depth count [list items] ↔
    items.length ≤ limits.maxListItems ∧ Room limits (depth + 1) (count + 1) items := by
  constructor
  · rintro ⟨hnesting, htotal, heach⟩
    rw [nestingAll_singleton, nesting_list] at hnesting
    rw [preorderAll_singleton] at htotal heach
    rw [preorder, List.length_cons] at htotal
    rw [preorder, List.forall_mem_cons] at heach
    exact ⟨heach.1.children, by omega, by omega, heach.2⟩
  · rintro ⟨hchildren, hnesting, htotal, heach⟩
    refine ⟨?_, ?_, ?_⟩
    · rw [nestingAll_singleton, nesting_list]
      omega
    · rw [preorderAll_singleton, preorder, List.length_cons]
      omega
    · rw [preorderAll_singleton, preorder, List.forall_mem_cons]
      exact ⟨⟨Nat.zero_le _, hchildren⟩, heach⟩

/-- A scalar takes room for itself. -/
theorem room_leaf (hleaf : item.isList = false) : Room limits depth count [item] ↔
    depth ≤ limits.maxDepth ∧ count + 1 ≤ limits.maxTotalItems ∧
      item.payloadBytes ≤ limits.maxItemBytes := by
  have hchildren : item.children.length = 0 := by rw [children_of_leaf hleaf]; rfl
  constructor
  · rintro ⟨hnesting, htotal, heach⟩
    rw [nestingAll_singleton, nesting_of_leaf hleaf] at hnesting
    rw [preorderAll_singleton, preorder_of_leaf hleaf] at htotal heach
    exact ⟨hnesting, htotal, (heach item List.mem_cons_self).payload⟩
  · rintro ⟨hnesting, htotal, hpayload⟩
    refine ⟨?_, ?_, ?_⟩
    · rw [nestingAll_singleton, nesting_of_leaf hleaf]
      exact hnesting
    · rw [preorderAll_singleton, preorder_of_leaf hleaf]
      exact htotal
    · rw [preorderAll_singleton, preorder_of_leaf hleaf, List.forall_mem_singleton]
      exact ⟨hpayload, hchildren ▸ Nat.zero_le _⟩

/-- Children fit in an open List only if their number does. -/
theorem Room.length_le (h : Room limits depth count items) :
    count + items.length ≤ limits.maxTotalItems :=
  (Nat.add_le_add_left (length_le_preorderAll items) count).trans h.total

/-- **At the start there is room for what satisfies the limits.** -/
theorem room_start : Room limits 0 0 [item] ↔ item.Within limits := by
  constructor
  · rintro ⟨hnesting, htotal, heach⟩
    rw [nestingAll_singleton, Nat.zero_add] at hnesting
    rw [preorderAll_singleton, Nat.zero_add] at htotal
    rw [preorderAll_singleton] at heach
    exact ⟨hnesting, htotal, heach⟩
  · rintro ⟨hnesting, htotal, heach⟩
    refine ⟨?_, ?_, ?_⟩
    · rw [nestingAll_singleton, Nat.zero_add]
      exact hnesting
    · rw [preorderAll_singleton, Nat.zero_add]
      exact htotal
    · rw [preorderAll_singleton]
      exact heach

end SecsItem

end Secs2
end SecsRust

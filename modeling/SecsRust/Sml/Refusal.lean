import SecsRust.Sml.RoundTrip

/-!
# What the formatter refuses

The formatter goes over a tree three times: it checks what SML can say, it measures, and it
writes.  A caller should get a whole text or none, and where there is none the error should
name what is wrong.

`SecsItem.levelled` is the order in which the first of them meets the items, with the
nesting level that it counts for each.  It is the preorder of the tree, which is also the
order of the other two.

An item is refused for what it is or for the level of its List (`refusal`), and the check
ends at the first item that is refused (`checkSmlSemantics_eq`).  The loop works on a stack,
so the statement about it is for everything on the stack and below it (`semanticsRun_eq`).

`format_refused_exactly` puts the three together: when there is a text, which refusal is
reported when there is none, and that a tree that passes the first two is written to its
end.  In particular the branch of the writer that the source calls unreachable is not
reached.
-/

namespace SecsRust
namespace Sml

open Secs2

/-! ## Levels -/

mutual

/-- The items of a tree in preorder, each with its nesting level: a root is at level 1, and the
children of a List one level deeper than the List. -/
def levelled (level : ℕ) : SecsItem → List (SecsItem × ℕ)
  | .list items => (.list items, level) :: levelledAll (level + 1) items
  | leaf => [(leaf, level)]

/-- The items of several trees at one level, one tree after another. -/
def levelledAll (level : ℕ) : List SecsItem → List (SecsItem × ℕ)
  | [] => []
  | item :: items => levelled level item ++ levelledAll level items

end

theorem levelledAll_eq_flatMap (level : ℕ) (items : List SecsItem) :
    levelledAll level items = items.flatMap (levelled level) := by
  induction items with
  | nil => rfl
  | cons item items ih => rw [levelledAll, ih, List.flatMap_cons]

theorem levelled_of_leaf {item : SecsItem} (h : item.isList = false) (level : ℕ) :
    levelled level item = [(item, level)] := by
  cases item <;> first | rfl | cases h

/-- **An item comes before its children, which are one level deeper.** -/
theorem levelled_eq (level : ℕ) (item : SecsItem) :
    levelled level item = (item, level) :: item.children.flatMap (levelled (level + 1)) := by
  cases hlist : item.isList with
  | false => rw [levelled_of_leaf hlist, SecsItem.children_of_leaf hlist, List.flatMap_nil]
  | true =>
    rw [SecsItem.eq_list_of_isList hlist, levelled, levelledAll_eq_flatMap, SecsItem.children]

/-- Without the levels it is the preorder of the tree. -/
theorem map_fst_levelled (level : ℕ) (item : SecsItem) :
    (levelled level item).map Prod.fst = item.preorder := by
  induction item using SecsItem.treeInduction generalizing level with
  | leaf item hleaf =>
    rw [levelled_of_leaf hleaf, SecsItem.preorder_of_leaf hleaf]
    rfl
  | list items ih =>
    rw [levelled_eq, SecsItem.preorder_eq, List.map_cons, List.map_flatMap, SecsItem.children_list]
    congr 1
    exact List.flatMap_congr fun item hitem => ih item hitem (level + 1)

/-- **The levels count the nesting**: no List is deeper than a bound exactly when the tree is not.
-/
theorem forall_level_le {level bound : ℕ} {item : SecsItem} :
    (∀ entry ∈ levelled level item, entry.1.isList = true → entry.2 ≤ bound) ↔
      item.nesting = 0 ∨ level + item.nesting ≤ bound + 1 := by
  induction item using SecsItem.treeInduction generalizing level with
  | leaf item hleaf =>
    rw [levelled_of_leaf hleaf, List.forall_mem_singleton, SecsItem.nesting_of_leaf hleaf]
    simp [hleaf]
  | list items ih =>
    have hchildren : (∀ entry ∈ items.flatMap (levelled (level + 1)), entry.1.isList = true →
        entry.2 ≤ bound) ↔ ∀ item ∈ items, item.nesting = 0 ∨
          level + 1 + item.nesting ≤ bound + 1 := by
      simp only [List.forall_mem_flatMap]
      exact forall₂_congr fun item hitem => ih item hitem
    rw [levelled_eq, List.forall_mem_cons, SecsItem.children_list, hchildren, SecsItem.nesting_list]
    constructor
    · rintro ⟨hself, hitems⟩
      have hlevel : level ≤ bound := hself rfl
      have hdeep : SecsItem.nestingAll items ≤ bound - level := by
        refine SecsItem.nestingAll_le.mpr fun item hitem => ?_
        have := hitems item hitem
        omega
      right
      omega
    · intro h
      refine ⟨fun _ => by simp only; omega, fun item hitem => ?_⟩
      have := SecsItem.nestingAll_le.mp (le_refl _) item hitem
      omega

/-! ## The first refusal -/

/-- Why SML cannot say an item at its level, if it cannot. -/
def refusal : SecsItem × ℕ → Option FormatError
  | (.jis8 _, _) => some (.unsupportedType "Jis8")
  | (.localized _, _) => some (.unsupportedType "Localized")
  | (.f4 bits, _) => if bits.all isFiniteF4 then none else some (.nonFiniteFloat "F4")
  | (.f8 bits, _) => if bits.all isFiniteF8 then none else some (.nonFiniteFloat "F8")
  | (.list _, level) =>
    if level ≤ maxDecodeNestingDepth then none else some
      (.depthExceeded level maxDecodeNestingDepth)
  | _ => none

/-- **An item is refused for its kind, for its values or for its level**, and for nothing else. -/
theorem refusal_eq_none {item : SecsItem} {level : ℕ} :
    refusal (item, level) = none ↔
      Writable item ∧ (item.isList = true → level ≤ maxDecodeNestingDepth) := by
  cases item <;> simp [refusal, Writable, SecsItem.isList]

/-- A refusal for what an item is, is not one of the encoder. -/
theorem refusal_ne_notEncodable {entry : SecsItem × ℕ} {e : EncodeError} :
    refusal entry ≠ some (.notEncodable e) := by
  obtain ⟨item, level⟩ := entry
  cases item <;> simp [refusal]

/-- One turn refuses the item on the stack, or goes on with its children. -/
theorem semanticsTurn_cons (item : SecsItem) (level : ℕ) (stack : List (SecsItem × ℕ)) :
    semanticsTurn ((item, level) :: stack) = match refusal (item, level) with
      | some e => .error e
      | none => .ok (.next (item.children.map (fun child => (child, level + 1)) ++ stack)) := by
  cases item with
  | f4 bits | f8 bits | list items =>
    dsimp only [semanticsTurn, refusal, ensure]
    split <;> rfl
  | _ => rfl

/-- **The loop reports the first refusal** of what is on the stack and below it. -/
theorem semanticsRun_eq (stack : List (SecsItem × ℕ)) :
    Loop.run semanticsTurn stackNodes stackNodes_semanticsTurn stack =
      match (stack.flatMap fun entry => levelled entry.2 entry.1).findSome? refusal with
      | some e => .error e
      | none => .ok () := by
  induction hn : stackNodes stack using Nat.strong_induction_on generalizing stack with
  | _ n ih =>
    rw [Loop.run_eq]
    cases stack with
    | nil => rfl
    | cons entry stack =>
      obtain ⟨item, level⟩ := entry
      have hturn := semanticsTurn_cons item level stack
      rw [List.flatMap_cons, levelled_eq, List.cons_append, List.findSome?_cons]
      cases hrefusal : refusal (item, level) with
      | some e =>
        rw [hrefusal] at hturn
        rw [hturn]
      | none =>
        rw [hrefusal] at hturn
        have hsmaller := stackNodes_semanticsTurn _ _ hturn
        have hrun := ih _ (hn ▸ hsmaller) _ rfl
        rw [List.flatMap_append, List.flatMap_map] at hrun
        rw [hturn]
        exact hrun

theorem checkSmlSemantics_eq (root : SecsItem) :
    checkSmlSemantics root = match (levelled 1 root).findSome? refusal with
      | some e => .error e
      | none => .ok () := by
  have hrun := semanticsRun_eq [(root, 1)]
  rw [List.flatMap_singleton] at hrun
  exact hrun

/-- The tree is refused with this error, for the first of its items that is refused at all. -/
def FirstRefusal (root : SecsItem) (e : FormatError) : Prop :=
  ∃ before entry after, levelled 1 root = before ++ entry :: after ∧ refusal entry = some e ∧
    ∀ earlier ∈ before, refusal earlier = none

theorem firstRefusal_iff {root : SecsItem} {e : FormatError} :
    FirstRefusal root e ↔ (levelled 1 root).findSome? refusal = some e :=
  List.findSome?_eq_some_iff.symm

/-- SML can say every item of the tree at its level. -/
def Expressible (root : SecsItem) : Prop :=
  (∀ node ∈ root.preorder, Writable node) ∧
    ∀ entry ∈ levelled 1 root, entry.1.isList = true → entry.2 ≤ maxDecodeNestingDepth

theorem expressible_iff {root : SecsItem} :
    Expressible root ↔ (levelled 1 root).findSome? refusal = none := by
  rw [List.findSome?_eq_none_iff, Expressible, ← map_fst_levelled 1 root, List.forall_mem_map]
  constructor
  · rintro ⟨hwritable, hlevel⟩ ⟨item, level⟩ hentry
    exact refusal_eq_none.mpr ⟨hwritable _ hentry, hlevel _ hentry⟩
  · intro h
    exact ⟨fun entry hentry => (refusal_eq_none.mp (h entry hentry)).1,
      fun entry hentry => (refusal_eq_none.mp (h entry hentry)).2⟩

/-- The levels of a tree are bounded when its nesting is. -/
theorem expressible_iff_nesting {root : SecsItem} :
    Expressible root ↔
      (∀ node ∈ root.preorder, Writable node) ∧ root.nesting ≤ maxDecodeNestingDepth := by
  rw [Expressible, forall_level_le]
  refine and_congr_right fun _ => ?_
  omega

/-! ## The three traversals together -/

/-- How the check and the measure end. -/
theorem validateAndMeasure_eq (item : SecsItem) :
    validateAndMeasure item = match (levelled 1 item).findSome? refusal, measure item with
      | some e, _ => .error e
      | none, .error e => .error (.notEncodable e)
      | none, .ok length => .ok length := by
  have hplan : (EncodedItemPlan.new item).map EncodedItemPlan.encodedLength = measure item := by
    unfold EncodedItemPlan.new
    split <;> rename_i hmeasure <;> exact hmeasure.symm
  rw [validateAndMeasure, checkSmlSemantics_eq]
  cases (levelled 1 item).findSome? refusal with
  | some e => rfl
  | none =>
    rw [← hplan]
    cases EncodedItemPlan.new item <;> rfl

/-- **Every item** is refused for the first of its items that SML cannot say, or by the encoder, or
is written to its end. -/
theorem formatItem_eq (d : FloatDisplays) (style : FormatStyle) (item : SecsItem) :
    formatItem d style item = match (levelled 1 item).findSome? refusal, measure item with
      | some e, _ => .error (.refused e)
      | none, .error e => .error (.refused (.notEncodable e))
      | none, .ok _ => .ok (itemText d (decide (style = .pretty)) 0 item) := by
  rw [formatItem, validateAndMeasure_eq]
  cases hrefusal : (levelled 1 item).findSome? refusal with
  | some e => rfl
  | none =>
    cases measure item with
    | error e => rfl
    | ok length => exact writeItemText_eq (expressible_iff.mpr hrefusal).1 []

/-- **Formatting is refused exactly when the value cannot be said, and never halfway.**  There is a
text exactly when SML can say every item at its level and the encoder accepts the tree, and the text
is the whole one.  A refusal is that of the first item in preorder that SML cannot say; only when
there is none is it that of the encoder.  The writer never meets an item that the check should have
refused. -/
theorem format_refused_exactly (d : FloatDisplays) (style : FormatStyle) (item : SecsItem) :
    ((∃ text, formatItem d style item = .ok text) ↔
      Expressible item ∧ ∃ length, measure item = .ok length) ∧
    (∀ text, formatItem d style item = .ok text →
      text = itemText d (decide (style = .pretty)) 0 item) ∧
    (∀ e, formatItem d style item = .error (.refused e) ↔ FirstRefusal item e ∨
      Expressible item ∧ ∃ source, measure item = .error source ∧ e = .notEncodable source) ∧
    (∀ e source, FirstRefusal item e → e ≠ .notEncodable source) ∧
    formatItem d style item ≠ .error .unreachable := by
  have hnot : ∀ e source, FirstRefusal item e → e ≠ .notEncodable source := by
    rintro e source ⟨_, _, _, _, hrefusal, _⟩ rfl
    exact refusal_ne_notEncodable hrefusal
  rw [formatItem_eq, expressible_iff]
  simp only [firstRefusal_iff] at hnot ⊢
  cases hrefusal : (levelled 1 item).findSome? refusal with
  | some e =>
    rw [hrefusal] at hnot
    simpa [eq_comm] using hnot
  | none => cases measure item <;> simp [eq_comm]

/-- The body of a message is refused in the same way, before anything of the message is written; a
message without a body never is. -/
theorem formatMessage_eq (d : FloatDisplays) (style : FormatStyle) (message : SmlMessage) :
    formatMessage d style message = match message.body.elim (.ok 0) validateAndMeasure with
      | .error e => .error (.refused e)
      | .ok _ => .ok (messageHeader message ++
          (bodyText d (decide (style = .pretty)) message.body ++ ['.'])) := by
  obtain ⟨stream, function, waitBit, body⟩ := message
  cases body with
  | none => rfl
  | some body =>
    rw [formatMessage]
    dsimp only [Option.elim]
    cases hvalid : validateAndMeasure body with
    | error e => rfl
    | ok length =>
      have hwrite : writeItemText d (decide (style = .pretty))
          (messageHeader ⟨stream, function, waitBit, some body⟩ ++ [' ']) body = _ :=
        writeItemText_eq (validateAndMeasure_ok hvalid).1 _
      show (writeItemText d _ _ body >>= _) = _
      rw [bind_ok hwrite]
      simp only [bodyText, List.append_assoc, List.cons_append, List.nil_append]
      rfl

end Sml
end SecsRust

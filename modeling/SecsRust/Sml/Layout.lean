import SecsRust.Sml.Formatter
import SecsRust.Sml.Grammar
import SecsRust.Sml.Lexeme

/-!
# What the formatter writes

The work stack of the formatter writes a tree as a recursion would: `itemText` is that
recursion, with the layout as a parameter, and `writeItemText_eq` says that the loop arrives
at the same text.  The induction is over the tree, with the rest of the stack and the text
written so far left open (`writeRun_item`).

`Spelled` says of an item that its text is, in every layout and before everything that may
follow, one list of tokens, and that those tokens stand for the item in the grammar.  A leaf
is written the same in both layouts; a List differs only in the whitespace before its
children and before its bracket.
-/

namespace SecsRust
namespace Sml

open Secs2

/-! ## The recursion -/

/-- The text of an item that is not a List. -/
def leafText (d : FloatDisplays) (item : SecsItem) : Text :=
  match writeItemOpen d item with
  | .ok (text, _) => text
  | .error _ => []

mutual

/-- The text of an item.  It is the recursion that the loop with its work stack unfolds. -/
def itemText (d : FloatDisplays) (pretty : Bool) (indent : ℕ) : SecsItem → Text
  | .list children => itemHeader "L" children.length ++
      (childrenText d pretty (saturatingAdd indent 1) children ++
        if children.isEmpty then ['>'] else closeText pretty indent)
  | leaf => leafText d leaf

/-- The texts of the children of a List, each behind its gap. -/
def childrenText (d : FloatDisplays) (pretty : Bool) (indent : ℕ) : List SecsItem → Text
  | [] => []
  | child :: children =>
    itemGap pretty indent ++ (itemText d pretty indent child ++ childrenText d pretty
      indent children)

end

theorem itemText_leaf {d : FloatDisplays} {pretty : Bool} {indent : ℕ} {item : SecsItem}
    (h : item.isList = false) : itemText d pretty indent item = leafText d item := by
  cases item <;> first | rfl | cases h

/-- What the formatter has checked of one item.  The loop relies on it and does not check again
while it writes. -/
def Writable : SecsItem → Prop
  | .jis8 _ => False
  | .localized _ => False
  | .f4 bits => ∀ value ∈ bits, isFiniteF4 value = true
  | .f8 bits => ∀ value ∈ bits, isFiniteF8 value = true
  | _ => True

theorem writeItemOpen_leaf {d : FloatDisplays} {item : SecsItem} (hleaf : item.isList = false)
    (hwritable : Writable item) : writeItemOpen d item = .ok (leafText d item, none) := by
  cases item with
  | list children => cases hleaf
  | jis8 bytes => exact hwritable.elim
  | localized text => exact hwritable.elim
  | _ => rfl

/-! ## The loop -/

section

variable {d : FloatDisplays} {pretty : Bool}

/-- The loop of `write_item_text`. -/
def writeRun (d : FloatDisplays) (pretty : Bool) (w : Writer) : Except FormatStop Text :=
  Loop.run (writeTurn d pretty) Writer.size size_writeTurn w

theorem writeRun_next {w w' : Writer} (h : writeTurn d pretty w = .ok (.next w')) :
    writeRun d pretty w = writeRun d pretty w' := by
  rw [writeRun, Loop.run_eq, h]
  rfl

theorem writeRun_done (out : Text) (first : Bool) :
    writeRun d pretty ⟨out, first, []⟩ = .ok out := by
  rw [writeRun, Loop.run_eq]
  rfl

theorem writeRun_closeList (out : Text) (first : Bool) (indent : ℕ) (stack : List WorkEntry) :
    writeRun d pretty ⟨out, first, .closeList indent :: stack⟩ =
      writeRun d pretty ⟨out ++ closeText pretty indent, first, stack⟩ :=
  writeRun_next rfl

/-- The gap before an item; the first token has none. -/
def leadingGap (pretty first : Bool) (indent : ℕ) :
    Text := if first then [] else itemGap pretty indent

/-- **The loop writes an item** and goes on with the rest of the stack.  By induction on the
tree; the stack below the item is arbitrary, as is the output before it. -/
theorem writeRun_item {item : SecsItem} (hwritable : ∀ node ∈ item.preorder, Writable node) :
    ∀ (out : Text) (first : Bool) (indent : ℕ) (stack : List WorkEntry),
      writeRun d pretty ⟨out, first, .item item indent :: stack⟩ =
        writeRun d pretty
          ⟨out ++ (leadingGap pretty first indent ++ itemText d pretty indent item),
            false, stack⟩ := by
  induction item using SecsItem.treeInduction with
  | leaf item hleaf =>
    intro out first indent stack
    have hopen := writeItemOpen_leaf (d := d) hleaf (hwritable item item.mem_preorder_self)
    refine writeRun_next ?_
    show (writeItemOpen d item >>= _) = _
    rw [bind_ok hopen, itemText_leaf hleaf]
    rfl
  | list children ih =>
    intro out first indent stack
    rw [SecsItem.preorder, SecsItem.preorderAll_eq_flatMap] at hwritable
    have hchildren : ∀ (indent : ℕ) (out : Text) (stack : List WorkEntry),
        writeRun d pretty ⟨out, false, children.map (fun child => .item child indent) ++ stack⟩ =
          writeRun d pretty ⟨out ++ childrenText d pretty indent children, false, stack⟩ := by
      intro indent
      have hnodes : ∀ child ∈ children, ∀ node ∈ child.preorder, Writable node :=
        fun child hchild node
        hnode => hwritable node (List.mem_cons_of_mem _
          (List.mem_flatMap.mpr ⟨child, hchild, hnode⟩))
      clear hwritable
      induction children with
      | nil =>
        intro out stack
        rw [childrenText, List.append_nil]
        rfl
      | cons child children ihchildren =>
        intro out stack
        have hhead := ih child List.mem_cons_self (hnodes child List.mem_cons_self)
        have htail := ihchildren (fun child hchild => ih child (List.mem_cons_of_mem _ hchild))
          (fun child hchild => hnodes child (List.mem_cons_of_mem _ hchild))
        rw [List.map_cons, List.cons_append, hhead, htail, childrenText]
        simp only [leadingGap, Bool.false_eq_true, if_false, List.append_assoc]
    cases children with
    | nil =>
      refine writeRun_next ?_
      show (writeItemOpen d (.list []) >>= _) = _
      rfl
    | cons child children =>
      have hturn : writeTurn d pretty ⟨out, first,
          .item (.list (child :: children)) indent :: stack⟩ =
          .ok (.next ⟨out ++ (leadingGap pretty first indent ++ itemHeader "L"
            (child :: children).length),
            false, (child :: children).map (fun child => .item child (saturatingAdd indent 1)) ++
              .closeList indent :: stack⟩) := rfl
      rw [writeRun_next hturn, hchildren, writeRun_closeList, itemText]
      simp only [List.isEmpty_cons, Bool.false_eq_true, if_false, List.append_assoc]

/-- **The loop writes what the recursion does.** -/
theorem writeItemText_eq {root : SecsItem} (hwritable : ∀ node ∈ root.preorder, Writable node)
    (out : Text) : writeItemText d pretty out root = .ok (out ++ itemText d pretty 0 root) := by
  have hrun : writeRun d pretty ⟨out, true, [.item root 0]⟩ = _ :=
    writeRun_item hwritable out true 0 []
  rw [writeRun_done] at hrun
  exact hrun

end

end Sml
end SecsRust

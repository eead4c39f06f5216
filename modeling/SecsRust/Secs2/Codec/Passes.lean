import SecsRust.Secs2.Codec.Encode

/-!
# The two passes of the encoder

The encoder measures a tree and then writes it, in two walks with a length computation of
their own.  A caller reserves what was measured, and must then be able to rely on what is
written.

Both walks are the recursive preorder; both fail at the first item whose length exceeds the
length field and with the same error (`foldlM_eq_error`); and otherwise the second writes as
many bytes as the first has measured, behind whatever the output held before.

The only other error that the code can name is an overflow of the total.  It cannot occur
for a tree that a program owns.  A tree that memory holds is larger there than on the wire,
item by item: a header takes at most four bytes and an item in memory takes more, and a
payload lies there with its elements. `SecsItem.footprint` is what a tree takes at least,
and `length_flatMap_nodeBytes_le` is the comparison.
-/

namespace SecsRust
namespace Secs2

open SecsItem

/-! ## Trees in memory -/

/-- The least memory that a tree takes: every item is a record of at least the three words of a
`Vec`, and its payload is stored besides.  It is less than what a program really needs for the
tree, so that bounding it by the address space assumes nothing. -/
def SecsItem.footprint (root : SecsItem) : ℕ :=
  (root.preorder.map fun node => 24 + node.payloadBytes).sum

/-- The error for an item whose length exceeds the length field. -/
def SecsItem.tooLarge : SecsItem → EncodeError
  | .list items => .listTooLarge items.length
  | item => .itemBodyTooLarge (formatCodeOf item).sixBitValue item.payloadBytes

/-- The first item in preorder whose length exceeds the length field.  Both passes go through the
tree in this order, which is why they fail alike. -/
def SecsItem.firstOversized (root : SecsItem) : Option SecsItem :=
  root.preorder.find? fun node => maxEncodedItemLength < node.declared

section

variable {item root : SecsItem}

/-- The tree below an item is a part of the whole. -/
theorem infix_of_preorder {node : SecsItem} (h : node ∈ root.preorder) :
    node.preorder <:+: root.preorder := by
  induction root using treeInduction with
  | leaf root hleaf =>
    rw [preorder_of_leaf hleaf] at h
    rw [List.mem_singleton.mp h]
  | list items ih =>
    rw [preorder] at h ⊢
    rcases List.mem_cons.mp h with rfl | h
    · rw [preorder]
    · rw [preorderAll_eq_flatMap] at h ⊢
      obtain ⟨item, hitem, hnode⟩ := List.mem_flatMap.mp h
      obtain ⟨before, after, rfl⟩ := List.append_of_mem hitem
      have hpart : item.preorder <:+: (before ++ item :: after).flatMap preorder := by
        rw [List.flatMap_append, List.flatMap_cons]
        exact ⟨_, _, List.append_assoc _ _ _⟩
      exact (ih item hitem hnode).trans (hpart.trans (List.suffix_cons _ _).isInfix)

theorem footprint_node_le {node : SecsItem} (h : node ∈ root.preorder) :
    24 + node.payloadBytes ≤ root.footprint :=
  List.single_le_sum (fun _ _ => Nat.zero_le _) _ (List.mem_map.mpr ⟨node, h, rfl⟩)

/-- On the wire an item is not larger than in memory. -/
theorem length_nodeBytes_le : (nodeBytes item).length ≤ 24 + item.payloadBytes := by
  have hcount : (lengthByteCount item.declared).asCount ≤ 3 := by
    cases lengthByteCount item.declared <;> decide
  rw [nodeBytes, List.length_append, length_writeHeader]
  cases hlist : item.isList with
  | true =>
    have hpayload : writePayload item = [] := by
      rw [eq_list_of_isList hlist]
      rfl
    rw [hpayload, List.length_nil]
    omega
  | false =>
    have hdeclared : item.declared = item.payloadBytes := by
      cases item with
      | list => cases hlist
      | _ => rfl
    have hpayload := length_writePayload hlist
    omega

/-- **The wire form of a tree is not larger than the tree in memory.**  A header of at most four
bytes is paid for by the record of the item. -/
theorem length_flatMap_nodeBytes_le (nodes : List SecsItem) : (nodes.flatMap nodeBytes).length ≤
    (nodes.map fun node => 24 + node.payloadBytes).sum := by
  induction nodes with
  | nil => exact le_rfl
  | cons node nodes ih =>
    rw [List.flatMap_cons, List.length_append, List.map_cons, List.sum_cons]
    exact Nat.add_le_add length_nodeBytes_le ih

/-- An item of a tree in memory has a length that is a `usize`. -/
theorem declared_le_footprint {node : SecsItem} (h : node ∈ root.preorder) :
    node.declared ≤ root.footprint := by
  cases hlist : node.isList with
  | false =>
    have hdeclared : node.declared = node.payloadBytes := by
      cases node with
      | list => cases hlist
      | _ => rfl
    have hnode := footprint_node_le h
    omega
  | true =>
    -- the children of the List are items of the tree themselves
    have hcount : node.declared ≤ (root.preorder.map fun _ => 24).sum := by
      rw [List.map_const', List.sum_replicate, smul_eq_mul]
      have hlength : node.declared ≤ node.preorder.length := by
        rw [eq_list_of_isList hlist, preorder, List.length_cons]
        exact (length_le_preorderAll node.children).trans (Nat.le_succ _)
      have hsub : node.preorder.length ≤ root.preorder.length := (infix_of_preorder h).length_le
      omega
    refine hcount.trans (List.sum_le_sum fun node' _ => ?_)
    exact Nat.le_add_right _ _

/-! ## Errors -/

/-- The only error of the length computation of an item that memory holds. -/
theorem declaredLengthOf_eq_error (hmemory : item.declared ≤ usizeMax) {e : EncodeError} :
    declaredLengthOf item = .error e ↔ maxEncodedItemLength < item.declared ∧
      e = item.tooLarge := by
  have hpayload : ∀ {bodyLen : ℕ} {code : FormatCode},
      (boundedPayload bodyLen code).map (fun length => (length, false)) = .error e ↔
        maxEncodedItemLength < bodyLen ∧ e = .itemBodyTooLarge code.sixBitValue bodyLen := by
    intro bodyLen code
    unfold boundedPayload
    split
    · rename_i hlarge
      exact ⟨fun h => ⟨hlarge, (Except.error.inj h).symm⟩, fun h => congrArg Except.error h.2.symm⟩
    · rename_i hsmall
      exact iff_of_false (fun h => nomatch h) fun h => hsmall h.1
  have hnumeric : ∀ {count width : ℕ} {code : FormatCode}, count * width ≤ usizeMax →
      (numericPayload count width code = .error e ↔
        maxEncodedItemLength < count * width ∧
          e = .itemBodyTooLarge code.sixBitValue (count * width)) := by
    intro count width code hfits
    unfold numericPayload checkedMul
    rw [if_pos hfits]
    exact hpayload
  cases item with
  | list items =>
    show (boundedListChildren items.length).map (fun count => (count, true)) = _ ↔ _
    unfold boundedListChildren
    split
    · rename_i hlarge
      exact ⟨fun h => ⟨hlarge, (Except.error.inj h).symm⟩, fun h => congrArg Except.error h.2.symm⟩
    · rename_i hsmall
      exact iff_of_false (fun h => nomatch h) fun h => hsmall h.1
  | binary | boolean | ascii | jis8 | u1 => exact hpayload
  | i1 values =>
    have hone : (values.length * 1 : ℕ) = values.length := Nat.mul_one _
    have hwidth : numericPayload values.length 1 .i1 = .error e ↔ maxEncodedItemLength <
        values.length * 1 ∧ e = .itemBodyTooLarge FormatCode.i1.sixBitValue (values.length * 1) :=
      hnumeric (hone.trans_le hmemory)
    rw [hone] at hwidth
    exact hwidth
  | localized text =>
    have hadd : checkedAdd text.bytes.length 2 = some (text.bytes.length + 2) := if_pos hmemory
    unfold declaredLengthOf
    dsimp only
    rw [hadd]
    exact hpayload
  | i8 | i2 | i4 | f8 | f4 | u8 | u2 | u4 => exact hnumeric hmemory

theorem nodeWireSize_eq_error {e : EncodeError} :
    nodeWireSize item = .error e ↔ declaredLengthOf item = .error e := by
  cases hdeclared : declaredLengthOf item with
  | error e' =>
    unfold nodeWireSize
    rw [hdeclared]
    exact ⟨fun h => congrArg _ (Except.error.inj h), fun h => congrArg _ (Except.error.inj h)⟩
  | ok declaration =>
    obtain ⟨length, isList⟩ := declaration
    obtain ⟨rfl, rfl, hle⟩ := declaredLengthOf_eq_ok.mp hdeclared
    rw [nodeWireSize_eq_ok.mpr ⟨hle, rfl⟩]
    exact iff_of_false (fun h => nomatch h) fun h => nomatch h

/-- **A pass fails at the first oversized item**, if each turn of it does and the others succeed.
It is stated for any pass over a list of items, and used for measuring as well as for writing. -/
theorem foldlM_eq_error {β : Type} {turn : β → SecsItem → Except EncodeError β}
    {e : EncodeError} {nodes : List SecsItem} (next : β → SecsItem → β)
    (Fine : β → List SecsItem → Prop)
    (hfine : ∀ b node nodes, Fine b (node :: nodes) → Fine (next b node) nodes)
    (hok : ∀ b node nodes, Fine b (node :: nodes) → node.declared ≤ maxEncodedItemLength →
      turn b node = .ok (next b node))
    (hfails : ∀ b node nodes, Fine b (node :: nodes) → maxEncodedItemLength < node.declared →
      turn b node = .error node.tooLarge) :
    ∀ b, Fine b nodes → (nodes.foldlM turn b = .error e ↔
      (nodes.find? fun node => maxEncodedItemLength < node.declared).map SecsItem.tooLarge =
        some e) := by
  induction nodes with
  | nil => exact fun b _ => iff_of_false (fun h => nomatch h) fun h => nomatch h
  | cons node nodes ih =>
    intro b hb
    rw [List.foldlM_cons]
    by_cases hlarge : maxEncodedItemLength < node.declared
    · rw [hfails b node nodes hb hlarge, List.find?_cons_of_pos (by simpa using hlarge)]
      exact ⟨fun h => congrArg some (Except.error.inj h), fun h => congrArg Except.error
        (Option.some.inj h)⟩
    · rw [hok b node nodes hb (Nat.le_of_not_lt hlarge),
        List.find?_cons_of_neg (by simpa using hlarge)]
      exact ih (next b node) (hfine b node nodes hb)

/-- The first pass over a tree that memory holds. -/
theorem measure_eq_error (hmemory : root.footprint ≤ usizeMax) {e : EncodeError} :
    measure root = .error e ↔ root.firstOversized.map SecsItem.tooLarge = some e := by
  rw [measure, walk_eq]
  refine foldlM_eq_error (fun total node => total + (nodeBytes node).length)
    (fun total nodes => (∀ node ∈ nodes, node.declared ≤ usizeMax) ∧
      total + (nodes.flatMap nodeBytes).length ≤ usizeMax)
    (fun total node nodes h => ?_) (fun total node nodes h hle => ?_)
    (fun total node nodes h hlarge => ?_)
    0 ⟨fun node hnode => (declared_le_footprint hnode).trans hmemory, ?_⟩
  · rw [List.flatMap_cons, List.length_append, ← Nat.add_assoc] at h
    exact ⟨fun node' hnode' => h.1 node' (List.mem_cons_of_mem _ hnode'), h.2⟩
  · rw [List.flatMap_cons, List.length_append] at h
    exact measureNode_eq_ok.mpr ⟨hle, rfl, by omega⟩
  · unfold measureNode
    rw [nodeWireSize_eq_error.mpr ((declaredLengthOf_eq_error (h.1 node List.mem_cons_self)).mpr
      ⟨hlarge, rfl⟩)]
  · rw [Nat.zero_add]
    exact (length_flatMap_nodeBytes_le _).trans hmemory

/-- The second pass over a tree that memory holds, on any output. -/
theorem writeItemTree_eq_error (hmemory : root.footprint ≤ usizeMax) {e : EncodeError}
    (output : List UInt8) : writeItemTree root output = .error e ↔
      root.firstOversized.map SecsItem.tooLarge = some e := by
  rw [writeItemTree, walk_eq]
  refine foldlM_eq_error (fun output node => output ++ nodeBytes node)
    (fun _ nodes => ∀ node ∈ nodes, node.declared ≤ usizeMax)
    (fun _ node nodes h node' hnode' => h node' (List.mem_cons_of_mem _ hnode'))
    (fun output node nodes _ hle => writeNode_of_le output hle)
    (fun output node nodes h hlarge => ?_)
    output fun node hnode => (declared_le_footprint hnode).trans hmemory
  unfold writeNode
  rw [(declaredLengthOf_eq_error (h node List.mem_cons_self)).mpr ⟨hlarge, rfl⟩]

theorem encodeToVec_eq_error {e : EncodeError} : encodeToVec root = .error e ↔
    measure root = .error e := by
  unfold encodeToVec EncodedItemPlan.new
  split
  · rename_i e' hplan
    split at hplan
    · rename_i hmeasure
      obtain rfl := Except.error.inj hplan
      rw [hmeasure]
      exact ⟨fun h => congrArg _ (Except.error.inj h), fun h => congrArg _ (Except.error.inj h)⟩
    · cases hplan
  · rename_i plan hplan
    split at hplan
    · cases hplan
    · rename_i size hmeasure
      obtain rfl := Except.ok.inj hplan
      refine iff_of_false (fun h => ?_) fun h => nomatch hmeasure.symm.trans h
      rw [EncodedItemPlan.writeInto, writeItemTree_of_le [] (measure_eq_ok.mp hmeasure).1] at h
      cases h

end

/-- **The passes agree.**  Successive calls of the walker return the items in preorder and then
nothing.  A plan that has been made appends to any output exactly as many bytes as it has measured
and leaves the output before them as it was.  For every tree that memory holds the encoder succeeds
exactly when every length fits its field, with the headers and payloads in preorder; otherwise each
pass fails, and the encoder with it, with the error of the first item in preorder whose length does
not fit. -/
theorem encoder_passes_agree (root : SecsItem) :
    (∀ calls, (Walker.new root).visit children calls = root.preorder.take calls) ∧
    (∀ plan, EncodedItemPlan.new root = .ok plan → ∀ output, ∃ written,
      plan.writeInto output = .ok (output ++ written) ∧ written.length = plan.encodedLength) ∧
    (root.footprint ≤ usizeMax →
      (∀ bytes, encodeToVec root = .ok bytes ↔
        (∀ node ∈ root.preorder, node.declared ≤ maxEncodedItemLength) ∧
          bytes = root.preorder.flatMap fun node => headerBytes (formatCodeOf node)
            (lengthByteCount node.declared) node.declared ++ writePayload node) ∧
      (∀ e, encodeToVec root = .error e ↔ root.firstOversized.map SecsItem.tooLarge = some e) ∧
      ∀ e output, writeItemTree root output = .error e ↔ measure root = .error e) := by
  refine ⟨fun calls => ?_, fun plan hplan output => ?_, fun hmemory =>
    ⟨fun bytes => ?_, fun e => ?_, fun e output => ?_⟩⟩
  · rw [Walker.visit_eq preorder_eq]
    exact congrArg _ (List.append_nil _)
  · unfold EncodedItemPlan.new at hplan
    split at hplan
    · cases hplan
    · rename_i size hmeasure
      obtain rfl := Except.ok.inj hplan
      obtain ⟨hall, hsize, -⟩ := measure_eq_ok.mp hmeasure
      exact ⟨_, writeItemTree_of_le output hall, hsize.symm⟩
  · have hnodes : (fun node : SecsItem => headerBytes (formatCodeOf node)
        (lengthByteCount node.declared) node.declared ++ writePayload node) = nodeBytes := by
      funext node
      rw [nodeBytes, writeHeader_eq]
    rw [hnodes, encodeToVec_eq_ok]
    refine and_congr_right fun _ => and_iff_left_of_imp ?_
    rintro rfl
    exact (length_flatMap_nodeBytes_le _).trans hmemory
  · rw [encodeToVec_eq_error, measure_eq_error hmemory]
  · rw [writeItemTree_eq_error hmemory, measure_eq_error hmemory]

/-- A List of two scalars takes 75 bytes in memory at least and is encoded. -/
theorem encoder_passes_agree_of_list :
    encodeToVec (.list [.u1 [7], .boolean [true, false]]) =
      .ok [0x01, 0x02, 0xA5, 0x01, 0x07, 0x25, 0x02, 0x01, 0x00] :=
  ((encoder_passes_agree (.list [.u1 [7], .boolean [true, false]])).2.2 (by decide)).1 _ |>.mpr
    ⟨by decide, by decide⟩

end Secs2
end SecsRust

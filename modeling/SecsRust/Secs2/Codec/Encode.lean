import SecsRust.Lib.Preorder
import SecsRust.Secs2.Codec.Grammar

/-!
# The encoder

`secs2/codec/encode.rs`: one pass that validates the tree and measures its encoded size, and
one that writes it, both over the same explicit-stack walk of the tree.

The second pass relies on the first: it writes length fields without checking them again,
and reserves what was measured.  So the two computations of a length have to agree for every
item (`measure_eq_ok`: what is measured is what is written), and the walk has to be the same
preorder both times, which is the theory of `Lib.Preorder`.

`encodeToVec_eq_ok` says when the encoder succeeds and what it writes: the bytes of the
items in preorder, each in its canonical wire form.  It fails only when a length exceeds its
field or the whole does not fit in memory; the nesting of the tree does not matter.  What
can be encoded can also be planned, and the plan writes the same bytes behind anything
(`exists_plan_of_encodeToVec`).
-/

namespace SecsRust
namespace Secs2

open SecsItem LengthByteCount

/-- `EncodeError`: a length passes its field, or the end of a `usize`. -/
inductive EncodeError where
  | itemBodyTooLarge (formatCode : UInt8) (bodyBytes : ℕ)
  | listTooLarge (childCount : ℕ)
  | arithmeticOverflow
  deriving DecidableEq

/-- `ItemWalker`: the items in the order in which repeated calls of `next` return them.  Every call
returns another item of the tree, so the number of items bounds the calls. -/
def walk (root : SecsItem) : List SecsItem := (Walker.new root).visit children root.nodeCount

/-! ## Lengths -/

/-- `bounded_payload`: a payload whose length fits three bytes. -/
def boundedPayload (bodyLen : ℕ) (code : FormatCode) : Except EncodeError ℕ :=
  if bodyLen > maxEncodedItemLength then .error (.itemBodyTooLarge code.sixBitValue bodyLen)
  else .ok bodyLen

/-- `bounded_list_children`: a List whose count fits three bytes. -/
def boundedListChildren (childCount : ℕ) : Except EncodeError ℕ :=
  if childCount > maxEncodedItemLength then .error (.listTooLarge childCount) else .ok childCount

/-- `numeric_payload`: the bytes of so many elements of one width. -/
def numericPayload (count elemWidth : ℕ) (code : FormatCode) : Except EncodeError (ℕ × Bool) :=
  match checkedMul count elemWidth with
  | none => .error .arithmeticOverflow
  | some bodyLen => (boundedPayload bodyLen code).map fun length => (length, false)

/-- `declared_length_of`: the value of the length field, and whether the item is a List. -/
def declaredLengthOf : SecsItem → Except EncodeError (ℕ × Bool)
  | .list items => (boundedListChildren items.length).map fun count => (count, true)
  | .binary bytes => (boundedPayload bytes.length .binary).map fun length => (length, false)
  | .boolean values => (boundedPayload values.length .boolean).map fun length => (length, false)
  | .ascii text => (boundedPayload text.bytes.length .ascii).map fun length => (length, false)
  | .jis8 bytes => (boundedPayload bytes.length .jis8).map fun length => (length, false)
  | .localized text =>
    match checkedAdd text.bytes.length 2 with
    | none => .error .arithmeticOverflow
    | some bodyLen => (boundedPayload bodyLen .localized).map fun length => (length, false)
  | .i8 values => numericPayload values.length 8 .i8
  | .i1 values => numericPayload values.length 1 .i1
  | .i2 values => numericPayload values.length 2 .i2
  | .i4 values => numericPayload values.length 4 .i4
  | .f8 bits => numericPayload bits.length 8 .f8
  | .f4 bits => numericPayload bits.length 4 .f4
  | .u8 values => numericPayload values.length 8 .u8
  | .u1 values => (boundedPayload values.length .u1).map fun length => (length, false)
  | .u2 values => numericPayload values.length 2 .u2
  | .u4 values => numericPayload values.length 4 .u4

/-- The length bytes chosen for a bounded length.  The source unwraps the option with `expect`; the
default stands for that panic, which no bounded length reaches. -/
def lengthByteCount (declaredLength : ℕ) : LengthByteCount :=
  (forDeclaredLength declaredLength).getD .three

/-- `node_wire_size`: the bytes of an item without its children: its header, and its payload
unless it is a List. -/
def nodeWireSize (item : SecsItem) : Except EncodeError ℕ :=
  match declaredLengthOf item with
  | .error e => .error e
  | .ok (declaredLength, isList) =>
    let headerLen := 1 + (lengthByteCount declaredLength).asCount
    if isList then .ok headerLen
    else
      match checkedAdd headerLen declaredLength with
      | none => .error .arithmeticOverflow
      | some size => .ok size

/-- One turn of the loop of `measure`. -/
def measureNode (total : ℕ) (node : SecsItem) : Except EncodeError ℕ :=
  match nodeWireSize node with
  | .error e => .error e
  | .ok nodeSize =>
    match checkedAdd total nodeSize with
    | none => .error .arithmeticOverflow
    | some total => .ok total

/-- `measure`: the first pass, which adds up the items and fails at the first that is too large. -/
def measure (root : SecsItem) : Except EncodeError ℕ := (walk root).foldlM measureNode 0

/-! ## Writing -/

/-- `write_header`: what it appends, the format byte and the fewest length bytes. -/
def writeHeader (code : FormatCode) (declaredLength : ℕ) : List UInt8 :=
  (lengthByteCount declaredLength).formatByte code ::
    match lengthByteCount declaredLength with
    | .one => [UInt8.ofNat declaredLength]
    | .two => Element.u16.toBeBytes (UInt16.ofNat declaredLength)
    | .three => [UInt8.ofNat (declaredLength >>> 16), UInt8.ofNat (declaredLength >>> 8),
        UInt8.ofNat declaredLength]

/-- `write_payload`: what it appends.  A List has no payload of its own. -/
def writePayload : SecsItem → List UInt8
  | .list _ => []
  | .binary bytes => bytes
  | .boolean values => values.map fun value => if value then 0x01 else 0x00
  | .ascii text => text.bytes
  | .jis8 bytes => bytes
  | .localized text => Element.u16.toBeBytes text.encoding.raw ++ text.bytes
  | .i8 values => Element.i64.write values
  | .i1 values => values.map Int8.toUInt8
  | .i2 values => Element.i16.write values
  | .i4 values => Element.i32.write values
  | .f8 bits => Element.u64.write bits
  | .f4 bits => Element.u32.write bits
  | .u8 values => Element.u64.write values
  | .u1 values => values
  | .u2 values => Element.u16.write values
  | .u4 values => Element.u32.write values

/-- `format_code_of`: the format of an item. -/
def formatCodeOf : SecsItem → FormatCode
  | .list _ => .list
  | .binary _ => .binary
  | .boolean _ => .boolean
  | .ascii _ => .ascii
  | .jis8 _ => .jis8
  | .localized _ => .localized
  | .i8 _ => .i8
  | .i1 _ => .i1
  | .i2 _ => .i2
  | .i4 _ => .i4
  | .f8 _ => .f8
  | .f4 _ => .f4
  | .u8 _ => .u8
  | .u1 _ => .u1
  | .u2 _ => .u2
  | .u4 _ => .u4

/-- One turn of the loop of `write_item_tree`. -/
def writeNode (output : List UInt8) (node : SecsItem) : Except EncodeError (List UInt8) :=
  match declaredLengthOf node with
  | .error e => .error e
  | .ok (declaredLength, _) =>
    let output := output ++ writeHeader (formatCodeOf node) declaredLength
    if node.isList then .ok output else .ok (output ++ writePayload node)

/-- `write_item_tree`: the second pass, over the same walk. -/
def writeItemTree (item : SecsItem) (output : List UInt8) : Except EncodeError (List UInt8) :=
  (walk item).foldlM writeNode output

/-- `EncodedItemPlan`: a validated and measured item. -/
structure EncodedItemPlan where
  item : SecsItem
  encodedLength : ℕ
  measured : measure item = .ok encodedLength

/-- `EncodedItemPlan::new`: measures the tree, and keeps the proof of it. -/
def EncodedItemPlan.new (item : SecsItem) : Except EncodeError EncodedItemPlan :=
  match h : measure item with
  | .error e => .error e
  | .ok encodedLength => .ok ⟨item, encodedLength, h⟩

/-- `EncodedItemPlan::write_into`: appends the tree that was measured. -/
def EncodedItemPlan.writeInto (plan : EncodedItemPlan) (output : List UInt8) :
    Except EncodeError (List UInt8) :=
  writeItemTree plan.item output

/-- `encode_to_vec`: both passes, into an empty output. -/
def encodeToVec (item : SecsItem) : Except EncodeError (List UInt8) :=
  match EncodedItemPlan.new item with
  | .error e => .error e
  | .ok plan => plan.writeInto []

/-! ## What is measured -/

/-- The value that the length field of an item carries. -/
def SecsItem.declared : SecsItem → ℕ
  | .list items => items.length
  | item => item.payloadBytes

/-- What the encoder writes for an item by itself. -/
def nodeBytes (item : SecsItem) : List UInt8 :=
  writeHeader (formatCodeOf item) item.declared ++ writePayload item

variable {item : SecsItem}

theorem walk_eq (root : SecsItem) : walk root = root.preorder :=
  Walker.visit_new preorder_eq (le_refl _)

theorem boundedPayload_map_eq_ok {bodyLen length : ℕ} {code : FormatCode} {isList : Bool} :
    (boundedPayload bodyLen code).map (fun length => (length, false)) = .ok (length, isList) ↔
      length = bodyLen ∧ isList = false ∧ bodyLen ≤ maxEncodedItemLength := by
  unfold boundedPayload
  split <;> simp [Except.map] <;> grind

/-- A length that is computed with a check fails exactly when it is out of bounds. -/
theorem checked_eq_ok {bodyLen length : ℕ} {code : FormatCode} {isList : Bool} :
    (match (if bodyLen ≤ usizeMax then some bodyLen else none) with
      | none => .error .arithmeticOverflow
      | some bodyLen => (boundedPayload bodyLen code).map fun length => (length, false)) =
        Except.ok (length, isList) ↔
      length = bodyLen ∧ isList = false ∧ bodyLen ≤ maxEncodedItemLength := by
  have hmax : maxEncodedItemLength ≤ usizeMax := by decide
  by_cases hfits : bodyLen ≤ usizeMax
  · rw [if_pos hfits]
    exact boundedPayload_map_eq_ok
  · rw [if_neg hfits]
    exact iff_of_false (fun h => nomatch h) fun h => hfits (h.2.2.trans hmax)

theorem numericPayload_eq_ok {count elemWidth length : ℕ} {code : FormatCode} {isList : Bool} :
    numericPayload count elemWidth code = .ok (length, isList) ↔
      length = count * elemWidth ∧ isList = false ∧ count * elemWidth ≤ maxEncodedItemLength :=
  checked_eq_ok

/-- **The length field is bounded by its three bytes**, and there is no other reason to fail. -/
theorem declaredLengthOf_eq_ok {length : ℕ} {isList : Bool} :
    declaredLengthOf item = .ok (length, isList) ↔
      length = item.declared ∧ isList = item.isList ∧ item.declared ≤ maxEncodedItemLength := by
  cases item with
  | list items =>
    show (boundedListChildren items.length).map (fun count => (count, true)) = _ ↔ _
    unfold boundedListChildren
    split <;> simp [Except.map, SecsItem.declared, SecsItem.isList] <;> grind
  | localized text => exact checked_eq_ok
  | binary => exact boundedPayload_map_eq_ok
  | boolean => exact boundedPayload_map_eq_ok
  | ascii => exact boundedPayload_map_eq_ok
  | jis8 => exact boundedPayload_map_eq_ok
  | u1 => exact boundedPayload_map_eq_ok
  | i1 values =>
    have h : numericPayload values.length 1 .i1 = .ok (length, isList) ↔ _ := numericPayload_eq_ok
    rw [Nat.mul_one] at h
    exact h
  | _ => exact numericPayload_eq_ok

/-- A bounded length has its length bytes. -/
theorem forDeclaredLength_lengthByteCount {length : ℕ} (h : length ≤ maxEncodedItemLength) :
    forDeclaredLength length = some (lengthByteCount length) := by
  have hsome : (forDeclaredLength length).isSome = true := by
    unfold forDeclaredLength
    split_ifs <;> rfl
  obtain ⟨count, hcount⟩ := Option.isSome_iff_exists.mp hsome
  rw [lengthByteCount, hcount, Option.getD_some]

/-- The length bytes are those of the length in the chosen width. -/
theorem writeHeader_eq (code : FormatCode) (length : ℕ) :
    writeHeader code length = headerBytes code (lengthByteCount length) length := by
  unfold writeHeader headerBytes
  congr 1
  cases lengthByteCount length with
  | one => rfl
  | two =>
    show beBytes 2 (UInt16.ofNat length).toNat = beBytes 2 length
    have hhigh : UInt8.ofNat (length % 2 ^ 16 / 256) = UInt8.ofNat (length / 256) := by
      rw [← UInt8.toNat_inj, UInt8.toNat_ofNat', UInt8.toNat_ofNat']
      omega
    have hlow : UInt8.ofNat (length % 2 ^ 16) = UInt8.ofNat length := by
      rw [← UInt8.toNat_inj, UInt8.toNat_ofNat', UInt8.toNat_ofNat']
      omega
    simp only [UInt16.toNat_ofNat', beBytes, hhigh, hlow]
  | three =>
    show [UInt8.ofNat (length >>> 16), UInt8.ofNat (length >>> 8), UInt8.ofNat length] =
      beBytes 3 length
    simp only [Nat.shiftRight_eq_div_pow, beBytes, Nat.div_div_eq_div_mul]
    rfl

theorem length_writePayload (h : item.isList = false) :
    (writePayload item).length = item.declared := by
  cases item with
  | list => cases h
  | binary => rfl
  | ascii => rfl
  | jis8 => rfl
  | u1 => rfl
  | boolean => exact List.length_map _
  | i1 => exact List.length_map _
  | localized text =>
    show (Element.u16.toBeBytes text.encoding.raw ++ text.bytes).length = text.bytes.length + 2
    rw [List.length_append, Element.length_toBeBytes, Nat.add_comm]
    rfl
  | _ => exact Element.length_write _

theorem length_writeHeader (code : FormatCode) (length : ℕ) :
    (writeHeader code length).length = 1 + (lengthByteCount length).asCount := by
  rw [writeHeader_eq, length_headerBytes, Nat.add_comm]

/-- The measured size of an item is the number of bytes written for it. -/
theorem nodeWireSize_eq_ok {size : ℕ} :
    nodeWireSize item = .ok size ↔
      item.declared ≤ maxEncodedItemLength ∧ size = (nodeBytes item).length := by
  cases hdeclared : declaredLengthOf item with
  | error e =>
    have hnot : ¬ item.declared ≤ maxEncodedItemLength := by
      intro hle
      rw [declaredLengthOf_eq_ok.mpr ⟨rfl, rfl, hle⟩] at hdeclared
      cases hdeclared
    simp [nodeWireSize, hdeclared, hnot]
  | ok declaration =>
    obtain ⟨length, isList⟩ := declaration
    obtain ⟨rfl, rfl, hle⟩ := declaredLengthOf_eq_ok.mp hdeclared
    rw [nodeWireSize, hdeclared, nodeBytes, List.length_append, length_writeHeader]
    dsimp only
    cases hlist : item.isList with
    | true =>
      have hpayload : writePayload item = [] := by
        rw [eq_list_of_isList hlist]
        rfl
      rw [if_pos rfl, hpayload, List.length_nil, Nat.add_zero]
      simp [hle, eq_comm]
    | false =>
      have hcount : (lengthByteCount item.declared).asCount ≤ 3 := by
        cases lengthByteCount item.declared <;> decide
      have hmax : 1 + 3 + maxEncodedItemLength ≤ usizeMax := by decide
      have hfits : checkedAdd (1 + (lengthByteCount item.declared).asCount) item.declared =
          some (1 + (lengthByteCount item.declared).asCount + item.declared) :=
        checkedAdd_of_le (by omega)
      rw [if_neg Bool.false_ne_true, hfits, length_writePayload hlist]
      simp [hle, eq_comm]

/-- One turn adds the size of one item. -/
theorem measureNode_eq_ok {total size : ℕ} :
    measureNode total item = .ok size ↔ item.declared ≤ maxEncodedItemLength ∧
      size = total + (nodeBytes item).length ∧ total + (nodeBytes item).length ≤ usizeMax := by
  by_cases hle : item.declared ≤ maxEncodedItemLength
  · rw [measureNode, nodeWireSize_eq_ok.mpr ⟨hle, rfl⟩]
    dsimp only
    by_cases hfits : total + (nodeBytes item).length ≤ usizeMax
    · rw [checkedAdd_of_le hfits]
      simp [hle, hfits, eq_comm]
    · rw [checkedAdd_eq_none.mpr (Nat.lt_of_not_le hfits)]
      exact iff_of_false (fun h => nomatch h) fun h => hfits h.2.2
  · cases hsize : nodeWireSize item with
    | error e => simp [measureNode, hsize, hle]
    | ok size => exact absurd (nodeWireSize_eq_ok.mp hsize).1 hle

theorem measure_foldlM {nodes : List SecsItem} {total size : ℕ} (htotal : total ≤ usizeMax) :
    nodes.foldlM measureNode total = .ok size ↔
      (∀ node ∈ nodes, node.declared ≤ maxEncodedItemLength) ∧
        size = total + (nodes.flatMap nodeBytes).length ∧ size ≤ usizeMax := by
  induction nodes generalizing total with
  | nil =>
    show Except.ok total = Except.ok size ↔ _
    simp only [Except.ok.injEq, List.flatMap_nil, List.length_nil]
    grind
  | cons node nodes ih =>
    rw [List.foldlM_cons, List.forall_mem_cons, List.flatMap_cons, List.length_append]
    cases hnode : measureNode total node with
    | error e =>
      refine iff_of_false (fun h => nomatch h) fun ⟨hall, hsize, hfits⟩ => ?_
      have hok : measureNode total node = .ok (total + (nodeBytes node).length) :=
        measureNode_eq_ok.mpr ⟨hall.1, rfl, by omega⟩
      rw [hok] at hnode
      cases hnode
    | ok next =>
      obtain ⟨hle, rfl, hfits⟩ := measureNode_eq_ok.mp hnode
      refine (ih hfits).trans ?_
      rw [Nat.add_assoc]
      grind

/-- **What is measured is what is written.** -/
theorem measure_eq_ok {root : SecsItem} {size : ℕ} :
    measure root = .ok size ↔
      (∀ node ∈ root.preorder, node.declared ≤ maxEncodedItemLength) ∧
        size = (root.preorder.flatMap nodeBytes).length ∧ size ≤ usizeMax := by
  rw [measure, walk_eq, measure_foldlM (Nat.zero_le _), Nat.zero_add]

/-! ## What is written -/

/-- One turn appends one item. -/
theorem writeNode_of_le (output : List UInt8) (h : item.declared ≤ maxEncodedItemLength) :
    writeNode output item = .ok (output ++ nodeBytes item) := by
  rw [writeNode, declaredLengthOf_eq_ok.mpr ⟨rfl, rfl, h⟩, nodeBytes]
  dsimp only
  cases hlist : item.isList with
  | true =>
    have hpayload : writePayload item = [] := by
      rw [eq_list_of_isList hlist]
      rfl
    rw [if_pos rfl, hpayload, List.append_nil]
  | false => rw [if_neg Bool.false_ne_true, List.append_assoc]

theorem writeItemTree_of_le {root : SecsItem} (output : List UInt8)
    (h : ∀ node ∈ root.preorder, node.declared ≤ maxEncodedItemLength) :
    writeItemTree root output = .ok (output ++ root.preorder.flatMap nodeBytes) := by
  rw [writeItemTree, walk_eq]
  generalize root.preorder = nodes at h
  induction nodes generalizing output with
  | nil => exact congrArg Except.ok (List.append_nil output).symm
  | cons node nodes ih =>
    obtain ⟨hnode, hnodes⟩ := List.forall_mem_cons.mp h
    rw [List.foldlM_cons, writeNode_of_le output hnode, List.flatMap_cons, ← List.append_assoc]
    exact ih _ hnodes

/-- **The encoder writes the canonical form of every item in preorder**, and fails only when a
length exceeds its field or the whole does not fit in memory. -/
theorem encodeToVec_eq_ok {root : SecsItem} {bytes : List UInt8} :
    encodeToVec root = .ok bytes ↔
      (∀ node ∈ root.preorder, node.declared ≤ maxEncodedItemLength) ∧
        bytes = root.preorder.flatMap nodeBytes ∧ bytes.length ≤ usizeMax := by
  unfold encodeToVec EncodedItemPlan.new
  split
  · rename_i e hplan
    refine iff_of_false (fun h => nomatch h) fun ⟨hall, hbytes, hfits⟩ => ?_
    have hok := measure_eq_ok.mpr ⟨hall, rfl, hbytes ▸ hfits⟩
    split at hplan
    · rename_i hmeasure
      rw [hok] at hmeasure
      cases hmeasure
    · cases hplan
  · rename_i plan hplan
    split at hplan
    · cases hplan
    · rename_i size hmeasure
      obtain rfl := Except.ok.inj hplan
      obtain ⟨hall, rfl, hfits⟩ := measure_eq_ok.mp hmeasure
      rw [EncodedItemPlan.writeInto, writeItemTree_of_le [] hall, List.nil_append]
      grind

/-- **What can be encoded can be planned**, and the plan writes the same bytes. -/
theorem exists_plan_of_encodeToVec {root : SecsItem} {bytes : List UInt8}
    (h : encodeToVec root = .ok bytes) :
    ∃ plan, EncodedItemPlan.new root = .ok plan ∧ plan.item = root ∧
      bytes = root.preorder.flatMap nodeBytes := by
  obtain ⟨-, hbytes, -⟩ := encodeToVec_eq_ok.mp h
  unfold encodeToVec at h
  cases hplan : EncodedItemPlan.new root with
  | error e => rw [hplan] at h; cases h
  | ok plan =>
    refine ⟨plan, rfl, ?_, hbytes⟩
    unfold EncodedItemPlan.new at hplan
    split at hplan
    · cases hplan
    · obtain rfl := Except.ok.inj hplan
      rfl

/-! ## The canonical form -/

/-- The wire form of an item that the encoder chooses. -/
def canonicalNode (item : SecsItem) (h : item.declared ≤ maxEncodedItemLength) : WireNode where
  code := formatCodeOf item
  count := lengthByteCount item.declared
  declared := item.declared
  body := writePayload item
  fits := (forDeclaredLength_eq_some.mp (forDeclaredLength_lengthByteCount h)).1

theorem bytes_canonicalNode (h : item.declared ≤ maxEncodedItemLength) :
    (canonicalNode item h).bytes = nodeBytes item := by
  rw [WireNode.bytes, WireNode.header, nodeBytes, writeHeader_eq]
  rfl

/-- What is written for a scalar is a payload of its format. -/
theorem payload_writePayload (h : item.isList = false) :
    Payload (formatCodeOf item) (writePayload item) item := by
  cases item with
  | list => cases h
  | binary bytes => exact .binary bytes
  | boolean values =>
    have hback : (values.map fun value => if value then (0x01 : UInt8) else 0x00).map
        (fun byte => byte != 0) = values := by
      rw [List.map_map]
      refine (List.map_congr_left fun value _ => ?_).trans (List.map_id' values)
      cases value <;> rfl
    have hpayload := Payload.boolean (values.map fun value => if value then 0x01 else 0x00)
    rw [hback] at hpayload
    exact hpayload
  | ascii text => exact .ascii text
  | jis8 bytes => exact .jis8 bytes
  | localized text => exact .localized text.encoding text.bytes
  | i8 values => exact .i8 values
  | i1 values => exact (congrArg (Payload .i1 · (.i1 values))
          (Element.write_i8 values)).mp (.i1 values)
  | i2 values => exact .i2 values
  | i4 values => exact .i4 values
  | f8 bits => exact .f8 bits
  | f4 bits => exact .f4 bits
  | u8 values => exact .u8 values
  | u1 values => exact (congrArg (Payload .u1 · (.u1 values))
      (Element.write_u8 values)).mp (.u1 values)
  | u2 values => exact .u2 values
  | u4 values => exact .u4 values

theorem describes_canonicalNode (h : item.declared ≤ maxEncodedItemLength) :
    Describes (canonicalNode item h) item := by
  cases hlist : item.isList with
  | true =>
    obtain ⟨items, rfl⟩ : ∃ items, item = .list items := ⟨_, eq_list_of_isList hlist⟩
    exact .list (canonicalNode (.list items) h).fits
  | false =>
    exact .of_payload (length_writePayload hlist) (payload_writePayload hlist)

/-- The canonical form is canonical. -/
theorem canonical_canonicalNode (h : item.declared ≤ maxEncodedItemLength) :
    (canonicalNode item h).Canonical where
  minimal := (forDeclaredLength_eq_some.mp (forDeclaredLength_lengthByteCount h)).2
  boolean hcode byte hbyte := by
    cases item with
    | boolean values =>
      obtain ⟨value, -, rfl⟩ := List.mem_map.mp hbyte
      cases value with
      | true => exact .inr rfl
      | false => exact .inl rfl
    | _ => cases hcode

end Secs2
end SecsRust

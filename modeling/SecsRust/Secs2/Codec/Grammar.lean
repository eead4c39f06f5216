import SecsRust.Secs2.Tree
import SecsRust.Secs2.Codec.Header
import SecsRust.Secs2.Codec.Element

/-!
# The wire grammar

What the bytes of an item are, without a reader or a writer: a header with a format code,
one to three length bytes and a declared length; for a List as many items as declared; for
every other format as many payload bytes as declared, which the format must admit.

The grammar knows no limits and no positions.  It is what the decoder is compared with, and
it is written from the format rather than from the decoder, so that the comparison says
something.

The length field need not be minimal, and a true Boolean may be any non-zero byte, so an
item has more than one wire form.  `WireNode.Canonical` is the form that the encoder
chooses.

A wire form is kept as the list of its nodes, one for each item in the order of the input;
`WireNode.wire` joins their bytes.  `Derives` builds the list along the tree, and
`derives_iff` reads it node by node: a wire form is one node for each item of the tree, in
preorder, each of which describes its item.  The first form is for inductions with the
decoder, the second for comparing two forms of one tree.
-/

namespace SecsRust
namespace Secs2

/-- The format byte and the length bytes of a header. -/
def headerBytes (code : FormatCode) (count : LengthByteCount) (declared : ℕ) : List UInt8 :=
  count.formatByte code :: beBytes count.asCount declared

@[simp] theorem length_headerBytes (code : FormatCode) (count : LengthByteCount) (declared : ℕ) :
    (headerBytes code count declared).length = count.asCount + 1 := by
  rw [headerBytes, List.length_cons, length_beBytes]

/-- One header with the payload bytes after it; a List has no payload of its own.  The wire form
of a tree is a list of these, which is easier to measure than bytes are. -/
structure WireNode where
  code : FormatCode
  count : LengthByteCount
  declared : ℕ
  body : List UInt8
  fits : declared < 256 ^ count.asCount

namespace WireNode

/-- The bytes of the header. -/
def header (node : WireNode) : List UInt8 := headerBytes node.code node.count node.declared

/-- The bytes of the node. -/
def bytes (node : WireNode) : List UInt8 := node.header ++ node.body

/-- The bytes of several nodes. -/
def wire (nodes : List WireNode) : List UInt8 := nodes.flatMap bytes

/-- The header uses the smallest number of length bytes that can represent its length. -/
def Minimal (node : WireNode) : Prop :=
  ∀ count : LengthByteCount, node.declared < 256 ^ count.asCount →
    node.count.asCount ≤ count.asCount

/-- The node is in the form that the encoder writes.  A decoder accepts other forms of the same
item; only one of them is what it is written as. -/
structure Canonical (node : WireNode) : Prop where
  minimal : node.Minimal
  boolean : node.code = .boolean → ∀ byte ∈ node.body, byte = 0x00 ∨ byte = 0x01

@[simp] theorem wire_nil : wire [] = [] := rfl

@[simp] theorem wire_cons (node : WireNode) (nodes : List WireNode) :
    wire (node :: nodes) = node.bytes ++ wire nodes := List.flatMap_cons

@[simp] theorem wire_append (nodes nodes' : List WireNode) :
    wire (nodes ++ nodes') = wire nodes ++ wire nodes' := List.flatMap_append

@[simp] theorem length_header (node : WireNode) :
    node.header.length = node.count.asCount + 1 := length_headerBytes _ _ _

theorem length_bytes (node : WireNode) :
    node.bytes.length = node.count.asCount + 1 + node.body.length := by
  rw [bytes, List.length_append, length_header]

end WireNode

/-! ## Payloads -/

/-- The payload of a format, and the item it is.  Numbers are their big-endian elements; every
byte but zero is a true Boolean. -/
inductive Payload : FormatCode → List UInt8 → SecsItem → Prop where
  | binary (bytes : List UInt8) : Payload .binary bytes (.binary bytes)
  | boolean (bytes : List UInt8) : Payload .boolean bytes
      (.boolean (bytes.map fun byte => byte != 0))
  | ascii (text : AsciiString) : Payload .ascii text.bytes (.ascii text)
  | jis8 (bytes : List UInt8) : Payload .jis8 bytes (.jis8 bytes)
  | localized (encoding : LocalizedEncodingCode) (bytes : List UInt8) :
      Payload .localized (Element.u16.toBeBytes encoding.raw ++ bytes)
        (.localized ⟨encoding, bytes⟩)
  | i8 (values : List Int64) : Payload .i8 (Element.i64.write values) (.i8 values)
  | i1 (values : List Int8) : Payload .i1 (Element.i8.write values) (.i1 values)
  | i2 (values : List Int16) : Payload .i2 (Element.i16.write values) (.i2 values)
  | i4 (values : List Int32) : Payload .i4 (Element.i32.write values) (.i4 values)
  | f8 (bits : List UInt64) : Payload .f8 (Element.u64.write bits) (.f8 bits)
  | f4 (bits : List UInt32) : Payload .f4 (Element.u32.write bits) (.f4 bits)
  | u8 (values : List UInt64) : Payload .u8 (Element.u64.write values) (.u8 values)
  | u1 (values : List UInt8) : Payload .u1 (Element.u8.write values) (.u1 values)
  | u2 (values : List UInt16) : Payload .u2 (Element.u16.write values) (.u2 values)
  | u4 (values : List UInt32) : Payload .u4 (Element.u32.write values) (.u4 values)

namespace Payload

variable {code : FormatCode} {body : List UInt8} {item : SecsItem}

theorem leaf (h : Payload code body item) : item.isList = false := by
  cases h <;> rfl

theorem code_ne_list (h : Payload code body item) : code ≠ .list := by
  cases h <;> exact fun h => nomatch h

theorem length (h : Payload code body item) : body.length = item.payloadBytes := by
  cases h with
  | boolean => exact (List.length_map _).symm
  | localized encoding bytes =>
    rw [List.length_append, Element.length_toBeBytes, Nat.add_comm]
    rfl
  | binary => rfl
  | ascii => rfl
  | jis8 => rfl
  | i1 => exact (Element.length_write _).trans (Nat.mul_one _)
  | u1 => exact (Element.length_write _).trans (Nat.mul_one _)
  | _ => exact Element.length_write _

end Payload

/-! ## Items -/

mutual

/-- **The grammar**: the nodes are the wire form of one item.  It is defined by recursion on the
tree and knows nothing of a cursor, of limits or of a stack. -/
inductive Derives : List WireNode → SecsItem → Prop where
  | list {count : LengthByteCount} {nodes : List WireNode} {items : List SecsItem}
      (fits : items.length < 256 ^ count.asCount) (all : DerivesAll nodes items) :
      Derives (⟨.list, count, items.length, [], fits⟩ :: nodes) (.list items)
  | scalar {code : FormatCode} {count : LengthByteCount} {body : List UInt8} {item : SecsItem}
      (fits : body.length < 256 ^ count.asCount) (payload : Payload code body item) :
      Derives [⟨code, count, body.length, body, fits⟩] item

/-- The nodes are the wire forms of several items, one after another. -/
inductive DerivesAll : List WireNode → List SecsItem → Prop where
  | nil : DerivesAll [] []
  | cons {nodes rest : List WireNode} {item : SecsItem} {items : List SecsItem}
      (head : Derives nodes item) (tail : DerivesAll rest items) :
      DerivesAll (nodes ++ rest) (item :: items)

end

/-! ## Node by node -/

/-- The node is a wire form of the item by itself, without the items below it. -/
inductive Describes : WireNode → SecsItem → Prop where
  | list {count : LengthByteCount} {items : List SecsItem}
      (fits : items.length < 256 ^ count.asCount) :
      Describes ⟨.list, count, items.length, [], fits⟩ (.list items)
  | scalar {code : FormatCode} {count : LengthByteCount} {body : List UInt8} {item : SecsItem}
      (fits : body.length < 256 ^ count.asCount) (payload : Payload code body item) :
      Describes ⟨code, count, body.length, body, fits⟩ item

/-- A node whose length is that of its payload. -/
theorem Describes.of_payload {node : WireNode} {item : SecsItem}
    (length : node.body.length = node.declared) (payload : Payload node.code node.body item) :
    Describes node item := by
  obtain ⟨code, count, declared, body, fits⟩ := node
  obtain rfl : body.length = declared := length
  exact .scalar fits payload

mutual

theorem describes_of_derives : ∀ {nodes : List WireNode} {item : SecsItem}, Derives nodes item →
    List.Forall₂ Describes nodes item.preorder
  | _, _, .list fits all => .cons (.list fits) (describes_of_derivesAll all)
  | _, _, .scalar fits payload => by
    rw [SecsItem.preorder_of_leaf payload.leaf]
    exact .cons (.scalar fits payload) .nil

theorem describes_of_derivesAll : ∀ {nodes : List WireNode} {items : List SecsItem},
    DerivesAll nodes items → List.Forall₂ Describes nodes (SecsItem.preorderAll items)
  | _, _, .nil => .nil
  | _, _, .cons head tail =>
    List.rel_append (describes_of_derives head) (describes_of_derivesAll tail)

end

theorem derives_of_describes {item : SecsItem} : ∀ {nodes : List WireNode},
    List.Forall₂ Describes nodes item.preorder → Derives nodes item := by
  induction item using SecsItem.treeInduction with
  | leaf item hleaf =>
    intro nodes h
    rw [SecsItem.preorder_of_leaf hleaf] at h
    cases h with
    | cons head tail =>
      cases tail
      cases head with
      | list => cases hleaf
      | scalar fits payload => exact .scalar fits payload
  | list items ih =>
    intro nodes h
    -- the nodes after the first are those of the children, cut where each child ends
    have hall : ∀ {rest : List WireNode}, List.Forall₂ Describes rest (SecsItem.preorderAll items) →
        DerivesAll rest items := by
      clear h
      induction items with
      | nil =>
        intro rest h
        cases h
        exact .nil
      | cons item items ihitems =>
        intro rest h
        rw [SecsItem.preorderAll] at h
        have hhead := ih item List.mem_cons_self (List.forall₂_take_append rest _ _ h)
        have htail := ihitems (fun child hchild => ih child (List.mem_cons_of_mem _ hchild))
          (List.forall₂_drop_append rest _ _ h)
        exact List.take_append_drop item.preorder.length rest ▸ .cons hhead htail
    rw [SecsItem.preorder] at h
    cases h with
    | cons head tail =>
      cases head with
      | list fits => exact .list fits (hall tail)
      | scalar fits payload => exact absurd payload.leaf (by simp [SecsItem.isList])

/-- **A wire form is one node for each item of the tree, in preorder.**  This turns a derivation
into a flat list, over which lengths and counts are sums. -/
theorem derives_iff {nodes : List WireNode} {item : SecsItem} :
    Derives nodes item ↔ List.Forall₂ Describes nodes item.preorder :=
  ⟨describes_of_derives, derives_of_describes⟩

end Secs2
end SecsRust

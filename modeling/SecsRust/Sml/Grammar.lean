import SecsRust.Secs2.Tree
import SecsRust.Sml.Parser

/-!
# The SML grammar

What the tokens of an item and of a message are, without a cursor, a stack or a limit: an
item is a type, an optional count and a body between angle brackets; the body of a List is
its items, and the body of every other type is a run of literals of that type.  A count that
is present is the number of children, of elements or, for text, of characters.

The grammar is about token kinds.  Where a token stands matters only to the errors of the
parser.

It is written from the format and not from the parser.  The parser decides by one token of
lookahead and checks as it goes; the grammar says what a whole item is, so `ItemTokens` has
one constructor for a List and one for a leaf, and the literals of each type are a predicate
on one token.  A value may be written in several ways, in other bases or with other cuts
between the fragments of a text, and the grammar has all of them.

An item takes at least as many tokens as its tree has items (`ItemTokens.nodeCount_le`),
which is what bounds the loop of the parser.
-/

namespace SecsRust
namespace Sml

open Secs2

/-- A `&str`: its characters, of which there are no more than `isize::MAX` bytes.  The bound is
that of every object in memory, and keeps the counts of the parser below saturation. -/
structure Str where
  text : Text
  addressable : text.length ≤ 2 ^ 63 - 1

/-- The word of a type. -/
def ItemKind.word : ItemKind → Text
  | .list => "L".toList
  | .binary => "B".toList
  | .boolean => "BOOLEAN".toList
  | .ascii => "A".toList
  | .i1 => "I1".toList
  | .i2 => "I2".toList
  | .i4 => "I4".toList
  | .i8 => "I8".toList
  | .u1 => "U1".toList
  | .u2 => "U2".toList
  | .u4 => "U4".toList
  | .u8 => "U8".toList
  | .f4 => "F4".toList
  | .f8 => "F8".toList

/-! ## Literals -/

/-- A byte is written `0xHH`. -/
inductive BinaryLiteral : TokenKind → UInt8 → Prop where
  | byte (value : UInt8) (text : Text) : BinaryLiteral (.hexByte value text) value

/-- A Boolean is one of two words. -/
inductive BooleanLiteral : TokenKind → Bool → Prop where
  | true : BooleanLiteral (.word "TRUE".toList) true
  | false : BooleanLiteral (.word "FALSE".toList) false

/-- An integer is a decimal or hexadecimal literal whose value the type has; two hexadecimal digits
are scanned as a byte. -/
inductive IntegerLiteral {α : Type} (e : IntegerElement α) : TokenKind → α → Prop where
  | int {value : ℤ} {element : α} (hex : Bool) (text : Text) (fits : e.toInt element = value) :
      IntegerLiteral e (.int value hex text) element
  | byte {value : UInt8} {element : α} (text : Text) (fits : e.toInt element = value.toNat) :
      IntegerLiteral e (.hexByte value text) element

/-- A float is a literal that is read as a finite value. -/
inductive FloatLiteral {α : Type} (parse : Text → Option α) (isFinite : α → Bool) :
    TokenKind → α → Prop where
  | float {text : Text} {value : α} (reads : parse text = some value)
      (finite : isFinite value = true) : FloatLiteral parse isFinite (.float text) value

/-- The bytes of a quoted fragment. -/
def fragmentBytes (fragment : Text) : List UInt8 := fragment.map fun c => UInt8.ofNat c.toNat

@[simp] theorem length_fragmentBytes (fragment : Text) :
    (fragmentBytes fragment).length = fragment.length := List.length_map _

/-- Text is quoted fragments and seven-bit bytes, one after another.  The order is that of the
text; adjacent fragments are joined without anything between them. -/
inductive AsciiFragments : List TokenKind → List UInt8 → Prop where
  | nil : AsciiFragments [] []
  | str (fragment : Text) {ks : List TokenKind} {bytes : List UInt8}
      (rest : AsciiFragments ks bytes) :
      AsciiFragments (.str fragment :: ks) (fragmentBytes fragment ++ bytes)
  | byte {value : UInt8} (text : Text) {ks : List TokenKind} {bytes : List UInt8}
      (ascii : value ≤ 0x7F) (rest : AsciiFragments ks bytes) :
      AsciiFragments (.hexByte value text :: ks) (value :: bytes)

/-! ## Bodies -/

/-- The tokens of a body that is a run of elements. -/
abbrev Elements {α : Type} (Literal : TokenKind → α → Prop) : List TokenKind → List α → Prop :=
  List.Forall₂ Literal

/-- The body of an item that is not a List.  One rule for each type, each with the literals of
its elements. -/
inductive LeafBody : ItemKind → List TokenKind → SecsItem → Prop where
  | binary {ks : List TokenKind} {bytes : List UInt8} (elements : Elements BinaryLiteral ks bytes) :
      LeafBody .binary ks (.binary bytes)
  | boolean {ks : List TokenKind} {values : List Bool}
      (elements : Elements BooleanLiteral ks values) :
      LeafBody .boolean ks (.boolean values)
  | ascii {ks : List TokenKind} {text : AsciiString} (fragments : AsciiFragments ks text.bytes) :
      LeafBody .ascii ks (.ascii text)
  | i1 {ks : List TokenKind} {values : List Int8}
      (elements : Elements (IntegerLiteral .i1) ks values) :
      LeafBody .i1 ks (.i1 values)
  | i2 {ks : List TokenKind} {values : List Int16}
      (elements : Elements (IntegerLiteral .i2) ks values) :
      LeafBody .i2 ks (.i2 values)
  | i4 {ks : List TokenKind} {values : List Int32}
      (elements : Elements (IntegerLiteral .i4) ks values) :
      LeafBody .i4 ks (.i4 values)
  | i8 {ks : List TokenKind} {values : List Int64}
      (elements : Elements (IntegerLiteral .i8) ks values) :
      LeafBody .i8 ks (.i8 values)
  | u1 {ks : List TokenKind} {values : List UInt8}
      (elements : Elements (IntegerLiteral .u1) ks values) :
      LeafBody .u1 ks (.u1 values)
  | u2 {ks : List TokenKind} {values : List UInt16}
      (elements : Elements (IntegerLiteral .u2) ks values) :
      LeafBody .u2 ks (.u2 values)
  | u4 {ks : List TokenKind} {values : List UInt32}
      (elements : Elements (IntegerLiteral .u4) ks values) :
      LeafBody .u4 ks (.u4 values)
  | u8 {ks : List TokenKind} {values : List UInt64}
      (elements : Elements (IntegerLiteral .u8) ks values) :
      LeafBody .u8 ks (.u8 values)
  | f4 {ks : List TokenKind} {bits : List UInt32}
      (elements : Elements (FloatLiteral parseF4 isFiniteF4) ks bits) : LeafBody .f4 ks (.f4 bits)
  | f8 {ks : List TokenKind} {bits : List UInt64}
      (elements : Elements (FloatLiteral parseF8 isFiniteF8) ks bits) : LeafBody .f8 ks (.f8 bits)

/-- The optional count behind a type.  If it is there it has to be right, which is checked
against the item once that is complete. -/
inductive Counted : List TokenKind → ℕ → Prop where
  | omitted (count : ℕ) : Counted [] count
  | declared (count : ℕ) (text : Text) : Counted [.lBracket, .int count false text, .rBracket] count

/-- The number of children, of elements or of characters. -/
def elementCount : SecsItem → ℕ
  | .list items => items.length
  | .binary bytes => bytes.length
  | .boolean values => values.length
  | .ascii text => text.bytes.length
  | .jis8 bytes => bytes.length
  | .localized text => text.bytes.length
  | .i8 values => values.length
  | .i1 values => values.length
  | .i2 values => values.length
  | .i4 values => values.length
  | .f8 bits => bits.length
  | .f4 bits => bits.length
  | .u8 values => values.length
  | .u1 values => values.length
  | .u2 values => values.length
  | .u4 values => values.length

/-! ## Items and messages -/

mutual

/-- **The grammar of items**: the tokens stand for the item.  It is defined along the tree and
knows nothing of limits, positions or stacks. -/
inductive ItemTokens : List TokenKind → SecsItem → Prop where
  | list {count ks : List TokenKind} {items : List SecsItem} (counted : Counted count items.length)
      (all : ItemsTokens ks items) :
      ItemTokens (.lt :: .word ItemKind.list.word :: (count ++ (ks ++ [.gt]))) (.list items)
  | leaf {kind : ItemKind} {count ks : List TokenKind} {item : SecsItem}
      (counted : Counted count (elementCount item)) (body : LeafBody kind ks item) :
      ItemTokens (.lt :: .word kind.word :: (count ++ (ks ++ [.gt]))) item

/-- The tokens stand for the items, one after another. -/
inductive ItemsTokens : List TokenKind → List SecsItem → Prop where
  | nil : ItemsTokens [] []
  | cons {ks rest : List TokenKind} {item : SecsItem} {items : List SecsItem}
      (head : ItemTokens ks item) (tail : ItemsTokens rest items) :
      ItemsTokens (ks ++ rest) (item :: items)

end

/-- A run of digits, and its value. -/
def Digits (digits : Text) (value : ℕ) : Prop :=
  digits ≠ [] ∧ (∀ c ∈ digits, c.isDigit = true) ∧ Nat.ofDigitChars 10 digits 0 = value

/-- The word of a header; a stream is at most 127 and a function at most 255. -/
def HeaderWord (word : Text) (stream : Stream) (function : Function) : Prop :=
  ∃ digits digits' : Text, word = 'S' :: (digits ++ 'F' :: digits') ∧
    Digits digits stream.raw.toNat ∧ Digits digits' function.raw.toNat

/-- The optional item of a message. -/
inductive BodyTokens : List TokenKind → Option SecsItem → Prop where
  | absent : BodyTokens [] none
  | item {ks : List TokenKind} {item : SecsItem} (tokens : ItemTokens ks item) :
      BodyTokens ks (some item)

/-- The optional `W`, which says that a reply is expected. -/
def waitBitTokens (waitBit : Bool) : List TokenKind := if waitBit then [.word "W".toList] else []

/-- **The grammar of messages**: the tokens stand for the message.  A header word, the `W` of a
Primary that expects a reply, an item, and the period. -/
inductive MessageTokens : List TokenKind → SmlMessage → Prop where
  | message {word : Text} {stream : Stream} {function : Function} {ks : List TokenKind}
      {body : Option SecsItem} (waitBit : Bool) (header : HeaderWord word stream function)
      (tokens : BodyTokens ks body) :
      MessageTokens (.word word :: (waitBitTokens waitBit ++ (ks ++ [.dot])))
        ⟨stream, function, waitBit, body⟩

/-! ## What a derivation is like -/

section

variable {kind : ItemKind} {ks count : List TokenKind} {item : SecsItem} {items : List SecsItem}

theorem LeafBody.leaf (h : LeafBody kind ks item) : item.isList = false := by
  cases h <;> rfl

theorem LeafBody.kind_ne_list (h : LeafBody kind ks item) : kind ≠ .list := by
  cases h <;> exact fun h => nomatch h

/-- An item starts with its bracket and ends with it. -/
theorem ItemTokens.head (h : ItemTokens ks item) : ∃ rest, ks = .lt :: rest := by
  cases h <;> exact ⟨_, rfl⟩

mutual

/-- **Every item of the tree takes a token.** -/
theorem ItemTokens.nodeCount_le : ∀ {ks : List TokenKind} {item : SecsItem}, ItemTokens ks item →
    item.nodeCount ≤ ks.length
  | _, _, .list counted all => by
    have hchildren := all.preorderAll_le
    rw [SecsItem.nodeCount_list]
    simp only [List.length_cons, List.length_append]
    omega
  | _, _, .leaf counted body => by
    rw [SecsItem.nodeCount_of_leaf body.leaf]
    exact Nat.succ_le_succ (Nat.zero_le _)

theorem ItemsTokens.preorderAll_le : ∀ {ks : List TokenKind} {items : List SecsItem},
    ItemsTokens ks items → (SecsItem.preorderAll items).length ≤ ks.length
  | _, _, .nil => le_refl _
  | _, _, .cons head tail => by
    have hhead := head.nodeCount_le
    have htail := tail.preorderAll_le
    rw [SecsItem.nodeCount] at hhead
    rw [SecsItem.preorderAll, List.length_append, List.length_append]
    omega

end

end

end Sml
end SecsRust

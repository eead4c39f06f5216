import SecsRust.Lib.Loop
import SecsRust.Lib.Result
import SecsRust.Secs2.Codec.Encode
import SecsRust.Sml.Float
import SecsRust.Sml.Scanner

/-!
# The formatter

`sml/formatter.rs`: a tree is first checked, with an explicit stack, for what SML cannot
write, then measured by the encoder, and only then written, with an explicit stack of items
and of closing brackets that are still to come.  The two styles differ in the whitespace
between tokens.

Each kind of literal has a function of its own, as in the source, and `writeItemOpen`
chooses by the type of the item. What Rust prints for a float is a parameter
(`FloatDisplay`).

Capacities are left out; they only reserve memory.  The one `unreachable!` of the source is
`FormatStop.unreachable` here, so that a proof can say that it is never met; a model without
it would have nothing to say.
-/

namespace SecsRust
namespace Sml

open Secs2

/-- `FormatStyle`: the whitespace between the tokens, and nothing else. -/
inductive FormatStyle where
  | compact
  | pretty
  deriving DecidableEq

/-- How formatting can end without a text: it is refused, or it panics. -/
inductive FormatStop where
  | refused (e : FormatError)
  | unreachable
  deriving DecidableEq

/-! ## Literals -/

/-- `Display` of a natural number. -/
def displayNat (n : ℕ) : Text := Nat.toDigits 10 n

/-- `Display` of an integer. -/
def displayInt (n : ℤ) : Text := signText (decide (n < 0)) ++ displayNat n.natAbs

/-- An uppercase hexadecimal digit. -/
def upperHexDigit (n : ℕ) : Char := Char.ofNat (if n < 10 then 0x30 + n else 0x37 + n)

/-- `0x{byte:02X}`: two digits, always. -/
def hexByteText (byte : UInt8) : Text :=
  ['0', 'x', upperHexDigit (byte.toNat / 16), upperHexDigit (byte.toNat % 16)]

/-- `is_quotable_ascii`: a printable character that ends no string and escapes nothing. -/
def isQuotableAscii (byte : UInt8) : Bool :=
  0x20 ≤ byte && byte ≤ 0x7E && byte != 0x22 && byte != 0x5C

/-- `byte as char`, for bytes that are quotable. -/
def byteChar (byte : UInt8) : Char := Char.ofNat byte.toNat

/-- `Display` and `LowerExp` of both float types. -/
structure FloatDisplays where
  f4 : FloatDisplay UInt32
  f8 : FloatDisplay UInt64

/-- `SCIENTIFIC_NOTATION_SWITCH_LENGTH`: a float whose positional form is longer is written in
scientific notation. -/
def scientificNotationSwitchLength : ℕ := 20

/-- The text of one value of `write_float_item`. -/
def floatText {α : Type} (d : FloatDisplay α) (value : α) : Text :=
  let text := (d.display value).text
  let text := if text.length > scientificNotationSwitchLength then (d.lowerExp value).text else text
  if ¬ '.' ∈ text ∧ ¬ ('e' ∈ text ∨ 'E' ∈ text) then text ++ ['.', '0'] else text

/-! ## Leaves -/

/-- The opening of an item: its type and its count. -/
def itemHeader (typeName : String) (count : ℕ) : Text :=
  '<' :: (typeName.toList ++ '[' :: (displayNat count ++ [']']))

/-- The elements of a body, each behind a space. -/
def elementsText {α : Type} (text : α → Text) (values : List α) : Text :=
  values.flatMap fun value => ' ' :: text value

/-- `write_scalar_item`: the header with its count, the literals, and the bracket. -/
def writeScalarItem {α : Type} (typeName : String) (display : α → Text) (values : List α) : Text :=
  itemHeader typeName values.length ++ (elementsText display values ++ ['>'])

/-- `write_float_item`: the literals are floats, for which a fraction may be added. -/
def writeFloatItem {α : Type} (typeName : String) (d : FloatDisplay α) (values : List α) : Text :=
  writeScalarItem typeName (floatText d) values

/-- The loop of `write_ascii_body`; each unit of fuel is one fragment. -/
def writeFragments : ℕ → List UInt8 → Text
  | 0, _ => []
  | _, [] => []
  | fuel + 1, byte :: rest =>
    if isQuotableAscii byte then
      ' ' :: quote :: (((byte :: rest).takeWhile isQuotableAscii).map byteChar ++
        quote :: writeFragments fuel ((byte :: rest).dropWhile isQuotableAscii))
    else ' ' :: (hexByteText byte ++ writeFragments fuel rest)

/-- `write_ascii_body`: quoted fragments, and bytes for what cannot be quoted. -/
def writeAsciiBody (bytes : List UInt8) : Text := writeFragments bytes.length bytes

/-- `write_item_open`: the text that is written, and the children that are still to be written. -/
def writeItemOpen (d : FloatDisplays) : SecsItem → Except FormatStop (Text × Option (List SecsItem))
  | .list children =>
    let header := itemHeader "L" children.length
    if children.isEmpty then .ok (header ++ ['>'], none) else .ok (header, some children)
  | .binary bytes => .ok (writeScalarItem "B" hexByteText bytes, none)
  | .boolean values =>
    .ok (writeScalarItem "BOOLEAN"
      (fun value => if value then "TRUE".toList else "FALSE".toList) values, none)
  | .ascii text => .ok (itemHeader "A" text.bytes.length ++ (writeAsciiBody text.bytes ++ ['>']),
      none)
  | .jis8 _ => .error .unreachable
  | .localized _ => .error .unreachable
  | .i8 values => .ok (writeScalarItem "I8" (fun value => displayInt value.toInt) values, none)
  | .i1 values => .ok (writeScalarItem "I1" (fun value => displayInt value.toInt) values, none)
  | .i2 values => .ok (writeScalarItem "I2" (fun value => displayInt value.toInt) values, none)
  | .i4 values => .ok (writeScalarItem "I4" (fun value => displayInt value.toInt) values, none)
  | .f8 bits => .ok (writeFloatItem "F8" d.f8 bits, none)
  | .f4 bits => .ok (writeFloatItem "F4" d.f4 bits, none)
  | .u8 values => .ok (writeScalarItem "U8" (fun value => displayInt value.toNat) values, none)
  | .u1 values => .ok (writeScalarItem "U1" (fun value => displayInt value.toNat) values, none)
  | .u2 values => .ok (writeScalarItem "U2" (fun value => displayInt value.toNat) values, none)
  | .u4 values => .ok (writeScalarItem "U4" (fun value => displayInt value.toNat) values, none)

/-! ## Checks -/

/-- One turn of the loop of `check_sml_semantics`; the stack has the innermost item first. -/
def semanticsTurn (stack : List (SecsItem × ℕ)) :
    Except FormatError (Turn (List (SecsItem × ℕ)) Unit) :=
  match stack with
  | [] => .ok (.done ())
  | (item, level) :: stack =>
    match item with
    | .jis8 _ => .error (.unsupportedType "Jis8")
    | .localized _ => .error (.unsupportedType "Localized")
    | .f4 bits => do
      ensure (bits.all isFiniteF4) (.nonFiniteFloat "F4")
      return .next stack
    | .f8 bits => do
      ensure (bits.all isFiniteF8) (.nonFiniteFloat "F8")
      return .next stack
    | .list children => do
      ensure (level ≤ maxDecodeNestingDepth) (.depthExceeded level maxDecodeNestingDepth)
      return .next (children.map (fun child => (child, level + 1)) ++ stack)
    | _ => .ok (.next stack)

/-- The items on the stack and below them. -/
def stackNodes (stack : List (SecsItem × ℕ)) : ℕ :=
  (SecsItem.preorderAll (stack.map Prod.fst)).length

theorem stackNodes_cons (item : SecsItem) (level : ℕ) (stack : List (SecsItem × ℕ)) :
    stackNodes ((item, level) :: stack) = item.nodeCount + stackNodes stack := by
  rw [stackNodes, List.map_cons, SecsItem.preorderAll, List.length_append]
  rfl

theorem stackNodes_children (children : List SecsItem) (level : ℕ) (stack : List (SecsItem × ℕ)) :
    stackNodes (children.map (fun child => (child, level)) ++ stack) =
      (SecsItem.preorderAll children).length + stackNodes stack := by
  have hfst : (children.map fun child => (child, level)).map Prod.fst = children := by
    rw [List.map_map]
    exact List.map_id children
  rw [stackNodes, List.map_append, hfst, SecsItem.preorderAll_eq_flatMap, List.flatMap_append,
    List.length_append, ← SecsItem.preorderAll_eq_flatMap, ← SecsItem.preorderAll_eq_flatMap]
  rfl

/-- Every turn takes an item off the stack, and puts its children on it. -/
theorem next_semanticsTurn {stack stack' : List (SecsItem × ℕ)}
    (h : semanticsTurn stack = .ok (.next stack')) : ∃ item level rest,
      stack = (item, level) :: rest ∧
        stack' = item.children.map (fun child => (child, level + 1)) ++ rest := by
  cases stack with
  | nil => cases h
  | cons entry rest =>
    obtain ⟨item, level⟩ := entry
    refine ⟨item, level, rest, rfl, ?_⟩
    cases item with
    | jis8 bytes => cases h
    | localized text => cases h
    | list children | f4 bits | f8 bits =>
      obtain ⟨_, -, h⟩ := bind_eq_ok.mp h
      cases h
      rfl
    | _ =>
      cases h
      rfl

theorem stackNodes_semanticsTurn (stack stack' : List (SecsItem × ℕ))
    (h : semanticsTurn stack = .ok (.next stack')) : stackNodes stack' < stackNodes stack := by
  obtain ⟨item, level, rest, rfl, rfl⟩ := next_semanticsTurn h
  have hnodes : item.nodeCount = (SecsItem.preorderAll item.children).length + 1 := by
    rw [SecsItem.nodeCount, SecsItem.preorder_eq, SecsItem.preorderAll_eq_flatMap]
    rfl
  rw [stackNodes_children, stackNodes_cons, hnodes]
  omega

/-- `check_sml_semantics`: goes over the tree with the level of each item, and fails at the first
that SML cannot say. -/
def checkSmlSemantics (root : SecsItem) : Except FormatError Unit :=
  Loop.run semanticsTurn stackNodes stackNodes_semanticsTurn [(root, 1)]

/-- `validate_and_measure`: whether SML can say it, and then whether it can be encoded. -/
def validateAndMeasure (item : SecsItem) : Except FormatError ℕ := do
  checkSmlSemantics item
  let plan ← (EncodedItemPlan.new item).mapError .notEncodable
  return plan.encodedLength

/-! ## Writing -/

/-- `WorkEntry`: what is still to be written, an item or the bracket of a List. -/
inductive WorkEntry where
  | item (item : SecsItem) (indent : ℕ)
  | closeList (indent : ℕ)

/-- `write_line_start`: a new line, with two spaces for each level. -/
def writeLineStart (indent : ℕ) : Text := '\n' :: (List.replicate indent [' ', ' ']).flatten

/-- The state of the loop of `write_item_text`; the stack has the entry that pops next first. -/
structure Writer where
  out : Text
  atFirstToken : Bool
  stack : List WorkEntry

/-- The gap before an item that is not the first. -/
def itemGap (pretty : Bool) (indent : ℕ) : Text := if pretty then writeLineStart indent else [' ']

/-- What is written for a list that closes. -/
def closeText (pretty : Bool) (indent : ℕ) : Text :=
  (if pretty then writeLineStart indent else []) ++ ['>']

/-- One turn of the loop of `write_item_text`. -/
def writeTurn (d : FloatDisplays) (pretty : Bool) (w : Writer) :
    Except FormatStop (Turn Writer Text) :=
  match w.stack with
  | [] => .ok (.done w.out)
  | .closeList indent :: stack =>
    .ok (.next ⟨w.out ++ closeText pretty indent, w.atFirstToken, stack⟩)
  | .item item indent :: stack => do
    let gap := if w.atFirstToken then [] else itemGap pretty indent
    let (text, children) ← writeItemOpen d item
    match children with
    | some children =>
      let childIndent := saturatingAdd indent 1
      return .next ⟨w.out ++ (gap ++ text), false,
        children.map (fun child => .item child childIndent) ++ .closeList indent :: stack⟩
    | none => return .next ⟨w.out ++ (gap ++ text), false, stack⟩

/-- An item is popped once and closed at most once. -/
def WorkEntry.size : WorkEntry → ℕ
  | .item root _ => 2 * root.nodeCount
  | .closeList _ => 1

/-- The turns that are left. -/
def Writer.size (w : Writer) : ℕ := (w.stack.map WorkEntry.size).sum

theorem sum_size_children (children : List SecsItem) (indent : ℕ) :
    ((children.map fun child => WorkEntry.item child indent).map WorkEntry.size).sum =
      2 * (SecsItem.preorderAll children).length := by
  induction children with
  | nil => rfl
  | cons child children ih =>
    rw [List.map_cons, List.map_cons, List.sum_cons, ih, SecsItem.preorderAll, List.length_append]
    show 2 * child.nodeCount + _ = _
    rw [SecsItem.nodeCount]
    omega

theorem writeItemOpen_children {d : FloatDisplays} {item : SecsItem} {text : Text}
    {children : List SecsItem} (h : writeItemOpen d item = .ok (text, some children)) :
    item = .list children := by
  cases item with
  | list items =>
    unfold writeItemOpen at h
    dsimp only at h
    split at h <;> cases h
    rfl
  | _ => cases h

theorem size_writeTurn {d : FloatDisplays} {pretty : Bool} (w w' : Writer)
    (h : writeTurn d pretty w = .ok (.next w')) : w'.size < w.size := by
  obtain ⟨out, first, stack⟩ := w
  cases stack with
  | nil => cases h
  | cons entry stack =>
    cases entry with
    | closeList indent =>
      cases h
      exact Nat.lt_add_of_pos_left Nat.one_pos
    | item item indent =>
      obtain ⟨⟨text, children⟩, hopen, h⟩ := bind_eq_ok.mp h
      cases children with
      | none =>
        cases h
        have hpos := item.nodeCount_pos
        show (stack.map WorkEntry.size).sum < 2 * item.nodeCount + (stack.map WorkEntry.size).sum
        omega
      | some children =>
        cases h
        obtain rfl := writeItemOpen_children hopen
        show ((children.map (fun child => WorkEntry.item child _) ++ .closeList indent :: stack).map
          WorkEntry.size).sum <
            2 * (SecsItem.list children).nodeCount + (stack.map WorkEntry.size).sum
        rw [List.map_append, List.sum_append, sum_size_children, SecsItem.nodeCount_list]
        show _ + (1 + (stack.map WorkEntry.size).sum) < _
        omega

/-- `write_item_text`: writes a tree from a work stack, behind what the output holds. -/
def writeItemText (d : FloatDisplays) (pretty : Bool) (out : Text) (root : SecsItem) :
    Except FormatStop Text :=
  Loop.run (writeTurn d pretty) Writer.size size_writeTurn ⟨out, true, [.item root 0]⟩

/-- `render_root`: the text of an item by itself. -/
def renderRoot (d : FloatDisplays) (style : FormatStyle) (root : SecsItem) :
    Except FormatStop Text :=
  writeItemText d (decide (style = .pretty)) [] root

/-- `SmlFormatter::format_item`: everything is checked before the first character is written. -/
def formatItem (d : FloatDisplays) (style : FormatStyle) (item : SecsItem) :
    Except FormatStop Text := do
  let _ ← (validateAndMeasure item).mapError .refused
  renderRoot d style item

/-- The header of a message, with its `W`. -/
def messageHeader (message : SmlMessage) : Text :=
  'S' :: (displayNat message.stream.raw.toNat ++ 'F' :: (displayNat message.function.raw.toNat ++
    if message.waitBit then [' ', 'W'] else []))

/-- `SmlFormatter::format_message`: the header, the body if there is one, and a period. -/
def formatMessage (d : FloatDisplays) (style : FormatStyle) (message : SmlMessage) :
    Except FormatStop Text := do
  match message.body with
  | some body =>
    let _ ← (validateAndMeasure body).mapError .refused
    let out ← writeItemText d (decide (style = .pretty)) (messageHeader message ++ [' ']) body
    return out ++ ['.']
  | none => return messageHeader message ++ ['.']

end Sml
end SecsRust

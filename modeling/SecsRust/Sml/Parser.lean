import SecsRust.Lib.Frames
import SecsRust.Lib.Loop
import SecsRust.Lib.Result
import SecsRust.Sml.Float
import SecsRust.Sml.Scanner

/-!
# The parser

`sml/parser.rs`: the strict grammar over a token cursor with one token of lookahead, which
scans on demand.  Open Lists are frames on an explicit stack; the bodies of the other types
are loops over their elements.  Limits and declared counts are checked before the element or
the child they are about is read.

The functions stand in the order of the calls: tokens on demand, header words, types and
counts, the bodies of leaves, the beginning of an item, and the loop over the stack, which
is `FrameReader.run` with the steps of the source.  Every check reports the position of the
token that it is about, and where there is no token, the end of the text.

The loop starts an item for each opening bracket and every item takes its bracket, so it
ends within as many turns as there are tokens left, and it reads what the recursion reads
(`parseRootItem_eq_ok`).  What it accepts is the subject of `Sml/Accept.lean`, and when it
has read enough to fail that of `Sml/Traced.lean`.
-/

namespace SecsRust
namespace Sml

open Secs2

/-! ## Tokens on demand -/

/-- `TokenCursor`: a scanner with at most one token that has been looked at. -/
structure TokenCursor where
  scanner : Scanner
  lookahead : Option Token

namespace TokenCursor

/-- `TokenCursor::new`: nothing has been looked at. -/
def new (scanner : Scanner) : TokenCursor := ⟨scanner, none⟩

/-- `peek`: the next token, which stays.  It is scanned the first time it is looked at. -/
def peek (c : TokenCursor) : Except ParseError (Option Token × TokenCursor) :=
  match c.lookahead with
  | some token => .ok (some token, c)
  | none => c.scanner.nextToken.map fun (found, scanner) => (found, ⟨scanner, found⟩)

/-- `next`: the next token, which is gone. -/
def next (c : TokenCursor) : Except ParseError (Option Token × TokenCursor) :=
  match c.lookahead with
  | some token => .ok (some token, { c with lookahead := none })
  | none => c.scanner.nextToken.map fun (found, scanner) => (found, ⟨scanner, none⟩)

/-- `eof_pos`: the place where a token is missing. -/
def eofPos (c : TokenCursor) : SourcePos := c.scanner.currentPos

/-- A bound on the tokens that can follow. -/
def size (c : TokenCursor) : ℕ := c.scanner.rest.length + c.lookahead.toList.length

variable {c c' : TokenCursor}

theorem size_next {token : Token} (h : c.next = .ok (some token, c')) : c'.size < c.size := by
  obtain ⟨scanner, lookahead⟩ := c
  cases lookahead with
  | some buffered =>
    cases h
    exact Nat.lt_succ_self _
  | none =>
    unfold next at h
    dsimp only at h
    cases hnext : scanner.nextToken with
    | error e => rw [hnext] at h; cases h
    | ok result =>
      obtain ⟨found, scanner'⟩ := result
      rw [hnext] at h
      cases h
      exact Scanner.length_nextToken hnext

theorem size_next_le {found : Option Token} (h : c.next = .ok (found, c')) : c'.size ≤ c.size := by
  cases found with
  | some token => exact Nat.le_of_lt (size_next h)
  | none =>
    obtain ⟨scanner, lookahead⟩ := c
    cases lookahead with
    | some buffered => cases h
    | none =>
      unfold next at h
      dsimp only at h
      cases hnext : scanner.nextToken with
      | error e => rw [hnext] at h; cases h
      | ok result =>
        obtain ⟨found, scanner'⟩ := result
        rw [hnext] at h
        cases h
        exact Scanner.length_nextToken_none hnext

theorem size_peek {found : Option Token} (h : c.peek = .ok (found, c')) : c'.size ≤ c.size := by
  obtain ⟨scanner, lookahead⟩ := c
  cases lookahead with
  | some buffered =>
    cases h
    exact le_refl _
  | none =>
    unfold peek at h
    dsimp only at h
    cases hnext : scanner.nextToken with
    | error e => rw [hnext] at h; cases h
    | ok result =>
      obtain ⟨found', scanner'⟩ := result
      rw [hnext] at h
      cases h
      cases found' with
      | some token => exact Scanner.length_nextToken hnext
      | none => exact Scanner.length_nextToken_none hnext

end TokenCursor

/-- `describe_kind`: what an error calls a token that it has not expected. -/
def describeKind : TokenKind → Text
  | .word word => "word ".toList ++ quote :: word ++ [quote]
  | .str _ => "quoted ASCII string".toList
  | .hexByte _ _ => "hexadecimal byte".toList
  | .int _ _ _ => "integer literal".toList
  | .float _ => "floating-point literal".toList
  | .lt => "<".toList
  | .gt => ">".toList
  | .lBracket => "[".toList
  | .rBracket => "]".toList
  | .dot => ".".toList

/-- `unexpected`, for what was found instead: a token, or the end of the input. -/
def unexpected (expected : String) (found : Option Token) (c : TokenCursor) : ParseError :=
  match found with
  | some token => .unexpectedToken token.pos expected (describeKind token.kind)
  | none => .unexpectedToken c.eofPos expected "end of input".toList

/-- `trailing_preview`: the first twenty characters of what follows the end. -/
def trailingPreview (input : Text) (pos : SourcePos) : Text := (input.drop pos.offset).take 20

/-! ## Headers -/

/-- The value of a run of digits; one that overflows a `u64` saturates. -/
def digitsValue (digits : Text) : ℕ :=
  (digits.foldlM (fun value digit =>
    (checkedMul value 10).bind fun value => checkedAdd value
    (digit.toNat - '0'.toNat)) 0).getD usizeMax

/-- `digit_run`: the value, and the text behind the run. -/
def digitRun (text : Text) : Option (ℕ × Text) :=
  let digits := text.takeWhile Char.isDigit
  if digits = [] then none else some (digitsValue digits, text.dropWhile Char.isDigit)

/-- `parse_header_word`: stream and function. -/
def parseHeaderWord : Text → Option (ℕ × ℕ)
  | 'S' :: text => do
    let (stream, afterStream) ← digitRun text
    match afterStream with
    | 'F' :: text =>
      let (function, afterFunction) ← digitRun text
      if afterFunction = [] then some (stream, function) else none
    | _ => none
  | _ => none

/-! ## Types -/

/-- `ItemKind`: the types of SML, which are the formats that it can say. -/
inductive ItemKind where
  | list
  | binary
  | boolean
  | ascii
  | i1
  | i2
  | i4
  | i8
  | u1
  | u2
  | u4
  | u8
  | f4
  | f8
  deriving DecidableEq

/-- `classify_item_type`: the type that a word names. -/
def classifyItemType (word : Text) (pos : SourcePos) : Except ParseError ItemKind :=
  if word = "L".toList then .ok .list
  else if word = "B".toList then .ok .binary
  else if word = "BOOLEAN".toList then .ok .boolean
  else if word = "A".toList then .ok .ascii
  else if word = "I1".toList then .ok .i1
  else if word = "I2".toList then .ok .i2
  else if word = "I4".toList then .ok .i4
  else if word = "I8".toList then .ok .i8
  else if word = "U1".toList then .ok .u1
  else if word = "U2".toList then .ok .u2
  else if word = "U4".toList then .ok .u4
  else if word = "U8".toList then .ok .u8
  else if word = "F4".toList then .ok .f4
  else if word = "F8".toList then .ok .f8
  else if word = "J".toList ∨ word = "JIS8".toList then .error (.unsupportedType pos word)
  else .error (.unknownType pos word)

/-- `IntegerElement`: a type of elements with the conversion from a scanned integer, which accepts
exactly the values of the type. -/
structure IntegerElement (α : Type) where
  target : String
  width : ℕ
  toInt : α → ℤ
  fromScanned : ℤ → Option α
  fromScanned_eq_some : ∀ n v, fromScanned n = some v ↔ toInt v = n

namespace IntegerElement

/-- A type that is a range of integers; `try_from` accepts exactly that range. -/
def ofRange {α : Type} (target : String) (width : ℕ) (low high : ℤ) (toInt : α → ℤ) (ofInt : ℤ → α)
    (bounds : ∀ v, low ≤ toInt v ∧ toInt v ≤ high) (ofInt_toInt : ∀ v, ofInt (toInt v) = v)
    (toInt_ofInt : ∀ n, low ≤ n → n ≤ high → toInt (ofInt n) = n) : IntegerElement α where
  target := target
  width := width
  toInt := toInt
  fromScanned n := if low ≤ n ∧ n ≤ high then some (ofInt n) else none
  fromScanned_eq_some n v := by
    constructor
    · intro h
      split at h
      · rename_i hrange
        obtain rfl := Option.some.inj h
        exact toInt_ofInt n hrange.1 hrange.2
      · cases h
    · rintro rfl
      rw [if_pos (bounds v), ofInt_toInt]

/-- `i8`, by its range. -/
def i1 : IntegerElement Int8 :=
  ofRange "I1" 1 (-2 ^ 7) (2 ^ 7 - 1) Int8.toInt Int8.ofInt
    (fun v => ⟨v.le_toInt, Int.le_sub_one_of_lt v.toInt_lt⟩) (fun v => v.ofInt_toInt)
    (fun _ hlow hhigh => Int8.toInt_ofInt_of_le hlow (Int.lt_of_le_sub_one hhigh))

/-- `i16`, by its range. -/
def i2 : IntegerElement Int16 :=
  ofRange "I2" 2 (-2 ^ 15) (2 ^ 15 - 1) Int16.toInt Int16.ofInt
    (fun v => ⟨v.le_toInt, Int.le_sub_one_of_lt v.toInt_lt⟩) (fun v => v.ofInt_toInt)
    (fun _ hlow hhigh => Int16.toInt_ofInt_of_le hlow (Int.lt_of_le_sub_one hhigh))

/-- `i32`, by its range. -/
def i4 : IntegerElement Int32 :=
  ofRange "I4" 4 (-2 ^ 31) (2 ^ 31 - 1) Int32.toInt Int32.ofInt
    (fun v => ⟨v.le_toInt, Int.le_sub_one_of_lt v.toInt_lt⟩) (fun v => v.ofInt_toInt)
    (fun _ hlow hhigh => Int32.toInt_ofInt_of_le hlow (Int.lt_of_le_sub_one hhigh))

/-- `i64`, by its range. -/
def i8 : IntegerElement Int64 :=
  ofRange "I8" 8 (-2 ^ 63) (2 ^ 63 - 1) Int64.toInt Int64.ofInt
    (fun v => ⟨v.le_toInt, Int.le_sub_one_of_lt v.toInt_lt⟩) (fun v => v.ofInt_toInt)
    (fun _ hlow hhigh => Int64.toInt_ofInt_of_le hlow (Int.lt_of_le_sub_one hhigh))

/-- `u8`, by its range. -/
def u1 : IntegerElement UInt8 :=
  ofRange "U1" 1 0 (2 ^ 8 - 1) (fun v => v.toNat) (fun n => UInt8.ofNat n.toNat)
    (fun v => ⟨Int.natCast_nonneg _, by have := v.toNat_lt; omega⟩)
    (fun _ => UInt8.ofNat_toNat)
    (fun n hlow hhigh => by
      rw [UInt8.toNat_ofNat_of_lt' (show n.toNat < 2 ^ 8 by omega), Int.toNat_of_nonneg hlow])

/-- `u16`, by its range. -/
def u2 : IntegerElement UInt16 :=
  ofRange "U2" 2 0 (2 ^ 16 - 1) (fun v => v.toNat) (fun n => UInt16.ofNat n.toNat)
    (fun v => ⟨Int.natCast_nonneg _, by have := v.toNat_lt; omega⟩)
    (fun _ => UInt16.ofNat_toNat)
    (fun n hlow hhigh => by
      rw [UInt16.toNat_ofNat_of_lt' (show n.toNat < 2 ^ 16 by omega), Int.toNat_of_nonneg hlow])

/-- `u32`, by its range. -/
def u4 : IntegerElement UInt32 :=
  ofRange "U4" 4 0 (2 ^ 32 - 1) (fun v => v.toNat) (fun n => UInt32.ofNat n.toNat)
    (fun v => ⟨Int.natCast_nonneg _, by have := v.toNat_lt; omega⟩)
    (fun _ => UInt32.ofNat_toNat)
    (fun n hlow hhigh => by
      rw [UInt32.toNat_ofNat_of_lt' (show n.toNat < 2 ^ 32 by omega), Int.toNat_of_nonneg hlow])

/-- `u64`, by its range. -/
def u8 : IntegerElement UInt64 :=
  ofRange "U8" 8 0 (2 ^ 64 - 1) (fun v => v.toNat) (fun n => UInt64.ofNat n.toNat)
    (fun v => ⟨Int.natCast_nonneg _, by have := v.toNat_lt; omega⟩)
    (fun _ => UInt64.ofNat_toNat)
    (fun n hlow hhigh => by
      rw [UInt64.toNat_ofNat_of_lt' (show n.toNat < 2 ^ 64 by omega), Int.toNat_of_nonneg hlow])

end IntegerElement

/-! ## Scalar bodies -/

section

variable (limits : DecodeLimits) (typePos : SourcePos) (declared : Option ℕ)

/-- `check_declared_bytes`: a count that promises too many bytes is refused before the first
element. -/
def checkDeclaredBytes (width : ℕ) : Except ParseError Unit :=
  match declared with
  | some count =>
    ensure (saturatingMul count width ≤ limits.maxItemBytes)
      (.itemBytesExceeded typePos (saturatingMul count width) limits.maxItemBytes)
  | none => .ok ()

/-- `admit_body_element`: the bytes and the count with one more element, before it is converted. -/
def admitBodyElement (bodyBytes elementCount elementBytes elementGain : ℕ) :
    Except ParseError ℕ := do
  let projected := saturatingAdd bodyBytes elementBytes
  ensure (projected ≤ limits.maxItemBytes)
    (.itemBytesExceeded typePos projected limits.maxItemBytes)
  match declared with
  | some count =>
    let nextCount := saturatingAdd elementCount elementGain
    ensure (nextCount ≤ count) (.countMismatch typePos count nextCount)
    return projected
  | none => return projected

/-- `check_declared_count`: the count that was declared is the one that was found. -/
def checkDeclaredCount (actual : ℕ) : Except ParseError Unit :=
  match declared with
  | some count => ensure (count = actual) (.countMismatch typePos count actual)
  | none => .ok ()

/-- The state of a body loop: the cursor, the values so far, and their bytes. -/
structure BodyState (α : Type) where
  tokens : TokenCursor
  values : List α
  bodyBytes : ℕ

/-- One turn of a body loop whose elements have one width.  `element` is what a token is as an
element: nothing if its category is wrong, otherwise the outcome of its conversion, which is looked
at after the element has been admitted. -/
def bodyTurn {α : Type} (expected : String) (width : ℕ)
    (element : Token → Option (Except ParseError α)) (s : BodyState α) :
    Except ParseError (Turn (BodyState α) (List α × TokenCursor)) := do
  let (found, tokens) ← s.tokens.next
  match found with
  | some token =>
    if token.kind = .gt then
      checkDeclaredCount typePos declared s.values.length
      return .done (s.values, tokens)
    else
      match element token with
      | some converted =>
        let bodyBytes ← admitBodyElement limits typePos declared s.bodyBytes s.values.length width 1
        let value ← converted
        return .next ⟨tokens, s.values ++ [value], bodyBytes⟩
      | none => .error (unexpected expected found tokens)
  | none => .error (unexpected expected found tokens)

/-- One turn of the loop of `parse_ascii_body`; the characters are the bytes and the elements. -/
def asciiTurn (s : BodyState UInt8) :
    Except ParseError (Turn (BodyState UInt8) (List UInt8 × TokenCursor)) := do
  let (found, tokens) ← s.tokens.next
  match found with
  | some ⟨.gt, _⟩ =>
    checkDeclaredCount typePos declared s.bodyBytes
    return .done (s.values, tokens)
  | some ⟨.str fragment, _⟩ =>
    let added := fragment.length
    let charCount ← admitBodyElement limits typePos declared s.bodyBytes s.bodyBytes added added
    return .next ⟨tokens, s.values ++ fragment.map fun c => UInt8.ofNat c.toNat, charCount⟩
  | some ⟨.hexByte value _, pos⟩ =>
    let charCount ← admitBodyElement limits typePos declared s.bodyBytes s.bodyBytes 1 1
    ensure (value ≤ 0x7F) (.invalidAsciiByte pos value)
    return .next ⟨tokens, s.values ++ [value], charCount⟩
  | found => .error (unexpected "a quoted string or 0xHH byte" found tokens)

variable {limits typePos declared}

theorem size_bodyTurn {α : Type} {expected : String} {width : ℕ}
    {element : Token → Option (Except ParseError α)} (s s' : BodyState α)
    (h : bodyTurn limits typePos declared expected width element s = .ok (.next s')) :
    s'.tokens.size < s.tokens.size := by
  obtain ⟨⟨found, tokens⟩, hnext, h⟩ := bind_eq_ok.mp h
  dsimp only at h
  split at h
  · split at h
    · obtain ⟨-, -, h⟩ := bind_eq_ok.mp h
      cases h
    · split at h
      · obtain ⟨bodyBytes, -, h⟩ := bind_eq_ok.mp h
        obtain ⟨value, -, h⟩ := bind_eq_ok.mp h
        cases h
        exact TokenCursor.size_next hnext
      · cases h
  · cases h

theorem size_asciiTurn (s s' : BodyState UInt8)
    (h : asciiTurn limits typePos declared s = .ok (.next s')) :
    s'.tokens.size < s.tokens.size := by
  obtain ⟨⟨found, tokens⟩, hnext, h⟩ := bind_eq_ok.mp h
  dsimp only at h
  split at h
  · obtain ⟨-, -, h⟩ := bind_eq_ok.mp h
    cases h
  · obtain ⟨charCount, -, h⟩ := bind_eq_ok.mp h
    cases h
    exact TokenCursor.size_next hnext
  · obtain ⟨charCount, -, h⟩ := bind_eq_ok.mp h
    obtain ⟨-, -, h⟩ := bind_eq_ok.mp h
    cases h
    exact TokenCursor.size_next hnext
  · cases h

variable (limits typePos declared)

/-- A body whose elements have one width. -/
def parseBody {α : Type} (expected : String) (width : ℕ)
    (element : Token → Option (Except ParseError α)) (tokens : TokenCursor) :
    Except ParseError (List α × TokenCursor) := do
  checkDeclaredBytes limits typePos declared width
  Loop.run (bodyTurn limits typePos declared expected width element) (fun s => s.tokens.size)
    size_bodyTurn ⟨tokens, [], 0⟩

/-- An element of a binary body. -/
def binaryElement (token : Token) : Option (Except ParseError UInt8) :=
  match token.kind with
  | .hexByte value _ => some (.ok value)
  | _ => none

/-- `parse_binary_body`: a body of bytes. -/
def parseBinaryBody : TokenCursor → Except ParseError (List UInt8 × TokenCursor) :=
  parseBody limits typePos declared "a 0xHH byte" 1 binaryElement

/-- An element of a Boolean body. -/
def booleanElement (token : Token) : Option (Except ParseError Bool) :=
  match token.kind with
  | .word word =>
    if word = "TRUE".toList then some (.ok true)
    else if word = "FALSE".toList then some (.ok false)
    else some (.error (.invalidBoolean token.pos word))
  | _ => none

/-- `parse_boolean_body`: a body of the two words for truth values. -/
def parseBooleanBody : TokenCursor → Except ParseError (List Bool × TokenCursor) :=
  parseBody limits typePos declared "TRUE or FALSE" 1 booleanElement

/-- The conversion of an integer literal. -/
def convertInteger {α : Type} (e : IntegerElement α) (pos : SourcePos) (value : ℤ) (text : Text) :
    Except ParseError α :=
  match e.fromScanned value with
  | some element => .ok element
  | none => .error (.integerOverflow pos text e.target)

/-- An element of an integer body. -/
def integerElement {α : Type} (e : IntegerElement α) (token : Token) :
    Option (Except ParseError α) :=
  match token.kind with
  | .int value _ text => some (convertInteger e token.pos value text)
  | .hexByte value text => some (convertInteger e token.pos value.toNat text)
  | _ => none

/-- `parse_integer_body`: a body of integers in the range of their type. -/
def parseIntegerBody {α : Type} (e : IntegerElement α) :
    TokenCursor → Except ParseError (List α × TokenCursor) :=
  parseBody limits typePos declared "an integer literal" e.width (integerElement e)

/-- An element of a floating-point body. -/
def floatElement {α : Type} (target : String) (convert : Text → Option α) (token : Token) :
    Option (Except ParseError α) :=
  match token.kind with
  | .float text =>
    match convert text with
    | some value => some (.ok value)
    | none => some (.error (.nonFiniteFloat token.pos text target))
  | _ => none

/-- `parse_float_body`: a body of floats that are finite in their type. -/
def parseFloatBody {α : Type} (target : String) (width : ℕ) (convert : Text → Option α) :
    TokenCursor → Except ParseError (List α × TokenCursor) :=
  parseBody limits typePos declared "a floating-point literal" width (floatElement target convert)

/-- `parse_ascii_body`; the bytes are seven-bit, so the conversion at the end succeeds. -/
def parseAsciiBody (tokens : TokenCursor) : Except ParseError (AsciiString × TokenCursor) := do
  checkDeclaredBytes limits typePos declared 1
  let (bytes, tokens) ← Loop.run (asciiTurn limits typePos declared) (fun s => s.tokens.size)
    size_asciiTurn ⟨tokens, [], 0⟩
  if h : allAscii bytes then return (⟨bytes, ascii_of_allAscii h⟩, tokens)
  else throw (.invalidAsciiByte typePos 0)

end

/-! ## Items -/

/-- What a `ListFrame` knows of its List; its children are in the `Frame`. -/
structure OpenedList where
  declaredCount : Option ℕ
  typePos : SourcePos

/-- The open Lists, innermost first. -/
abbrev ListStack := List (Frame OpenedList SecsItem)

/-- `ItemCursor`, without the stack of List frames, which the loop holds. -/
structure ItemCursor where
  tokens : TokenCursor
  limits : DecodeLimits
  nodeCount : ℕ

/-- `parse_declared_count`: a count between square brackets, or nothing. -/
def parseDeclaredCount (tokens : TokenCursor) : Except ParseError (Option ℕ × TokenCursor) := do
  let (found, tokens) ← tokens.peek
  match found with
  | some ⟨.lBracket, bracketPos⟩ =>
    let (_, tokens) ← tokens.next
    let (found, tokens) ← tokens.next
    match found with
    | some ⟨.int value false _, _⟩ =>
      ensure (0 ≤ value ∧ value ≤ usizeMax) (.invalidCount bracketPos)
      let (found, tokens) ← tokens.next
      match found with
      | some ⟨.rBracket, _⟩ => return (some value.toNat, tokens)
      | found => .error (unexpected "']'" found tokens)
    | _ => .error (.invalidCount bracketPos)
  | _ => return (none, tokens)

namespace ItemCursor

/-- `ItemCursor::new`: no item has been counted. -/
def new (tokens : TokenCursor) (limits : DecodeLimits) : ItemCursor := ⟨tokens, limits, 0⟩

/-- A complete item that is not a List, behind its body. -/
def finished {α : Type} (s : ItemCursor) (item : α → SecsItem)
    (body : TokenCursor → Except ParseError (α × TokenCursor)) :
    Except ParseError (Started OpenedList SecsItem × ItemCursor) := do
  let (value, tokens) ← body s.tokens
  return (.leaf (item value), { s with tokens := tokens })

/-- `parse_one_item` behind the count: it opens a List, or reads the body of a leaf. -/
def startBody (s : ItemCursor) (typePos : SourcePos) (declared : Option ℕ) :
    ItemKind → Except ParseError (Started OpenedList SecsItem × ItemCursor)
  | .list => do
    ensure (∀ count ∈ declared, count ≤ s.limits.maxListItems)
      (.listItemsExceeded typePos s.limits.maxListItems)
    return (.opened ⟨declared, typePos⟩, s)
  | .binary => s.finished .binary (parseBinaryBody s.limits typePos declared)
  | .boolean => s.finished .boolean (parseBooleanBody s.limits typePos declared)
  | .ascii => s.finished .ascii (parseAsciiBody s.limits typePos declared)
  | .i1 => s.finished .i1 (parseIntegerBody s.limits typePos declared .i1)
  | .i2 => s.finished .i2 (parseIntegerBody s.limits typePos declared .i2)
  | .i4 => s.finished .i4 (parseIntegerBody s.limits typePos declared .i4)
  | .i8 => s.finished .i8 (parseIntegerBody s.limits typePos declared .i8)
  | .u1 => s.finished .u1 (parseIntegerBody s.limits typePos declared .u1)
  | .u2 => s.finished .u2 (parseIntegerBody s.limits typePos declared .u2)
  | .u4 => s.finished .u4 (parseIntegerBody s.limits typePos declared .u4)
  | .u8 => s.finished .u8 (parseIntegerBody s.limits typePos declared .u8)
  | .f4 => s.finished .f4 (parseFloatBody s.limits typePos declared "F4" 4 fun text =>
      (parseF4 text).filter isFiniteF4)
  | .f8 => s.finished .f8 (parseFloatBody s.limits typePos declared "F8" 8 fun text =>
      (parseF8 text).filter isFiniteF8)

/-- `parse_one_item`: the bracket, the type and the count of an item, and the body unless it is a
List. -/
def parseOneItem (stack : ListStack) (s : ItemCursor) :
    Except ParseError (Started OpenedList SecsItem × ItemCursor) := do
  let (found, tokens) ← s.tokens.next
  match found with
  | some ⟨.lt, ltPos⟩ =>
    let nodeCount := saturatingAdd s.nodeCount 1
    ensure (nodeCount ≤ s.limits.maxTotalItems) (.totalItemsExceeded ltPos s.limits.maxTotalItems)
    let (found, tokens) ← tokens.next
    match found with
    | some ⟨.word typeWord, typePos⟩ =>
      let kind ← classifyItemType typeWord typePos
      ensure (kind = .list → stack.length + 1 ≤ s.limits.maxDepth)
        (.depthExceeded ltPos (stack.length + 1) s.limits.maxDepth)
      let (declared, tokens) ← parseDeclaredCount tokens
      startBody { s with tokens := tokens, nodeCount := nodeCount } typePos declared kind
    | found => .error (unexpected "an item type such as L or A" found tokens)
  | found => .error (unexpected "an item" found tokens)

/-- `admit_list_child`: there is room for one more child, under the limit and under the count. -/
def admitListChild (limits : DecodeLimits) (frame : Frame OpenedList SecsItem) :
    Except ParseError Unit := do
  let nextCount := saturatingAdd frame.children.length 1
  ensure (nextCount ≤ limits.maxListItems)
    (.listItemsExceeded frame.header.typePos limits.maxListItems)
  match frame.header.declaredCount with
  | some declared =>
    ensure (nextCount ≤ declared) (.countMismatch frame.header.typePos declared nextCount)
  | none => return ()

/-- The check of `attach`, once the frame has received its child. -/
def checkAttached (limits : DecodeLimits) (frame : Frame OpenedList SecsItem) :
    Except ParseError Unit :=
  ensure (frame.header.declaredCount = none → frame.children.length ≤ limits.maxListItems)
    (.listItemsExceeded frame.header.typePos limits.maxListItems)

/-- The List body of `parse_root_item`: another child starts, or the innermost List is closed.  A
List that has just been opened has no children, and passes the check of `attach`. -/
def nextChild (frame : Frame OpenedList SecsItem) (_ : ListStack) (s : ItemCursor) :
    Except ParseError (Bool × ItemCursor) := do
  checkAttached s.limits frame
  let (found, tokens) ← s.tokens.peek
  match found with
  | some ⟨.lt, _⟩ =>
    admitListChild s.limits frame
    return (true, { s with tokens := tokens })
  | some ⟨.gt, _⟩ =>
    let (_, tokens) ← tokens.next
    checkDeclaredCount frame.header.typePos frame.header.declaredCount frame.children.length
    return (false, { s with tokens := tokens })
  | found => .error (unexpected "an item or '>'" found tokens)

/-- The parser as a reader of frames. -/
def reader : FrameReader ItemCursor OpenedList SecsItem ParseError where
  start := parseOneItem
  next := nextChild
  node := .list

end ItemCursor

/-! ## The end of the loop -/

section

variable {limits : DecodeLimits} {typePos : SourcePos} {declared : Option ℕ}
  {tokens tokens' : TokenCursor}

theorem done_bodyTurn {α : Type} {expected : String} {width : ℕ}
    {element : Token → Option (Except ParseError α)} {s : BodyState α} {values : List α}
    (h : bodyTurn limits typePos declared expected width element s = .ok (.done (values, tokens))) :
    ∃ token, s.tokens.next = .ok (some token, tokens) ∧ token.kind = .gt ∧ values = s.values ∧
      checkDeclaredCount typePos declared s.values.length = .ok () := by
  obtain ⟨⟨found, next⟩, hnext, h⟩ := bind_eq_ok.mp h
  dsimp only at h
  split at h
  · rename_i token
    split at h
    · rename_i hgt
      obtain ⟨_, hcount, h⟩ := bind_eq_ok.mp h
      cases h
      exact ⟨token, hnext, hgt, rfl, hcount⟩
    · split at h
      · obtain ⟨bodyBytes, -, h⟩ := bind_eq_ok.mp h
        obtain ⟨value, -, h⟩ := bind_eq_ok.mp h
        cases h
      · cases h
  · cases h

theorem done_asciiTurn {s : BodyState UInt8} {values : List UInt8}
    (h : asciiTurn limits typePos declared s = .ok (.done (values, tokens))) :
    ∃ token, s.tokens.next = .ok (some token, tokens) ∧ token.kind = .gt ∧ values = s.values ∧
      checkDeclaredCount typePos declared s.bodyBytes = .ok () := by
  obtain ⟨⟨found, next⟩, hnext, h⟩ := bind_eq_ok.mp h
  dsimp only at h
  split at h
  · obtain ⟨_, hcount, h⟩ := bind_eq_ok.mp h
    cases h
    exact ⟨_, hnext, rfl, rfl, hcount⟩
  · obtain ⟨charCount, -, h⟩ := bind_eq_ok.mp h
    cases h
  · obtain ⟨charCount, -, h⟩ := bind_eq_ok.mp h
    obtain ⟨-, -, h⟩ := bind_eq_ok.mp h
    cases h
  · cases h

theorem size_parseBody {α : Type} {expected : String} {width : ℕ}
    {element : Token → Option (Except ParseError α)} {values : List α}
    (h : parseBody limits typePos declared expected width element tokens = .ok (values, tokens')) :
    tokens'.size ≤ tokens.size := by
  obtain ⟨-, -, h⟩ := bind_eq_ok.mp h
  refine Loop.run_rule (P := fun s => s.tokens.size ≤ tokens.size)
    (Q := fun result => result.2.size ≤ tokens.size) size_bodyTurn ?_ ?_ (le_refl tokens.size) h
  · intro s s' hs hturn
    exact (Nat.le_of_lt (size_bodyTurn s s' hturn)).trans hs
  · rintro s ⟨values, final⟩ hs hturn
    obtain ⟨token, hnext, -⟩ := done_bodyTurn hturn
    exact (TokenCursor.size_next_le hnext).trans hs

theorem size_parseAsciiBody {text : AsciiString}
    (h : parseAsciiBody limits typePos declared tokens = .ok (text, tokens')) :
    tokens'.size ≤ tokens.size := by
  obtain ⟨-, -, h⟩ := bind_eq_ok.mp h
  obtain ⟨⟨bytes, final⟩, hrun, h⟩ := bind_eq_ok.mp h
  have hfinal : final.size ≤ tokens.size := by
    refine Loop.run_rule (P := fun s => s.tokens.size ≤ tokens.size)
      (Q := fun result => result.2.size ≤ tokens.size) size_asciiTurn ?_ ?_
      (le_refl tokens.size) hrun
    · intro s s' hs hturn
      exact (Nat.le_of_lt (size_asciiTurn s s' hturn)).trans hs
    · rintro s ⟨values, final⟩ hs hturn
      obtain ⟨token, hnext, -⟩ := done_asciiTurn hturn
      exact (TokenCursor.size_next_le hnext).trans hs
  dsimp only at h
  split at h
  · cases h
    exact hfinal
  · cases h

theorem size_parseDeclaredCount (h : parseDeclaredCount tokens = .ok (declared, tokens')) :
    tokens'.size ≤ tokens.size := by
  obtain ⟨⟨found, c₁⟩, hpeek, h⟩ := bind_eq_ok.mp h
  have h₁ := TokenCursor.size_peek hpeek
  dsimp only at h
  split at h
  · obtain ⟨⟨found, c₂⟩, hnext, h⟩ := bind_eq_ok.mp h
    have h₂ := TokenCursor.size_next_le hnext
    obtain ⟨⟨found, c₃⟩, hnext, h⟩ := bind_eq_ok.mp h
    have h₃ := TokenCursor.size_next_le hnext
    dsimp only at h
    split at h
    · obtain ⟨-, -, h⟩ := bind_eq_ok.mp h
      obtain ⟨⟨found, c₄⟩, hnext, h⟩ := bind_eq_ok.mp h
      have h₄ := TokenCursor.size_next_le hnext
      dsimp only at h
      split at h
      · cases h
        dsimp only at h₂ h₃ h₄
        omega
      · cases h
    · cases h
  · cases h
    exact h₁

end

namespace ItemCursor

variable {s s' : ItemCursor}

theorem finished_eq_ok {α : Type} {item : α → SecsItem}
    {body : TokenCursor → Except ParseError (α × TokenCursor)}
    {started : Started OpenedList SecsItem} :
    s.finished item body = .ok (started, s') ↔ ∃ value tokens, body s.tokens = .ok (value, tokens) ∧
      started = .leaf (item value) ∧ s' = { s with tokens := tokens } := by
  unfold finished
  rw [bind_eq_ok]
  constructor
  · rintro ⟨⟨value, tokens⟩, hbody, h⟩
    cases h
    exact ⟨value, tokens, hbody, rfl, rfl⟩
  · rintro ⟨value, tokens, hbody, rfl, rfl⟩
    exact ⟨_, hbody, rfl⟩

theorem size_startBody {typePos : SourcePos} {declared : Option ℕ} {kind : ItemKind}
    {started : Started OpenedList SecsItem}
    (h : s.startBody typePos declared kind = .ok (started, s')) :
    s'.tokens.size ≤ s.tokens.size := by
  cases kind with
  | list =>
    obtain ⟨-, -, h⟩ := bind_eq_ok.mp h
    cases h
    exact le_refl _
  | ascii =>
    obtain ⟨value, tokens, hbody, -, rfl⟩ := finished_eq_ok.mp h
    exact size_parseAsciiBody hbody
  | _ =>
    obtain ⟨value, tokens, hbody, -, rfl⟩ := finished_eq_ok.mp h
    exact size_parseBody hbody

/-- Every item takes its opening bracket. -/
theorem size_parseOneItem {stack : ListStack} {started : Started OpenedList SecsItem}
    (h : parseOneItem stack s = .ok (started, s')) : s'.tokens.size < s.tokens.size := by
  obtain ⟨⟨found, c₁⟩, hnext, h⟩ := bind_eq_ok.mp h
  dsimp only at h
  split at h
  · have h₁ := TokenCursor.size_next hnext
    obtain ⟨-, -, h⟩ := bind_eq_ok.mp h
    obtain ⟨⟨found, c₂⟩, hnext, h⟩ := bind_eq_ok.mp h
    have h₂ := TokenCursor.size_next_le hnext
    dsimp only at h
    split at h
    · obtain ⟨kind, -, h⟩ := bind_eq_ok.mp h
      obtain ⟨-, -, h⟩ := bind_eq_ok.mp h
      obtain ⟨⟨declared, c₃⟩, hcount, h⟩ := bind_eq_ok.mp h
      have h₃ := size_parseDeclaredCount hcount
      have h₄ := size_startBody h
      dsimp only at h₄
      omega
    · cases h
  · cases h

/-- Looking for another child takes nothing back. -/
theorem size_nextChild {frame : Frame OpenedList SecsItem} (stack : ListStack) {more : Bool}
    (h : nextChild frame stack s = .ok (more, s')) : s'.tokens.size ≤ s.tokens.size := by
  obtain ⟨-, -, h⟩ := bind_eq_ok.mp h
  obtain ⟨⟨found, c₁⟩, hpeek, h⟩ := bind_eq_ok.mp h
  have h₁ := TokenCursor.size_peek hpeek
  dsimp only at h
  split at h
  · obtain ⟨-, -, h⟩ := bind_eq_ok.mp h
    cases h
    exact h₁
  · obtain ⟨⟨found, c₂⟩, hnext, h⟩ := bind_eq_ok.mp h
    have h₂ := TokenCursor.size_next_le hnext
    obtain ⟨-, -, h⟩ := bind_eq_ok.mp h
    cases h
    exact h₂.trans h₁
  · cases h

/-- `parse_root_item`: the loop, which cannot start more items than there are tokens. -/
def parseRootItem (s : ItemCursor) : Except ParseError (SecsItem × ItemCursor) :=
  (reader.run (s.tokens.size + 1) [] s).get
    (FrameReader.run_isSome (μ := fun s : ItemCursor => s.tokens.size)
      (fun _ _ _ _ => size_parseOneItem) (fun _ stack _ _ _ => size_nextChild stack)
      (Nat.lt_succ_self _))

/-- **The loop and the recursion agree.** -/
theorem parseRootItem_eq_ok {item : SecsItem} :
    s.parseRootItem = .ok (item, s') ↔ reader.Reads [] s item s' := by
  have hrun : s.parseRootItem = .ok (item, s') ↔
      reader.run (s.tokens.size + 1) [] s = some (.ok (item, s')) := by
    rw [parseRootItem, ← Option.some_inj, Option.some_get]
  exact hrun.trans (FrameReader.run_eq_ok_iff (μ := fun s : ItemCursor => s.tokens.size)
    (fun _ _ _ _ => size_parseOneItem) (fun _ stack _ _ _ => size_nextChild stack)
    (Nat.lt_succ_self _))

end ItemCursor

/-! ## Entry points -/

/-- `SmlParser::parse_item`: exactly one item, with nothing behind it. -/
def parseItem (limits : DecodeLimits) (input : Text) : Except ParseError SecsItem := do
  let (item, items) ← (ItemCursor.new (TokenCursor.new (Scanner.new input)) limits).parseRootItem
  let (found, _) ← items.tokens.peek
  match found with
  | some token => .error (.trailingInput token.pos (trailingPreview input token.pos))
  | none => return item

/-- The optional item of a message, where one starts. -/
def parseMessageBody (limits : DecodeLimits) (cursor : TokenCursor) :
    Except ParseError (Option SecsItem × TokenCursor) := do
  let (found, cursor) ← cursor.peek
  match found with
  | some ⟨.lt, _⟩ =>
    let (item, items) ← (ItemCursor.new cursor limits).parseRootItem
    return (some item, items.tokens)
  | _ => return (none, cursor)

/-- The period of a message. -/
def parseTerminator (hasBody : Bool) (cursor : TokenCursor) : Except ParseError TokenCursor := do
  let (found, cursor) ← cursor.next
  match found with
  | some ⟨.dot, _⟩ => return cursor
  | some token =>
    .error (unexpected (if hasBody then "'.'" else "an item or '.'") (some token) cursor)
  | none => .error (.missingTerminator cursor.eofPos)

/-- The optional `W` word of a message. -/
def parseWaitBit (cursor : TokenCursor) : Except ParseError (Bool × TokenCursor) := do
  let (found, cursor) ← cursor.peek
  if found.map Token.kind = some (.word "W".toList) then
    let (_, cursor) ← cursor.next
    return (true, cursor)
  else return (false, cursor)

/-- `SmlParser::parse_message`: a header word, the optional `W`, a body if there is one, and a
period with nothing behind it. -/
def parseMessage (limits : DecodeLimits) (input : Text) : Except ParseError SmlMessage := do
  let (found, cursor) ← (TokenCursor.new (Scanner.new input)).next
  match found with
  | some ⟨.word headerWord, headerPos⟩ =>
    match parseHeaderWord headerWord with
    | none => .error (.invalidMessageHeader headerPos headerWord)
    | some (stream, function) =>
      ensure (stream ≤ 127) (.streamOutOfRange headerPos stream)
      ensure (function ≤ 255) (.functionOutOfRange headerPos function)
      let (waitBit, cursor) ← parseWaitBit cursor
      let (body, cursor) ← parseMessageBody limits cursor
      let cursor ← parseTerminator body.isSome cursor
      let (found, _) ← cursor.peek
      match found with
      | some token => .error (.trailingInput token.pos (trailingPreview input token.pos))
      | none =>
        if h : UInt8.ofNat stream ≤ 127 then
          return ⟨⟨UInt8.ofNat stream, h⟩, ⟨UInt8.ofNat function⟩, waitBit, body⟩
        else .error (.streamOutOfRange headerPos stream)
  | found => .error (unexpected "a message header such as S1F13" found cursor)

end Sml
end SecsRust

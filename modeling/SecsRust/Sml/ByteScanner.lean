import SecsRust.Lib.Utf8
import SecsRust.Sml.Lexeme

/-!
# The scanner over bytes

`Sml/Scanner.lean` reads characters.  The source reads the bytes of a `str`, keeps a byte
offset by hand and cuts the text at offsets that it has kept; where such an offset is not
between two characters, the cut panics.  This module is that scanner as it is written,
`ScanFault.outOfBoundary` being the panic, and it says that there is none.

`Reads` puts the two scanners side by side: they are at the same place of a text, and it is
between two characters. Every function of the scanner has one lemma about it, in the order
of the calls.  Where the source compares a byte with a character below `0x80`, the character
at that place is that one or it is longer and the comparison fails on both sides; where the
source advances over bytes, what it advances over are bytes below `0x80`, or it takes a
whole character with its length.  `Reads.nextToken` is the result: one call does what the
scanner over characters does, and leaves its offset between two characters.

A loop that reads on while it likes the next byte has fuel for the bytes that are left.
-/

namespace SecsRust
namespace Sml

/-- How a call of the scanner can fail: it refuses the text, or it panics.  The panics are those
of slicing a text between two bytes of one character. -/
inductive ScanFault where
  | refused (e : ParseError)
  | outOfBoundary
  deriving DecidableEq

/-! ## Bytes -/

/-- `is_ascii_digit`, of a byte. -/
def isAsciiDigit (byte : UInt8) : Bool := 0x30 ≤ byte.toNat && byte.toNat ≤ 0x39

/-- `is_ascii_alphabetic`: the letters of the dispatch of `next_token`. -/
def isAsciiAlphabetic (byte : UInt8) : Bool :=
  (0x61 ≤ byte.toNat && byte.toNat ≤ 0x7A) || (0x41 ≤ byte.toNat && byte.toNat ≤ 0x5A)

/-- `is_ascii_alphanumeric`, of a byte. -/
def isAsciiAlphanumeric (byte : UInt8) : Bool := isAsciiAlphabetic byte || isAsciiDigit byte

/-- `is_ascii_hexdigit`, of a byte. -/
def isAsciiHexdigit (byte : UInt8) : Bool :=
  isAsciiDigit byte || (0x61 ≤ byte.toNat && byte.toNat ≤ 0x66) ||
    (0x41 ≤ byte.toNat && byte.toNat ≤ 0x46)

/-- The bytes that are a token by themselves. -/
def bytePunctuation (byte : UInt8) : Option TokenKind :=
  if byte = 0x2E then some .dot
  else if byte = 0x3C then some .lt
  else if byte = 0x3E then some .gt
  else if byte = 0x5B then some .lBracket
  else if byte = 0x5D then some .rBracket
  else none

/-- `str::parse::<i128>` of a run of decimal digits. -/
def parseDecimal (digits : Text) : Option ℤ :=
  if Nat.ofDigitChars 10 digits 0 ≤ i128Max then some (Nat.ofDigitChars 10 digits 0 : ℕ) else none

/-- `i128::from_str_radix` of a run of hexadecimal digits. -/
def parseHex (digits : Text) : Option ℤ :=
  if hexValue digits ≤ i128Max then some (hexValue digits : ℕ) else none

/-! ## The scanner -/

/-- `Scanner` of the source: the whole text, and the place in it.  Only the place moves; the text
is never copied. -/
structure ByteScanner where
  input : Text
  offset : ℕ
  line : ℕ
  column : ℕ

namespace ByteScanner

/-- `Scanner::new`: at the first byte, in line one and column one. -/
def new (input : Text) : ByteScanner := ⟨input, 0, 1, 1⟩

/-- `current_pos`: the offset and what was counted on the way to it. -/
def currentPos (s : ByteScanner) : SourcePos := ⟨s.offset, s.line, s.column⟩

/-- `peek_ahead`: a byte further on, without a look at what it belongs to.  It may be the middle
of a character, which is harmless as long as only ASCII is compared with it. -/
def peekAhead (s : ByteScanner) (ahead : ℕ) : Option UInt8 := (utf8 s.input)[s.offset + ahead]?

/-- `peek`: the byte at the offset. -/
def peek (s : ByteScanner) : Option UInt8 := (utf8 s.input)[s.offset]?

/-- `bump_ascii`: passes over one byte, which the caller knows to be a character. -/
def bumpAscii (s : ByteScanner) :
    ByteScanner := { s with offset := s.offset + 1, column := s.column + 1 }

/-- `advance_newline`: passes over one byte and starts a line. -/
def advanceNewline (s : ByteScanner) : ByteScanner :=
  { s with offset := s.offset + 1, line := s.line + 1, column := 1 }

/-- The bytes that have not been read. -/
def bytesLeft (s : ByteScanner) : ℕ := (utf8 s.input).length - s.offset

/-- `&self.input[start..stop]`: panics unless both bounds are between two characters.  That it
never does so is what has to be proved of every call. -/
def cut (s : ByteScanner) (start stop : ℕ) : Except ScanFault Text :=
  match slice s.input start stop with
  | some text => .ok text
  | none => .error .outOfBoundary

/-- `literal_slice`: the text from a position that was kept up to the offset. -/
def literalSlice (s : ByteScanner) (startPos : SourcePos) : Except ScanFault Text :=
  s.cut startPos.offset s.offset

/-- `current_char`: the first character of `&self.input[self.offset..]`. -/
def currentChar (s : ByteScanner) : Except ScanFault Char :=
  match dropBytes s.input s.offset with
  | some (found :: _) => .ok found
  | some [] => .ok (Char.ofNat 0xFFFD)
  | none => .error .outOfBoundary

/-- A loop that bumps while the next byte is one of these. -/
def bumpWhile (p : UInt8 → Bool) : ℕ → ByteScanner → ByteScanner
  | 0, s => s
  | fuel + 1, s => if s.peek.any p then bumpWhile p fuel s.bumpAscii else s

/-- The loop of `skip_whitespace`. -/
def skipLoop : ℕ → ByteScanner → ByteScanner
  | 0, s => s
  | fuel + 1, s =>
    match s.peek with
    | none => s
    | some byte =>
      if byte = 0x20 ∨ byte = 0x09 then skipLoop fuel s.bumpAscii
      else if byte = 0x0A then skipLoop fuel s.advanceNewline
      else if byte = 0x0D then
        skipLoop fuel
          (if s.advanceNewline.peek = some 0x0A then
            { s.advanceNewline with offset := s.advanceNewline.offset + 1 } else s.advanceNewline)
      else s

/-- `skip_whitespace`: passes over blanks and newlines, byte by byte. -/
def skipWhitespace (s : ByteScanner) : ByteScanner := skipLoop s.bytesLeft s

/-- `scan_word`: cuts the word out of the text between two offsets. -/
def scanWord (s : ByteScanner) : Except ScanFault (TokenKind × ByteScanner) := do
  let after := bumpWhile isAsciiAlphanumeric s.bytesLeft s
  let word ← after.cut s.offset after.offset
  return (.word word, after)

/-- The loop of `scan_string`. -/
def stringLoop (openPos : SourcePos) (contentStart : ℕ) :
    ℕ → ByteScanner → Except ScanFault (TokenKind × ByteScanner)
  | 0, _ => .error (.refused (.unterminatedString openPos))
  | fuel + 1, s =>
    match s.peek with
    | none => .error (.refused (.unterminatedString openPos))
    | some byte =>
      if byte = 0x22 then do
        let content ← s.cut contentStart s.offset
        return (.str content, s.bumpAscii)
      else if byte = 0x5C then .error (.refused (.invalidAsciiFragment s.currentPos byte))
      else if 0x20 ≤ byte.toNat ∧
        byte.toNat ≤ 0x7E then stringLoop openPos contentStart fuel s.bumpAscii
      else if 0x80 ≤ byte.toNat then do
        let found ← s.currentChar
        .error (.refused (.invalidCharacter s.currentPos found))
      else .error (.refused (.invalidAsciiFragment s.currentPos byte))

/-- `scan_string`: cuts the content out of the text between the quotes. -/
def scanString (openPos : SourcePos) (s : ByteScanner) :
    Except ScanFault (TokenKind × ByteScanner) :=
  stringLoop openPos s.bumpAscii.offset (s.bumpAscii.bytesLeft + 1) s.bumpAscii

/-- The loop of `scan_hex_tail`. -/
def hexLoop (hexStart : ℕ) : ℕ → ByteScanner → ByteScanner
  | 0, s => s
  | fuel + 1, s =>
    if s.peek.any isAsciiHexdigit then
      if s.offset - hexStart = 2 ∧ s.peek = some 0x30 ∧ s.peekAhead 1 = some 0x78 then s
      else hexLoop hexStart fuel s.bumpAscii
    else s

/-- `scan_hex_tail`: the digits behind `0x`, which are a byte if there are two of them. -/
def scanHexTail (startPos : SourcePos) (negative : Bool) (s : ByteScanner) :
    Except ScanFault (TokenKind × ByteScanner) := do
  let s := s.bumpAscii
  let hexStart := s.offset
  let s := hexLoop hexStart s.bytesLeft s
  let hexDigits ← s.cut hexStart s.offset
  if hexDigits = [] then
    let text ← s.literalSlice startPos
    .error (.refused (.invalidHexLiteral startPos text))
  else if (utf8 hexDigits).length = 2 ∧ ¬ negative then
    let text ← s.literalSlice startPos
    return (.hexByte (UInt8.ofNat (hexValue hexDigits)) text, s)
  else
    let text ← s.literalSlice startPos
    match parseHex hexDigits with
    | some value => return (.int (if negative then -value else value) true text, s)
    | none => .error (.refused (.numberTooLarge startPos text))

/-- The fraction of `scan_number`, and whether there is one. -/
def scanFraction (s : ByteScanner) : ByteScanner × Bool :=
  if s.peek = some 0x2E ∧ (s.peekAhead 1).any isAsciiDigit then
    (bumpWhile isAsciiDigit s.bumpAscii.bytesLeft s.bumpAscii, true)
  else (s, false)

/-- The exponent of `scan_number`, and whether there is one. -/
def scanExponent (s : ByteScanner) : ByteScanner × Bool :=
  let after := s.peekAhead 1
  if (s.peek = some 0x65 ∨ s.peek = some 0x45) ∧
      (after.any isAsciiDigit ∨
        (after = some 0x2B ∨ after = some 0x2D) ∧ (s.peekAhead 2).any isAsciiDigit) then
    let s := s.bumpAscii
    let s := if s.peek = some 0x2B ∨ s.peek = some 0x2D then s.bumpAscii else s
    (bumpWhile isAsciiDigit s.bytesLeft s, true)
  else (s, false)

/-- `scan_number`: the parts of a number one after the other, each cut out of the text. -/
def scanNumber (startPos : SourcePos) (negative : Bool) (s : ByteScanner) :
    Except ScanFault (TokenKind × ByteScanner) := do
  let digitsStart := s.offset
  let s := bumpWhile isAsciiDigit s.bytesLeft s
  let intDigits ← s.cut digitsStart s.offset
  if intDigits = ['0'] ∧ s.peek = some 0x78 then scanHexTail startPos negative s
  else
    let (s, hasFraction) := s.scanFraction
    let (s, hasExponent) := s.scanExponent
    let text ← s.literalSlice startPos
    if hasFraction || hasExponent then return (.float text, s)
    else
      match parseDecimal intDigits with
      | some value => return (.int (if negative then -value else value) false text, s)
      | none => .error (.refused (.numberTooLarge startPos text))

/-- The token that starts with a byte. -/
def scanKind (first : UInt8) (s : ByteScanner) : Except ScanFault (TokenKind × ByteScanner) :=
  if 0x80 ≤ first.toNat then do
    let found ← s.currentChar
    .error (.refused (.invalidCharacter s.currentPos found))
  else
    match bytePunctuation first with
    | some kind => return (kind, s.bumpAscii)
    | none =>
      if first = 0x22 then s.scanString s.currentPos
      else if first = 0x2D then
        if (s.peekAhead 1).any isAsciiDigit then s.bumpAscii.scanNumber s.currentPos true
        else .error (.refused (.invalidCharacter s.currentPos '-'))
      else if isAsciiDigit first then s.scanNumber s.currentPos false
      else if first = 0x78 ∨ first = 0x58 then
        .error (.refused (.invalidCharacter s.currentPos (Char.ofNat first.toNat)))
      else if isAsciiAlphabetic first then s.scanWord
      else .error (.refused (.invalidCharacter s.currentPos (Char.ofNat first.toNat)))

/-- `next_token`: the next token with its position, or the end of the text. -/
def nextToken (s : ByteScanner) : Except ScanFault (Option Token × ByteScanner) := do
  let s := s.skipWhitespace
  match s.peek with
  | none => return (none, s)
  | some first =>
    let (kind, after) ← s.scanKind first
    return (some ⟨kind, s.currentPos⟩, after)

end ByteScanner

/-! ## Bytes and characters -/

section

variable {c : Char}

theorem isAsciiDigit_firstByte (c : Char) : isAsciiDigit (firstByte c) = c.isDigit := by
  have hlt := firstByte_lt (c := c)
  have heq := firstByte_of_lt (c := c)
  rw [Bool.eq_iff_iff]
  simp only [isAsciiDigit, Char.isDigit, Bool.and_eq_true, decide_eq_true_eq,
    UInt32.le_iff_toNat_le, ge_iff_le]
  change _ ↔ 48 ≤ c.toNat ∧ c.toNat ≤ 57
  omega

theorem isAsciiAlphabetic_firstByte (c : Char) : isAsciiAlphabetic (firstByte c) = c.isAlpha := by
  have hlt := firstByte_lt (c := c)
  have heq := firstByte_of_lt (c := c)
  rw [Bool.eq_iff_iff]
  unfold Char.isAlpha Char.isUpper Char.isLower
  simp only [isAsciiAlphabetic, Bool.or_eq_true, Bool.and_eq_true, decide_eq_true_eq,
    UInt32.le_iff_toNat_le, ge_iff_le]
  change _ ↔ (65 ≤ c.toNat ∧ c.toNat ≤ 90) ∨ 97 ≤ c.toNat ∧ c.toNat ≤ 122
  omega

theorem isAsciiAlphanumeric_firstByte (c : Char) :
    isAsciiAlphanumeric (firstByte c) = c.isAlphanum := by
  rw [isAsciiAlphanumeric, isAsciiAlphabetic_firstByte, isAsciiDigit_firstByte, Char.isAlphanum]

theorem isAsciiHexdigit_firstByte (c : Char) : isAsciiHexdigit (firstByte c) = isHexDigit c := by
  have hlt := firstByte_lt (c := c)
  have heq := firstByte_of_lt (c := c)
  rw [isAsciiHexdigit, isAsciiDigit_firstByte, isHexDigit, Bool.eq_iff_iff]
  simp only [Bool.or_eq_true, Bool.and_eq_true, decide_eq_true_eq, Char.le_def,
    UInt32.le_iff_toNat_le]
  change _ ↔ (_ ∨ 97 ≤ c.toNat ∧ c.toNat ≤ 102) ∨ 65 ≤ c.toNat ∧ c.toNat ≤ 70
  grind

theorem lt_of_isAlphanum (h : c.isAlphanum = true) : c.toNat < 0x80 :=
  of_decide_eq_true (isAscii_of_isAlphanum h)

theorem lt_of_isDigit (h : c.isDigit = true) : c.toNat < 0x80 :=
  lt_of_isAlphanum (isAlphanum_of_isDigit h)

theorem lt_of_isHexDigit (h : isHexDigit c = true) : c.toNat < 0x80 :=
  lt_of_isAlphanum (isAlphanum_of_isHexDigit h)

end

/-! ## The same place -/

/-- **Both scanners are at the same place** of a text, and it is between two characters.  The
text before the place is kept as well, since that is what offsets count. -/
structure Reads (input before : Text) (b : ByteScanner) (s : Scanner) : Prop where
  input_eq : b.input = input
  text : input = before ++ s.rest
  offset : b.offset = (utf8 before).length
  pos : b.currentPos = s.currentPos

/-- Both scanners end alike: with the same result and at the same place, or with the same
refusal.  A panic ends like nothing else, so scanners that end alike have not panicked. -/
inductive EndsAlike {α : Type} (input : Text) :
    Except ScanFault (α × ByteScanner) → Except ParseError (α × Scanner) → Prop
  | ok {result : α} {before : Text} {b : ByteScanner} {s : Scanner} (h : Reads input before b s) :
    EndsAlike input (.ok (result, b)) (.ok (result, s))
  | refused (e : ParseError) : EndsAlike input (.error (.refused e)) (.error e)

namespace Reads

variable {input before rest : Text} {b : ByteScanner} {s : Scanner} {c : Char}

theorem new (input : Text) : Reads input [] (ByteScanner.new input) (Scanner.new input) :=
  ⟨rfl, rfl, rfl, rfl⟩

theorem peekAhead (h : Reads input before b s) (ahead : ℕ) :
    b.peekAhead ahead = (utf8 s.rest)[ahead]? := by
  rw [ByteScanner.peekAhead, h.input_eq, h.text, h.offset, getElem?_utf8_append]

theorem peek (h : Reads input before b s) : b.peek = s.rest.head?.map firstByte := by
  rw [← getElem?_utf8_zero, ← h.peekAhead]
  rfl

/-- The byte behind the next character, which is one byte. -/
theorem peekAhead_one (h : Reads input before b s) (hs : s.rest = c :: rest) (hc : c.toNat < 0x80) :
    b.peekAhead 1 = rest.head?.map firstByte := by
  rw [h.peekAhead, hs, getElem?_utf8_succ hc, getElem?_utf8_zero]

theorem currentChar (h : Reads input before b s) (hs : s.rest = c :: rest) :
    b.currentChar = .ok c := by
  rw [ByteScanner.currentChar, h.input_eq, h.text, h.offset, dropBytes_append, hs]

theorem length_le_bytesLeft (h : Reads input before b s) : s.rest.length ≤ b.bytesLeft := by
  rw [ByteScanner.bytesLeft, h.input_eq, h.text, h.offset, utf8_append, List.length_append,
    Nat.add_sub_cancel_left]
  exact length_le_utf8 s.rest

/-- What has been read between two places can be cut out. -/
theorem cut {before' : Text} {b' : ByteScanner} {s' : Scanner} {start : ℕ}
    (h : Reads input (before ++ before') b' s') (hstart : start = (utf8 before).length) :
    b'.cut start b'.offset = .ok before' := by
  have hslice := slice_append before before' s'.rest
  rw [← List.append_assoc, ← h.text] at hslice
  rw [ByteScanner.cut, h.input_eq, h.offset, hstart, hslice]

/-! ### One character -/

theorem bump (h : Reads input before b s) (hs : s.rest = c :: rest) (hc : c.toNat < 0x80) :
    Reads input (before ++ [c]) b.bumpAscii (s.bump 1 rest) := by
  have hpos := h.pos
  simp only [ByteScanner.currentPos, Scanner.currentPos, SourcePos.mk.injEq] at hpos
  refine ⟨h.input_eq, ?_, ?_, ?_⟩
  · rw [h.text, hs, Scanner.bump_rest, List.append_assoc]
    rfl
  · rw [utf8_append, List.length_append, utf8_cons_of_lt hc, ← h.offset]
    rfl
  · simp only [ByteScanner.currentPos, ByteScanner.bumpAscii, Scanner.currentPos, Scanner.bump,
      hpos]

/-- **A loop over bytes** reads the characters that the loop over characters reads.  The
predicate on bytes has to be false on the first byte of every longer character, which `firstByte`
says. -/
theorem bumpWhile {p : UInt8 → Bool} {q : Char → Bool} (hp : ∀ c, p (firstByte c) = q c)
    (hq : ∀ c, q c = true → c.toNat < 0x80) {fuel : ℕ} :
    ∀ {before : Text} {b : ByteScanner} {s : Scanner}, Reads input before b s →
      s.rest.length ≤ fuel → Reads input (before ++ s.rest.takeWhile q)
        (ByteScanner.bumpWhile p fuel b)
        (s.bump (s.rest.takeWhile q).length (s.rest.dropWhile q)) := by
  induction fuel with
  | zero =>
    intro before b s h hfuel
    obtain ⟨rest, offset, line, column⟩ := s
    obtain rfl : rest = [] := List.eq_nil_of_length_eq_zero (Nat.le_zero.mp hfuel)
    rw [List.takeWhile_nil, List.append_nil]
    exact h
  | succ fuel ih =>
    intro before b s h hfuel
    obtain ⟨rest, offset, line, column⟩ := s
    rw [ByteScanner.bumpWhile, h.peek]
    cases rest with
    | nil =>
      rw [List.takeWhile_nil, List.append_nil]
      exact h
    | cons c rest =>
      rw [List.head?_cons, Option.map_some, Option.any_some, hp]
      cases hc : q c with
      | true =>
        have hnext := ih (h.bump rfl (hq c hc)) (Nat.le_of_succ_le_succ hfuel)
        rw [if_pos rfl, List.takeWhile_cons_of_pos hc, List.dropWhile_cons_of_pos hc]
        simp only [Scanner.bump, List.append_assoc, List.singleton_append, Nat.add_assoc,
          Nat.add_comm 1] at hnext
        exact hnext
      | false =>
        rw [if_neg Bool.false_ne_true, List.takeWhile_cons_of_neg (by simp [hc]),
          List.dropWhile_cons_of_neg (by simp [hc]), List.append_nil]
        exact h

/-- Digits. -/
theorem bumpDigits (h : Reads input before b s) :
    Reads input (before ++ s.rest.takeWhile Char.isDigit)
      (ByteScanner.bumpWhile isAsciiDigit b.bytesLeft b)
      (s.bump (s.rest.takeWhile Char.isDigit).length (s.rest.dropWhile Char.isDigit)) :=
  h.bumpWhile isAsciiDigit_firstByte (fun _ => lt_of_isDigit) h.length_le_bytesLeft

theorem scanWord (h : Reads input before b s) : EndsAlike input b.scanWord (.ok s.scanWord) := by
  have hafter := h.bumpWhile isAsciiAlphanumeric_firstByte (fun _ => lt_of_isAlphanum)
    h.length_le_bytesLeft
  rw [ByteScanner.scanWord, bind_ok (hafter.cut h.offset)]
  exact .ok hafter

/-! ### Whitespace -/

theorem newline (h : Reads input before b s) (hs : s.rest = c :: rest) (hc : c.toNat < 0x80) :
    Reads input (before ++ [c]) b.advanceNewline ⟨rest, s.offset + 1, s.line + 1, 1⟩ := by
  have hbump := h.bump hs hc
  have hpos := h.pos
  simp only [ByteScanner.currentPos, Scanner.currentPos, SourcePos.mk.injEq] at hpos
  refine ⟨hbump.input_eq, hbump.text, hbump.offset, ?_⟩
  simp only [ByteScanner.currentPos, ByteScanner.advanceNewline, Scanner.currentPos, hpos]

/-- The line feed of a pair starts no line of its own. -/
theorem lineFeed (h : Reads input before b s) (hs : s.rest = '\n' :: rest) :
    Reads input (before ++ ['\n']) { b with offset := b.offset + 1 }
      ⟨rest, s.offset + 1, s.line, s.column⟩ := by
  have hbump := h.bump hs (by decide)
  have hpos := h.pos
  simp only [ByteScanner.currentPos, Scanner.currentPos, SourcePos.mk.injEq] at hpos
  refine ⟨hbump.input_eq, hbump.text, hbump.offset, ?_⟩
  simp only [ByteScanner.currentPos, Scanner.currentPos, hpos]

/-- The byte of a character of the text is this one. -/
theorem firstByte_eq {d : Char} {byte : UInt8} (hbyte : byte.toNat = d.toNat)
    (hd : d.toNat < 0x80) :
    s.rest.head?.map firstByte = some byte ↔ s.rest.head? = some d := by
  cases s.rest.head? with
  | none => simp
  | some c => simp [firstByte_eq_iff hbyte hd]

theorem skipLoop {fuel : ℕ} : ∀ {before : Text} {b : ByteScanner} {s : Scanner},
    Reads input before b s → s.rest.length ≤ fuel →
      ∃ after, Reads input after (ByteScanner.skipLoop fuel b)
        (Scanner.skip s.rest s.offset s.line s.column) := by
  induction fuel with
  | zero =>
    intro before b s h hfuel
    obtain ⟨rest, offset, line, column⟩ := s
    obtain rfl : rest = [] := List.eq_nil_of_length_eq_zero (Nat.le_zero.mp hfuel)
    exact ⟨before, h⟩
  | succ fuel ih =>
    intro before b s h hfuel
    have hpeek := h.peek
    obtain ⟨rest, offset, line, column⟩ := s
    rw [ByteScanner.skipLoop, hpeek]
    dsimp only at hfuel ⊢
    fun_cases Scanner.skip rest offset line column
    · exact ih (h.bump rfl (by decide)) (Nat.le_of_succ_le_succ hfuel)
    · exact ih (h.bump rfl (by decide)) (Nat.le_of_succ_le_succ hfuel)
    · exact ih (h.newline rfl (by decide)) (Nat.le_of_succ_le_succ hfuel)
    · rename_i rest
      have hnewline := h.newline (show _ = '\r' :: '\n' :: rest from rfl) (by decide)
      have hfeed : b.advanceNewline.peek = some 0x0A := by rw [hnewline.peek]; rfl
      simp only [List.length_cons] at hfuel
      rw [hfeed]
      exact ih (hnewline.lineFeed rfl) (by dsimp only; omega)
    · rename_i rest hnot
      have hnewline := h.newline (show _ = '\r' :: rest from rfl) (by decide)
      have hfeed : ¬ b.advanceNewline.peek = some 0x0A := by
        rw [hnewline.peek, firstByte_eq (d := '\n') rfl (by decide)]
        intro hhead
        obtain ⟨tail, rfl⟩ := List.head?_eq_some_iff.mp hhead
        exact hnot tail rfl
      rw [List.head?_cons, Option.map_some]
      dsimp only
      rw [if_neg hfeed]
      exact ih hnewline (Nat.le_of_succ_le_succ hfuel)
    · rename_i hspace htab hfeed _ hreturn
      cases rest with
      | nil => exact ⟨before, h⟩
      | cons c rest =>
        refine ⟨before, ?_⟩
        have hne : ∀ {d : Char} {byte : UInt8}, byte.toNat = d.toNat → d.toNat < 0x80 → c ≠ d →
            firstByte c ≠ byte := fun hbyte hd hc => (firstByte_eq_iff hbyte hd).not.mpr hc
        have hspace' : ¬ (firstByte c = 0x20 ∨ firstByte c = 0x09) := not_or.mpr
          ⟨hne (d := ' ') rfl (by decide) fun hc => hspace rest (hc ▸ rfl),
            hne (d := '\t') rfl (by decide) fun hc => htab rest (hc ▸ rfl)⟩
        have hfeed' : ¬ firstByte c = 0x0A :=
          hne (d := '\n') rfl (by decide) fun hc => hfeed rest (hc ▸ rfl)
        have hreturn' : ¬ firstByte c = 0x0D :=
          hne (d := '\r') rfl (by decide) fun hc => hreturn rest (hc ▸ rfl)
        rw [List.head?_cons, Option.map_some]
        dsimp only
        rw [if_neg hspace', if_neg hfeed', if_neg hreturn']
        exact h

theorem skipWhitespace (h : Reads input before b s) :
    ∃ after, Reads input after b.skipWhitespace s.skipWhitespace :=
  h.skipLoop h.length_le_bytesLeft

/-! ### Quoted fragments -/

theorem stringLoop (openPos : SourcePos) {contentStart fuel : ℕ}
    (hstart : contentStart = (utf8 before).length) :
    ∀ (content : Text) {b : ByteScanner} {s : Scanner}, Reads input (before ++ content) b s →
      s.rest.length < fuel → EndsAlike input (ByteScanner.stringLoop openPos contentStart fuel b)
        ((Scanner.scanContent openPos s s.rest).map fun (tail, s) =>
          (.str (content ++ tail), s)) := by
  induction fuel with
  | zero => intro content b s _ hfuel; exact absurd hfuel (Nat.not_lt_zero _)
  | succ fuel ih =>
    intro content b s h hfuel
    have hpeek := h.peek
    have hpos : b.currentPos = s.currentPos := h.pos
    cases hs : s.rest with
    | nil =>
      rw [hs] at hpeek
      rw [ByteScanner.stringLoop, hpeek]
      exact .refused _
    | cons c rest =>
      rw [hs, List.head?_cons, Option.map_some] at hpeek
      rw [ByteScanner.stringLoop, hpeek, Scanner.scanContent, hpos]
      dsimp only
      have hquote : firstByte c = 0x22 ↔ c = quote := firstByte_eq_iff rfl (by decide)
      have hbackslash : firstByte c = 0x5C ↔ c = backslash := firstByte_eq_iff rfl (by decide)
      have hlt := firstByte_lt (c := c)
      have heq := firstByte_of_lt (c := c)
      have hbyte (hc : c.toNat < 0x80) : UInt8.ofNat c.toNat = firstByte c := by
        rw [← UInt8.toNat_inj, heq hc, UInt8.toNat_ofNat']
        omega
      have hprintable : (0x20 ≤ (firstByte c).toNat ∧ (firstByte c).toNat ≤ 0x7E) ↔
          0x20 ≤ c.toNat ∧ c.toNat ≤ 0x7E := by omega
      simp only [hquote, hbackslash, hprintable]
      split
      · rename_i hc
        rw [bind_ok (h.cut hstart)]
        have hafter := h.bump hs (hc ▸ (by decide : quote.toNat < 0x80))
        simp only [Except.map, List.append_nil]
        exact .ok hafter
      · split
        · rename_i hc
          rw [hbyte (hc ▸ (by decide : backslash.toNat < 0x80))]
          exact .refused _
        · split
          · have hnext := h.bump hs (by omega)
            rw [List.append_assoc] at hnext
            have hih := ih _ hnext (by rw [hs] at hfuel; exact Nat.lt_of_succ_lt_succ hfuel)
            rw [Scanner.bump_rest] at hih
            cases htail : Scanner.scanContent openPos (s.bump 1 rest) rest <;>
              simpa only [htail, Except.map, List.append_assoc, List.singleton_append] using hih
          · split
            · rename_i hlong
              rw [if_pos (by omega), bind_ok (h.currentChar hs)]
              exact .refused _
            · rename_i hlong
              rw [if_neg (by omega), hbyte (by omega)]
              exact .refused _

theorem scanString (h : Reads input before b s) (hs : s.rest = quote :: rest)
    (openPos : SourcePos) :
    EndsAlike input (b.scanString openPos) (s.scanString openPos) := by
  have hnext := h.bump hs (by decide)
  have hloop := stringLoop openPos hnext.offset []
    (by rw [List.append_nil]; exact hnext) (Nat.lt_succ_of_le hnext.length_le_bytesLeft)
  rw [Scanner.bump_rest] at hloop
  rw [Scanner.scanString, hs]
  exact hloop

/-! ### Numbers -/

theorem bump_bump (s : Scanner) (count count' : ℕ) (rest rest' : Text) :
    (s.bump count rest).bump count' rest' = s.bump (count + count') rest' := by
  simp only [Scanner.bump, Nat.add_assoc]

theorem hexLoop {hexStart fuel count : ℕ} :
    ∀ {before : Text} {b : ByteScanner} {s : Scanner}, Reads input before b s →
      b.offset = hexStart + count → s.rest.length ≤ fuel →
        Reads input (before ++ Scanner.hexRun count s.rest) (ByteScanner.hexLoop hexStart fuel b)
          (s.bump (Scanner.hexRun count s.rest).length
            (s.rest.drop (Scanner.hexRun count s.rest).length)) := by
  induction fuel generalizing count with
  | zero =>
    intro before b s h _ hfuel
    obtain ⟨rest, offset, line, column⟩ := s
    obtain rfl : rest = [] := List.eq_nil_of_length_eq_zero (Nat.le_zero.mp hfuel)
    rw [Scanner.hexRun, List.append_nil]
    exact h
  | succ fuel ih =>
    intro before b s h hcount hfuel
    obtain ⟨rest, offset, line, column⟩ := s
    cases rest with
    | nil =>
      rw [ByteScanner.hexLoop, h.peek, Scanner.hexRun, List.append_nil]
      exact h
    | cons c rest =>
      rw [ByteScanner.hexLoop, h.peek, List.head?_cons, Option.map_some, Option.any_some,
        isAsciiHexdigit_firstByte, Scanner.hexRun]
      cases hhex : isHexDigit c with
      | false =>
        rw [if_neg Bool.false_ne_true, if_pos Bool.false_ne_true, List.append_nil]
        exact h
      | true =>
        have hc := lt_of_isHexDigit hhex
        have hstop : (b.offset - hexStart = 2 ∧ some (firstByte c) = some 0x30 ∧
            b.peekAhead 1 = some 0x78) ↔ count = 2 ∧ c = '0' ∧ rest.head? = some 'x' := by
          rw [h.peekAhead_one rfl hc, Option.some_inj, firstByte_eq_iff (d := '0') rfl (by decide),
            hcount, Nat.add_sub_cancel_left]
          refine and_congr_right fun _ => and_congr_right fun _ => ?_
          cases rest.head? with
          | none => simp
          | some c' => simp [firstByte_eq_iff (show (0x78 : UInt8).toNat = 'x'.toNat from rfl)
              (by decide)]
        rw [if_pos rfl, if_neg (not_not.mpr rfl)]
        by_cases hends : count = 2 ∧ c = '0' ∧ rest.head? = some 'x'
        · rw [if_pos (hstop.mpr hends), if_pos hends, List.append_nil]
          exact h
        · rw [if_neg (hstop.not.mpr hends), if_neg hends]
          have hoffset : b.bumpAscii.offset = hexStart + (count + 1) := by
            rw [← Nat.add_assoc, ← hcount]
            rfl
          have hnext := ih (h.bump rfl hc) hoffset (Nat.le_of_succ_le_succ hfuel)
          rw [bump_bump, List.append_assoc, Nat.add_comm 1] at hnext
          exact hnext

theorem hexRun_isHexDigit (count : ℕ) (text : Text) :
    ∀ c ∈ Scanner.hexRun count text, isHexDigit c = true := by
  induction text generalizing count with
  | nil => rintro c ⟨⟩
  | cons d text ih =>
    rw [Scanner.hexRun]
    split_ifs with hd hstop
    · rintro c ⟨⟩
    · exact List.forall_mem_cons.mpr ⟨hd, ih (count + 1)⟩
    · rintro c ⟨⟩

theorem scanHexTail {startPos : SourcePos} {negative : Bool} {sign : Text}
    (h : Reads input (before ++ (sign ++ ['0'])) b s) (hs : s.rest = 'x' :: rest)
    (hstart : startPos.offset = (utf8 before).length) :
    EndsAlike input (b.scanHexTail startPos negative) (s.scanHexTail startPos negative sign) := by
  have hnext := h.bump hs (by decide)
  have hrun := hexLoop hnext
      (show b.bumpAscii.offset = b.bumpAscii.offset + 0 from rfl) hnext.length_le_bytesLeft
  rw [Scanner.bump_rest, bump_bump] at hrun
  have hdigits := hrun.cut hnext.offset
  have htext : ∀ digits, before ++ (sign ++ ['0']) ++ ['x'] ++ digits =
      before ++ (sign ++ '0' :: 'x' :: digits) := by
    intro digits
    simp only [List.append_assoc, List.cons_append, List.nil_append]
  have hrun' := hrun
  rw [htext] at hrun'
  have hliteral := hrun'.cut hstart
  have hlength : (utf8 (Scanner.hexRun 0 rest)).length = (Scanner.hexRun 0 rest).length :=
    length_utf8_of_lt fun c hc => lt_of_isHexDigit (hexRun_isHexDigit 0 rest c hc)
  rw [ByteScanner.scanHexTail, Scanner.scanHexTail, hs, List.tail_cons]
  dsimp only
  rw [bind_ok hdigits]
  simp only [ByteScanner.literalSlice, bind_ok hliteral, hlength]
  split
  · exact .refused _
  · split
    · exact .ok hrun
    · by_cases hfits : hexValue (Scanner.hexRun 0 rest) ≤ i128Max
      · rw [if_pos hfits, parseHex, if_pos hfits]
        exact .ok hrun
      · rw [if_neg hfits, parseHex, if_neg hfits]
        exact .refused _

theorem drop_takeWhile (p : Char → Bool) (text : Text) :
    text.drop (text.takeWhile p).length = text.dropWhile p := by
  have hsplit : (text.takeWhile p ++ text.dropWhile p).drop (text.takeWhile p).length =
      text.dropWhile p := List.drop_left
  rwa [List.takeWhile_append_dropWhile] at hsplit

theorem scanFraction (h : Reads input before b s) :
    Reads input (before ++ Scanner.fraction s.rest) b.scanFraction.1
        (s.bump (Scanner.fraction s.rest).length (s.rest.drop (Scanner.fraction s.rest).length)) ∧
      (b.scanFraction.2 = true ↔ Scanner.fraction s.rest ≠ []) := by
  have hnone : Scanner.fraction s.rest = [] → ¬ (b.peek = some 0x2E ∧
      (b.peekAhead 1).any isAsciiDigit = true) → Reads input (before ++ Scanner.fraction s.rest)
        b.scanFraction.1 (s.bump (Scanner.fraction s.rest).length
          (s.rest.drop (Scanner.fraction s.rest).length)) ∧
      (b.scanFraction.2 = true ↔ Scanner.fraction s.rest ≠ []) := by
    intro hfraction hnot
    rw [ByteScanner.scanFraction, if_neg hnot, hfraction, List.append_nil]
    exact ⟨h, by simp⟩
  cases hs : s.rest with
  | nil =>
    rw [hs] at hnone
    exact hnone rfl (by rw [h.peek, hs]; simp)
  | cons c rest =>
    rw [hs] at hnone
    have hpeek : b.peek = some 0x2E ↔ c = '.' := by
      rw [h.peek, hs, List.head?_cons, Option.map_some, Option.some_inj,
        firstByte_eq_iff (d := '.') rfl (by decide)]
    by_cases hc : c = '.'
    · subst hc
      have hahead : (b.peekAhead 1).any isAsciiDigit = rest.head?.any Char.isDigit := by
        rw [h.peekAhead_one hs (by decide), Option.any_map]
        exact congrArg (Option.any · rest.head?) (funext isAsciiDigit_firstByte)
      by_cases hdigit : rest.head?.any Char.isDigit = true
      · have hfraction : Scanner.fraction ('.' :: rest) = '.' :: rest.takeWhile Char.isDigit := by
          rw [Scanner.fraction, if_pos hdigit]
        have hrun := (h.bump hs (by decide)).bumpDigits
        rw [Scanner.bump_rest, bump_bump, List.append_assoc, Nat.add_comm 1] at hrun
        rw [ByteScanner.scanFraction, if_pos ⟨hpeek.mpr rfl, hahead.trans hdigit⟩, hfraction,
          List.length_cons, List.drop_succ_cons, drop_takeWhile]
        exact ⟨hrun, by simp⟩
      · refine hnone ?_ fun hboth => hdigit (hahead ▸ hboth.2)
        rw [Scanner.fraction, if_neg hdigit]
    · refine hnone ?_ fun hboth => hc (hpeek.mp hboth.1)
      unfold Scanner.fraction
      split
      · rename_i heq
        exact absurd (List.cons.inj heq).1 hc
      · rfl

/-- The bytes that start an exponent, by their characters. -/
theorem exponent_bytes (h : Reads input before b s) (hs : s.rest = c :: rest)
    (hc : c = 'e' ∨ c = 'E') :
    ((b.peekAhead 1).any isAsciiDigit = true ∨
      (b.peekAhead 1 = some 0x2B ∨ b.peekAhead 1 = some 0x2D) ∧
        (b.peekAhead 2).any isAsciiDigit = true) ↔
      ∃ sign rest', rest = sign :: rest' ∧ (sign.isDigit = true ∨
        (sign = '+' ∨ sign = '-') ∧ rest'.head?.any Char.isDigit = true) := by
  have hlt : c.toNat < 0x80 := by rcases hc with rfl | rfl <;> decide
  have htwo : b.peekAhead 2 = (utf8 rest)[1]? := by rw [h.peekAhead, hs, getElem?_utf8_succ hlt]
  rw [h.peekAhead_one hs hlt, htwo]
  cases rest with
  | nil => simp
  | cons sign rest' =>
    have hplus : firstByte sign = 0x2B ↔ sign = '+' := firstByte_eq_iff rfl (by decide)
    have hminus : firstByte sign = 0x2D ↔ sign = '-' := firstByte_eq_iff rfl (by decide)
    have hbehind : sign = '+' ∨ sign = '-' → (utf8 (sign :: rest'))[1]?.any isAsciiDigit =
        rest'.head?.any Char.isDigit := by
      intro hsign
      have hsign' : sign.toNat < 0x80 := by rcases hsign with rfl | rfl <;> decide
      rw [getElem?_utf8_succ hsign', getElem?_utf8_zero, Option.any_map]
      exact congrArg (Option.any · rest'.head?) (funext isAsciiDigit_firstByte)
    simp only [List.head?_cons, Option.map_some, Option.any_some, isAsciiDigit_firstByte,
      Option.some_inj, hplus, hminus, List.cons.injEq]
    constructor
    · rintro (hdigit | ⟨hsign, hdigit⟩)
      · exact ⟨sign, rest', ⟨rfl, rfl⟩, .inl hdigit⟩
      · exact ⟨sign, rest', ⟨rfl, rfl⟩, .inr ⟨hsign, hbehind hsign ▸ hdigit⟩⟩
    · rintro ⟨_, _, ⟨rfl, rfl⟩, hdigit | ⟨hsign, hdigit⟩⟩
      · exact .inl hdigit
      · exact .inr ⟨hsign, (hbehind hsign).trans hdigit⟩

/-- What makes an exponent of what follows its `e`. -/
def StartsExponent (rest : Text) : Prop :=
  ∃ sign rest', rest = sign :: rest' ∧ (sign.isDigit = true ∨
    (sign = '+' ∨ sign = '-') ∧ rest'.head?.any Char.isDigit = true)

theorem exponent_nil (h : ¬ ((c = 'e' ∨ c = 'E') ∧ StartsExponent rest)) :
    Scanner.exponent (c :: rest) = [] := by
  unfold Scanner.exponent
  dsimp only
  split
  · rename_i hc
    cases rest with
    | nil => rfl
    | cons sign rest' =>
      dsimp only
      rw [if_neg fun hdigit => h ⟨hc, sign, rest', rfl, .inl hdigit⟩,
        if_neg fun hsign => h ⟨hc, sign, rest', rfl, .inr hsign⟩]
  · rfl

theorem exponent_digit {sign : Char} (hc : c = 'e' ∨ c = 'E') (hdigit : sign.isDigit = true) :
    Scanner.exponent (c :: sign :: rest) = c :: (sign :: rest).takeWhile Char.isDigit := by
  unfold Scanner.exponent
  dsimp only
  rw [if_pos hc, if_pos hdigit]

theorem exponent_sign {sign : Char} (hc : c = 'e' ∨ c = 'E') (hnot : ¬ sign.isDigit = true)
    (hsign : (sign = '+' ∨ sign = '-') ∧ rest.head?.any Char.isDigit = true) :
    Scanner.exponent (c :: sign :: rest) = c :: sign :: rest.takeWhile Char.isDigit := by
  unfold Scanner.exponent
  dsimp only
  rw [if_pos hc, if_neg hnot, if_pos hsign]

theorem scanExponent (h : Reads input before b s) :
    Reads input (before ++ Scanner.exponent s.rest) b.scanExponent.1
        (s.bump (Scanner.exponent s.rest).length (s.rest.drop (Scanner.exponent s.rest).length)) ∧
      (b.scanExponent.2 = true ↔ Scanner.exponent s.rest ≠ []) := by
  have hnone : Scanner.exponent s.rest = [] → b.scanExponent = (b, false) →
      Reads input (before ++ Scanner.exponent s.rest) b.scanExponent.1
        (s.bump (Scanner.exponent s.rest).length (s.rest.drop (Scanner.exponent s.rest).length)) ∧
      (b.scanExponent.2 = true ↔ Scanner.exponent s.rest ≠ []) := by
    intro hexponent hstay
    rw [hexponent, hstay, List.append_nil]
    exact ⟨h, by simp⟩
  cases hs : s.rest with
  | nil =>
    rw [hs] at hnone
    have hnot : ¬ (b.peek = some 0x65 ∨ b.peek = some 0x45) := by rw [h.peek, hs]; simp
    refine hnone rfl ?_
    rw [ByteScanner.scanExponent, if_neg fun hboth => hnot hboth.1]
  | cons c rest =>
    rw [hs] at hnone
    have hpeek : (b.peek = some 0x65 ∨ b.peek = some 0x45) ↔ c = 'e' ∨ c = 'E' := by
      rw [h.peek, hs, List.head?_cons, Option.map_some, Option.some_inj, Option.some_inj,
        firstByte_eq_iff (d := 'e') rfl (by decide), firstByte_eq_iff (d := 'E') rfl (by decide)]
    by_cases hexp : (c = 'e' ∨ c = 'E') ∧ StartsExponent rest
    · obtain ⟨hc, hstarts⟩ := hexp
      have hlt : c.toNat < 0x80 := by rcases hc with rfl | rfl <;> decide
      have hnext := h.bump hs hlt
      rw [ByteScanner.scanExponent, if_pos ⟨hpeek.mpr hc, (h.exponent_bytes hs hc).mpr hstarts⟩]
      obtain ⟨sign, rest', rfl, hsign⟩ := hstarts
      have hbyte : (b.bumpAscii.peek = some 0x2B ∨ b.bumpAscii.peek = some 0x2D) ↔
          sign = '+' ∨ sign = '-' := by
        rw [hnext.peek, Scanner.bump_rest, List.head?_cons, Option.map_some, Option.some_inj,
          Option.some_inj, firstByte_eq_iff (d := '+') rfl (by decide),
          firstByte_eq_iff (d := '-') rfl (by decide)]
      dsimp only
      by_cases hdigit : sign.isDigit = true
      · have hnot : ¬ (sign = '+' ∨ sign = '-') := by
          rintro (rfl | rfl) <;> exact absurd hdigit (by decide)
        have hrun := hnext.bumpDigits
        rw [Scanner.bump_rest, bump_bump, List.append_assoc, Nat.add_comm 1] at hrun
        rw [if_neg (hbyte.not.mpr hnot), exponent_digit hc hdigit, List.length_cons,
          List.drop_succ_cons, drop_takeWhile]
        exact ⟨hrun, by simp⟩
      · have hpm := hsign.resolve_left hdigit
        have hsign' : sign.toNat < 0x80 := by rcases hpm.1 with rfl | rfl <;> decide
        have hrun := (hnext.bump rfl hsign').bumpDigits
        rw [Scanner.bump_rest, bump_bump, bump_bump, List.append_assoc, List.append_assoc,
          Nat.add_comm 1 (1 + _), Nat.add_comm 1 (List.length _)] at hrun
        rw [if_pos (hbyte.mpr hpm.1), exponent_sign hc hdigit hpm, List.length_cons,
          List.length_cons, List.drop_succ_cons, List.drop_succ_cons, drop_takeWhile]
        exact ⟨hrun, by simp⟩
    · refine hnone (exponent_nil hexp) ?_
      rw [ByteScanner.scanExponent,
        if_neg fun hboth => hexp ⟨hpeek.mp hboth.1,
          (h.exponent_bytes hs (hpeek.mp hboth.1)).mp hboth.2⟩]

theorem scanNumber {startPos : SourcePos} (negative : Bool)
    (h : Reads input (before ++ if negative then ['-'] else []) b s)
    (hstart : startPos.offset = (utf8 before).length) :
    EndsAlike input (b.scanNumber startPos negative) (s.scanNumber startPos negative) := by
  have hint := h.bumpDigits
  have hcut := hint.cut h.offset
  rw [ByteScanner.scanNumber, Scanner.scanNumber]
  dsimp only
  rw [bind_ok hcut]
  have hx : (ByteScanner.bumpWhile isAsciiDigit b.bytesLeft b).peek = some 0x78 ↔
      (s.rest.dropWhile Char.isDigit).head? = some 'x' := by
    rw [hint.peek, firstByte_eq (d := 'x') rfl (by decide), Scanner.bump_rest]
  simp only [hx]
  split
  · rename_i hhex
    rw [hhex.1, List.append_assoc] at hint
    obtain ⟨rest, hrest⟩ := List.head?_eq_some_iff.mp hhex.2
    exact hint.scanHexTail hrest hstart
  · obtain ⟨hfrac, hhasFraction⟩ := hint.scanFraction
    rcases hb2 : (ByteScanner.bumpWhile isAsciiDigit b.bytesLeft b).scanFraction with ⟨b2,
      hasFraction⟩
    rw [hb2] at hfrac hhasFraction
    obtain ⟨hexp, hhasExponent⟩ := hfrac.scanExponent
    dsimp only at hexp hhasExponent hhasFraction ⊢
    rcases hb3 : b2.scanExponent with ⟨b3, hasExponent⟩
    rw [hb3] at hexp hhasExponent
    simp only [Scanner.bump_rest, bump_bump] at hexp hhasFraction hhasExponent
    have hafter := hexp
    rw [List.append_assoc before, List.append_assoc before, List.append_assoc before] at hafter
    rw [ByteScanner.literalSlice, bind_ok (hafter.cut hstart)]
    have hfloat : (hasFraction || hasExponent) = true ↔
        (Scanner.fraction (s.rest.dropWhile Char.isDigit) ≠ [] ∨
          Scanner.exponent ((s.rest.dropWhile Char.isDigit).drop
            (Scanner.fraction (s.rest.dropWhile Char.isDigit)).length) ≠ []) := by
      rw [Bool.or_eq_true, hhasFraction, hhasExponent]
    simp only [hfloat]
    split
    · exact .ok hexp
    · by_cases hfits : Nat.ofDigitChars 10 (s.rest.takeWhile Char.isDigit) 0 ≤ i128Max
      · rw [if_pos hfits, parseDecimal, if_pos hfits]
        exact .ok hexp
      · rw [if_neg hfits, parseDecimal, if_neg hfits]
        exact .refused _

/-! ### Tokens -/

theorem bytePunctuation_firstByte (c : Char) :
    bytePunctuation (firstByte c) = Scanner.punctuation c := by
  simp only [bytePunctuation, firstByte_eq_iff (show (0x2E : UInt8).toNat = '.'.toNat from rfl)
    (by decide), firstByte_eq_iff (show (0x3C : UInt8).toNat = '<'.toNat from rfl) (by decide),
    firstByte_eq_iff (show (0x3E : UInt8).toNat = '>'.toNat from rfl) (by decide),
    firstByte_eq_iff (show (0x5B : UInt8).toNat = '['.toNat from rfl) (by decide),
    firstByte_eq_iff (show (0x5D : UInt8).toNat = ']'.toNat from rfl) (by decide)]
  fun_cases Scanner.punctuation c <;> simp_all

theorem scanKind (h : Reads input before b s) (hs : s.rest = c :: rest) :
    EndsAlike input (b.scanKind (firstByte c)) (s.scanKind c rest) := by
  have hpos : b.currentPos = s.currentPos := h.pos
  have hstart : s.currentPos.offset = (utf8 before).length := by
    rw [← hpos]
    exact h.offset
  rw [ByteScanner.scanKind, Scanner.scanKind, hpos, bytePunctuation_firstByte]
  by_cases hc : c.toNat < 0x80
  · have hbyte : Char.ofNat (firstByte c).toNat = c := by rw [firstByte_of_lt hc, Char.ofNat_toNat]
    have hbump := h.bump hs hc
    have hascii : ¬ ¬ isAscii c = true := not_not.mpr (decide_eq_true hc)
    have hquote : firstByte c = 0x22 ↔ c = quote := firstByte_eq_iff rfl (by decide)
    have hminus : firstByte c = 0x2D ↔ c = '-' := firstByte_eq_iff rfl (by decide)
    have hx : firstByte c = 0x78 ↔ c = 'x' := firstByte_eq_iff rfl (by decide)
    have hX : firstByte c = 0x58 ↔ c = 'X' := firstByte_eq_iff rfl (by decide)
    have hahead : (b.peekAhead 1).any isAsciiDigit = rest.head?.any Char.isDigit := by
      rw [h.peekAhead_one hs hc, Option.any_map]
      exact congrArg (Option.any · rest.head?) (funext isAsciiDigit_firstByte)
    rw [if_neg (by rw [firstByte_of_lt hc]; omega), if_neg hascii, hbyte, hahead]
    cases Scanner.punctuation c with
    | some kind => exact .ok hbump
    | none =>
      simp only [hquote, hminus, hx, hX, isAsciiDigit_firstByte, isAsciiAlphabetic_firstByte]
      split
      · rename_i heq
        exact h.scanString (heq ▸ hs) _
      · split
        · rename_i heq
          subst heq
          split
          · exact scanNumber true hbump hstart
          · exact .refused _
        · split
          · exact scanNumber false (by simpa using h) hstart
          · split
            · exact .refused _
            · split
              · exact h.scanWord
              · exact .refused _
  · have hascii : ¬ isAscii c = true := by simpa [isAscii] using hc
    rw [if_pos (le_firstByte (Nat.not_lt.mp hc)), if_pos hascii, bind_ok (h.currentChar hs)]
    exact .refused _

/-- **One call of the scanner over bytes** does what one call of the scanner over characters
does.  It never panics, and its offset stays between two characters.  One case for each kind of
token, and all of them through the lemmas about the loops. -/
theorem nextToken (h : Reads input before b s) : EndsAlike input b.nextToken s.nextToken := by
  obtain ⟨after, hskip⟩ := h.skipWhitespace
  have hpos : b.skipWhitespace.currentPos = s.skipWhitespace.currentPos := hskip.pos
  have hpeek := hskip.peek
  rw [ByteScanner.nextToken, Scanner.nextToken]
  dsimp only
  cases hs : s.skipWhitespace.rest with
  | nil =>
    rw [hs] at hpeek
    rw [hpeek]
    exact .ok hskip
  | cons c rest =>
    rw [hs, List.head?_cons, Option.map_some] at hpeek
    rw [hpeek, hpos]
    dsimp only
    have hkind := hskip.scanKind hs
    cases hbytes : b.skipWhitespace.scanKind (firstByte c) <;>
      cases hchars : s.skipWhitespace.scanKind c rest <;> rw [hbytes,
        hchars] at hkind <;> cases hkind
    · exact .refused _
    · rename_i hafter
      exact .ok hafter

end Reads

end Sml
end SecsRust

import SecsRust.Sml.Error

/-!
# The scanner

`sml/scanner.rs`: one token at a time, with the position of its first character.  The
scanner decides everything lexical: where a word, a string or a number ends, which
characters may stand in a string, and whether an integer fits `i128`.  What a token is for
is left to the parser.

The text is a list of characters here, and the scanner takes them off its front.  The source
works on bytes and offsets; that it does the same is shown in `Sml/ByteScanner.lean`, so
that everything about tokens and texts can be proved about lists.

Every token shortens what is left (`length_nextToken`), so repeated calls come to an end.
`Scanner.remaining` is what they deliver: the tokens up to the end of the text or to the
first error.
-/

namespace SecsRust
namespace Sml

/-- `TokenKind`: a token without its place.  Numbers keep their text, for the errors and for the
floats.  Nothing is decided about a word here; whether it names a type is found out by the
parser. -/
inductive TokenKind where
  | word (text : Text)
  | str (content : Text)
  | hexByte (value : UInt8) (text : Text)
  | int (value : ℤ) (hex : Bool) (text : Text)
  | float (text : Text)
  | lt
  | gt
  | lBracket
  | rBracket
  | dot
  deriving DecidableEq

/-- `Token`: what the scanner has found, and where. -/
structure Token where
  kind : TokenKind
  pos : SourcePos
  deriving DecidableEq

/-! ## Characters -/

/-- The double quote. -/
def quote : Char := Char.ofNat 0x22

/-- The backslash. -/
def backslash : Char := Char.ofNat 0x5C

/-- `is_ascii`: the character is one byte. -/
def isAscii (c : Char) : Bool := c.toNat < 0x80

/-- `is_ascii_hexdigit`: a digit of either case. -/
def isHexDigit (c : Char) : Bool :=
  c.isDigit || ('a' ≤ c && c ≤ 'f') || ('A' ≤ c && c ≤ 'F')

/-- The value of a hexadecimal digit. -/
def hexDigitValue (c : Char) : ℕ :=
  if c.isDigit then c.toNat - '0'.toNat
  else if 'a' ≤ c then c.toNat - 'a'.toNat + 10
  else c.toNat - 'A'.toNat + 10

/-- The value of a run of hexadecimal digits. -/
def hexValue (digits : Text) : ℕ :=
  digits.foldl (fun value digit => value * 16 + hexDigitValue digit) 0

/-- `i128::MAX`: a larger magnitude is refused, also for a negative number. -/
def i128Max : ℕ := 2 ^ 127 - 1

/-! ## The scanner -/

/-- `Scanner`: the characters that have not been read, and the position of the next one.
Whatever it has passed is ASCII, so the offset in bytes of the source is the number of characters
passed. -/
structure Scanner where
  rest : Text
  offset : ℕ
  line : ℕ
  column : ℕ

namespace Scanner

/-- `Scanner::new`: the beginning of a text, which is line one and column one. -/
def new (input : Text) : Scanner := ⟨input, 0, 1, 1⟩

/-- `current_pos`: where the next character stands. -/
def currentPos (s : Scanner) : SourcePos := ⟨s.offset, s.line, s.column⟩

/-- `bump_ascii`, for the characters before `rest`. -/
def bump (s : Scanner) (count : ℕ) (rest : Text) : Scanner :=
  { s with rest := rest, offset := s.offset + count, column := s.column + count }

/-- The loop of `skip_whitespace`; a carriage return takes a line feed after it along.  A lone
carriage return ends a line as well. -/
def skip : Text → ℕ → ℕ → ℕ → Scanner
  | ' ' :: rest, offset, line, column => skip rest (offset + 1) line (column + 1)
  | '\t' :: rest, offset, line, column => skip rest (offset + 1) line (column + 1)
  | '\n' :: rest, offset, line, _ => skip rest (offset + 1) (line + 1) 1
  | '\r' :: '\n' :: rest, offset, line, _ => skip rest (offset + 2) (line + 1) 1
  | '\r' :: rest, offset, line, _ => skip rest (offset + 1) (line + 1) 1
  | rest, offset, line, column => ⟨rest, offset, line, column⟩

/-- `skip_whitespace`: passes over blanks and newlines. -/
def skipWhitespace (s : Scanner) : Scanner := skip s.rest s.offset s.line s.column

/-- `scan_word`: letters and digits, up to the first character that is neither. -/
def scanWord (s : Scanner) : TokenKind × Scanner :=
  let word := s.rest.takeWhile Char.isAlphanum
  (.word word, s.bump word.length (s.rest.dropWhile Char.isAlphanum))

/-- The loop of `scan_string`, behind the opening quote: the content and the scanner behind the
closing quote. -/
def scanContent (openPos : SourcePos) : Scanner → Text → Except ParseError (Text × Scanner)
  | _, [] => .error (.unterminatedString openPos)
  | s, c :: rest =>
    if c = quote then .ok ([], s.bump 1 rest)
    else if c = backslash then .error (.invalidAsciiFragment s.currentPos (UInt8.ofNat c.toNat))
    else if 0x20 ≤ c.toNat ∧ c.toNat ≤ 0x7E then
      (scanContent openPos (s.bump 1 rest) rest).map fun (content, s) => (c :: content, s)
    else if 0x80 ≤ c.toNat then .error (.invalidCharacter s.currentPos c)
    else .error (.invalidAsciiFragment s.currentPos (UInt8.ofNat c.toNat))

/-- `scan_string`: the content of a quoted fragment, without escapes. -/
def scanString (openPos : SourcePos) (s : Scanner) : Except ParseError (TokenKind × Scanner) :=
  (scanContent openPos (s.bump 1 s.rest.tail) s.rest.tail).map fun (content, s) => (.str content, s)

/-- The maximal run of hexadecimal digits, of which so many have been read; behind two digits a `0x`
starts the next literal. -/
def hexRun : ℕ → Text → Text
  | _, [] => []
  | count, c :: rest =>
    if ¬ isHexDigit c then []
    else if count = 2 ∧ c = '0' ∧ rest.head? = some 'x' then []
    else c :: hexRun (count + 1) rest

/-- `scan_hex_tail`; `s` is at the `x`, and `sign` is the text of the sign. -/
def scanHexTail (startPos : SourcePos) (negative : Bool) (sign : Text) (s : Scanner) :
    Except ParseError (TokenKind × Scanner) :=
  let hexDigits := hexRun 0 s.rest.tail
  let text := sign ++ '0' :: 'x' :: hexDigits
  let after := s.bump (1 + hexDigits.length) (s.rest.tail.drop hexDigits.length)
  if hexDigits = [] then .error (.invalidHexLiteral startPos text)
  else if hexDigits.length = 2 ∧ ¬ negative then
    .ok (.hexByte (UInt8.ofNat (hexValue hexDigits)) text, after)
  else if hexValue hexDigits ≤ i128Max then
    let value : ℤ := hexValue hexDigits
    .ok (.int (if negative then -value else value) true text, after)
  else .error (.numberTooLarge startPos text)

/-- The optional fraction: a point counts only if a digit follows. -/
def fraction : Text → Text
  | '.' :: rest =>
    if (rest.head?.any Char.isDigit) = true then '.' :: rest.takeWhile Char.isDigit else []
  | _ => []

/-- The optional exponent: `e` or `E`, an optional sign, and at least one digit. -/
def exponent : Text → Text
  | c :: rest =>
    if c = 'e' ∨ c = 'E' then
      match rest with
      | sign :: rest' =>
        if sign.isDigit then c :: rest.takeWhile Char.isDigit
        else if (sign = '+' ∨ sign = '-') ∧ (rest'.head?.any Char.isDigit) = true then
          c :: sign :: rest'.takeWhile Char.isDigit
        else []
      | [] => []
    else []
  | [] => []

/-- `scan_number`; `s` is at the first digit, behind a sign. -/
def scanNumber (startPos : SourcePos) (negative : Bool) (s : Scanner) :
    Except ParseError (TokenKind × Scanner) :=
  let sign : Text := if negative then ['-'] else []
  let intDigits := s.rest.takeWhile Char.isDigit
  let tail := s.rest.dropWhile Char.isDigit
  if intDigits = ['0'] ∧ tail.head? = some 'x' then
    scanHexTail startPos negative sign (s.bump 1 tail)
  else
    let frac := fraction tail
    let exp := exponent (tail.drop frac.length)
    let text := sign ++ intDigits ++ frac ++ exp
    let after := s.bump (intDigits.length + frac.length + exp.length)
      ((tail.drop frac.length).drop exp.length)
    if frac ≠ [] ∨ exp ≠ [] then .ok (.float text, after)
    else if Nat.ofDigitChars 10 intDigits 0 ≤ i128Max then
      let value : ℤ := Nat.ofDigitChars 10 intDigits 0
      .ok (.int (if negative then -value else value) false text, after)
    else .error (.numberTooLarge startPos text)

/-- The tokens that are one character. -/
def punctuation : Char → Option TokenKind
  | '.' => some .dot
  | '<' => some .lt
  | '>' => some .gt
  | '[' => some .lBracket
  | ']' => some .rBracket
  | _ => none

/-- The token that starts at a character, which is not whitespace. -/
def scanKind (first : Char) (rest : Text) (s : Scanner) : Except ParseError (TokenKind × Scanner) :=
  if ¬ isAscii first then .error (.invalidCharacter s.currentPos first)
  else
    match punctuation first with
    | some kind => .ok (kind, s.bump 1 rest)
    | none =>
      if first = quote then s.scanString s.currentPos
      else if first = '-' then
        if (rest.head?.any Char.isDigit) = true then (s.bump 1 rest).scanNumber s.currentPos true
        else .error (.invalidCharacter s.currentPos '-')
      else if first.isDigit then s.scanNumber s.currentPos false
      -- an `x` would have to belong to a `0x` prefix that is not there
      else if first = 'x' ∨ first = 'X' then .error (.invalidCharacter s.currentPos first)
      else if first.isAlpha then .ok s.scanWord
      else .error (.invalidCharacter s.currentPos first)

/-- `next_token`: the next token with its position, or the end of the text. -/
def nextToken (s : Scanner) : Except ParseError (Option Token × Scanner) :=
  let s := s.skipWhitespace
  match s.rest with
  | [] => .ok (none, s)
  | first :: rest =>
    (s.scanKind first rest).map fun (kind, after) => (some ⟨kind, s.currentPos⟩, after)

/-! ## Progress -/

section

variable {s after : Scanner} {kind : TokenKind} {pos : SourcePos}

@[simp] theorem bump_rest (count : ℕ) (rest : Text) : (s.bump count rest).rest = rest := rfl

theorem length_dropWhile_le {α : Type} (p : α → Bool) (l : List α) :
    (l.dropWhile p).length ≤ l.length :=
  (List.dropWhile_sublist p).length_le

/-- Whitespace is dropped from the front. -/
theorem length_skip (rest : Text) (offset line column : ℕ) :
    (skip rest offset line column).rest.length ≤ rest.length := by
  fun_induction skip rest offset line column with
  | case6 => exact le_refl _
  | _ => simp only [List.length_cons]; omega

theorem length_scanContent {openPos : SourcePos} {content rest : Text} :
    ∀ {s after : Scanner}, scanContent openPos s rest = .ok (content, after) →
      after.rest.length < rest.length := by
  induction rest generalizing content with
  | nil => intro s after h; cases h
  | cons c rest ih =>
    intro s after h
    unfold scanContent at h
    split_ifs at h
    · cases h
      exact Nat.lt_succ_self _
    · cases htail : scanContent openPos (s.bump 1 rest) rest with
      | error e => rw [htail] at h; cases h
      | ok result =>
        obtain ⟨tail, final⟩ := result
        rw [htail] at h
        cases h
        exact Nat.lt_succ_of_lt (ih htail)

theorem length_scanHexTail {negative : Bool} {sign : Text}
    (h : scanHexTail pos negative sign s = .ok (kind, after)) :
    after.rest.length ≤ s.rest.length := by
  unfold scanHexTail at h
  dsimp only at h
  split at h
  · cases h
  · split at h
    · cases h
      simp only [bump_rest, List.length_drop, List.length_tail]
      omega
    · split at h
      · cases h
        simp only [bump_rest, List.length_drop, List.length_tail]
        omega
      · cases h

/-- A number takes at least its digits. -/
theorem length_scanNumber {negative : Bool} (h : scanNumber pos negative s = .ok (kind, after)) :
    after.rest.length ≤ (s.rest.dropWhile Char.isDigit).length := by
  unfold scanNumber at h
  dsimp only at h
  split at h
  · exact length_scanHexTail h
  · split at h
    · cases h
      simp only [bump_rest, List.length_drop]
      omega
    · split at h
      · cases h
        simp only [bump_rest, List.length_drop]
        omega
      · cases h

/-- Every token takes at least one character. -/
theorem length_scanKind {first : Char} {rest : Text} (hs : s.rest = first :: rest)
    (h : s.scanKind first rest = .ok (kind, after)) : after.rest.length ≤ rest.length := by
  unfold scanKind at h
  split at h
  · cases h
  split at h
  · cases h
    exact le_refl _
  split at h
  · unfold scanString at h
    rw [hs, List.tail_cons] at h
    cases hcontent : scanContent s.currentPos (s.bump 1 rest) rest with
    | error e => rw [hcontent] at h; cases h
    | ok result =>
      rw [hcontent] at h
      cases h
      exact Nat.le_of_lt (length_scanContent hcontent)
  split at h
  · split at h
    · exact (length_scanNumber h).trans (length_dropWhile_le _ _)
    · cases h
  split at h
  · rename_i hdigit
    have hlength := length_scanNumber h
    rw [hs, List.dropWhile_cons_of_pos hdigit] at hlength
    exact hlength.trans (length_dropWhile_le _ _)
  split at h
  · cases h
  split at h
  · rename_i halpha
    have halnum : first.isAlphanum = true := by rw [Char.isAlphanum, halpha, Bool.true_or]
    cases h
    rw [bump_rest, hs, List.dropWhile_cons_of_pos halnum]
    exact length_dropWhile_le _ _
  · cases h

/-- **Every token shortens what is left.**  This is what the parser, whose loops take tokens,
terminates by. -/
theorem length_nextToken {token : Token} (h : s.nextToken = .ok (some token, after)) :
    after.rest.length < s.rest.length := by
  have hskip := length_skip s.rest s.offset s.line s.column
  unfold nextToken skipWhitespace at h
  dsimp only at h
  split at h
  · cases h
  · rename_i first rest hrest
    rw [hrest, List.length_cons] at hskip
    cases hkind : scanKind first rest (skip s.rest s.offset s.line s.column) with
    | error e => rw [hkind] at h; cases h
    | ok result =>
      rw [hkind] at h
      cases h
      have hlength := length_scanKind hrest hkind
      omega

theorem length_nextToken_none (h : s.nextToken = .ok (none, after)) :
    after.rest.length ≤ s.rest.length := by
  have hskip := length_skip s.rest s.offset s.line s.column
  unfold nextToken skipWhitespace at h
  dsimp only at h
  split at h
  · cases h
    exact hskip
  · rename_i first rest hrest
    cases hkind : scanKind first rest (skip s.rest s.offset s.line s.column) with
    | error e => rw [hkind] at h; cases h
    | ok result => rw [hkind] at h; cases h

/-! ## The tokens of a text -/

/-- The tokens that follow, and the error that ends them if one does; each unit of fuel is one
token. -/
def stream : ℕ → Scanner → List Token × Option ParseError
  | 0, _ => ([], none)
  | fuel + 1, s =>
    match s.nextToken with
    | .error e => ([], some e)
    | .ok (none, _) => ([], none)
    | .ok (some token, s) => (token :: (stream fuel s).1, (stream fuel s).2)

/-- What repeated calls of `next_token` deliver. -/
def remaining (s : Scanner) : List Token × Option ParseError := stream (s.rest.length + 1) s

theorem stream_eq {fuel fuel' : ℕ} (hfuel : s.rest.length < fuel) (hfuel' : s.rest.length < fuel') :
    stream fuel s = stream fuel' s := by
  induction fuel generalizing s fuel' with
  | zero => exact absurd hfuel (Nat.not_lt_zero _)
  | succ fuel ih =>
    cases fuel' with
    | zero => exact absurd hfuel' (Nat.not_lt_zero _)
    | succ fuel' =>
      rw [stream, stream]
      split
      · rfl
      · rfl
      · rename_i token s' hnext
        have hless := length_nextToken hnext
        have heq : stream fuel s' = stream fuel' s' := ih (by omega) (by omega)
        rw [heq]

/-- **The next token is the first of those that remain.**  With it a cursor is described by a
list of tokens, and scanning drops out of the proofs about the parser. -/
theorem remaining_eq (s : Scanner) :
    s.remaining = match s.nextToken with
      | .error e => ([], some e)
      | .ok (none, _) => ([], none)
      | .ok (some token, s) => (token :: s.remaining.1, s.remaining.2) := by
  rw [remaining, stream]
  split
  · rfl
  · rfl
  · rename_i token s' hnext
    have hless := length_nextToken hnext
    rw [remaining, stream_eq hless (Nat.lt_succ_self _)]

end

end Scanner

/-- The tokens of a whole text. -/
def scan (input : Text) : Except ParseError (List Token) :=
  match (Scanner.new input).remaining with
  | (tokens, none) => .ok tokens
  | (_, some e) => .error e

theorem scan_eq_ok {input : Text} {tokens : List Token} :
    scan input = .ok tokens ↔ (Scanner.new input).remaining = (tokens, none) := by
  unfold scan
  split
  · rename_i ts h
    rw [h]
    simp
  · rename_i ts e h
    rw [h]
    simp

end Sml
end SecsRust

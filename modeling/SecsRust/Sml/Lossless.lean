import SecsRust.Sml.ByteScanner

/-!
# What the scanner returns and what it leaves out

The tokens of a text lie one behind the other, there is only whitespace between them, and
each says where it starts. `Tiles` is that statement about the tokens that repeated calls of
`next_token` return: a token is the text between two offsets (`lexeme`), the second of which
is where the call has stopped, and its position is `positionAfter` of everything before it,
which counts bytes, newlines and the characters since the last of them.

`scanner_lossless` proves it for every text and every number of calls; that the calls never
panic is part of it, and so is that they come to an end.  It is about the scanner over
bytes, and the tokens are those that the parser is given (`tokenCalls_eq`).

## Positions

A position is kept character by character, and `positionAfter` computes it from the text.
The two agree because the position behind two pieces of text is that of the second piece,
started at the first.  This holds only where no pair of carriage return and line feed is
broken between the pieces, since the pair is one newline.  The scanner takes the pair in one
step, so it never stops between the two; `Unbroken` is that invariant.
-/

namespace SecsRust
namespace Sml

/-! ## Places -/

/-- A character between tokens. -/
def isWhitespace (c : Char) : Bool := c == ' ' || c == '\t' || c == '\r' || c == '\n'

/-- The newlines of a text: a carriage return, a line feed, or a pair of both. -/
def newlines : Text → ℕ
  | '\r' :: '\n' :: rest => newlines rest + 1
  | '\r' :: rest => newlines rest + 1
  | '\n' :: rest => newlines rest + 1
  | _ :: rest => newlines rest
  | [] => 0

/-- The characters since the last newline. -/
def lastLine (text : Text) : ℕ := (text.reverse.takeWhile fun c => c != '\r' && c != '\n').length

/-- The position behind a text: its bytes, its newlines and its last line. -/
def positionAfter (before : Text) : SourcePos :=
  ⟨(utf8 before).length, 1 + newlines before, 1 + lastLine before⟩

/-- The place between the two texts is not inside a pair. -/
def Unbroken (before rest : Text) : Prop := before.getLast? = some '\r' → rest.head? ≠ some '\n'

/-- A character that takes one byte and one column. -/
def Plain (c : Char) : Prop := c.toNat < 0x80 ∧ c ≠ '\r' ∧ c ≠ '\n'

instance (c : Char) : Decidable (Plain c) := inferInstanceAs (Decidable (_ ∧ _))

section

variable {before rest text : Text} {c : Char}

theorem newlines_return (h : text.head? ≠ some '\n') :
    newlines ('\r' :: text) = newlines text + 1 := by
  rw [newlines]
  rintro rest rfl
  exact h rfl

theorem newlines_other (hreturn : c ≠ '\r') (hfeed : c ≠ '\n') :
    newlines (c :: text) = newlines text := by
  rw [newlines]
  · rintro rest rfl
    exact absurd rfl hreturn
  · exact hreturn
  · exact hfeed

/-- **Newlines add up** where no pair is broken. -/
theorem newlines_append (h : Unbroken before text) :
    newlines (before ++ text) = newlines before + newlines text := by
  fun_induction newlines before with
  | case1 rest ih =>
    have hrest : Unbroken rest text := fun hlast => h (by simp [List.getLast?_cons, hlast])
    rw [List.cons_append, List.cons_append, newlines, ih hrest]
    omega
  | case2 rest hnot ih =>
    have hrest : Unbroken rest text := fun hlast => h (by simp [List.getLast?_cons, hlast])
    rw [List.cons_append, newlines_return, ih hrest]
    · omega
    · cases rest with
      | nil => exact h rfl
      | cons c rest =>
        rintro ⟨⟩
        exact hnot rest rfl
  | case3 rest ih =>
    have hrest : Unbroken rest text := fun hlast => h (by simp [List.getLast?_cons, hlast])
    rw [List.cons_append, newlines, ih hrest]
    omega
  | case4 c rest hpair hreturn hfeed ih =>
    have hrest : Unbroken rest text := fun hlast => h (by simp [List.getLast?_cons, hlast])
    rw [List.cons_append, newlines_other hreturn hfeed, ih hrest]
  | case5 => rw [List.nil_append, Nat.zero_add]

/-- Plain characters are one line. -/
theorem newlines_plain (h : ∀ c ∈ text, Plain c) : newlines text = 0 := by
  induction text with
  | nil => rfl
  | cons c text ih =>
    obtain ⟨⟨-, hreturn, hfeed⟩, htext⟩ := List.forall_mem_cons.mp h
    rw [newlines_other hreturn hfeed, ih htext]

theorem unbroken_plain (hc : Plain c) : Unbroken before (c :: rest) := by
  rintro - ⟨⟩
  exact hc.2.2 rfl

/-- Behind a plain character no pair is broken. -/
theorem unbroken_behind (hnil : text ≠ []) (h : ∀ c ∈ text, Plain c) :
    Unbroken (before ++ text) rest := by
  intro hlast
  rw [List.getLast?_append_of_ne_nil _ hnil] at hlast
  exact absurd rfl (h _ (List.mem_of_getLast? hlast)).2.1

theorem lastLine_plain (h : ∀ c ∈ text, Plain c) :
    lastLine (before ++ text) = lastLine before + text.length := by
  have hline : ∀ c ∈ text.reverse, (c != '\r' && c != '\n') = true := by
    intro c hc
    obtain ⟨-, hreturn, hfeed⟩ := h c (List.mem_reverse.mp hc)
    simp [hreturn, hfeed]
  rw [lastLine, List.reverse_append, List.takeWhile_append_of_pos hline, List.length_append,
    List.length_reverse, Nat.add_comm]
  rfl

/-- A line starts behind a newline. -/
theorem lastLine_newline (hc : c = '\r' ∨ c = '\n') : lastLine (before ++ [c]) = 0 := by
  rw [lastLine, List.reverse_append, List.reverse_singleton, List.singleton_append,
    List.takeWhile_cons_of_neg (by rcases hc with rfl | rfl <;> decide), List.length_nil]

/-- **Plain characters move the position** by one byte and one column each. -/
theorem positionAfter_plain (hnil : text ≠ []) (h : ∀ c ∈ text, Plain c) :
    positionAfter (before ++ text) = ⟨(positionAfter before).offset + text.length,
      (positionAfter before).line, (positionAfter before).column + text.length⟩ := by
  obtain ⟨c, rest, rfl⟩ := List.exists_cons_of_ne_nil hnil
  have hunbroken : Unbroken before (c :: rest) := unbroken_plain (h c List.mem_cons_self)
  simp only [positionAfter, utf8_append, List.length_append, newlines_append hunbroken,
    newlines_plain h, lastLine_plain h, length_utf8_of_lt fun c hc => (h c hc).1, Nat.add_assoc,
    Nat.add_zero]

/-- **A newline starts a line.** -/
theorem positionAfter_newline {head : Text} (hunbroken : Unbroken before (head ++ [c]))
    (hc : c = '\r' ∨ c = '\n') (hhead : ∀ c ∈ head, c.toNat < 0x80)
    (hone : newlines (head ++ [c]) = 1) :
    positionAfter (before ++ (head ++ [c])) = ⟨(positionAfter before).offset + (head.length + 1),
      (positionAfter before).line + 1, 1⟩ := by
  have hascii : ∀ c' ∈ head ++ [c], c'.toNat < 0x80 := by
    refine List.forall_mem_append.mpr ⟨hhead, List.forall_mem_singleton.mpr ?_⟩
    rcases hc with rfl | rfl <;> decide
  have hline : lastLine (before ++ (head ++ [c])) = 0 := by
    rw [← List.append_assoc]
    exact lastLine_newline hc
  simp only [positionAfter, newlines_append hunbroken, hone, hline, utf8_append before,
    List.length_append, length_utf8_of_lt hascii, List.length_singleton, Nat.add_assoc]

/-! ## Whitespace -/

/-- The scanner has gone over whitespace, from behind `before` to the place where it is. -/
def Skipped (before rest : Text) (after : Scanner) : Prop :=
  ∃ gap, rest = gap ++ after.rest ∧ (∀ c ∈ gap, isWhitespace c = true) ∧
    after.currentPos = positionAfter (before ++ gap) ∧ Unbroken (before ++ gap) after.rest

theorem Skipped.behind (head : Text) {after : Scanner} (h : Skipped (before ++ head) rest after)
    (hhead : ∀ c ∈ head, isWhitespace c = true) : Skipped before (head ++ rest) after := by
  obtain ⟨gap, hrest, hgap, hafter, hunbroken⟩ := h
  rw [List.append_assoc] at hafter hunbroken
  refine ⟨head ++ gap, ?_, List.forall_mem_append.mpr ⟨hhead, hgap⟩, hafter, hunbroken⟩
  rw [List.append_assoc, ← hrest]

/-- **Whitespace is passed over** with its newlines counted. -/
theorem skipped_skip {offset line column : ℕ}
    (hpos : (⟨offset, line, column⟩ : SourcePos) = positionAfter before)
    (hunbroken : Unbroken before rest) :
    Skipped before rest (Scanner.skip rest offset line column) := by
  fun_induction Scanner.skip rest offset line column generalizing before with
  | case1 offset line column rest ih =>
    have hplain : ∀ c ∈ [' '], Plain c := List.forall_mem_singleton.mpr (by decide)
    refine Skipped.behind _ (ih ?_ (unbroken_behind (List.cons_ne_nil _ _) hplain))
      (List.forall_mem_singleton.mpr rfl)
    rw [positionAfter_plain (List.cons_ne_nil _ _) hplain, ← hpos]
    rfl
  | case2 offset line column rest ih =>
    have hplain : ∀ c ∈ ['\t'], Plain c := List.forall_mem_singleton.mpr (by decide)
    refine Skipped.behind _ (ih ?_ (unbroken_behind (List.cons_ne_nil _ _) hplain))
      (List.forall_mem_singleton.mpr rfl)
    rw [positionAfter_plain (List.cons_ne_nil _ _) hplain, ← hpos]
    rfl
  | case3 offset line column rest ih =>
    have hfeed : Unbroken before ['\n'] := fun hlast => absurd rfl (hunbroken hlast)
    refine Skipped.behind ['\n'] (ih ?_ ?_) (List.forall_mem_singleton.mpr rfl)
    · rw [← List.nil_append ['\n'], positionAfter_newline hfeed (.inr rfl) (by simp) rfl, ← hpos]
      rfl
    · rw [Unbroken, List.getLast?_concat]
      rintro ⟨⟩
  | case4 offset line column rest ih =>
    have hpair : Unbroken before ['\r', '\n'] := by rintro - ⟨⟩
    refine Skipped.behind (['\r'] ++ ['\n']) (ih ?_ ?_)
      (List.forall_mem_cons.mpr ⟨rfl, List.forall_mem_singleton.mpr rfl⟩)
    · rw [positionAfter_newline hpair (.inr rfl) (List.forall_mem_singleton.mpr (by decide)) rfl,
        ← hpos]
      rfl
    · rw [Unbroken, ← List.append_assoc, List.getLast?_concat]
      rintro ⟨⟩
  | case5 offset line column rest hnot ih =>
    have hreturn : Unbroken before ['\r'] := by rintro - ⟨⟩
    refine Skipped.behind ['\r'] (ih ?_ ?_) (List.forall_mem_singleton.mpr rfl)
    · rw [← List.nil_append ['\r'], positionAfter_newline hreturn (.inl rfl) (by simp) rfl, ← hpos]
      rfl
    · rintro - hhead
      obtain ⟨tail, rfl⟩ := List.head?_eq_some_iff.mp hhead
      exact hnot tail rfl
  | case6 offset line column rest =>
    refine ⟨[], rfl, List.forall_mem_nil _, ?_, ?_⟩
    · rw [List.append_nil]
      exact hpos
    · rwa [List.append_nil]

/-! ## Tokens -/

/-- The characters of a token. -/
def lexeme : TokenKind → Text
  | .word text => text
  | .str content => quote :: (content ++ [quote])
  | .hexByte _ text => text
  | .int _ _ text => text
  | .float text => text
  | .lt => ['<']
  | .gt => ['>']
  | .lBracket => ['[']
  | .rBracket => [']']
  | .dot => ['.']

/-- The text of a sign. -/
def minusText (negative : Bool) : Text := if negative then ['-'] else []

/-- The number with a sign. -/
def signed (negative : Bool) (n : ℕ) : ℤ := if negative then -n else n

/-- **A number token carries the value of its text**, and an integer fits `i128`. -/
def Exact : TokenKind → Prop
  | .hexByte value text => ∃ digits, text = '0' :: 'x' :: digits ∧ digits.length = 2 ∧
      (∀ c ∈ digits, isHexDigit c = true) ∧ value.toNat = hexValue digits
  | .int value true text => ∃ negative digits, text = minusText negative ++ '0' :: 'x' :: digits ∧
      digits ≠ [] ∧ (∀ c ∈ digits, isHexDigit c = true) ∧
        value = signed negative (hexValue digits) ∧
        hexValue digits ≤ i128Max
  | .int value false text => ∃ negative digits, text = minusText negative ++ digits ∧ digits ≠ [] ∧
      (∀ c ∈ digits, c.isDigit = true) ∧ value = signed negative (Nat.ofDigitChars 10 digits 0) ∧
        Nat.ofDigitChars 10 digits 0 ≤ i128Max
  | _ => True

/-- What a call has read when it returns a token: exactly the characters of the token. -/
structure Consumed (s : Scanner) (kind : TokenKind) (after : Scanner) : Prop where
  rest : s.rest = lexeme kind ++ after.rest
  after_eq : after = s.bump (lexeme kind).length after.rest
  ne_nil : lexeme kind ≠ []
  plain : ∀ c ∈ lexeme kind, Plain c
  exact : Exact kind

variable {s after : Scanner} {kind : TokenKind} {startPos : SourcePos} {negative : Bool}

theorem plain_of_isAlphanum (h : c.isAlphanum = true) : Plain c := by
  obtain ⟨-, -, hfeed, hreturn⟩ := solid_of_isAlphanum h
  exact ⟨lt_of_isAlphanum h, hreturn, hfeed⟩

theorem plain_of_isDigit (h : c.isDigit = true) : Plain c := plain_of_isAlphanum
    (isAlphanum_of_isDigit h)

theorem plain_of_isHexDigit (h : isHexDigit c = true) : Plain c :=
  plain_of_isAlphanum (isAlphanum_of_isHexDigit h)

theorem plain_minusText (negative : Bool) : ∀ c ∈ minusText negative, Plain c := by
  cases negative with
  | true => exact List.forall_mem_singleton.mpr (by decide)
  | false => exact fun _ h => (nomatch h)

theorem consumed_scanWord (hs : s.rest = c :: rest) (hc : c.isAlphanum = true) :
    Consumed s s.scanWord.1 s.scanWord.2 := by
  refine ⟨(List.takeWhile_append_dropWhile).symm, rfl, ?_, ?_, trivial⟩
  · show s.rest.takeWhile Char.isAlphanum ≠ []
    rw [hs, List.takeWhile_cons_of_pos hc]
    exact List.cons_ne_nil _ _
  · intro c hc
    exact plain_of_isAlphanum (List.all_eq_true.mp List.all_takeWhile c hc)

/-- The content of a quoted fragment, up to its quote. -/
theorem scanContent_spec {openPos : SourcePos} {content : Text} :
    ∀ {s : Scanner}, Scanner.scanContent openPos s text = .ok (content, after) →
      text = content ++ quote :: after.rest ∧ after = s.bump (content.length + 1) after.rest ∧
        ∀ c ∈ content, Plain c := by
  induction text generalizing content with
  | nil => intro s h; cases h
  | cons c text ih =>
    intro s h
    unfold Scanner.scanContent at h
    split_ifs at h with hquote hbackslash hprintable
    · cases h
      exact ⟨by rw [hquote]; rfl, rfl, List.forall_mem_nil _⟩
    · cases htail : Scanner.scanContent openPos (s.bump 1 text) text with
      | error e => rw [htail] at h; cases h
      | ok result =>
        obtain ⟨tail, final⟩ := result
        rw [htail] at h
        cases h
        obtain ⟨htext, hafter, hplain⟩ := ih htail
        refine ⟨congrArg (List.cons c) htext, ?_,
          List.forall_mem_cons.mpr ⟨⟨by omega, ?_, ?_⟩, hplain⟩⟩
        · rw [hafter, Reads.bump_bump, List.length_cons]
          congr 1
          omega
        · rintro rfl
          exact absurd hprintable.1 (by decide)
        · rintro rfl
          exact absurd hprintable.1 (by decide)

theorem consumed_scanString {openPos : SourcePos} (hs : s.rest = quote :: rest)
    (h : s.scanString openPos = .ok (kind, after)) : Consumed s kind after := by
  rw [Scanner.scanString, hs, List.tail_cons] at h
  cases hcontent : Scanner.scanContent openPos (s.bump 1 rest) rest with
  | error e => rw [hcontent] at h; cases h
  | ok result =>
    obtain ⟨content, final⟩ := result
    rw [hcontent] at h
    cases h
    obtain ⟨htext, hafter, hplain⟩ := scanContent_spec hcontent
    have hquote : Plain quote := by decide
    refine ⟨?_, ?_, List.cons_ne_nil _ _, ?_, trivial⟩
    · rw [hs, htext, lexeme, List.cons_append, List.append_assoc]
      rfl
    · refine hafter.trans ?_
      rw [Reads.bump_bump, lexeme, List.length_cons, List.length_append, List.length_singleton,
        Nat.add_comm 1]
    · exact List.forall_mem_cons.mpr ⟨hquote,
        List.forall_mem_append.mpr ⟨hplain, List.forall_mem_singleton.mpr hquote⟩⟩

theorem hexRun_append (count : ℕ) (text : Text) :
    text = Scanner.hexRun count text ++ text.drop (Scanner.hexRun count text).length := by
  induction text generalizing count with
  | nil => rfl
  | cons c text ih =>
    rw [Scanner.hexRun]
    split_ifs with hc hstop
    · rfl
    · exact congrArg (List.cons c) (ih (count + 1))
    · rfl

theorem hexDigitValue_lt (h : isHexDigit c = true) : hexDigitValue c < 16 := by
  rw [isHexDigit] at h
  unfold hexDigitValue
  simp only [Char.isDigit, Bool.or_eq_true, Bool.and_eq_true, decide_eq_true_eq, Char.le_def,
    UInt32.le_iff_toNat_le, ge_iff_le] at h ⊢
  change ((48 ≤ c.toNat ∧ c.toNat ≤ 57) ∨ 97 ≤ c.toNat ∧ c.toNat ≤ 102) ∨ 65 ≤ c.toNat ∧
    c.toNat ≤ 70 at h
  change (if 48 ≤ c.toNat ∧
    c.toNat ≤ 57 then c.toNat - 48 else if 97 ≤ c.toNat then c.toNat - 97 + 10
    else c.toNat - 65 + 10) < 16
  split_ifs <;> omega

/-- Two hexadecimal digits are a byte. -/
theorem hexValue_two {digits : Text} (hlength : digits.length = 2)
    (hdigits : ∀ c ∈ digits, isHexDigit c = true) : hexValue digits < 256 := by
  obtain ⟨a, b, rfl⟩ := List.length_eq_two.mp hlength
  have ha := hexDigitValue_lt (hdigits a (by simp))
  have hb := hexDigitValue_lt (hdigits b (by simp))
  simp only [hexValue, List.foldl_cons, List.foldl_nil]
  omega

theorem signed_eq (negative : Bool) (n : ℕ) :
    (if negative then -(n : ℤ) else n) = signed negative n := rfl

theorem plain_hexText (negative : Bool) {digits : Text}
    (hdigits : ∀ c ∈ digits, isHexDigit c = true) :
    ∀ c ∈ minusText negative ++ '0' :: 'x' :: digits, Plain c :=
  List.forall_mem_append.mpr ⟨plain_minusText negative, List.forall_mem_cons.mpr ⟨by decide,
    List.forall_mem_cons.mpr ⟨by decide, fun c hc => plain_of_isHexDigit (hdigits c hc)⟩⟩⟩

/-- What a hexadecimal literal takes, behind its `0`. -/
theorem scanHexTail_spec (hs : s.rest = 'x' :: rest)
    (h : s.scanHexTail startPos negative (minusText negative) = .ok (kind, after)) :
    ∃ digits, s.rest = 'x' :: digits ++ after.rest ∧ after = s.bump (1 + digits.length) after.rest ∧
      lexeme kind = minusText negative ++ '0' :: 'x' :: digits ∧ Exact kind ∧
        ∀ c ∈ digits, isHexDigit c = true := by
  have hdigits := Reads.hexRun_isHexDigit 0 rest
  have hsplit := hexRun_append 0 rest
  unfold Scanner.scanHexTail at h
  dsimp only at h
  simp only [hs, List.tail_cons, signed_eq] at h
  refine ⟨Scanner.hexRun 0 rest, ?_⟩
  split_ifs at h with hnil hbyte hfits
  · cases h
    refine ⟨hs.trans (congrArg (List.cons 'x') hsplit), rfl, rfl, ?_, hdigits⟩
    obtain ⟨hlength, hnegative⟩ := hbyte
    rw [Bool.not_eq_true] at hnegative
    subst hnegative
    refine ⟨_, rfl, hlength, hdigits, ?_⟩
    rw [UInt8.toNat_ofNat', Nat.mod_eq_of_lt (hexValue_two hlength hdigits)]
  · cases h
    exact ⟨hs.trans (congrArg (List.cons 'x') hsplit), rfl, rfl,
      ⟨negative, _, rfl, hnil, hdigits, rfl, hfits⟩, hdigits⟩

/-- A prefix of a text, all of plain characters. -/
def PlainPrefix (head text : Text) : Prop :=
  text = head ++ text.drop head.length ∧ ∀ c ∈ head, Plain c

theorem plainPrefix_nil (text : Text) : PlainPrefix [] text := ⟨rfl, fun _ h => (nomatch h)⟩

theorem plainPrefix_digits (text : Text) : PlainPrefix (text.takeWhile Char.isDigit) text := by
  refine ⟨?_, fun c hc => plain_of_isDigit (List.all_eq_true.mp List.all_takeWhile c hc)⟩
  rw [Reads.drop_takeWhile, List.takeWhile_append_dropWhile]

theorem PlainPrefix.cons {head : Text} (hc : Plain c) (h : PlainPrefix head text) :
    PlainPrefix (c :: head) (c :: text) :=
  ⟨congrArg (List.cons c) h.1, List.forall_mem_cons.mpr ⟨hc, h.2⟩⟩

theorem plainPrefix_fraction (text : Text) : PlainPrefix (Scanner.fraction text) text := by
  fun_cases Scanner.fraction text with
  | case1 rest hdigit => exact (plainPrefix_digits rest).cons (by decide)
  | case2 rest hdigit => exact plainPrefix_nil _
  | case3 => exact plainPrefix_nil _

theorem plainPrefix_exponent (text : Text) : PlainPrefix (Scanner.exponent text) text := by
  cases text with
  | nil => exact plainPrefix_nil []
  | cons c rest =>
    by_cases hexp : (c = 'e' ∨ c = 'E') ∧ Reads.StartsExponent rest
    · obtain ⟨hc, sign, rest', rfl, hsign⟩ := hexp
      have hplain : Plain c := by rcases hc with rfl | rfl <;> decide
      by_cases hdigit : sign.isDigit = true
      · rw [Reads.exponent_digit hc hdigit]
        exact (plainPrefix_digits _).cons hplain
      · have hpm := hsign.resolve_left hdigit
        have hsign' : Plain sign := by rcases hpm.1 with rfl | rfl <;> decide
        rw [Reads.exponent_sign hc hdigit hpm]
        exact ((plainPrefix_digits _).cons hsign').cons hplain
    · rw [Reads.exponent_nil hexp]
      exact plainPrefix_nil _

/-- What a number takes, behind its sign. -/
theorem scanNumber_spec (hs : s.rest = c :: rest) (hc : c.isDigit = true)
    (h : s.scanNumber startPos negative = .ok (kind, after)) :
    ∃ body, s.rest = body ++ after.rest ∧ after = s.bump body.length after.rest ∧
      lexeme kind = minusText negative ++ body ∧ body ≠ [] ∧ (∀ c ∈ body, Plain c) ∧
        Exact kind := by
  have hint : s.rest.takeWhile Char.isDigit ≠ [] := by
    rw [hs, List.takeWhile_cons_of_pos hc]
    exact List.cons_ne_nil _ _
  have hdigits : ∀ c ∈ s.rest.takeWhile Char.isDigit, c.isDigit = true :=
    List.all_eq_true.mp List.all_takeWhile
  have hsplit : s.rest = s.rest.takeWhile Char.isDigit ++ s.rest.dropWhile Char.isDigit :=
    List.takeWhile_append_dropWhile.symm
  unfold Scanner.scanNumber at h
  dsimp only at h
  change (if _ then Scanner.scanHexTail startPos negative (minusText negative) _ else _) = _ at h
  split at h
  · rename_i hhex
    obtain ⟨tail, htail⟩ := List.head?_eq_some_iff.mp hhex.2
    obtain ⟨digits, hrest, hafter, hlexeme, hexact, hdigits⟩ :=
      scanHexTail_spec (show _ = 'x' :: tail from htail) h
    rw [hhex.1] at hsplit
    refine ⟨'0' :: 'x' :: digits, ?_, ?_, hlexeme, List.cons_ne_nil _ _, ?_, hexact⟩
    · rw [hsplit]
      exact congrArg (List.cons '0') hrest
    · refine hafter.trans ?_
      rw [Reads.bump_bump, List.length_cons, List.length_cons]
      congr 1
      omega
    · exact plain_hexText false hdigits
  · have hfrac := plainPrefix_fraction (s.rest.dropWhile Char.isDigit)
    have hexp := plainPrefix_exponent ((s.rest.dropWhile Char.isDigit).drop
      (Scanner.fraction (s.rest.dropWhile Char.isDigit)).length)
    generalize Scanner.fraction (s.rest.dropWhile Char.isDigit) = frac at hfrac hexp h
    generalize Scanner.exponent ((s.rest.dropWhile Char.isDigit).drop frac.length) = exp at hexp h
    have hbody : s.rest = (s.rest.takeWhile Char.isDigit ++ frac ++ exp) ++
        ((s.rest.dropWhile Char.isDigit).drop frac.length).drop exp.length := by
      rw [List.append_assoc, List.append_assoc, ← hexp.1, ← hfrac.1]
      exact hsplit
    have hlength : (s.rest.takeWhile Char.isDigit ++ frac ++ exp).length =
        (s.rest.takeWhile Char.isDigit).length + frac.length + exp.length := by
      rw [List.length_append, List.length_append]
    have hplain : ∀ c ∈ s.rest.takeWhile Char.isDigit ++ frac ++ exp, Plain c :=
      List.forall_mem_append.mpr ⟨List.forall_mem_append.mpr
        ⟨fun c hc => plain_of_isDigit (hdigits c hc), hfrac.2⟩, hexp.2⟩
    have hnil : s.rest.takeWhile Char.isDigit ++ frac ++ exp ≠ [] := by simp [hint]
    have htext : (if negative then ['-'] else []) ++ s.rest.takeWhile Char.isDigit ++ frac ++ exp =
        minusText negative ++ (s.rest.takeWhile Char.isDigit ++ frac ++ exp) := by
      simp only [minusText, List.append_assoc]
    simp only [signed_eq, htext, ← hlength] at h
    split_ifs at h with hfloat hfits
    · cases h
      exact ⟨_, hbody, rfl, rfl, hnil, hplain, trivial⟩
    · cases h
      obtain ⟨rfl, rfl⟩ : frac = [] ∧ exp = [] := by simpa using hfloat
      refine ⟨_, hbody, rfl, rfl, hnil, hplain, negative, s.rest.takeWhile Char.isDigit, ?_,
        hint, hdigits, rfl, hfits⟩
      rw [List.append_nil, List.append_nil]

/-- **A token is what the scanner has read for it.** -/
theorem consumed_scanKind (hs : s.rest = c :: rest) (h : s.scanKind c rest = .ok (kind, after)) :
    Consumed s kind after := by
  unfold Scanner.scanKind at h
  split at h
  · cases h
  rename_i hascii
  have hlt : c.toNat < 0x80 := of_decide_eq_true (of_not_not hascii)
  split at h
  · rename_i hpunctuation
    cases h
    have hkind : lexeme kind = [c] ∧ Exact kind ∧ Plain c := by
      revert hpunctuation
      fun_cases Scanner.punctuation c <;> rintro ⟨⟩ <;> exact ⟨rfl, trivial, by decide⟩
    refine ⟨?_, ?_, ?_, ?_, hkind.2.1⟩ <;> rw [hkind.1]
    · exact hs
    · rfl
    · exact List.cons_ne_nil _ _
    · exact List.forall_mem_singleton.mpr hkind.2.2
  split at h
  · rename_i hquote
    exact consumed_scanString (hquote ▸ hs) h
  split at h
  · rename_i hminus
    subst hminus
    split at h
    · rename_i hdigit
      obtain ⟨d, rest, rfl⟩ : ∃ d tail, rest = d :: tail := by
        cases rest with
        | nil => cases hdigit
        | cons d tail => exact ⟨d, tail, rfl⟩
      obtain ⟨body, hrest, hafter, hlexeme, hnil, hplain, hexact⟩ :=
        scanNumber_spec (s := s.bump 1 (d :: rest)) rfl hdigit h
      refine ⟨?_, ?_, ?_, ?_, hexact⟩ <;> rw [hlexeme]
      · rw [hs]
        exact congrArg (List.cons '-') hrest
      · refine hafter.trans ?_
        rw [Reads.bump_bump, List.length_append]
        rfl
      · exact List.cons_ne_nil _ _
      · exact List.forall_mem_append.mpr ⟨plain_minusText true, hplain⟩
    · cases h
  split at h
  · rename_i hdigit
    obtain ⟨body, hrest, hafter, hlexeme, hnil, hplain, hexact⟩ := scanNumber_spec hs hdigit h
    refine ⟨?_, ?_, ?_, ?_, hexact⟩ <;> rw [hlexeme]
    · exact hrest
    · exact hafter
    · exact hnil
    · exact hplain
  split at h
  · cases h
  split at h
  · rename_i halpha
    cases h
    exact consumed_scanWord hs (isAlphanum_of_isAlpha halpha)
  · cases h

/-! ## Calls -/

/-- The scanner is where its position says, and not inside a pair. -/
structure Located (before : Text) (s : Scanner) : Prop where
  pos : s.currentPos = positionAfter before
  unbroken : Unbroken before s.rest

theorem located_new (input : Text) : Located [] (Scanner.new input) := by
  refine ⟨rfl, ?_⟩
  rintro ⟨⟩

/-- **One call** passes over whitespace and takes a token. -/
theorem nextToken_some {token : Token} (hs : Located before s)
    (h : s.nextToken = .ok (some token, after)) :
    ∃ gap, s.rest = gap ++ (lexeme token.kind ++ after.rest) ∧ (∀ c ∈ gap, isWhitespace c = true) ∧
      lexeme token.kind ≠ [] ∧ token.pos = positionAfter (before ++ gap) ∧ Exact token.kind ∧
        Located (before ++ gap ++ lexeme token.kind) after := by
  obtain ⟨gap, hrest, hgap, hpos, -⟩ := skipped_skip hs.pos hs.unbroken
  unfold Scanner.nextToken at h
  dsimp only at h
  split at h
  · cases h
  · rename_i first rest hfirst
    cases hkind : s.skipWhitespace.scanKind first rest with
    | error e => rw [hkind] at h; cases h
    | ok result =>
      obtain ⟨kind, final⟩ := result
      rw [hkind] at h
      cases h
      have hconsumed := consumed_scanKind hfirst hkind
      refine ⟨gap, hrest.trans (congrArg (gap ++ ·) hconsumed.rest), hgap, hconsumed.ne_nil, hpos,
        hconsumed.exact, ?_, unbroken_behind hconsumed.ne_nil hconsumed.plain⟩
      rw [positionAfter_plain hconsumed.ne_nil hconsumed.plain, ← hpos, hconsumed.after_eq]
      rfl

/-- The last call finds only whitespace. -/
theorem nextToken_none (hs : Located before s) (h : s.nextToken = .ok (none, after)) :
    ∀ c ∈ s.rest, isWhitespace c = true := by
  obtain ⟨gap, hrest, hgap, -, -⟩ := skipped_skip hs.pos hs.unbroken
  unfold Scanner.nextToken at h
  dsimp only at h
  split at h
  · rename_i hnil
    rw [hrest]
    refine List.forall_mem_append.mpr ⟨hgap, ?_⟩
    change (Scanner.skip s.rest s.offset s.line s.column).rest = [] at hnil
    rw [hnil]
    exact fun _ h => (nomatch h)
  · rename_i first rest hfirst
    cases hkind : s.skipWhitespace.scanKind first rest <;> rw [hkind] at h <;> cases h

end

/-- How a sequence of calls stands. -/
inductive CallsEnd where
  | unfinished
  | finished
  | refused (e : ParseError)
  | panicked
  deriving DecidableEq

/-- So many calls of `next_token`, or fewer where one is the last: the tokens, each with the offset
behind it, and how the calls stand. -/
def tokenCalls : ℕ → ByteScanner → List (Token × ℕ) × CallsEnd
  | 0, _ => ([], .unfinished)
  | calls + 1, s =>
    match s.nextToken with
    | .error (.refused e) => ([], .refused e)
    | .error .outOfBoundary => ([], .panicked)
    | .ok (none, _) => ([], .finished)
    | .ok (some token, s) => ((token, s.offset) :: (tokenCalls calls s).1, (tokenCalls calls s).2)

/-- **The tokens tile the text** from an offset on.  Before each there is only whitespace; it starts
at its position and ends behind it, what is between is its characters, and there are some; its
position counts the bytes, the newlines and the last line before it; and its value is that of its
text.  Behind the last there is only whitespace, if the calls have come to the end. -/
def Tiles (input : Text) (last : CallsEnd) : ℕ → List (Token × ℕ) → Prop
  | start, [] => last = .finished → ∃ gap, slice input start (utf8 input).length = some gap ∧
      ∀ c ∈ gap, isWhitespace c = true
  | start, (token, stop) :: found =>
    (∃ gap, slice input start token.pos.offset = some gap ∧ ∀ c ∈ gap, isWhitespace c = true) ∧
    token.pos.offset < stop ∧ slice input token.pos.offset stop = some (lexeme token.kind) ∧
    (∃ before, slice input 0 token.pos.offset = some before ∧ token.pos = positionAfter before) ∧
    Exact token.kind ∧ Tiles input last stop found

section

variable {input before : Text} {b : ByteScanner} {s : Scanner}

/-- **From a place on**, the calls return what tiles the rest of the text. -/
theorem tiles_tokenCalls (calls : ℕ) : ∀ {before : Text} {b : ByteScanner} {s : Scanner},
    Reads input before b s → Located before s →
      Tiles input (tokenCalls calls b).2 b.offset (tokenCalls calls b).1 ∧
      (tokenCalls calls b).2 ≠ .panicked ∧
      (s.rest.length < calls → (tokenCalls calls b).2 ≠ .unfinished) := by
  induction calls with
  | zero =>
    intro before b s _ _
    exact ⟨(fun h => nomatch h), (fun h => nomatch h), fun h => absurd h (Nat.not_lt_zero _)⟩
  | succ calls ih =>
    intro before b s h hs
    rw [tokenCalls]
    have hnext := h.nextToken
    cases hbytes : b.nextToken <;> cases hchars : s.nextToken <;> rw [hbytes, hchars] at hnext
    · cases hnext
      exact ⟨(fun h => nomatch h), (fun h => nomatch h), fun _ h => (nomatch h)⟩
    · cases hnext
    · cases hnext
    · cases hnext with
      | @ok result before' b' s' hafter =>
        cases result with
        | none =>
          refine ⟨fun _ => ⟨s.rest, ?_, nextToken_none hs hchars⟩, (fun h => nomatch h),
            fun _ h => (nomatch h)⟩
          have hslice := slice_append before s.rest []
          rw [List.append_nil, ← h.text, ← h.offset] at hslice
          exact hslice
        | some token =>
          obtain ⟨gap, hrest, hgap, hnil, hpos, hexact, hlocated⟩ := nextToken_some hs hchars
          have hinput : input = (before ++ gap ++ lexeme token.kind) ++ s'.rest := by
            rw [h.text, hrest]
            simp only [List.append_assoc]
          obtain rfl : before' = before ++ gap ++ lexeme token.kind :=
            List.append_cancel_right (hafter.text.symm.trans hinput)
          obtain ⟨htiles, hpanic, hend⟩ := ih hafter hlocated
          have hoffset : token.pos.offset = (utf8 (before ++ gap)).length := by rw [hpos]; rfl
          refine ⟨⟨⟨gap, ?_, hgap⟩, ?_, ?_, ⟨before ++ gap, ?_, hpos⟩, hexact, htiles⟩, hpanic, ?_⟩
          · rw [hinput, h.offset, hoffset, List.append_assoc before, List.append_assoc before,
              List.append_assoc gap]
            exact slice_append before gap (lexeme token.kind ++ s'.rest)
          · obtain ⟨c, tail, hcons⟩ := List.exists_cons_of_ne_nil hnil
            have hpositive := length_utf8_pos c tail
            rw [hoffset, hafter.offset, utf8_append (before ++ gap), List.length_append, hcons]
            omega
          · rw [hinput, hoffset, hafter.offset, List.append_assoc]
            exact slice_append (before ++ gap) (lexeme token.kind) s'.rest
          · rw [hinput, hoffset, List.append_assoc]
            exact slice_append [] (before ++ gap) (lexeme token.kind ++ s'.rest)
          · intro hcalls
            have hshorter := Scanner.length_nextToken hchars
            exact hend (by omega)

/-- **The tokens are those that the parser is given**, and the calls end as its scanner does. -/
theorem tokenCalls_eq {calls : ℕ} : ∀ {before : Text} {b : ByteScanner} {s : Scanner},
    Reads input before b s → s.rest.length < calls →
      (tokenCalls calls b).1.map Prod.fst = s.remaining.1 ∧
        (tokenCalls calls b).2 = s.remaining.2.elim .finished .refused := by
  induction calls with
  | zero => intro before b s _ hcalls; exact absurd hcalls (Nat.not_lt_zero _)
  | succ calls ih =>
    intro before b s h hcalls
    rw [tokenCalls, Scanner.remaining_eq]
    have hnext := h.nextToken
    cases hbytes : b.nextToken <;> cases hchars : s.nextToken <;> rw [hbytes, hchars] at hnext <;>
      cases hnext
    · exact ⟨rfl, rfl⟩
    · rename_i found _ _ _ hafter
      cases found with
      | none => exact ⟨rfl, rfl⟩
      | some token =>
        have hshorter := Scanner.length_nextToken hchars
        obtain ⟨htokens, hend⟩ := ih hafter (by omega)
        exact ⟨congrArg (List.cons token) htokens, hend⟩

/-- **The scanner is lossless and its positions are exact.**  For every text and every number of
calls of `next_token`, the tokens that have been returned tile the text from its start; no call has
panicked; and as every call takes at least one byte, the calls have come to an end when there are
more of them than bytes. -/
theorem scanner_lossless (input : Text) (calls : ℕ) :
    Tiles input (tokenCalls calls (.new input)).2 0 (tokenCalls calls (.new input)).1 ∧
    (tokenCalls calls (.new input)).2 ≠ .panicked ∧
    ((utf8 input).length < calls → (tokenCalls calls (.new input)).2 ≠ .unfinished) := by
  obtain ⟨htiles, hpanic, hend⟩ := tiles_tokenCalls calls (Reads.new input) (located_new input)
  exact ⟨htiles, hpanic, fun hcalls => hend ((length_le_utf8 input).trans_lt hcalls)⟩

end

end Sml
end SecsRust

import SecsRust.Sml.Scanner
import SecsRust.Sml.Formatter

/-!
# From texts back to tokens

`Lexes text ks` says that a text is these tokens wherever it stands: the positions of a
scanner decide what its errors say, and there are none here.  The lemmas take one token off
the front, and what they ask of the rest is only that it does not continue the token
(`lexes_cons`).

That condition is what makes texts compose.  The formatter puts a space or a bracket behind
every literal, and neither continues any token; so the tokens of a whole item are those of
its parts.

The texts of one token are the literals of the formatter: punctuation, words, quoted
fragments, bytes, integers and floats.  For each of them the scanner is run on the literal
once, with anything that does not continue it behind it, and the numbers take most of the
file, since the scanner decides between four kinds of them character by character.
-/

namespace SecsRust
namespace Sml

/-- **The text is these tokens**, wherever it stands.  Whatever the offset, the line and the
column are, and whatever the scanner has passed. -/
def Lexes (text : Text) (ks : List TokenKind) : Prop :=
  ∀ s : Scanner, s.rest = text → s.remaining.1.map Token.kind = ks ∧ s.remaining.2 = none

/-- What follows does not continue a word. -/
def EndsWord (rest : Text) : Prop := ∀ c ∈ rest.head?, c.isAlphanum = false

/-- What follows does not continue a number. -/
def EndsNumber (rest : Text) : Prop := ∀ c ∈ rest.head?, c.isAlphanum = false ∧ c ≠ '.'

/-- The character is not whitespace. -/
def Solid (c : Char) : Prop := c ≠ ' ' ∧ c ≠ '\t' ∧ c ≠ '\n' ∧ c ≠ '\r'

instance (c : Char) : Decidable (Solid c) := inferInstanceAs (Decidable (_ ∧ _))

/-! ## Letters and digits -/

section

variable {c : Char}

theorem isAlphanum_of_isDigit (h : c.isDigit = true) : c.isAlphanum = true := by
  unfold Char.isAlphanum
  rw [h, Bool.or_true]

theorem isAlphanum_of_isAlpha (h : c.isAlpha = true) : c.isAlphanum = true := by
  unfold Char.isAlphanum
  rw [h, Bool.true_or]

/-- A letter or digit by its code. -/
theorem toNat_of_isAlphanum (h : c.isAlphanum = true) :
    48 ≤ c.toNat ∧ c.toNat ≤ 57 ∨ 65 ≤ c.toNat ∧ c.toNat ≤ 90 ∨ 97 ≤ c.toNat ∧ c.toNat ≤ 122 := by
  unfold Char.isAlphanum Char.isAlpha Char.isUpper Char.isLower Char.isDigit at h
  simp only [Bool.or_eq_true, Bool.and_eq_true, decide_eq_true_eq, UInt32.le_iff_toNat_le,
    ge_iff_le] at h
  rcases h with (⟨hlow, hhigh⟩ | ⟨hlow, hhigh⟩) | ⟨hlow, hhigh⟩
  · exact .inr (.inl ⟨hlow, hhigh⟩)
  · exact .inr (.inr ⟨hlow, hhigh⟩)
  · exact .inl ⟨hlow, hhigh⟩

theorem isAscii_of_isAlphanum (h : c.isAlphanum = true) : isAscii c = true := by
  have hrange := toNat_of_isAlphanum h
  rw [isAscii, decide_eq_true_eq]
  omega

theorem solid_of_isAlphanum (h : c.isAlphanum = true) : Solid c := by
  refine ⟨?_, ?_, ?_, ?_⟩ <;> rintro rfl <;> exact absurd h (by decide)

theorem punctuation_of_isAlphanum (h : c.isAlphanum = true) : Scanner.punctuation c = none := by
  unfold Scanner.punctuation
  split <;> first | exact absurd h (by decide) | rfl

theorem ne_of_isAlphanum (h : c.isAlphanum = true) : c ≠ quote ∧ c ≠ '-' := by
  refine ⟨?_, ?_⟩ <;> rintro rfl <;> exact absurd h (by decide)

theorem isAlphanum_of_isHexDigit (h : isHexDigit c = true) : c.isAlphanum = true := by
  rw [isHexDigit, Bool.or_eq_true, Bool.or_eq_true] at h
  rcases h with (h | h) | h
  · exact isAlphanum_of_isDigit h
  · refine isAlphanum_of_isAlpha ?_
    unfold Char.isAlpha Char.isLower
    simp only [Bool.or_eq_true, Bool.and_eq_true, decide_eq_true_eq, Char.le_def, ge_iff_le] at h ⊢
    exact .inr ⟨h.1, UInt32.le_trans h.2 (show 'f'.val ≤ 'z'.val by decide)⟩
  · refine isAlphanum_of_isAlpha ?_
    unfold Char.isAlpha Char.isUpper
    simp only [Bool.or_eq_true, Bool.and_eq_true, decide_eq_true_eq, Char.le_def, ge_iff_le] at h ⊢
    exact .inl ⟨h.1, UInt32.le_trans h.2 (show 'F'.val ≤ 'Z'.val by decide)⟩

/-- A letter is not a digit. -/
theorem isDigit_of_isAlpha (h : c.isAlpha = true) : c.isDigit = false := by
  by_contra hdigit
  rw [Bool.not_eq_false] at hdigit
  unfold Char.isAlpha Char.isUpper Char.isLower at h
  unfold Char.isDigit at hdigit
  simp only [Bool.or_eq_true, Bool.and_eq_true, decide_eq_true_eq, UInt32.le_iff_toNat_le,
    ge_iff_le] at h hdigit
  rw [show 'A'.val.toNat = 65 from rfl, show 'a'.val.toNat = 97 from rfl] at h
  rw [show '9'.val.toNat = 57 from rfl] at hdigit
  omega

end

section

variable {c : Char} {text rest : Text} {k : TokenKind} {ks : List TokenKind}

theorem EndsNumber.endsWord (h : EndsNumber rest) : EndsWord rest := fun c hc => (h c hc).1

/-! ## The front of a text -/

theorem skip_solid (hc : Solid c) (offset line column : ℕ) :
    Scanner.skip (c :: text) offset line column = ⟨c :: text, offset, line, column⟩ := by
  obtain ⟨hspace, htab, hfeed, hreturn⟩ := hc
  unfold Scanner.skip
  split
  · rename_i heq; exact absurd (List.cons.inj heq).1 hspace
  · rename_i heq; exact absurd (List.cons.inj heq).1 htab
  · rename_i heq; exact absurd (List.cons.inj heq).1 hfeed
  · rename_i heq; exact absurd (List.cons.inj heq).1 hreturn
  · rename_i heq; exact absurd (List.cons.inj heq).1 hreturn
  · rfl

theorem lexes_nil : Lexes [] [] := by
  intro s hs
  obtain ⟨_, offset, line, column⟩ := s
  obtain rfl : _ = [] := hs
  rw [Scanner.remaining_eq]
  exact ⟨rfl, rfl⟩

/-- What a scanner delivers depends on its next token only. -/
theorem remaining_of_nextToken {s s' : Scanner} (h : s.nextToken = s'.nextToken) :
    s.remaining = s'.remaining := by
  rw [Scanner.remaining_eq, Scanner.remaining_eq s', h]

theorem lexes_space (h : Lexes text ks) : Lexes (' ' :: text) ks := by
  intro s hs
  obtain ⟨_, offset, line, column⟩ := s
  obtain rfl : _ = ' ' :: text := hs
  have hnext : Scanner.nextToken ⟨' ' :: text, offset, line, column⟩ =
      Scanner.nextToken ⟨text, offset + 1, line, column + 1⟩ := rfl
  rw [remaining_of_nextToken hnext]
  exact h _ rfl

theorem lexes_newline (h : Lexes text ks) : Lexes ('\n' :: text) ks := by
  intro s hs
  obtain ⟨_, offset, line, column⟩ := s
  obtain rfl : _ = '\n' :: text := hs
  have hnext : Scanner.nextToken ⟨'\n' :: text, offset, line, column⟩ =
      Scanner.nextToken ⟨text, offset + 1, line + 1, 1⟩ := rfl
  rw [remaining_of_nextToken hnext]
  exact h _ rfl

/-- **One token** is taken off the front.  Every other lemma of this kind is an instance, with
the scan of its own token. -/
theorem lexes_cons (hc : Solid c) (hscan : ∀ s : Scanner, s.rest = c :: text →
      ∃ s', s.scanKind c text = .ok (k, s') ∧ s'.rest = rest)
    (hrest : Lexes rest ks) : Lexes (c :: text) (k :: ks) := by
  intro s hs
  have hskip : s.skipWhitespace = s := by
    obtain ⟨_, offset, line, column⟩ := s
    obtain rfl : _ = c :: text := hs
    exact skip_solid hc offset line column
  obtain ⟨s', hkind, hs'⟩ := hscan s hs
  have hnext : s.nextToken = .ok (some ⟨k, s.currentPos⟩, s') := by
    unfold Scanner.nextToken
    dsimp only
    rw [hskip, hs]
    dsimp only
    rw [hkind]
    rfl
  obtain ⟨hkinds, hend⟩ := hrest s' hs'
  rw [Scanner.remaining_eq, hnext]
  exact ⟨congrArg (List.cons k) hkinds, hend⟩

/-! ## Punctuation and words -/

theorem lexes_punctuation (hascii : isAscii c = true) (hc : Scanner.punctuation c = some k)
    (hsolid : Solid c) (h : Lexes text ks) : Lexes (c :: text) (k :: ks) := by
  refine lexes_cons hsolid (fun s hs => ⟨s.bump 1 text, ?_, rfl⟩) h
  unfold Scanner.scanKind
  rw [if_neg (not_not.mpr hascii), hc]

theorem lexes_lt (h : Lexes text ks) : Lexes ('<' :: text) (.lt :: ks) :=
  lexes_punctuation rfl rfl (by decide) h

theorem lexes_gt (h : Lexes text ks) : Lexes ('>' :: text) (.gt :: ks) :=
  lexes_punctuation rfl rfl (by decide) h

theorem lexes_lBracket (h : Lexes text ks) : Lexes ('[' :: text) (.lBracket :: ks) :=
  lexes_punctuation rfl rfl (by decide) h

theorem lexes_rBracket (h : Lexes text ks) : Lexes (']' :: text) (.rBracket :: ks) :=
  lexes_punctuation rfl rfl (by decide) h

theorem lexes_dot (h : Lexes text ks) : Lexes ('.' :: text) (.dot :: ks) :=
  lexes_punctuation rfl rfl (by decide) h

/-- A word starts with a letter other than `x`, and ends before the first character that is neither
a letter nor a digit. -/
theorem lexes_word {word : Text} (hc : c.isAlpha = true) (hx : ¬ (c = 'x' ∨ c = 'X'))
    (hword : ∀ c ∈ word, c.isAlphanum = true) (hrest : EndsWord rest) (h : Lexes rest ks) :
    Lexes (c :: (word ++ rest)) (.word (c :: word) :: ks) := by
  have halnum := isAlphanum_of_isAlpha hc
  obtain ⟨hquote, hminus⟩ := ne_of_isAlphanum halnum
  obtain ⟨htake, hdrop⟩ :=
    takeWhile_append_stop rest (List.forall_mem_cons.mpr ⟨halnum, hword⟩) hrest
  refine lexes_cons (solid_of_isAlphanum halnum)
    (fun s hs => ⟨s.bump (c :: word).length rest, ?_, rfl⟩) h
  unfold Scanner.scanKind
  rw [if_neg (not_not.mpr (isAscii_of_isAlphanum halnum)), punctuation_of_isAlphanum halnum]
  dsimp only
  rw [if_neg hquote, if_neg hminus, isDigit_of_isAlpha hc, if_neg Bool.false_ne_true, if_neg hx,
    if_pos hc]
  unfold Scanner.scanWord
  rw [hs, ← List.cons_append, htake, hdrop]

/-! ## Quoted fragments -/

/-- A character that may stand in a quoted fragment. -/
def Quotable (c : Char) : Prop :=
  c ≠ quote ∧ c ≠ backslash ∧ 0x20 ≤ c.toNat ∧ c.toNat ≤ 0x7E

theorem scanContent_quotable {content : Text} (hcontent : ∀ c ∈ content, Quotable c)
    (openPos : SourcePos) (rest : Text) :
    ∀ s : Scanner, ∃ s', Scanner.scanContent openPos s (content ++ quote :: rest) =
      .ok (content, s') ∧
      s'.rest = rest := by
  induction content with
  | nil =>
    intro s
    refine ⟨s.bump 1 rest, ?_, rfl⟩
    rw [List.nil_append, Scanner.scanContent, if_pos rfl]
  | cons c content ih =>
    intro s
    obtain ⟨⟨hquote, hbackslash, hlow, hhigh⟩, hcontent⟩ := List.forall_mem_cons.mp hcontent
    obtain ⟨s', hscan, hs'⟩ := ih hcontent (s.bump 1 (content ++ quote :: rest))
    refine ⟨s', ?_, hs'⟩
    rw [List.cons_append, Scanner.scanContent, if_neg hquote, if_neg hbackslash,
      if_pos ⟨hlow, hhigh⟩, hscan]
    rfl

/-- A quoted fragment ends at its quote. -/
theorem lexes_str {content : Text} (hcontent : ∀ c ∈ content, Quotable c) (h : Lexes rest ks) :
    Lexes (quote :: (content ++ quote :: rest)) (.str content :: ks) := by
  refine lexes_cons (by decide) (fun s hs => ?_) h
  obtain ⟨s', hscan, hs'⟩ := scanContent_quotable hcontent s.currentPos rest
    (s.bump 1 (content ++ quote :: rest))
  refine ⟨s', ?_, hs'⟩
  have hstring : s.scanString s.currentPos = .ok (.str content, s') := by
    unfold Scanner.scanString
    rw [hs, List.tail_cons, hscan]
    rfl
  exact hstring

/-! ## Bytes -/

theorem hexRun_stop (count : ℕ) (hrest : EndsWord rest) : Scanner.hexRun count rest = [] := by
  cases rest with
  | nil => rfl
  | cons c rest =>
    have hc : ¬ isHexDigit c = true := by
      intro hhex
      have halnum := isAlphanum_of_isHexDigit hhex
      rw [hrest c rfl] at halnum
      exact Bool.false_ne_true halnum
    rw [Scanner.hexRun, if_pos hc]

theorem hexRun_two {a b : Char} (ha : isHexDigit a = true) (hb : isHexDigit b = true)
    (hrest : EndsWord rest) : Scanner.hexRun 0 (a :: b :: rest) = [a, b] := by
  rw [Scanner.hexRun, if_neg (not_not.mpr ha), if_neg (fun h => nomatch h.1), Scanner.hexRun,
    if_neg (not_not.mpr hb), if_neg (fun h => nomatch h.1), hexRun_stop 2 hrest]

theorem upperHexDigit_spec : ∀ n < 16, isHexDigit (upperHexDigit n) = true ∧
    hexDigitValue (upperHexDigit n) = n := by decide

/-- **A byte** is two hexadecimal digits behind `0x`. -/
theorem lexes_hexByte (byte : UInt8) (hrest : EndsWord rest) (h : Lexes rest ks) :
    Lexes (hexByteText byte ++ rest) (.hexByte byte (hexByteText byte) :: ks) := by
  have hbyte := byte.toNat_lt
  obtain ⟨ha, hvalue⟩ := upperHexDigit_spec (byte.toNat / 16) (by omega)
  obtain ⟨hb, hvalue'⟩ := upperHexDigit_spec (byte.toNat % 16) (by omega)
  have htext : hexByteText byte =
      ['0', 'x', upperHexDigit (byte.toNat / 16), upperHexDigit (byte.toNat % 16)] := rfl
  generalize upperHexDigit (byte.toNat / 16) = a at ha hvalue htext
  generalize upperHexDigit (byte.toNat % 16) = b at hb hvalue' htext
  have hhex : UInt8.ofNat (hexValue [a, b]) = byte := by
    show UInt8.ofNat ((0 * 16 + hexDigitValue a) * 16 + hexDigitValue b) = byte
    rw [hvalue, hvalue', Nat.zero_mul, Nat.zero_add, Nat.div_add_mod', UInt8.ofNat_toNat]
  rw [htext]
  refine lexes_cons (by decide) (fun s hs => ?_) h
  obtain ⟨_, offset, line, column⟩ := s
  obtain rfl : _ = '0' :: 'x' :: a :: b :: rest := hs
  refine ⟨⟨rest, offset + 1 + (1 + 2), line, column + 1 + (1 + 2)⟩, ?_, rfl⟩
  show Scanner.scanHexTail _ false [] (Scanner.mk ('x' :: a :: b :: rest) (offset + 1) line
      (column + 1)) = _
  unfold Scanner.scanHexTail
  dsimp only [List.tail_cons]
  rw [hexRun_two ha hb hrest, if_neg (List.cons_ne_nil _ _), if_pos ⟨rfl, Bool.false_ne_true⟩, hhex]
  rfl

/-! ## Numbers -/

/-- A number whose digits, fraction and exponent are known. -/
theorem scanNumber_eq {int : Text} (frac exp : Text) (negative : Bool) (pos : SourcePos)
    (hint : ∀ c ∈ int, c.isDigit = true)
    (hstop : ∀ c ∈ (frac ++ (exp ++ rest)).head?, c.isDigit = false ∧ c ≠ 'x')
    (hfrac : Scanner.fraction (frac ++ (exp ++ rest)) = frac)
    (hexp : Scanner.exponent (exp ++ rest) = exp)
    {s : Scanner} (hs : s.rest = int ++ (frac ++ (exp ++ rest))) :
    ∃ s' : Scanner, s'.rest = rest ∧ s.scanNumber pos negative =
      if frac ≠ [] ∨ exp ≠ [] then .ok (.float (signText negative ++ int ++ frac ++ exp), s')
      else if Nat.ofDigitChars 10 int 0 ≤ i128Max then
        .ok (.int (if negative then -(Nat.ofDigitChars 10 int 0 : ℤ) else Nat.ofDigitChars 10 int 0)
          false
          (signText negative ++ int ++ frac ++ exp), s')
      else .error (.numberTooLarge pos (signText negative ++ int ++ frac ++ exp)) := by
  obtain ⟨htake, hdrop⟩ := takeWhile_append_stop _ hint fun c hc => (hstop c hc).1
  have hx : ¬ (int = ['0'] ∧ (frac ++ (exp ++ rest)).head? = some 'x') :=
    fun h => (hstop 'x' h.2).2 rfl
  refine ⟨s.bump (int.length + frac.length + exp.length) rest, rfl, ?_⟩
  unfold Scanner.scanNumber
  dsimp only
  rw [hs, htake, hdrop, if_neg hx, hfrac, List.drop_left, hexp, List.drop_left]
  rfl

/-- A number with its sign. -/
theorem lexes_signed {negative : Bool} {d : Char} {digits : Text} (hd : d.isDigit = true)
    (hscan : ∀ (s : Scanner) (pos : SourcePos), s.rest = d :: digits →
      ∃ s', s.scanNumber pos negative = .ok (k, s') ∧ s'.rest = rest)
    (h : Lexes rest ks) : Lexes (signText negative ++ d :: digits) (k :: ks) := by
  have halnum := isAlphanum_of_isDigit hd
  cases negative with
  | true =>
    refine lexes_cons (by decide) (fun s hs => ?_) h
    obtain ⟨s', hnumber, hs'⟩ := hscan (s.bump 1 (d :: digits)) s.currentPos rfl
    refine ⟨s', ?_, hs'⟩
    show (if (some d).any Char.isDigit = true then
      (s.bump 1 (d :: digits)).scanNumber s.currentPos true else _) = _
    rw [Option.any_some, if_pos hd, hnumber]
  | false =>
    obtain ⟨hquote, hminus⟩ := ne_of_isAlphanum halnum
    refine lexes_cons (solid_of_isAlphanum halnum) (fun s hs => ?_) h
    obtain ⟨s', hnumber, hs'⟩ := hscan s s.currentPos hs
    refine ⟨s', ?_, hs'⟩
    unfold Scanner.scanKind
    rw [if_neg (not_not.mpr (isAscii_of_isAlphanum halnum)), punctuation_of_isAlphanum halnum]
    dsimp only
    rw [if_neg hquote, if_neg hminus, if_pos hd, hnumber]

/-! ## Integers -/

theorem EndsNumber.ne (hrest : EndsNumber rest) {c : Char} (hc : c ∈ rest.head?) :
    c.isDigit = false ∧ c ≠ 'x' ∧ c ≠ 'e' ∧ c ≠ 'E' ∧ c ≠ '.' := by
  obtain ⟨halnum, hdot⟩ := hrest c hc
  refine ⟨?_, ?_, ?_, ?_, hdot⟩
  · by_contra hdigit
    rw [isAlphanum_of_isDigit (Bool.not_eq_false _ ▸ hdigit)] at halnum
    cases halnum
  all_goals
    rintro rfl
    exact absurd halnum (by decide)

theorem fraction_stop (hrest : ∀ c ∈ rest.head?, c ≠ '.') : Scanner.fraction rest = [] := by
  unfold Scanner.fraction
  split
  · exact absurd rfl (hrest '.' rfl)
  · rfl

theorem exponent_stop (hrest : ∀ c ∈ rest.head?, c ≠ 'e' ∧ c ≠ 'E') :
    Scanner.exponent rest = [] := by
  cases rest with
  | nil => rfl
  | cons c rest =>
    obtain ⟨he, hE⟩ := hrest c rfl
    unfold Scanner.exponent
    exact if_neg (not_or.mpr ⟨he, hE⟩)

theorem displayNat_digits (n : ℕ) : ∀ c ∈ displayNat n, c.isDigit = true := fun _ hc =>
  Nat.isDigit_of_mem_toDigits (by decide) (le_refl 10) hc

/-- **An integer** is its decimal digits behind its sign.  The bound is that of the scanner,
`i128`, and every integer of an item is far below it. -/
theorem lexes_int {n : ℤ} (hn : n.natAbs ≤ i128Max) (hrest : EndsNumber rest) (h : Lexes rest ks) :
    Lexes (displayInt n ++ rest) (.int n false (displayInt n) :: ks) := by
  obtain ⟨d, digits, hdigits⟩ :=
    List.exists_cons_of_ne_nil (Nat.toDigits_ne_nil (n := n.natAbs) (b := 10))
  have hint := displayNat_digits n.natAbs
  have hvalue : Nat.ofDigitChars 10 (displayNat n.natAbs) 0 = n.natAbs :=
    Nat.ofDigitChars_ten_toDigits
  have hsigned : (if decide (n < 0) = true then -(n.natAbs : ℤ) else n.natAbs) = n := by
    split
    · rename_i hneg
      rw [decide_eq_true_eq] at hneg
      omega
    · rename_i hneg
      rw [decide_eq_true_eq] at hneg
      omega
  rw [displayInt, List.append_assoc]
  rw [displayNat, hdigits] at hint hvalue ⊢
  refine lexes_signed (hint d List.mem_cons_self) (fun s pos hs => ?_) h
  obtain ⟨s', hs', hscan⟩ := scanNumber_eq [] [] (decide (n < 0)) pos hint
    (fun c hc => ⟨(hrest.ne hc).1, (hrest.ne hc).2.1⟩) (fraction_stop fun c hc => (hrest c hc).2)
    (exponent_stop fun c hc => ⟨(hrest.ne hc).2.2.1, (hrest.ne hc).2.2.2.1⟩) hs
  refine ⟨s', ?_, hs'⟩
  rw [hscan, if_neg (by simp), hvalue, if_pos hn, hsigned, List.append_nil, List.append_nil]

/-! ## Floats -/

/-- The fraction of a positional number ends where its digits end. -/
theorem fraction_fracText (p : Positional) (hrest : ∀ c ∈ rest.head?, c.isDigit = false ∧ c ≠ '.') :
    Scanner.fraction (p.fracText ++ rest) = p.fracText := by
  unfold Positional.fracText
  split
  · exact fraction_stop fun c hc => (hrest c hc).2
  · rename_i hne
    obtain ⟨d, digits, hfrac⟩ := List.exists_cons_of_ne_nil hne
    have hd : d.isDigit = true := p.frac_digits d (hfrac ▸ List.mem_cons_self)
    obtain ⟨htake, -⟩ := takeWhile_append_stop rest p.frac_digits fun c hc => (hrest c hc).1
    rw [hfrac] at htake ⊢
    rw [List.cons_append, Scanner.fraction, htake]
    exact if_pos hd

/-- The exponent of a number in scientific notation ends where its digits end. -/
theorem exponent_expText (n : Scientific) (hrest : ∀ c ∈ rest.head?, c.isDigit = false) :
    Scanner.exponent (n.expText ++ rest) = n.expText := by
  obtain ⟨d, digits, hexp⟩ := List.exists_cons_of_ne_nil n.exponent_ne_nil
  have hd : d.isDigit = true := n.exponent_digits d (hexp ▸ List.mem_cons_self)
  obtain ⟨htake, -⟩ := takeWhile_append_stop rest n.exponent_digits hrest
  unfold Scientific.expText
  rw [hexp] at htake ⊢
  cases n.negative with
  | true =>
    show (if 'e' = 'e' ∨ 'e' = 'E' then
      if '-'.isDigit = true then 'e' :: ('-' :: (d :: digits ++ rest)).takeWhile Char.isDigit
      else if ('-' = '+' ∨ '-' = '-') ∧ d.isDigit = true then
        'e' :: '-' :: (d :: digits ++ rest).takeWhile Char.isDigit else [] else []) = _
    rw [if_pos (.inl rfl), if_neg (by decide), if_pos ⟨.inr rfl, hd⟩, htake]
    rfl
  | false =>
    show (if 'e' = 'e' ∨ 'e' = 'E' then
      if d.isDigit = true then 'e' :: (d :: digits ++ rest).takeWhile Char.isDigit
      else if (d = '+' ∨ d = '-') ∧ ((digits ++ rest).head?.any Char.isDigit) = true then
        'e' :: d :: (digits ++ rest).takeWhile Char.isDigit else [] else []) = _
    rw [if_pos (.inl rfl), if_pos hd, htake]
    rfl

/-- **A positional number with a fraction** is a float. -/
theorem lexes_positional (p : Positional) (hfrac : p.frac ≠ []) (hrest : EndsNumber rest)
    (h : Lexes rest ks) : Lexes (p.text ++ rest) (.float p.text :: ks) := by
  obtain ⟨d, digits, hint⟩ := List.exists_cons_of_ne_nil p.int_ne_nil
  have hd : d.isDigit = true := p.int_digits d (hint ▸ List.mem_cons_self)
  have hfracText : p.fracText = '.' :: p.frac := if_neg hfrac
  have htext : p.text ++ rest = signText p.negative ++ d :: (digits ++ (p.fracText ++ rest)) := by
    rw [Positional.text, hint, List.append_assoc, List.append_assoc]
    rfl
  rw [htext]
  refine lexes_signed hd (fun s pos hs => ?_) h
  have hrest' : s.rest = p.int ++ (p.fracText ++ ([] ++ rest)) := by
    rw [hs, hint]
    rfl
  have hstop : ∀ c ∈ (p.fracText ++ ([] ++ rest)).head?, c.isDigit = false ∧ c ≠ 'x' := by
    rw [hfracText]
    rintro c ⟨⟩
    decide
  have hfraction : Scanner.fraction (p.fracText ++ rest) = p.fracText :=
    fraction_fracText p fun c hc => ⟨(hrest.ne hc).1, (hrest c hc).2⟩
  obtain ⟨s', hs', hscan⟩ := scanNumber_eq _ _ p.negative pos p.int_digits hstop hfraction
    (exponent_stop fun c hc => ⟨(hrest.ne hc).2.2.1, (hrest.ne hc).2.2.2.1⟩) hrest'
  refine ⟨s', ?_, hs'⟩
  rw [hscan, if_pos (.inl (hfracText ▸ List.cons_ne_nil _ _)), List.append_nil, List.append_assoc]
  rfl

/-- **A number in scientific notation** is a float. -/
theorem lexes_scientific (n : Scientific) (hrest : EndsNumber rest) (h : Lexes rest ks) :
    Lexes (n.text ++ rest) (.float n.text :: ks) := by
  obtain ⟨d, digits, hint⟩ := List.exists_cons_of_ne_nil n.mantissa.int_ne_nil
  have hd : d.isDigit = true := n.mantissa.int_digits d (hint ▸ List.mem_cons_self)
  have htext : n.text ++ rest =
      signText n.mantissa.negative ++
        d :: (digits ++ (n.mantissa.fracText ++ (n.expText ++ rest))) := by
    rw [Scientific.text, Positional.text, hint]
    simp only [List.append_assoc, List.cons_append]
  have hexp : ∀ c ∈ (n.expText ++ rest).head?, c = 'e' := by
    rintro c ⟨⟩
    rfl
  rw [htext]
  refine lexes_signed hd (fun s pos hs => ?_) h
  have hrest' : s.rest = n.mantissa.int ++ (n.mantissa.fracText ++ (n.expText ++ rest)) := by
    rw [hs, hint]
    rfl
  have hstop : ∀ c ∈ (n.mantissa.fracText ++ (n.expText ++ rest)).head?, c.isDigit = false ∧
      c ≠ 'x' := by
    unfold Positional.fracText
    split <;> rintro c ⟨⟩ <;> decide
  obtain ⟨s', hs', hscan⟩ := scanNumber_eq _ _ n.mantissa.negative pos n.mantissa.int_digits hstop
    (fraction_fracText n.mantissa fun c hc => by rw [hexp c hc]; decide)
    (exponent_expText n fun c hc => (hrest.ne hc).1) hrest'
  refine ⟨s', ?_, hs'⟩
  rw [hscan, if_pos (.inr (List.cons_ne_nil _ _)), Scientific.text, Positional.text]
  simp only [List.append_assoc]

end

end Sml
end SecsRust

import SecsRust.Sml.Lossless

/-!
# A text that is cut

A text is cut: it is kept up to some place, and from there on it is something else that
starts with a space.  The scanner looks at no more than it returns, but for the characters
by which it knows that a token has ended; a space ends every token as well.  So the tokens
before the cut are the same (`tokens_cut`), and if the scanner had refused the text for a
character or a literal before the cut, it refuses it still (`refusal_cut`).

The statement about one scan is `Settles`: what it comes to is decided by the characters it
has read, and stays that when what follows them is replaced.  There is one lemma for each
kind of token, and the difficult ones are the numbers, since a number is read in parts and
each part ends because of what follows it.  `Call` is the same for one call, which passes
over whitespace first.

One rule of the scanner looks two characters ahead and ends a token *because* of them: two
hexadecimal digits end before a `0x`.  A cut between that `0` and its `x` would lengthen the
token.  It is not behind a token, since `0x` starts one, and this is why the lemmas about
one token have a hypothesis about the place of the cut, which `tokens_cut` discharges.
-/

namespace SecsRust
namespace Sml

/-! ## Runs of characters -/

section

variable {kept lost added head : Text} {p : Char → Bool}

/-- What does not start with a character does not start with it when it is cut. -/
theorem head_cut {P : Char → Prop} (added : Text) (hspace : P ' ')
    (h : ∀ c ∈ (kept ++ lost).head?, P c) :
    ∀ c ∈ (kept ++ ' ' :: added).head?, P c := by
  cases kept with
  | nil =>
    rintro c ⟨⟩
    exact hspace
  | cons c kept => exact h

theorem takeWhile_cut (added : Text) (hspace : p ' ' = false)
    (h : (head ++ (kept ++ lost)).takeWhile p = head) :
    (head ++ (kept ++ ' ' :: added)).takeWhile p = head := by
  have hhead : ∀ c ∈ head, p c = true := by
    intro c hc
    rw [← h] at hc
    exact List.all_eq_true.mp List.all_takeWhile c hc
  rw [List.takeWhile_append_of_pos hhead, List.append_right_eq_self] at h ⊢
  cases kept with
  | nil => exact List.takeWhile_cons_of_neg (by simp [hspace])
  | cons c kept =>
    have hc : ¬ p c = true := by
      intro hc
      rw [List.cons_append, List.takeWhile_cons_of_pos hc] at h
      cases h
    exact List.takeWhile_cons_of_neg hc

theorem startsDigit_cut (h : ¬ (kept ++ lost).head?.any Char.isDigit = true) :
    ¬ (kept ++ ' ' :: added).head?.any Char.isDigit = true := by
  cases kept with
  | nil => exact Bool.false_ne_true
  | cons c kept => exact h

theorem fraction_other {c : Char} {text : Text} (hc : c ≠ '.') :
    Scanner.fraction (c :: text) = [] := by
  unfold Scanner.fraction
  split
  · rename_i heq
    exact absurd (List.cons.inj heq).1 hc
  · rfl

theorem fraction_cut (added : Text) (h : Scanner.fraction (head ++ (kept ++ lost)) = head) :
    Scanner.fraction (head ++ (kept ++ ' ' :: added)) = head := by
  cases head with
  | nil =>
    cases kept with
    | nil => exact fraction_other (by decide)
    | cons c kept =>
      by_cases hc : c = '.'
      · subst hc
        have hdigit : ¬ (kept ++ lost).head?.any Char.isDigit = true := by
          intro hdigit
          rw [List.nil_append, List.cons_append, Scanner.fraction, if_pos hdigit] at h
          cases h
        rw [List.nil_append, List.cons_append, Scanner.fraction, if_neg (startsDigit_cut hdigit)]
      · exact fraction_other hc
  | cons c digits =>
    by_cases hc : c = '.'
    · subst hc
      rw [List.cons_append, Scanner.fraction] at h
      split at h
      · rename_i hdigit
        have hrun := (List.cons.inj h).2
        have hdigit' : (digits ++ (kept ++ ' ' :: added)).head?.any Char.isDigit = true := by
          cases digits with
          | nil =>
            rw [List.nil_append] at hdigit hrun
            cases hrest : kept ++ lost with
            | nil => rw [hrest] at hdigit; cases hdigit
            | cons d tail =>
              rw [hrest] at hdigit hrun
              have hd : d.isDigit = true := hdigit
              rw [List.takeWhile_cons_of_pos hd] at hrun
              cases hrun
          | cons d digits => exact hdigit
        rw [List.cons_append, Scanner.fraction, if_pos hdigit',
          takeWhile_cut added (by decide) hrun]
      · cases h
    · rw [List.cons_append, fraction_other hc] at h
      cases h

theorem startsExponent_cut (h : ¬ Reads.StartsExponent (kept ++ lost)) :
    ¬ Reads.StartsExponent (kept ++ ' ' :: added) := by
  rintro ⟨sign, rest, hrest, hsign⟩
  cases kept with
  | nil =>
    obtain ⟨rfl, rfl⟩ := List.cons.inj hrest
    rcases hsign with hdigit | ⟨hsign, -⟩
    · exact absurd hdigit (by decide)
    · exact absurd hsign (by decide)
  | cons c kept =>
    obtain ⟨rfl, rfl⟩ := List.cons.inj hrest
    refine h ⟨c, kept ++ lost, rfl, hsign.imp_right fun hsign => ⟨hsign.1, ?_⟩⟩
    by_contra hdigit
    exact startsDigit_cut hdigit hsign.2

theorem exponent_cut (h : Scanner.exponent (head ++ (kept ++ lost)) = head) :
    Scanner.exponent (head ++ (kept ++ ' ' :: added)) = head := by
  cases head with
  | nil =>
    cases kept with
    | nil => exact Reads.exponent_nil fun hexp => absurd hexp.1 (by decide)
    | cons c kept =>
      refine Reads.exponent_nil fun hexp => ?_
      by_cases hstarts : Reads.StartsExponent (kept ++ lost)
      · obtain ⟨sign, rest, hrest, hsign⟩ := hstarts
        rw [List.nil_append, List.cons_append, hrest] at h
        by_cases hdigit : sign.isDigit = true
        · rw [Reads.exponent_digit hexp.1 hdigit] at h
          cases h
        · rw [Reads.exponent_sign hexp.1 hdigit (hsign.resolve_left hdigit)] at h
          cases h
      · exact startsExponent_cut hstarts hexp.2
  | cons c tail =>
    have hexp : (c = 'e' ∨ c = 'E') ∧ Reads.StartsExponent (tail ++ (kept ++ lost)) := by
      by_contra hnot
      rw [List.cons_append, Reads.exponent_nil hnot] at h
      cases h
    obtain ⟨hc, sign, rest, hrest, hsign⟩ := hexp
    rw [List.cons_append, hrest] at h
    by_cases hdigit : sign.isDigit = true
    · rw [Reads.exponent_digit hc hdigit, List.takeWhile_cons_of_pos hdigit] at h
      obtain ⟨-, rfl⟩ := List.cons.inj h
      have hrun : (sign :: rest.takeWhile Char.isDigit ++ (kept ++ lost)).takeWhile Char.isDigit =
          sign :: rest.takeWhile Char.isDigit := by
        rw [hrest, List.takeWhile_cons_of_pos hdigit]
      have hcut := takeWhile_cut added (by decide) hrun
      rw [List.cons_append, List.cons_append, Reads.exponent_digit hc hdigit]
      exact congrArg (List.cons c) hcut
    · have hpm := hsign.resolve_left hdigit
      rw [Reads.exponent_sign hc hdigit hpm] at h
      obtain ⟨-, rfl⟩ := List.cons.inj h
      have hrest' : rest.takeWhile Char.isDigit ++ (kept ++ lost) = rest := (List.cons.inj hrest).2
      have hrun : (rest.takeWhile Char.isDigit ++ (kept ++ lost)).takeWhile Char.isDigit =
          rest.takeWhile Char.isDigit := by
        rw [hrest']
      have hcut := takeWhile_cut added (by decide) hrun
      have hstarts : (rest.takeWhile Char.isDigit ++ (kept ++ ' ' :: added)).head?.any
          Char.isDigit =
          true := by
        have hbehind := hpm.2
        cases hdigits : rest with
        | nil => rw [hdigits] at hbehind; cases hbehind
        | cons d digits =>
          rw [hdigits] at hbehind
          have hd : d.isDigit = true := hbehind
          rw [List.takeWhile_cons_of_pos hd]
          exact hd
      rw [List.cons_append, List.cons_append, Reads.exponent_sign hc hdigit ⟨hpm.1, hstarts⟩, hcut]

/-- The run of hexadecimal digits ends where it did, unless the cut is between the `0` and the `x`
by which it ended. -/
theorem hexRun_cut (hplace : kept = ['0'] → lost.head? ≠ some 'x') {count : ℕ} :
    Scanner.hexRun count (head ++ (kept ++ lost)) = head →
      Scanner.hexRun count (head ++ (kept ++ ' ' :: added)) = head := by
  induction head generalizing count with
  | nil =>
    intro h
    cases kept with
    | nil =>
      rw [List.nil_append, List.nil_append, Scanner.hexRun, if_pos (by decide)]
    | cons c kept =>
      rw [List.nil_append, List.cons_append, Scanner.hexRun] at h ⊢
      by_cases hc : isHexDigit c = true
      · rw [if_neg (not_not.mpr hc)] at h ⊢
        have hends : count = 2 ∧ c = '0' ∧ (kept ++ lost).head? = some 'x' := by
          by_contra hnot
          rw [if_neg hnot] at h
          cases h
        rw [if_pos]
        refine ⟨hends.1, hends.2.1, ?_⟩
        cases kept with
        | nil => exact absurd hends.2.2 (hplace (by rw [hends.2.1]))
        | cons d kept => exact hends.2.2
      · rw [if_pos hc]
  | cons c head ih =>
    intro h
    rw [List.cons_append, Scanner.hexRun] at h ⊢
    by_cases hc : isHexDigit c = true
    · rw [if_neg (not_not.mpr hc)] at h ⊢
      have hgoes : ¬ (count = 2 ∧ c = '0' ∧ (head ++ (kept ++ lost)).head? = some 'x') := by
        intro hstop
        rw [if_pos hstop] at h
        cases h
      rw [if_neg hgoes] at h
      have hgoes' : ¬ (count = 2 ∧ c = '0' ∧
          (head ++ (kept ++ ' ' :: added)).head? = some 'x') := by
        rintro ⟨hcount, hzero, hx⟩
        refine hgoes ⟨hcount, hzero, ?_⟩
        cases head with
        | cons d head => exact hx
        | nil =>
          cases kept with
          | cons d kept => exact hx
          | nil => exact absurd hx (by rintro ⟨⟩)
      rw [if_neg hgoes', ih (List.cons.inj h).2]
    · rw [if_pos hc] at h
      cases h

end

/-! ## The text of an error -/

/-- The offset behind the character or the literal for which the scanner refuses a text; there is
none for an error that the scanner raises at the end of the text. -/
def lexemeEnd : ParseError → Option ℕ
  | .invalidCharacter pos found => some (pos.offset + found.utf8Size)
  | .invalidAsciiFragment pos _ => some (pos.offset + 1)
  | .invalidHexLiteral pos text => some (pos.offset + (utf8 text).length)
  | .numberTooLarge pos text => some (pos.offset + (utf8 text).length)
  | _ => none

section

variable {kept lost added rest : Text} {s : Scanner} {startPos : SourcePos} {negative : Bool}
  {c : Char}

/-- **What a scan comes to is decided by the text up to a cut**: it is the outcome of the
characters `lexeme`, and it stays that outcome when what follows is cut.  `lexeme` need not be
all that the scan has looked at; the character behind a word has been looked at too, and a space
in its place does as well. -/
structure Settles (scan : Scanner → Except ParseError (TokenKind × Scanner)) (s : Scanner)
    (lexeme rest : Text) (outcome : Except ParseError TokenKind) : Prop where
  text : s.rest = lexeme ++ rest
  result : scan s = outcome.map fun kind => (kind, s.bump lexeme.length rest)
  cut : (∀ e, outcome = .error e → lexemeEnd e ≠ none) → ∀ kept lost added, rest = kept ++ lost →
    (kept = ['0'] → lost.head? ≠ some 'x') → ∀ s' : Scanner, s'.currentPos = s.currentPos →
      s'.rest = lexeme ++ (kept ++ ' ' :: added) →
        scan s' = outcome.map fun kind => (kind, s'.bump lexeme.length (kept ++ ' ' :: added))

/-! ## Numbers -/

/-- The outcome of a hexadecimal literal, by its digits. -/
def hexOutcome (startPos : SourcePos) (negative : Bool) (digits : Text) :
    Except ParseError TokenKind :=
  let text := minusText negative ++ '0' :: 'x' :: digits
  if digits = [] then .error (.invalidHexLiteral startPos text)
  else if digits.length = 2 ∧ ¬ negative then .ok (.hexByte (UInt8.ofNat (hexValue digits)) text)
  else if hexValue digits ≤ i128Max then .ok (.int (signed negative (hexValue digits)) true text)
  else .error (.numberTooLarge startPos text)

/-- The outcome of a decimal literal, by its parts. -/
def decimalOutcome (startPos : SourcePos) (negative : Bool) (int frac exp : Text) :
    Except ParseError TokenKind :=
  let text := minusText negative ++ int ++ frac ++ exp
  if frac ≠ [] ∨ exp ≠ [] then .ok (.float text)
  else if Nat.ofDigitChars 10 int 0 ≤ i128Max then
    .ok (.int (signed negative (Nat.ofDigitChars 10 int 0)) false text)
  else .error (.numberTooLarge startPos text)

theorem scanNumber_hex {digits : Text} (hs : s.rest = '0' :: 'x' :: (digits ++ rest))
    (hrun : Scanner.hexRun 0 (digits ++ rest) = digits) :
    s.scanNumber startPos negative = (hexOutcome startPos negative digits).map fun kind =>
      (kind, s.bump ('0' :: 'x' :: digits).length rest) := by
  have htake : s.rest.takeWhile Char.isDigit = ['0'] := by rw [hs]; rfl
  have hdrop : s.rest.dropWhile Char.isDigit = 'x' :: (digits ++ rest) := by rw [hs]; rfl
  have hlength : 1 + (1 + digits.length) = ('0' :: 'x' :: digits).length := by
    simp only [List.length_cons]
    omega
  unfold Scanner.scanNumber
  dsimp only
  rw [htake, hdrop, if_pos ⟨rfl, rfl⟩]
  unfold Scanner.scanHexTail
  dsimp only
  rw [Scanner.bump_rest, List.tail_cons, hrun, List.drop_left, Reads.bump_bump, hlength]
  unfold hexOutcome
  simp only [signed_eq]
  split
  · rfl
  · split
    · rfl
    · split <;> rfl

theorem scanNumber_decimal {int frac exp : Text}
    (htake : s.rest.takeWhile Char.isDigit = int)
    (hs : s.rest = int ++ (frac ++ (exp ++ rest)))
    (hx : ¬ (int = ['0'] ∧ (frac ++ (exp ++ rest)).head? = some 'x'))
    (hfrac : Scanner.fraction (frac ++ (exp ++ rest)) = frac)
    (hexp : Scanner.exponent (exp ++ rest) = exp) :
    s.scanNumber startPos negative = (decimalOutcome startPos negative int frac exp).map fun kind =>
      (kind, s.bump (int ++ (frac ++ exp)).length rest) := by
  have hdrop : s.rest.dropWhile Char.isDigit = frac ++ (exp ++ rest) := by
    rw [← Reads.drop_takeWhile, htake, hs, List.drop_left]
  have hlength : int.length + frac.length + exp.length = (int ++ (frac ++ exp)).length := by
    simp only [List.length_append, Nat.add_assoc]
  unfold Scanner.scanNumber
  dsimp only
  rw [htake, hdrop, if_neg hx, hfrac, List.drop_left, hexp, List.drop_left, hlength]
  unfold decimalOutcome
  simp only [signed_eq]
  split
  · rfl
  · split <;> rfl

/-- **A number is settled**, whatever its parts are. -/
theorem settles_scanNumber (startPos : SourcePos) (negative : Bool) (hs : s.rest = c :: rest)
    (hc : c.isDigit = true) :
    ∃ body rest' outcome, Settles (Scanner.scanNumber startPos negative) s body rest' outcome ∧
      body ≠ [] ∧ ∀ e, outcome = .error e →
        lexemeEnd e = some (startPos.offset + (utf8 (minusText negative ++ body)).length) := by
  by_cases hhex : ∃ text, s.rest = '0' :: 'x' :: text
  · obtain ⟨text, htext⟩ := hhex
    have hsplit := hexRun_append 0 text
    generalize hdigits : Scanner.hexRun 0 text = digits at hsplit
    have hrun : Scanner.hexRun 0 (digits ++ text.drop digits.length) = digits := by
      rw [← hsplit, hdigits]
    refine ⟨'0' :: 'x' :: digits, text.drop digits.length, hexOutcome startPos negative digits,
      ⟨?_, ?_, ?_⟩, List.cons_ne_nil _ _, ?_⟩
    · rw [htext, List.cons_append, List.cons_append, ← hsplit]
    · exact scanNumber_hex (by rw [htext, ← hsplit]) hrun
    · intro _ kept lost added hkept hplace s' _ hs'
      rw [hkept] at hrun
      exact scanNumber_hex hs' (hexRun_cut hplace hrun)
    · intro e he
      unfold hexOutcome at he
      dsimp only at he
      split_ifs at he <;> cases he <;> rfl
  · have htake : s.rest.takeWhile Char.isDigit ≠ [] := by
      rw [hs, List.takeWhile_cons_of_pos hc]
      exact List.cons_ne_nil _ _
    generalize hint : s.rest.takeWhile Char.isDigit = int at htake
    have hsplit : s.rest = int ++ s.rest.drop int.length := by
      rw [← hint, Reads.drop_takeWhile, List.takeWhile_append_dropWhile]
    have hfrac := (plainPrefix_fraction (s.rest.drop int.length)).1
    generalize hfraction : Scanner.fraction (s.rest.drop int.length) = frac at hfrac
    have hexp := (plainPrefix_exponent ((s.rest.drop int.length).drop frac.length)).1
    generalize hexponent : Scanner.exponent
      ((s.rest.drop int.length).drop frac.length) = exp at hexp
    generalize htail : ((s.rest.drop int.length).drop frac.length).drop exp.length = tail at hexp
    rw [hexp] at hfrac hexponent
    rw [hfrac] at hsplit hfraction
    have hx : ¬ (int = ['0'] ∧ (frac ++ (exp ++ tail)).head? = some 'x') := by
      rintro ⟨rfl, hhead⟩
      obtain ⟨text, htext⟩ := List.head?_eq_some_iff.mp hhead
      exact hhex ⟨text, by rw [hsplit, htext]; rfl⟩
    refine ⟨int ++ (frac ++ exp), tail, decimalOutcome startPos negative int frac exp,
      ⟨?_, scanNumber_decimal hint hsplit hx hfraction hexponent, ?_⟩, by simp [htake], ?_⟩
    · rw [hsplit]
      simp only [List.append_assoc]
    · intro _ kept lost added hkept hplace s' _ hs'
      simp only [List.append_assoc] at hs'
      rw [hkept] at hsplit hfraction hexponent hx
      refine scanNumber_decimal ?_ hs' ?_ ?_ (exponent_cut hexponent)
      · rw [hsplit] at hint
        have hcut := takeWhile_cut added (by decide)
          (show (int ++ ((frac ++ (exp ++ kept)) ++ lost)).takeWhile Char.isDigit = int by
            simpa only [List.append_assoc] using hint)
        rw [hs']
        simpa only [List.append_assoc] using hcut
      · rintro ⟨hzero, hhead⟩
        refine hx ⟨hzero, ?_⟩
        by_contra hnot
        have hcut := head_cut added (show ' ' ≠ 'x' by decide)
          (show ∀ c ∈ ((frac ++ (exp ++ kept)) ++ lost).head?, c ≠ 'x' by
            rintro c hc rfl
            exact hnot (by simpa only [List.append_assoc, Option.mem_def] using hc))
        exact hcut 'x' (by simpa only [List.append_assoc, Option.mem_def] using hhead) rfl
      · have hcut := fraction_cut added
          (show Scanner.fraction (frac ++ ((exp ++ kept) ++ lost)) = frac by
            simpa only [List.append_assoc] using hfraction)
        simpa only [List.append_assoc] using hcut
    · intro e he
      unfold decimalOutcome at he
      dsimp only at he
      split_ifs at he with hfloat hfits
      cases he
      simp only [lexemeEnd, List.append_assoc]

/-! ## Quoted fragments and words -/

/-- The content of a quoted fragment needs nothing of what follows. -/
theorem scanContent_ok {openPos : SourcePos} {after : Scanner} {content text : Text} :
    ∀ {s : Scanner}, Scanner.scanContent openPos s text = .ok (content, after) →
      ∀ (s' : Scanner) (tail),
      s'.currentPos = s.currentPos → Scanner.scanContent openPos s' (content ++ quote :: tail) =
        .ok (content, s'.bump (content.length + 1) tail) := by
  induction text generalizing content with
  | nil => intro s h; cases h
  | cons c text ih =>
    intro s h s' tail hpos
    unfold Scanner.scanContent at h
    split_ifs at h with hquote hbackslash hprintable
    · cases h
      rw [List.nil_append, Scanner.scanContent, if_pos rfl]
      rfl
    · cases htail : Scanner.scanContent openPos (s.bump 1 text) text with
      | error e => rw [htail] at h; cases h
      | ok result =>
        obtain ⟨content', final⟩ := result
        rw [htail] at h
        cases h
        have hpos' : (s'.bump 1 (content' ++ quote :: tail)).currentPos =
            (s.bump 1 text).currentPos := by
          simp only [Scanner.currentPos, Scanner.bump, SourcePos.mk.injEq] at hpos ⊢
          omega
        rw [List.cons_append, Scanner.scanContent, if_neg hquote, if_neg hbackslash,
          if_pos hprintable, ih htail _ tail hpos', List.length_cons]
        simp only [Except.map, Reads.bump_bump, Nat.add_comm 1]

/-- What is refused in a quoted fragment is refused whatever follows. -/
theorem scanContent_error {openPos : SourcePos} {text : Text} {e : ParseError} :
    ∀ {s : Scanner}, Scanner.scanContent openPos s text = .error e → lexemeEnd e ≠ none →
      ∃ lexeme rest, text = lexeme ++ rest ∧ lexemeEnd e = some (s.offset + (utf8 lexeme).length) ∧
        ∀ (s' : Scanner) (tail), s'.currentPos = s.currentPos →
          Scanner.scanContent openPos s' (lexeme ++ tail) = .error e := by
  induction text with
  | nil =>
    intro s h hend
    cases h
    exact absurd rfl hend
  | cons c text ih =>
    intro s h hend
    unfold Scanner.scanContent at h
    split_ifs at h with hquote hbackslash hprintable hlong
    · cases h
      have hlt : c.toNat < 0x80 := hbackslash ▸ (by decide)
      refine ⟨[c], text, rfl, ?_, fun s' tail hpos => ?_⟩
      · rw [utf8_cons_of_lt hlt]
        rfl
      · rw [List.singleton_append, Scanner.scanContent, if_neg hquote, if_pos hbackslash, hpos]
    · cases htail : Scanner.scanContent openPos (s.bump 1 text) text with
      | ok result => rw [htail] at h; cases h
      | error e' =>
        rw [htail] at h
        obtain rfl : e' = e := Except.error.inj h
        obtain ⟨lexeme, rest, rfl, hreach, hcut⟩ := ih htail hend
        refine ⟨c :: lexeme, rest, rfl, ?_, fun s' tail hpos => ?_⟩
        · rw [hreach, utf8_cons_of_lt (by omega), List.length_cons]
          simp only [Scanner.bump, Option.some.injEq]
          omega
        · have hpos' : (s'.bump 1 (lexeme ++ tail)).currentPos =
              (s.bump 1 (lexeme ++ rest)).currentPos := by
            simp only [Scanner.currentPos, Scanner.bump, SourcePos.mk.injEq] at hpos ⊢
            omega
          rw [List.cons_append, Scanner.scanContent, if_neg hquote, if_neg hbackslash,
            if_pos hprintable, hcut _ tail hpos']
          rfl
    · cases h
      refine ⟨[c], text, rfl, ?_, fun s' tail hpos => ?_⟩
      · rw [utf8_cons, utf8_nil, List.append_nil, String.length_utf8EncodeChar]
        rfl
      · rw [List.singleton_append, Scanner.scanContent, if_neg hquote, if_neg hbackslash,
          if_neg hprintable, if_pos hlong, hpos]
    · cases h
      refine ⟨[c], text, rfl, ?_, fun s' tail hpos => ?_⟩
      · rw [utf8_cons_of_lt (Nat.lt_of_not_le hlong)]
        rfl
      · rw [List.singleton_append, Scanner.scanContent, if_neg hquote, if_neg hbackslash,
          if_neg hprintable, if_neg hlong, hpos]

/-! ## One token -/

/-- The scan of a token that starts with the next character. -/
def scanFirst (first : Char) (s : Scanner) : Except ParseError (TokenKind × Scanner) :=
  s.scanKind first s.rest.tail

/-- What a scan is when its outcome needs nothing of what follows. -/
theorem settles_of {scan : Scanner → Except ParseError (TokenKind × Scanner)} {lexeme : Text}
    {outcome : Except ParseError TokenKind} (hs : s.rest = lexeme ++ rest)
    (h : ∀ (s' : Scanner) (tail), s'.currentPos = s.currentPos → s'.rest = lexeme ++ tail →
      scan s' = outcome.map fun kind => (kind, s'.bump lexeme.length tail)) :
    Settles scan s lexeme rest outcome :=
  ⟨hs, h s rest rfl hs, fun _ _ _ _ _ _ s' hpos hs' => h s' _ hpos hs'⟩

theorem settles_scanWord (hs : s.rest = c :: rest) (hc : c.isAlphanum = true) :
    ∃ word rest', Settles (fun s => .ok s.scanWord) s word rest' (.ok (.word word)) ∧
      word.head? = some c := by
  refine ⟨s.rest.takeWhile Char.isAlphanum, s.rest.dropWhile Char.isAlphanum,
    ⟨List.takeWhile_append_dropWhile.symm, rfl, ?_⟩, ?_⟩
  · intro _ kept lost added hkept _ s' _ hs'
    have hsplit : s.rest = s.rest.takeWhile Char.isAlphanum ++ (kept ++ lost) := by
      rw [← hkept, List.takeWhile_append_dropWhile]
    have hcut := takeWhile_cut added (by decide)
      (show (s.rest.takeWhile Char.isAlphanum ++ (kept ++ lost)).takeWhile Char.isAlphanum =
        s.rest.takeWhile Char.isAlphanum by rw [← hsplit])
    rw [← hs'] at hcut
    have hdrop : s'.rest.dropWhile Char.isAlphanum = kept ++ ' ' :: added := by
      rw [← Reads.drop_takeWhile, hcut, hs', List.drop_left]
    unfold Scanner.scanWord
    rw [hcut, hdrop]
    rfl
  · rw [hs, List.takeWhile_cons_of_pos hc, List.head?_cons]

theorem settles_scanString (hs : s.rest = quote :: rest) :
    ∃ lexeme rest' outcome,
      Settles (fun s => s.scanString s.currentPos) s lexeme rest' outcome ∧
        lexeme.head? = some quote ∧
        ∀ e, outcome = .error e → lexemeEnd e ≠ none →
          lexemeEnd e = some (s.offset + (utf8 lexeme).length) := by
  have hscan : ∀ (s' : Scanner) (content), s'.currentPos = s.currentPos →
      s'.rest = quote :: content →
      s'.scanString s'.currentPos = (Scanner.scanContent s.currentPos
        (s'.bump 1 content) content).map
        fun result => (.str result.1, result.2) := by
    intro s' content hpos hs'
    unfold Scanner.scanString
    rw [hpos, hs', List.tail_cons]
  have hinner : ∀ (s' : Scanner) (content), s'.currentPos = s.currentPos →
      (s'.bump 1 content).currentPos = (s.bump 1 rest).currentPos := by
    intro s' content hpos
    simp only [Scanner.currentPos, Scanner.bump, SourcePos.mk.injEq] at hpos ⊢
    omega
  cases hcontent : Scanner.scanContent s.currentPos (s.bump 1 rest) rest with
  | ok result =>
    obtain ⟨content, after⟩ := result
    obtain ⟨htext, -, -⟩ := scanContent_spec hcontent
    refine ⟨quote :: (content ++ [quote]), after.rest, .ok (.str content), settles_of ?_ ?_, rfl,
      by rintro _ ⟨⟩⟩
    · rw [hs, htext, List.cons_append, List.append_assoc]
      rfl
    · intro s' tail hpos hs'
      rw [List.cons_append, List.append_assoc, List.singleton_append] at hs'
      rw [hscan s' _ hpos hs', scanContent_ok hcontent _ tail (hinner s' _ hpos)]
      simp only [Except.map, Reads.bump_bump, List.length_cons, List.length_append, List.length_nil,
        Nat.zero_add, Nat.add_comm 1]
  | error e =>
    by_cases hend : lexemeEnd e = none
    · refine ⟨s.rest, [], .error e, ⟨(List.append_nil _).symm, ?_, fun h => absurd hend (h e rfl)⟩,
        ?_, ?_⟩
      · rw [hscan s rest rfl hs, hcontent]
        rfl
      · rw [hs, List.head?_cons]
      · rintro e' ⟨⟩ hne
        exact absurd hend hne
    · obtain ⟨lexeme, rest', rfl, hreach, hcut⟩ := scanContent_error hcontent hend
      refine ⟨quote :: lexeme, rest', .error e, settles_of hs ?_, rfl, ?_⟩
      · intro s' tail hpos hs'
        rw [List.cons_append] at hs'
        rw [hscan s' _ hpos hs', hcut _ tail (hinner s' _ hpos)]
        rfl
      · rintro e' ⟨⟩ -
        rw [hreach, utf8_cons_of_lt (by decide), List.length_cons]
        simp only [Scanner.bump, Option.some.injEq]
        omega

/-- A character that starts no token is refused whatever follows. -/
theorem settles_invalid (hs : s.rest = c :: rest)
    (h : ∀ s' : Scanner, s'.currentPos = s.currentPos → ∀ tail, s'.rest = c :: tail →
      (c = '-' → tail.head?.any Char.isDigit = false) →
        s'.scanKind c tail = .error (.invalidCharacter s.currentPos c))
    (hminus : c = '-' → rest.head?.any Char.isDigit = false) :
    Settles (scanFirst c) s [c] rest (.error (.invalidCharacter s.currentPos c)) := by
  refine ⟨hs, ?_, ?_⟩
  · unfold scanFirst
    rw [h s rfl s.rest.tail (by rw [hs, List.tail_cons]) (by rw [hs, List.tail_cons]; exact hminus)]
    rfl
  · intro _ kept lost added hkept _ s' hpos hs'
    unfold scanFirst
    rw [List.singleton_append] at hs'
    rw [hs', List.tail_cons, h s' hpos _ hs' ?_]
    · rfl
    · intro hc
      have hnot := hminus hc
      rw [hkept] at hnot
      rw [← Bool.not_eq_true]
      exact startsDigit_cut (by rw [hnot]; exact Bool.false_ne_true)

/-- A scan that another scan is. -/
theorem Settles.congr {scan scan' : Scanner → Except ParseError (TokenKind × Scanner)}
    {lexeme : Text}
    {outcome : Except ParseError TokenKind} (h : Settles scan s lexeme rest outcome)
    (heq : ∀ s' : Scanner, s'.currentPos = s.currentPos →
      (∃ tail, s'.rest = lexeme ++ tail) → scan' s' = scan s') :
      Settles scan' s lexeme rest outcome :=
  ⟨h.text, (heq s rfl ⟨rest, h.text⟩).trans h.result,
    fun hend kept lost added hkept hplace s' hpos hs' =>
    (heq s' hpos ⟨_, hs'⟩).trans (h.cut hend kept lost added hkept hplace s' hpos hs')⟩

/-- **Every scan of a token is settled.**  One case for each first character, as in the dispatch
of the scanner. -/
theorem settles_scanFirst (hs : s.rest = c :: rest) :
    ∃ lexeme rest' outcome, Settles (scanFirst c) s lexeme rest' outcome ∧ lexeme.head? = some c ∧
      ∀ e, outcome = .error e → lexemeEnd e ≠ none →
        lexemeEnd e = some (s.offset + (utf8 lexeme).length) := by
  have hinvalid : (∀ s' : Scanner, s'.currentPos = s.currentPos → ∀ tail, s'.rest = c :: tail →
      (c = '-' → tail.head?.any Char.isDigit = false) →
        s'.scanKind c tail = .error (.invalidCharacter s.currentPos c)) →
      (c = '-' → rest.head?.any Char.isDigit = false) →
      ∃ lexeme rest' outcome, Settles (scanFirst c) s lexeme rest' outcome ∧ lexeme.head? = some c ∧
        ∀ e, outcome = .error e → lexemeEnd e ≠ none →
          lexemeEnd e = some (s.offset + (utf8 lexeme).length) := by
    intro h hminus
    refine ⟨[c], rest, _, settles_invalid hs h hminus, rfl, ?_⟩
    rintro e ⟨⟩ -
    rw [utf8_cons, utf8_nil, List.append_nil, String.length_utf8EncodeChar]
    rfl
  by_cases hascii : isAscii c = true
  swap
  · refine hinvalid (fun s' hpos tail _ _ => ?_) fun hc => absurd (hc ▸ hascii) (by decide)
    rw [Scanner.scanKind, if_pos hascii, hpos]
  cases hpunctuation : Scanner.punctuation c with
  | some kind =>
    refine ⟨[c], rest, .ok kind, settles_of hs fun s' tail _ hs' => ?_, rfl, by rintro _ ⟨⟩⟩
    unfold scanFirst Scanner.scanKind
    rw [if_neg (not_not.mpr hascii), hpunctuation, hs']
    rfl
  | none =>
    have hkind : ∀ (s' : Scanner) (tail), s'.scanKind c tail =
        if c = quote then s'.scanString s'.currentPos
        else if c = '-' then
          if tail.head?.any Char.isDigit = true then (s'.bump 1 tail).scanNumber s'.currentPos true
          else .error (.invalidCharacter s'.currentPos '-')
        else if c.isDigit then s'.scanNumber s'.currentPos false
        else if c = 'x' ∨ c = 'X' then .error (.invalidCharacter s'.currentPos c)
        else if c.isAlpha then .ok s'.scanWord
        else .error (.invalidCharacter s'.currentPos c) := by
      intro s' tail
      rw [Scanner.scanKind, if_neg (not_not.mpr hascii), hpunctuation]
    by_cases hquote : c = quote
    · subst hquote
      obtain ⟨lexeme, rest', outcome, hsettles, hhead, hend⟩ := settles_scanString hs
      refine ⟨lexeme, rest', outcome, hsettles.congr fun s' _ _ => ?_, hhead, hend⟩
      rw [scanFirst, hkind, if_pos rfl]
    by_cases hminus : c = '-'
    · subst hminus
      cases hdigit : rest.head?.any Char.isDigit with
      | false =>
        refine hinvalid (fun s' hpos tail _ hnot => ?_) fun _ => hdigit
        rw [hkind, if_neg hquote, if_pos rfl, if_neg (by rw [hnot rfl]; exact Bool.false_ne_true),
          hpos]
      | true =>
        cases rest with
        | nil => cases hdigit
        | cons d rest =>
          obtain ⟨body, rest', outcome, hsettles, hnil, hend⟩ :=
            settles_scanNumber s.currentPos true (s := s.bump 1 (d :: rest)) rfl hdigit
          have hbody : body.head? = some d := by
            have htext := hsettles.text
            cases body with
            | nil => exact absurd rfl hnil
            | cons d' body =>
              rw [Scanner.bump_rest, List.cons_append] at htext
              rw [(List.cons.inj htext).1]
              rfl
          have hscan : ∀ (s' : Scanner) (tail), s'.currentPos = s.currentPos →
              s'.rest = '-' :: (body ++ tail) →
                scanFirst '-' s' = (s'.bump 1 (body ++ tail)).scanNumber s.currentPos true := by
            intro s' tail hpos hs'
            have hstarts : (body ++ tail).head?.any Char.isDigit = true := by
              rw [List.head?_append, hbody]
              exact hdigit
            rw [scanFirst, hkind, if_neg hquote, if_pos rfl, hs', List.tail_cons, if_pos hstarts,
              hpos]
          refine ⟨'-' :: body, rest', outcome, ⟨?_, ?_, ?_⟩, rfl, fun e he _ => hend e he⟩
          · rw [hs]
            exact congrArg (List.cons '-') hsettles.text
          · have hrest : s.rest = '-' :: (body ++ rest') := by
              rw [hs]
              exact congrArg (List.cons '-') hsettles.text
            have hresult := hsettles.result
            rw [show d :: rest = body ++ rest' from hsettles.text] at hresult
            rw [hscan s rest' rfl hrest, hresult]
            simp only [Reads.bump_bump, List.length_cons, Nat.add_comm 1]
          · intro hne kept lost added hkept hplace s' hpos hs'
            rw [List.cons_append] at hs'
            have hpos' : (s'.bump 1 (body ++ (kept ++ ' ' :: added))).currentPos =
                (s.bump 1 (d :: rest)).currentPos := by
              simp only [Scanner.currentPos, Scanner.bump, SourcePos.mk.injEq] at hpos ⊢
              omega
            rw [hscan s' _ hpos hs', hsettles.cut hne kept lost added hkept hplace _ hpos' rfl]
            simp only [Reads.bump_bump, List.length_cons, Nat.add_comm 1]
    have hnot : ∀ tail : Text, c = '-' → tail.head?.any Char.isDigit = false :=
      fun _ hc => absurd hc hminus
    by_cases hdigit : c.isDigit = true
    · obtain ⟨body, rest', outcome, hsettles, hnil, hend⟩ :=
        settles_scanNumber s.currentPos false hs hdigit
      refine ⟨body, rest', outcome, hsettles.congr fun s' hpos _ => ?_, ?_, fun e he _ => hend e he⟩
      · rw [scanFirst, hkind, if_neg hquote, if_neg hminus, if_pos hdigit, hpos]
      · have htext := hsettles.text
        cases body with
        | nil => exact absurd rfl hnil
        | cons d body =>
          rw [hs, List.cons_append] at htext
          rw [(List.cons.inj htext).1]
          rfl
    by_cases hx : c = 'x' ∨ c = 'X'
    · refine hinvalid (fun s' hpos tail _ _ => ?_) (hnot rest)
      rw [hkind, if_neg hquote, if_neg hminus, if_neg hdigit, if_pos hx, hpos]
    by_cases halpha : c.isAlpha = true
    · obtain ⟨word, rest', hsettles, hhead⟩ := settles_scanWord hs (isAlphanum_of_isAlpha halpha)
      refine ⟨word, rest', _, hsettles.congr fun s' _ _ => ?_, hhead, by rintro _ ⟨⟩⟩
      rw [scanFirst, hkind, if_neg hquote, if_neg hminus, if_neg hdigit, if_neg hx, if_pos halpha]
    · refine hinvalid (fun s' hpos tail _ _ => ?_) (hnot rest)
      rw [hkind, if_neg hquote, if_neg hminus, if_neg hdigit, if_neg hx, if_neg halpha, hpos]

/-- A `0` is no token before an `x`. -/
theorem not_settles_zero {text : Text} {outcome : Except ParseError TokenKind}
    (h : Settles (scanFirst '0') s ['0'] ('x' :: text) outcome)
    (hend : ∀ e, outcome = .error e → lexemeEnd e ≠ none → lexemeEnd e = some (s.offset + 1)) :
    False := by
  have hsplit := hexRun_append 0 text
  generalize hdigits : Scanner.hexRun 0 text = digits at hsplit
  have hrun : Scanner.hexRun 0 (digits ++ text.drop digits.length) = digits := by
    rw [← hsplit, hdigits]
  have hs : s.rest = '0' :: 'x' :: (digits ++ text.drop digits.length) := by
    rw [← hsplit]
    exact h.text
  have hscan : scanFirst '0' s = s.scanNumber s.currentPos false := rfl
  have hresult := h.result
  rw [hscan, scanNumber_hex hs hrun] at hresult
  cases houtcome : hexOutcome s.currentPos false digits with
  | ok kind =>
    rw [houtcome] at hresult
    cases outcome with
    | error e => cases hresult
    | ok kind' =>
      have hoffset := congrArg (fun result => result.2.offset) (Except.ok.inj hresult)
      simp only [Scanner.bump, List.length_cons, List.length_nil] at hoffset
      omega
  | error e =>
    rw [houtcome] at hresult
    obtain rfl : outcome = .error e := by
      cases outcome with
      | error e' => exact congrArg _ (Except.error.inj hresult).symm
      | ok kind => cases hresult
    have hlength : lexemeEnd e =
        some (s.offset + (utf8 (minusText false ++ '0' :: 'x' :: digits)).length) := by
      unfold hexOutcome at houtcome
      dsimp only at houtcome
      split_ifs at houtcome <;> cases houtcome <;> rfl
    have hshort := hend e rfl (by rw [hlength]; exact Option.some_ne_none _)
    have htwo : 2 ≤ (utf8 (minusText false ++ '0' :: 'x' :: digits)).length :=
      (show 2 ≤ ('0' :: 'x' :: digits).length by simp).trans (length_le_utf8 _)
    rw [hlength, Option.some.injEq] at hshort
    omega

/-! ## Whitespace -/

/-- The scanner with another text before it. -/
def withRest (s : Scanner) (rest : Text) : Scanner := { s with rest := rest }

theorem withRest_currentPos (s : Scanner) (rest : Text) :
    (withRest s rest).currentPos = s.currentPos := rfl

/-- **Whitespace is passed over** in the same way before anything that is none. -/
theorem skip_gap (text : Text) (offset line column : ℕ) :
    ∃ gap, text = gap ++ (Scanner.skip text offset line column).rest ∧
      (Scanner.skip text offset line column).offset = offset + (utf8 gap).length ∧
      (∀ c ∈ (Scanner.skip text offset line column).rest.head?, Solid c) ∧
      ∀ tail : Text, (∀ c ∈ tail.head?, Solid c) → Scanner.skip (gap ++ tail) offset line column =
        withRest (Scanner.skip text offset line column) tail := by
  fun_induction Scanner.skip text offset line column with
  | case1 offset line column rest ih | case2 offset line column rest ih
  | case3 offset line column rest ih =>
    obtain ⟨gap, hrest, hoffset, hsolid, hskip⟩ := ih
    refine ⟨_ :: gap, congrArg (List.cons _) hrest, ?_, hsolid, fun tail htail => hskip tail htail⟩
    rw [hoffset, utf8_cons_of_lt (by decide), List.length_cons]
    omega
  | case4 offset line column rest ih =>
    obtain ⟨gap, hrest, hoffset, hsolid, hskip⟩ := ih
    refine ⟨'\r' :: '\n' :: gap, congrArg ('\r' :: '\n' :: ·) hrest, ?_, hsolid, fun tail htail =>
      hskip tail htail⟩
    rw [hoffset, utf8_cons_of_lt (by decide), utf8_cons_of_lt (by decide), List.length_cons,
      List.length_cons]
    omega
  | case5 offset line column rest hnot ih =>
    obtain ⟨gap, hrest, hoffset, hsolid, hskip⟩ := ih
    refine ⟨'\r' :: gap, congrArg (List.cons _) hrest, ?_, hsolid, fun tail htail => ?_⟩
    · rw [hoffset, utf8_cons_of_lt (by decide), List.length_cons]
      omega
    · rw [← hskip tail htail, List.cons_append, Scanner.skip]
      intro rest' heq
      cases gap with
      | nil =>
        rw [List.nil_append] at heq
        exact (htail '\n' (by rw [heq]; rfl)).2.2.1 rfl
      | cons c gap =>
        obtain ⟨rfl, -⟩ := List.cons.inj heq
        exact hnot _ hrest
  | case6 offset line column rest hspace htab hfeed _ hreturn =>
    refine ⟨[], rfl, rfl, ?_, fun tail htail => ?_⟩
    · rintro c hc
      obtain ⟨tail, rfl⟩ := List.head?_eq_some_iff.mp hc
      exact ⟨fun h => hspace tail (h ▸ rfl), fun h => htab tail (h ▸ rfl),
        fun h => hfeed tail (h ▸ rfl), fun h => hreturn tail (h ▸ rfl)⟩
    · cases tail with
      | nil => rfl
      | cons c tail => exact skip_solid (htail c rfl) _ _ _

end

/-! ## One call -/

/-- **What one call comes to is decided by what it reads**: the whitespace and the characters of
its token, or up to the character or the literal that it refuses.  It is `Settles` with the
whitespace before the token. -/
structure Call (s : Scanner) (read : Text) (after : Scanner) (outcome : Except ParseError Token) :
    Prop where
  text : s.rest = read ++ after.rest
  ne_nil : read ≠ []
  offset : after.offset = s.offset + (utf8 read).length
  place : read = ['0'] → after.rest.head? ≠ some 'x'
  result : s.nextToken = outcome.map fun token => (some token, after)
  reach : ∀ e, outcome = .error e → lexemeEnd e ≠ none → lexemeEnd e = some after.offset
  cut : (∀ e, outcome = .error e → lexemeEnd e ≠ none) → ∀ kept lost added,
    after.rest = kept ++ lost →
    (kept = ['0'] → lost.head? ≠ some 'x') →
      (withRest s (read ++ (kept ++ ' ' :: added))).nextToken =
        outcome.map fun token => (some token, withRest after (kept ++ ' ' :: added))

theorem nextToken_eq_scanFirst {s skipped : Scanner} {first : Char} {rest : Text}
    (hskip : s.skipWhitespace = skipped) (hrest : skipped.rest = first :: rest) :
    s.nextToken = (scanFirst first skipped).map fun (kind, after) =>
      (some ⟨kind, skipped.currentPos⟩, after) := by
  unfold Scanner.nextToken scanFirst
  dsimp only
  rw [hskip, hrest]
  rfl

/-- **Every call** that does not find the end of the text is decided by what it reads. -/
theorem exists_call {s : Scanner} (hmore : s.skipWhitespace.rest ≠ []) :
    ∃ read after outcome, Call s read after outcome := by
  obtain ⟨gap, htext, hoffset, hsolid, hskip⟩ := skip_gap s.rest s.offset s.line s.column
  obtain ⟨first, rest, hrest⟩ := List.exists_cons_of_ne_nil hmore
  obtain ⟨lexeme, rest', outcome, hsettles, hhead, hend⟩ := settles_scanFirst hrest
  have hfirst : Solid first :=
    hsolid first (by rw [show (Scanner.skip _ _ _ _).rest = _ from hrest]; rfl)
  have htext' : s.rest = gap ++ lexeme ++ rest' := by
    rw [List.append_assoc, ← hsettles.text]
    exact htext
  have hnil : gap ++ lexeme ≠ [] := by
    intro hnil
    rw [(List.append_eq_nil_iff.mp hnil).2] at hhead
    cases hhead
  have hplace : gap ++ lexeme = ['0'] → rest'.head? ≠ some 'x' := by
    intro hzero hx
    obtain rfl : lexeme = ['0'] := by
      cases gap with
      | nil => exact hzero
      | cons c gap =>
        have hlexeme : lexeme = [] := (List.append_eq_nil_iff.mp (List.cons.inj hzero).2).2
        rw [hlexeme] at hhead
        cases hhead
    obtain ⟨text, rfl⟩ := List.head?_eq_some_iff.mp hx
    obtain rfl : '0' = first := Option.some.inj hhead
    refine not_settles_zero hsettles fun e he hne => ?_
    rw [hend e he hne, utf8_cons_of_lt (by decide)]
    rfl
  have hcut : ∀ tail : Text, (withRest s (gap ++ (lexeme ++ tail))).skipWhitespace =
      withRest s.skipWhitespace (lexeme ++ tail) := by
    intro tail
    refine hskip (lexeme ++ tail) fun c hc => ?_
    rw [List.head?_append, hhead] at hc
    obtain rfl : first = c := Option.some.inj hc
    exact hfirst
  have hcons : ∀ tail : Text, ∃ rest,
      (withRest s.skipWhitespace (lexeme ++ tail)).rest = first :: rest := by
    intro tail
    obtain ⟨text, htext⟩ := List.head?_eq_some_iff.mp hhead
    exact ⟨text ++ tail, by rw [htext]; rfl⟩
  have hresult := nextToken_eq_scanFirst rfl hrest
  rw [hsettles.result] at hresult
  cases outcome with
  | error e =>
    refine ⟨gap ++ lexeme, ⟨rest', s.offset + (utf8 (gap ++ lexeme)).length, s.line, s.column⟩,
      .error e, htext', hnil, rfl, hplace, hresult, ?_, ?_⟩
    · rintro e' ⟨⟩ hne
      rw [hend e rfl hne, utf8_append, List.length_append, ← Nat.add_assoc, ← hoffset]
      rfl
    · intro hne kept lost added hkept hcutplace
      obtain ⟨rest, hrest'⟩ := hcons (kept ++ ' ' :: added)
      rw [List.append_assoc, nextToken_eq_scanFirst (hcut _) hrest',
        hsettles.cut (fun e' he => hne e' (by rw [← Except.error.inj he])) kept lost added
          hkept hcutplace
          (withRest s.skipWhitespace (lexeme ++ (kept ++ ' ' :: added))) rfl rfl]
      rfl
  | ok kind =>
    have hkind : s.skipWhitespace.scanKind first rest =
        .ok (kind, s.skipWhitespace.bump lexeme.length rest') := by
      have hscan := hsettles.result
      rw [scanFirst, hrest, List.tail_cons] at hscan
      exact hscan
    have hconsumed := consumed_scanKind hrest hkind
    have hlexeme : (utf8 lexeme).length = lexeme.length := by
      have htext := hsettles.text.symm.trans hconsumed.rest
      rw [show (s.skipWhitespace.bump lexeme.length rest').rest = rest' from rfl] at htext
      rw [List.append_cancel_right htext]
      exact length_utf8_of_lt fun c hc => (hconsumed.plain c hc).1
    refine ⟨gap ++ lexeme, s.skipWhitespace.bump lexeme.length rest',
      .ok ⟨kind, s.skipWhitespace.currentPos⟩,
      htext', hnil, ?_, hplace, hresult, (fun _ h => nomatch h), ?_⟩
    · rw [utf8_append, List.length_append, hlexeme, ← Nat.add_assoc, ← hoffset]
      rfl
    · intro hne kept lost added hkept hcutplace
      obtain ⟨rest, hrest'⟩ := hcons (kept ++ ' ' :: added)
      rw [List.append_assoc, nextToken_eq_scanFirst (hcut _) hrest',
        hsettles.cut (fun _ he => nomatch he) kept lost added hkept hcutplace
          (withRest s.skipWhitespace (lexeme ++ (kept ++ ' ' :: added))) rfl rfl]
      rfl

/-! ## Several calls -/

/-- Calls of the scanner that return these tokens lead from one place to another. -/
inductive Later : Scanner → List Token → Scanner → Prop
  | refl (s : Scanner) : Later s [] s
  | token {s b after : Scanner} {token : Token} {tokens : List Token}
    (next : s.nextToken = .ok (some token, b)) (later : Later b tokens after) :
    Later s (token :: tokens) after

section

variable {s b after : Scanner} {token : Token} {tokens tokens' : List Token}
  {kept lost added : Text}

theorem Later.trans (h : Later s tokens b) (h' : Later b tokens' after) :
    Later s (tokens ++ tokens') after := by
  induction h with
  | refl => exact h'
  | token next _ ih => exact .token next (ih h')

theorem Later.one (h : s.nextToken = .ok (some token, b)) : Later s [token] b := .token h (.refl b)

/-- A call that returns a token is decided by what it reads. -/
theorem call_of_next (h : s.nextToken = .ok (some token, b)) :
    ∃ read, Call s read b (.ok token) := by
  have hmore : s.skipWhitespace.rest ≠ [] := by
    intro hnil
    unfold Scanner.nextToken at h
    dsimp only at h
    rw [hnil] at h
    cases h
  obtain ⟨read, after, outcome, hcall⟩ := exists_call hmore
  have hresult := hcall.result
  rw [h] at hresult
  cases outcome with
  | error e => cases hresult
  | ok token' =>
    cases hresult
    exact ⟨read, hcall⟩

/-- A call that refuses a character or a literal is decided by what it reads. -/
theorem call_of_refusal {e : ParseError} (h : s.nextToken = .error e) :
    ∃ read after, Call s read after (.error e) := by
  have hmore : s.skipWhitespace.rest ≠ [] := by
    intro hnil
    unfold Scanner.nextToken at h
    dsimp only at h
    rw [hnil] at h
    cases h
  obtain ⟨read, after, outcome, hcall⟩ := exists_call hmore
  have hresult := hcall.result
  rw [h] at hresult
  cases outcome with
  | ok token' => cases hresult
  | error e' =>
    cases hresult
    exact ⟨read, after, hcall⟩

/-- **The tokens before a cut** are the same whatever comes behind it. -/
theorem tokens_cut (h : Later s tokens after) (hafter : after.rest = kept ++ lost)
    (hplace : kept = ['0'] → lost.head? ≠ some 'x') :
    ∃ read, s.rest = read ++ after.rest ∧ after.offset = s.offset + (utf8 read).length ∧
      (tokens = [] → read = []) ∧ (read = ['0'] → after.rest.head? ≠ some 'x') ∧
        ∀ added, Later (withRest s (read ++ (kept ++ ' ' :: added))) tokens
          (withRest after (kept ++ ' ' :: added)) := by
  induction h with
  | refl => exact ⟨[], rfl, rfl, fun _ => rfl, (fun h => nomatch h), fun added => .refl _⟩
  | token next later ih =>
    obtain ⟨read', htext, hoffset, hnil, hplace', hlater⟩ := ih hafter
    obtain ⟨read, hcall⟩ := call_of_next next
    have hcutplace : read' ++ kept = ['0'] → lost.head? ≠ some 'x' := by
      intro hzero
      cases read' with
      | nil => exact hplace hzero
      | cons c read' =>
        obtain ⟨rfl, hrest⟩ := List.cons.inj hzero
        obtain ⟨rfl, rfl⟩ := List.append_eq_nil_iff.mp hrest
        have hhead := hplace' rfl
        rwa [hafter, List.nil_append] at hhead
    refine ⟨read ++ read', ?_, ?_, (fun h => nomatch h), ?_, fun added => ?_⟩
    · rw [hcall.text, htext, List.append_assoc]
    · rw [hoffset, hcall.offset, utf8_append, List.length_append, Nat.add_assoc]
    · intro hzero
      obtain ⟨c, tail, rfl⟩ := List.exists_cons_of_ne_nil hcall.ne_nil
      obtain ⟨rfl, hrest⟩ := List.cons.inj hzero
      obtain ⟨rfl, rfl⟩ := List.append_eq_nil_iff.mp hrest
      rw [List.nil_append] at htext
      rw [← htext]
      exact hcall.place rfl
    · have hcut := hcall.cut (fun _ he => nomatch he) (read' ++ kept) lost added
        (by rw [htext, hafter, List.append_assoc]) hcutplace
      simp only [List.append_assoc] at hcut ⊢
      exact .token hcut (hlater added)

/-- **A text is cut behind its tokens**, and the tokens are the same. -/
theorem later_cut (h : Later s tokens after) :
    ∃ read, s.rest = read ++ after.rest ∧ after.offset = s.offset + (utf8 read).length ∧
      ∀ added, Later (withRest s (read ++ ' ' :: added)) tokens
        (withRest after (' ' :: added)) := by
  obtain ⟨read, htext, hoffset, -, -, hlater⟩ :=
    tokens_cut h (show after.rest = [] ++ after.rest from rfl) (fun h => nomatch h)
  exact ⟨read, htext, hoffset, hlater⟩

/-- **A text is cut behind what the scanner refuses**, and it is refused for the same. -/
theorem refusal_cut {e : ParseError} {k : ℕ} (h : Later s tokens b)
    (hrefused : b.nextToken = .error e)
    (hend : lexemeEnd e = some k) :
    ∃ read rest, s.rest = read ++ rest ∧ k = s.offset + (utf8 read).length ∧
      ∀ added, ∃ b', Later (withRest s (read ++ ' ' :: added)) tokens b' ∧
        b'.nextToken = .error e := by
  obtain ⟨read', after, hcall⟩ := call_of_refusal hrefused
  have hne : lexemeEnd e ≠ none := by rw [hend]; exact Option.some_ne_none k
  obtain ⟨read, htext, hoffset, -, -, hlater⟩ := tokens_cut h hcall.text hcall.place
  have hreach := hcall.reach e rfl hne
  rw [hend, Option.some.injEq] at hreach
  refine ⟨read ++ read', after.rest, ?_, ?_, fun added =>
    ⟨withRest b (read' ++ ' ' :: added), ?_, ?_⟩⟩
  · rw [htext, hcall.text, List.append_assoc]
  · rw [hreach, hcall.offset, hoffset, utf8_append, List.length_append, Nat.add_assoc]
  · rw [List.append_assoc]
    exact hlater added
  · exact hcall.cut (fun e' he => (Except.error.inj he) ▸ hne) [] after.rest added rfl
      (fun h => nomatch h)

end

end Sml
end SecsRust

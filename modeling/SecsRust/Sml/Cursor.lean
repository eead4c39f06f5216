import SecsRust.Sml.Grammar

/-!
# The tokens a cursor stands at

A token cursor scans on demand and may hold a token that has only been looked at.  What is
left of the text is the same either way: `TokenCursor.kinds` are the kinds of the tokens
that follow, up to the end or to the first error of the scanner, and `TokenCursor.ending` is
that error.  With them a cursor is a list of tokens, and the two operations on it take the
first one (`passes_next`) or leave it (`passes_peek`).

`Passes c ks c'` says that `c'` is behind the tokens `ks` of `c`; it composes as lists do.
`Recognises` is what a part of the parser has to satisfy to be one part of the grammar: it
succeeds exactly on tokens that the grammar has for it, and is then behind them.  A part
that calls others recognises what they recognise one after the other, so the proof that the
parser accepts its grammar has the shape of the parser.
-/

namespace SecsRust
namespace Sml

namespace Scanner

/-- Behind the last token nothing remains. -/
theorem remaining_end {s after : Scanner} (h : s.nextToken = .ok (none, after)) :
    after.remaining = ([], none) := by
  have hrest : after.rest = [] := by
    unfold nextToken at h
    dsimp only at h
    split at h
    · rename_i hnil
      cases h
      exact hnil
    · rename_i first rest hcons
      cases hkind : s.skipWhitespace.scanKind first rest with
      | error e => rw [hkind] at h; cases h
      | ok result => rw [hkind] at h; cases h
  obtain ⟨rest, offset, line, column⟩ := after
  obtain rfl : rest = [] := hrest
  rw [remaining_eq]
  rfl

/-- There are no more tokens than characters. -/
theorem length_remaining (s : Scanner) : s.remaining.1.length ≤ s.rest.length := by
  induction hn : s.rest.length using Nat.strong_induction_on generalizing s with
  | _ n ih =>
    rw [remaining_eq]
    split
    · exact Nat.zero_le _
    · exact Nat.zero_le _
    · rename_i token s' hnext
      have hless := length_nextToken hnext
      rw [hn] at hless
      exact Nat.succ_le_of_lt (Nat.lt_of_le_of_lt (ih _ hless s' rfl) hless)

end Scanner

namespace TokenCursor

/-- The tokens that follow, the one that has been looked at included, and the error behind them. -/
def pending (c : TokenCursor) : List Token × Option ParseError :=
  (c.lookahead.toList ++ c.scanner.remaining.1, c.scanner.remaining.2)

/-- The kinds of the tokens that follow. -/
def kinds (c : TokenCursor) : List TokenKind := c.pending.1.map Token.kind

/-- The error of the scanner behind the tokens that follow, if there is one. -/
def ending (c : TokenCursor) : Option ParseError := c.pending.2

variable {c c' c'' : TokenCursor} {token : Token} {ks ks' rest : List TokenKind}

/-! ## One token -/

theorem pending_next (h : c.next = .ok (some token, c')) :
    c.pending = (token :: c'.pending.1, c'.pending.2) := by
  obtain ⟨scanner, lookahead⟩ := c
  cases lookahead with
  | some buffered =>
    cases h
    rfl
  | none =>
    unfold next at h
    dsimp only at h
    cases hnext : scanner.nextToken with
    | error e => rw [hnext] at h; cases h
    | ok result =>
      obtain ⟨found, scanner'⟩ := result
      rw [hnext] at h
      cases h
      show scanner.remaining = _
      rw [Scanner.remaining_eq, hnext]
      rfl

theorem next_of_pending {tokens : List Token} (h : c.pending.1 = token :: tokens) :
    ∃ c', c.next = .ok (some token, c') := by
  obtain ⟨scanner, lookahead⟩ := c
  cases lookahead with
  | some buffered =>
    obtain rfl : buffered = token := (List.cons.inj h).1
    exact ⟨_, rfl⟩
  | none =>
    replace h : scanner.remaining.1 = token :: tokens := h
    rw [Scanner.remaining_eq] at h
    unfold next
    dsimp only
    cases hnext : scanner.nextToken with
    | error e => rw [hnext] at h; cases h
    | ok result =>
      obtain ⟨found, scanner'⟩ := result
      rw [hnext] at h
      cases found with
      | none => cases h
      | some found =>
        obtain rfl : found = token := (List.cons.inj h).1
        exact ⟨_, rfl⟩

/-- Looking at the next token leaves it where it is. -/
theorem pending_peek {found : Option Token} (h : c.peek = .ok (found, c')) :
    c'.pending = c.pending ∧ found = c.pending.1.head? ∧
      (found = none → c.pending = ([], none)) := by
  obtain ⟨scanner, lookahead⟩ := c
  cases lookahead with
  | some buffered =>
    cases h
    exact ⟨rfl, rfl, fun h => nomatch h⟩
  | none =>
    unfold peek at h
    dsimp only at h
    cases hnext : scanner.nextToken with
    | error e => rw [hnext] at h; cases h
    | ok result =>
      obtain ⟨found', scanner'⟩ := result
      have hpending : pending ⟨scanner, none⟩ = scanner.remaining := rfl
      rw [Scanner.remaining_eq, hnext] at hpending
      rw [hnext] at h
      cases h
      cases found' with
      | none =>
        rw [hpending]
        exact ⟨Scanner.remaining_end hnext, rfl, fun _ => rfl⟩
      | some token =>
        rw [hpending]
        exact ⟨rfl, rfl, fun h => nomatch h⟩

theorem peek_of_pending {tokens : List Token} (h : c.pending.1 = token :: tokens) :
    ∃ c', c.peek = .ok (some token, c') := by
  obtain ⟨c', hnext⟩ := next_of_pending h
  obtain ⟨scanner, lookahead⟩ := c
  cases lookahead with
  | some buffered =>
    cases hnext
    exact ⟨_, rfl⟩
  | none =>
    unfold next at hnext
    unfold peek
    dsimp only at hnext ⊢
    cases hfound : scanner.nextToken with
    | error e => rw [hfound] at hnext; cases hnext
    | ok result =>
      obtain ⟨found, scanner'⟩ := result
      rw [hfound] at hnext
      cases hnext
      exact ⟨_, rfl⟩

theorem peek_of_end (h : c.pending = ([], none)) : ∃ c', c.peek = .ok (none, c') := by
  obtain ⟨scanner, lookahead⟩ := c
  cases lookahead with
  | some buffered => exact absurd (congrArg Prod.fst h) (List.cons_ne_nil _ _)
  | none =>
    replace h : scanner.remaining = ([], none) := h
    rw [Scanner.remaining_eq] at h
    unfold peek
    dsimp only
    cases hnext : scanner.nextToken with
    | error e => rw [hnext] at h; cases h
    | ok result =>
      obtain ⟨found, scanner'⟩ := result
      rw [hnext] at h
      cases found with
      | none => exact ⟨_, rfl⟩
      | some found => cases h

/-! ## Several tokens -/

/-- The second cursor is behind these tokens of the first. -/
structure Passes (c : TokenCursor) (ks : List TokenKind) (c' : TokenCursor) : Prop where
  kinds : c.kinds = ks ++ c'.kinds
  ending : c'.ending = c.ending

theorem Passes.refl (c : TokenCursor) : c.Passes [] c := ⟨rfl, rfl⟩

theorem Passes.trans (h : c.Passes ks c') (h' : c'.Passes ks' c'') : c.Passes (ks ++ ks') c'' :=
  ⟨by rw [h.kinds, h'.kinds, List.append_assoc], h'.ending.trans h.ending⟩

theorem Passes.cons {k : TokenKind} (h : c.Passes [k] c') (h' : c'.Passes ks c'') :
    c.Passes (k :: ks) c'' :=
  h.trans h'

/-- What follows a prefix is where the cursor stands behind it. -/
theorem Passes.kinds_eq (h : c.Passes ks c') (hrest : c.kinds = ks ++ rest) : c'.kinds = rest :=
  List.append_cancel_left (h.kinds.symm.trans hrest)

/-- **The next token is passed.** -/
theorem passes_next (h : c.next = .ok (some token, c')) : c.Passes [token.kind] c' := by
  have hpending := pending_next h
  refine ⟨?_, ?_⟩
  · rw [kinds, hpending]
    rfl
  · rw [ending, ending, hpending]

theorem next_of_kinds {k : TokenKind} (h : c.kinds = k :: rest) :
    ∃ token c', c.next = .ok (some token, c') ∧ token.kind = k ∧ c.Passes [k] c' ∧
      c'.kinds = rest := by
  obtain ⟨token, tokens, htokens, rfl, -⟩ := List.map_eq_cons_iff.mp h
  obtain ⟨c', hnext⟩ := next_of_pending htokens
  have hpasses := passes_next hnext
  exact ⟨token, c', hnext, rfl, hpasses, hpasses.kinds_eq h⟩

/-- **Looking at the next token passes nothing.** -/
theorem passes_peek {found : Option Token} (h : c.peek = .ok (found, c')) : c.Passes [] c' := by
  obtain ⟨hpending, -, -⟩ := pending_peek h
  refine ⟨?_, ?_⟩
  · rw [kinds, kinds, hpending, List.nil_append]
  · rw [ending, ending, hpending]

theorem kinds_peek (h : c.peek = .ok (some token, c')) : ∃ rest, c.kinds = token.kind :: rest := by
  obtain ⟨-, hfound, -⟩ := pending_peek h
  obtain ⟨tokens, htokens⟩ := List.head?_eq_some_iff.mp hfound.symm
  exact ⟨tokens.map Token.kind, by rw [kinds, htokens, List.map_cons]⟩

theorem end_of_peek (h : c.peek = .ok (none, c')) : c.kinds = [] ∧ c.ending = none := by
  obtain ⟨-, -, hend⟩ := pending_peek h
  rw [kinds, ending, hend rfl]
  exact ⟨rfl, rfl⟩

theorem peek_of_kinds {k : TokenKind} (h : c.kinds = k :: rest) :
    ∃ token c', c.peek = .ok (some token, c') ∧ token.kind = k ∧ c.Passes [] c' := by
  obtain ⟨token, tokens, htokens, rfl, -⟩ := List.map_eq_cons_iff.mp h
  obtain ⟨c', hpeek⟩ := peek_of_pending htokens
  exact ⟨token, c', hpeek, rfl, passes_peek hpeek⟩

theorem peek_at_end (hkinds : c.kinds = []) (hending : c.ending = none) :
    ∃ c', c.peek = .ok (none, c') :=
  peek_of_end (Prod.ext (List.map_eq_nil_iff.mp hkinds) hending)

end TokenCursor

/-! ## Parts of the parser -/

/-- A part of the parser is a part of the grammar: what it accepts is derived, and what is derived
and comes next it accepts. -/
structure Recognises {α : Type} (parse : TokenCursor → Except ParseError (α × TokenCursor))
    (Derived : List TokenKind → α → Prop) : Prop where
  sound : ∀ c v c', parse c = .ok (v, c') → ∃ ks, Derived ks v ∧ c.Passes ks c'
  complete : ∀ c v ks, Derived ks v → ks <+: c.kinds → ∃ c', parse c = .ok (v, c') ∧ c.Passes ks c'

end Sml
end SecsRust

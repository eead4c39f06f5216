import SecsRust.Sml.Cut
import SecsRust.Sml.Parser

/-!
# Readings

A part of the parser asks for tokens, one at a time, and does nothing else with its text.  A
`Reading` is such a part as a tree: it is done, it fails, or it goes on with the token that
it consumes or looks at, or with the end of the text. `Reading.run` is what a reading does
at a cursor.  It also keeps the offset behind the last token that has been read
(`Place.reach`), and reports it with a failure.

A reading says nothing of the text but through its tokens.  So a failure behind some tokens
of one text is a failure behind the same tokens of any other (`run_decided`), and with
`later_cut` and `refusal_cut` it is decided by the text up to the offset that it reports
(`run_cut`).  The proof is an induction over the reading, and it is made once, for
everything that is written as a reading.

A failure that the scanner or the end of the text has caused has no offset, since more text
could prevent it; `ClosesIn` says which errors these can be.

`Agrees` compares a reading with a part of the parser as it is written in `Sml/Parser.lean`.
-/

namespace SecsRust
namespace Sml

/-- A part of a parser, by the tokens that it asks for.  It is a tree of questions to the cursor,
whose leaves are results, checks or the end of the fuel. -/
inductive Reading (α : Type) where
  | done (result : α)
  | fail (e : SourcePos → ParseError)
  | exhausted
  | pull (more : Option Token → Reading α)
  | look (more : Option Token → Reading α)

/-- A cursor, and the offset behind the last token that has been consumed or looked at.  There is no
such offset once the end of the text has been met. -/
structure Place where
  cursor : TokenCursor
  reach : Option ℕ

namespace Place

/-- The place at the beginning of a text. -/
def first (input : Text) : Place := ⟨TokenCursor.new (Scanner.new input), some 0⟩

/-- The place behind a token, or at the end. -/
def behind (found : Option Token) (c : TokenCursor) :
    Place := ⟨c, found.map fun _ => c.scanner.offset⟩

/-- The offset of a place is where the scanner stands. -/
def Exact (p : Place) : Prop := ∀ k, p.reach = some k → k = p.cursor.scanner.offset

theorem exact_behind (found : Option Token) (c : TokenCursor) : (behind found c).Exact := by
  intro k hk
  obtain ⟨token, -, rfl⟩ := Option.map_eq_some_iff.mp hk
  rfl

end Place

/-- Why a reading stops: with an error, behind the last token that it has read, or for want of
fuel.  Want of fuel is told apart from an error, so that it can be shown not to happen. -/
inductive Stop where
  | failed (e : ParseError) (reach : Option ℕ)
  | exhausted

namespace Reading

variable {α β : Type}

/-- One reading, and another with its result. -/
def bind : Reading α → (α → Reading β) → Reading β
  | done result, f => f result
  | fail e, _ => fail e
  | exhausted, _ => exhausted
  | pull more, f => pull fun found => (more found).bind f
  | look more, f => look fun found => (more found).bind f

instance : Monad Reading where
  pure := done
  bind := bind

/-- The next token. -/
def next : Reading (Option Token) := pull done

/-- A look at the next token. -/
def peek : Reading (Option Token) := look done

/-- A check of what has been read. -/
def check : Except ParseError α → Reading α
  | .ok result => done result
  | .error e => fail fun _ => e

/-- What a reading does at a place. -/
def run : Reading α → Place → Except Stop (α × Place)
  | done result, p => .ok (result, p)
  | fail e, p => .error (.failed (e p.cursor.eofPos) p.reach)
  | exhausted, _ => .error .exhausted
  | pull more, p =>
    match p.cursor.next with
    | .error e => .error (.failed e (lexemeEnd e))
    | .ok (found, c) => (more found).run (.behind found c)
  | look more, p =>
    match p.cursor.peek with
    | .error e => .error (.failed e (lexemeEnd e))
    | .ok (found, c) => (more found).run (.behind found c)

/-- What a reading does with the answer of the cursor. -/
def readOn (more : Option Token → Reading α) :
    Except ParseError (Option Token × TokenCursor) → Except Stop (α × Place)
  | .error e => .error (.failed e (lexemeEnd e))
  | .ok (found, c) => (more found).run (.behind found c)

theorem run_pull (more : Option Token → Reading α) (p : Place) :
    (pull more).run p = readOn more p.cursor.next := by
  rw [run]
  rfl

theorem run_look (more : Option Token → Reading α) (p : Place) :
    (look more).run p = readOn more p.cursor.peek := by
  rw [run]
  rfl

theorem run_bind (r : Reading α) (f : α → Reading β) (p : Place) :
    (r.bind f).run p = r.run p >>= fun (result, p) => (f result).run p := by
  induction r generalizing p with
  | done result => rfl
  | fail e => rfl
  | exhausted => rfl
  | pull more ih =>
    rw [bind, run_pull, run_pull]
    cases p.cursor.next with
    | error e => rfl
    | ok result => exact ih _ _
  | look more ih =>
    rw [bind, run_look, run_look]
    cases p.cursor.peek with
    | error e => rfl
    | ok result => exact ih _ _

/-! ## Behind the end -/

/-- The scanner has nothing more. -/
theorem nextToken_nil {s : Scanner} (h : s.rest = []) :
    ∃ after, s.nextToken = .ok (none, after) ∧ after.rest = [] := by
  obtain ⟨rest, offset, line, column⟩ := s
  obtain rfl : rest = [] := h
  exact ⟨_, rfl, rfl⟩

theorem rest_of_end {s after : Scanner} (h : s.nextToken = .ok (none, after)) :
    after.rest = [] := by
  unfold Scanner.nextToken at h
  dsimp only at h
  split at h
  · rename_i hnil
    cases h
    exact hnil
  · rename_i first rest hcons
    cases hkind : s.skipWhitespace.scanKind first rest with
    | error e => rw [hkind] at h; cases h
    | ok result => rw [hkind] at h; cases h

/-- A reading that fails behind the end reports no offset. -/
theorem run_ended {s : Scanner} {e : ParseError} {reach : Option ℕ} (r : Reading α)
    (hs : s.rest = [])
    (h : r.run ⟨⟨s, none⟩, none⟩ = .error (.failed e reach)) : reach = none := by
  induction r generalizing s with
  | done result => cases h
  | fail e => cases h; rfl
  | exhausted => cases h
  | pull more ih =>
    obtain ⟨after, hnext, hafter⟩ := nextToken_nil hs
    unfold run TokenCursor.next at h
    dsimp only at h
    rw [hnext] at h
    exact ih none hafter h
  | look more ih =>
    obtain ⟨after, hnext, hafter⟩ := nextToken_nil hs
    unfold run TokenCursor.peek at h
    dsimp only at h
    rw [hnext] at h
    exact ih none hafter h

/-! ## Two texts with the same tokens -/

/-- The failure is that of a check behind the tokens: wherever a cursor stands that has the same
tokens before it, the reading fails for it as well. -/
def FailsBehind (r : Reading α) (e : ParseError) (lookahead : Option Token) (tokens : List Token)
    (after : Scanner) : Prop :=
  ∀ s reach after', Later s tokens after' → after'.currentPos = after.currentPos →
    ∃ k, r.run ⟨⟨s, lookahead⟩, reach⟩ = .error (.failed e k)

/-- The failure is that of the scanner behind the tokens. -/
def RefusedBehind (r : Reading α) (e : ParseError) (lookahead : Option Token)
    (tokens : List Token) : Prop :=
  ∀ s reach after', Later s tokens after' → after'.nextToken = .error e →
    ∃ k, r.run ⟨⟨s, lookahead⟩, reach⟩ = .error (.failed e k)

/-- A failure is decided by the tokens that the reading has read. -/
def Decided (r : Reading α) : Prop :=
  ∀ p e k, p.Exact → r.run p = .error (.failed e (some k)) →
    ∃ tokens after, Later p.cursor.scanner tokens after ∧
      (after.offset = k ∧ r.FailsBehind e p.cursor.lookahead tokens after ∨
        after.nextToken = .error e ∧ lexemeEnd e = some k ∧
          r.RefusedBehind e p.cursor.lookahead tokens)

section

variable {r : Reading α} {more : Option Token → Reading α}
  {op : TokenCursor → Except ParseError (Option Token × TokenCursor)}

/-- A reading that begins with a token: `op` is the way to ask for it, and `keep` is what it
buffers. -/
theorem decided_read (keep : Option Token → Option Token)
    (hrun : ∀ p, r.run p = readOn more (op p.cursor))
    (hbuffered : ∀ s token, op ⟨s, some token⟩ = .ok (some token, ⟨s, keep (some token)⟩))
    (hscanned : ∀ s, op ⟨s, none⟩ = s.nextToken.map fun (found, s) => (found, ⟨s, keep found⟩))
    (hend : keep none = none) (ih : ∀ found, (more found).Decided) : r.Decided := by
  rintro ⟨⟨s, lookahead⟩, reach⟩ e k - h
  rw [hrun] at h
  cases lookahead with
  | some token =>
    dsimp only at h
    rw [hbuffered] at h
    obtain ⟨tokens, after, hlater, hcase⟩ := ih (some token) _ e k (Place.exact_behind _ _) h
    refine ⟨tokens, after, hlater, hcase.imp ?_ ?_⟩
    · rintro ⟨hk, hfails⟩
      refine ⟨hk, fun d reach' after' hd hpos => ?_⟩
      rw [hrun]
      dsimp only
      rw [hbuffered]
      exact hfails d _ after' hd hpos
    · rintro ⟨hrefused, hk, hfails⟩
      refine ⟨hrefused, hk, fun d reach' after' hd hrefused' => ?_⟩
      rw [hrun]
      dsimp only
      rw [hbuffered]
      exact hfails d _ after' hd hrefused'
  | none =>
    dsimp only at h
    rw [hscanned] at h
    cases hnext : s.nextToken with
    | error e' =>
      rw [hnext] at h
      replace h := Except.error.inj h
      injection h with he hk
      subst he
      refine ⟨[], s, .refl s, Or.inr ⟨hnext, hk, fun d reach' after' hd hrefused => ?_⟩⟩
      cases hd
      rw [hrun]
      dsimp only
      rw [hscanned, hrefused]
      exact ⟨_, rfl⟩
    | ok result =>
      obtain ⟨found, b⟩ := result
      rw [hnext] at h
      replace h : (more found).run (.behind found ⟨b, keep found⟩) = .error (.failed e (some k)) :=
        h
      cases found with
      | none =>
        rw [hend] at h
        exact absurd (run_ended _ (rest_of_end hnext) h) (Option.some_ne_none k)
      | some token =>
        obtain ⟨tokens, after, hlater, hcase⟩ := ih (some token) _ e k (Place.exact_behind _ _) h
        refine ⟨token :: tokens, after, .token hnext hlater, hcase.imp ?_ ?_⟩
        · rintro ⟨hk, hfails⟩
          refine ⟨hk, fun d reach' after' hd hpos => ?_⟩
          cases hd with
          | token hfirst hrest =>
            rw [hrun]
            dsimp only
            rw [hscanned, hfirst]
            exact hfails _ _ after' hrest hpos
        · rintro ⟨hrefused, hk, hfails⟩
          refine ⟨hrefused, hk, fun d reach' after' hd hrefused' => ?_⟩
          cases hd with
          | token hfirst hrest =>
            rw [hrun]
            dsimp only
            rw [hscanned, hfirst]
            exact hfails _ _ after' hrest hrefused'

end

/-- **A failure is decided by the tokens that have been read.**  By induction on the reading; one
lemma serves tokens that are consumed and tokens that are looked at. -/
theorem run_decided (r : Reading α) : r.Decided := by
  induction r with
  | done result => intro p e k _ h; cases h
  | fail error =>
    intro p e k hp h
    replace h := Except.error.inj h
    injection h with he hk
    refine ⟨[], p.cursor.scanner, .refl _,
      Or.inl ⟨(hp k hk).symm, fun s reach after' hd hpos => ?_⟩⟩
    cases hd
    refine ⟨reach, ?_⟩
    unfold run TokenCursor.eofPos
    rw [← he, hpos]
    rfl
  | exhausted => intro p e k _ h; cases h
  | pull more ih =>
    exact decided_read (fun _ => none) (run_pull more) (fun _ _ => rfl) (fun _ => rfl) rfl ih
  | look more ih =>
    exact decided_read id (run_look more) (fun _ _ => rfl) (fun _ => rfl) rfl ih

/-- **A failure is decided by the text that has been read**: whatever replaces the text behind the
offset of the failure, if it starts with a space, the reading fails for the same. -/
theorem run_cut {r : Reading α} {input : Text} {e : ParseError} {k : ℕ}
    (h : r.run (.first input) = .error (.failed e (some k))) :
    ∃ head, takeBytes input k = some head ∧
      ∀ added, ∃ reach, r.run (.first (head ++ ' ' :: added)) = .error (.failed e reach) := by
  have hexact : (Place.first input).Exact := by
    rintro k ⟨⟩
    rfl
  obtain ⟨tokens, after, hlater, ⟨rfl, hfails⟩ | ⟨hrefused, hk, hfails⟩⟩ :=
    run_decided r _ e k hexact h
  · obtain ⟨read, htext, hoffset, hcut⟩ := later_cut hlater
    refine ⟨read, ?_, fun added => hfails _ _ _ (hcut added) (withRest_currentPos _ _)⟩
    replace htext : input = read ++ after.rest := htext
    rw [hoffset, htext]
    exact (congrArg _ (Nat.zero_add _)).trans (takeBytes_append read after.rest)
  · obtain ⟨read, rest, htext, hoffset, hcut⟩ := refusal_cut hlater hrefused hk
    refine ⟨read, ?_, fun added => ?_⟩
    · replace htext : input = read ++ rest := htext
      rw [hoffset, htext]
      exact (congrArg _ (Nat.zero_add _)).trans (takeBytes_append read rest)
    · obtain ⟨b, hb, hrefused'⟩ := hcut added
      exact hfails _ _ _ hb hrefused'

/-! ## The end of the text -/

/-- At the end of the text the reading fails with such an error, or it is done with such a result.
-/
def EndsIn (A : ParseError → Prop) (P : α → Prop) : Reading α → Prop
  | done result => P result
  | fail e => ∀ pos, A (e pos)
  | exhausted => True
  | pull more => (more none).EndsIn A P
  | look more => (more none).EndsIn A P

/-- Wherever the reading meets the end of the text, it fails with such an error, or it is done with
such a result.  A token that has been looked at is not the end. -/
def ClosesIn (A : ParseError → Prop) (P : α → Prop) : Bool → Reading α → Prop
  | _, done _ => True
  | _, fail _ => True
  | _, exhausted => True
  | buffered, pull more =>
    (∀ token, (more (some token)).ClosesIn A P false) ∧ (buffered = false → (more none).EndsIn A P)
  | buffered, look more =>
    (∀ token, (more (some token)).ClosesIn A P true) ∧ (buffered = false → (more none).EndsIn A P)

section

variable {A : ParseError → Prop} {P : α → Prop} {Q : β → Prop} {r : Reading α} {f : α → Reading β}

theorem EndsIn.bind (h : r.EndsIn A fun a => (f a).EndsIn A Q) : (r >>= f).EndsIn A Q := by
  show (r.bind f).EndsIn A Q
  induction r with
  | done result => exact h
  | fail e => exact h
  | exhausted => trivial
  | pull more ih => exact ih none h
  | look more ih => exact ih none h

theorem EndsIn.mono {P' : α → Prop} (h : r.EndsIn A P) (hP : ∀ a, P a → P' a) : r.EndsIn A P' := by
  induction r with
  | done result => exact hP _ h
  | fail e => exact h
  | exhausted => trivial
  | pull more ih => exact ih none h
  | look more ih => exact ih none h

theorem ClosesIn.mono {P' : α → Prop} {buffered : Bool} (h : r.ClosesIn A P buffered)
    (hP : ∀ a, P a → P' a) : r.ClosesIn A P' buffered := by
  induction r generalizing buffered with
  | done result => trivial
  | fail e => trivial
  | exhausted => trivial
  | pull more ih => exact ⟨fun token => ih _ (h.1 token), fun hb => (h.2 hb).mono hP⟩
  | look more ih => exact ⟨fun token => ih _ (h.1 token), fun hb => (h.2 hb).mono hP⟩

/-- It does no harm if the next token has been looked at. -/
theorem ClosesIn.buffered (h : r.ClosesIn A P false) (b : Bool) : r.ClosesIn A P b := by
  cases r with
  | done result => trivial
  | fail e => trivial
  | exhausted => trivial
  | pull more => exact ⟨h.1, fun _ => h.2 rfl⟩
  | look more => exact ⟨h.1, fun _ => h.2 rfl⟩

theorem ClosesIn.bind {b : Bool} (h : r.ClosesIn A (fun a => (f a).EndsIn A Q) b)
    (hf : ∀ a, (f a).ClosesIn A Q false) : (r >>= f).ClosesIn A Q b := by
  show (r.bind f).ClosesIn A Q b
  induction r generalizing b with
  | done result => exact (hf result).buffered b
  | fail e => trivial
  | exhausted => trivial
  | pull more ih => exact ⟨fun token => ih _ (h.1 token), fun hb => EndsIn.bind (h.2 hb)⟩
  | look more ih => exact ⟨fun token => ih _ (h.1 token), fun hb => EndsIn.bind (h.2 hb)⟩

theorem closesIn_check (x : Except ParseError α) (b : Bool) : (check x).ClosesIn A P b := by
  cases x <;> trivial

theorem closesIn_next {f : Option Token → Reading β} {b : Bool}
    (hmore : ∀ token, (f (some token)).ClosesIn A Q false)
    (hend : b = false → (f none).EndsIn A Q) :
    (next >>= f).ClosesIn A Q b := ⟨hmore, hend⟩

theorem closesIn_peek {f : Option Token → Reading β} {b : Bool}
    (hmore : ∀ token, (f (some token)).ClosesIn A Q true) (hend : b = false → (f none).EndsIn A Q) :
    (peek >>= f).ClosesIn A Q b := ⟨hmore, hend⟩

/-- Behind the end a reading fails as it does at the end. -/
theorem EndsIn.failed {s : Scanner} {e : ParseError} {reach reach' : Option ℕ} (h : r.EndsIn A P)
    (hs : s.rest = []) (hrun : r.run ⟨⟨s, none⟩, reach⟩ = .error (.failed e reach')) : A e := by
  induction r generalizing s reach with
  | done result => cases hrun
  | fail error =>
    cases hrun
    exact h _
  | exhausted => cases hrun
  | pull more ih =>
    obtain ⟨after, hnext, hafter⟩ := nextToken_nil hs
    unfold run TokenCursor.next at hrun
    dsimp only at hrun
    rw [hnext] at hrun
    exact ih none h hafter hrun
  | look more ih =>
    obtain ⟨after, hnext, hafter⟩ := nextToken_nil hs
    unfold run TokenCursor.peek at hrun
    dsimp only at hrun
    rw [hnext] at hrun
    exact ih none h hafter hrun

/-- One token more: the scanner refuses it, or it is the end, or the reading goes on. -/
theorem closesIn_read (op : TokenCursor → Except ParseError (Option Token × TokenCursor))
    (keep : Option Token → Option Token) {more : Option Token → Reading α} {p : Place}
    {e : ParseError}
    (hrun : readOn more (op p.cursor) = .error (.failed e none))
    (hbuffered : ∀ s token, op ⟨s, some token⟩ = .ok (some token, ⟨s, keep (some token)⟩))
    (hscanned : ∀ s, op ⟨s, none⟩ = s.nextToken.map fun (found, s) => (found, ⟨s, keep found⟩))
    (hkeep : keep none = none) (hscan : ∀ s e, Scanner.nextToken s = .error e → lexemeEnd e = none →
      A e)
    (hend : p.cursor.lookahead = none → (more none).EndsIn A P)
    (ih : ∀ token s k, (more (some token)).run ⟨⟨s, keep (some token)⟩, some k⟩ =
      .error (.failed e none) →
      A e) : A e := by
  obtain ⟨⟨s, lookahead⟩, reach⟩ := p
  cases lookahead with
  | some token =>
    dsimp only at hrun
    rw [hbuffered] at hrun
    exact ih token _ _ hrun
  | none =>
    dsimp only at hrun
    rw [hscanned] at hrun
    cases hnext : s.nextToken with
    | error e' =>
      rw [hnext] at hrun
      replace hrun := Except.error.inj hrun
      injection hrun with he hreach
      subst he
      exact hscan s e' hnext hreach
    | ok result =>
      obtain ⟨found, b⟩ := result
      rw [hnext] at hrun
      cases found with
      | none =>
        replace hrun : (more none).run (.behind none ⟨b, keep none⟩) = .error (.failed e none) :=
          hrun
        rw [hkeep] at hrun
        exact (hend rfl).failed (rest_of_end hnext) hrun
      | some token => exact ih token _ _ hrun

/-- **A failure without an offset is one of those at the end**, of the scanner or of the reading. -/
theorem ClosesIn.failed {p : Place} {e : ParseError} {buffered : Bool} (h : r.ClosesIn A P buffered)
    (hscan : ∀ s e, Scanner.nextToken s = .error e → lexemeEnd e = none → A e)
    (hp : p.reach ≠ none) (hb : buffered = true → p.cursor.lookahead ≠ none)
    (hrun : r.run p = .error (.failed e none)) : A e := by
  induction r generalizing p buffered with
  | done result => cases hrun
  | fail error =>
    replace hrun := Except.error.inj hrun
    injection hrun with he hreach
    exact absurd hreach hp
  | exhausted => cases hrun
  | pull more ih =>
    rw [run_pull] at hrun
    refine closesIn_read TokenCursor.next (fun _ => none) hrun (fun _ _ => rfl)
      (fun _ => rfl) rfl hscan
      (fun hnone => h.2 ?_) fun token s k hrun => ?_
    · exact Bool.eq_false_iff.mpr fun hb' => hb hb' hnone
    · exact ih (some token) (h.1 token) (Option.some_ne_none k) (fun h => nomatch h) hrun
  | look more ih =>
    rw [run_look] at hrun
    refine closesIn_read TokenCursor.peek id hrun (fun _ _ => rfl) (fun _ => rfl) rfl hscan
      (fun hnone => h.2 ?_) fun token s k hrun => ?_
    · exact Bool.eq_false_iff.mpr fun hb' => hb hb' hnone
    · exact ih (some token) (h.1 token) (Option.some_ne_none k)
        (fun _ => Option.some_ne_none token) hrun

end

/-! ## Fuel -/

/-- So many tokens can be consumed before the fuel of a reading is exhausted. -/
def Lasts : Reading α → ℕ → Prop
  | done _, _ => True
  | fail _, _ => True
  | exhausted, n => n = 0
  | pull more, n => (∀ token, (more (some token)).Lasts (n - 1)) ∧ (more none).Lasts n
  | look more, n => ∀ found, (more found).Lasts n

theorem Lasts.mono {r : Reading α} {n m : ℕ} (h : r.Lasts n) (hm : m ≤ n) : r.Lasts m := by
  induction r generalizing n m with
  | done result => trivial
  | fail e => trivial
  | exhausted => exact Nat.le_zero.mp (hm.trans (le_of_eq h))
  | pull more ih => exact ⟨fun token => ih _ (h.1 token) (Nat.sub_le_sub_right hm 1),
      ih none h.2 hm⟩
  | look more ih => exact fun found => ih found (h found) hm

theorem Lasts.bind {r : Reading α} {f : α → Reading β} {n : ℕ} (h : r.Lasts n)
    (hf : ∀ a, (f a).Lasts n) :
    (r >>= f).Lasts n := by
  show (r.bind f).Lasts n
  induction r generalizing n with
  | done result => exact hf result
  | fail e => trivial
  | exhausted => exact h
  | pull more ih =>
    exact ⟨fun token => ih _ (h.1 token) fun a => (hf a).mono (Nat.sub_le n 1), ih none h.2 hf⟩
  | look more ih => exact fun found => ih found (h found) hf

theorem lasts_check (x : Except ParseError α) (n : ℕ) : (check x).Lasts n := by
  cases x <;> trivial

theorem lasts_next (n : ℕ) : next.Lasts n := ⟨fun _ => trivial, trivial⟩

theorem lasts_peek (n : ℕ) : peek.Lasts n := fun _ => trivial

/-- **Fuel for every token of the text is enough.**  A reading that is not done takes a token in
each round of a loop. -/
theorem run_ne_exhausted {r : Reading α} {p : Place} {n : ℕ} (h : r.Lasts n)
    (hsize : p.cursor.size < n) :
    r.run p ≠ .error .exhausted := by
  induction r generalizing p n with
  | done result => exact fun h => nomatch h
  | fail e => exact fun h => nomatch h
  | exhausted =>
    obtain rfl : n = 0 := h
    exact absurd hsize (Nat.not_lt_zero _)
  | pull more ih =>
    rw [run_pull]
    cases hnext : p.cursor.next with
    | error e => exact fun h => nomatch h
    | ok result =>
      obtain ⟨found, c⟩ := result
      cases found with
      | some token =>
        have hless := TokenCursor.size_next hnext
        exact ih (some token) (h.1 token) (show c.size < n - 1 by omega)
      | none => exact ih none h.2 (Nat.lt_of_le_of_lt (TokenCursor.size_next_le hnext) hsize)
  | look more ih =>
    rw [run_look]
    cases hpeek : p.cursor.peek with
    | error e => exact fun h => nomatch h
    | ok result =>
      exact ih result.1 (h result.1) (Nat.lt_of_le_of_lt (TokenCursor.size_peek hpeek) hsize)

/-! ## Readings and the parser -/

variable {γ δ : Type}

/-- What a reading has come to is what a part of the parser comes to; `out` is the result of that
part, by the result of the reading and the cursor behind it.  Nothing is said of a reading without
fuel. -/
def Agrees (out : α → TokenCursor → γ) (x : Except Stop (α × Place)) (y : Except ParseError γ) :
    Prop :=
  match x with
  | .ok (a, p) => y = .ok (out a p.cursor)
  | .error (.failed e _) => y = .error e
  | .error .exhausted => True

section

variable {out : α → TokenCursor → γ} {out' : β → TokenCursor → δ} {p : Place}

/-- A reading, and another with its result, against any part of the parser that does the same. -/
theorem agrees_of_bind {r : Reading α} {f : α → Reading β} {y : Except ParseError γ}
    {z : Except ParseError δ}
    (h : Agrees out (r.run p) y) (hfailed : ∀ e, y = .error e → z = .error e)
    (hdone : ∀ a p', y = .ok (out a p'.cursor) → Agrees out' ((f a).run p') z) :
    Agrees out' ((r >>= f).run p) z := by
  show Agrees out' ((r.bind f).run p) z
  rw [run_bind]
  cases hrun : r.run p with
  | ok result =>
    rw [hrun] at h
    exact hdone result.1 result.2 h
  | error stop =>
    rw [hrun] at h
    cases stop with
    | failed e reach => exact hfailed e h
    | exhausted => trivial

theorem agrees_bind {r : Reading α} {f : α → Reading β} {y : Except ParseError γ}
    {g : γ → Except ParseError δ} (h : Agrees out (r.run p) y)
    (hf : ∀ a p', Agrees out' ((f a).run p') (g (out a p'.cursor))) :
    Agrees out' ((r >>= f).run p) (y >>= g) := by
  refine agrees_of_bind h (fun e he => ?_) fun a p' ha => ?_
  · rw [he]
    rfl
  · rw [ha]
    exact hf a p'

theorem agrees_next {f : Option Token → Reading β}
    {g : Option Token × TokenCursor → Except ParseError δ}
    (h : ∀ found p', Agrees out' ((f found).run p') (g (found, p'.cursor))) :
    Agrees out' ((next >>= f).run p) (p.cursor.next >>= g) := by
  show Agrees out' ((pull f).run p) _
  rw [run_pull]
  cases p.cursor.next with
  | error e => rfl
  | ok result => exact h result.1 (.behind result.1 result.2)

theorem agrees_peek {f : Option Token → Reading β}
    {g : Option Token × TokenCursor → Except ParseError δ}
    (h : ∀ found p', Agrees out' ((f found).run p') (g (found, p'.cursor))) :
    Agrees out' ((peek >>= f).run p) (p.cursor.peek >>= g) := by
  show Agrees out' ((look f).run p) _
  rw [run_look]
  cases p.cursor.peek with
  | error e => rfl
  | ok result => exact h result.1 (.behind result.1 result.2)

theorem agrees_check {x : Except ParseError α} {f : α → Reading β} {g : α → Except ParseError δ}
    (h : ∀ a, Agrees out' ((f a).run p) (g a)) : Agrees out' ((check x >>= f).run p) (x >>= g) := by
  cases x with
  | error e => rfl
  | ok a => exact h a

end

end Reading

end Sml
end SecsRust

import SecsRust.Sml.Traced

/-!
# Errors are decided by the text read so far

If a text is refused for what stands in it, the part of it that has been read decides so:
with any other text behind that part, as long as it begins with a space, it is refused with
the same error at the same position (`errors_decided_by_text_read`).  So no check of the
parser waits for a later token: had it read past the place of its check, the part that has
been read would be longer.

The offset up to which a text has been read comes from the traced parser, and that its
failures are decided by the text before it is `Reading.run_cut`.  What is left for this file
is to classify the failures.

Two kinds of errors are not of this sort.  `TrailingInput` quotes what follows.  And where
the parser meets the end of the text, more text can make a difference; such an error names
the end (`RaisedAtEnd`), so that no error about what stands in the text is among them.  That
a failure without an offset is one of these is shown for the scanner and for the parser
separately, in the first two sections.
-/

namespace SecsRust
namespace Sml

open Secs2
open Reading

/-- The errors that the scanner and the parser raise at the end of a text. -/
def RaisedAtEnd : ParseError → Prop
  | .unterminatedString _ => True
  | .invalidCount _ => True
  | .missingTerminator _ => True
  | .unexpectedToken _ _ found => found = "end of input".toList
  | _ => False

/-! ## The scanner at the end -/

namespace Scanner

variable {s : Scanner} {e : ParseError}

theorem scanContent_at_end {openPos : SourcePos} {text : Text} :
    ∀ {s : Scanner}, scanContent openPos s text = .error e → lexemeEnd e = none →
      RaisedAtEnd e := by
  induction text with
  | nil =>
    intro s h hend
    cases h
    trivial
  | cons c text ih =>
    intro s h hend
    unfold scanContent at h
    split_ifs at h
    · cases h
      cases hend
    · cases htail : scanContent openPos (s.bump 1 text) text with
      | error e' =>
        rw [htail] at h
        cases h
        exact ih htail hend
      | ok result => rw [htail] at h; cases h
    · cases h
      cases hend
    · cases h
      cases hend

theorem scanNumber_at_end {startPos : SourcePos} {negative : Bool}
    (h : scanNumber startPos negative s = .error e) : lexemeEnd e ≠ none := by
  unfold scanNumber scanHexTail at h
  dsimp only at h
  split_ifs at h <;> cases h <;> exact Option.some_ne_none _

theorem scanKind_at_end {first : Char} {rest : Text} (h : s.scanKind first rest = .error e)
    (hend : lexemeEnd e = none) : RaisedAtEnd e := by
  unfold scanKind at h
  split at h
  · cases h
    cases hend
  split at h
  · cases h
  split at h
  · unfold scanString at h
    cases hcontent : scanContent s.currentPos (s.bump 1 s.rest.tail) s.rest.tail with
    | error e' =>
      rw [hcontent] at h
      cases h
      exact scanContent_at_end hcontent hend
    | ok result => rw [hcontent] at h; cases h
  split_ifs at h
  · exact absurd hend (scanNumber_at_end h)
  · cases h
    cases hend
  · exact absurd hend (scanNumber_at_end h)
  · cases h
    cases hend
  · cases h
    cases hend

/-- The scanner refuses a text at its end for a string without a closing quote. -/
theorem nextToken_at_end (h : s.nextToken = .error e) (hend : lexemeEnd e = none) :
    RaisedAtEnd e := by
  unfold nextToken at h
  dsimp only at h
  split at h
  · cases h
  · rename_i first rest hcons
    cases hkind : s.skipWhitespace.scanKind first rest with
    | error e' =>
      rw [hkind] at h
      cases h
      exact scanKind_at_end hkind hend
    | ok result => rw [hkind] at h; cases h

end Scanner

/-! ## The parser at the end -/

namespace Traced

section

variable {α : Type} {P : α → Prop} {limits : DecodeLimits} {typePos : SourcePos}
  {declared : Option ℕ}

theorem endsIn_unexpected (expected : String) :
    (unexpected (α := α) expected none).EndsIn RaisedAtEnd P := fun _ => rfl

theorem endsIn_tokenLoop {τ : Type} {expected : String} {step : τ → Token → Reading (Turn τ α)}
    (fuel : ℕ) (t : τ) : (tokenLoop expected step fuel t).EndsIn RaisedAtEnd P := by
  cases fuel with
  | zero => trivial
  | succ fuel => exact fun _ => rfl

theorem closesIn_tokenLoop {τ : Type} {expected : String} {step : τ → Token → Reading (Turn τ α)}
    (hstep : ∀ t token Q, (step t token).ClosesIn RaisedAtEnd Q false) (fuel : ℕ) :
    ∀ t, (tokenLoop expected step fuel t).ClosesIn RaisedAtEnd P false := by
  induction fuel with
  | zero => exact fun t => trivial
  | succ fuel ih =>
    intro t
    refine ClosesIn.bind (closesIn_next (fun token => hstep t token _) fun _ =>
      endsIn_unexpected expected)
      fun outcome => ?_
    cases outcome with
    | next t => exact ih t
    | done result => trivial

theorem closesIn_bodyStep {expected : String} {width : ℕ}
    {element : Token → Option (Except ParseError α)}
    (s : List α × ℕ) (token : Token) (Q : Turn (List α × ℕ) (List α) → Prop) :
    (bodyStep limits typePos declared expected width element s token).ClosesIn RaisedAtEnd Q
      false := by
  unfold bodyStep
  split
  · exact ClosesIn.bind (closesIn_check _ _) fun _ => trivial
  · cases element token with
    | some converted =>
      exact ClosesIn.bind (closesIn_check _ _) fun _ => ClosesIn.bind (closesIn_check _ _) fun _ =>
        trivial
    | none => trivial

theorem closesIn_asciiStep (s : List UInt8 × ℕ) (token : Token)
    (Q : Turn (List UInt8 × ℕ) (List UInt8) → Prop) :
    (asciiStep limits typePos declared s token).ClosesIn RaisedAtEnd Q false := by
  unfold asciiStep
  split
  · exact ClosesIn.bind (closesIn_check _ _) fun _ => trivial
  · exact ClosesIn.bind (closesIn_check _ _) fun _ => trivial
  · exact ClosesIn.bind (closesIn_check _ _) fun _ => ClosesIn.bind (closesIn_check _ _) fun _ =>
      trivial
  · trivial

theorem closesIn_parseBody {expected : String} {width : ℕ}
    {element : Token → Option (Except ParseError α)}
    {P : List α → Prop} (fuel : ℕ) :
    (parseBody limits typePos declared fuel expected width element).ClosesIn RaisedAtEnd P false :=
  ClosesIn.bind (closesIn_check _ _) fun _ => closesIn_tokenLoop closesIn_bodyStep fuel _

theorem closesIn_parseAsciiBody {P : AsciiString → Prop} (fuel : ℕ) :
    (parseAsciiBody limits typePos declared fuel).ClosesIn RaisedAtEnd P false := by
  refine ClosesIn.bind (closesIn_check _ _) fun _ => ?_
  refine ClosesIn.bind ?_ fun _ => closesIn_check _ _
  exact closesIn_tokenLoop closesIn_asciiStep fuel _

/-- At the end there is no declared count. -/
theorem closesIn_parseDeclaredCount :
    parseDeclaredCount.ClosesIn RaisedAtEnd (fun declared => declared = none) false := by
  refine closesIn_peek (fun token => ?_) fun _ => rfl
  split
  · refine closesIn_next (fun _ => ?_) fun h => nomatch h
    refine closesIn_next (fun token => ?_) fun _ _ => trivial
    split
    · refine ClosesIn.bind (closesIn_check _ _) fun _ => ?_
      refine closesIn_next (fun token => ?_) fun _ => endsIn_unexpected _
      split <;> trivial
    · trivial
  · trivial

/-- At the end an item has been opened, without a declared count. -/
def OpenedAtEnd (item : Started OpenedList SecsItem) :
    Prop := ∃ typePos, item = .opened ⟨none, typePos⟩

theorem closesIn_startBody {P : Started OpenedList SecsItem → Prop} (fuel : ℕ) (kind : ItemKind) :
    (startBody limits fuel typePos declared kind).ClosesIn RaisedAtEnd P false := by
  cases kind with
  | list => exact ClosesIn.bind (closesIn_check _ _) fun _ => trivial
  | ascii => exact ClosesIn.bind (closesIn_parseAsciiBody fuel) fun _ => trivial
  | _ => exact ClosesIn.bind (closesIn_parseBody fuel) fun _ => trivial

theorem endsIn_startBody (fuel : ℕ) (kind : ItemKind) :
    (startBody limits fuel typePos none kind).EndsIn RaisedAtEnd OpenedAtEnd := by
  cases kind with
  | list =>
    refine EndsIn.bind ?_
    rw [ensure_of (fun _ h => nomatch h)]
    exact ⟨typePos, rfl⟩
  | ascii => exact EndsIn.bind (EndsIn.bind (EndsIn.bind (endsIn_tokenLoop fuel _)))
  | _ => exact EndsIn.bind (EndsIn.bind (endsIn_tokenLoop fuel _))

theorem closesIn_parseOneItem (fuel : ℕ) (stack : ListStack) (nodeCount : ℕ) :
    (parseOneItem limits fuel stack nodeCount).ClosesIn RaisedAtEnd OpenedAtEnd false := by
  refine closesIn_next (fun token => ?_) fun _ => endsIn_unexpected _
  split
  · refine ClosesIn.bind (closesIn_check _ _) fun _ => ?_
    refine closesIn_next (fun token => ?_) fun _ => endsIn_unexpected _
    split
    · refine ClosesIn.bind (closesIn_check _ _) fun kind =>
        ClosesIn.bind (closesIn_check _ _) fun _ => ?_
      refine ClosesIn.bind (closesIn_parseDeclaredCount.mono ?_) fun declared =>
        closesIn_startBody fuel kind
      rintro declared rfl
      exact endsIn_startBody fuel kind
    · trivial
  · trivial

theorem closesIn_nextChild {P : Bool → Prop} (frame : Frame OpenedList SecsItem) :
    (nextChild limits frame).ClosesIn RaisedAtEnd P false := by
  refine ClosesIn.bind (closesIn_check _ _) fun _ => ?_
  refine closesIn_peek (fun token => ?_) fun _ => endsIn_unexpected _
  split
  · refine ClosesIn.buffered (ClosesIn.bind (closesIn_check _ _) fun _ => ?_) true
    trivial
  · refine closesIn_next (fun _ => ?_) fun h => nomatch h
    exact ClosesIn.bind (closesIn_check _ _) fun _ => trivial
  · trivial

theorem closesIn_settle {P : SecsItem ⊕ ListStack → Prop} : ∀ (stack : ListStack)
    (frame : Frame OpenedList SecsItem),
    (settle limits frame stack).ClosesIn RaisedAtEnd P false := by
  intro stack
  induction stack with
  | nil =>
    refine fun frame => ClosesIn.bind (closesIn_nextChild frame) fun more => ?_
    cases more <;> trivial
  | cons parent stack ih =>
    refine fun frame => ClosesIn.bind (closesIn_nextChild frame) fun more => ?_
    cases more with
    | true => trivial
    | false => exact ih _

theorem closesIn_attach {P : SecsItem ⊕ ListStack → Prop} (item : Started OpenedList SecsItem)
    (stack : ListStack) : (attach limits item stack).ClosesIn RaisedAtEnd P false := by
  cases item with
  | leaf item =>
    cases stack with
    | nil => trivial
    | cons frame stack => exact closesIn_settle stack _
  | opened header => exact closesIn_settle stack _

/-- A List that has just been opened waits for a child or its end. -/
theorem endsIn_attach {P : SecsItem ⊕ ListStack → Prop} {item : Started OpenedList SecsItem}
    (hitem : OpenedAtEnd item) (stack : ListStack) :
    (attach limits item stack).EndsIn RaisedAtEnd P := by
  obtain ⟨typePos, rfl⟩ := hitem
  have hchild : ∀ Q : Bool →
      Prop, (nextChild limits ⟨⟨none, typePos⟩, []⟩).EndsIn RaisedAtEnd Q := by
    intro Q
    have hattached : ItemCursor.checkAttached limits ⟨⟨none, typePos⟩, []⟩ = .ok () :=
      ensure_of fun _ => Nat.zero_le _
    refine EndsIn.bind ?_
    rw [hattached]
    exact fun _ => rfl
  cases stack with
  | nil => exact EndsIn.bind (hchild _)
  | cons parent stack => exact EndsIn.bind (hchild _)

theorem closesIn_itemLoop {P : SecsItem → Prop} {bodyFuel : ℕ} (fuel : ℕ) :
    ∀ (stack : ListStack) (nodeCount : ℕ),
      (itemLoop limits bodyFuel fuel stack nodeCount).ClosesIn RaisedAtEnd P false := by
  induction fuel with
  | zero => exact fun stack nodeCount => trivial
  | succ fuel ih =>
    intro stack nodeCount
    refine ClosesIn.bind ((closesIn_parseOneItem bodyFuel stack nodeCount).mono fun item hitem =>
      ?_)
      fun item => ClosesIn.bind (closesIn_attach item stack) fun outcome => ?_
    · exact EndsIn.bind (endsIn_attach hitem stack)
    · cases outcome with
      | inl item => trivial
      | inr stack => exact ih stack _

theorem closesIn_parseRootItem {P : SecsItem → Prop} (fuel : ℕ) :
    (parseRootItem limits fuel).ClosesIn RaisedAtEnd P false := closesIn_itemLoop fuel [] 0

theorem closesIn_finish (input : Text) : (finish input).ClosesIn RaisedAtEnd
    (fun _ => True) false := by
  refine closesIn_peek (fun token => ?_) fun _ => trivial
  trivial

theorem closesIn_parseItem (fuel : ℕ) (input : Text) :
    (parseItem limits fuel input).ClosesIn RaisedAtEnd (fun _ => True) false := by
  refine ClosesIn.bind (closesIn_parseRootItem fuel) fun item => ?_
  exact ClosesIn.bind (closesIn_finish input) fun _ => trivial

theorem closesIn_parseWaitBit :
    parseWaitBit.ClosesIn RaisedAtEnd (fun _ => True) false := by
  refine closesIn_peek (fun token => ?_) fun _ => ?_
  · split
    · exact closesIn_next (fun _ => trivial) fun h => nomatch h
    · trivial
  · exact trivial

theorem closesIn_parseMessageBody (fuel : ℕ) :
    (parseMessageBody limits fuel).ClosesIn RaisedAtEnd (fun _ => True) false := by
  refine closesIn_peek (fun token => ?_) fun _ => trivial
  split
  · refine ClosesIn.buffered (ClosesIn.bind (closesIn_parseRootItem fuel) fun item => ?_) true
    trivial
  · trivial

theorem closesIn_parseTerminator (hasBody : Bool) :
    (parseTerminator hasBody).ClosesIn RaisedAtEnd (fun _ => False) false := by
  refine closesIn_next (fun token => ?_) fun _ _ => trivial
  split <;> trivial

/-- The parts of a message whose stream is in range are a message. -/
theorem message_of_le {stream function : ℕ} {headerPos : SourcePos} {waitBit : Bool}
    {body : Option SecsItem}
    (h : stream ≤ 127) : ∃ parts, message stream function headerPos waitBit body = .ok parts := by
  have hraw : UInt8.ofNat stream ≤ 127 := by
    rw [UInt8.le_iff_toNat_le, UInt8.toNat_ofNat_of_lt' (Nat.lt_of_le_of_lt h (by decide))]
    exact h
  exact ⟨_, dif_pos hraw⟩

theorem closesIn_ensure {β : Type} {Q : β → Prop} {c : Prop} [Decidable c] {e : ParseError}
    {f : Unit → Reading β} (h : c → (f ()).ClosesIn RaisedAtEnd Q false) :
    (check (ensure c e) >>= f).ClosesIn RaisedAtEnd Q false := by
  by_cases hc : c
  · rw [ensure_of hc]
    exact h hc
  · rw [ensure, if_neg hc]
    trivial

theorem closesIn_parseMessage (fuel : ℕ) (input : Text) :
    (parseMessage limits fuel input).ClosesIn RaisedAtEnd (fun _ => True) false := by
  refine closesIn_next (fun token => ?_) fun _ => endsIn_unexpected _
  split
  · split
    · trivial
    · rename_i stream function _
      refine closesIn_ensure fun hstream => ClosesIn.bind (closesIn_check _ _) fun _ => ?_
      refine ClosesIn.bind (closesIn_parseWaitBit.mono fun waitBit _ => ?_) fun waitBit => ?_
      · refine EndsIn.bind (EndsIn.bind ?_)
        exact fun _ => trivial
      refine ClosesIn.bind ((closesIn_parseMessageBody fuel).mono fun body _ => ?_) fun body => ?_
      · refine EndsIn.bind ?_
        exact fun _ => trivial
      refine ClosesIn.bind ((closesIn_parseTerminator body.isSome).mono fun _ h => h.elim) fun _ =>
        ?_
      refine ClosesIn.bind ((closesIn_finish input).mono fun _ _ => ?_) fun _ => closesIn_check _ _
      obtain ⟨parts, hparts⟩ := message_of_le hstream
      rw [hparts]
      trivial
  · trivial

end

/-! ## What follows the text -/

/-- The readings fail alike, except for what follows the text.  What follows the text is quoted
in the error, so it depends on characters that have not been read. -/
def Alike {α : Type} (r r' : Reading α) : Prop :=
  ∀ p e reach, r.run p = .error (.failed e reach) →
    (∀ pos preview, e ≠ .trailingInput pos preview) →
    r'.run p = .error (.failed e reach)

section

variable {α β : Type} {limits : DecodeLimits} {fuel : ℕ} {input input' : Text}

theorem Alike.refl (r : Reading α) : Alike r r := fun _ _ _ h _ => h

theorem Alike.bind {r : Reading α} {f f' : α → Reading β} (h : ∀ a, Alike (f a) (f' a)) :
    Alike (r >>= f) (r >>= f') := by
  intro p e reach hrun he
  replace hrun : (r.bind f).run p = .error (.failed e reach) := hrun
  show (r.bind f').run p = .error (.failed e reach)
  rw [run_bind] at hrun ⊢
  cases hr : r.run p with
  | error stop =>
    rw [hr] at hrun
    exact hrun
  | ok result =>
    rw [hr] at hrun
    exact h result.1 result.2 e reach hrun he

theorem alike_finish {f : Unit → Reading α} : Alike (finish input >>= f) (finish input' >>= f) := by
  refine Alike.bind (r := peek) fun found => ?_
  cases found with
  | none => exact Alike.refl _
  | some token =>
    intro p e reach hrun he
    replace hrun := Except.error.inj hrun
    injection hrun with he' _
    exact absurd he'.symm (he _ _)

theorem alike_parseItem : Alike (parseItem limits fuel input) (parseItem limits fuel input') :=
  Alike.bind fun _ => alike_finish

theorem alike_parseMessage : Alike (parseMessage limits fuel input)
    (parseMessage limits fuel input') := by
  refine Alike.bind fun found => ?_
  split
  · split
    · exact Alike.refl _
    · refine Alike.bind fun _ => Alike.bind fun _ => Alike.bind fun _ => Alike.bind fun _ => ?_
      exact Alike.bind fun _ => alike_finish
  · exact Alike.refl _

end

end Traced

/-! ## The errors of a text -/

/-- What an error says about other texts, by the offset behind the last token that has been read: if
the end of the text has been met, the error is one of those for it.  Otherwise any text with the
same beginning up to that offset, and a space behind it, has this error. -/
def DecidedBy {α : Type} (parse : Text → Except ParseError α) (input : Text) (e : ParseError) :
    Option ℕ → Prop
  | none => RaisedAtEnd e
  | some k => ∃ head, takeBytes input k = some head ∧ ∀ added, parse
      (head ++ ' ' :: added) = .error e

/-- A parser that is a reading, for any fuel; it quotes the text only where it complains about what
follows. -/
structure ReadBy {α : Type} (parse : Text → Except ParseError α) (r : ℕ → Text → Reading α) :
    Prop where
  agrees : ∀ fuel input, Agrees (fun result _ => result) ((r fuel input).run (.first input))
    (parse input)
  lasts : ∀ fuel input, (r fuel input).Lasts fuel
  alike : ∀ fuel input input', Traced.Alike (r fuel input) (r fuel input')
  closes : ∀ fuel input, (r fuel input).ClosesIn RaisedAtEnd (fun _ => True) false

theorem readBy_parseItem (limits : DecodeLimits) :
    ReadBy (parseItem limits) (Traced.parseItem limits) where
  agrees := Traced.agrees_parseItem
  lasts := Traced.lasts_parseItem
  alike _ _ _ := Traced.alike_parseItem
  closes := Traced.closesIn_parseItem

theorem readBy_parseMessage (limits : DecodeLimits) :
    ReadBy (parseMessage limits) (Traced.parseMessage limits) where
  agrees := Traced.agrees_parseMessage
  lasts := Traced.lasts_parseMessage
  alike _ _ _ := Traced.alike_parseMessage
  closes := Traced.closesIn_parseMessage

namespace ReadBy

variable {α : Type} {parse : Text → Except ParseError α} {r : ℕ → Text → Reading α} {input : Text}
  {e : ParseError}

/-- With an error the reading tells how far it has read. -/
theorem failed (h : ReadBy parse r) (hparse : parse input = .error e) :
    ∃ reach, (r (input.length + 1) input).run (.first input) = .error (.failed e reach) := by
  have hagrees := h.agrees (input.length + 1) input
  have hfuel := run_ne_exhausted (p := .first input) (h.lasts (input.length + 1) input)
      (Nat.lt_succ_self _)
  cases hrun : (r (input.length + 1) input).run (.first input) with
  | ok result =>
    rw [hrun] at hagrees
    exact absurd (hagrees.symm.trans hparse) (fun h => nomatch h)
  | error stop =>
    rw [hrun] at hagrees
    cases stop with
    | failed e' reach =>
      obtain rfl : e' = e := Except.error.inj (hagrees.symm.trans hparse)
      exact ⟨reach, rfl⟩
    | exhausted => exact absurd hrun hfuel

/-- **A failure of the reading decides the error** of the parser.  The two cases are whether the
end of the text has been met or not. -/
theorem decidedBy (h : ReadBy parse r) {fuel : ℕ} {reach : Option ℕ}
    (hother : ∀ pos preview, e ≠ .trailingInput pos preview)
    (hrun : (r fuel input).run (.first input) = .error (.failed e reach)) :
    DecidedBy parse input e reach := by
  cases reach with
  | none =>
    exact (h.closes fuel input).failed (fun _ _ => Scanner.nextToken_at_end) (Option.some_ne_none 0)
      (fun h => nomatch h) hrun
  | some k =>
    obtain ⟨head, hhead, hcut⟩ := run_cut hrun
    refine ⟨head, hhead, fun added => ?_⟩
    obtain ⟨reach, hfails⟩ := hcut added
    have hagrees := h.agrees fuel (head ++ ' ' :: added)
    rw [h.alike fuel input _ _ e reach hfails hother] at hagrees
    exact hagrees

end ReadBy

/-- **Errors are decided by the text read so far.**  Whenever a text is refused as an item or as a
message, and not for what follows it, the traced parser refuses it with the same error and tells up
to which offset it has read, which is behind the last token that it has consumed or looked at, or
behind the character or literal that the scanner refuses.  Either it has met the end of the text,
and the error says so.  Or every text that is the same up to this offset and goes on with a space is
refused with the same error. -/
theorem errors_decided_by_text_read (limits : DecodeLimits) (input : Text) (e : ParseError)
    (hother : ∀ pos preview, e ≠ .trailingInput pos preview) :
    (parseItem limits input = .error e → ∃ reach,
      tracedItem limits input = .error (.failed e reach) ∧
        DecidedBy (parseItem limits) input e reach) ∧
    (parseMessage limits input = .error e → ∃ reach,
      tracedMessage limits input = .error (.failed e reach) ∧
        DecidedBy (parseMessage limits) input e reach) := by
  constructor
  · intro hparse
    obtain ⟨reach, hrun⟩ := (readBy_parseItem limits).failed hparse
    exact ⟨reach, hrun, (readBy_parseItem limits).decidedBy hother hrun⟩
  · intro hparse
    obtain ⟨reach, hrun⟩ := (readBy_parseMessage limits).failed hparse
    exact ⟨reach, hrun, (readBy_parseMessage limits).decidedBy hother hrun⟩

/-- A count that the second character exceeds: the string has been read, and nothing behind it. -/
theorem count_mismatch_decided :
    ∃ reach, tracedItem DecodeLimits.default "<A[1] \"xy\"]".toList =
        .error (.failed (.countMismatch ⟨1, 1, 2⟩ 1 2) reach) ∧
      DecidedBy (parseItem DecodeLimits.default) "<A[1] \"xy\"]".toList
        (.countMismatch ⟨1, 1, 2⟩ 1 2) reach :=
  (errors_decided_by_text_read DecodeLimits.default "<A[1] \"xy\"]".toList
    (.countMismatch ⟨1, 1, 2⟩ 1 2)
    fun _ _ h => nomatch h).1 rfl

end Sml
end SecsRust

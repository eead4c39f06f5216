import SecsRust.Sml.Accept

/-!
# Whole texts

The entry points of the parser: a header word has the value its digits say unless a value
overflows, which is out of range anyway; the item takes what it stands for; and behind the
item, or behind the period of a message, the scanner has to find the end of the text.

The parser scans on demand, so it may have accepted an item before it has seen the rest of
the text, and the grammar is about all the tokens of a text.  `scan_iff` is the bridge: a
text is its tokens when the cursor passes them and is at the end behind them.  A refusal of
the scanner behind the item is then a refusal of the text.

`parser_accepts_grammar` states the result for both entry points, as an equivalence: a text
is accepted with this value exactly when its tokens stand for the value in the grammar and
the tree is within the limits.
-/

namespace SecsRust
namespace Sml

open Secs2

/-! ## Headers -/

theorem le_ofDigitChars (digits : Text) (value : ℕ) : value ≤ Nat.ofDigitChars 10 digits value := by
  induction digits generalizing value with
  | nil => rw [Nat.ofDigitChars_nil]
  | cons c digits ih =>
    rw [Nat.ofDigitChars_cons]
    exact Nat.le_trans (by omega) (ih _)

/-- The checked fold over a run of digits. -/
theorem foldlM_digits (digits : Text) (value : ℕ) (hvalue : value ≤ usizeMax) :
    digits.foldlM (fun value digit =>
        (checkedMul value 10).bind fun value => checkedAdd value (digit.toNat - '0'.toNat)) value =
      if Nat.ofDigitChars 10 digits value ≤ usizeMax then some (Nat.ofDigitChars 10 digits value)
      else none := by
  induction digits generalizing value with
  | nil => rw [Nat.ofDigitChars_nil, if_pos hvalue, List.foldlM_nil]; rfl
  | cons c digits ih =>
    have hmono := le_ofDigitChars digits (10 * value + (c.toNat - '0'.toNat))
    rw [Nat.ofDigitChars_cons, List.foldlM_cons]
    by_cases hstep : 10 * value + (c.toNat - '0'.toNat) ≤ usizeMax
    · have hmul : checkedMul value 10 = some (10 * value) := by
        rw [checkedMul, if_pos (by omega), Nat.mul_comm]
      rw [hmul, Option.bind_some, checkedAdd_of_le hstep]
      exact ih _ hstep
    · have hover : (checkedMul value 10).bind
          (fun value => checkedAdd value (c.toNat - '0'.toNat)) = none := by
        rw [checkedMul, Nat.mul_comm]
        split
        · exact checkedAdd_eq_none.mpr (Nat.lt_of_not_le hstep)
        · rfl
      rw [hover, if_neg (by omega)]
      rfl

/-- **The value of a run of digits**, saturated.  No stream and no function comes near the value
at which it saturates. -/
theorem digitsValue_eq (digits : Text) :
    digitsValue digits = min (Nat.ofDigitChars 10 digits 0) usizeMax := by
  rw [digitsValue, foldlM_digits digits 0 (Nat.zero_le _)]
  split
  · rename_i hle
    exact (min_eq_left hle).symm
  · rename_i hlt
    exact (min_eq_right (Nat.le_of_not_le hlt)).symm

/-- A value in range is the value itself. -/
theorem digitsValue_eq_iff {digits : Text} {value : ℕ} (h : value ≤ 255) :
    digitsValue digits = value ↔ Nat.ofDigitChars 10 digits 0 = value := by
  have hmax : 255 < usizeMax := by decide
  rw [digitsValue_eq]
  omega

theorem digitRun_eq_some {text after : Text} {value : ℕ} (h : digitRun text = some (value, after)) :
    ∃ digits, text = digits ++ after ∧ digits ≠ [] ∧ (∀ c ∈ digits, c.isDigit = true) ∧
      value = digitsValue digits := by
  unfold digitRun at h
  dsimp only at h
  split at h
  · cases h
  · rename_i hne
    cases h
    exact ⟨_, (List.takeWhile_append_dropWhile).symm, hne, fun c hc =>
      List.all_eq_true.mp List.all_takeWhile c hc, rfl⟩

theorem digitRun_append {digits after : Text} (hne : digits ≠ [])
    (hdigits : ∀ c ∈ digits, c.isDigit = true) (hafter : after.takeWhile Char.isDigit = []) :
    digitRun (digits ++ after) = some (digitsValue digits, after) := by
  have hrun : (digits ++ after).takeWhile Char.isDigit = digits := by
    rw [List.takeWhile_append_of_pos hdigits, hafter, List.append_nil]
  have hrest : (digits ++ after).dropWhile Char.isDigit = after := by
    have hsplit := List.takeWhile_append_dropWhile (p := Char.isDigit) (l := digits ++ after)
    rw [hrun] at hsplit
    exact List.append_cancel_left hsplit
  unfold digitRun
  rw [hrun, if_neg hne, hrest]

/-- **The header word**, for values in range. -/
theorem parseHeaderWord_iff {word : Text} {stream : Stream} {function : Function} :
    parseHeaderWord word = some (stream.raw.toNat, function.raw.toNat) ↔
      HeaderWord word stream function := by
  have hstream : stream.raw.toNat ≤ 255 := by have := stream.raw.toNat_lt; omega
  have hfunction : function.raw.toNat ≤ 255 := by have := function.raw.toNat_lt; omega
  constructor
  · intro h
    unfold parseHeaderWord at h
    split at h
    · rename_i text
      obtain ⟨⟨value, after⟩, hrun, h⟩ := Option.bind_eq_some_iff.mp h
      dsimp only at h
      split at h
      · rename_i text'
        obtain ⟨⟨value', after'⟩, hrun', h⟩ := Option.bind_eq_some_iff.mp h
        dsimp only at h
        split at h
        · rename_i hend
          cases h
          obtain ⟨digits, htext, hne, hdigits, hvalue⟩ := digitRun_eq_some hrun
          obtain ⟨digits', htext', hne', hdigits', hvalue'⟩ := digitRun_eq_some hrun'
          rw [hend, List.append_nil] at htext'
          rw [htext'] at htext
          exact ⟨digits, digits', congrArg _ htext,
            ⟨hne, hdigits, (digitsValue_eq_iff hstream).mp hvalue.symm⟩,
            ⟨hne', hdigits', (digitsValue_eq_iff hfunction).mp hvalue'.symm⟩⟩
        · cases h
      · cases h
    · cases h
  · rintro ⟨digits, digits', rfl, ⟨hne, hdigits, hvalue⟩, ⟨hne', hdigits', hvalue'⟩⟩
    have hrun : digitRun (digits ++ 'F' :: digits') = some (digitsValue digits, 'F' :: digits') :=
      digitRun_append hne hdigits rfl
    have hrun' : digitRun digits' = some (digitsValue digits', []) := by
      have happend := digitRun_append hne' hdigits' (List.takeWhile_nil (p := Char.isDigit))
      rwa [List.append_nil] at happend
    rw [parseHeaderWord, hrun, Option.bind_eq_bind, Option.bind_some]
    show (digitRun digits').bind _ = _
    rw [hrun', (digitsValue_eq_iff hstream).mpr hvalue, (digitsValue_eq_iff hfunction).mpr hvalue']
    rfl

/-! ## The root item -/

section

variable {c : TokenCursor} {limits : DecodeLimits} {item : SecsItem}

/-- **The root item**: all limits are still free. -/
theorem sound_parseRootItem {s' : ItemCursor} (hsize : c.kinds.length ≤ usizeMax)
    (h : (ItemCursor.new c limits).parseRootItem = .ok (item, s')) :
    ∃ ks, ItemTokens ks item ∧ item.Within limits ∧ c.Passes ks s'.tokens := by
  obtain ⟨ks, htokens, hroom, hreaches⟩ := ItemCursor.tokens_of_reads
    (ItemCursor.parseRootItem_eq_ok.mp h) (Nat.zero_le _)
    ((Nat.zero_add _).trans_le hsize)
  exact ⟨ks, htokens, SecsItem.room_start.mp hroom, hreaches.tokens⟩

theorem complete_parseRootItem {ks rest : List TokenKind} (htokens : ItemTokens ks item)
    (hwithin : item.Within limits) (hkinds : c.kinds = ks ++ rest) :
    ∃ s', (ItemCursor.new c limits).parseRootItem = .ok (item, s') ∧ c.Passes ks s'.tokens := by
  obtain ⟨s', hreads, hreaches⟩ :=
    ItemCursor.reads_of_tokens htokens [] (s := ItemCursor.new c limits)
    hkinds (SecsItem.room_start.mpr hwithin)
  exact ⟨s', ItemCursor.parseRootItem_eq_ok.mpr hreads, hreaches.tokens⟩

end

/-! ## The start and the end of a text -/

/-- The cursor at the start of a text. -/
def start (input : Text) : TokenCursor := TokenCursor.new (Scanner.new input)

/-- **A text is its tokens** when the cursor passes them and is at the end.  It connects what the
scanner says of a text with what a cursor says while it goes over it. -/
theorem scan_iff {input : Text} {ks : List TokenKind} :
    (∃ tokens, scan input = .ok tokens ∧ tokens.map Token.kind = ks) ↔
      (start input).kinds = ks ∧ (start input).ending = none := by
  constructor
  · rintro ⟨tokens, hscan, rfl⟩
    have hremaining : (start input).pending = (tokens, none) := scan_eq_ok.mp hscan
    rw [TokenCursor.kinds, TokenCursor.ending, hremaining]
    exact ⟨rfl, rfl⟩
  · rintro ⟨hkinds, hending⟩
    exact ⟨(start input).pending.1, scan_eq_ok.mpr (Prod.ext rfl hending), hkinds⟩

theorem length_kinds_start (input : Str) : (start input.text).kinds.length ≤ usizeMax := by
  have hlength := (Scanner.new input.text).length_remaining
  have haddressable : input.text.length ≤ usizeMax := input.addressable.trans (by decide)
  rw [TokenCursor.kinds, List.length_map]
  exact hlength.trans haddressable

/-- Behind everything that has been passed the text ends. -/
theorem scan_of_passes {input : Text} {ks : List TokenKind} {c c' : TokenCursor}
    (h : (start input).Passes ks c) (hpeek : c.peek = .ok (none, c')) :
    ∃ tokens, scan input = .ok tokens ∧ tokens.map Token.kind = ks := by
  obtain ⟨hkinds, hending⟩ := TokenCursor.end_of_peek hpeek
  refine scan_iff.mpr ⟨?_, h.ending.symm.trans hending⟩
  rw [h.kinds, hkinds, List.append_nil]

/-- Behind the last token the text ends. -/
theorem peek_behind {input : Text} {ks : List TokenKind} {c : TokenCursor} {tokens : List Token}
    (hscan : scan input = .ok tokens) (htokens : tokens.map Token.kind = ks)
    (h : (start input).Passes ks c) : ∃ c', c.peek = .ok (none, c') := by
  obtain ⟨hkinds, hending⟩ := scan_iff.mp ⟨tokens, hscan, htokens⟩
  refine TokenCursor.peek_at_end (h.kinds_eq ?_) (h.ending.trans hending)
  rw [hkinds, List.append_nil]

/-! ## The parts of a message -/

section

variable {c c' : TokenCursor} {limits : DecodeLimits} {waitBit : Bool} {body : Option SecsItem}
  {ks rest : List TokenKind}

theorem sound_parseWaitBit (h : parseWaitBit c = .ok (waitBit, c')) :
    c.Passes (waitBitTokens waitBit) c' := by
  obtain ⟨⟨found, c₁⟩, hpeek, h⟩ := bind_eq_ok.mp h
  have h₁ := TokenCursor.passes_peek hpeek
  dsimp only at h
  split at h
  · rename_i hfound
    obtain ⟨token, rfl, hkind⟩ := Option.map_eq_some_iff.mp hfound
    obtain ⟨rest, hkinds⟩ := TokenCursor.kinds_peek hpeek
    rw [hkind] at hkinds
    obtain ⟨token', c₂, hnext, -, h₂, -⟩ := TokenCursor.next_of_kinds (h₁.kinds.symm.trans hkinds)
    obtain ⟨⟨found, c₂'⟩, hnext', h⟩ := bind_eq_ok.mp h
    rw [hnext] at hnext'
    cases hnext'
    cases h
    exact h₁.trans h₂
  · cases h
    exact h₁

theorem complete_parseWaitBit (hkinds : c.kinds = waitBitTokens waitBit ++ rest)
    (hrest : rest.head? ≠ some (.word "W".toList)) (hnonempty : rest ≠ []) :
    ∃ c', parseWaitBit c = .ok (waitBit, c') ∧ c.Passes (waitBitTokens waitBit) c' := by
  cases waitBit with
  | true =>
    obtain ⟨token, c₁, hpeek, hkind, h₁⟩ := TokenCursor.peek_of_kinds hkinds
    obtain ⟨token', c₂, hnext, -, h₂, -⟩ := TokenCursor.next_of_kinds (h₁.kinds.symm.trans hkinds)
    refine ⟨c₂, ?_, h₁.trans h₂⟩
    unfold parseWaitBit
    rw [bind_ok hpeek]
    dsimp only
    rw [Option.map_some, hkind, if_pos rfl, bind_ok hnext]
    rfl
  | false =>
    obtain ⟨k, rest, rfl⟩ := List.exists_cons_of_ne_nil hnonempty
    obtain ⟨token, c₁, hpeek, hkind, h₁⟩ := TokenCursor.peek_of_kinds hkinds
    refine ⟨c₁, ?_, h₁⟩
    unfold parseWaitBit
    rw [bind_ok hpeek]
    dsimp only
    rw [Option.map_some, hkind, if_neg (c := some k = _) hrest]
    rfl

theorem sound_parseMessageBody (hsize : c.kinds.length ≤ usizeMax)
    (h : parseMessageBody limits c = .ok (body, c')) :
    ∃ ks, BodyTokens ks body ∧ (∀ item ∈ body, item.Within limits) ∧ c.Passes ks c' := by
  obtain ⟨⟨found, c₁⟩, hpeek, h⟩ := bind_eq_ok.mp h
  have h₁ := TokenCursor.passes_peek hpeek
  dsimp only at h
  split at h
  · obtain ⟨⟨item, items⟩, hitem, h⟩ := bind_eq_ok.mp h
    cases h
    rw [h₁.kinds] at hsize
    obtain ⟨ks, htokens, hwithin, hpasses⟩ := sound_parseRootItem hsize hitem
    exact ⟨ks, .item htokens, fun _ hbody => Option.mem_some.mp hbody ▸ hwithin,
      h₁.trans hpasses⟩
  · cases h
    exact ⟨[], .absent, (fun _ hbody => nomatch hbody), h₁⟩

theorem complete_parseMessageBody (htokens : BodyTokens ks body)
    (hwithin : ∀ item ∈ body, item.Within limits) (hkinds : c.kinds = ks ++ .dot :: rest) :
    ∃ c', parseMessageBody limits c = .ok (body, c') ∧ c.Passes ks c' := by
  cases htokens with
  | absent =>
    obtain ⟨⟨_, pos⟩, c₁, hpeek, rfl, h₁⟩ := TokenCursor.peek_of_kinds hkinds
    refine ⟨c₁, ?_, h₁⟩
    unfold parseMessageBody
    rw [bind_ok hpeek]
    rfl
  | @item _ item tokens =>
    obtain ⟨behind, hbehind⟩ := tokens.head
    have hfirst : c.kinds = .lt :: (behind ++ .dot :: rest) := by rw [hkinds, hbehind]; rfl
    obtain ⟨⟨_, pos⟩, c₁, hpeek, rfl, h₁⟩ := TokenCursor.peek_of_kinds hfirst
    obtain ⟨s', hitem, hpasses⟩ := complete_parseRootItem tokens (hwithin item rfl)
      (h₁.kinds.symm.trans hkinds)
    refine ⟨s'.tokens, ?_, h₁.trans hpasses⟩
    unfold parseMessageBody
    rw [bind_ok hpeek]
    dsimp only
    rw [bind_ok hitem]
    rfl

theorem sound_parseTerminator {hasBody : Bool} (h : parseTerminator hasBody c = .ok c') :
    c.Passes [.dot] c' := by
  obtain ⟨⟨found, c₁⟩, hnext, h⟩ := bind_eq_ok.mp h
  dsimp only at h
  split at h
  · cases h
    exact TokenCursor.passes_next hnext
  · cases h
  · cases h

theorem complete_parseTerminator (hasBody : Bool) (hkinds : c.kinds = .dot :: rest) :
    ∃ c', parseTerminator hasBody c = .ok c' ∧ c.Passes [.dot] c' := by
  obtain ⟨⟨_, pos⟩, c₁, hnext, rfl, h₁, -⟩ := TokenCursor.next_of_kinds hkinds
  refine ⟨c₁, ?_, h₁⟩
  unfold parseTerminator
  rw [bind_ok hnext]
  rfl

/-- What follows the optional `W` is not another one. -/
theorem BodyTokens.head_ne (h : BodyTokens ks body) :
    (ks ++ .dot :: rest).head? ≠ some (.word "W".toList) := by
  cases h with
  | absent => nofun
  | item tokens =>
    obtain ⟨_, rfl⟩ := tokens.head
    nofun

end

/-! ## Entry points -/

section

variable {limits : DecodeLimits} {input : Str} {item : SecsItem} {message : SmlMessage}

theorem sound_parseItem (h : parseItem limits input.text = .ok item) :
    ∃ tokens, scan input.text = .ok tokens ∧ ItemTokens (tokens.map Token.kind) item ∧
      item.Within limits := by
  obtain ⟨⟨root, items⟩, hroot, h⟩ := bind_eq_ok.mp h
  obtain ⟨⟨found, c⟩, hpeek, h⟩ := bind_eq_ok.mp h
  dsimp only at h
  split at h
  · cases h
  · cases h
    obtain ⟨ks, htokens, hwithin, hpasses⟩ := sound_parseRootItem (length_kinds_start input) hroot
    obtain ⟨tokens, hscan, rfl⟩ := scan_of_passes hpasses hpeek
    exact ⟨tokens, hscan, htokens, hwithin⟩

theorem complete_parseItem {text : Text} {tokens : List Token} (hscan : scan text = .ok tokens)
    (htokens : ItemTokens (tokens.map Token.kind) item) (hwithin : item.Within limits) :
    parseItem limits text = .ok item := by
  obtain ⟨hkinds, -⟩ := scan_iff.mp ⟨tokens, hscan, rfl⟩
  obtain ⟨s', hroot, hpasses⟩ := complete_parseRootItem htokens hwithin
    (hkinds.trans (List.append_nil _).symm)
  obtain ⟨c, hpeek⟩ := peek_behind hscan rfl hpasses
  unfold parseItem
  rw [start] at hroot
  rw [bind_ok hroot]
  dsimp only
  rw [bind_ok hpeek]
  rfl

theorem sound_parseMessage (h : parseMessage limits input.text = .ok message) :
    ∃ tokens, scan input.text = .ok tokens ∧ MessageTokens (tokens.map Token.kind) message ∧
      ∀ item ∈ message.body, item.Within limits := by
  obtain ⟨⟨found, c₁⟩, hnext, h⟩ := bind_eq_ok.mp h
  dsimp only at h
  split at h
  · rename_i headerWord headerPos
    have h₁ : (start input.text).Passes [.word headerWord] c₁ := TokenCursor.passes_next hnext
    split at h
    · cases h
    · rename_i stream function hheader
      obtain ⟨_, hstream, h⟩ := bind_eq_ok.mp h
      obtain ⟨_, hfunction, h⟩ := bind_eq_ok.mp h
      obtain ⟨⟨waitBit, c₂⟩, hwait, h⟩ := bind_eq_ok.mp h
      obtain ⟨⟨body, c₃⟩, hbody, h⟩ := bind_eq_ok.mp h
      obtain ⟨c₄, hdot, h⟩ := bind_eq_ok.mp h
      obtain ⟨⟨found, c₅⟩, hpeek, h⟩ := bind_eq_ok.mp h
      dsimp only at h
      split at h
      · cases h
      · split at h
        · rename_i hrange
          cases h
          have h₂ := h₁.trans (sound_parseWaitBit hwait)
          have hsize : c₂.kinds.length ≤ usizeMax := by
            refine Nat.le_trans ?_ (length_kinds_start input)
            rw [h₂.kinds, List.length_append]
            exact Nat.le_add_left _ _
          obtain ⟨ks, htokens, hwithin, h₃⟩ := sound_parseMessageBody hsize hbody
          have hpasses := (h₂.trans h₃).trans (sound_parseTerminator hdot)
          obtain ⟨tokens, hscan, hkinds⟩ := scan_of_passes hpasses hpeek
          have hstream' : (UInt8.ofNat stream).toNat = stream :=
            UInt8.toNat_ofNat_of_lt' (Nat.lt_of_le_of_lt (ensure_eq_ok.mp hstream) (by decide))
          have hfunction' : (UInt8.ofNat function).toNat = function :=
            UInt8.toNat_ofNat_of_lt' (Nat.lt_of_le_of_lt (ensure_eq_ok.mp hfunction) (by decide))
          have hword : HeaderWord headerWord ⟨UInt8.ofNat stream, hrange⟩
              ⟨UInt8.ofNat function⟩ := by
            rw [← parseHeaderWord_iff, hstream', hfunction']
            exact hheader
          refine ⟨tokens, hscan, ?_, hwithin⟩
          rw [hkinds, List.append_assoc, List.append_assoc]
          exact .message waitBit hword htokens
        · cases h
  · cases h

theorem complete_parseMessage {text : Text} {tokens : List Token} (hscan : scan text = .ok tokens)
    (htokens : MessageTokens (tokens.map Token.kind) message)
    (hwithin : ∀ item ∈ message.body, item.Within limits) :
    parseMessage limits text = .ok message := by
  obtain ⟨hkinds, -⟩ := scan_iff.mp ⟨tokens, hscan, rfl⟩
  generalize hks : tokens.map Token.kind = all at htokens hkinds
  cases htokens with
  | @message word stream function ks body waitBit header tokens' =>
    obtain ⟨⟨_, pos⟩, c₁, hnext, rfl, h₁, hkinds₁⟩ := TokenCursor.next_of_kinds hkinds
    obtain ⟨c₂, hwait, h₂⟩ := complete_parseWaitBit hkinds₁ tokens'.head_ne
      (List.append_ne_nil_of_right_ne_nil _ (List.cons_ne_nil _ _))
    obtain ⟨c₃, hbody, h₃⟩ := complete_parseMessageBody tokens' hwithin (h₂.kinds_eq hkinds₁)
    obtain ⟨c₄, hdot, h₄⟩ := complete_parseTerminator body.isSome
      (h₃.kinds_eq (h₂.kinds_eq hkinds₁))
    obtain ⟨c₅, hpeek⟩ := peek_behind hscan hks (h₁.cons (h₂.trans (h₃.trans h₄)))
    have hstream : stream.raw.toNat ≤ 127 := UInt8.le_iff_toNat_le.mp stream.seven_bit
    have hfunction : function.raw.toNat ≤ 255 := Nat.le_of_lt_succ function.raw.toNat_lt
    have hnext' : (TokenCursor.new (Scanner.new text)).next = .ok (some ⟨.word word, pos⟩, c₁) :=
      hnext
    unfold parseMessage
    rw [bind_ok hnext']
    dsimp only
    rw [parseHeaderWord_iff.mpr header]
    dsimp only
    rw [bind_ok (ensure_of hstream), bind_ok (ensure_of hfunction), bind_ok hwait]
    dsimp only
    rw [bind_ok hbody]
    dsimp only
    rw [bind_ok hdot, bind_ok hpeek]
    dsimp only
    split
    · rename_i hrange
      have hraw : (⟨UInt8.ofNat stream.raw.toNat, hrange⟩ : Stream) = stream := by
        obtain ⟨raw, seven_bit⟩ := stream
        exact (Stream.mk.injEq _ _ _ _).mpr UInt8.ofNat_toNat
      rw [hraw, UInt8.ofNat_toNat]
      rfl
    · rename_i hrange
      rw [UInt8.ofNat_toNat] at hrange
      exact absurd stream.seven_bit hrange

/-- **The parser accepts its grammar within the limits.**  Both entry points are meant, that for
items and that for messages, and the converse holds as well. -/
theorem parser_accepts_grammar (limits : DecodeLimits) (input : Str) :
    (∀ item, parseItem limits input.text = .ok item ↔ ∃ tokens, scan input.text = .ok tokens ∧
      ItemTokens (tokens.map Token.kind) item ∧ item.Within limits) ∧
    ∀ message, parseMessage limits input.text = .ok message ↔ ∃ tokens,
      scan input.text = .ok tokens ∧ MessageTokens (tokens.map Token.kind) message ∧
        ∀ item ∈ message.body, item.Within limits := by
  refine ⟨fun item => ⟨sound_parseItem, ?_⟩, fun message => ⟨sound_parseMessage, ?_⟩⟩
  · rintro ⟨tokens, hscan, htokens, hwithin⟩
    exact complete_parseItem hscan htokens hwithin
  · rintro ⟨tokens, hscan, htokens, hwithin⟩
    exact complete_parseMessage hscan htokens hwithin

end

end Sml
end SecsRust

import SecsRust.Sml.AcceptText
import SecsRust.Sml.Spelling

/-!
# Formatting and parsing

What the formatter lets through has a text in both layouts, the texts are the same tokens,
and the tokens stand for the item.  With what the parser accepts (`parser_accepts_grammar`)
that is the round trip: `parse_undoes_format`.

Neither side is run against the other.  The formatter is followed to the grammar: every tree
that it lets through is spelled (`spelled_of_writable`), by induction over the tree, where a
List is spelled when its children are.  What it lets through is established by its two
checks, which see every item of the tree (`writable_of_checkSmlSemantics`) and measure it
(`validateAndMeasure_ok`).  From the grammar on the theorem about the parser takes over, and
the limits it asks for are those of the claim.

A message is its header words, an item if it has one, and a period; `spelled_message` is the
same for it.
-/

namespace SecsRust
namespace Sml

open Secs2

/-! ## Trees -/

/-- Blanks are between tokens. -/
theorem lexes_blanks {text : Text} {ks : List TokenKind} (h : Lexes text ks) (indent : ℕ) :
    Lexes ((List.replicate indent [' ', ' ']).flatten ++ text) ks := by
  induction indent with
  | zero => exact h
  | succ indent ih =>
    rw [List.replicate_succ, List.flatten_cons, List.append_assoc]
    exact lexes_space (lexes_space ih)

theorem lexes_lineStart {text : Text} {ks : List TokenKind} (h : Lexes text ks) (indent : ℕ) :
    Lexes (writeLineStart indent ++ text) ks :=
  lexes_newline (lexes_blanks h indent)

theorem lexes_itemGap {text : Text} {ks : List TokenKind} (h : Lexes text ks) (pretty : Bool)
    (indent : ℕ) : Lexes (itemGap pretty indent ++ text) ks := by
  cases pretty with
  | true => exact lexes_lineStart h indent
  | false => exact lexes_space h

theorem spells_closeText (pretty : Bool) (indent : ℕ) :
    SpellsAll (closeText pretty indent) [.gt] := by
  intro rest ks hrest
  rw [closeText, List.append_assoc]
  cases pretty with
  | true => exact lexes_lineStart (lexes_gt hrest) indent
  | false => exact lexes_gt hrest

/-- Children are spelled one after another. -/
theorem spelled_children {d : FloatDisplays} {children : List SecsItem}
    (h : ∀ child ∈ children, Spelled d child) :
    ∃ tokens, (∀ pretty indent, SpellsAll (childrenText d pretty indent children) tokens) ∧
      ((∀ node ∈ SecsItem.preorderAll children, Rereads d node) → ItemsTokens tokens children) := by
  induction children with
  | nil => exact ⟨[], fun _ _ _ _ hrest => hrest, fun _ => .nil⟩
  | cons child children ih =>
    obtain ⟨hchild, hchildren⟩ := List.forall_mem_cons.mp h
    obtain ⟨tokens, hspells, htokens⟩ := hchild
    obtain ⟨tokens', hspells', htokens'⟩ := ih hchildren
    refine ⟨tokens ++ tokens', fun pretty indent rest ks hrest => ?_, fun hrereads => ?_⟩
    · rw [childrenText, List.append_assoc]
      exact lexes_itemGap ((hspells pretty indent).append
        (hspells' pretty indent) rest ks hrest) pretty
        indent
    · rw [SecsItem.preorderAll, List.forall_mem_append] at hrereads
      exact .cons (htokens hrereads.1) (htokens' hrereads.2)

/-- **Every tree** that the formatter lets through is spelled. -/
theorem spelled_of_writable {d : FloatDisplays} {item : SecsItem}
    (hwritable : ∀ node ∈ item.preorder, Writable node)
    (hbound : ∀ node ∈ item.preorder, elementCount node ≤ i128Max) : Spelled d item := by
  induction item using SecsItem.treeInduction with
  | leaf item hleaf =>
    exact spelled_leaf hleaf (hwritable item item.mem_preorder_self)
      (hbound item item.mem_preorder_self)
  | list children ih =>
    have hself := hbound _ (SecsItem.list children).mem_preorder_self
    rw [SecsItem.preorder, SecsItem.preorderAll_eq_flatMap,
      List.forall_mem_cons] at hwritable hbound
    have hchildren : ∀ child ∈ children, Spelled d child := by
      intro child hchild
      refine ih child hchild (fun node hnode => ?_) fun node hnode => ?_
      · exact hwritable.2 node (List.mem_flatMap.mpr ⟨child, hchild, hnode⟩)
      · exact hbound.2 node (List.mem_flatMap.mpr ⟨child, hchild, hnode⟩)
    obtain ⟨tokens, hspells, htokens⟩ := spelled_children hchildren
    refine ⟨headerKinds "L" children.length ++ (tokens ++ [.gt]), fun pretty indent => ?_,
      fun hrereads => ?_⟩
    · rw [itemText]
      refine (spells_itemHeader (.of_all rfl rfl rfl rfl) hself).append
        ((hspells pretty _).append ?_)
      split
      · exact fun rest ks hrest => lexes_gt hrest
      · exact spells_closeText pretty indent
    · rw [SecsItem.preorder, List.forall_mem_cons] at hrereads
      exact .list (.declared _ _) (htokens hrereads.2)

/-! ## What is let through -/

theorem writable_of_semanticsTurn {item : SecsItem} {level : ℕ} {stack stack' : List (SecsItem × ℕ)}
    (h : semanticsTurn ((item, level) :: stack) = .ok (.next stack')) : Writable item := by
  cases item with
  | jis8 bytes => cases h
  | localized text => cases h
  | f4 bits =>
    obtain ⟨_, hfinite, -⟩ := bind_eq_ok.mp h
    exact List.all_eq_true.mp (ensure_eq_ok.mp hfinite)
  | f8 bits =>
    obtain ⟨_, hfinite, -⟩ := bind_eq_ok.mp h
    exact List.all_eq_true.mp (ensure_eq_ok.mp hfinite)
  | _ => exact trivial

theorem nil_of_semanticsTurn {stack : List (SecsItem × ℕ)} {u : Unit}
    (h : semanticsTurn stack = .ok (.done u)) : stack = [] := by
  cases stack with
  | nil => rfl
  | cons entry stack =>
    obtain ⟨item, level⟩ := entry
    cases item with
    | list children | f4 bits | f8 bits =>
      obtain ⟨_, -, h⟩ := bind_eq_ok.mp h
      cases h
    | _ => cases h

/-- **The check sees every item of the tree**: an item is on the stack, below an item on the stack,
or has been seen. -/
theorem writable_of_checkSmlSemantics {root : SecsItem} (h : checkSmlSemantics root = .ok ()) :
    ∀ node ∈ root.preorder, Writable node := by
  refine Loop.run_rule
    (P := fun stack => ∀ node ∈ root.preorder, Writable node ∨
      ∃ entry ∈ stack, node ∈ entry.1.preorder)
    (Q := fun _ => ∀ node ∈ root.preorder, Writable node) stackNodes_semanticsTurn ?_ ?_
    (fun node hnode => .inr ⟨_, List.mem_cons_self, hnode⟩) h
  · intro stack stack' hstack hturn node hnode
    obtain ⟨item, level, rest, rfl, rfl⟩ := next_semanticsTurn hturn
    rcases hstack node hnode with hwritable | ⟨entry, hentry, hmem⟩
    · exact .inl hwritable
    · rcases List.mem_cons.mp hentry with rfl | hentry
      · rw [SecsItem.preorder_eq, List.mem_cons] at hmem
        rcases hmem with rfl | hmem
        · exact .inl (writable_of_semanticsTurn hturn)
        · obtain ⟨child, hchild, hmem⟩ := List.mem_flatMap.mp hmem
          exact .inr ⟨(child, level + 1),
            List.mem_append_left _ (List.mem_map_of_mem hchild), hmem⟩
      · exact .inr ⟨entry, List.mem_append_right _ hentry, hmem⟩
  · intro stack _ hstack hturn node hnode
    obtain rfl := nil_of_semanticsTurn hturn
    rcases hstack node hnode with hwritable | ⟨_, hentry, _⟩
    · exact hwritable
    · cases hentry

theorem mapError_eq_ok {ε ε' α : Type} {f : ε → ε'} {x : Except ε α} {a : α} :
    x.mapError f = .ok a ↔ x = .ok a := by
  cases x with
  | error e => exact iff_of_false (fun h => nomatch h) fun h => nomatch h
  | ok value => exact ⟨fun h => congrArg _ (Except.ok.inj h), fun h => congrArg _ (Except.ok.inj h)⟩

theorem elementCount_le_declared (item : SecsItem) : elementCount item ≤ item.declared := by
  cases item <;> simp only [elementCount, SecsItem.declared, SecsItem.payloadBytes] <;> omega

/-- **What the formatter lets through** can be written and is bounded. -/
theorem validateAndMeasure_ok {item : SecsItem} {length : ℕ}
    (h : validateAndMeasure item = .ok length) :
    (∀ node ∈ item.preorder, Writable node) ∧
      ∀ node ∈ item.preorder, elementCount node ≤ i128Max := by
  obtain ⟨_, hcheck, h⟩ := bind_eq_ok.mp h
  obtain ⟨plan, hplan, -⟩ := bind_eq_ok.mp h
  rw [mapError_eq_ok] at hplan
  have hmeasure : measure item = .ok plan.encodedLength := by
    unfold EncodedItemPlan.new at hplan
    split at hplan
    · cases hplan
    · rename_i length hlength
      cases hplan
      exact hlength
  have hdeclared := (measure_eq_ok.mp hmeasure).1
  have hmax : maxEncodedItemLength ≤ i128Max := by decide
  exact ⟨writable_of_checkSmlSemantics hcheck, fun node hnode =>
    (elementCount_le_declared node).trans ((hdeclared node hnode).trans hmax)⟩

/-! ## Entry points -/

section

variable {d : FloatDisplays} {style : FormatStyle} {text : Text}

theorem formatItem_ok {item : SecsItem} (h : formatItem d style item = .ok text) :
    Spelled d item ∧ text = itemText d (decide (style = .pretty)) 0 item := by
  obtain ⟨length, hvalid, h⟩ := bind_eq_ok.mp h
  obtain ⟨hwritable, hbound⟩ := validateAndMeasure_ok (mapError_eq_ok.mp hvalid)
  have hwrite : writeItemText d (decide (style = .pretty)) [] item = .ok text := h
  rw [writeItemText_eq hwritable] at hwrite
  exact ⟨spelled_of_writable hwritable hbound, (Except.ok.inj hwrite).symm⟩

/-- The text of the body of a message, behind its space. -/
def bodyText (d : FloatDisplays) (pretty : Bool) : Option SecsItem → Text
  | some body => ' ' :: itemText d pretty 0 body
  | none => []

theorem formatMessage_ok {message : SmlMessage} (h : formatMessage d style message = .ok text) :
    (∀ body ∈ message.body, Spelled d body) ∧
      text = messageHeader message ++ (bodyText d
        (decide (style = .pretty)) message.body ++ ['.']) := by
  obtain ⟨stream, function, waitBit, body⟩ := message
  cases body with
  | none =>
    cases h
    exact ⟨(fun _ hbody => nomatch hbody), rfl⟩
  | some body =>
    obtain ⟨length, hvalid, h⟩ := bind_eq_ok.mp h
    obtain ⟨out, hwrite, h⟩ := bind_eq_ok.mp h
    obtain ⟨hwritable, hbound⟩ := validateAndMeasure_ok (mapError_eq_ok.mp hvalid)
    rw [writeItemText_eq hwritable] at hwrite
    cases hwrite
    cases h
    refine ⟨fun item hitem => Option.mem_some.mp hitem ▸ spelled_of_writable hwritable hbound, ?_⟩
    simp only [bodyText, List.append_assoc, List.cons_append, List.nil_append]

theorem endsWord_of {c : Char} {rest : Text} (hc : c.isAlphanum = false) :
    EndsWord (c :: rest) := by
  rintro c' ⟨⟩
  exact hc

/-- A text that is tokens is scanned as them. -/
theorem Lexes.scan {ks : List TokenKind} (h : Lexes text ks) :
    ∃ tokens, scan text = .ok tokens ∧ tokens.map Token.kind = ks := by
  obtain ⟨hkinds, hend⟩ := h (Scanner.new text) rfl
  exact ⟨_, scan_eq_ok.mpr (Prod.ext rfl hend), hkinds⟩

theorem Spelled.lexes {item : SecsItem} (h : Spelled d item) :
    ∃ tokens, (∀ pretty, Lexes (itemText d pretty 0 item) tokens) ∧
      ((∀ node ∈ item.preorder, Rereads d node) → ItemTokens tokens item) := by
  obtain ⟨tokens, hspells, htokens⟩ := h
  refine ⟨tokens, fun pretty => ?_, htokens⟩
  have hlexes := hspells pretty 0 [] [] lexes_nil
  rw [List.append_nil, List.append_nil] at hlexes
  exact hlexes

/-- The word of the header of a message. -/
def messageWord (message : SmlMessage) : Text :=
  'S' :: (displayNat message.stream.raw.toNat ++ 'F' :: displayNat message.function.raw.toNat)

theorem digits_displayNat (n : ℕ) : Digits (displayNat n) n :=
  ⟨Nat.toDigits_ne_nil, displayNat_digits n, Nat.ofDigitChars_ten_toDigits⟩

theorem headerWord_messageWord (message : SmlMessage) :
    HeaderWord (messageWord message) message.stream message.function :=
  ⟨_, _, rfl, digits_displayNat _, digits_displayNat _⟩

theorem lexes_messageHeader (message : SmlMessage) {rest : Text} {ks : List TokenKind}
    (hends : EndsWord rest) (hrest : Lexes rest ks) :
    Lexes (messageHeader message ++ rest)
      (.word (messageWord message) :: (waitBitTokens message.waitBit ++ ks)) := by
  have hdigits : ∀ c ∈ displayNat message.stream.raw.toNat ++ 'F' ::
      displayNat message.function.raw.toNat, c.isAlphanum = true := by
    intro c hc
    rcases List.mem_append.mp hc with hc | hc
    · exact isAlphanum_of_isDigit (displayNat_digits _ c hc)
    · rcases List.mem_cons.mp hc with rfl | hc
      · decide
      · exact isAlphanum_of_isDigit (displayNat_digits _ c hc)
  have htext : messageHeader
      message ++ rest = 'S' :: ((displayNat message.stream.raw.toNat ++ 'F' ::
      displayNat message.function.raw.toNat) ++ ((if message.waitBit then [' ',
        'W'] else []) ++ rest)) := by
    simp only [messageHeader, List.append_assoc, List.cons_append]
  rw [htext]
  cases hwait : message.waitBit with
  | true =>
    refine lexes_word (by decide) (by decide) hdigits (endsNumber_of rfl (by decide)).endsWord ?_
    exact lexes_space (lexes_word (by decide) (by decide) (fun _ h => nomatch h) hends hrest)
  | false => exact lexes_word (by decide) (by decide) hdigits hends hrest

/-- **The tokens of a message** are the same in both layouts. -/
theorem spelled_message {message : SmlMessage} (h : ∀ body ∈ message.body, Spelled d body) :
    ∃ tokens, (∀ pretty, Lexes
      (messageHeader message ++ (bodyText d pretty message.body ++ ['.'])) tokens) ∧
      ((∀ body ∈ message.body, ∀ node ∈ body.preorder, Rereads d node) →
        MessageTokens tokens message) := by
  obtain ⟨stream, function, waitBit, body⟩ := message
  cases body with
  | none =>
    exact ⟨_, fun pretty => lexes_messageHeader ⟨stream, function, waitBit, none⟩
      (endsWord_of rfl) (lexes_dot lexes_nil), fun _ =>
      .message waitBit (headerWord_messageWord ⟨stream, function, waitBit, none⟩) .absent⟩
  | some body =>
    obtain ⟨tokens, hspells, htokens⟩ := h body rfl
    refine ⟨_, fun pretty => lexes_messageHeader ⟨stream, function, waitBit, some body⟩
      (endsNumber_of rfl (by decide)).endsWord
      (lexes_space (hspells pretty 0 _ _ (lexes_dot lexes_nil))), fun hrereads => .message waitBit
        (headerWord_messageWord ⟨stream, function, waitBit, some body⟩)
        (.item (htokens (hrereads body rfl)))⟩

/-- **Parsing undoes formatting**, in both layouts, for whatever Rust prints as the floats of the
value as long as it parses back to them; and both layouts are the same tokens. -/
theorem parse_undoes_format (d : FloatDisplays) :
    (∀ item style text, (∀ node ∈ item.preorder, Rereads d node) →
      formatItem d style item = .ok text →
      ∀ limits, item.Within limits → parseItem limits text = .ok item) ∧
    (∀ message style text, (∀ body ∈ message.body, ∀ node ∈ body.preorder, Rereads d node) →
      formatMessage d style message = .ok text →
      ∀ limits, (∀ body ∈ message.body, body.Within limits) →
        parseMessage limits text = .ok message) ∧
    (∀ item compact pretty, formatItem d .compact item = .ok compact →
      formatItem d .pretty item = .ok pretty → ∃ tokens tokens', scan compact = .ok tokens ∧
        scan pretty = .ok tokens' ∧ tokens.map Token.kind = tokens'.map Token.kind) ∧
    ∀ message compact pretty, formatMessage d .compact message = .ok compact →
      formatMessage d .pretty message = .ok pretty → ∃ tokens tokens', scan compact = .ok tokens ∧
        scan pretty = .ok tokens' ∧ tokens.map Token.kind = tokens'.map Token.kind := by
  refine ⟨?_, ?_, ?_, ?_⟩
  · intro item style text hrereads hformat limits hwithin
    obtain ⟨hspelled, rfl⟩ := formatItem_ok hformat
    obtain ⟨kinds, hlexes, hkinds⟩ := hspelled.lexes
    obtain ⟨tokens, hscan, rfl⟩ := (hlexes (decide (style = .pretty))).scan
    exact complete_parseItem hscan (hkinds hrereads) hwithin
  · intro message style text hrereads hformat limits hwithin
    obtain ⟨hspelled, rfl⟩ := formatMessage_ok hformat
    obtain ⟨kinds, hlexes, hkinds⟩ := spelled_message hspelled
    obtain ⟨tokens, hscan, rfl⟩ := (hlexes (decide (style = .pretty))).scan
    exact complete_parseMessage hscan (hkinds hrereads) hwithin
  · intro item compact pretty hcompact hpretty
    obtain ⟨hspelled, rfl⟩ := formatItem_ok hcompact
    obtain ⟨-, rfl⟩ := formatItem_ok hpretty
    obtain ⟨kinds, hlexes, -⟩ := hspelled.lexes
    obtain ⟨tokens, hscan, htokens⟩ := (hlexes false).scan
    obtain ⟨tokens', hscan', htokens'⟩ := (hlexes true).scan
    exact ⟨tokens, tokens', hscan, hscan', htokens.trans htokens'.symm⟩
  · intro message compact pretty hcompact hpretty
    obtain ⟨hspelled, rfl⟩ := formatMessage_ok hcompact
    obtain ⟨-, rfl⟩ := formatMessage_ok hpretty
    obtain ⟨kinds, hlexes, -⟩ := spelled_message hspelled
    obtain ⟨tokens, hscan, htokens⟩ := (hlexes false).scan
    obtain ⟨tokens', hscan', htokens'⟩ := (hlexes true).scan
    exact ⟨tokens, tokens', hscan, hscan', htokens.trans htokens'.symm⟩

end

/-- What Rust prints for the `f32` 5 and for the `f64` ten to the 21. -/
def printedFloats : FloatDisplays where
  f4 :=
    { display := fun _ =>
        ⟨false, "5".toList, [], by decide, List.all_eq_true.mp rfl, List.all_eq_true.mp rfl⟩
      lowerExp := fun _ =>
        ⟨⟨false, "5".toList, [], by decide, List.all_eq_true.mp rfl, List.all_eq_true.mp rfl⟩,
          false, "0".toList, by decide, List.all_eq_true.mp rfl⟩ }
  f8 :=
    { display := fun _ =>
        ⟨false, "1000000000000000000000".toList, [], by decide, List.all_eq_true.mp rfl,
          List.all_eq_true.mp rfl⟩
      lowerExp := fun _ =>
        ⟨⟨false, "1".toList, [], by decide, List.all_eq_true.mp rfl, List.all_eq_true.mp rfl⟩,
          false, "21".toList, by decide, List.all_eq_true.mp rfl⟩ }

/-- A List with text that has a quote in it, and with floats and a negative integer one level
deeper. -/
def printedItem : SecsItem :=
  .list [.ascii ⟨[0x41, 0x22], allAscii_iff.mp rfl⟩,
    .list [.f4 [0x40A00000], .f8 [0x444B1AE4D6E2EF50], .i2 [-7]]]

theorem rereads_printedItem : ∀ node ∈ printedItem.preorder, Rereads printedFloats node := by
  have hf4 : ∀ value ∈ [(0x40A00000 : UInt32)], printedFloats.f4.Faithful parseF4 value := by
    intro value hvalue
    rw [List.mem_singleton] at hvalue
    subst hvalue
    exact ⟨by decide +kernel, by decide +kernel⟩
  have hf8 : ∀ value ∈ [(0x444B1AE4D6E2EF50 : UInt64)],
      printedFloats.f8.Faithful parseF8 value := by
    intro value hvalue
    rw [List.mem_singleton] at hvalue
    subst hvalue
    exact ⟨by decide +kernel, by decide +kernel⟩
  intro node hnode
  simp only [printedItem, SecsItem.preorder, SecsItem.preorderAll, List.cons_append,
    List.nil_append, List.append_nil, List.mem_cons, List.not_mem_nil, or_false] at hnode
  rcases hnode with rfl | rfl | rfl | rfl | rfl | rfl
  · trivial
  · trivial
  · trivial
  · exact hf4
  · exact hf8
  · trivial

theorem within_printedItem : printedItem.Within DecodeLimits.default where
  nesting := by decide
  nodes := by decide
  each := by
    intro node hnode
    simp only [printedItem, SecsItem.preorder, SecsItem.preorderAll, List.cons_append,
      List.nil_append, List.append_nil, List.mem_cons, List.not_mem_nil, or_false] at hnode
    rcases hnode with rfl | rfl | rfl | rfl | rfl | rfl <;> exact ⟨by decide, by decide⟩

theorem printedStream_seven_bit : (1 : UInt8) ≤ 127 := by decide

/-- The message with that item as its body. -/
def printedMessage : SmlMessage := ⟨⟨1, printedStream_seven_bit⟩, ⟨13⟩, true, some printedItem⟩

theorem formatItem_printedItem : formatItem printedFloats .compact printedItem =
    .ok "<L[2] <A[2] \"A\" 0x22> <L[3] <F4[1] 5.0> <F8[1] 1e21> <I2[1] -7>>>".toList := by
  decide +kernel

theorem formatMessage_printedMessage (style : FormatStyle) :
    formatMessage printedFloats style printedMessage = .ok (match style with
      | .compact =>
        "S1F13 W <L[2] <A[2] \"A\" 0x22> <L[3] <F4[1] 5.0> <F8[1] 1e21> <I2[1] -7>>>.".toList
      | .pretty => ("S1F13 W <L[2]\n  <A[2] \"A\" 0x22>\n  <L[3]\n    <F4[1] 5.0>\n" ++
        "    <F8[1] 1e21>\n    <I2[1] -7>\n  >\n>.").toList) := by
  cases style <;> decide +kernel

theorem parse_undoes_format_of_printed :
    parseItem .default
      "<L[2] <A[2] \"A\" 0x22> <L[3] <F4[1] 5.0> <F8[1] 1e21> <I2[1] -7>>>".toList =
        .ok printedItem ∧
    parseMessage .default ("S1F13 W <L[2]\n  <A[2] \"A\" 0x22>\n  <L[3]\n    <F4[1] 5.0>\n" ++
      "    <F8[1] 1e21>\n    <I2[1] -7>\n  >\n>.").toList = .ok printedMessage ∧
    ∃ compact pretty tokens tokens',
      formatMessage printedFloats .compact printedMessage = .ok compact ∧
      formatMessage printedFloats .pretty printedMessage = .ok pretty ∧ scan compact = .ok tokens ∧
        scan pretty = .ok tokens' ∧ tokens.map Token.kind = tokens'.map Token.kind := by
  obtain ⟨hitem, hmessage, -, htokens⟩ := parse_undoes_format printedFloats
  have hrereads : ∀ body ∈ printedMessage.body, ∀ node ∈ body.preorder,
      Rereads printedFloats node := by
    rintro body ⟨⟩
    exact rereads_printedItem
  have hwithin : ∀ body ∈ printedMessage.body, body.Within DecodeLimits.default := by
    rintro body ⟨⟩
    exact within_printedItem
  obtain ⟨tokens, tokens', hscan, hscan', hkinds⟩ := htokens printedMessage _ _
    (formatMessage_printedMessage .compact) (formatMessage_printedMessage .pretty)
  refine ⟨hitem printedItem .compact _ rereads_printedItem formatItem_printedItem .default
    within_printedItem, hmessage printedMessage .pretty _ hrereads
      (formatMessage_printedMessage .pretty)
    .default hwithin, _, _, tokens, tokens', formatMessage_printedMessage .compact,
    formatMessage_printedMessage .pretty, hscan, hscan', hkinds⟩

end Sml
end SecsRust

import SecsRust.Sml.Reading

/-!
# How far the parser has read

The parser of `Sml/Parser.lean` as a `Reading`: each of its parts once more, by the tokens
that it asks for.  Run on a text it does what the parser does (`tracedItem_agrees`,
`tracedMessage_agrees`), and it says with a failure up to where the text has been read.  So
the error of a text is decided by what has been read of it: `errors_decided_by_text_read`.

The second parser is no second model.  It exists because a function of the source does not
say how much of the text it has looked at, and the theorem is about that.  Every part of it
is compared with the part of the parser that it traces, by one lemma for each, and the
comparison is an equality on every cursor: the same value behind the same tokens, or the
same error.

A reading asks for tokens with fuel where the parser loops.  The last section shows that
there is enough of it, so the traced parser never stops for want of fuel.
-/

namespace SecsRust
namespace Sml

open Secs2
open Reading

namespace Traced

/-- `unexpected`: another token than the one that is expected, or the end of the text. -/
def unexpected {α : Type} (expected : String) (found : Option Token) : Reading α :=
  .fail fun pos => match found with
    | some token => .unexpectedToken token.pos expected (describeKind token.kind)
    | none => .unexpectedToken pos expected "end of input".toList

/-- One turn of a loop over tokens. -/
def tokenTurn {τ α : Type} (expected : String) (step : Token → Reading (Turn τ α)) :
    Reading (Turn τ α) := do
  match ← next with
  | some token => step token
  | none => unexpected expected none

/-- A loop over tokens; each unit of fuel is one token. -/
def tokenLoop {τ α : Type} (expected : String) (step : τ → Token → Reading (Turn τ α)) :
    ℕ → τ → Reading α
  | 0, _ => .exhausted
  | fuel + 1, t => do
    match ← tokenTurn expected (step t) with
    | .next t => tokenLoop expected step fuel t
    | .done result => return result

/-! ## Bodies -/

section

variable (limits : DecodeLimits) (typePos : SourcePos) (declared : Option ℕ)

/-- One turn of a body loop, behind its token; the state has the values so far and their bytes. -/
def bodyStep {α : Type} (expected : String) (width : ℕ)
    (element : Token → Option (Except ParseError α))
    (s : List α × ℕ) (token : Token) : Reading (Turn (List α × ℕ) (List α)) :=
  if token.kind = .gt then do
    check (checkDeclaredCount typePos declared s.1.length)
    return .done s.1
  else
    match element token with
    | some converted => do
      let bodyBytes ← check (admitBodyElement limits typePos declared s.2 s.1.length width 1)
      let value ← check converted
      return .next (s.1 ++ [value], bodyBytes)
    | none => unexpected expected (some token)

/-- A body whose elements have one width. -/
def parseBody {α : Type} (fuel : ℕ) (expected : String) (width : ℕ)
    (element : Token → Option (Except ParseError α)) : Reading (List α) := do
  check (checkDeclaredBytes limits typePos declared width)
  tokenLoop expected (bodyStep limits typePos declared expected width element) fuel ([], 0)

/-- One turn of the loop of `parse_ascii_body`, behind its token. -/
def asciiStep (s : List UInt8 × ℕ) (token : Token) : Reading (Turn (List UInt8 × ℕ) (List UInt8)) :=
  match token with
  | ⟨.gt, _⟩ => do
    check (checkDeclaredCount typePos declared s.2)
    return .done s.1
  | ⟨.str fragment, _⟩ => do
    let added := fragment.length
    let charCount ← check (admitBodyElement limits typePos declared s.2 s.2 added added)
    return .next (s.1 ++ fragment.map fun c => UInt8.ofNat c.toNat, charCount)
  | ⟨.hexByte value _, pos⟩ => do
    let charCount ← check (admitBodyElement limits typePos declared s.2 s.2 1 1)
    check (ensure (value ≤ 0x7F) (.invalidAsciiByte pos value))
    return .next (s.1 ++ [value], charCount)
  | token => unexpected "a quoted string or 0xHH byte" (some token)

/-- The conversion at the end of `parse_ascii_body`. -/
def asciiText (bytes : List UInt8) : Except ParseError AsciiString :=
  if h : allAscii bytes then .ok ⟨bytes, ascii_of_allAscii h⟩ else .error
    (.invalidAsciiByte typePos 0)

/-- `parse_ascii_body`, by the tokens that it asks for. -/
def parseAsciiBody (fuel : ℕ) : Reading AsciiString := do
  check (checkDeclaredBytes limits typePos declared 1)
  let bytes ← tokenLoop "a quoted string or 0xHH byte" (asciiStep limits typePos declared) fuel
      ([], 0)
  check (asciiText typePos bytes)

end

/-! ## Items -/

/-- `parse_declared_count`, by the tokens that it asks for. -/
def parseDeclaredCount : Reading (Option ℕ) := do
  match ← peek with
  | some ⟨.lBracket, bracketPos⟩ =>
    let _ ← next
    match ← next with
    | some ⟨.int value false _, _⟩ =>
      check (ensure (0 ≤ value ∧ value ≤ usizeMax) (.invalidCount bracketPos))
      match ← next with
      | some ⟨.rBracket, _⟩ => return some value.toNat
      | found => unexpected "']'" found
    | _ => check (.error (.invalidCount bracketPos))
  | _ => return none

/-- A complete item that is not a List, behind its body. -/
def finished {α : Type} (item : α → SecsItem) (body : Reading α) :
    Reading (Started OpenedList SecsItem) := do
  let value ← body
  return .leaf (item value)

/-- A body of integers. -/
def finishedIntegers {α : Type} (limits : DecodeLimits) (typePos : SourcePos) (declared : Option ℕ)
    (fuel : ℕ) (item : List α → SecsItem) (e : IntegerElement α) :
    Reading (Started OpenedList SecsItem) :=
  finished item (parseBody limits typePos declared fuel "an integer literal" e.width
    (integerElement e))

/-- `parse_one_item` behind the count. -/
def startBody (limits : DecodeLimits) (fuel : ℕ) (typePos : SourcePos) (declared : Option ℕ) :
    ItemKind → Reading (Started OpenedList SecsItem)
  | .list => do
    check (ensure (∀ count ∈ declared, count ≤ limits.maxListItems)
      (.listItemsExceeded typePos limits.maxListItems))
    return .opened ⟨declared, typePos⟩
  | .binary => finished .binary
      (parseBody limits typePos declared fuel "a 0xHH byte" 1 binaryElement)
  | .boolean => finished .boolean
      (parseBody limits typePos declared fuel "TRUE or FALSE" 1 booleanElement)
  | .ascii => finished .ascii (parseAsciiBody limits typePos declared fuel)
  | .i1 => finishedIntegers limits typePos declared fuel .i1 .i1
  | .i2 => finishedIntegers limits typePos declared fuel .i2 .i2
  | .i4 => finishedIntegers limits typePos declared fuel .i4 .i4
  | .i8 => finishedIntegers limits typePos declared fuel .i8 .i8
  | .u1 => finishedIntegers limits typePos declared fuel .u1 .u1
  | .u2 => finishedIntegers limits typePos declared fuel .u2 .u2
  | .u4 => finishedIntegers limits typePos declared fuel .u4 .u4
  | .u8 => finishedIntegers limits typePos declared fuel .u8 .u8
  | .f4 => finished .f4 (parseBody limits typePos declared fuel "a floating-point literal" 4
      (floatElement "F4" fun text => (parseF4 text).filter isFiniteF4))
  | .f8 => finished .f8 (parseBody limits typePos declared fuel "a floating-point literal" 8
      (floatElement "F8" fun text => (parseF8 text).filter isFiniteF8))

/-- `parse_one_item`, by the tokens that it asks for. -/
def parseOneItem (limits : DecodeLimits) (fuel : ℕ) (stack : ListStack) (nodeCount : ℕ) :
    Reading (Started OpenedList SecsItem) := do
  match ← next with
  | some ⟨.lt, ltPos⟩ =>
    check (ensure (saturatingAdd nodeCount 1 ≤ limits.maxTotalItems)
      (.totalItemsExceeded ltPos limits.maxTotalItems))
    match ← next with
    | some ⟨.word typeWord, typePos⟩ =>
      let kind ← check (classifyItemType typeWord typePos)
      check (ensure (kind = .list → stack.length + 1 ≤ limits.maxDepth)
        (.depthExceeded ltPos (stack.length + 1) limits.maxDepth))
      let declared ← parseDeclaredCount
      startBody limits fuel typePos declared kind
    | found => unexpected "an item type such as L or A" found
  | found => unexpected "an item" found

/-- The List body of `parse_root_item`. -/
def nextChild (limits : DecodeLimits) (frame : Frame OpenedList SecsItem) : Reading Bool := do
  check (ItemCursor.checkAttached limits frame)
  match ← peek with
  | some ⟨.lt, _⟩ =>
    check (ItemCursor.admitListChild limits frame)
    return true
  | some ⟨.gt, _⟩ =>
    let _ ← next
    check (checkDeclaredCount frame.header.typePos frame.header.declaredCount frame.children.length)
    return false
  | found => unexpected "an item or '>'" found

/-- Closes Lists as long as they take no further child: the root, or the Lists that are still open.
-/
def settle (limits : DecodeLimits) : Frame OpenedList SecsItem → ListStack → Reading
    (SecsItem ⊕ ListStack)
  | frame, [] => do
    match ← nextChild limits frame with
    | true => return .inr [frame]
    | false => return .inl (.list frame.children)
  | frame, parent :: stack => do
    match ← nextChild limits frame with
    | true => return .inr (frame :: parent :: stack)
    | false => settle limits (parent.push (.list frame.children)) stack

/-- Hands on what has been started. -/
def attach (limits : DecodeLimits) : Started OpenedList SecsItem → ListStack → Reading
    (SecsItem ⊕ ListStack)
  | .leaf item, [] => return .inl item
  | .leaf item, frame :: stack => settle limits (frame.push item) stack
  | .opened header, stack => settle limits ⟨header, []⟩ stack

/-- The loop of `parse_root_item`; each unit of fuel starts one item. -/
def itemLoop (limits : DecodeLimits) (bodyFuel : ℕ) : ℕ → ListStack → ℕ → Reading SecsItem
  | 0, _, _ => .exhausted
  | fuel + 1, stack, nodeCount => do
    let started ← parseOneItem limits bodyFuel stack nodeCount
    match ← attach limits started stack with
    | .inl item => return item
    | .inr stack => itemLoop limits bodyFuel fuel stack (saturatingAdd nodeCount 1)

/-- `parse_root_item`: the loop over the open Lists. -/
def parseRootItem (limits : DecodeLimits) (fuel : ℕ) : Reading SecsItem := itemLoop limits fuel fuel
    [] 0

/-! ## Entry points -/

/-- `finish`: nothing follows. -/
def finish (input : Text) : Reading Unit := do
  match ← peek with
  | some token => check (.error (.trailingInput token.pos (trailingPreview input token.pos)))
  | none => return ()

/-- `SmlParser::parse_item`, by the tokens that it asks for. -/
def parseItem (limits : DecodeLimits) (fuel : ℕ) (input : Text) : Reading SecsItem := do
  let item ← parseRootItem limits fuel
  finish input
  return item

/-- The optional `W` word of a message. -/
def parseWaitBit : Reading Bool := do
  let found ← peek
  if found.map Token.kind = some (.word "W".toList) then
    let _ ← next
    return true
  else return false

/-- The optional item of a message, where one starts. -/
def parseMessageBody (limits : DecodeLimits) (fuel : ℕ) : Reading (Option SecsItem) := do
  match ← peek with
  | some ⟨.lt, _⟩ =>
    let item ← parseRootItem limits fuel
    return some item
  | _ => return none

/-- The period of a message. -/
def parseTerminator (hasBody : Bool) : Reading Unit := do
  match ← next with
  | some ⟨.dot, _⟩ => return ()
  | some token => unexpected (if hasBody then "'.'" else "an item or '.'") (some token)
  | none => .fail .missingTerminator

/-- The message of its parts. -/
def message (stream function : ℕ) (headerPos : SourcePos) (waitBit : Bool)
    (body : Option SecsItem) :
    Except ParseError SmlMessage :=
  if h : UInt8.ofNat stream ≤ 127 then .ok ⟨⟨UInt8.ofNat stream, h⟩, ⟨UInt8.ofNat function⟩,
    waitBit, body⟩
  else .error (.streamOutOfRange headerPos stream)

/-- `SmlParser::parse_message`, by the tokens that it asks for. -/
def parseMessage (limits : DecodeLimits) (fuel : ℕ) (input : Text) : Reading SmlMessage := do
  match ← next with
  | some ⟨.word headerWord, headerPos⟩ =>
    match parseHeaderWord headerWord with
    | none => check (.error (.invalidMessageHeader headerPos headerWord))
    | some (stream, function) =>
      check (ensure (stream ≤ 127) (.streamOutOfRange headerPos stream))
      check (ensure (function ≤ 255) (.functionOutOfRange headerPos function))
      let waitBit ← parseWaitBit
      let body ← parseMessageBody limits fuel
      parseTerminator body.isSome
      finish input
      check (message stream function headerPos waitBit body)
  | found => unexpected "a message header such as S1F13" found

end Traced

/-- `SmlParser::parse_item`, with how far it reads. -/
def tracedItem (limits : DecodeLimits) (input : Text) : Except Stop (SecsItem × Place) :=
  (Traced.parseItem limits (input.length + 1) input).run (.first input)

/-- `SmlParser::parse_message`, with how far it reads. -/
def tracedMessage (limits : DecodeLimits) (input : Text) : Except Stop (SmlMessage × Place) :=
  (Traced.parseMessage limits (input.length + 1) input).run (.first input)

namespace Traced

/-! ## The readings and the parser -/

section

variable {α γ : Type} {p : Place} {limits : DecodeLimits} {typePos : SourcePos}
  {declared : Option ℕ}

theorem agrees_unexpected {out : α → TokenCursor → γ} {c : TokenCursor} (expected : String)
    (found : Option Token) (hc : p.cursor = c) :
    Agrees out ((unexpected expected found).run p) (.error (Sml.unexpected expected found c)) := by
  subst hc
  cases found <;> rfl

/-- The outcome of a turn, from what the reading keeps and the cursor behind it. -/
def turned : Turn (List α × ℕ) (List α) → TokenCursor → Turn (BodyState α) (List α × TokenCursor)
  | .next s, c => .next ⟨c, s.1, s.2⟩
  | .done values, c => .done (values, c)

/-- A loop over tokens, if its turns agree. -/
theorem agrees_tokenLoop {expected : String}
    {step : List α × ℕ → Token → Reading (Turn (List α × ℕ) (List α))}
    {turn : BodyState α → Except ParseError (Turn (BodyState α) (List α × TokenCursor))}
    (hsize : ∀ s s', turn s = .ok (.next s') → s'.tokens.size < s.tokens.size)
    (hturn : ∀ (p : Place) (s : List α × ℕ),
      Agrees turned ((tokenTurn expected (step s)).run p) (turn ⟨p.cursor, s.1, s.2⟩)) :
    ∀ (fuel : ℕ) (p : Place) (s : List α × ℕ),
      Agrees Prod.mk ((tokenLoop expected step fuel s).run p)
        (Loop.run turn (fun s => s.tokens.size) hsize ⟨p.cursor, s.1, s.2⟩) := by
  intro fuel
  induction fuel with
  | zero => exact fun p s => trivial
  | succ fuel ih =>
    intro p s
    rw [tokenLoop, Loop.run_eq]
    refine agrees_of_bind (hturn p s) (fun e he => ?_) fun outcome p' ho => ?_
    · rw [he]
    · rw [ho]
      cases outcome with
      | next t => exact ih p' t
      | done result => rfl

theorem agrees_bodyStep {expected : String} {width : ℕ}
    {element : Token → Option (Except ParseError α)}
    (p : Place) (s : List α × ℕ) :
    Agrees turned ((tokenTurn expected
      (bodyStep limits typePos declared expected width element s)).run p)
      (bodyTurn limits typePos declared expected width element ⟨p.cursor, s.1, s.2⟩) := by
  refine agrees_next fun found p' => ?_
  cases found with
  | none => exact agrees_unexpected expected none rfl
  | some token =>
    dsimp only
    unfold bodyStep
    split
    · exact agrees_check fun _ => rfl
    · cases element token with
      | some converted => exact agrees_check fun _ => agrees_check fun _ => rfl
      | none => exact agrees_unexpected expected (some token) rfl

theorem agrees_asciiStep (p : Place) (s : List UInt8 × ℕ) :
    Agrees turned
      ((tokenTurn "a quoted string or 0xHH byte" (asciiStep limits typePos declared s)).run p)
      (asciiTurn limits typePos declared ⟨p.cursor, s.1, s.2⟩) := by
  refine agrees_next fun found p' => ?_
  cases found with
  | none => exact agrees_unexpected _ none rfl
  | some token =>
    obtain ⟨kind, pos⟩ := token
    cases kind with
    | gt => exact agrees_check fun _ => rfl
    | str fragment => exact agrees_check fun _ => rfl
    | hexByte value text => exact agrees_check fun _ => agrees_check fun _ => rfl
    | _ => exact agrees_unexpected _ (some _) rfl

theorem agrees_parseBody {expected : String} {width : ℕ}
    {element : Token → Option (Except ParseError α)}
    (fuel : ℕ) (p : Place) :
    Agrees Prod.mk ((parseBody limits typePos declared fuel expected width element).run p)
      (Sml.parseBody limits typePos declared expected width element p.cursor) :=
  agrees_check fun _ => agrees_tokenLoop size_bodyTurn agrees_bodyStep fuel p ([], 0)

theorem agrees_parseAsciiBody (fuel : ℕ) (p : Place) :
    Agrees Prod.mk ((parseAsciiBody limits typePos declared fuel).run p)
      (Sml.parseAsciiBody limits typePos declared p.cursor) := by
  refine agrees_check fun _ => ?_
  refine agrees_bind (agrees_tokenLoop size_asciiTurn agrees_asciiStep fuel p
    ([], 0)) fun bytes p' => ?_
  dsimp only
  unfold asciiText
  split
  · rfl
  · rfl

/-! ### Items -/

theorem agrees_parseDeclaredCount (p : Place) :
    Agrees Prod.mk (parseDeclaredCount.run p) (Sml.parseDeclaredCount p.cursor) := by
  refine agrees_peek fun found p' => ?_
  rcases found with _ | ⟨kind, pos⟩
  · rfl
  · cases kind with
    | lBracket =>
      refine agrees_next fun _ p₂ => agrees_next fun found p₃ => ?_
      rcases found with _ | ⟨kind, pos⟩
      · rfl
      · cases kind with
        | int value hex text =>
          cases hex with
          | true => rfl
          | false =>
            refine agrees_check fun _ => agrees_next fun found p₄ => ?_
            rcases found with _ | ⟨kind, pos⟩
            · exact agrees_unexpected _ none rfl
            · cases kind with
              | rBracket => rfl
              | _ => exact agrees_unexpected _ (some _) rfl
        | _ => rfl
    | _ => rfl

/-- What has been started, in the state that the parser keeps with it. -/
def started (limits : DecodeLimits) (nodeCount : ℕ) (item : Started OpenedList SecsItem)
    (c : TokenCursor) :
    Started OpenedList SecsItem × ItemCursor :=
  (item, ⟨c, limits, nodeCount⟩)

variable {nodeCount : ℕ}

theorem agrees_finished {item : α → SecsItem} {r : Reading α}
    {body : TokenCursor → Except ParseError (α × TokenCursor)}
    (h : ∀ p, Agrees Prod.mk (r.run p) (body p.cursor)) (p : Place) :
    Agrees (started limits nodeCount) ((finished item r).run p)
      (ItemCursor.finished ⟨p.cursor, limits, nodeCount⟩ item body) :=
  agrees_bind (h p) fun _ _ => rfl

theorem agrees_startBody (fuel : ℕ) (kind : ItemKind) (p : Place) :
    Agrees (started limits nodeCount) ((startBody limits fuel typePos declared kind).run p)
      (ItemCursor.startBody ⟨p.cursor, limits, nodeCount⟩ typePos declared kind) := by
  cases kind with
  | list => exact agrees_check fun _ => rfl
  | ascii => exact agrees_finished (agrees_parseAsciiBody fuel) p
  | _ => exact agrees_finished (agrees_parseBody fuel) p

theorem agrees_parseOneItem (fuel : ℕ) (stack : ListStack) (p : Place) :
    Agrees (started limits (saturatingAdd nodeCount 1))
      ((parseOneItem limits fuel stack nodeCount).run p)
      (ItemCursor.parseOneItem stack ⟨p.cursor, limits, nodeCount⟩) := by
  refine agrees_next fun found p' => ?_
  rcases found with _ | ⟨kind, pos⟩
  · exact agrees_unexpected _ none rfl
  · cases kind with
    | lt =>
      refine agrees_check fun _ => agrees_next fun found p₂ => ?_
      rcases found with _ | ⟨kind, pos⟩
      · exact agrees_unexpected _ none rfl
      · cases kind with
        | word typeWord =>
          refine agrees_check fun kind => agrees_check fun _ => ?_
          exact agrees_bind (agrees_parseDeclaredCount p₂) fun _ p₃ => agrees_startBody fuel kind p₃
        | _ => exact agrees_unexpected _ (some _) rfl
    | _ => exact agrees_unexpected _ (some _) rfl

/-- Whether there is another child, with the state of the parser. -/
def asked (limits : DecodeLimits) (nodeCount : ℕ) (more : Bool) (c : TokenCursor) :
    Bool × ItemCursor :=
  (more, ⟨c, limits, nodeCount⟩)

theorem agrees_nextChild (frame : Frame OpenedList SecsItem) (stack : ListStack) (p : Place) :
    Agrees (asked limits nodeCount) ((nextChild limits frame).run p)
      (ItemCursor.nextChild frame stack ⟨p.cursor, limits, nodeCount⟩) := by
  refine agrees_check fun _ => agrees_peek fun found p' => ?_
  rcases found with _ | ⟨kind, pos⟩
  · exact agrees_unexpected _ none rfl
  · cases kind with
    | lt => exact agrees_check fun _ => rfl
    | gt => exact agrees_next fun _ _ => agrees_check fun _ => rfl
    | _ => exact agrees_unexpected _ (some _) rfl

/-- How far a delivery has got, with the state of the parser. -/
def settled (limits : DecodeLimits) (nodeCount : ℕ) (outcome : SecsItem ⊕ ListStack)
    (c : TokenCursor) :
    Settled ItemCursor OpenedList SecsItem :=
  match outcome with
  | .inl item => .root item ⟨c, limits, nodeCount⟩
  | .inr stack => .more stack ⟨c, limits, nodeCount⟩

theorem agrees_settle : ∀ (stack : ListStack) (frame : Frame OpenedList SecsItem) (p : Place),
    Agrees (settled limits nodeCount) ((settle limits frame stack).run p)
      (ItemCursor.reader.settle frame stack ⟨p.cursor, limits, nodeCount⟩) := by
  intro stack
  induction stack with
  | nil =>
    intro frame p
    unfold settle
    refine agrees_of_bind (agrees_nextChild frame [] p)
      (fun e he => FrameReader.settle_error he) fun more p' hmore => ?_
    cases more with
    | true =>
      rw [FrameReader.settle_more hmore]
      rfl
    | false =>
      rw [FrameReader.settle_close hmore]
      rfl
  | cons parent stack ih =>
    intro frame p
    unfold settle
    refine agrees_of_bind (agrees_nextChild frame (parent :: stack) p)
      (fun e he => FrameReader.settle_error he) fun more p' hmore => ?_
    cases more with
    | true =>
      rw [FrameReader.settle_more hmore]
      rfl
    | false =>
      rw [FrameReader.settle_close hmore]
      exact ih (parent.push (.list frame.children)) p'

theorem agrees_attach (limits : DecodeLimits) (nodeCount : ℕ) (item : Started OpenedList SecsItem)
    (stack : ListStack) (p : Place) :
    Agrees (settled limits nodeCount) ((attach limits item stack).run p)
      (ItemCursor.reader.attach stack (started limits nodeCount item p.cursor)) := by
  cases item with
  | leaf item =>
    cases stack with
    | nil => rfl
    | cons frame stack => exact agrees_settle stack (frame.push item) p
  | opened header => exact agrees_settle stack ⟨header, []⟩ p

/-- The loop of the parser, as far as the fuel goes. -/
theorem agrees_itemLoop (bodyFuel : ℕ) {result : Except ParseError (SecsItem × ItemCursor)} :
    ∀ (fuel : ℕ) (stack : ListStack) (nodeCount : ℕ) (p : Place),
      (∀ r, ItemCursor.reader.run fuel stack ⟨p.cursor, limits, nodeCount⟩ = some r → r = result) →
      Agrees Prod.mk ((itemLoop limits bodyFuel fuel stack nodeCount).run p)
        (result.map fun (item, s) => (item, s.tokens)) := by
  intro fuel
  induction fuel with
  | zero => exact fun stack nodeCount p h => trivial
  | succ fuel ih =>
    intro stack nodeCount p h
    unfold itemLoop
    refine agrees_of_bind (agrees_parseOneItem bodyFuel stack p)
      (fun e he => ?_) fun item p₁ hitem => ?_
    · obtain rfl := h _ (FrameReader.run_error he)
      rfl
    · replace h : ∀ r, ItemCursor.reader.resume fuel (ItemCursor.reader.attach stack
          (started limits (saturatingAdd nodeCount 1) item p₁.cursor)) = some r → r = result :=
        fun r hr => h r ((FrameReader.run_start hitem).trans hr)
      have hattach := agrees_attach limits (saturatingAdd nodeCount 1) item stack p₁
      refine agrees_of_bind hattach (fun e he => ?_) fun outcome p₂ houtcome => ?_
      · rw [he] at h
        obtain rfl := h _ rfl
        rfl
      · rw [houtcome] at h
        cases outcome with
        | inl item =>
          obtain rfl := h _ rfl
          rfl
        | inr stack => exact ih stack _ p₂ h

theorem agrees_parseRootItem (fuel : ℕ) (p : Place) :
    Agrees Prod.mk ((parseRootItem limits fuel).run p)
      ((ItemCursor.new p.cursor limits).parseRootItem.map fun (item, s) => (item, s.tokens)) := by
  refine agrees_itemLoop fuel fuel [] 0 p fun r hr => ?_
  have hreal : ItemCursor.reader.run (p.cursor.size + 1) [] ⟨p.cursor, limits, 0⟩ =
      some (ItemCursor.new p.cursor limits).parseRootItem := (Option.some_get _).symm
  have hmore := FrameReader.run_mono (p.cursor.size + 1) hr
  rw [Nat.add_comm, FrameReader.run_mono fuel hreal] at hmore
  exact (Option.some.inj hmore).symm

/-- The root item, and what follows it. -/
theorem agrees_rootItem {β δ : Type} {out : β → TokenCursor → δ} {fuel : ℕ} {p : Place}
    {f : SecsItem → Reading β} {g : SecsItem × ItemCursor → Except ParseError δ}
    (h : ∀ item p' items, items.tokens = p'.cursor → Agrees out ((f item).run p')
      (g (item, items))) :
    Agrees out ((parseRootItem limits fuel >>= f).run p)
      ((ItemCursor.new p.cursor limits).parseRootItem >>= g) := by
  refine agrees_of_bind (agrees_parseRootItem fuel p) (fun e he => ?_) fun item p' hitem => ?_
  · cases hroot : (ItemCursor.new p.cursor limits).parseRootItem with
    | error e' =>
      rw [hroot] at he
      cases he
      rfl
    | ok result => rw [hroot] at he; cases he
  · cases hroot : (ItemCursor.new p.cursor limits).parseRootItem with
    | error e' => rw [hroot] at hitem; cases hitem
    | ok result =>
      rw [hroot] at hitem
      obtain ⟨rfl, htokens⟩ := Prod.mk.inj (Except.ok.inj hitem)
      exact h result.1 p' result.2 htokens

/-! ### Entry points -/

/-- Behind the last item there is the end, or an error. -/
theorem agrees_finish {α γ : Type} {out : α → TokenCursor → γ} {input : Text} {f : Unit → Reading α}
    {p : Place} {x : Except ParseError γ} (h : ∀ p, Agrees out ((f ()).run p) x) :
    Agrees out ((finish input >>= f).run p) (do
      let (found, _) ← p.cursor.peek
      match found with
      | some token => .error (.trailingInput token.pos (trailingPreview input token.pos))
      | none => x) := by
  refine agrees_peek fun found p' => ?_
  cases found with
  | some token => rfl
  | none => exact h p'

theorem agrees_parseItem (fuel : ℕ) (input : Text) :
    Agrees (fun item _ => item) ((parseItem limits fuel input).run (.first input))
      (Sml.parseItem limits input) := by
  refine agrees_rootItem fun item p' items hitems => ?_
  dsimp only
  rw [hitems]
  exact agrees_finish fun _ => rfl

theorem agrees_parseWaitBit (p : Place) :
    Agrees Prod.mk (parseWaitBit.run p) (Sml.parseWaitBit p.cursor) := by
  refine agrees_peek fun found p' => ?_
  dsimp only
  split
  · exact agrees_next fun _ _ => rfl
  · rfl

theorem agrees_parseMessageBody (fuel : ℕ) (p : Place) :
    Agrees Prod.mk ((parseMessageBody limits fuel).run p)
      (Sml.parseMessageBody limits p.cursor) := by
  refine agrees_peek fun found p' => ?_
  rcases found with _ | ⟨kind, pos⟩
  · rfl
  · cases kind with
    | lt =>
      refine agrees_rootItem fun item p₂ items hitems => ?_
      dsimp only
      rw [hitems]
      rfl
    | _ => rfl

theorem agrees_parseTerminator (hasBody : Bool) (p : Place) :
    Agrees (fun _ c => c) ((parseTerminator hasBody).run p)
      (Sml.parseTerminator hasBody p.cursor) := by
  refine agrees_next fun found p' => ?_
  cases found with
  | none => rfl
  | some token =>
    obtain ⟨kind, pos⟩ := token
    cases kind with
    | dot => rfl
    | _ => exact agrees_unexpected _ (some _) rfl

theorem agrees_parseMessage (fuel : ℕ) (input : Text) :
    Agrees (fun message _ => message) ((parseMessage limits fuel input).run (.first input))
      (Sml.parseMessage limits input) := by
  refine agrees_next fun found p₁ => ?_
  rcases found with _ | ⟨kind, headerPos⟩
  · exact agrees_unexpected _ none rfl
  · cases kind with
    | word headerWord =>
      dsimp only
      cases parseHeaderWord headerWord with
      | none => rfl
      | some header =>
        refine agrees_check fun _ => agrees_check fun _ => ?_
        refine agrees_bind (agrees_parseWaitBit p₁) fun waitBit p₂ => ?_
        refine agrees_bind (agrees_parseMessageBody fuel p₂) fun body p₃ => ?_
        refine agrees_bind (agrees_parseTerminator body.isSome p₃) fun _ p₄ => ?_
        refine agrees_finish fun p₅ => ?_
        unfold message
        split
        · rfl
        · rfl
    | _ => exact agrees_unexpected _ (some _) rfl

/-! ### Fuel -/

theorem lasts_tokenLoop {τ : Type} {expected : String} {step : τ → Token → Reading (Turn τ α)}
    (hstep : ∀ t token n, (step t token).Lasts n) (fuel : ℕ) :
    ∀ t, (tokenLoop expected step fuel t).Lasts fuel := by
  induction fuel with
  | zero => exact fun t => rfl
  | succ fuel ih =>
    refine fun t => ⟨fun token => Lasts.bind (hstep t token _) fun outcome => ?_, trivial⟩
    cases outcome with
    | next t => exact ih t
    | done result => trivial

theorem lasts_bodyStep {expected : String} {width : ℕ}
    {element : Token → Option (Except ParseError α)}
    (s : List α × ℕ) (token : Token) (n : ℕ) :
    (bodyStep limits typePos declared expected width element s token).Lasts n := by
  unfold bodyStep
  split
  · exact Lasts.bind (lasts_check _ n) fun _ => trivial
  · cases element token with
    | some converted =>
      exact Lasts.bind (lasts_check _ n) fun _ => Lasts.bind (lasts_check _ n) fun _ => trivial
    | none => trivial

theorem lasts_asciiStep (s : List UInt8 × ℕ) (token : Token) (n : ℕ) :
    (asciiStep limits typePos declared s token).Lasts n := by
  unfold asciiStep
  split
  · exact Lasts.bind (lasts_check _ n) fun _ => trivial
  · exact Lasts.bind (lasts_check _ n) fun _ => trivial
  · exact Lasts.bind (lasts_check _ n) fun _ => Lasts.bind (lasts_check _ n) fun _ => trivial
  · trivial

theorem lasts_parseBody {expected : String} {width : ℕ}
    {element : Token → Option (Except ParseError α)}
    (fuel : ℕ) : (parseBody limits typePos declared fuel expected width element).Lasts fuel :=
  Lasts.bind (lasts_check _ fuel) fun _ => lasts_tokenLoop lasts_bodyStep fuel _

theorem lasts_parseAsciiBody (fuel : ℕ) :
    (parseAsciiBody limits typePos declared fuel).Lasts fuel :=
  Lasts.bind (lasts_check _ fuel) fun _ =>
    Lasts.bind (lasts_tokenLoop lasts_asciiStep fuel _) fun _ => lasts_check _ fuel

theorem lasts_parseDeclaredCount (n : ℕ) : parseDeclaredCount.Lasts n := by
  refine Lasts.bind (lasts_peek n) fun found => ?_
  split
  · refine Lasts.bind (lasts_next n) fun _ => Lasts.bind (lasts_next n) fun found => ?_
    split
    · refine Lasts.bind (lasts_check _ n) fun _ => Lasts.bind (lasts_next n) fun found => ?_
      split
      · trivial
      · trivial
    · trivial
  · trivial

theorem lasts_startBody (fuel : ℕ) (kind : ItemKind) :
    (startBody limits fuel typePos declared kind).Lasts fuel := by
  cases kind with
  | list => exact Lasts.bind (lasts_check _ fuel) fun _ => trivial
  | ascii => exact Lasts.bind (lasts_parseAsciiBody fuel) fun _ => trivial
  | _ => exact Lasts.bind (lasts_parseBody fuel) fun _ => trivial

theorem lasts_nextChild (frame : Frame OpenedList SecsItem) (n : ℕ) :
    (nextChild limits frame).Lasts n := by
  refine Lasts.bind (lasts_check _ n) fun _ => Lasts.bind (lasts_peek n) fun found => ?_
  split
  · exact Lasts.bind (lasts_check _ n) fun _ => trivial
  · exact Lasts.bind (lasts_next n) fun _ => Lasts.bind (lasts_check _ n) fun _ => trivial
  · trivial

theorem lasts_settle (n : ℕ) : ∀ (stack : ListStack) (frame : Frame OpenedList SecsItem),
    (settle limits frame stack).Lasts n := by
  intro stack
  induction stack with
  | nil =>
    refine fun frame => Lasts.bind (lasts_nextChild frame n) fun more => ?_
    cases more <;> trivial
  | cons parent stack ih =>
    refine fun frame => Lasts.bind (lasts_nextChild frame n) fun more => ?_
    cases more with
    | true => trivial
    | false => exact ih _

theorem lasts_attach (item : Started OpenedList SecsItem) (stack : ListStack) (n : ℕ) :
    (attach limits item stack).Lasts n := by
  cases item with
  | leaf item =>
    cases stack with
    | nil => trivial
    | cons frame stack => exact lasts_settle n stack _
  | opened header => exact lasts_settle n stack _

/-- Every item takes its opening bracket. -/
theorem lasts_itemLoop {bodyFuel : ℕ} (fuel : ℕ) : ∀ (stack : ListStack) (nodeCount : ℕ),
    fuel ≤ bodyFuel → (itemLoop limits bodyFuel fuel stack nodeCount).Lasts fuel := by
  induction fuel with
  | zero => exact fun stack nodeCount _ => rfl
  | succ fuel ih =>
    intro stack nodeCount hfuel
    have hless : fuel ≤ bodyFuel := Nat.le_of_succ_le hfuel
    refine ⟨fun token => Lasts.bind (n := fuel) ?_ fun item =>
      Lasts.bind (lasts_attach item stack _)
      fun outcome => ?_, trivial⟩
    · show ((done (some token)).bind _).Lasts fuel
      refine Lasts.bind (show (done (some token)).Lasts fuel from trivial) fun found => ?_
      split
      · refine Lasts.bind (lasts_check _ _) fun _ => Lasts.bind (lasts_next _) fun found => ?_
        split
        · refine Lasts.bind (lasts_check _ _) fun kind => Lasts.bind (lasts_check _ _) fun _ => ?_
          refine Lasts.bind (lasts_parseDeclaredCount _) fun declared => ?_
          exact (lasts_startBody bodyFuel kind).mono hless
        · trivial
      · trivial
    · cases outcome with
      | inl item => trivial
      | inr stack => exact ih stack _ hless

theorem lasts_parseRootItem (fuel : ℕ) : (parseRootItem limits fuel).Lasts fuel :=
  lasts_itemLoop fuel [] 0 (le_refl fuel)

theorem lasts_finish (input : Text) (n : ℕ) : (finish input).Lasts n := by
  refine Lasts.bind (lasts_peek n) fun found => ?_
  cases found <;> trivial

theorem lasts_parseItem (fuel : ℕ) (input : Text) : (parseItem limits fuel input).Lasts fuel :=
  Lasts.bind (lasts_parseRootItem fuel) fun _ => Lasts.bind (lasts_finish input fuel) fun _ =>
    trivial

theorem lasts_parseMessage (fuel : ℕ) (input : Text) :
    (parseMessage limits fuel input).Lasts fuel := by
  refine Lasts.bind (lasts_next fuel) fun found => ?_
  split
  · split
    · trivial
    · refine Lasts.bind (lasts_check _ fuel) fun _ => Lasts.bind (lasts_check _ fuel) fun _ => ?_
      refine Lasts.bind (Lasts.bind (lasts_peek fuel) fun found => ?_) fun waitBit => ?_
      · split
        · exact Lasts.bind (lasts_next fuel) fun _ => trivial
        · trivial
      refine Lasts.bind (Lasts.bind (lasts_peek fuel) fun found => ?_) fun body => ?_
      · split
        · exact Lasts.bind (lasts_parseRootItem fuel) fun _ => trivial
        · trivial
      refine Lasts.bind (Lasts.bind (lasts_next fuel) fun found => ?_) fun _ => ?_
      · split <;> trivial
      exact Lasts.bind (lasts_finish input fuel) fun _ => lasts_check _ fuel
  · trivial

end

end Traced

end Sml
end SecsRust

import SecsRust.Lib.Frames
import SecsRust.Secs2.Codec.Grammar

/-!
# The functions of the decoder

`secs2/codec/decode.rs`: `note_node`, `read_header`, `check_list_limits` and `decode_scalar` read
the input and the limits of a `DecodeCursor` and move three counters of it.  They are defined once,
for a `DecodeTask` (what is decoded, under which limits, on which target) and a `DecodePosition`
(the counters).  `DecodeTask.startItem`, the second phase of the loop, puts them together; how a
payload is decoded and what becomes of an error is its parameter, a `PayloadDecoder`.  The decoder
itself (`DecodeCursor`) and the loop with everything that could go wrong in it (`DecodeLoop`) are
two instances.

Every limit is checked as soon as a header shows it: the item count when a header is accepted, and
for a List its declared children, the items they need at least, and the depth they are at.

What each function has done when it succeeds is one lemma (`readHeader_ok`, `noteNode_ok`,
`takeBody_ok`, `startItem_ok`), on every target.  That it does succeed needs that no sum leaves the
`usize`, which holds of every slice and of all limits on their own target
(`DecodeTask.Addressable`); the lemmas that end in `_of` say so.
-/

namespace SecsRust
namespace Secs2

/-- `DecodeError`: every error names the offset of the header, or of the end, that it is about. -/
inductive DecodeError where
  | emptyInput
  | truncatedHeader (offset : ℕ)
  | zeroLengthByteCount (offset : ℕ)
  | truncatedBody (offset declaredBytes availableBytes : ℕ)
  | truncatedList (offset expectedChildren decodedChildren : ℕ)
  | unknownFormatCode (offset : ℕ) (formatCode : UInt8)
  | misalignedNumericPayload (offset : ℕ) (formatCode : UInt8) (bodyLen elemWidth : ℕ)
  | missingLocalizedHeader (offset : ℕ)
  | reservedLocalizedEncodingCode (offset : ℕ)
  | nonAscii (offset index : ℕ) (byte : UInt8)
  | trailingBytes (consumed total : ℕ)
  | depthExceeded (offset depth maxDepth : ℕ)
  | totalItemsExceeded (offset requiredItems maxTotalItems : ℕ)
  | itemBytesExceeded (offset declared maxItemBytes : ℕ)
  | listItemsExceeded (offset declared maxListItems : ℕ)
  | arithmeticOverflow (offset : ℕ)
  deriving DecidableEq

/-- What a `ListFrame` knows of its List; its children are in the `Frame`. -/
structure ListHeader where
  headerOffset : ℕ
  expectedChildren : ℕ

/-- The counters of `DecodeCursor`: the bytes read, the open Lists, and the accepted items. -/
structure DecodePosition where
  cursor : ℕ
  depth : ℕ
  acceptedNodes : ℕ

/-- What a decoder decodes, under which limits and on which target.  It does not change while the
decoder runs; what changes is a `DecodePosition`. -/
structure DecodeTask where
  target : Target
  input : List UInt8
  limits : LimitValues

/-- How a decoder reads the payload of a scalar, and what it makes of an error.  The two decoders
differ in nothing else: one has only ordinary errors, the other can also panic. -/
structure PayloadDecoder (ε : Type) where
  body : ℕ → List UInt8 → FormatCode → Except ε SecsItem
  fail : DecodeError → ε

/-- The open Lists, innermost first. -/
abbrev ListStack := List (Frame ListHeader SecsItem)

/-- The position after so many more bytes and accepted items. -/
def DecodePosition.after (p : DecodePosition) (bytes nodes : ℕ) : DecodePosition :=
  { p with cursor := p.cursor + bytes, acceptedNodes := p.acceptedNodes + nodes }

/-! ## The functions of the cursor -/

/-- The alignment check of a numeric payload. -/
def checkAlignment (headerOffset : ℕ) (formatCode : FormatCode) (bodyLen : ℕ) :
    Except DecodeError Unit :=
  match formatCode.elementWidth with
  | none => .ok ()
  | some elemWidth =>
    if bodyLen % elemWidth = 0 then .ok ()
    else .error (.misalignedNumericPayload headerOffset formatCode.sixBitValue bodyLen elemWidth)

namespace DecodeTask

section

variable (task : DecodeTask)

/-- The bytes that have not been read. -/
def rest (p : DecodePosition) : List UInt8 := task.input.drop p.cursor

/-- `note_node`: counts an item before anything else is known of it.  The limit is checked first,
so that a rejected item has not been counted. -/
def noteNode (p : DecodePosition) (headerOffset : ℕ) : Except DecodeError DecodePosition :=
  match task.target.checkedAdd p.acceptedNodes 1 with
  | none => .error (.arithmeticOverflow headerOffset)
  | some next =>
    if next > task.limits.maxTotalItems then
      .error (.totalItemsExceeded headerOffset next task.limits.maxTotalItems)
    else .ok { p with acceptedNodes := next }

/-- One turn of the loop over the length bytes. -/
def shiftIn (declaredLength : ℕ) (byte : UInt8) : Option ℕ :=
  match task.target.checkedShl declaredLength 8 with
  | none => none
  | some shifted => task.target.checkedAdd shifted byte.toNat

/-- `read_header`: the format code and the declared length.  Two bytes at least; the length bytes
are shifted in one by one, as the source does, and not read as a number. -/
def readHeader (p : DecodePosition) : Except DecodeError ((FormatCode × ℕ) × DecodePosition) :=
  match task.input[p.cursor]? with
  | none => .error (.truncatedHeader p.cursor)
  | some formatByte =>
    match LengthByteCount.fromLowBits (formatByte &&& 0b00000011) with
    | none => .error (.zeroLengthByteCount p.cursor)
    | some count =>
      match FormatCode.fromSixBit (formatByte >>> 2) with
      | none => .error (.unknownFormatCode p.cursor (formatByte >>> 2))
      | some formatCode =>
        match task.target.checkedAdd (p.cursor + 1) count.asCount with
        | none => .error (.arithmeticOverflow p.cursor)
        | some lengthBytesEnd =>
          if lengthBytesEnd > task.input.length then .error (.truncatedHeader p.cursor)
          else
            let lengthBytes := (task.input.drop (p.cursor + 1)).take count.asCount
            match lengthBytes.foldlM task.shiftIn 0 with
            | none => .error (.arithmeticOverflow p.cursor)
            | some declaredLength =>
              .ok ((formatCode, declaredLength), { p with cursor := lengthBytesEnd })

/-- `check_list_limits`: the declared children, the items that they will need at least, and the
depth that they will be at. -/
def checkListLimits (p : DecodePosition) (headerOffset declaredChildren : ℕ) :
    Except DecodeError Unit :=
  if declaredChildren > task.limits.maxListItems then
    .error (.listItemsExceeded headerOffset declaredChildren task.limits.maxListItems)
  else
    match task.target.checkedAdd p.acceptedNodes declaredChildren with
    | none => .error (.arithmeticOverflow headerOffset)
    | some requiredItems =>
      if requiredItems > task.limits.maxTotalItems then
        .error (.totalItemsExceeded headerOffset requiredItems task.limits.maxTotalItems)
      else
        match task.target.checkedAdd p.depth 1 with
        | none => .error (.arithmeticOverflow headerOffset)
        | some nextDepth =>
          if nextDepth > task.limits.maxDepth then
            .error (.depthExceeded headerOffset nextDepth task.limits.maxDepth)
          else .ok ()

/-- `decode_scalar`, up to the payload that it then decodes.  The order of the checks is the
limit on the bytes, the end of the input, and the alignment. -/
def takeBody (p : DecodePosition) (headerOffset : ℕ) (formatCode : FormatCode) (bodyLen : ℕ) :
    Except DecodeError (List UInt8 × DecodePosition) :=
  if bodyLen > task.limits.maxItemBytes then
    .error (.itemBytesExceeded headerOffset bodyLen task.limits.maxItemBytes)
  else
    match task.target.checkedAdd p.cursor bodyLen with
    | none => .error (.arithmeticOverflow headerOffset)
    | some bodyEnd =>
      if bodyEnd > task.input.length then
        .error (.truncatedBody headerOffset bodyLen (task.input.length - p.cursor))
      else
        match checkAlignment headerOffset formatCode bodyLen with
        | .error e => .error e
        | .ok () => .ok ((task.rest p).take bodyLen, { p with cursor := bodyEnd })

/-- The header that an open List or the root waits for; input that ends where an open List expects
another child is reported against that List. -/
def nextHeader (stack : ListStack) (p : DecodePosition) :
    Except DecodeError ((FormatCode × ℕ) × DecodePosition) :=
  match task.readHeader p with
  | .error (.truncatedHeader offset) =>
    if offset = task.input.length then
      match stack with
      | frame :: _ => .error (.truncatedList frame.header.headerOffset
          frame.header.expectedChildren frame.children.length)
      | [] => .error (.truncatedHeader offset)
    else .error (.truncatedHeader offset)
  | .error e => .error e
  | .ok parsed => .ok parsed

variable {ε : Type} (payloads : PayloadDecoder ε)

/-- `decode_scalar`: the bytes of the payload first, then what they hold. -/
def decodeScalar (p : DecodePosition) (headerOffset : ℕ) (formatCode : FormatCode) (bodyLen : ℕ) :
    Except ε (SecsItem × DecodePosition) :=
  match task.takeBody p headerOffset formatCode bodyLen with
  | .error e => .error (payloads.fail e)
  | .ok (body, p) =>
    match payloads.body headerOffset body formatCode with
    | .error fault => .error fault
    | .ok item => .ok (item, p)

/-- What an accepted header starts: a scalar and an empty List are complete, another List is open.
-/
def startBody (p : DecodePosition) (headerOffset : ℕ) (formatCode : FormatCode)
    (declaredLength : ℕ) :
    Except ε (Started ListHeader SecsItem × DecodePosition) :=
  if formatCode = .list then
    match task.checkListLimits p headerOffset declaredLength with
    | .error e => .error (payloads.fail e)
    | .ok () =>
      if declaredLength = 0 then .ok (.leaf (.list []), p)
      else
        match task.target.checkedAdd p.depth 1 with
        | none => .error (payloads.fail (.arithmeticOverflow headerOffset))
        | some depth => .ok (.opened ⟨headerOffset, declaredLength⟩, { p with depth := depth })
  else
    match task.decodeScalar payloads p headerOffset formatCode declaredLength with
    | .error fault => .error fault
    | .ok (item, p) => .ok (.leaf item, p)

/-- The second phase of the loop: one header, and the payload of a scalar. -/
def startItem (stack : ListStack) (p : DecodePosition) :
    Except ε (Started ListHeader SecsItem × DecodePosition) :=
  match task.nextHeader stack p with
  | .error e => .error (payloads.fail e)
  | .ok ((formatCode, declaredLength), read) =>
    match task.noteNode read p.cursor with
    | .error e => .error (payloads.fail e)
    | .ok noted => task.startBody payloads noted p.cursor formatCode declaredLength

end

end DecodeTask

/-! ## Payloads -/

namespace DecodeCursor

/-- `decode_localized`: two bytes of encoding in front of an uninterpreted rest. -/
def decodeLocalized (headerOffset : ℕ) : List UInt8 → Except DecodeError SecsItem
  | high :: low :: payload =>
    let encodingValue := Element.u16.fromBeBytes [high, low]
    if h : encodingValue = 0 then .error (.reservedLocalizedEncodingCode headerOffset)
    else .ok (.localized ⟨⟨encodingValue, h⟩, payload⟩)
  | _ => .error (.missingLocalizedHeader headerOffset)

/-- The item of a payload, once its length has been checked. -/
def decodeBody (headerOffset : ℕ) (body : List UInt8) : FormatCode → Except DecodeError SecsItem
  -- `unreachable!` in the source: the loop does not come here with a List
  | .list => .ok (.list [])
  | .binary => .ok (.binary body)
  | .boolean => .ok (.boolean (body.map fun byte => byte != 0))
  | .ascii =>
    if h : allAscii body then .ok (.ascii ⟨body, ascii_of_allAscii h⟩)
    else
      let index := body.findIdx fun byte => decide (¬ byte < 128)
      .error (.nonAscii headerOffset index (body.getD index 0))
  | .jis8 => .ok (.jis8 body)
  | .localized => decodeLocalized headerOffset body
  | .i8 => .ok (.i8 (Element.i64.read body))
  | .i1 => .ok (.i1 (body.map UInt8.toInt8))
  | .i2 => .ok (.i2 (Element.i16.read body))
  | .i4 => .ok (.i4 (Element.i32.read body))
  | .f8 => .ok (.f8 (Element.u64.read body))
  | .f4 => .ok (.f4 (Element.u32.read body))
  | .u8 => .ok (.u8 (Element.u64.read body))
  | .u1 => .ok (.u1 body)
  | .u2 => .ok (.u2 (Element.u16.read body))
  | .u4 => .ok (.u4 (Element.u32.read body))

/-- The payloads of the decoder, which unwraps nothing that could be missing. -/
def payloads : PayloadDecoder DecodeError := ⟨decodeBody, id⟩

end DecodeCursor

/-! ## What a step reads -/

namespace DecodePosition

variable (p : DecodePosition)

@[simp] theorem after_cursor (bytes nodes : ℕ) : (p.after bytes nodes).cursor = p.cursor + bytes :=
  rfl

@[simp] theorem after_depth (bytes nodes : ℕ) : (p.after bytes nodes).depth = p.depth := rfl

@[simp] theorem after_acceptedNodes (bytes nodes : ℕ) :
    (p.after bytes nodes).acceptedNodes = p.acceptedNodes + nodes := rfl

@[simp] theorem after_after (bytes nodes bytes' nodes' : ℕ) :
    (p.after bytes nodes).after bytes' nodes' = p.after (bytes + bytes') (nodes + nodes') := by
  simp only [after, Nat.add_assoc]

end DecodePosition

namespace DecodeTask

/-- The length of the input and the limit of the items are `usize`s.  It holds of everything that
a target can hand to the decoder, and keeps every addition of the decoder below overflow. -/
structure Addressable (task : DecodeTask) : Prop where
  input : task.input.length ≤ task.target.usizeMax
  total : task.limits.maxTotalItems ≤ task.target.usizeMax

section

variable {task : DecodeTask} {p p' : DecodePosition}

theorem rest_after (bytes nodes : ℕ) : task.rest (p.after bytes nodes) = (task.rest p).drop bytes :=
  List.drop_drop.symm

/-- What is read is in the input. -/
theorem cursor_add_le {bytes : List UInt8} (h : bytes <+: task.rest p) (hne : bytes ≠ []) :
    p.cursor + bytes.length ≤ task.input.length := by
  have hlength := h.length_le
  have hpos := List.length_pos_iff.mpr hne
  rw [rest, List.length_drop] at hlength
  omega

theorem noteNode_ok {headerOffset : ℕ} (h : task.noteNode p headerOffset = .ok p') :
    p.acceptedNodes + 1 ≤ task.limits.maxTotalItems ∧ p' = p.after 0 1 := by
  unfold noteNode at h
  split at h
  · cases h
  rename_i next hnext
  obtain rfl := Target.checkedAdd_eq_some hnext
  split at h
  · cases h
  rename_i hfits
  cases h
  exact ⟨Nat.le_of_not_lt hfits, rfl⟩

theorem noteNode_of {headerOffset : ℕ} (ha : task.Addressable)
    (hnodes : p.acceptedNodes + 1 ≤ task.limits.maxTotalItems) :
    task.noteNode p headerOffset = .ok (p.after 0 1) := by
  unfold noteNode
  rw [Target.checkedAdd_of_fits (hnodes.trans ha.total)]
  dsimp only
  rw [if_neg (Nat.not_lt_of_le hnodes)]
  rfl

/-- The length bytes are a big-endian number on every target. -/
theorem foldlM_shiftIn {bytes : List UInt8} (h : bytes.length ≤ 3) :
    bytes.foldlM task.shiftIn 0 = some (beValue bytes) := by
  have hwide := task.target.wide
  unfold u32Max at hwide
  induction bytes using List.reverseRecOn with
  | nil => rfl
  | append_singleton bytes byte ih =>
    rw [List.length_append, List.length_singleton] at h
    have hvalue : beValue bytes < 256 ^ 2 :=
      Nat.lt_of_lt_of_le (beValue_lt bytes) (Nat.pow_le_pow_right (by decide) (by omega))
    have hbyte := byte.toNat_lt
    have hshift : task.target.checkedShl (beValue bytes) 8 = some (beValue bytes * 256) := by
      unfold Target.checkedShl
      rw [if_pos (by omega), Nat.shiftLeft_eq, Nat.mod_eq_of_lt (by omega)]
    rw [List.foldlM_append, ih (by omega), beValue_concat]
    show (task.shiftIn (beValue bytes) byte).bind pure = _
    unfold shiftIn
    rw [hshift]
    dsimp only
    rw [Target.checkedAdd_of_le (by unfold u32Max; omega)]
    rfl

theorem asCount_le_three (count : LengthByteCount) : count.asCount ≤ 3 := by
  cases count <;> decide

/-- **A header is its format byte and its length bytes.**  It is the equation that ties the
reader to the grammar, in both directions. -/
theorem readHeader_ok {code : FormatCode} {declared : ℕ}
    (h : task.readHeader p = .ok ((code, declared), p')) : ∃ count : LengthByteCount,
      declared < 256 ^ count.asCount ∧ headerBytes code count declared <+: task.rest p ∧
        p' = p.after (count.asCount + 1) 0 := by
  unfold readHeader at h
  cases hbyte : task.input[p.cursor]? with
  | none => rw [hbyte] at h; cases h
  | some formatByte =>
    obtain ⟨hlt, hget⟩ := List.getElem?_eq_some_iff.mp hbyte
    have hrest : task.rest p = formatByte :: task.input.drop (p.cursor + 1) := by
      rw [rest, List.drop_eq_getElem_cons hlt, hget]
    rw [hbyte] at h
    dsimp only at h
    split at h
    · cases h
    rename_i count hcount
    split at h
    · cases h
    rename_i formatCode hcode
    split at h
    · cases h
    rename_i stop hstop
    obtain rfl := Target.checkedAdd_eq_some hstop
    split at h
    · cases h
    rename_i hfits
    have hlength : ((task.input.drop
        (p.cursor + 1)).take count.asCount).length = count.asCount := by
      rw [List.length_take, List.length_drop]
      omega
    rw [foldlM_shiftIn (hlength.trans_le (asCount_le_three count))] at h
    cases h
    refine ⟨count, ?_, ?_, ?_⟩
    · have hvalue := beValue_lt ((task.input.drop (p.cursor + 1)).take count.asCount)
      rwa [hlength] at hvalue
    · have hback := beBytes_beValue ((task.input.drop (p.cursor + 1)).take count.asCount)
      rw [hlength] at hback
      rw [headerBytes, hback, ← LengthByteCount.formatByte_eq_iff.mpr ⟨hcode, hcount⟩, hrest]
      exact List.cons_prefix_cons.mpr ⟨rfl, List.take_prefix _ _⟩
    · simp [DecodePosition.after, Nat.add_assoc, Nat.add_comm 1]

theorem readHeader_of {code : FormatCode} {count : LengthByteCount} {declared : ℕ}
    (ha : task.Addressable) (hvalue : declared < 256 ^ count.asCount)
    (hpre : headerBytes code count declared <+: task.rest p) :
    task.readHeader p = .ok ((code, declared), p.after (count.asCount + 1) 0) := by
  have hlength := cursor_add_le hpre (List.cons_ne_nil _ _)
  rw [length_headerBytes] at hlength
  obtain ⟨tail, htail⟩ := hpre
  have hlt : p.cursor < task.input.length := by omega
  rw [rest, List.drop_eq_getElem_cons hlt, headerBytes, List.cons_append] at htail
  obtain ⟨hbyte, hdrop⟩ := List.cons.inj htail
  obtain ⟨hcode, hcount⟩ := LengthByteCount.formatByte_eq_iff.mp hbyte.symm
  have htake : (task.input.drop (p.cursor + 1)).take count.asCount =
      beBytes count.asCount declared := by
    rw [← hdrop, List.take_append_of_le_length (by simp), List.take_of_length_le (by simp)]
  have hcountle : (beBytes count.asCount declared).length ≤ 3 := by
    rw [length_beBytes]
    exact asCount_le_three count
  have hmax := ha.input
  unfold readHeader
  rw [List.getElem?_eq_getElem hlt]
  dsimp only
  rw [hcount, hcode]
  dsimp only
  rw [Target.checkedAdd_of_fits (by omega)]
  dsimp only
  rw [if_neg (by omega), htake, foldlM_shiftIn hcountle, beValue_beBytes hvalue]
  simp [DecodePosition.after, Nat.add_assoc, Nat.add_comm 1]

/-- The loop reads a header as `read_header` does; only the error of missing input differs. -/
theorem nextHeader_eq_ok {stack : ListStack} {parsed : (FormatCode × ℕ) × DecodePosition} :
    task.nextHeader stack p = .ok parsed ↔ task.readHeader p = .ok parsed := by
  unfold nextHeader
  cases h : task.readHeader p with
  | ok result => exact Iff.rfl
  | error e =>
    refine iff_of_false (fun hok => ?_) (fun h => nomatch h)
    split at hok
    · split at hok
      · split at hok <;> cases hok
      · cases hok
    · cases hok
    · rename_i hresult
      cases hresult

theorem checkListLimits_ok {headerOffset declared : ℕ}
    (h : task.checkListLimits p headerOffset declared = .ok ()) :
    declared ≤ task.limits.maxListItems ∧ p.acceptedNodes + declared ≤ task.limits.maxTotalItems ∧
      p.depth + 1 ≤ task.limits.maxDepth := by
  unfold checkListLimits at h
  split at h
  · cases h
  rename_i hlist
  split at h
  · cases h
  rename_i requiredItems hrequired
  obtain rfl := Target.checkedAdd_eq_some hrequired
  split at h
  · cases h
  rename_i htotal
  split at h
  · cases h
  rename_i nextDepth hnext
  obtain rfl := Target.checkedAdd_eq_some hnext
  split at h
  · cases h
  rename_i hdepth
  exact ⟨Nat.le_of_not_lt hlist, Nat.le_of_not_lt htotal, Nat.le_of_not_lt hdepth⟩

theorem checkListLimits_of {headerOffset declared : ℕ} (ha : task.Addressable)
    (hlist : declared ≤ task.limits.maxListItems)
    (htotal : p.acceptedNodes + declared ≤ task.limits.maxTotalItems)
    (hdepth : p.depth + 1 ≤ task.limits.maxDepth) :
    task.checkListLimits p headerOffset declared = .ok () := by
  have hsmall : maxDecodeNestingDepth ≤ u32Max := by decide
  unfold checkListLimits
  rw [if_neg (Nat.not_lt_of_le hlist), Target.checkedAdd_of_fits (htotal.trans ha.total)]
  dsimp only
  rw [if_neg (Nat.not_lt_of_le htotal),
    Target.checkedAdd_of_le (hdepth.trans (task.limits.depth_le.trans hsmall))]
  dsimp only
  rw [if_neg (Nat.not_lt_of_le hdepth)]

theorem takeBody_ok {headerOffset declared : ℕ} {code : FormatCode} {body : List UInt8}
    (h : task.takeBody p headerOffset code declared = .ok (body, p')) :
    declared ≤ task.limits.maxItemBytes ∧ p.cursor + declared ≤ task.input.length ∧
      checkAlignment headerOffset code declared = .ok () ∧ body = (task.rest p).take declared ∧
        p' = p.after declared 0 := by
  unfold takeBody at h
  split at h
  · cases h
  rename_i hbytes
  split at h
  · cases h
  rename_i bodyEnd hend
  obtain rfl := Target.checkedAdd_eq_some hend
  split at h
  · cases h
  rename_i hfits
  split at h
  · cases h
  rename_i haligned
  cases h
  exact ⟨Nat.le_of_not_lt hbytes, Nat.le_of_not_lt hfits, haligned, rfl, rfl⟩

theorem takeBody_of {headerOffset declared : ℕ} {code : FormatCode} (ha : task.Addressable)
    (hbytes : declared ≤ task.limits.maxItemBytes) (hfits : p.cursor + declared ≤ task.input.length)
    (haligned : checkAlignment headerOffset code declared = .ok ()) :
    task.takeBody p headerOffset code declared =
      .ok ((task.rest p).take declared, p.after declared 0) := by
  unfold takeBody
  rw [if_neg (Nat.not_lt_of_le hbytes), Target.checkedAdd_of_fits (hfits.trans ha.input)]
  dsimp only
  rw [if_neg (Nat.not_lt_of_le hfits), haligned]
  rfl

/-! ## One item -/

variable {ε : Type} {payloads : PayloadDecoder ε}

/-- **An item starts with a header that is counted.** -/
theorem startItem_ok {stack : ListStack} {started : Started ListHeader SecsItem × DecodePosition}
    (h : task.startItem payloads stack p = .ok started) :
    ∃ (code : FormatCode) (count : LengthByteCount) (declared : ℕ),
      declared < 256 ^ count.asCount ∧ headerBytes code count declared <+: task.rest p ∧
        p.acceptedNodes + 1 ≤ task.limits.maxTotalItems ∧
          task.startBody payloads (p.after (count.asCount + 1) 1) p.cursor code declared =
            .ok started := by
  unfold startItem at h
  split at h
  · cases h
  rename_i code declared read hheader
  obtain ⟨count, hfits, hpre, rfl⟩ := readHeader_ok (nextHeader_eq_ok.mp hheader)
  split at h
  · cases h
  rename_i noted hnoted
  obtain ⟨hnodes, rfl⟩ := noteNode_ok hnoted
  rw [DecodePosition.after_after] at h
  exact ⟨code, count, declared, hfits, hpre, hnodes, h⟩

theorem startItem_of {stack : ListStack} {code : FormatCode} {count : LengthByteCount}
    {declared : ℕ}
    (ha : task.Addressable) (hfits : declared < 256 ^ count.asCount)
    (hpre : headerBytes code count declared <+: task.rest p)
    (hnodes : p.acceptedNodes + 1 ≤ task.limits.maxTotalItems) :
    task.startItem payloads stack p =
      task.startBody payloads (p.after (count.asCount + 1) 1) p.cursor code declared := by
  have hheader : task.nextHeader stack p = .ok ((code, declared), p.after (count.asCount + 1) 0) :=
    nextHeader_eq_ok.mpr (readHeader_of ha hfits hpre)
  have hnoted : task.noteNode (p.after (count.asCount + 1) 0) p.cursor =
      .ok ((p.after (count.asCount + 1) 0).after 0 1) := noteNode_of ha hnodes
  unfold startItem
  rw [hheader]
  dsimp only
  rw [hnoted, DecodePosition.after_after]

/-- **A List is checked against its declared children**; it is open unless it has none. -/
theorem startBody_list_ok {headerOffset declared : ℕ}
    {started : Started ListHeader SecsItem × DecodePosition}
    (h : task.startBody payloads p headerOffset .list declared = .ok started) :
    (declared ≤ task.limits.maxListItems ∧
      p.acceptedNodes + declared ≤ task.limits.maxTotalItems ∧
      p.depth + 1 ≤ task.limits.maxDepth) ∧
      started = if declared = 0 then (.leaf (.list []), p)
        else (.opened ⟨headerOffset, declared⟩, { p with depth := p.depth + 1 }) := by
  unfold startBody at h
  rw [if_pos rfl] at h
  split at h
  · cases h
  rename_i hlimits
  refine ⟨checkListLimits_ok hlimits, ?_⟩
  split at h
  · rename_i hempty
    rw [if_pos hempty]
    exact (Except.ok.inj h).symm
  · rename_i hopen
    rw [if_neg hopen]
    split at h
    · cases h
    · rename_i depth hdepth
      obtain rfl := Target.checkedAdd_eq_some hdepth
      exact (Except.ok.inj h).symm

theorem startBody_list_of {headerOffset declared : ℕ} (ha : task.Addressable)
    (hlist : declared ≤ task.limits.maxListItems)
    (htotal : p.acceptedNodes + declared ≤ task.limits.maxTotalItems)
    (hdepth : p.depth + 1 ≤ task.limits.maxDepth) :
    task.startBody payloads p headerOffset .list declared =
      .ok (if declared = 0 then (.leaf (.list []), p)
        else (.opened ⟨headerOffset, declared⟩, { p with depth := p.depth + 1 })) := by
  have hsmall : maxDecodeNestingDepth ≤ u32Max := by decide
  unfold startBody
  rw [if_pos rfl, checkListLimits_of ha hlist htotal hdepth,
    Target.checkedAdd_of_le (hdepth.trans (task.limits.depth_le.trans hsmall))]
  by_cases hempty : declared = 0
  · rw [if_pos hempty, if_pos hempty]
  · rw [if_neg hempty, if_neg hempty]

/-- A scalar is complete. -/
theorem startBody_scalar {headerOffset declared : ℕ} {code : FormatCode}
    {started : Started ListHeader SecsItem × DecodePosition} (hcode : code ≠ .list) :
    task.startBody payloads p headerOffset code declared = .ok started ↔ ∃ body p' item,
      task.takeBody p headerOffset code declared = .ok (body, p') ∧
        payloads.body headerOffset body code = .ok item ∧ started = (.leaf item, p') := by
  unfold startBody decodeScalar
  rw [if_neg hcode]
  cases task.takeBody p headerOffset code declared with
  | error e => simp
  | ok taken =>
    obtain ⟨body, p'⟩ := taken
    dsimp only
    cases hbody : payloads.body headerOffset body code with
    | error fault => simp [hbody]
    | ok item => simp [hbody, eq_comm]

/-! ## The end of the loop -/

/-- The number of bytes that have not been read. -/
def remaining (task : DecodeTask) (p : DecodePosition) : ℕ := task.input.length - p.cursor

/-- A body takes nothing back, and stays in the input. -/
theorem startBody_keeps {headerOffset declared : ℕ} {code : FormatCode}
    {started : Started ListHeader SecsItem} (hcursor : p.cursor ≤ task.input.length)
    (h : task.startBody payloads p headerOffset code declared = .ok (started, p')) :
    p.cursor ≤ p'.cursor ∧ p'.cursor ≤ task.input.length := by
  by_cases hcode : code = .list
  · rw [hcode] at h
    obtain ⟨-, hstarted⟩ := startBody_list_ok h
    split at hstarted <;> cases hstarted <;> exact ⟨le_refl _, hcursor⟩
  · obtain ⟨body, next, item, hbody, -, hstarted⟩ := (startBody_scalar hcode).mp h
    obtain ⟨-, hfits, -, -, rfl⟩ := takeBody_ok hbody
    cases hstarted
    exact ⟨Nat.le_add_right _ _, hfits⟩

/-- **Every item takes its header**, which has at least two bytes. -/
theorem startItem_forward {stack : ListStack} {started : Started ListHeader SecsItem}
    (h : task.startItem payloads stack p = .ok (started, p')) :
    p.cursor + 2 ≤ p'.cursor ∧ p'.cursor ≤ task.input.length := by
  obtain ⟨code, count, declared, -, hpre, -, hbody⟩ := startItem_ok h
  have hfits := cursor_add_le hpre (List.cons_ne_nil _ _)
  rw [length_headerBytes] at hfits
  have hpos := count.asCount_pos
  obtain ⟨hforward, hwithin⟩ := startBody_keeps hfits hbody
  rw [DecodePosition.after_cursor] at hforward
  exact ⟨by omega, hwithin⟩

end

end DecodeTask

/-! ## What a payload holds -/

namespace DecodeCursor

/-- A localized payload is a non-zero encoding code and the bytes after it. -/
theorem decodeLocalized_eq_ok {headerOffset : ℕ} {body : List UInt8} {item : SecsItem} :
    decodeLocalized headerOffset body = .ok item ↔ Payload .localized body item := by
  constructor
  · intro h
    match body, h with
    | high :: low :: payload, h =>
      unfold decodeLocalized at h
      dsimp only at h
      split at h
      · cases h
      · rename_i hnonzero
        cases h
        have hback : Element.u16.toBeBytes (Element.u16.fromBeBytes [high, low]) = [high, low] :=
          Element.toBeBytes_fromBeBytes rfl
        have hpayload := Payload.localized ⟨Element.u16.fromBeBytes [high, low], hnonzero⟩ payload
        rw [hback] at hpayload
        exact hpayload
    | [_], h => cases h
    | [], h => cases h
  · rintro ⟨⟩
    rename_i encoding bytes
    obtain ⟨high, low, hbytes⟩ : ∃ high low, Element.u16.toBeBytes encoding.raw = [high, low] :=
      ⟨_, _, rfl⟩
    have hback : Element.u16.fromBeBytes (Element.u16.toBeBytes encoding.raw) = encoding.raw :=
      Element.fromBeBytes_toBeBytes _
    rw [hbytes] at hback ⊢
    simp [decodeLocalized, hback, encoding.nonzero]

theorem checkAlignment_eq_ok {headerOffset : ℕ} {code : FormatCode} {length : ℕ} :
    checkAlignment headerOffset code length = .ok () ↔
      ∀ width, code.elementWidth = some width → length % width = 0 := by
  unfold checkAlignment
  cases code.elementWidth with
  | none => simp
  | some width => simp

/-- An aligned body is read as the elements that the grammar writes. -/
theorem aligned_iff {α : Type} {e : Element α} {mk : List α → SecsItem} {code : FormatCode}
    {body : List UInt8} {item : SecsItem} (hwidth : code.elementWidth = some e.width)
    (hwritten : ∀ values, Payload code (e.write values) (mk values))
    (honly : Payload code body item → ∃ values, body = e.write values ∧ item = mk values) :
    (∀ width, code.elementWidth = some width → body.length % width = 0) ∧
        (.ok (mk (e.read body)) : Except DecodeError SecsItem) = .ok item ↔
      Payload code body item := by
  constructor
  · rintro ⟨haligned, hitem⟩
    have hpayload := hwritten (e.read body)
    rw [Element.write_read (haligned _ hwidth), Except.ok.inj hitem] at hpayload
    exact hpayload
  · intro h
    obtain ⟨values, rfl, rfl⟩ := honly h
    rw [Element.read_write]
    refine ⟨fun width hsome => ?_, rfl⟩
    obtain rfl := Option.some.inj (hwidth.symm.trans hsome)
    exact Element.length_write_mod values

/-- **The payload of a format is what the grammar says**, numeric payloads by their alignment.
What a reader makes of a body is derived by the grammar from it, and what is derived is what it
makes. -/
theorem decodeBody_eq_ok {headerOffset : ℕ} {code : FormatCode} {body : List UInt8}
    {item : SecsItem}
    (hcode : code ≠ .list) :
    checkAlignment headerOffset code body.length = .ok () ∧
        decodeBody headerOffset body code = .ok item ↔ Payload code body item := by
  rw [checkAlignment_eq_ok]
  cases code with
  | list => exact absurd rfl hcode
  | binary =>
    refine (and_iff_right fun _ h => nomatch h).trans ⟨?_, ?_⟩
    · rintro ⟨⟩
      exact .binary body
    · rintro ⟨⟩
      rfl
  | boolean =>
    refine (and_iff_right fun _ h => nomatch h).trans ⟨?_, ?_⟩
    · rintro ⟨⟩
      exact .boolean body
    · rintro ⟨⟩
      rfl
  | jis8 =>
    refine (and_iff_right fun _ h => nomatch h).trans ⟨?_, ?_⟩
    · rintro ⟨⟩
      exact .jis8 body
    · rintro ⟨⟩
      rfl
  | ascii =>
    refine (and_iff_right fun _ h => nomatch h).trans ⟨fun h => ?_, ?_⟩
    · unfold decodeBody at h
      dsimp only at h
      split at h
      · rename_i hascii
        cases h
        exact .ascii ⟨body, allAscii_iff.mp hascii⟩
      · cases h
    · rintro ⟨⟩
      rename_i text
      exact dif_pos (allAscii_iff.mpr text.ascii)
  | localized => exact (and_iff_right fun _ h => nomatch h).trans decodeLocalized_eq_ok
  | i8 => exact aligned_iff (e := Element.i64) rfl Payload.i8 (by rintro ⟨⟩; exact ⟨_, rfl, rfl⟩)
  | i2 => exact aligned_iff (e := Element.i16) rfl Payload.i2 (by rintro ⟨⟩; exact ⟨_, rfl, rfl⟩)
  | i4 => exact aligned_iff (e := Element.i32) rfl Payload.i4 (by rintro ⟨⟩; exact ⟨_, rfl, rfl⟩)
  | f8 => exact aligned_iff (e := Element.u64) rfl Payload.f8 (by rintro ⟨⟩; exact ⟨_, rfl, rfl⟩)
  | f4 => exact aligned_iff (e := Element.u32) rfl Payload.f4 (by rintro ⟨⟩; exact ⟨_, rfl, rfl⟩)
  | u8 => exact aligned_iff (e := Element.u64) rfl Payload.u8 (by rintro ⟨⟩; exact ⟨_, rfl, rfl⟩)
  | u2 => exact aligned_iff (e := Element.u16) rfl Payload.u2 (by rintro ⟨⟩; exact ⟨_, rfl, rfl⟩)
  | u4 => exact aligned_iff (e := Element.u32) rfl Payload.u4 (by rintro ⟨⟩; exact ⟨_, rfl, rfl⟩)
  | i1 =>
    refine Iff.trans ?_
      (aligned_iff (e := Element.i8) rfl Payload.i1 (by rintro ⟨⟩; exact ⟨_, rfl, rfl⟩))
    rw [decodeBody, Element.read_i8]
  | u1 =>
    refine Iff.trans ?_
      (aligned_iff (e := Element.u8) rfl Payload.u1 (by rintro ⟨⟩; exact ⟨_, rfl, rfl⟩))
    rw [decodeBody, Element.read_u8]

end DecodeCursor

end Secs2
end SecsRust

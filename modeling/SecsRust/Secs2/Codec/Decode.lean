import SecsRust.Secs2.Codec.DecodeTask

/-!
# The decoder

`Secs2Decoder::decode_item` of `secs2/codec/decode.rs`: one pass over the input with an
explicit stack of open Lists.  A `DecodeCursor` is a position in a byte slice, on a 64-bit
target, and the loop is `FrameReader.run` with the steps of the source.  A step that fails
is an error with the offset of the header it failed at, so the cursor of a failed step is
not kept.

The steps are those of `DecodeTask`, with payloads that cannot fail but with an error.  Here
they are described on slices, where every sum can be made, and so every one of them is an
equivalence: `startItem_eq_ok` says what a header starts, `startBody_list` when a List is
accepted and `startBody_scalar` when a scalar is.

Every item takes at least its header (`startItem_consumes`), so the number of bytes bounds
the loop (`DecodeCursor.run`), and the loop reads what the recursion reads (`run_eq_ok`).
What the whole loop accepts follows in `Accept`.
-/

namespace SecsRust
namespace Secs2

/-! ## The decoder -/

/-- `DecodeCursor`, without the stack of List frames, which the loop holds.  Everything that its
methods do is an operation of its task at its position. -/
structure DecodeCursor extends DecodePosition where
  input : ByteSlice
  limits : DecodeLimits

namespace DecodeCursor

/-- `DecodeCursor::new`: the beginning of an input, with all limits free. -/
def new (input : ByteSlice) (limits : DecodeLimits) : DecodeCursor where
  input := input
  cursor := 0
  limits := limits
  depth := 0
  acceptedNodes := 0

/-- What the cursor decodes, in the terms of `DecodeTask`. -/
def task (s : DecodeCursor) : DecodeTask := ⟨.sixtyFour, s.input.bytes, s.limits.values⟩

/-- The cursor at another position. -/
def moved (s : DecodeCursor) (p : DecodePosition) : DecodeCursor := { s with toDecodePosition := p }

/-- The bytes that have not been read. -/
def rest (s : DecodeCursor) : List UInt8 := s.task.rest s.toDecodePosition

/-- What an accepted header starts. -/
def startBody (s : DecodeCursor) (headerOffset : ℕ) (formatCode : FormatCode) (declaredLength : ℕ) :
    Except DecodeError (Started ListHeader SecsItem × DecodeCursor) :=
  (s.task.startBody payloads s.toDecodePosition headerOffset formatCode declaredLength).map
    fun read => (read.1, s.moved read.2)

/-- The second phase of the loop. -/
def startItem (stack : ListStack) (s : DecodeCursor) :
    Except DecodeError (Started ListHeader SecsItem × DecodeCursor) :=
  (s.task.startItem payloads stack s.toDecodePosition).map fun read => (read.1, s.moved read.2)

/-- The first phase of the loop: a full frame is popped, and the depth decreases with it.  The
source unwraps the decrement with `expect`; a frame is open, so the depth is not zero. -/
def nextChild (frame : Frame ListHeader SecsItem) (_ : ListStack) (s : DecodeCursor) :
    Except DecodeError (Bool × DecodeCursor) :=
  if frame.children.length < frame.header.expectedChildren then .ok (true, s)
  else .ok (false, { s with depth := s.depth - 1 })

/-- The decoder as a reader of frames.  Its three parts are what the generic loop over open
frames asks for: starting, the next child, and closing. -/
def reader : FrameReader DecodeCursor ListHeader SecsItem DecodeError where
  start := fun stack s => s.startItem stack
  next := nextChild
  node := .list

end DecodeCursor

/-! ## Steps of the decoder -/

namespace DecodeCursor

/-- The cursor after so many more bytes and accepted items. -/
def after (s : DecodeCursor) (bytes nodes : ℕ) : DecodeCursor :=
  s.moved (s.toDecodePosition.after bytes nodes)

section

variable {s s' : DecodeCursor}

@[simp] theorem after_limits (bytes nodes : ℕ) : (s.after bytes nodes).limits = s.limits := rfl

@[simp] theorem after_depth (bytes nodes : ℕ) : (s.after bytes nodes).depth = s.depth := rfl

@[simp] theorem after_input (bytes nodes : ℕ) : (s.after bytes nodes).input = s.input := rfl

@[simp] theorem after_cursor (bytes nodes : ℕ) :
    (s.after bytes nodes).cursor = s.cursor + bytes := rfl

@[simp] theorem after_acceptedNodes (bytes nodes : ℕ) :
    (s.after bytes nodes).acceptedNodes = s.acceptedNodes + nodes := rfl

@[simp] theorem after_after (bytes nodes bytes' nodes' : ℕ) :
    (s.after bytes nodes).after bytes' nodes' = s.after (bytes + bytes') (nodes + nodes') :=
  congrArg s.moved (s.toDecodePosition.after_after bytes nodes bytes' nodes')

theorem rest_after (bytes nodes : ℕ) : (s.after bytes nodes).rest = s.rest.drop bytes :=
  DecodeTask.rest_after bytes nodes

/-- What is read fits in memory. -/
theorem cursor_add_le {bytes : List UInt8} (h : bytes <+: s.rest) (hne : bytes ≠ []) :
    s.cursor + bytes.length ≤ s.input.bytes.length :=
  DecodeTask.cursor_add_le h hne

theorem addressable (s : DecodeCursor) : s.task.Addressable :=
  ⟨s.input.addressable, s.limits.total_addressable⟩

theorem map_moved_eq_ok {result : Except DecodeError (Started ListHeader SecsItem × DecodePosition)}
    {started : Started ListHeader SecsItem × DecodeCursor} :
    (result.map fun read => (read.1, s.moved read.2)) = .ok started ↔
      ∃ read, result = .ok read ∧ started = (read.1, s.moved read.2) := by
  cases result with
  | error e => exact iff_of_false (fun h => nomatch h) fun ⟨_, h, _⟩ => nomatch h
  | ok read =>
    refine ⟨fun h => ⟨read, rfl, (Except.ok.inj h).symm⟩, ?_⟩
    rintro ⟨_, hread, rfl⟩
    obtain rfl := Except.ok.inj hread
    rfl

/-- **An item starts with a header that is counted.** -/
theorem startItem_eq_ok {stack : ListStack} {started : Started ListHeader SecsItem × DecodeCursor} :
    s.startItem stack = .ok started ↔ ∃ (code : FormatCode) (count : LengthByteCount)
      (declared : ℕ),
      declared < 256 ^ count.asCount ∧ headerBytes code count declared <+: s.rest ∧
        s.acceptedNodes + 1 ≤ s.limits.maxTotalItems ∧
          (s.after (count.asCount + 1) 1).startBody s.cursor code declared = .ok started := by
  constructor
  · intro h
    obtain ⟨read, hread, hstarted⟩ := map_moved_eq_ok.mp h
    obtain ⟨code, count, declared, hfits, hpre, hnodes, hbody⟩ := DecodeTask.startItem_ok hread
    exact ⟨code, count, declared, hfits, hpre, hnodes, map_moved_eq_ok.mpr ⟨read, hbody, hstarted⟩⟩
  · rintro ⟨code, count, declared, hfits, hpre, hnodes, hbody⟩
    unfold startItem
    rw [DecodeTask.startItem_of s.addressable hfits hpre hnodes]
    exact hbody

/-- **A List is checked against its declared children**; it is open unless it has none. -/
theorem startBody_list {headerOffset declared : ℕ}
    {started : Started ListHeader SecsItem × DecodeCursor} :
    s.startBody headerOffset .list declared = .ok started ↔
      (declared ≤ s.limits.maxListItems ∧ s.acceptedNodes + declared ≤ s.limits.maxTotalItems ∧
        s.depth + 1 ≤ s.limits.maxDepth) ∧
        started = if declared = 0 then (.leaf (.list []), s)
          else (.opened ⟨headerOffset, declared⟩, { s with depth := s.depth + 1 }) := by
  constructor
  · intro h
    obtain ⟨read, hread, rfl⟩ := map_moved_eq_ok.mp h
    obtain ⟨hlimits, rfl⟩ := DecodeTask.startBody_list_ok hread
    refine ⟨hlimits, ?_⟩
    split <;> rfl
  · rintro ⟨⟨hlist, htotal, hdepth⟩, rfl⟩
    refine map_moved_eq_ok.mpr
      ⟨_, DecodeTask.startBody_list_of s.addressable hlist htotal hdepth, ?_⟩
    split <;> rfl

/-- **A scalar is its payload**, within the byte limit, and it is complete. -/
theorem startBody_scalar {headerOffset declared : ℕ} {code : FormatCode}
    {started : Started ListHeader SecsItem × DecodeCursor} (hcode : code ≠ .list)
    (hcursor : s.cursor ≤ s.input.bytes.length) :
    s.startBody headerOffset code declared = .ok started ↔ ∃ body item,
      declared ≤ s.limits.maxItemBytes ∧ body.length = declared ∧ body <+: s.rest ∧
        Payload code body item ∧ started = (.leaf item, s.after declared 0) := by
  constructor
  · intro h
    obtain ⟨read, hread, rfl⟩ := map_moved_eq_ok.mp h
    obtain ⟨body, next, item, htake, hbody, rfl⟩ := (DecodeTask.startBody_scalar hcode).mp hread
    obtain ⟨hbytes, hfits, haligned, rfl, rfl⟩ := DecodeTask.takeBody_ok htake
    have hlength : (s.rest.take declared).length = declared := by
      rw [List.length_take, rest, DecodeTask.rest, List.length_drop]
      exact Nat.min_eq_left (Nat.le_sub_of_add_le' hfits)
    have hpayload : checkAlignment headerOffset code (s.rest.take declared).length = .ok () ∧
        decodeBody headerOffset (s.rest.take declared) code = .ok item ↔
          Payload code (s.rest.take declared) item := decodeBody_eq_ok hcode
    rw [hlength] at hpayload
    exact ⟨_, item, hbytes, hlength, List.take_prefix _ _, hpayload.mp ⟨haligned, hbody⟩, rfl⟩
  · rintro ⟨body, item, hbytes, rfl, hpre, hpayload, rfl⟩
    have hfits : s.cursor + body.length ≤ s.input.bytes.length := by
      have hle := hpre.length_le
      rw [rest, DecodeTask.rest, List.length_drop] at hle
      have hinput : s.task.input = s.input.bytes := rfl
      rw [hinput] at hle
      omega
    obtain ⟨haligned, hdecoded⟩ : checkAlignment headerOffset code body.length = .ok () ∧
        decodeBody headerOffset body code = .ok item := (decodeBody_eq_ok hcode).mpr hpayload
    refine map_moved_eq_ok.mpr ⟨_, (DecodeTask.startBody_scalar hcode).mpr
      ⟨_, _, item, DecodeTask.takeBody_of s.addressable hbytes hfits haligned, ?_, rfl⟩, rfl⟩
    have htake : (s.task.rest s.toDecodePosition).take body.length = body :=
      (List.prefix_iff_eq_take.mp hpre).symm
    rw [htake]
    exact hdecoded

/-- The number of bytes that have not been read. -/
def remaining (s : DecodeCursor) : ℕ := s.task.remaining s.toDecodePosition

/-- Every item takes its header. -/
theorem startItem_consumes {stack : ListStack} {started : Started ListHeader SecsItem}
    (h : s.startItem stack = .ok (started, s')) : s'.remaining < s.remaining := by
  obtain ⟨read, hread, hstarted⟩ := map_moved_eq_ok.mp h
  obtain ⟨rfl, rfl⟩ := Prod.mk.inj hstarted
  obtain ⟨hforward, hwithin⟩ := DecodeTask.startItem_forward hread
  show s.task.input.length - read.2.cursor < s.task.input.length - s.cursor
  omega

/-- Closing a List takes nothing back. -/
theorem nextChild_keeps {frame : Frame ListHeader SecsItem} (stack : ListStack) {more : Bool}
    (h : nextChild frame stack s = .ok (more, s')) : s'.remaining ≤ s.remaining := by
  unfold nextChild at h
  split at h <;> cases h <;> exact le_refl _

end

/-- `run`: the loop, which cannot start more items than there are bytes.  The fuel is a bound
that the loop never uses up, as every item takes its header from the input. -/
def run (s : DecodeCursor) : Except DecodeError (SecsItem × DecodeCursor) :=
  (reader.run (s.remaining + 1) [] s).get
    (FrameReader.run_isSome (fun _ _ _ _ => startItem_consumes)
      (fun _ stack _ _ _ => nextChild_keeps stack)
      (Nat.lt_succ_self _))

/-- **The loop and the recursion agree.**  The recursion reads an item with its children below it
and has no stack; the grammar is matched against it. -/
theorem run_eq_ok {s s' : DecodeCursor} {item : SecsItem} :
    s.run = .ok (item, s') ↔ reader.Reads [] s item s' := by
  have hrun : s.run = .ok (item, s') ↔
      reader.run (s.remaining + 1) [] s = some (.ok (item, s')) := by
    rw [run, ← Option.some_inj, Option.some_get]
  exact hrun.trans (FrameReader.run_eq_ok_iff (fun _ _ _ _ => startItem_consumes)
    (fun _ stack _ _ _ => nextChild_keeps stack) (Nat.lt_succ_self _))

end DecodeCursor

/-- `Secs2Decoder::decode_item`: exactly one item, with nothing before it and nothing behind.
What is left behind the item is an error that says how much there was. -/
def decodeItem (limits : DecodeLimits) (input : ByteSlice) : Except DecodeError SecsItem :=
  if input.bytes.isEmpty then .error .emptyInput
  else
    match (DecodeCursor.new input limits).run with
    | .error e => .error e
    | .ok (item, cursor) =>
      if cursor.cursor ≠ input.bytes.length then
        .error (.trailingBytes cursor.cursor input.bytes.length)
      else .ok item

end Secs2
end SecsRust

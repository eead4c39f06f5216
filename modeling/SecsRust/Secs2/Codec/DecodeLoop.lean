import SecsRust.Lib.Loop
import SecsRust.Secs2.Codec.Decode

/-!
# The decoder loop, turn by turn

`DecodeCursor::run` of `secs2/codec/decode.rs` with everything that could go wrong in it:
the stack of List frames and the pending item are explicit, an addition fails where the
`usize` of the target ends, and what the source unwraps is a panic if it is not there.  The
functions of the cursor are those of `DecodeTask`; only the payloads are decoded by
functions that can panic.

A turn hands the pending item to the innermost List (`DecodeLoop.deliver`), or reads one
header (`DecodeLoop.startItem`).  Every turn leaves less to do (`DecodeLoop.measure`), so
the loop ends (`Lib.Loop`), and `Bounded` shows that nothing in it goes wrong.

## The decoder is this loop

`DecodeCursor` of `Decode` leaves the panics out and takes the loop from `Lib.Frames`.  On a
64-bit target the two come to the same result on every input (`DecodeLoop.run_eq`).  The
proof follows the recursion of the frame reader: a header starts the same item on both sides
(`startItem_eq`), a delivery closes the same Lists (`run_deliver`), and the depth that the
loop keeps is the length of the stack that the reader keeps.
-/

namespace SecsRust
namespace Secs2

/-- What the source takes for granted.  Each would be a panic of the source, and is kept here as
a result of its own. -/
inductive DecodePanic where
  -- `frame was just inspected as non-empty`
  | frameMissing
  -- `depth is balanced by matching List pushes`
  | depthUnbalanced
  -- `depth must return to zero at the root`
  | rootNested
  -- `List is dispatched by the run loop`
  | listScalar
  -- `validated ASCII body`
  | asciiBody
  -- `non-zero encoding code is accepted by LocalizedEncodingCode`
  | encodingCode
  deriving DecidableEq

/-- How the loop fails: it returns an error, or it panics.  A panic is told apart from an error
so that its absence is something to prove. -/
inductive DecodeFault where
  | error (e : DecodeError)
  | panic (p : DecodePanic)
  deriving DecidableEq

/-- The fault is an error, and not an overflow. -/
def DecodeFault.Ordinary (fault : DecodeFault) : Prop :=
  ∃ e, fault = .error e ∧ ∀ offset, e ≠ .arithmeticOverflow offset

/-- A byte slice on a target. -/
structure TargetSlice (target : Target) where
  bytes : List UInt8
  addressable : bytes.length ≤ target.isizeMax

/-- `DecodeCursor` with the variable `pending` of its loop; the innermost List comes first. -/
structure DecodeLoop extends DecodePosition where
  input : List UInt8
  limits : LimitValues
  listStack : ListStack
  pending : Option SecsItem

/-- `AsciiString::new`: a byte beyond seven bits is reported with its place.  The place is that
of the first such byte. -/
def AsciiString.new (bytes : List UInt8) : Except SecsItemError AsciiString :=
  if h : allAscii bytes then .ok ⟨bytes, ascii_of_allAscii h⟩
  else
    let index := bytes.findIdx fun byte => decide (¬ byte < 128)
    .error (.nonAscii index (bytes.getD index 0))

/-- `LocalizedEncodingCode::new`: zero is reserved. -/
def LocalizedEncodingCode.new (value : UInt16) : Except SecsItemError LocalizedEncodingCode :=
  if h : value = 0 then .error .reservedLocalizedEncodingCode else .ok ⟨value, h⟩

namespace DecodeLoop

/-- `DecodeCursor::new`, before the loop: no List is open, and nothing is pending. -/
def start (input : List UInt8) (limits : LimitValues) : DecodeLoop where
  input := input
  limits := limits
  cursor := 0
  depth := 0
  acceptedNodes := 0
  listStack := []
  pending := none

/-! ## Payloads -/

/-- The text of a body that has been found to be ASCII. -/
def asciiText (body : List UInt8) : Except DecodeFault SecsItem :=
  match String.fromUTF8? body.toByteArray with
  | none => .error (.panic .asciiBody)
  | some _ =>
    match AsciiString.new body with
    | .error _ => .error (.panic .asciiBody)
    | .ok ascii => .ok (.ascii ascii)

/-- `decode_localized`, whose encoding code is checked twice: what the second check finds is a
panic. -/
def decodeLocalized (headerOffset : ℕ) (body : List UInt8) : Except DecodeFault SecsItem :=
  match body with
  | high :: low :: payload =>
    let encodingValue := Element.u16.fromBeBytes [high, low]
    if encodingValue = 0 then .error (.error (.reservedLocalizedEncodingCode headerOffset))
    else
      match LocalizedEncodingCode.new encodingValue with
      | .error _ => .error (.panic .encodingCode)
      | .ok encoding => .ok (.localized ⟨encoding, payload⟩)
  | _ => .error (.error (.missingLocalizedHeader headerOffset))

/-- The item of a payload. -/
def decodeBody (headerOffset : ℕ) (body : List UInt8) : FormatCode → Except DecodeFault SecsItem
  | .list => .error (.panic .listScalar)
  | .ascii =>
    match body.findIdx? fun byte => decide (¬ byte < 128) with
    | some index => .error (.error (.nonAscii headerOffset index (body.getD index 0)))
    | none => asciiText body
  | .localized => decodeLocalized headerOffset body
  | formatCode => (DecodeCursor.decodeBody headerOffset body formatCode).mapError .error

/-- The payloads of the loop. -/
def payloads : PayloadDecoder DecodeFault := ⟨decodeBody, .error⟩

/-! ## One turn -/

section

variable (target : Target)

/-- What the loop decodes, on this target. -/
def task (s : DecodeLoop) : DecodeTask := ⟨target, s.input, s.limits⟩

/-- `read_header`, at the place of the loop. -/
def readHeader (s : DecodeLoop) : Except DecodeError ((FormatCode × ℕ) × DecodePosition) :=
  (s.task target).readHeader s.toDecodePosition

/-- The loop with an item that has been started. -/
def begun (s : DecodeLoop) : Started ListHeader SecsItem × DecodePosition → DecodeLoop
  | (.leaf item, p) => { s with toDecodePosition := p, pending := some item }
  | (.opened header, p) =>
    { s with toDecodePosition := p, listStack := ⟨header, []⟩ :: s.listStack }

/-- The second phase: one header, and the payload of a scalar. -/
def startItem (s : DecodeLoop) : Except DecodeFault DecodeLoop :=
  ((s.task target).startItem payloads s.listStack s.toDecodePosition).map s.begun

/-- A turn of the first phase: the pending item is the root, or a child of the innermost List,
which is popped when it is full.  The depth is decreased with each frame that is popped, and its
underflow is a panic. -/
def deliver (s : DecodeLoop) (item : SecsItem) :
    Except DecodeFault (Turn DecodeLoop (SecsItem × ℕ)) :=
  match s.listStack with
  | [] => if s.depth = 0 then .ok (.done (item, s.cursor)) else .error (.panic .rootNested)
  | frame :: ancestors =>
    let listStack := frame.push item :: ancestors
    if (frame.push item).children.length < frame.header.expectedChildren then
      .ok (.next { s with listStack := listStack, pending := none })
    else
      match listStack with
      | [] => .error (.panic .frameMissing)
      | completed :: listStack =>
        if s.depth = 0 then .error (.panic .depthUnbalanced)
        else
          .ok (.next { s with
            depth := s.depth - 1
            listStack := listStack
            pending := some (.list completed.children) })

/-- A turn of `run`: a pending item is delivered before another header is read. -/
def turn (s : DecodeLoop) : Except DecodeFault (Turn DecodeLoop (SecsItem × ℕ)) :=
  match s.pending with
  | some item => s.deliver item
  | none => (s.startItem target).map .next

end

/-! ## What a turn does -/

section

variable {target : Target} {s s' : DecodeLoop}

/-- What an accepted header may lead to. -/
inductive Begins (s : DecodeLoop) : DecodeLoop → Prop
  | leaf {cursor : ℕ} (item : SecsItem) (forward : s.cursor ≤ cursor)
      (within : cursor ≤ s.input.length) :
      Begins s { s with cursor := cursor, pending := some item }
  | opened (header : ListHeader) (expects : 0 < header.expectedChildren)
      (shallow : s.depth + 1 ≤ s.limits.maxDepth) :
      Begins s { s with depth := s.depth + 1, listStack := ⟨header, []⟩ :: s.listStack }

/-- **What a header and its payload may lead to**: the header has been read and counted. -/
theorem startItem_ok (h : s.startItem target = .ok s') :
    ∃ cursor, s.cursor + 2 ≤ cursor ∧ cursor ≤ s.input.length ∧
      s.acceptedNodes + 1 ≤ s.limits.maxTotalItems ∧
        Begins { s with cursor := cursor, acceptedNodes := s.acceptedNodes + 1 } s' := by
  unfold startItem at h
  cases hstart : (s.task target).startItem payloads s.listStack s.toDecodePosition with
  | error fault => rw [hstart] at h; cases h
  | ok started =>
    rw [hstart] at h
    obtain rfl := Except.ok.inj h
    obtain ⟨code, count, declared, -, hpre, hnodes, hbody⟩ := DecodeTask.startItem_ok hstart
    have hwithin := DecodeTask.cursor_add_le hpre (List.cons_ne_nil _ _)
    rw [length_headerBytes] at hwithin
    have hpos := count.asCount_pos
    refine ⟨s.cursor + (count.asCount + 1), by omega, hwithin, hnodes, ?_⟩
    by_cases hcode : code = .list
    · subst hcode
      obtain ⟨⟨-, -, hdepth⟩, rfl⟩ := DecodeTask.startBody_list_ok hbody
      by_cases hempty : declared = 0
      · rw [if_pos hempty]
        exact .leaf (.list []) (le_refl _) hwithin
      · rw [if_neg hempty]
        exact .opened ⟨s.cursor, declared⟩ (Nat.pos_of_ne_zero hempty) hdepth
    · obtain ⟨body, next, item, htake, -, rfl⟩ := (DecodeTask.startBody_scalar hcode).mp hbody
      obtain ⟨-, hfits, -, -, rfl⟩ := DecodeTask.takeBody_ok htake
      exact .leaf item (Nat.le_add_right _ _) hfits

/-- What delivering an item may lead to. -/
inductive Delivers (s : DecodeLoop) (item : SecsItem) : DecodeLoop → Prop
  | kept {frame : Frame ListHeader SecsItem} {ancestors : ListStack}
      (stack : s.listStack = frame :: ancestors)
      (wants : (frame.push item).children.length < frame.header.expectedChildren) :
      Delivers s item { s with listStack := frame.push item :: ancestors, pending := none }
  | closed {frame : Frame ListHeader SecsItem} {ancestors : ListStack}
      (stack : s.listStack = frame :: ancestors) :
      Delivers s item { s with
        depth := s.depth - 1
        listStack := ancestors
        pending := some (.list (frame.push item).children) }

theorem deliver_next {item : SecsItem} (h : s.deliver item = .ok (.next s')) :
    s.Delivers item s' := by
  unfold deliver at h
  split at h
  · split at h <;> cases h
  rename_i frame ancestors hstack
  dsimp only at h
  split at h
  next hwants =>
    cases h
    exact .kept hstack hwants
  next =>
    split at h
    · cases h
    · cases h
      exact .closed hstack

/-! ## The end of the loop -/

/-- What is left to do.  A header takes two bytes at least, and pays with them for the frame that
it opens or for the item that it leaves pending. -/
def measure (s : DecodeLoop) : ℕ :=
  3 * (s.input.length - s.cursor) + 2 * s.listStack.length + s.pending.toList.length

/-- Every turn leaves less to do. -/
theorem measure_turn (s s' : DecodeLoop) (h : s.turn target = .ok (.next s')) :
    s'.measure < s.measure := by
  unfold turn at h
  split at h
  next item hpending =>
    cases deliver_next h with
    | kept hstack hwants =>
      simp only [measure, hstack, hpending, List.length_cons, Option.toList_some,
        Option.toList_none, List.length_nil]
      omega
    | closed hstack =>
      simp only [measure, hstack, hpending, List.length_cons, Option.toList_some, List.length_nil]
      omega
  next hpending =>
    cases hitem : s.startItem target with
    | error fault => rw [hitem] at h; cases h
    | ok next =>
      rw [hitem] at h
      cases h
      obtain ⟨cursor, hforward, hwithin, -, hbegins⟩ := startItem_ok hitem
      cases hbegins with
      | leaf item hleaf hend =>
        dsimp only at hleaf hend
        simp only [measure, hpending, Option.toList_some, Option.toList_none, List.length_cons,
          List.length_nil]
        omega
      | opened header hexpects hshallow =>
        simp only [measure, hpending, Option.toList_none, List.length_cons, List.length_nil]
        omega

end

/-- `run`: the item, and the bytes that it has consumed.  It needs no fuel: every turn leaves
less to do. -/
def run (target : Target) : DecodeLoop → Except DecodeFault (SecsItem × ℕ) :=
  Loop.run (turn target) measure measure_turn

/-! ## The decoder -/

/-- The loop at the place of a cursor. -/
def ofCursor (s : DecodeCursor) (listStack : ListStack) (pending : Option SecsItem) :
    DecodeLoop where
  toDecodePosition := s.toDecodePosition
  input := s.input.bytes
  limits := s.limits.values
  listStack := listStack
  pending := pending

section

variable {s : DecodeCursor} {stack : ListStack} {pending : Option SecsItem}

/-- **ASCII is UTF-8**, so the text of an ASCII body is there. -/
theorem asciiText_eq {body : List UInt8} (h : allAscii body = true) :
    asciiText body = .ok (.ascii ⟨body, ascii_of_allAscii h⟩) := by
  have hchar : ∀ byte ∈ body, String.utf8EncodeChar (Char.ofNat byte.toNat) = [byte] := by
    intro byte hbyte
    have hsmall : byte.toNat < 128 := UInt8.lt_iff_toNat_lt.mp (ascii_of_allAscii h byte hbyte)
    have hvalid : byte.toNat.isValidChar := .inl (by omega)
    have hval : (Char.ofNat byte.toNat).val.toNat = byte.toNat := by
      rw [Char.ofNat, dif_pos hvalid]
      rfl
    unfold String.utf8EncodeChar
    rw [hval]
    dsimp only
    rw [if_pos (by omega), UInt8.ofNat_toNat]
  have hbytes : body.flatMap
      (fun byte => String.utf8EncodeChar (Char.ofNat byte.toNat)) = body := by
    rw [List.flatMap_congr hchar, List.flatMap_singleton']
  have hvalid : body.toByteArray.IsValidUTF8 := by
    refine .intro (body.map fun byte => Char.ofNat byte.toNat) ?_
    rw [List.utf8Encode, List.flatMap_map, hbytes]
  have htext : String.fromUTF8? body.toByteArray =
      some (String.fromUTF8 body.toByteArray hvalid) := by
    unfold String.fromUTF8?
    exact dif_pos hvalid
  unfold asciiText
  rw [htext]
  dsimp only
  unfold AsciiString.new
  rw [dif_pos h]

/-- Nothing that the source unwraps is missing. -/
theorem decodeBody_eq {headerOffset : ℕ} {body : List UInt8} {code : FormatCode}
    (hcode : code ≠ .list) :
    decodeBody headerOffset body code =
      (DecodeCursor.decodeBody headerOffset body code).mapError .error := by
  cases code with
  | list => exact absurd rfl hcode
  | ascii =>
    unfold decodeBody DecodeCursor.decodeBody
    by_cases hascii : allAscii body = true
    · have hnone : body.findIdx? (fun byte => decide (¬ byte < 128)) = none := by
        rw [List.findIdx?_eq_none_iff]
        intro byte hbyte
        rw [decide_eq_false_iff_not, not_not]
        exact ascii_of_allAscii hascii byte hbyte
      rw [hnone, dif_pos hascii]
      exact asciiText_eq hascii
    · have hindex : body.findIdx? (fun byte => decide (¬ byte < 128)) =
          some (body.findIdx fun byte => decide (¬ byte < 128)) := by
        rw [List.findIdx?_eq_some_iff_findIdx_eq]
        refine ⟨List.findIdx_lt_length.mpr ?_, rfl⟩
        rw [allAscii_iff] at hascii
        obtain ⟨byte, hbyte, hlarge⟩ := not_forall₂.mp hascii
        exact ⟨byte, hbyte, decide_eq_true hlarge⟩
      rw [hindex, dif_neg hascii]
      rfl
  | localized =>
    show decodeLocalized headerOffset body =
      (DecodeCursor.decodeLocalized headerOffset body).mapError .error
    match body with
    | [] => rfl
    | [_] => rfl
    | high :: low :: payload =>
      unfold decodeLocalized DecodeCursor.decodeLocalized LocalizedEncodingCode.new
      by_cases hzero : Element.u16.fromBeBytes [high, low] = 0
      · dsimp only
        rw [if_pos hzero, dif_pos hzero]
        rfl
      · dsimp only
        rw [if_neg hzero, dif_neg hzero, dif_neg hzero]
        rfl
  | _ => rfl

/-- **A decoder of payloads that fails with the image of another's errors** does so in the whole
step. -/
theorem startItem_mapError {ε ε' : Type} {one : PayloadDecoder ε} {other : PayloadDecoder ε'}
    (f : ε → ε') (hfail : ∀ e, other.fail e = f (one.fail e))
    (hbody : ∀ headerOffset body code, code ≠ FormatCode.list →
      other.body headerOffset body code = (one.body headerOffset body code).mapError f)
    (task : DecodeTask) (p : DecodePosition) :
    task.startItem other stack p = (task.startItem one stack p).mapError f := by
  unfold DecodeTask.startItem
  cases task.nextHeader stack p with
  | error e => exact congrArg Except.error (hfail e)
  | ok parsed =>
    obtain ⟨⟨code, declared⟩, read⟩ := parsed
    dsimp only
    cases task.noteNode read p.cursor with
    | error e => exact congrArg Except.error (hfail e)
    | ok noted =>
      dsimp only
      unfold DecodeTask.startBody
      by_cases hcode : code = .list
      · rw [if_pos hcode, if_pos hcode]
        cases task.checkListLimits noted p.cursor declared with
        | error e => exact congrArg Except.error (hfail e)
        | ok checked =>
          dsimp only
          by_cases hempty : declared = 0
          · rw [if_pos hempty, if_pos hempty]
            rfl
          · rw [if_neg hempty, if_neg hempty]
            cases task.target.checkedAdd noted.depth 1 with
            | none => exact congrArg Except.error (hfail _)
            | some depth => rfl
      · rw [if_neg hcode, if_neg hcode]
        unfold DecodeTask.decodeScalar
        cases task.takeBody noted p.cursor code declared with
        | error e => exact congrArg Except.error (hfail e)
        | ok taken =>
          obtain ⟨body, next⟩ := taken
          dsimp only
          rw [hbody p.cursor body code hcode]
          cases one.body p.cursor body code with
          | error fault => rfl
          | ok item => rfl

/-- What the loop makes of an item that has been started. -/
def ofStarted (stack : ListStack) : Started ListHeader SecsItem × DecodeCursor → DecodeLoop
  | (.leaf item, s) => ofCursor s stack (some item)
  | (.opened header, s) => ofCursor s (⟨header, []⟩ :: stack) none

/-- **A header starts the same item.** -/
theorem startItem_eq : (ofCursor s stack none).startItem .sixtyFour =
    ((s.startItem stack).map (ofStarted stack)).mapError .error := by
  have hsame : s.task.startItem payloads stack s.toDecodePosition =
      (s.task.startItem DecodeCursor.payloads stack s.toDecodePosition).mapError .error :=
    startItem_mapError DecodeFault.error (fun _ => rfl) (fun _ _ _ hcode => decodeBody_eq hcode) _ _
  unfold DecodeCursor.startItem
  show (s.task.startItem payloads stack s.toDecodePosition).map _ = _
  rw [hsame]
  cases s.task.startItem DecodeCursor.payloads stack s.toDecodePosition with
  | error e => rfl
  | ok started =>
    obtain ⟨started, p⟩ := started
    cases started with
    | leaf item => rfl
    | opened header => rfl

theorem run_of_next {s s' : DecodeLoop} {target : Target} (h : s.turn target = .ok (.next s')) :
    s.run target = s'.run target := by
  unfold run
  rw [Loop.run_eq, h]

/-- **Deliveries agree**: as long as the depth counts the open Lists, the loop pops what the decoder
closes. -/
theorem run_deliver (hdepth : s.depth = stack.length) (item : SecsItem) :
    (∃ root after, DecodeCursor.reader.deliver item stack s = .ok (.root root after) ∧
        (ofCursor s stack (some item)).run .sixtyFour = .ok (root, after.cursor)) ∨
      ∃ stack' after, DecodeCursor.reader.deliver item stack s = .ok (.more stack' after) ∧
        (ofCursor s stack (some item)).run .sixtyFour =
          (ofCursor after stack' none).run .sixtyFour ∧
          after.depth = stack'.length := by
  induction stack generalizing s item with
  | nil =>
    have hturn : (ofCursor s [] (some item)).turn .sixtyFour = .ok (.done (item, s.cursor)) :=
      if_pos hdepth
    refine .inl ⟨item, s, rfl, ?_⟩
    unfold run
    rw [Loop.run_eq, hturn]
  | cons frame ancestors ih =>
    have hopen : s.depth ≠ 0 := by
      rw [hdepth]
      exact Nat.succ_ne_zero _
    rw [FrameReader.deliver]
    by_cases hwants : (frame.push item).children.length < frame.header.expectedChildren
    · have hnext : DecodeCursor.reader.next (frame.push item) ancestors s = .ok (true, s) :=
        if_pos hwants
      have hturn : (ofCursor s (frame :: ancestors) (some item)).turn .sixtyFour =
          .ok (.next (ofCursor s (frame.push item :: ancestors) none)) := if_pos hwants
      rw [FrameReader.settle_more hnext]
      exact .inr ⟨_, _, rfl, run_of_next hturn, hdepth⟩
    · have hnext : DecodeCursor.reader.next (frame.push item) ancestors s =
          .ok (false, { s with depth := s.depth - 1 }) := if_neg hwants
      have hturn : (ofCursor s (frame :: ancestors) (some item)).turn .sixtyFour =
          .ok (.next (ofCursor { s with depth := s.depth - 1 } ancestors
            (some (.list (frame.push item).children)))) :=
        (if_neg hwants).trans (if_neg hopen)
      have hshallow : s.depth - 1 = ancestors.length := by
        rw [hdepth, List.length_cons, Nat.add_sub_cancel]
      rw [FrameReader.settle_close hnext, run_of_next hturn]
      exact ih hshallow _

/-- The depth that an item leaves counts the open Lists. -/
theorem depth_of_startItem {started : Started ListHeader SecsItem} {after : DecodeCursor}
    (h : s.startItem stack = .ok (started, after)) (hdepth : s.depth = stack.length) :
    match started with
    | .leaf _ => after.depth = stack.length
    | .opened header => after.depth = stack.length + 1 ∧ 0 < header.expectedChildren := by
  have hloop : (ofCursor s stack none).startItem .sixtyFour =
      .ok (ofStarted stack (started, after)) := by
    rw [startItem_eq, h]
    rfl
  obtain ⟨cursor, -, -, -, hbegins⟩ := startItem_ok hloop
  generalize hs' : ofStarted stack (started, after) = s' at hbegins
  cases started with
  | leaf item =>
    cases hbegins with
    | leaf _ _ _ => exact (congrArg (fun s => s.depth) hs').trans hdepth
    | opened header _ _ => cases congrArg DecodeLoop.pending hs'
  | opened header =>
    cases hbegins with
    | leaf _ _ _ => cases congrArg DecodeLoop.pending hs'
    | opened header' hexpects _ =>
      have hheader := congrArg Frame.header (List.cons.inj (congrArg DecodeLoop.listStack hs')).1
      refine ⟨(congrArg (fun s => s.depth) hs').trans (congrArg (· + 1) hdepth), ?_⟩
      rw [show header = header' from hheader]
      exact hexpects

/-- What the loop comes to when the decoder comes to this.  An error stays the error that it was;
there is no panic among these. -/
def ofResult (result : Except DecodeError (SecsItem × DecodeCursor)) :
    Except DecodeFault (SecsItem × ℕ) :=
  (result.map fun read => (read.1, read.2.cursor)).mapError .error

theorem run_of_reader {fuel : ℕ} {result : Except DecodeError (SecsItem × DecodeCursor)}
    (hdepth : s.depth = stack.length) (h : DecodeCursor.reader.run fuel stack s = some result) :
    (ofCursor s stack none).run .sixtyFour = ofResult result := by
  induction fuel generalizing s stack with
  | zero => cases h
  | succ fuel ih =>
    cases hstart : s.startItem stack with
    | error e =>
      have hloop : (ofCursor s stack none).startItem .sixtyFour = .error (.error e) := by
        rw [startItem_eq, hstart]
        rfl
      have hturn : (ofCursor s stack none).turn .sixtyFour = .error (.error e) :=
        congrArg (Except.map Turn.next) hloop
      rw [FrameReader.run_error hstart] at h
      cases h
      unfold run
      rw [Loop.run_eq, hturn]
      rfl
    | ok started =>
      have hloop : (ofCursor s stack none).startItem .sixtyFour =
          .ok (ofStarted stack started) := by
        rw [startItem_eq, hstart]
        rfl
      have hturn : (ofCursor s stack none).turn .sixtyFour =
          .ok (.next (ofStarted stack started)) :=
        congrArg (Except.map Turn.next) hloop
      rw [run_of_next hturn]
      obtain ⟨started, after⟩ := started
      have hafter := depth_of_startItem hstart hdepth
      rw [FrameReader.run_start hstart] at h
      cases started with
      | leaf item =>
        rcases run_deliver hafter item with ⟨root, last, hdeliver, hloop⟩ | ⟨stack', last,
          hdeliver, hloop, hnext⟩
        · have hattach : DecodeCursor.reader.attach stack (.leaf item, after) =
              .ok (.root root last) := hdeliver
          rw [hattach] at h
          cases h
          exact hloop
        · have hattach : DecodeCursor.reader.attach stack (.leaf item, after) =
              .ok (.more stack' last) := hdeliver
          rw [hattach] at h
          exact hloop.trans (ih hnext h)
      | opened header =>
        obtain ⟨hdeep, hexpects⟩ := hafter
        have hnext : DecodeCursor.reader.next ⟨header, []⟩ stack after = .ok (true, after) :=
          if_pos hexpects
        have hattach : DecodeCursor.reader.attach stack (.opened header, after) =
            .ok (.more (⟨header, []⟩ :: stack) after) := FrameReader.settle_more hnext
        rw [hattach] at h
        exact ih hdeep h

/-- **On a 64-bit target the loop is the decoder.**  So what is proved of either holds of both,
and the decoder of the round trips does not panic. -/
theorem run_eq (input : ByteSlice) (limits : DecodeLimits) :
    (start input.bytes limits.values).run .sixtyFour = ofResult
    (DecodeCursor.new input limits).run := by
  show (ofCursor (.new input limits) [] none).run .sixtyFour = _
  exact run_of_reader rfl (Option.some_get _).symm

end

end DecodeLoop

end Secs2
end SecsRust

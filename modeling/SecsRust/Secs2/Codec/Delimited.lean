import SecsRust.Secs2.Codec.Accept

/-!
# Items delimit themselves

An input that the decoder accepts stops being one as soon as bytes are taken from its end or
put there.  A decoder that is told where an item ends can therefore check it, and one that
is not told finds the end itself.

What is missing is always reported as missing: a cut input fails with a truncation and never
with an error about limits, formats or contents (`DecodeError.isTruncation`), because every
check of a step is made on bytes that the step has already read.  What is too much is
reported with the numbers of bytes that were consumed and that remain.

The argument runs the decoder on the whole input and on the cut one side by side
(`FrameReader.run_beside`).  The cursor on the cut input is the other cursor with the input
exchanged (`DecodeCursor.Follows`), until a step needs bytes behind the cut.  That step
fails with a truncation; each function of the cursor has one lemma that says so
(`DecodeTask.readHeader_onInput` and its siblings), and closing a List reads nothing.
-/

namespace SecsRust
namespace Secs2

/-- The input ended too early. -/
def DecodeError.isTruncation : DecodeError → Bool
  | .truncatedHeader _ | .truncatedBody .. | .truncatedList .. => true
  | _ => false

namespace DecodeTask

/-- The same task on another input. -/
def onInput (task : DecodeTask) (input : List UInt8) : DecodeTask := { task with input := input }

section

variable {task : DecodeTask} {cut : List UInt8} {p p' : DecodePosition}

/-- Bytes before the cut are the same in both inputs. -/
theorem take_drop_of_within {α : Type} {l l' : List α} (h : l <+: l') {start count : ℕ}
    (hfits : start + count ≤ l.length) :
    (l'.drop start).take count = (l.drop start).take count := by
  obtain ⟨tail, rfl⟩ := h
  rw [List.drop_append_of_le_length (by omega), List.take_append_of_le_length]
  rw [List.length_drop]
  omega

theorem Addressable.onInput (ha : task.Addressable) (hwithin : cut <+: task.input) :
    (task.onInput cut).Addressable :=
  ⟨hwithin.length_le.trans ha.input, ha.total⟩

theorem readHeader_onInput (ha : task.Addressable) (hwithin : cut <+: task.input)
    {parsed : FormatCode × ℕ} (h : task.readHeader p = .ok (parsed, p')) :
    ((task.onInput cut).readHeader p = .ok (parsed, p') ∧ p'.cursor ≤ cut.length) ∨
      (task.onInput cut).readHeader p = .error (.truncatedHeader p.cursor) := by
  obtain ⟨code, declared⟩ := parsed
  obtain ⟨count, hfits, hnext, rfl⟩ := readHeader_ok h
  have hall := cursor_add_le hnext (List.cons_ne_nil _ _)
  rw [length_headerBytes] at hall
  by_cases hcut : p.cursor + (count.asCount + 1) ≤ cut.length
  · refine Or.inl ⟨readHeader_of (ha.onInput hwithin) hfits ?_, hcut⟩
    rw [List.prefix_iff_eq_take, length_headerBytes] at hnext ⊢
    rw [hnext]
    exact take_drop_of_within hwithin hcut
  · -- the format byte, if it is still there, is the one of the whole input
    refine Or.inr ?_
    unfold readHeader onInput
    dsimp only
    cases hbyte : cut[p.cursor]? with
    | none => rfl
    | some formatByte =>
      dsimp only
      have hsame : (task.rest p)[0]? = some formatByte := by
        rw [rest, List.getElem?_drop, Nat.add_zero]
        obtain ⟨hlt, hget⟩ := List.getElem?_eq_some_iff.mp hbyte
        rw [List.getElem?_eq_getElem (hlt.trans_le hwithin.length_le), ← hget]
        exact congrArg some (hwithin.getElem hlt).symm
      obtain ⟨tail, htail⟩ := hnext
      rw [← htail, headerBytes, List.cons_append, List.getElem?_cons_zero] at hsame
      obtain ⟨hcode, hcount⟩ := LengthByteCount.formatByte_eq_iff.mp (Option.some.inj hsame).symm
      have hmax := ha.input
      rw [hcount, hcode]
      dsimp only
      rw [Target.checkedAdd_of_fits (by omega)]
      dsimp only
      rw [if_pos (by omega)]

theorem takeBody_onInput (ha : task.Addressable) (hwithin : cut <+: task.input)
    {headerOffset declared : ℕ} {code : FormatCode} {body : List UInt8}
    (h : task.takeBody p headerOffset code declared = .ok (body, p')) :
    ((task.onInput cut).takeBody p headerOffset code declared = .ok (body, p') ∧
        p'.cursor ≤ cut.length) ∨
      ∃ e : DecodeError, (task.onInput cut).takeBody p headerOffset code declared = .error e ∧
        e.isTruncation = true := by
  obtain ⟨hbytes, hfits, haligned, rfl, rfl⟩ := takeBody_ok h
  by_cases hcut : p.cursor + declared ≤ cut.length
  · refine Or.inl ⟨?_, hcut⟩
    rw [takeBody_of (ha.onInput hwithin) hbytes hcut haligned]
    exact congrArg (fun body => Except.ok (body, p.after declared 0))
      (take_drop_of_within hwithin hcut).symm
  · refine Or.inr ⟨.truncatedBody headerOffset declared (cut.length - p.cursor), ?_, rfl⟩
    unfold takeBody onInput
    dsimp only
    rw [if_neg (Nat.not_lt_of_le hbytes), Target.checkedAdd_of_fits (hfits.trans ha.input)]
    dsimp only
    rw [if_pos (by omega)]

variable {payloads : PayloadDecoder DecodeError} (hfail : ∀ e, payloads.fail e = e)

include hfail in
theorem startBody_onInput (ha : task.Addressable) (hwithin : cut <+: task.input)
    {headerOffset declared : ℕ} {code : FormatCode} {started : Started ListHeader SecsItem}
    (hreached : p.cursor ≤ cut.length)
    (h : task.startBody payloads p headerOffset code declared = .ok (started, p')) :
    ((task.onInput cut).startBody payloads p headerOffset code declared = .ok (started, p') ∧
        p'.cursor ≤ cut.length) ∨
      ∃ e : DecodeError, (task.onInput cut).startBody payloads p headerOffset code declared =
        .error e ∧
        e.isTruncation = true := by
  by_cases hcode : code = .list
  · subst hcode
    obtain ⟨⟨hlist, htotal, hdepth⟩, hstarted⟩ := startBody_list_ok h
    refine Or.inl ⟨?_, ?_⟩
    · rw [startBody_list_of (ha.onInput hwithin) hlist htotal hdepth, hstarted]
    · split at hstarted <;> cases hstarted <;> exact hreached
  · obtain ⟨body, next, item, htake, hbody, hstarted⟩ := (startBody_scalar hcode).mp h
    cases hstarted
    rcases takeBody_onInput ha hwithin htake with ⟨hok, hmore⟩ | ⟨e, herror, he⟩
    · exact Or.inl ⟨(startBody_scalar hcode).mpr ⟨body, _, item, hok, hbody, rfl⟩, hmore⟩
    · refine Or.inr ⟨e, ?_, he⟩
      unfold startBody decodeScalar
      rw [if_neg hcode, herror]
      exact congrArg Except.error (hfail e)

/-- A header that the cut input does not hold is reported as missing. -/
theorem nextHeader_onInput (ha : task.Addressable) (hwithin : cut <+: task.input)
    {stack : ListStack}
    {parsed : FormatCode × ℕ} (h : task.nextHeader stack p = .ok (parsed, p')) :
    ((task.onInput cut).nextHeader stack p = .ok (parsed, p') ∧ p'.cursor ≤ cut.length) ∨
      ∃ e : DecodeError, (task.onInput cut).nextHeader stack p = .error e ∧
        e.isTruncation = true := by
  rcases readHeader_onInput ha hwithin (nextHeader_eq_ok.mp h) with ⟨hok, hmore⟩ | herror
  · exact Or.inl ⟨nextHeader_eq_ok.mpr hok, hmore⟩
  · refine Or.inr ?_
    unfold nextHeader
    rw [herror]
    dsimp only
    split
    · cases stack with
      | nil => exact ⟨_, rfl, rfl⟩
      | cons frame stack => exact ⟨_, rfl, rfl⟩
    · exact ⟨_, rfl, rfl⟩

include hfail in
/-- **A step on the cut input** starts the same item, or reports that the input ended. -/
theorem startItem_onInput (ha : task.Addressable) (hwithin : cut <+: task.input) {stack : ListStack}
    {started : Started ListHeader SecsItem}
    (h : task.startItem payloads stack p = .ok (started, p')) :
    ((task.onInput cut).startItem payloads stack p = .ok (started, p') ∧ p'.cursor ≤ cut.length) ∨
      ∃ e : DecodeError, (task.onInput cut).startItem payloads stack p = .error e ∧
        e.isTruncation = true := by
  unfold startItem at h ⊢
  split at h
  · cases h
  rename_i code declared read hheader
  rcases nextHeader_onInput ha hwithin hheader with ⟨hok, hread⟩ | ⟨e, herror, he⟩
  · split at h
    · cases h
    rename_i noted hnoted
    obtain ⟨hnodes, rfl⟩ := noteNode_ok hnoted
    have hnoted' : (task.onInput cut).noteNode read p.cursor = .ok (read.after 0 1) :=
      noteNode_of (ha.onInput hwithin) hnodes
    rw [hok]
    dsimp only
    rw [hnoted']
    exact startBody_onInput hfail ha hwithin hread h
  · rw [herror]
    exact Or.inr ⟨e, congrArg Except.error (hfail e), he⟩

end

end DecodeTask

namespace DecodeCursor

/-- The cursor at the same place of another input. -/
def onInput (s : DecodeCursor) (input : ByteSlice) : DecodeCursor := { s with input := input }

/-- `t` is at the same place as `s` in an input that `s` reads from the start of.  It is the
relation that a simulation of the two runs keeps from turn to turn. -/
structure Follows (cut : ByteSlice) (s t : DecodeCursor) : Prop where
  same : t = s.onInput cut
  prefix_ : cut.bytes <+: s.input.bytes
  reached : s.cursor ≤ cut.bytes.length

section

variable {cut : ByteSlice} {s s' : DecodeCursor}

/-- **A step on the cut input** starts the same item, or reports that the input ended. -/
theorem startItem_follows (stack : ListStack) (t : DecodeCursor)
    (started : Started ListHeader SecsItem) (hfollows : Follows cut s t)
    (h : s.startItem stack = .ok (started, s')) :
    (∃ t', t.startItem stack = .ok (started, t') ∧ Follows cut s' t') ∨
      ∃ e : DecodeError, t.startItem stack = .error e ∧ e.isTruncation = true := by
  obtain ⟨rfl, hwithin, hreached⟩ := hfollows
  obtain ⟨read, hread, hstarted⟩ := map_moved_eq_ok.mp h
  obtain ⟨rfl, rfl⟩ := Prod.mk.inj hstarted
  rcases DecodeTask.startItem_onInput (fun _ => rfl) s.addressable hwithin hread with
    ⟨hok, hmore⟩ | ⟨e, herror, he⟩
  · exact Or.inl ⟨_, map_moved_eq_ok.mpr ⟨_, hok, rfl⟩, rfl, hwithin, hmore⟩
  · refine Or.inr ⟨e, ?_, he⟩
    exact congrArg (Except.map fun read => (read.1, (s.onInput cut).moved read.2)) herror

/-- Closing a List reads nothing. -/
theorem nextChild_follows (frame : Frame ListHeader SecsItem) (stack : ListStack) (t : DecodeCursor)
    (more : Bool) (hfollows : Follows cut s t) (h : nextChild frame stack s = .ok (more, s')) :
    ∃ t', nextChild frame stack t = .ok (more, t') ∧ Follows cut s' t' := by
  obtain ⟨rfl, hwithin, hreached⟩ := hfollows
  unfold nextChild at h ⊢
  split at h
  · rename_i hmore
    cases h
    exact ⟨_, if_pos hmore, rfl, hwithin, hreached⟩
  · rename_i hfull
    cases h
    exact ⟨_, if_neg hfull, rfl, hwithin, hreached⟩

/-- **A run on the cut input** reads the same item, or reports that the input ended.  By
induction on the reading of the longer input; nothing else can happen, because the limits and the
position are the same. -/
theorem run_follows {t : DecodeCursor} {item : SecsItem} (hfollows : Follows cut s t)
    (h : s.run = .ok (item, s')) :
    (∃ t', t.run = .ok (item, t') ∧ Follows cut s' t') ∨
      ∃ e : DecodeError, t.run = .error e ∧ e.isTruncation = true := by
  have hrun : reader.run (s.remaining + 1) [] s = some (.ok (item, s')) := by
    rw [← h, run, Option.some_get]
  have hbeside := FrameReader.run_beside (R := Follows cut) (E := fun e => e.isTruncation = true)
    (fun stack _ t started _ hst hstart => startItem_follows stack t started hst hstart)
    (fun frame stack _ t more _ hst hnext => nextChild_follows frame stack t more hst hnext)
    hfollows hrun
  -- the run on the cut input needs less fuel
  have hfuel : t.remaining ≤ s.remaining := by
    obtain ⟨rfl, hwithin, -⟩ := hfollows
    exact Nat.sub_le_sub_right hwithin.length_le s.cursor
  have hsame : reader.run (s.remaining + 1) [] t = some t.run := by
    have hmono := FrameReader.run_mono (s.remaining - t.remaining)
      (show reader.run (t.remaining + 1) [] t = some t.run by rw [run, Option.some_get])
    rwa [show t.remaining + 1 + (s.remaining - t.remaining) = s.remaining + 1 by omega] at hmono
  rw [hsame] at hbeside
  rcases hbeside with ⟨t', hok, hrelated⟩ | ⟨e, herror, he⟩
  · exact Or.inl ⟨t', Option.some.inj hok, hrelated⟩
  · exact Or.inr ⟨e, Option.some.inj herror, he⟩

end

end DecodeCursor

/-- **The wire format is self-delimiting.**  Of an accepted input every proper non-empty prefix is
rejected as truncated, and with anything behind it it is rejected for the trailing bytes. -/
theorem decodeItem_self_delimiting {limits : DecodeLimits} {input : ByteSlice} {item : SecsItem}
    (h : decodeItem limits input = .ok item) :
    (∀ cut : ByteSlice, cut.bytes <+: input.bytes → cut.bytes ≠ [] → cut.bytes ≠ input.bytes →
      ∃ e : DecodeError, decodeItem limits cut = .error e ∧ e.isTruncation = true) ∧
    ∀ (longer : ByteSlice) (suffix : List UInt8), suffix ≠ [] →
      longer.bytes = input.bytes ++ suffix →
      decodeItem limits longer =
        .error (.trailingBytes input.bytes.length (input.bytes.length + suffix.length)) := by
  obtain ⟨⟨nodes, hderives, hbytes⟩, hwithin⟩ := decodeItem_eq_ok.mp h
  have hfits : ∀ longer : ByteSlice, input.bytes <+: longer.bytes →
      (DecodeCursor.new longer limits).run =
        .ok (item, (DecodeCursor.new longer limits).passed nodes [item]) := fun longer hlonger =>
    DecodeCursor.run_eq_ok.mpr ((DecodeCursor.reads_iff (Nat.zero_le _)).mpr
      ⟨nodes, hderives, DecodeCursor.fits_new.mpr ⟨hbytes ▸ hlonger, hwithin⟩, rfl⟩)
  have hend : ∀ longer : ByteSlice,
      ((DecodeCursor.new longer limits).passed nodes [item]).cursor = input.bytes.length := by
    intro longer
    rw [hbytes]
    exact Nat.zero_add _
  constructor
  · intro cut hwithin hne hproper
    have hfollows : DecodeCursor.Follows cut (.new input limits) (.new cut limits) :=
      ⟨rfl, hwithin, Nat.zero_le _⟩
    have hnonempty : ¬ cut.bytes.isEmpty = true := by rwa [List.isEmpty_iff]
    unfold decodeItem
    rw [if_neg hnonempty]
    rcases DecodeCursor.run_follows hfollows (hfits input List.prefix_rfl) with
      ⟨t', -, hrelated⟩ | ⟨e, herror, he⟩
    · -- the cut input would reach as far as the whole one
      have hreached := hrelated.reached
      rw [hend] at hreached
      exact absurd (hwithin.eq_of_length (Nat.le_antisymm hwithin.length_le hreached)) hproper
    · rw [herror]
      exact ⟨e, rfl, he⟩
  · intro longer suffix hsuffix hlonger
    have hnonempty : ¬ longer.bytes.isEmpty = true := by
      rw [List.isEmpty_iff, hlonger]
      simp [hsuffix]
    have htotal : longer.bytes.length = input.bytes.length + suffix.length := by
      rw [hlonger, List.length_append]
    have hpos := List.length_pos_iff.mpr hsuffix
    unfold decodeItem
    rw [if_neg hnonempty, hfits longer (hlonger ▸ List.prefix_append _ _)]
    dsimp only
    rw [hend, htotal, if_pos (by omega)]

/-- A List of one Boolean: cut after its header it lacks the child. -/
theorem decodeItem_self_delimiting_of_list :
    (∃ e : DecodeError, decodeItem .default ⟨[0x01, 0x01], by decide⟩ = .error e ∧
      e.isTruncation = true) ∧
    decodeItem .default ⟨[0x01, 0x01, 0x25, 0x01, 0x07, 0x00], by decide⟩ =
      .error (.trailingBytes 5 6) := by
  have hdecode : decodeItem .default ⟨[0x01, 0x01, 0x25, 0x01, 0x07], by decide⟩ =
      .ok (.list [.boolean [true]]) := rfl
  obtain ⟨hcut, hlonger⟩ := decodeItem_self_delimiting hdecode
  exact ⟨hcut _ ⟨[0x25, 0x01, 0x07], rfl⟩ (List.cons_ne_nil _ _) (by decide),
    hlonger _ [0x00] (List.cons_ne_nil _ _) rfl⟩

end Secs2
end SecsRust

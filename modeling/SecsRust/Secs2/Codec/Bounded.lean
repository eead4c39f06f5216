import SecsRust.Secs2.Codec.DecodeLoop

/-!
# The decoder on hostile input

The bytes that a decoder is given are the choice of a peer.  Whatever they are, it must
neither panic nor run on, and it must not take more than its limits allow.

The counters of the loop count what they are there for.  `DecodeLoop.Balanced` says so of
every state that the loop reaches: the depth is the number of open Lists, every accepted
header has been paid for with two bytes at least, and every open List still wants a child.
It is kept by every turn (`Balanced.turn`), with one lemma for a header (`Balanced.begins`)
and one for a delivery (`Balanced.delivers`).

What cannot go wrong follows from it.  There is always a List to pop and a depth to give
back.  No sum of the loop comes near the end of a `usize`, since its terms are bounded by
the length of a slice and by the limits; each function of the cursor has a lemma that says
which errors it can end with, and an overflow is none of them.  And the loop ends within
three turns for each byte of the input.  `decode_loop_bounded` states all of it, on every
target.
-/

namespace SecsRust
namespace Secs2

namespace DecodeLoop

/-- **What every turn finds.**  The depth counts the open Lists, each of these still waits for a
child, and the cursor and the counters are within their limits. -/
structure Balanced (input : List UInt8) (limits : LimitValues) (s : DecodeLoop) : Prop where
  input_eq : s.input = input
  limits_eq : s.limits = limits
  depth : s.depth = s.listStack.length
  shallow : s.depth ≤ limits.maxDepth
  counted : s.acceptedNodes ≤ limits.maxTotalItems
  wanting : ∀ frame ∈ s.listStack, frame.children.length < frame.header.expectedChildren
  within : s.cursor ≤ input.length
  paid : 2 * s.acceptedNodes ≤ s.cursor

variable {target : Target} {input : List UInt8} {limits : LimitValues} {s s' : DecodeLoop}

theorem balanced_start : Balanced input limits (start input limits) where
  input_eq := rfl
  limits_eq := rfl
  depth := rfl
  shallow := Nat.zero_le _
  counted := Nat.zero_le _
  wanting _ hframe := nomatch hframe
  within := Nat.zero_le _
  paid := Nat.zero_le _

namespace Balanced

theorem begins (h : Balanced input limits s) (hbegins : s.Begins s') :
    Balanced input limits s' := by
  cases hbegins with
  | leaf item hforward hwithin =>
    exact { h with within := h.input_eq ▸ hwithin, paid := h.paid.trans hforward }
  | opened header hexpects hshallow =>
    refine { h with
      depth := congrArg (· + 1) h.depth
      shallow := h.limits_eq ▸ hshallow
      wanting := fun frame hframe => ?_ }
    rcases List.mem_cons.mp hframe with rfl | hframe
    · exact hexpects
    · exact h.wanting frame hframe

theorem startItem (h : Balanced input limits s) (hitem : s.startItem target = .ok s') :
    Balanced input limits s' := by
  obtain ⟨cursor, hforward, hwithin, hnodes, hbegins⟩ := startItem_ok hitem
  refine Balanced.begins ?_ hbegins
  have hpaid := h.paid
  exact { h with
    counted := h.limits_eq ▸ hnodes
    within := h.input_eq ▸ hwithin
    paid := show 2 * (s.acceptedNodes + 1) ≤ cursor by omega }

theorem delivers (h : Balanced input limits s) {item : SecsItem} (hdelivers : s.Delivers item s') :
    Balanced input limits s' := by
  cases hdelivers with
  | @kept frame ancestors hstack hwants =>
    refine { h with depth := ?_, wanting := fun frame' hframe => ?_ }
    · exact h.depth.trans (by rw [hstack]; rfl)
    · rcases List.mem_cons.mp hframe with rfl | hframe
      · exact hwants
      · exact h.wanting frame' (hstack ▸ List.mem_cons_of_mem _ hframe)
  | @closed frame ancestors hstack =>
    have hdepth := h.depth
    rw [hstack, List.length_cons] at hdepth
    refine { h with depth := ?_, shallow := (Nat.sub_le _ _).trans h.shallow, wanting :=
      fun frame' hframe => ?_ }
    · show s.depth - 1 = ancestors.length
      omega
    · exact h.wanting frame' (hstack ▸ List.mem_cons_of_mem _ hframe)

/-- **A turn leaves the loop balanced.**  There are four cases: a leaf, an open List, a child
that is kept, and a List that is closed. -/
theorem turn (h : Balanced input limits s) (hturn : s.turn target = .ok (.next s')) :
    Balanced input limits s' := by
  unfold DecodeLoop.turn at hturn
  split at hturn
  · exact h.delivers (deliver_next hturn)
  · cases hitem : s.startItem target with
    | error fault => rw [hitem] at hturn; cases hturn
    | ok next =>
      rw [hitem] at hturn
      cases hturn
      exact h.startItem hitem

end Balanced

/-! ## What does not go wrong -/

/-- The error is not an overflow. -/
def NoOverflow (e : DecodeError) : Prop := ∀ offset, e ≠ .arithmeticOverflow offset

theorem ordinary_error {e : DecodeError} (h : NoOverflow e) : DecodeFault.Ordinary (.error e) :=
  ⟨e, rfl, h⟩

section

variable {e : DecodeError} {fault : DecodeFault}

/-- Below the end of a slice there is room to add. -/
theorem checkedAdd_ne_none {a b : ℕ} (ha : a ≤ target.isizeMax) (hb : b ≤ 2 ^ 24) :
    target.checkedAdd a b ≠ none := by
  have hwide := target.wide
  unfold Target.isizeMax at ha
  unfold u32Max at hwide
  unfold Target.checkedAdd
  rw [if_pos (by omega)]
  exact Option.some_ne_none _

variable {task : DecodeTask} {p : DecodePosition}

theorem readHeader_error (hinput : task.input.length ≤ task.target.isizeMax)
    (h : task.readHeader p = .error e) : NoOverflow e := by
  unfold DecodeTask.readHeader at h
  split at h
  · cases h
    exact fun _ h => nomatch h
  rename_i formatByte hbyte
  split at h
  · cases h
    exact fun _ h => nomatch h
  rename_i count hcount
  split at h
  · cases h
    exact fun _ h => nomatch h
  have hlt := (List.getElem?_eq_some_iff.mp hbyte).choose
  have hsmall := DecodeTask.asCount_le_three count
  split at h
  · rename_i hnone
    exact absurd hnone (checkedAdd_ne_none (by omega) (by omega))
  split at h
  · cases h
    exact fun _ h => nomatch h
  dsimp only at h
  rw [DecodeTask.foldlM_shiftIn ((List.length_take_le _ _).trans hsmall)] at h
  cases h

theorem nextHeader_error {stack : ListStack} (hinput : task.input.length ≤ task.target.isizeMax)
    (h : task.nextHeader stack p = .error e) : NoOverflow e := by
  unfold DecodeTask.nextHeader at h
  split at h
  · split at h
    · split at h
      · cases h
        exact fun _ h => nomatch h
      · cases h
        exact fun _ h => nomatch h
    · cases h
      exact fun _ h => nomatch h
  · rename_i hread
    cases h
    exact readHeader_error hinput hread
  · cases h

theorem noteNode_error {headerOffset : ℕ} (hnodes : p.acceptedNodes ≤ task.target.isizeMax)
    (h : task.noteNode p headerOffset = .error e) : NoOverflow e := by
  unfold DecodeTask.noteNode at h
  split at h
  · rename_i hnone
    exact absurd hnone (checkedAdd_ne_none hnodes (by omega))
  split at h
  · cases h
    exact fun _ h => nomatch h
  · cases h

theorem checkListLimits_error {headerOffset declared : ℕ}
    (hnodes : p.acceptedNodes ≤ task.target.isizeMax) (hdepth : p.depth ≤ task.target.isizeMax)
    (hdeclared : declared < 2 ^ 24) (h : task.checkListLimits p headerOffset declared = .error e) :
    NoOverflow e := by
  unfold DecodeTask.checkListLimits at h
  split at h
  · cases h
    exact fun _ h => nomatch h
  split at h
  · rename_i hnone
    exact absurd hnone (checkedAdd_ne_none hnodes (by omega))
  split at h
  · cases h
    exact fun _ h => nomatch h
  split at h
  · rename_i hnone
    exact absurd hnone (checkedAdd_ne_none hdepth (by omega))
  split at h
  · cases h
    exact fun _ h => nomatch h
  · cases h

/-- A payload that is no List fails with an error of its own. -/
theorem decodeBody_error {headerOffset : ℕ} {body : List UInt8} {code : FormatCode}
    (hcode : code ≠ .list)
    (h : decodeBody headerOffset body code = .error fault) : fault.Ordinary := by
  rw [decodeBody_eq hcode] at h
  cases hbody : DecodeCursor.decodeBody headerOffset body code with
  | ok item => rw [hbody] at h; cases h
  | error e =>
    rw [hbody] at h
    cases h
    refine ordinary_error ?_
    cases code with
    | ascii =>
      unfold DecodeCursor.decodeBody at hbody
      dsimp only at hbody
      split at hbody
      · cases hbody
      · cases hbody
        rintro _ ⟨⟩
    | localized =>
      have hlocalized : DecodeCursor.decodeLocalized headerOffset body = .error e := hbody
      unfold DecodeCursor.decodeLocalized at hlocalized
      split at hlocalized
      · dsimp only at hlocalized
        split at hlocalized
        · cases hlocalized
          rintro _ ⟨⟩
        · cases hlocalized
      · cases hlocalized
        rintro _ ⟨⟩
    | _ => cases hbody

theorem takeBody_error {headerOffset declared : ℕ} {code : FormatCode}
    (hcursor : p.cursor ≤ task.target.isizeMax) (hdeclared : declared < 2 ^ 24)
    (h : task.takeBody p headerOffset code declared = .error e) : NoOverflow e := by
  unfold DecodeTask.takeBody at h
  split at h
  · cases h
    exact fun _ h => nomatch h
  split at h
  · rename_i hnone
    exact absurd hnone (checkedAdd_ne_none hcursor (by omega))
  split at h
  · cases h
    exact fun _ h => nomatch h
  split at h
  · rename_i haligned
    cases h
    unfold checkAlignment at haligned
    split at haligned
    · cases haligned
    · split at haligned
      · cases haligned
      · cases haligned
        exact fun _ h => nomatch h
  · cases h

theorem startBody_error {headerOffset declared : ℕ} {code : FormatCode}
    (hnodes : p.acceptedNodes ≤ task.target.isizeMax) (hdepth : p.depth ≤ task.target.isizeMax)
    (hcursor : p.cursor ≤ task.target.isizeMax) (hdeclared : declared < 2 ^ 24)
    (h : task.startBody payloads p headerOffset code declared = .error fault) : fault.Ordinary := by
  unfold DecodeTask.startBody at h
  split at h
  · split at h
    · rename_i hlimits
      cases h
      exact ordinary_error (checkListLimits_error hnodes hdepth hdeclared hlimits)
    split at h
    · cases h
    split at h
    · rename_i hnone
      exact absurd hnone (checkedAdd_ne_none hdepth (by omega))
    · cases h
  · rename_i hcode
    unfold DecodeTask.decodeScalar at h
    cases htake : task.takeBody p headerOffset code declared with
    | error e =>
      rw [htake] at h
      cases h
      exact ordinary_error (takeBody_error hcursor hdeclared htake)
    | ok taken =>
      obtain ⟨body, next⟩ := taken
      rw [htake] at h
      dsimp only at h
      cases hbody : payloads.body headerOffset body code with
      | error fault' =>
        rw [hbody] at h
        cases h
        exact decodeBody_error hcode hbody
      | ok item =>
        rw [hbody] at h
        cases h

namespace Balanced

/-- The depth is one of the few that limits allow. -/
theorem depth_le (h : Balanced input limits s) : s.depth ≤ target.isizeMax := by
  have hshallow := h.shallow
  have hlimit := (validateLimits_eq_ok.mp limits.valid).2.2.2.2.1
  have hwide := target.wide
  unfold maxDecodeNestingDepth at hlimit
  unfold u32Max at hwide
  unfold Target.isizeMax
  omega

theorem startItem_error (h : Balanced input limits s) (hinput : input.length ≤ target.isizeMax)
    (hfault : s.startItem target = .error fault) : fault.Ordinary := by
  have hslice : s.input.length ≤ target.isizeMax := h.input_eq ▸ hinput
  have hpaid := h.paid
  have hstart : (s.task target).startItem payloads s.listStack s.toDecodePosition =
      .error fault := by
    unfold DecodeLoop.startItem at hfault
    cases hitem : (s.task target).startItem payloads s.listStack s.toDecodePosition with
    | error fault' => rw [hitem] at hfault; exact congrArg Except.error (Except.error.inj hfault)
    | ok started => rw [hitem] at hfault; cases hfault
  unfold DecodeTask.startItem at hstart
  split at hstart
  · rename_i hheader
    cases hstart
    exact ordinary_error (nextHeader_error hslice hheader)
  rename_i code declared read hheader
  obtain ⟨count, hdeclared, hpre, rfl⟩ :=
    DecodeTask.readHeader_ok (DecodeTask.nextHeader_eq_ok.mp hheader)
  have hread : s.cursor + (headerBytes code count declared).length ≤ s.input.length :=
    DecodeTask.cursor_add_le hpre (List.cons_ne_nil _ _)
  rw [length_headerBytes] at hread
  have hpos := count.asCount_pos
  have hnodes : s.acceptedNodes + 1 ≤ target.isizeMax := by omega
  split at hstart
  · rename_i hnoted
    cases hstart
    exact ordinary_error (noteNode_error ((Nat.le_succ _).trans hnodes) hnoted)
  rename_i noted hnoted
  obtain ⟨-, rfl⟩ := DecodeTask.noteNode_ok hnoted
  have hsmall : declared < 2 ^ 24 := hdeclared.trans_le
    ((Nat.pow_le_pow_right (by decide) (DecodeTask.asCount_le_three count)).trans (by decide))
  rw [DecodePosition.after_after] at hstart
  refine startBody_error ?_ ?_ ?_ hsmall hstart
  · exact hnodes
  · exact h.depth_le
  · exact hread.trans hslice

/-- **A turn does not panic and does not overflow.**  Each panic is refuted by one clause of the
invariant, and each addition by the length of a slice. -/
theorem turn_error (h : Balanced input limits s) (hinput : input.length ≤ target.isizeMax)
    (hfault : s.turn target = .error fault) : fault.Ordinary := by
  unfold DecodeLoop.turn at hfault
  split at hfault
  · unfold deliver at hfault
    have hdepth := h.depth
    split at hfault
    · rename_i hstack
      rw [hstack, List.length_nil] at hdepth
      rw [if_pos hdepth] at hfault
      cases hfault
    · rename_i frame ancestors hstack
      rw [hstack, List.length_cons] at hdepth
      dsimp only at hfault
      rw [if_neg (show ¬ s.depth = 0 by omega)] at hfault
      split at hfault <;> cases hfault
  · cases hitem : s.startItem target with
    | error e =>
      rw [hitem] at hfault
      cases hfault
      exact h.startItem_error hinput hitem
    | ok next => rw [hitem] at hfault; cases hfault

end Balanced

end

end DecodeLoop

/-- **The decoder loop is total and bounded.**  On every target, in every turn on every input: the
depth is the number of open Lists and within its limit, as the number of accepted items is; every
open List wants another child; the cursor stays in the input, and a header takes it on; and the turn
neither panics nor overflows.  The loop ends, in a result or in an ordinary error. -/
theorem decode_loop_bounded (target : Target) (input : TargetSlice target) (limits : LimitValues) :
    (∀ s, Loop.Reaches (DecodeLoop.turn target) (.start input.bytes limits) s →
      s.depth = s.listStack.length ∧ s.depth ≤ limits.maxDepth ∧
      s.acceptedNodes ≤ limits.maxTotalItems ∧
      (∀ frame ∈ s.listStack, frame.children.length < frame.header.expectedChildren) ∧
      s.cursor ≤ input.bytes.length ∧
      (∀ parsed s', s.readHeader target = .ok (parsed, s') →
        s.cursor < s'.cursor ∧ s'.cursor ≤ input.bytes.length) ∧
      ∀ fault, s.turn target = .error fault → fault.Ordinary) ∧
    ∃ outcome, Loop.iterate (DecodeLoop.turn target) (3 * input.bytes.length + 1)
        (.start input.bytes limits) = some outcome ∧
      ∀ fault, outcome = .error fault → fault.Ordinary := by
  have hbalanced (s : DecodeLoop) (h : Loop.Reaches (DecodeLoop.turn target)
      (.start input.bytes limits) s) :
      s.Balanced input.bytes limits :=
    h.invariant (fun _ _ hs hturn => hs.turn hturn) DecodeLoop.balanced_start
  refine ⟨fun s hreaches => ?_, ?_⟩
  · have h := hbalanced s hreaches
    refine ⟨h.depth, h.shallow, h.counted, h.wanting, h.within, fun parsed s' hread => ?_,
      fun fault => h.turn_error input.addressable⟩
    obtain ⟨code, declared⟩ := parsed
    obtain ⟨count, -, hpre, rfl⟩ := DecodeTask.readHeader_ok hread
    have hwithin := DecodeTask.cursor_add_le hpre (List.cons_ne_nil _ _)
    rw [length_headerBytes] at hwithin
    exact ⟨Nat.lt_add_of_pos_right (Nat.succ_pos _), h.input_eq ▸ hwithin⟩
  · have hfuel : (DecodeLoop.start input.bytes limits).measure < 3 * input.bytes.length + 1 :=
      Nat.lt_succ_self _
    refine ⟨_, Loop.iterate_eq_run DecodeLoop.measure_turn hfuel, fun fault hrun => ?_⟩
    obtain ⟨last, hreaches, ⟨fault', hturn, hlast⟩ | ⟨result, -, hlast⟩⟩ :=
      Loop.run_last DecodeLoop.measure_turn (DecodeLoop.start input.bytes limits)
    · rw [hrun] at hlast
      rw [Except.error.inj hlast]
      exact (hbalanced last hreaches).turn_error input.addressable hturn
    · rw [hrun] at hlast
      cases hlast

end Secs2
end SecsRust

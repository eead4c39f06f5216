import Mathlib.Tactic

/-!
# Texts as bytes

A text is a list of characters, and its bytes are their UTF-8 encodings.  A reader that
counts bytes can look at any byte, but may cut the text only between two characters: `slice`
has no value where a bound falls inside of one, or behind the end.  For such a reader a cut
inside of a character is not an error that it handles but the end of the program, so it has
to be shown that none of its cuts is one.

What has to be known about the encoding is little.  The first byte of a character below
`0x80` is that character, and the first byte of any other is not below `0x80`
(`firstByte_of_lt`, `le_firstByte`). So a reader that compares bytes with characters below
`0x80` finds the places where these characters are, and no others (`firstByte_eq_iff`).

The places between characters are those that have a list of characters before them.  The
bounds that a reader finds by counting the bytes of characters are such places, and
`slice_append` is the one fact about `slice` that is needed: what stands between two places
between characters can be cut out.
-/

namespace SecsRust

/-- The bytes of a text. -/
def utf8 (text : List Char) : List UInt8 := text.flatMap String.utf8EncodeChar

/-- The byte with which a character starts. -/
def firstByte (c : Char) : UInt8 := (String.utf8EncodeChar c).headD 0

/-- What follows so many bytes, if they end where a character does. -/
def dropBytes : List Char → ℕ → Option (List Char)
  | text, 0 => some text
  | [], _ + 1 => none
  | c :: text, count + 1 =>
    if c.utf8Size ≤ count + 1 then dropBytes text (count + 1 - c.utf8Size) else none

/-- The first so many bytes, if they end where a character does. -/
def takeBytes : List Char → ℕ → Option (List Char)
  | _, 0 => some []
  | [], _ + 1 => none
  | c :: text, count + 1 =>
    if c.utf8Size ≤ count + 1 then (takeBytes text (count + 1 - c.utf8Size)).map (c :: ·) else none

/-- The characters between two bounds, if both are bounds between characters. -/
def slice (text : List Char) (start stop : ℕ) : Option (List Char) :=
  if start ≤ stop then (dropBytes text start).bind fun rest =>
    takeBytes rest (stop - start) else none

/-! ## Bytes -/

section

variable {c : Char} {text before middle : List Char}

@[simp] theorem utf8_nil : utf8 [] = [] := rfl

@[simp] theorem utf8_cons (c : Char) (text : List Char) :
    utf8 (c :: text) = String.utf8EncodeChar c ++ utf8 text :=
  List.flatMap_cons

@[simp] theorem utf8_append (before text : List Char) :
    utf8 (before ++ text) = utf8 before ++ utf8 text :=
  List.flatMap_append

theorem utf8EncodeChar_of_lt (h : c.toNat < 0x80) :
    String.utf8EncodeChar c = [UInt8.ofNat c.toNat] := by
  have hle : c.val.toNat ≤ 0x7f := Nat.lt_succ_iff.mp h
  unfold String.utf8EncodeChar
  rw [if_pos hle]
  rfl

/-- A character below `0x80` is one byte. -/
theorem utf8_cons_of_lt (h : c.toNat < 0x80) :
    utf8 (c :: text) = UInt8.ofNat c.toNat :: utf8 text := by
  rw [utf8_cons, utf8EncodeChar_of_lt h]
  rfl

theorem length_utf8_of_lt (h : ∀ c ∈ text, c.toNat < 0x80) : (utf8 text).length = text.length := by
  induction text with
  | nil => rfl
  | cons c text ih =>
    obtain ⟨hc, htext⟩ := List.forall_mem_cons.mp h
    rw [utf8_cons_of_lt hc, List.length_cons, List.length_cons, ih htext]

theorem firstByte_of_lt (h : c.toNat < 0x80) : (firstByte c).toNat = c.toNat := by
  rw [firstByte, utf8EncodeChar_of_lt h, List.headD_cons, UInt8.toNat_ofNat']
  omega

/-- **The first byte of a longer character** is none of the characters that are one byte. -/
theorem le_firstByte (h : 0x80 ≤ c.toNat) : 0x80 ≤ (firstByte c).toNat := by
  have hnot : ¬ c.val.toNat ≤ 0x7f := Nat.not_le.mpr h
  unfold firstByte String.utf8EncodeChar
  dsimp only
  rw [if_neg hnot]
  split_ifs <;> simp only [List.headD_cons, UInt8.toNat_ofNat'] <;> omega

theorem head_utf8 (text : List Char) : (utf8 text).head? = text.head?.map firstByte := by
  cases text with
  | nil => rfl
  | cons c text =>
    cases hc : String.utf8EncodeChar c with
    | nil => exact absurd hc String.utf8EncodeChar_ne_nil
    | cons byte bytes => simp [firstByte, hc]

/-- The first byte is below `0x80` exactly when the character is. -/
theorem firstByte_lt : (firstByte c).toNat < 0x80 ↔ c.toNat < 0x80 := by
  constructor
  · intro h
    by_contra hc
    have := le_firstByte (Nat.not_lt.mp hc)
    omega
  · intro h
    rwa [firstByte_of_lt h]

/-- **A byte below `0x80` is told by its character**, and by no other. -/
theorem firstByte_eq_iff {d : Char} {byte : UInt8} (hbyte : byte.toNat = d.toNat)
    (hd : d.toNat < 0x80) :
    firstByte c = byte ↔ c = d := by
  constructor
  · rintro rfl
    have hc : c.toNat < 0x80 := firstByte_lt.mp (hbyte ▸ hd)
    rw [firstByte_of_lt hc] at hbyte
    exact Char.toNat_inj.mp hbyte
  · rintro rfl
    rw [← UInt8.toNat_inj, firstByte_of_lt hd, hbyte]

/-! ## Slices -/

theorem length_utf8_pos (c : Char) (text : List Char) : 0 < (utf8 (c :: text)).length := by
  rw [utf8_cons, List.length_append, String.length_utf8EncodeChar]
  have := c.utf8Size_pos
  omega

theorem length_le_utf8 (text : List Char) : text.length ≤ (utf8 text).length := by
  induction text with
  | nil => exact le_refl _
  | cons c text ih =>
    have := c.utf8Size_pos
    rw [utf8_cons, List.length_append, List.length_cons, String.length_utf8EncodeChar]
    omega

theorem dropBytes_append (before text : List Char) :
    dropBytes (before ++ text) (utf8 before).length = some text := by
  induction before with
  | nil =>
    unfold dropBytes
    cases text <;> rfl
  | cons c before ih =>
    have hlength : (utf8 (c :: before)).length = c.utf8Size + (utf8 before).length := by
      rw [utf8_cons, List.length_append, String.length_utf8EncodeChar]
    obtain ⟨count, hcount⟩ := Nat.exists_eq_succ_of_ne_zero (length_utf8_pos c before).ne'
    rw [hcount, List.cons_append, dropBytes, if_pos (by omega)]
    rwa [show count + 1 - c.utf8Size = (utf8 before).length by omega]

theorem takeBytes_append (before text : List Char) :
    takeBytes (before ++ text) (utf8 before).length = some before := by
  induction before with
  | nil =>
    unfold takeBytes
    cases text <;> rfl
  | cons c before ih =>
    have hlength : (utf8 (c :: before)).length = c.utf8Size + (utf8 before).length := by
      rw [utf8_cons, List.length_append, String.length_utf8EncodeChar]
    obtain ⟨count, hcount⟩ := Nat.exists_eq_succ_of_ne_zero (length_utf8_pos c before).ne'
    rw [hcount, List.cons_append, takeBytes, if_pos (by omega)]
    rw [show count + 1 - c.utf8Size = (utf8 before).length by omega, ih]
    rfl

/-- **What is between two places between characters** can be cut out. -/
theorem slice_append (before middle text : List Char) :
    slice (before ++ (middle ++ text)) (utf8 before).length (utf8 (before ++ middle)).length =
      some middle := by
  rw [utf8_append, List.length_append, slice, if_pos (Nat.le_add_right _ _), dropBytes_append,
    Option.bind_some, Nat.add_sub_cancel_left, takeBytes_append]

/-! ## Bytes behind a place -/

/-- The bytes behind a place between characters. -/
theorem getElem?_utf8_append (before text : List Char) (ahead : ℕ) :
    (utf8 (before ++ text))[(utf8 before).length + ahead]? = (utf8 text)[ahead]? := by
  rw [utf8_append, List.getElem?_append_right (Nat.le_add_right _ _), Nat.add_sub_cancel_left]

theorem getElem?_utf8_zero (text : List Char) : (utf8 text)[0]? = text.head?.map firstByte := by
  rw [← head_utf8, List.head?_eq_getElem?]

/-- Behind a character of one byte comes the next one. -/
theorem getElem?_utf8_succ (h : c.toNat < 0x80) (text : List Char) (ahead : ℕ) :
    (utf8 (c :: text))[ahead + 1]? = (utf8 text)[ahead]? := by
  rw [utf8_cons_of_lt h, List.getElem?_cons_succ]

end

end SecsRust

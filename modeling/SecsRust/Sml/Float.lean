import Mathlib.Data.Int.Log
import SecsRust.Sml.Error

/-!
# Floating-point text

What `str::parse` makes of a float literal, and what is known of the texts that `Display`
and `LowerExp` produce.

Parsing is exact: the literal is a decimal number, and the result is the nearest value of
the target format, to even on a tie, and infinite beyond the largest.
`BinaryFormat.nearest` is that rounding, on bit patterns.  It is computed with natural
numbers, so a literal can be evaluated.

How Rust picks the digits that it prints is not modelled.  A `FloatDisplay` is any choice of
digits for the two forms, and `FloatDisplay.Faithful` says what is relied on for one value:
the text of each form parses back to the same bits.  That is documented for the printing of
floats, and it is the only assumption about it.

The formatter changes the printed text in one way, by a fraction of zero where there is
none, so that the literal is a float to the scanner.  That this changes nothing is
`parse_point_zero`.
-/

namespace SecsRust
namespace Sml

/-! ## Binary formats -/

/-- An IEEE 754 binary format, by the bits of its two fields. -/
structure BinaryFormat where
  significandBits : ℕ
  exponentBits : ℕ

namespace BinaryFormat

/-- `f32`: a significand of 23 bits and an exponent of eight. -/
def binary32 : BinaryFormat := ⟨23, 8⟩

/-- `f64`: a significand of 52 bits and an exponent of eleven. -/
def binary64 : BinaryFormat := ⟨52, 11⟩

variable (format : BinaryFormat)

/-- The exponent of the smallest normal value. -/
def minExponent : ℤ := 2 - 2 ^ (format.exponentBits - 1)

/-- The bits of positive infinity. -/
def infinity : ℕ := (2 ^ format.exponentBits - 1) * 2 ^ format.significandBits

/-- The sign bit. -/
def signBit : ℕ := 2 ^ (format.exponentBits + format.significandBits)

/-- `is_finite`: the pattern without its sign is below that of infinity. -/
def isFinite (bits : ℕ) : Bool := bits % format.signBit < format.infinity

/-- The nearest natural number, to even on a tie. -/
def roundHalfEven (q : ℚ) : ℕ :=
  let below := q.floor.toNat
  if q - below < 1 / 2 then below
  else if 1 / 2 < q - below then below + 1
  else if below % 2 = 0 then below
  else below + 1

/-- The bits of the nearest value.  A significand that is rounded up to the next power of two
carries into the exponent, as its bits say. -/
def nearest (magnitude : ℚ) : ℕ :=
  if magnitude = 0 then 0
  else
    let exponent := max (Int.log 2 magnitude) format.minExponent
    let significand := roundHalfEven (magnitude / 2 ^ (exponent - format.significandBits))
    min ((exponent - format.minExponent).toNat * 2 ^ format.significandBits + significand)
      format.infinity

end BinaryFormat

/-! ## Decimal literals -/

/-- A decimal number: its sign, its digits without the point, and the power of ten they are times.
-/
structure Decimal where
  negative : Bool
  significand : ℕ
  exponent : ℤ
  deriving DecidableEq

namespace Decimal

/-- The number without its sign. -/
def magnitude (d : Decimal) : ℚ := d.significand * 10 ^ d.exponent

/-- The value of an exponent: nothing, or `e` with a signed number. -/
def readExponent : Text → Option ℤ
  | [] => some 0
  | c :: rest =>
    if c = 'e' ∨ c = 'E' then
      let (sign, digits) : ℤ × Text := match rest with
        | '-' :: digits => (-1, digits)
        | '+' :: digits => (1, digits)
        | digits => (1, digits)
      if digits ≠ [] ∧ digits.all Char.isDigit then some (sign * Nat.ofDigitChars 10 digits 0)
      else none
    else none

/-- The number without its sign that a text reads, as its digits and its power of ten. -/
def readMagnitude (text : Text) : Option (ℕ × ℤ) :=
  let int := text.takeWhile Char.isDigit
  let (frac, tail) : Text × Text := match text.dropWhile Char.isDigit with
    | '.' :: tail => (tail.takeWhile Char.isDigit, tail.dropWhile Char.isDigit)
    | tail => ([], tail)
  if int = [] ∧ frac = [] then none
  else (readExponent tail).map fun exponent =>
    (Nat.ofDigitChars 10 (int ++ frac) 0, exponent - frac.length)

/-- The number that a text reads.  The words for infinity and NaN, which `str::parse` accepts as
well, are not among the literals of the scanner. -/
def read (text : Text) : Option Decimal :=
  match text with
  | '-' :: rest => (readMagnitude rest).map fun (significand, exponent) =>
    ⟨true, significand, exponent⟩
  | '+' :: rest => (readMagnitude rest).map fun (significand, exponent) =>
    ⟨false, significand, exponent⟩
  | rest => (readMagnitude rest).map fun (significand, exponent) => ⟨false, significand, exponent⟩

end Decimal

/-- `str::parse` of a float, by its bits. -/
def BinaryFormat.parse (format : BinaryFormat) (text : Text) : Option ℕ :=
  (Decimal.read text).map fun d =>
    (if d.negative then format.signBit else 0) + format.nearest d.magnitude

/-- `str::parse::<f32>`, on the texts that the scanner calls numbers. -/
def parseF4 (text : Text) : Option UInt32 := (BinaryFormat.binary32.parse text).map UInt32.ofNat

/-- `str::parse::<f64>`, on the texts that the scanner calls numbers. -/
def parseF8 (text : Text) : Option UInt64 := (BinaryFormat.binary64.parse text).map UInt64.ofNat

/-- `f32::is_finite`. -/
def isFiniteF4 (bits : UInt32) : Bool := BinaryFormat.binary32.isFinite bits.toNat

/-- `f64::is_finite`. -/
def isFiniteF8 (bits : UInt64) : Bool := BinaryFormat.binary64.isFinite bits.toNat

/-! ## What is printed -/

/-- The text of a sign. -/
def signText (negative : Bool) : Text := if negative then ['-'] else []

/-- A number as `Display` writes it: digits, and behind a point a fraction unless it is empty. -/
structure Positional where
  negative : Bool
  int : Text
  frac : Text
  int_ne_nil : int ≠ []
  int_digits : ∀ c ∈ int, c.isDigit = true
  frac_digits : ∀ c ∈ frac, c.isDigit = true

/-- The fraction with its point. -/
def Positional.fracText (p : Positional) : Text := if p.frac = [] then [] else '.' :: p.frac

/-- The text of a positional number. -/
def Positional.text (p : Positional) : Text := signText p.negative ++ (p.int ++ p.fracText)

/-- A number as `LowerExp` writes it: a positional number and an exponent. -/
structure Scientific where
  mantissa : Positional
  negative : Bool
  exponent : Text
  exponent_ne_nil : exponent ≠ []
  exponent_digits : ∀ c ∈ exponent, c.isDigit = true

/-- The exponent with its `e`. -/
def Scientific.expText (n : Scientific) : Text := 'e' :: (signText n.negative ++ n.exponent)

/-- The text of a number in scientific notation. -/
def Scientific.text (n : Scientific) : Text := n.mantissa.text ++ n.expText

/-- `Display` and `LowerExp` of the finite values of a float type. -/
structure FloatDisplay (α : Type) where
  display : α → Positional
  lowerExp : α → Scientific

/-- Both texts of a value parse back to it. -/
structure FloatDisplay.Faithful {α : Type} (d : FloatDisplay α) (parse : Text → Option α)
    (value : α) :
    Prop where
  display : parse (d.display value).text = some value
  lowerExp : parse (d.lowerExp value).text = some value

/-! ## A fraction of zero -/

/-- Behind the sign stands what is read. -/
theorem read_signText (negative : Bool) {c : Char} {rest : Text} (hc : c.isDigit = true) :
    Decimal.read (signText negative ++ c :: rest) =
      (Decimal.readMagnitude (c :: rest)).map fun (significand, exponent) =>
        ⟨negative, significand, exponent⟩ := by
  cases negative with
  | true => rfl
  | false =>
    show Decimal.read (c :: rest) = _
    unfold Decimal.read
    split
    · rename_i heq
      cases heq
      cases hc
    · rename_i heq
      cases heq
      cases hc
    · rfl

theorem takeWhile_append_stop {p : Char → Bool} {l : Text} (rest : Text) (hl : ∀ c ∈ l, p c = true)
    (hrest : ∀ c ∈ rest.head?, p c = false) :
    (l ++ rest).takeWhile p = l ∧ (l ++ rest).dropWhile p = rest := by
  have hstop : rest.takeWhile p = [] := by
    cases rest with
    | nil => rfl
    | cons c rest => rw [List.takeWhile_cons, hrest c rfl]; rfl
  have htake : (l ++ rest).takeWhile p = l := by
    rw [List.takeWhile_append_of_pos hl, hstop, List.append_nil]
  refine ⟨htake, ?_⟩
  have hsplit : (l ++ rest).takeWhile p ++ (l ++ rest).dropWhile p = l ++ rest :=
    List.takeWhile_append_dropWhile
  rw [htake] at hsplit
  exact List.append_cancel_left hsplit

theorem readMagnitude_digits {int : Text} (hne : int ≠ []) (hdigits : ∀ c ∈ int, c.isDigit = true) :
    Decimal.readMagnitude int = some (Nat.ofDigitChars 10 int 0, 0) := by
  obtain ⟨htake, hdrop⟩ := takeWhile_append_stop [] hdigits (fun _ h => nomatch h)
  rw [List.append_nil] at htake hdrop
  unfold Decimal.readMagnitude
  rw [htake, hdrop]
  simp [hne, Decimal.readExponent]

theorem readMagnitude_point_zero {int : Text} (hdigits : ∀ c ∈ int, c.isDigit = true) :
    Decimal.readMagnitude (int ++ ['.', '0']) = some (10 * Nat.ofDigitChars 10 int 0, -1) := by
  obtain ⟨htake, hdrop⟩ := takeWhile_append_stop ['.', '0'] hdigits fun c hc => by
    cases hc
    rfl
  have hzero : Nat.ofDigitChars 10 (int ++ ['0']) 0 = 10 * Nat.ofDigitChars 10 int 0 := by
    rw [Nat.ofDigitChars_append, Nat.ofDigitChars_cons, Nat.ofDigitChars_nil]
    rfl
  unfold Decimal.readMagnitude
  rw [htake, hdrop]
  show (if int = [] ∧ (['0'] : Text) = [] then none
    else some (Nat.ofDigitChars 10 (int ++ ['0']) 0, (0 : ℤ) - (['0'] : Text).length)) = _
  rw [if_neg (fun h => nomatch h.2), hzero]
  rfl

/-- **A fraction of zero changes nothing.** -/
theorem parse_point_zero (format : BinaryFormat) {p : Positional} (h : p.frac = []) :
    format.parse (p.text ++ ['.', '0']) = format.parse p.text := by
  obtain ⟨c, rest, hint⟩ := List.exists_cons_of_ne_nil p.int_ne_nil
  have hc : c.isDigit = true := p.int_digits c (hint ▸ List.mem_cons_self)
  have htext : p.text = signText p.negative ++ p.int := by
    rw [Positional.text, Positional.fracText, if_pos h, List.append_nil]
  have hread := readMagnitude_digits p.int_ne_nil p.int_digits
  have hread' := readMagnitude_point_zero p.int_digits
  rw [hint] at hread hread'
  rw [htext, hint, List.append_assoc, List.cons_append, BinaryFormat.parse, BinaryFormat.parse,
    read_signText p.negative hc, read_signText p.negative hc, hread, ← List.cons_append, hread']
  have hmagnitude : ((10 * Nat.ofDigitChars 10 (c :: rest) 0 : ℕ) : ℚ) * 10 ^ (-1 : ℤ) =
      Nat.ofDigitChars 10 (c :: rest) 0 * 10 ^ (0 : ℤ) := by
    push_cast
    rw [zpow_neg_one]
    ring
  simp only [Option.map_some, Decimal.magnitude, hmagnitude]

-- both are rounded, to the even neighbour
example : parseF4 "16777217.0".toList = some 0x4B800000 := by decide +kernel
example : parseF4 "16777217".toList = some 0x4B800000 := by decide +kernel

end Sml
end SecsRust

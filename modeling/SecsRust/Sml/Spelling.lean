import SecsRust.Sml.Layout

/-!
# The tokens of what is written

Every literal of the formatter is one token; a leaf is its header, its literals and a
bracket; a List is its header, its children and a bracket, with whitespace of the layout in
between.  The tokens do not depend on the layout, and they stand for the item that was
written.

This file goes through the writers of the formatter, from the literals to the leaves, and
says of each what tokens its text is (`Lexes`) and what they stand for in the grammar.  A
text needs most care: it is written as quoted fragments for printable characters and as
bytes for all others, and the fragments and bytes stand for the characters again
(`spells_writeFragments`).

What Rust prints for a float enters in one place: `floatText_eq` says that the text is in
scientific notation or a positional number with a fraction, and `parse_floatText` that it is
read as the value that was printed.
-/

namespace SecsRust
namespace Sml

open Secs2

/-- The text is one token before everything that does not continue it. -/
def Spells (text : Text) (k : TokenKind) : Prop :=
  ∀ rest ks, EndsNumber rest → Lexes rest ks → Lexes (text ++ rest) (k :: ks)

/-- The text is these tokens before everything. -/
def SpellsAll (text : Text) (tokens : List TokenKind) : Prop :=
  ∀ rest ks, Lexes rest ks → Lexes (text ++ rest) (tokens ++ ks)

theorem SpellsAll.append {text text' : Text} {tokens tokens' : List TokenKind}
    (h : SpellsAll text tokens) (h' : SpellsAll text' tokens') :
    SpellsAll (text ++ text') (tokens ++ tokens') := by
  intro rest ks hrest
  rw [List.append_assoc, List.append_assoc]
  exact h _ _ (h' _ _ hrest)

theorem endsNumber_of {c : Char} {rest : Text} (hc : c.isAlphanum = false) (hdot : c ≠ '.') :
    EndsNumber (c :: rest) := by
  rintro c' ⟨⟩
  exact ⟨hc, hdot⟩

/-! ## Headers -/

/-- The tokens of the opening of an item. -/
def headerKinds (typeName : String) (count : ℕ) : List TokenKind :=
  .lt :: .word typeName.toList ::
    [.lBracket, .int count false (displayInt count), .rBracket]

/-- The name is a word of the scanner. -/
def TypeName (typeName : String) : Prop :=
  ∃ c word, typeName.toList = c :: word ∧ c.isAlpha = true ∧ ¬ (c = 'x' ∨ c = 'X') ∧
    ∀ c ∈ word, c.isAlphanum = true

theorem TypeName.of_all {typeName : String} {c : Char} {word : Text}
    (htext : typeName.toList = c :: word)
    (hc : c.isAlpha = true) (hx : (decide (c = 'x' ∨ c = 'X')) = false)
    (hword : word.all Char.isAlphanum = true) : TypeName typeName :=
  ⟨c, word, htext, hc, of_decide_eq_false hx, List.all_eq_true.mp hword⟩

theorem displayInt_natCast (n : ℕ) : displayInt n = displayNat n := by
  rw [displayInt, Int.natAbs_natCast, decide_eq_false (by omega)]
  rfl

theorem spells_itemHeader {typeName : String} {count : ℕ} (hname : TypeName typeName)
    (hcount : count ≤ i128Max) : SpellsAll (itemHeader typeName count)
    (headerKinds typeName count) := by
  intro rest ks hrest
  obtain ⟨c, word, htext, hc, hx, hword⟩ := hname
  have hint : Lexes (displayInt count ++ ']' :: rest) (.int count false (displayInt count) ::
      .rBracket :: ks) := by
    refine lexes_int ?_ (endsNumber_of rfl (by decide)) (lexes_rBracket hrest)
    rw [Int.natAbs_natCast]
    exact hcount
  have hlexes := lexes_lt (lexes_word hc hx hword (endsNumber_of rfl (by decide)).endsWord
    (lexes_lBracket hint))
  rw [itemHeader, headerKinds, htext, ← displayInt_natCast]
  simp only [List.cons_append, List.append_assoc, List.nil_append] at hlexes ⊢
  exact hlexes

/-! ## Bodies -/

section

variable {α : Type} {text : α → Text} {kind : α → TokenKind} {values : List α}

/-- Elements, each behind its space. -/
theorem lexes_elements (hvalues : ∀ value ∈ values, Spells (text value) (kind value)) {rest : Text}
    {ks : List TokenKind} (hends : EndsNumber rest) (hrest : Lexes rest ks) :
    EndsNumber (elementsText text values ++ rest) ∧
      Lexes (elementsText text values ++ rest) (values.map kind ++ ks) := by
  induction values with
  | nil => exact ⟨hends, hrest⟩
  | cons value values ih =>
    obtain ⟨hhead, htail⟩ := List.forall_mem_cons.mp hvalues
    obtain ⟨hends', hlexes⟩ := ih htail
    have htext : elementsText text (value :: values) ++ rest =
        ' ' :: (text value ++ (elementsText text values ++ rest)) := by
      rw [elementsText, List.flatMap_cons, List.append_assoc]
      rfl
    rw [htext]
    exact ⟨endsNumber_of rfl (by decide), lexes_space (hhead _ _ hends' hlexes)⟩

/-- **A scalar item** is its header, its literals and its bracket. -/
theorem spells_writeScalarItem {typeName : String} (hname : TypeName typeName)
    (hcount : values.length ≤ i128Max) (hvalues : ∀ value ∈ values, Spells (text value)
      (kind value)) :
    SpellsAll (writeScalarItem typeName text values)
      (headerKinds typeName values.length ++ (values.map kind ++ [.gt])) := by
  refine (spells_itemHeader hname hcount).append fun rest ks hrest => ?_
  rw [List.append_assoc, List.append_assoc]
  exact (lexes_elements hvalues (endsNumber_of rfl (by decide)) (lexes_gt hrest)).2

theorem elements_map {Literal : TokenKind → α → Prop}
    (h : ∀ value ∈ values, Literal (kind value) value) :
    Elements Literal (values.map kind) values :=
  List.forall₂_map_left_iff.mpr (List.forall₂_same.mpr h)

end

/-! ## Literals -/

theorem spells_hexByte (byte : UInt8) :
    Spells (hexByteText byte) (.hexByte byte (hexByteText byte)) :=
  fun _ _ hends hrest => lexes_hexByte byte hends.endsWord hrest

theorem spells_boolean (value : Bool) :
    Spells (if value then "TRUE".toList else "FALSE".toList)
      (.word (if value then "TRUE".toList else "FALSE".toList)) := by
  intro rest ks hends hrest
  cases value with
  | true => exact lexes_word (by decide) (by decide) (List.all_eq_true.mp
      (by decide)) hends.endsWord hrest
  | false => exact lexes_word (by decide) (by decide) (List.all_eq_true.mp
      (by decide)) hends.endsWord hrest

theorem spells_int {n : ℤ} (hn : n.natAbs ≤ i128Max) :
    Spells (displayInt n) (.int n false (displayInt n)) :=
  fun _ _ hends hrest => lexes_int hn hends hrest

/-! ## Floats -/

section

variable {α : Type} {d : FloatDisplay α} {value : α}

theorem signText_subset (negative : Bool) : ∀ c ∈ signText negative, c = '-' := by
  cases negative <;> simp [signText]

/-- A positional number has no exponent, and a point only with a fraction. -/
theorem mem_positional {p : Positional} {c : Char} (hc : c ∈ p.text) :
    c = '-' ∨ c.isDigit = true ∨ (c = '.' ∧ p.frac ≠ []) := by
  rw [Positional.text, List.mem_append, List.mem_append] at hc
  rcases hc with hc | hc | hc
  · exact .inl (signText_subset _ c hc)
  · exact .inr (.inl (p.int_digits c hc))
  · rw [Positional.fracText] at hc
    split at hc
    · cases hc
    · rename_i hne
      rcases List.mem_cons.mp hc with rfl | hc
      · exact .inr (.inr ⟨rfl, hne⟩)
      · exact .inr (.inl (p.frac_digits c hc))

theorem point_mem_positional {p : Positional} : '.' ∈ p.text ↔ p.frac ≠ [] := by
  constructor
  · intro h
    rcases mem_positional h with h | h | h
    · exact absurd h (by decide)
    · exact absurd h (by decide)
    · exact h.2
  · intro h
    rw [Positional.text, Positional.fracText, if_neg h]
    simp

theorem exponent_not_mem_positional (p : Positional) : ¬ ('e' ∈ p.text ∨ 'E' ∈ p.text) := by
  rintro (h | h) <;> rcases mem_positional h with h | h | h <;>
    first | exact absurd h (by decide) | exact absurd h.1 (by decide)

/-- The positional number with a fraction of zero. -/
def Positional.withPointZero (p : Positional) : Positional :=
  { p with frac := ['0'], frac_digits := List.all_eq_true.mp (by decide) }

theorem text_withPointZero {p : Positional} (h : p.frac = []) :
    p.withPointZero.text = p.text ++ ['.', '0'] := by
  have hfrac : p.withPointZero.frac ≠ [] := List.cons_ne_nil _ _
  rw [Positional.text, Positional.text, Positional.fracText, Positional.fracText, if_pos h,
    if_neg hfrac, List.append_nil, List.append_assoc]
  rfl

/-- **What is written for a float**: in scientific notation if the positional text is long, and with
a fraction of zero if there is none. -/
theorem floatText_eq (d : FloatDisplay α) (value : α) :
    floatText d value =
      if (d.display value).text.length > scientificNotationSwitchLength then (d.lowerExp value).text
      else if (d.display value).frac = [] then (d.display value).withPointZero.text
      else (d.display value).text := by
  unfold floatText
  dsimp only
  split
  · have he : 'e' ∈ (d.lowerExp value).text := by
      rw [Scientific.text, Scientific.expText]
      simp
    rw [if_neg fun h => h.2 (.inl he)]
  · by_cases hfrac : (d.display value).frac = []
    · have hpoint : ¬ '.' ∈ (d.display value).text := fun h => point_mem_positional.mp h hfrac
      rw [if_pos ⟨hpoint, exponent_not_mem_positional _⟩, if_pos hfrac, text_withPointZero hfrac]
    · rw [if_neg fun h => h.1 (point_mem_positional.mpr hfrac), if_neg hfrac]

theorem spells_float (d : FloatDisplay α) (value : α) :
    Spells (floatText d value) (.float (floatText d value)) := by
  intro rest ks hends hrest
  rw [floatText_eq]
  split
  · exact lexes_scientific _ hends hrest
  · split
    · exact lexes_positional _ (List.cons_ne_nil _ _) hends hrest
    · rename_i hfrac
      exact lexes_positional _ hfrac hends hrest

/-- **The text of a float is read as that float.** -/
theorem parse_floatText {format : BinaryFormat} {ofNat : ℕ → α} {value : α}
    (h : d.Faithful (fun text => (format.parse text).map ofNat) value) :
    (format.parse (floatText d value)).map ofNat = some value := by
  rw [floatText_eq]
  split
  · exact h.lowerExp
  · split
    · rename_i hfrac
      rw [text_withPointZero hfrac, parse_point_zero format hfrac]
      exact h.display
    · exact h.display

end

/-! ## Text -/

theorem toNat_byteChar {byte : UInt8} (h : byte.toNat < 128) :
    (byteChar byte).toNat = byte.toNat := by
  have hvalid : byte.toNat.isValidChar := .inl (by omega)
  unfold byteChar Char.ofNat
  rw [dif_pos hvalid]
  rfl

theorem isQuotableAscii_iff {byte : UInt8} : isQuotableAscii byte = true ↔
    0x20 ≤ byte.toNat ∧ byte.toNat ≤ 0x7E ∧ byte.toNat ≠ 0x22 ∧ byte.toNat ≠ 0x5C := by
  simp only [isQuotableAscii, Bool.and_eq_true, decide_eq_true_eq, bne_iff_ne, ne_eq,
    UInt8.le_iff_toNat_le, ← UInt8.toNat_inj, and_assoc]
  rfl

theorem quotable_byteChar {byte : UInt8} (h : isQuotableAscii byte = true) :
    Quotable (byteChar byte) := by
  obtain ⟨hlow, hhigh, hquote, hbackslash⟩ := isQuotableAscii_iff.mp h
  have htoNat : (byteChar byte).toNat = byte.toNat := toNat_byteChar (by omega)
  refine ⟨fun heq => hquote ?_, fun heq => hbackslash ?_, ?_, ?_⟩
  · rw [← htoNat, heq]
    rfl
  · rw [← htoNat, heq]
    rfl
  · rw [htoNat]
    exact hlow
  · rw [htoNat]
    exact hhigh

/-- A quoted fragment stands for the bytes it was written from. -/
theorem fragmentBytes_map_byteChar {run : List UInt8}
    (h : ∀ byte ∈ run, isQuotableAscii byte = true) :
    fragmentBytes (run.map byteChar) = run := by
  rw [fragmentBytes, List.map_map]
  calc run.map ((fun c => UInt8.ofNat c.toNat) ∘ byteChar) = run.map id := by
        refine List.map_congr_left fun byte hbyte => ?_
        have hhigh := (isQuotableAscii_iff.mp (h byte hbyte)).2.1
        rw [Function.comp_apply, toNat_byteChar (by omega), UInt8.ofNat_toNat, id]
    _ = run := List.map_id run

/-- **Text** is written as fragments and bytes that stand for it. -/
theorem spells_writeFragments (fuel : ℕ) : ∀ bytes : List UInt8, bytes.length ≤ fuel →
    (∀ byte ∈ bytes, byte < 128) → ∃ tokens, AsciiFragments tokens bytes ∧
      ∀ rest ks, EndsNumber rest → Lexes rest ks → EndsNumber (writeFragments fuel bytes ++ rest) ∧
        Lexes (writeFragments fuel bytes ++ rest) (tokens ++ ks) := by
  induction fuel with
  | zero =>
    intro bytes hlength _
    obtain rfl := List.eq_nil_of_length_eq_zero (Nat.le_zero.mp hlength)
    exact ⟨[], .nil, fun rest ks hends hrest => ⟨hends, hrest⟩⟩
  | succ fuel ih =>
    intro bytes hlength hascii
    cases bytes with
    | nil => exact ⟨[], .nil, fun rest ks hends hrest => ⟨hends, hrest⟩⟩
    | cons byte bytes =>
      by_cases hquotable : isQuotableAscii byte = true
      · -- a run of quotable bytes is one fragment, and what is behind it is shorter
        have hsplit : (byte :: bytes).takeWhile isQuotableAscii ++
            (byte :: bytes).dropWhile isQuotableAscii = byte :: bytes :=
              List.takeWhile_append_dropWhile
        have hbehind : ((byte :: bytes).dropWhile isQuotableAscii).length ≤ fuel := by
          rw [List.dropWhile_cons_of_pos hquotable]
          exact (List.dropWhile_sublist _).length_le.trans (Nat.le_of_succ_le_succ hlength)
        obtain ⟨tokens, hfragments, hlexes⟩ := ih _ hbehind fun b hb =>
          hascii b ((List.dropWhile_sublist _).subset hb)
        have hrun : ∀ b ∈ (byte :: bytes).takeWhile isQuotableAscii, isQuotableAscii b = true :=
          List.all_eq_true.mp List.all_takeWhile
        refine ⟨.str (((byte :: bytes).takeWhile isQuotableAscii).map byteChar) :: tokens, ?_, ?_⟩
        · have hstr := AsciiFragments.str (((byte :: bytes).takeWhile isQuotableAscii).map byteChar)
            hfragments
          rw [fragmentBytes_map_byteChar hrun, hsplit] at hstr
          exact hstr
        · intro rest ks hends hrest
          rw [writeFragments, if_pos hquotable, List.cons_append, List.cons_append,
            List.append_assoc, List.cons_append]
          refine ⟨endsNumber_of rfl (by decide),
            lexes_space (lexes_str ?_ (hlexes rest ks hends hrest).2)⟩
          intro c hc
          obtain ⟨b, hb, rfl⟩ := List.mem_map.mp hc
          exact quotable_byteChar (hrun b hb)
      · obtain ⟨tokens, hfragments, hlexes⟩ := ih bytes (Nat.le_of_succ_le_succ hlength) fun b hb =>
          hascii b (List.mem_cons_of_mem _ hb)
        have hbyte : byte ≤ 0x7F := by
          have hless := UInt8.lt_iff_toNat_lt.mp (hascii byte List.mem_cons_self)
          exact UInt8.le_iff_toNat_le.mpr (Nat.le_of_lt_succ hless)
        refine ⟨.hexByte byte (hexByteText byte) :: tokens, .byte _ hbyte hfragments, ?_⟩
        intro rest ks hends hrest
        obtain ⟨hends', hlexes'⟩ := hlexes rest ks hends hrest
        rw [writeFragments, if_neg hquotable, List.cons_append, List.append_assoc]
        exact ⟨endsNumber_of rfl (by decide),
          lexes_space (lexes_hexByte byte hends'.endsWord hlexes')⟩

theorem spells_ascii (text : AsciiString) (hcount : text.bytes.length ≤ i128Max) :
    ∃ tokens, AsciiFragments tokens text.bytes ∧
      SpellsAll (itemHeader "A" text.bytes.length ++ (writeAsciiBody text.bytes ++ ['>']))
        (headerKinds "A" text.bytes.length ++ (tokens ++ [.gt])) := by
  obtain ⟨tokens, hfragments, hlexes⟩ :=
    spells_writeFragments text.bytes.length text.bytes (le_refl _) text.ascii
  refine ⟨tokens, hfragments,
    (spells_itemHeader (.of_all rfl rfl rfl rfl) hcount).append fun rest ks hrest => ?_⟩
  rw [List.append_assoc, List.append_assoc]
  exact (hlexes _ _ (endsNumber_of rfl (by decide)) (lexes_gt hrest)).2

/-! ## Leaves -/

/-- The floats of an item are printed as texts that parse back to them. -/
def Rereads (d : FloatDisplays) : SecsItem → Prop
  | .f4 bits => ∀ value ∈ bits, d.f4.Faithful parseF4 value
  | .f8 bits => ∀ value ∈ bits, d.f8.Faithful parseF8 value
  | _ => True

/-- The texts of an item in all layouts are the same tokens, and these stand for the item if its
floats are read as they were. -/
def Spelled (d : FloatDisplays) (item : SecsItem) : Prop :=
  ∃ tokens, (∀ pretty indent, SpellsAll (itemText d pretty indent item) tokens) ∧
    ((∀ node ∈ item.preorder, Rereads d node) → ItemTokens tokens item)

/-- A leaf whose text is a header and literals. -/
theorem spelled_scalar {d : FloatDisplays} {item : SecsItem} {α : Type} {kind : ItemKind}
    {typeName : String} {text : α → Text} {tokenKind : α → TokenKind} {values : List α}
    (hleaf : item.isList = false) (htext : leafText d item = writeScalarItem typeName text values)
    (hword : typeName.toList = kind.word) (hname : TypeName typeName)
    (hcount : elementCount item = values.length) (hbound : elementCount item ≤ i128Max)
    (hvalues : ∀ value ∈ values, Spells (text value) (tokenKind value))
    (hbody : Rereads d item → LeafBody kind (values.map tokenKind) item) : Spelled d item := by
  refine ⟨headerKinds typeName values.length ++ (values.map tokenKind ++ [.gt]),
    fun pretty indent => ?_, fun hrereads => ?_⟩
  · rw [itemText_leaf hleaf, htext]
    exact spells_writeScalarItem hname (hcount ▸ hbound) hvalues
  · rw [headerKinds, hword]
    refine .leaf ?_ (hbody (hrereads item item.mem_preorder_self))
    rw [hcount]
    exact .declared _ _

/-- Every integer of an item is one that the scanner reads. -/
theorem natAbs_le_i128Max {n low high : ℤ} (hlow : low ≤ n) (hhigh : n < high)
    (hlow' : -2 ^ 63 ≤ low)
    (hhigh' : high ≤ 2 ^ 64) : n.natAbs ≤ i128Max := by
  have hmax : i128Max = 2 ^ 127 - 1 := rfl
  omega

/-- An item of integers. -/
theorem spelled_integers {d : FloatDisplays} {item : SecsItem} {α : Type} {kind : ItemKind}
    {typeName : String} {values : List α} (e : IntegerElement α) (hleaf : item.isList = false)
    (htext : leafText d item =
      writeScalarItem typeName (fun value => displayInt (e.toInt value)) values)
    (hword : typeName.toList = kind.word) (hname : TypeName typeName)
    (hcount : elementCount item = values.length) (hbound : elementCount item ≤ i128Max)
    (hrange : ∀ value, (e.toInt value).natAbs ≤ i128Max)
    (hbody : ∀ ks, Elements (IntegerLiteral e) ks values → LeafBody kind ks item) :
    Spelled d item :=
  spelled_scalar hleaf htext hword hname hcount hbound (fun value _ => spells_int (hrange value))
    fun _ => hbody _ (elements_map fun _ _ => .int false _ rfl)

/-- **Every leaf** is spelled. -/
theorem spelled_leaf {d : FloatDisplays} {item : SecsItem} (hleaf : item.isList = false)
    (hwritable : Writable item) (hbound : elementCount item ≤ i128Max) : Spelled d item := by
  cases item with
  | list children => cases hleaf
  | jis8 bytes => exact hwritable.elim
  | localized text => exact hwritable.elim
  | binary bytes =>
    refine spelled_scalar rfl rfl rfl (.of_all rfl rfl rfl rfl) rfl hbound
      (fun byte _ => spells_hexByte byte) fun _ => .binary ?_
    exact elements_map fun byte _ => .byte byte _
  | boolean values =>
    refine spelled_scalar rfl rfl rfl (.of_all rfl rfl rfl rfl) rfl hbound
      (fun value _ => spells_boolean value) fun _ => .boolean ?_
    refine elements_map fun value _ => ?_
    cases value with
    | true => exact .true
    | false => exact .false
  | ascii text =>
    obtain ⟨tokens, hfragments, hspells⟩ := spells_ascii text hbound
    exact ⟨_, fun _ _ => hspells, fun _ => .leaf (.declared _ _) (.ascii hfragments)⟩
  | f4 bits =>
    refine spelled_scalar rfl rfl rfl (.of_all rfl rfl rfl rfl) rfl hbound
      (fun value _ => spells_float d.f4 value) fun hrereads => .f4 ?_
    exact elements_map fun value hvalue =>
      .float (parse_floatText (hrereads value hvalue)) (hwritable value hvalue)
  | f8 bits =>
    refine spelled_scalar rfl rfl rfl (.of_all rfl rfl rfl rfl) rfl hbound
      (fun value _ => spells_float d.f8 value) fun hrereads => .f8 ?_
    exact elements_map fun value hvalue =>
      .float (parse_floatText (hrereads value hvalue)) (hwritable value hvalue)
  | i1 values =>
    exact spelled_integers .i1 rfl rfl rfl (.of_all rfl rfl rfl rfl) rfl hbound
      (fun value => natAbs_le_i128Max value.le_toInt value.toInt_lt (by norm_num) (by norm_num))
      fun _ => .i1
  | i2 values =>
    exact spelled_integers .i2 rfl rfl rfl (.of_all rfl rfl rfl rfl) rfl hbound
      (fun value => natAbs_le_i128Max value.le_toInt value.toInt_lt (by norm_num) (by norm_num))
      fun _ => .i2
  | i4 values =>
    exact spelled_integers .i4 rfl rfl rfl (.of_all rfl rfl rfl rfl) rfl hbound
      (fun value => natAbs_le_i128Max value.le_toInt value.toInt_lt (by norm_num) (by norm_num))
      fun _ => .i4
  | i8 values =>
    exact spelled_integers .i8 rfl rfl rfl (.of_all rfl rfl rfl rfl) rfl hbound
      (fun value => natAbs_le_i128Max value.le_toInt value.toInt_lt (by norm_num) (by norm_num))
      fun _ => .i8
  | u1 values =>
    exact spelled_integers .u1 rfl rfl rfl (.of_all rfl rfl rfl rfl) rfl hbound
      (fun value => natAbs_le_i128Max (Int.natCast_nonneg _) (Int.ofNat_lt.mpr value.toNat_lt)
        (by norm_num) (by norm_num)) fun _ => .u1
  | u2 values =>
    exact spelled_integers .u2 rfl rfl rfl (.of_all rfl rfl rfl rfl) rfl hbound
      (fun value => natAbs_le_i128Max (Int.natCast_nonneg _) (Int.ofNat_lt.mpr value.toNat_lt)
        (by norm_num) (by norm_num)) fun _ => .u2
  | u4 values =>
    exact spelled_integers .u4 rfl rfl rfl (.of_all rfl rfl rfl rfl) rfl hbound
      (fun value => natAbs_le_i128Max (Int.natCast_nonneg _) (Int.ofNat_lt.mpr value.toNat_lt)
        (by norm_num) (by norm_num)) fun _ => .u4
  | u8 values =>
    exact spelled_integers .u8 rfl rfl rfl (.of_all rfl rfl rfl rfl) rfl hbound
      (fun value => natAbs_le_i128Max (Int.natCast_nonneg _) (Int.ofNat_lt.mpr value.toNat_lt)
        (by norm_num) (by norm_num)) fun _ => .u8

end Sml
end SecsRust

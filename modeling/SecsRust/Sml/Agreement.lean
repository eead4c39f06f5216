import SecsRust.Secs2.Codec.RoundTrip
import SecsRust.Secs2.Codec.Unambiguous
import SecsRust.Sml.RoundTrip

/-!
# The text path and the binary path

Both front ends accept their grammar within the same limits (`parser_accepts_grammar`,
`decoder_accepts_grammar`), although they count in different places and know different
things when they do: the binary path learns the number of children before it sees the first,
and the text path may learn it last.

What is left for them to agree on one tree is that neither grammar has a second tree for the
same input.  The wire grammar has none by `Derives.unique`.  The SML grammar has none by
`ItemTokens.unique` below: the tokens of an item determine it, because a type says what its
body is, a body ends at the first closing bracket, and each literal has one value in its
type.  So each path accepts what was written exactly if the tree is within the limits, and
returns that tree.
-/

namespace SecsRust
namespace Sml

open Secs2

/-! ## Tokens stand for one item -/

section

variable {kind : ItemKind} {ks ks' count count' rest rest' : List TokenKind} {item item' : SecsItem}

theorem word_inj {kind kind' : ItemKind} (h : kind.word = kind'.word) : kind = kind' := by
  cases kind <;> cases kind' <;> first | rfl | exact absurd h (by decide)

/-- A count is recognised by its bracket. -/
theorem Counted.unique {n n' : ℕ} (h : Counted count n) (h' : Counted count' n')
    (hne : rest.head? ≠ some .lBracket) (hne' : rest'.head? ≠ some .lBracket)
    (heq : count ++ rest = count' ++ rest') : rest = rest' := by
  cases h with
  | omitted =>
    cases h' with
    | omitted => exact heq
    | declared => exact absurd (congrArg List.head? heq) hne
  | declared =>
    cases h' with
    | omitted => exact absurd (congrArg List.head? heq).symm hne'
    | declared =>
      simp only [List.cons_append, List.nil_append, List.cons.injEq] at heq
      exact heq.2.2.2

/-- The end of a run of literals is the closing bracket. -/
theorem Elements.gt_notMem {α : Type} {Literal : TokenKind → α → Prop} {values : List α}
    (hliteral : ∀ value, ¬ Literal .gt value) (h : Elements Literal ks values) : .gt ∉ ks := by
  induction h with
  | nil => exact List.not_mem_nil
  | cons head tail ih =>
    rintro (_ | ⟨_, hmem⟩)
    · exact hliteral _ head
    · exact ih hmem

theorem AsciiFragments.gt_notMem {bytes : List UInt8} (h : AsciiFragments ks bytes) : .gt ∉ ks := by
  induction h with
  | nil => exact List.not_mem_nil
  | str fragment rest ih | byte text ascii rest ih =>
    rintro (_ | ⟨_, hmem⟩)
    exact ih hmem

theorem LeafBody.gt_notMem (h : LeafBody kind ks item) : .gt ∉ ks := by
  cases h with
  | ascii fragments => exact fragments.gt_notMem
  | _ elements => exact elements.gt_notMem nofun

/-- What stands before the first stop is the same in equal lists. -/
theorem append_cons_inj {α : Type} {stop : α} {l l' r r' : List α} (hl : stop ∉ l) (hl' : stop ∉ l')
    (h : l ++ stop :: r = l' ++ stop :: r') : l = l' ∧ r = r' := by
  induction l generalizing l' with
  | nil =>
    cases l' with
    | nil => exact ⟨rfl, (List.cons.inj h).2⟩
    | cons a l' => exact absurd ((List.cons.inj h).1 ▸ List.mem_cons_self) hl'
  | cons a l ih =>
    cases l' with
    | nil => exact absurd ((List.cons.inj h).1 ▸ List.mem_cons_self) hl
    | cons a' l' =>
      obtain ⟨rfl, htail⟩ := List.cons.inj h
      obtain ⟨rfl, hr⟩ := ih (fun hmem => hl (List.mem_cons_of_mem _ hmem))
        (fun hmem => hl' (List.mem_cons_of_mem _ hmem)) htail
      exact ⟨rfl, hr⟩

theorem IntegerElement.toInt_injective {α : Type} (e : IntegerElement α) :
    Function.Injective e.toInt := by
  intro v v' h
  have hv := (e.fromScanned_eq_some _ v).mpr rfl
  exact Option.some.inj (hv.symm.trans ((e.fromScanned_eq_some _ v').mpr h.symm))

theorem IntegerLiteral.rightUnique {α : Type} (e : IntegerElement α) :
    Relator.RightUnique (IntegerLiteral e) := by
  rintro token value value' (⟨hex, text, fits⟩ | ⟨text, fits⟩) h'
  all_goals
    cases h'
    rename_i fits'
    exact e.toInt_injective (fits.trans fits'.symm)

theorem FloatLiteral.rightUnique {α : Type} (parse : Text → Option α) (isFinite : α → Bool) :
    Relator.RightUnique (FloatLiteral parse isFinite) := by
  rintro token value value' ⟨reads, -⟩ ⟨reads', -⟩
  exact Option.some.inj (reads.symm.trans reads')

theorem AsciiFragments.unique {bytes bytes' : List UInt8} (h : AsciiFragments ks bytes)
    (h' : AsciiFragments ks bytes') : bytes = bytes' := by
  induction h generalizing bytes' with
  | nil =>
    cases h'
    rfl
  | str fragment rest ih =>
    cases h' with
    | str fragment rest' => rw [ih rest']
  | byte text ascii rest ih =>
    cases h' with
    | byte text ascii rest' => rw [ih rest']

/-- **A body is the body of one item.**  Two runs of literals that end at the same bracket are
compared literal by literal. -/
theorem LeafBody.unique (h : LeafBody kind ks item) (h' : LeafBody kind ks item') :
    item = item' := by
  cases h with
  | binary elements =>
    cases h'
    rename_i elements'
    refine congrArg _ (Relator.RightUnique.forall₂ ?_ elements elements')
    rintro _ _ _ ⟨⟩ ⟨⟩
    rfl
  | boolean elements =>
    cases h'
    rename_i elements'
    refine congrArg _ (Relator.RightUnique.forall₂ ?_ elements elements')
    rintro _ _ _ ⟨⟩ ⟨⟩ <;> rfl
  | ascii fragments =>
    cases h'
    rename_i fragments'
    exact congrArg _ ((AsciiString.mk.injEq _ _ _ _).mpr (fragments.unique fragments'))
  | f4 elements | f8 elements =>
    cases h'
    rename_i elements'
    exact congrArg _ (Relator.RightUnique.forall₂ (FloatLiteral.rightUnique _ _) elements elements')
  | _ elements =>
    cases h'
    rename_i elements'
    exact congrArg _ (Relator.RightUnique.forall₂ (IntegerLiteral.rightUnique _) elements elements')

end

mutual

theorem ItemTokens.unique_append : ∀ {ks ks' : List TokenKind} {item item' : SecsItem},
    ItemTokens ks item → ItemTokens ks' item' → ∀ {rest rest' : List TokenKind},
    ks ++ rest = ks' ++ rest' → item = item' ∧ rest = rest'
  | _, _, _, _, .list counted all, h', rest, rest', h => by
    simp only [List.cons_append, List.append_assoc, List.nil_append] at h
    cases h' with
    | @list count' ks' items' counted' all' =>
      simp only [List.cons_append, List.append_assoc, List.nil_append, List.cons.injEq,
        true_and] at h
      have hitems := counted.unique counted' (all.head_ne rest) (all'.head_ne rest') h
      obtain ⟨rfl, hrest⟩ := all.unique_append all' hitems
      exact ⟨rfl, hrest⟩
    | @leaf kind' count' ks' item' counted' body' =>
      simp only [List.cons_append, List.append_assoc, List.nil_append, List.cons.injEq,
        TokenKind.word.injEq, true_and] at h
      exact absurd (word_inj h.1).symm body'.kind_ne_list
  | _, _, _, _, .leaf counted body, h', rest, rest', h => by
    simp only [List.cons_append, List.append_assoc, List.nil_append] at h
    cases h' with
    | @list count' ks' items' counted' all' =>
      simp only [List.cons_append, List.append_assoc, List.nil_append, List.cons.injEq,
        TokenKind.word.injEq, true_and] at h
      exact absurd (word_inj h.1) body.kind_ne_list
    | @leaf kind' count' ks' item' counted' body' =>
      simp only [List.cons_append, List.append_assoc, List.nil_append, List.cons.injEq,
        TokenKind.word.injEq, true_and] at h
      obtain ⟨hword, hbody⟩ := h
      obtain rfl := word_inj hword
      have hks := counted.unique counted' (body.head_ne rest) (body'.head_ne rest') hbody
      obtain ⟨rfl, hrest⟩ := append_cons_inj body.gt_notMem body'.gt_notMem hks
      exact ⟨body.unique body', hrest⟩

theorem ItemsTokens.unique_append : ∀ {ks ks' : List TokenKind} {items items' : List SecsItem},
    ItemsTokens ks items → ItemsTokens ks' items' → ∀ {rest rest' : List TokenKind},
    ks ++ .gt :: rest = ks' ++ .gt :: rest' → items = items' ∧ rest = rest'
  | _, _, _, _, .nil, h', rest, rest', h => by
    cases h' with
    | nil => exact ⟨rfl, (List.cons.inj h).2⟩
    | cons head' tail' =>
      obtain ⟨_, rfl⟩ := head'.head
      cases h
  | _, _, _, _, .cons head tail, h', rest, rest', h => by
    cases h' with
    | nil =>
      obtain ⟨_, rfl⟩ := head.head
      cases h
    | cons head' tail' =>
      rw [List.append_assoc, List.append_assoc] at h
      obtain ⟨rfl, hnext⟩ := head.unique_append head' h
      obtain ⟨rfl, hrest⟩ := tail.unique_append tail' hnext
      exact ⟨rfl, hrest⟩

end

/-- **Tokens stand for at most one item.**  By induction on the first derivation; the word of the
type decides the rule of the second one. -/
theorem ItemTokens.unique {ks : List TokenKind} {item item' : SecsItem} (h : ItemTokens ks item)
    (h' : ItemTokens ks item') : item = item' := by
  have hsame : ks ++ [] = ks ++ [] := rfl
  exact (h.unique_append h' hsame).1

/-! ## Both paths -/

/-- What was encoded decodes exactly within the limits, and to the tree that was encoded. -/
theorem decodeItem_encoded {item item' : SecsItem} {input : Secs2.ByteSlice} {limits : DecodeLimits}
    (hencode : encodeToVec item = .ok input.bytes) :
    decodeItem limits input = .ok item' ↔ item' = item ∧ item.Within limits := by
  obtain ⟨nodes, hderives, hwire⟩ := derives_of_encode hencode
  rw [decodeItem_eq_ok]
  constructor
  · rintro ⟨⟨nodes', hderives', hwire'⟩, hwithin⟩
    obtain rfl := hderives'.unique hderives (hwire'.symm.trans hwire)
    exact ⟨rfl, hwithin⟩
  · rintro ⟨rfl, hwithin⟩
    exact ⟨⟨nodes, hderives, hwire⟩, hwithin⟩

/-- What was formatted parses exactly within the limits, and to the tree that was formatted. -/
theorem parseItem_formatted {d : FloatDisplays} {style : FormatStyle} {item item' : SecsItem}
    {input : Str} {limits : DecodeLimits} (hrereads : ∀ node ∈ item.preorder, Rereads d node)
    (hformat : formatItem d style item = .ok input.text) :
    parseItem limits input.text = .ok item' ↔ item' = item ∧ item.Within limits := by
  obtain ⟨hspelled, htext⟩ := formatItem_ok hformat
  obtain ⟨kinds, hlexes, hkinds⟩ := hspelled.lexes
  obtain ⟨tokens, hscan, rfl⟩ := (hlexes (decide (style = .pretty))).scan
  rw [← htext] at hscan
  constructor
  · intro h
    obtain ⟨tokens', hscan', htokens, hwithin⟩ := sound_parseItem h
    obtain rfl := Except.ok.inj (hscan'.symm.trans hscan)
    obtain rfl := htokens.unique (hkinds hrereads)
    exact ⟨rfl, hwithin⟩
  · rintro ⟨rfl, hwithin⟩
    exact complete_parseItem hscan (hkinds hrereads) hwithin

/-- **The text path and the binary path enforce the same limits.**  For a tree that was both
formatted and encoded, the parser accepts the text exactly when the decoder accepts the bytes, and
then both return the tree; the floats of the tree are printed as texts that parse back to them. -/
theorem text_and_binary_limits_agree (d : FloatDisplays) (style : FormatStyle) (item : SecsItem)
    (text : Str) (bytes : Secs2.ByteSlice)
    (hrereads : ∀ node ∈ item.preorder, Rereads d node)
    (hformat : formatItem d style item = .ok text.text)
    (hencode : encodeToVec item = .ok bytes.bytes) (limits : DecodeLimits) :
    ((∃ parsed, parseItem limits text.text = .ok parsed) ↔
      ∃ decoded, decodeItem limits bytes = .ok decoded) ∧
    (∀ parsed, parseItem limits text.text = .ok parsed → parsed = item) ∧
    ∀ decoded, decodeItem limits bytes = .ok decoded → decoded = item := by
  have hparse := fun parsed =>
    @parseItem_formatted d style item parsed text limits hrereads hformat
  have hdecode := fun decoded => @decodeItem_encoded item decoded bytes limits hencode
  refine ⟨⟨?_, ?_⟩, fun parsed h => ((hparse parsed).mp h).1, fun decoded h =>
    ((hdecode decoded).mp h).1⟩
  · rintro ⟨parsed, h⟩
    exact ⟨item, (hdecode item).mpr ⟨rfl, ((hparse parsed).mp h).2⟩⟩
  · rintro ⟨decoded, h⟩
    exact ⟨item, (hparse item).mpr ⟨rfl, ((hdecode decoded).mp h).2⟩⟩

/-- The text and the bytes of the printed item, under all limits. -/
theorem text_and_binary_limits_agree_of_printed :
    ∃ bytes : Secs2.ByteSlice, encodeToVec printedItem = .ok bytes.bytes ∧ ∀ limits,
      ((∃ parsed, parseItem limits
        "<L[2] <A[2] \"A\" 0x22> <L[3] <F4[1] 5.0> <F8[1] 1e21> <I2[1] -7>>>".toList = .ok parsed) ↔
        ∃ decoded, decodeItem limits bytes = .ok decoded) := by
  have hencode : encodeToVec printedItem = .ok [0x01, 0x02, 0x41, 0x02, 0x41, 0x22,
      0x01, 0x03, 0x91,
      0x04, 0x40, 0xA0, 0x00, 0x00, 0x81, 0x08, 0x44, 0x4B, 0x1A, 0xE4, 0xD6, 0xE2, 0xEF,
      0x50, 0x69, 0x02, 0xFF, 0xF9] := by
    decide +kernel
  refine ⟨⟨_, (encodeToVec_eq_ok.mp hencode).2.2⟩, hencode, fun limits => ?_⟩
  exact (text_and_binary_limits_agree printedFloats .compact printedItem ⟨_, by decide⟩ _
    rereads_printedItem formatItem_printedItem hencode limits).1

end Sml
end SecsRust

import SecsRust.Sml.Bodies

/-!
# What the parser accepts

The parser meets its limits early: it counts an item at its bracket, checks the depth of a
List before its count, and asks for room for a child before it reads one.  A text is refused
as soon as it is too large, and not after its tree has been built.  What has to be shown is
that nothing else is refused for a limit.

`SecsItem.Room` is what the early checks amount to for the items that come next, and
`ItemCursor.Reaches` is where the cursor stands behind them.  Most of the file takes the
parser apart from the inside out: the elements of a body, the type and the count of an item,
the leaves, and the children of a List.  Each part gets one lemma that says what tokens it
accepts, under which limits, and where it stops.

`reads_of_tokens` and `tokens_of_reads` put them together.  The frame loop reads an item
exactly when the tokens that come next stand for it and there is room; the first is an
induction over the grammar, the second over the recursive reading of `Lib.Frames`.
`parseItem_eq_ok` and `parseMessage_eq_ok` are the same for whole texts, where all limits
are still free.
-/

namespace SecsRust
namespace Sml

open Secs2 SecsItem

/-! ## Elements -/

theorem binaryElement_iff (token : Token) (v : UInt8) :
    binaryElement token = some (.ok v) ↔ BinaryLiteral token.kind v := by
  obtain ⟨kind, pos⟩ := token
  constructor
  · intro h
    cases kind with
    | hexByte value text => cases h; exact .byte _ _
    | _ => cases h
  · rintro ⟨⟩
    rfl

theorem booleanElement_iff (token : Token) (v : Bool) :
    booleanElement token = some (.ok v) ↔ BooleanLiteral token.kind v := by
  obtain ⟨kind, pos⟩ := token
  constructor
  · intro h
    cases kind with
    | word word =>
      unfold booleanElement at h
      dsimp only at h
      split at h
      · rename_i hword
        cases h
        exact hword ▸ .true
      · split at h
        · rename_i hword
          cases h
          exact hword ▸ .false
        · cases h
    | _ => cases h
  · rintro ⟨⟩ <;> rfl

section

variable {α : Type}

theorem convertInteger_eq_ok {e : IntegerElement α} {pos : SourcePos} {value : ℤ} {text : Text}
    {v : α} :
    convertInteger e pos value text = .ok v ↔ e.toInt v = value := by
  rw [← e.fromScanned_eq_some, convertInteger]
  cases e.fromScanned value with
  | none => exact iff_of_false (fun h => nomatch h) fun h => nomatch h
  | some element => exact ⟨fun h => congrArg some (Except.ok.inj h), fun h =>
    congrArg _ (Option.some.inj h)⟩

theorem integerElement_iff (e : IntegerElement α) (token : Token) (v : α) :
    integerElement e token = some (.ok v) ↔ IntegerLiteral e token.kind v := by
  obtain ⟨kind, pos⟩ := token
  constructor
  · intro h
    cases kind with
    | int value hex text => exact .int hex text (convertInteger_eq_ok.mp (Option.some.inj h))
    | hexByte value text => exact .byte text (convertInteger_eq_ok.mp (Option.some.inj h))
    | _ => cases h
  · intro h
    cases h with
    | int hex text fits => exact congrArg some (convertInteger_eq_ok.mpr fits)
    | byte text fits => exact congrArg some (convertInteger_eq_ok.mpr fits)

theorem floatElement_iff {target : String} {parse : Text → Option α} {isFinite : α → Bool}
    (token : Token) (v : α) :
    floatElement target (fun text => (parse text).filter isFinite) token = some (.ok v) ↔
      FloatLiteral parse isFinite token.kind v := by
  obtain ⟨kind, pos⟩ := token
  constructor
  · intro h
    cases kind with
    | float text =>
      unfold floatElement at h
      dsimp only at h
      split at h
      · rename_i value hvalue
        cases h
        obtain ⟨hreads, hfinite⟩ := Option.filter_eq_some_iff.mp hvalue
        exact .float hreads hfinite
      · cases h
    | _ => cases h
  · rintro ⟨hreads, hfinite⟩
    unfold floatElement
    dsimp only
    rw [Option.filter_eq_some_iff.mpr ⟨hreads, hfinite⟩]

end

/-! ## Types and counts -/

theorem ite_eq_ok {α ε : Type} {c : Prop} [Decidable c] {a b : α} {x : Except ε α}
    (h : (if c then .ok a else x) = .ok b) : c ∧ a = b ∨ x = .ok b := by
  split at h
  · rename_i hc
    exact .inl ⟨hc, Except.ok.inj h⟩
  · exact .inr h

theorem classifyItemType_eq_ok {word : Text} {pos : SourcePos} {kind : ItemKind} :
    classifyItemType word pos = .ok kind ↔ word = kind.word := by
  constructor
  · intro h
    unfold classifyItemType at h
    iterate 14
      rcases ite_eq_ok h with ⟨rfl, rfl⟩ | h
      · rfl
    split at h <;> cases h
  · rintro rfl
    cases kind <;> rfl

section

variable {c c' : TokenCursor} {declared : Option ℕ}

theorem sound_parseDeclaredCount (h : parseDeclaredCount c = .ok (declared, c')) :
    ∃ count, c.Passes count c' ∧ ∀ n, (∀ m ∈ declared, m = n) → Counted count n := by
  obtain ⟨⟨found, c₁⟩, hpeek, h⟩ := bind_eq_ok.mp h
  have h₁ := TokenCursor.passes_peek hpeek
  dsimp only at h
  split at h
  · obtain ⟨bracket, hbracket⟩ := TokenCursor.kinds_peek hpeek
    obtain ⟨⟨found, c₂⟩, hnext, h⟩ := bind_eq_ok.mp h
    have hkinds : c₁.kinds = .lBracket :: bracket := h₁.kinds.symm.trans hbracket
    obtain ⟨token, c₂', hnext', hkind, h₂, -⟩ := TokenCursor.next_of_kinds hkinds
    rw [hnext'] at hnext
    cases hnext
    obtain ⟨⟨found, c₃⟩, hvalue, h⟩ := bind_eq_ok.mp h
    dsimp only at h
    split at h
    · rename_i value text pos
      have h₃ := TokenCursor.passes_next hvalue
      obtain ⟨_, hrange, h⟩ := bind_eq_ok.mp h
      obtain ⟨hnonneg, -⟩ := ensure_eq_ok.mp hrange
      obtain ⟨⟨found, c₄⟩, hclose, h⟩ := bind_eq_ok.mp h
      dsimp only at h
      split at h
      · have h₄ := TokenCursor.passes_next hclose
        cases h
        refine ⟨[.lBracket, .int value false text, .rBracket],
          h₁.trans (h₂.cons (h₃.cons h₄)), fun n hn => ?_⟩
        have hcast : (n : ℤ) = value := by
          rw [← hn _ rfl, Int.toNat_of_nonneg hnonneg]
        exact hcast ▸ .declared n text
      · cases h
    · cases h
  · cases h
    exact ⟨[], h₁, fun n _ => .omitted n⟩

/-- A count that comes next is read, unless a bracket follows that could be taken for one. -/
theorem complete_parseDeclaredCount {count rest : List TokenKind} {n : ℕ}
    (hcounted : Counted count n)
    (hn : n ≤ usizeMax) (hkinds : c.kinds = count ++ rest) (hrest : rest.head? ≠ some .lBracket)
    (hnonempty : rest ≠ []) :
    ∃ declared c', parseDeclaredCount c = .ok (declared, c') ∧ c.Passes count c' ∧
      ∀ m ∈ declared, m = n := by
  cases hcounted with
  | omitted =>
    obtain ⟨k, rest, rfl⟩ := List.exists_cons_of_ne_nil hnonempty
    obtain ⟨⟨kind, pos⟩, c', hpeek, rfl, hpasses⟩ := TokenCursor.peek_of_kinds hkinds
    refine ⟨none, c', ?_, hpasses, fun m hm => nomatch hm⟩
    unfold parseDeclaredCount
    rw [bind_ok hpeek]
    dsimp only
    split
    · rename_i heq
      cases heq
      exact absurd rfl hrest
    · rfl
  | declared count text =>
    obtain ⟨⟨_, pos₁⟩, c₁, hpeek, rfl, h₁⟩ := TokenCursor.peek_of_kinds hkinds
    obtain ⟨⟨_, pos₂⟩, c₂, hnext₂, rfl, h₂, hkinds₂⟩ :=
      TokenCursor.next_of_kinds (h₁.kinds.symm.trans hkinds)
    obtain ⟨⟨_, pos₃⟩, c₃, hnext₃, rfl, h₃, hkinds₃⟩ := TokenCursor.next_of_kinds hkinds₂
    obtain ⟨⟨_, pos₄⟩, c₄, hnext₄, rfl, h₄, -⟩ := TokenCursor.next_of_kinds hkinds₃
    have hrange : 0 ≤ (n : ℤ) ∧ (n : ℤ) ≤ usizeMax := ⟨Int.natCast_nonneg n, Int.ofNat_le.mpr hn⟩
    refine ⟨some n, c₄, ?_, h₁.trans (h₂.cons (h₃.cons h₄)), fun m hm =>
      (Option.mem_some.mp hm).symm⟩
    unfold parseDeclaredCount
    rw [bind_ok hpeek]
    dsimp only
    rw [bind_ok hnext₂]
    dsimp only
    rw [bind_ok hnext₃]
    dsimp only
    rw [bind_ok (ensure_of hrange), bind_ok hnext₄]
    rfl

end

/-! ## Leaves -/

theorem LeafBody.elementCount_le {kind : ItemKind} {ks : List TokenKind} {item : SecsItem}
    (h : LeafBody kind ks item) : elementCount item ≤ item.payloadBytes := by
  cases h <;> simp only [elementCount, payloadBytes, le_refl] <;> omega

/-- A body does not start with what could be taken for a count. -/
theorem LeafBody.head_ne {kind : ItemKind} {ks : List TokenKind} {item : SecsItem}
    (h : LeafBody kind ks item) (rest : List TokenKind) :
    (ks ++ .gt :: rest).head? ≠ some .lBracket := by
  cases h with
  | @ascii _ text fragments =>
    generalize text.bytes = bytes at fragments
    cases fragments <;> nofun
  | _ elements =>
    cases elements with
    | nil => nofun
    | cons literal => cases literal <;> nofun

theorem ItemsTokens.head_ne {ks : List TokenKind} {items : List SecsItem} (h : ItemsTokens ks items)
    (rest : List TokenKind) : (ks ++ .gt :: rest).head? ≠ some .lBracket := by
  cases h with
  | nil => nofun
  | cons head tail =>
    obtain ⟨_, rfl⟩ := head.head
    nofun

namespace ItemCursor

variable {s s' s'' : ItemCursor} {ks ks' : List TokenKind} {item : SecsItem}
  {items items' : List SecsItem}

/-- The second cursor is behind these tokens, which have counted these items. -/
structure Reaches (s : ItemCursor) (ks : List TokenKind) (items : List SecsItem) (s' : ItemCursor) :
    Prop where
  tokens : s.tokens.Passes ks s'.tokens
  limits : s'.limits = s.limits
  nodeCount : s'.nodeCount = s.nodeCount + (preorderAll items).length

theorem Reaches.trans (h : s.Reaches ks items s') (h' : s'.Reaches ks' items' s'') :
    s.Reaches (ks ++ ks') (items ++ items') s'' where
  tokens := h.tokens.trans h'.tokens
  limits := h'.limits.trans h.limits
  nodeCount := by
    rw [h'.nodeCount, h.nodeCount, preorderAll_eq_flatMap, preorderAll_eq_flatMap,
      preorderAll_eq_flatMap, List.flatMap_append, List.length_append, Nat.add_assoc]

/-- A start reads the body of a leaf, as the grammar has it. -/
structure StartsLeaf (s : ItemCursor) (declared : Option ℕ) (kind : ItemKind)
    (start : Except ParseError (Started OpenedList SecsItem × ItemCursor)) : Prop where
  sound : ∀ started s', start = .ok (started, s') → ∃ item ks, started = .leaf item ∧
    ClosedBody s.limits declared (LeafBody kind) elementCount payloadBytes ks item ∧
      s.Reaches ks [] s'
  complete : ∀ item ks, ClosedBody s.limits declared
    (LeafBody kind) elementCount payloadBytes ks item →
    ks <+: s.tokens.kinds → ∃ s', start = .ok (.leaf item, s') ∧ s.Reaches ks [] s'

theorem finished_startsLeaf {α : Type} {declared : Option ℕ} {kind : ItemKind} {item : α → SecsItem}
    {parse : TokenCursor → Except ParseError (α × TokenCursor)} {Body : List TokenKind → α → Prop}
    {count bytes : α → ℕ} (hparse : Recognises parse
      (ClosedBody s.limits declared Body count bytes))
    (hbody : ∀ ks leaf, LeafBody kind ks leaf ↔ ∃ value, leaf = item value ∧ Body ks value)
    (hcount : ∀ value, elementCount (item value) = count value)
    (hbytes : ∀ value, (item value).payloadBytes = bytes value) :
    s.StartsLeaf declared kind (s.finished item parse) where
  sound started s' h := by
    obtain ⟨value, tokens, hvalue, rfl, rfl⟩ := finished_eq_ok.mp h
    obtain ⟨_, ⟨body, counted, fits⟩, hpasses⟩ := hparse.sound _ _ _ hvalue
    refine ⟨item value, _, rfl, .closed ((hbody _ _).mpr ⟨value, rfl, body⟩) ?_ ?_, hpasses, rfl,
      rfl⟩
    · rw [hcount]
      exact counted
    · rw [hbytes]
      exact fits
  complete leaf ks hclosed hnext := by
    obtain ⟨body, counted, fits⟩ := hclosed
    obtain ⟨value, rfl, elements⟩ := (hbody _ _).mp body
    rw [hcount] at counted
    rw [hbytes] at fits
    obtain ⟨tokens, hvalue, hpasses⟩ :=
      hparse.complete _ value _ (.closed elements counted fits) hnext
    exact ⟨{ s with tokens := tokens }, finished_eq_ok.mpr ⟨value, tokens, hvalue, rfl, rfl⟩,
      hpasses, rfl, rfl⟩

/-- **Every leaf body** is read as the grammar has it.  One part of the parser for each type;
each is shown to recognise its rule of the grammar. -/
theorem startBody_startsLeaf (typePos : SourcePos) {declared : Option ℕ} {kind : ItemKind}
    (hkind : kind ≠ .list) : s.StartsLeaf declared kind (s.startBody typePos declared kind) := by
  cases kind with
  | list => exact absurd rfl hkind
  | binary =>
    refine finished_startsLeaf (recognises_parseBody binaryElement_iff (fun _ => nofun))
      (fun ks leaf => ⟨?_, ?_⟩) (fun _ => rfl) fun _ => (Nat.mul_one _).symm
    · intro h
      cases h
      exact ⟨_, rfl, ‹_›⟩
    · rintro ⟨values, rfl, elements⟩
      exact .binary elements
  | boolean =>
    refine finished_startsLeaf (recognises_parseBody booleanElement_iff (fun _ => nofun))
      (fun ks leaf => ⟨?_, ?_⟩) (fun _ => rfl) fun _ => (Nat.mul_one _).symm
    · intro h
      cases h
      exact ⟨_, rfl, ‹_›⟩
    · rintro ⟨values, rfl, elements⟩
      exact .boolean elements
  | ascii =>
    refine finished_startsLeaf recognises_parseAsciiBody (fun ks leaf => ⟨?_, ?_⟩) (fun _ => rfl)
      fun _ => rfl
    · intro h
      cases h
      exact ⟨_, rfl, ‹_›⟩
    · rintro ⟨text, rfl, fragments⟩
      exact .ascii fragments
  | f4 | f8 =>
    refine finished_startsLeaf (recognises_parseBody floatElement_iff (fun _ => nofun))
      (fun ks leaf => ⟨?_, ?_⟩) (fun _ => rfl) fun _ => rfl
    · intro h
      cases h
      exact ⟨_, rfl, ‹_›⟩
    · rintro ⟨bits, rfl, elements⟩
      constructor
      exact elements
  | i1 | u1 =>
    refine finished_startsLeaf (recognises_parseBody (integerElement_iff _) (fun _ => nofun))
      (fun ks leaf => ⟨?_, ?_⟩) (fun _ => rfl) fun _ => (Nat.mul_one _).symm
    · intro h
      cases h
      exact ⟨_, rfl, ‹_›⟩
    · rintro ⟨values, rfl, elements⟩
      constructor
      exact elements
  | _ =>
    refine finished_startsLeaf (recognises_parseBody (integerElement_iff _) (fun _ => nofun))
      (fun ks leaf => ⟨?_, ?_⟩) (fun _ => rfl) fun _ => rfl
    · intro h
      cases h
      exact ⟨_, rfl, ‹_›⟩
    · rintro ⟨values, rfl, elements⟩
      constructor
      exact elements

/-! ## The beginning of an item -/

theorem saturatingAdd_one {n : ℕ} (h : n + 1 ≤ usizeMax) :
    saturatingAdd n 1 = n + 1 := min_eq_left h

/-- The cursor stands behind the type of an item and its count. -/
structure Headed (s : ItemCursor) (kind : ItemKind) (count : List TokenKind) (s₁ : ItemCursor) :
    Prop where
  tokens : s.tokens.Passes (.lt :: .word kind.word :: count) s₁.tokens
  limits : s₁.limits = s.limits
  nodeCount : s₁.nodeCount = s.nodeCount + 1

theorem sound_parseOneItem {stack : ListStack} {started : Started OpenedList SecsItem}
    (hsize : s.nodeCount + s.tokens.kinds.length ≤ usizeMax)
    (h : parseOneItem stack s = .ok (started, s')) :
    ∃ kind typePos declared count s₁, s.nodeCount + 1 ≤ s.limits.maxTotalItems ∧
      (kind = .list → stack.length + 1 ≤ s.limits.maxDepth) ∧
      (∀ n, (∀ m ∈ declared, m = n) → Counted count n) ∧ s.Headed kind count s₁ ∧
      s₁.startBody typePos declared kind = .ok (started, s') := by
  obtain ⟨⟨found, c₁⟩, hnext, h⟩ := bind_eq_ok.mp h
  dsimp only at h
  split at h
  · have h₁ := TokenCursor.passes_next hnext
    have hlength : s.nodeCount + 1 ≤ usizeMax := by
      rw [h₁.kinds, List.length_append, List.length_singleton] at hsize
      omega
    rw [saturatingAdd_one hlength] at h
    obtain ⟨_, htotal, h⟩ := bind_eq_ok.mp h
    obtain ⟨⟨found, c₂⟩, hnext, h⟩ := bind_eq_ok.mp h
    dsimp only at h
    split at h
    · have h₂ := TokenCursor.passes_next hnext
      obtain ⟨kind, hkind, hbody⟩ := bind_eq_ok.mp h
      obtain rfl := classifyItemType_eq_ok.mp hkind
      obtain ⟨_, hdepth, hbody⟩ := bind_eq_ok.mp hbody
      obtain ⟨⟨declared, c₃⟩, hcount, hbody⟩ := bind_eq_ok.mp hbody
      obtain ⟨count, h₃, hcounted⟩ := sound_parseDeclaredCount hcount
      exact ⟨kind, _, declared, count, ⟨c₃, s.limits, s.nodeCount + 1⟩, ensure_eq_ok.mp htotal,
        ensure_eq_ok.mp hdepth, hcounted, ⟨h₁.cons (h₂.cons h₃), rfl, rfl⟩, hbody⟩
    · cases h
  · cases h

theorem complete_parseOneItem (stack : ListStack) {kind : ItemKind} {count rest : List TokenKind}
    {n : ℕ}
    (hkinds : s.tokens.kinds = .lt :: .word kind.word :: (count ++ rest))
    (hcounted : Counted count n)
    (hn : n ≤ usizeMax) (hrest : rest.head? ≠ some .lBracket) (hnonempty : rest ≠ [])
    (htotal : s.nodeCount + 1 ≤ s.limits.maxTotalItems)
    (hdepth : kind = .list → stack.length + 1 ≤ s.limits.maxDepth) :
    ∃ typePos declared s₁, parseOneItem stack s = s₁.startBody typePos declared kind ∧
      (∀ m ∈ declared, m = n) ∧ s.Headed kind count s₁ ∧ s₁.tokens.kinds = rest := by
  have hlength : s.nodeCount + 1 ≤ usizeMax := htotal.trans s.limits.total_addressable
  obtain ⟨⟨_, pos₁⟩, c₁, hnext₁, rfl, h₁, hkinds₁⟩ := TokenCursor.next_of_kinds hkinds
  obtain ⟨⟨_, pos₂⟩, c₂, hnext₂, rfl, h₂, hkinds₂⟩ := TokenCursor.next_of_kinds hkinds₁
  obtain ⟨declared, c₃, hcount, h₃, hdeclared⟩ :=
    complete_parseDeclaredCount hcounted hn hkinds₂ hrest hnonempty
  have hclassify : classifyItemType kind.word pos₂ = .ok kind := classifyItemType_eq_ok.mpr rfl
  refine ⟨pos₂, declared, ⟨c₃, s.limits, s.nodeCount + 1⟩, ?_, hdeclared,
    ⟨h₁.cons (h₂.cons h₃), rfl, rfl⟩, h₃.kinds_eq hkinds₂⟩
  unfold parseOneItem
  rw [bind_ok hnext₁]
  dsimp only
  rw [saturatingAdd_one hlength, bind_ok (ensure_of htotal), bind_ok hnext₂]
  dsimp only
  rw [bind_ok hclassify, bind_ok (ensure_of hdepth), bind_ok hcount]

theorem startBody_list {typePos : SourcePos} {declared : Option ℕ}
    {started : Started OpenedList SecsItem} :
    s.startBody typePos declared .list = .ok (started, s') ↔
      (∀ n ∈ declared, n ≤ s.limits.maxListItems) ∧ started = .opened ⟨declared, typePos⟩ ∧
        s' = s := by
  unfold startBody
  rw [bind_eq_ok]
  constructor
  · rintro ⟨_, hcheck, h⟩
    cases h
    exact ⟨ensure_eq_ok.mp hcheck, rfl, rfl⟩
  · rintro ⟨hcheck, rfl, rfl⟩
    exact ⟨(), ensure_of hcheck, rfl⟩

/-! ## Children -/

/-- The check behind every child is never the one that fails. -/
theorem checkAttached_of {limits : DecodeLimits} {frame : Frame OpenedList SecsItem}
    (h : frame.children.length ≤ limits.maxListItems) : checkAttached limits frame = .ok () :=
  ensure_of fun _ => h

theorem sound_nextChild_more {frame : Frame OpenedList SecsItem} {stack : ListStack}
    (h : reader.next frame stack s = .ok (true, s'))
    (hsize : frame.children.length + s.tokens.kinds.length ≤ usizeMax) :
    frame.children.length + 1 ≤ s.limits.maxListItems ∧ s.Reaches [] [] s' := by
  obtain ⟨_, -, h⟩ := bind_eq_ok.mp h
  obtain ⟨⟨found, c₁⟩, hpeek, h⟩ := bind_eq_ok.mp h
  dsimp only at h
  split at h
  · obtain ⟨_, hadmit, h⟩ := bind_eq_ok.mp h
    cases h
    obtain ⟨_, hlist, -⟩ := bind_eq_ok.mp hadmit
    have hle := ensure_eq_ok.mp hlist
    obtain ⟨rest, hkinds⟩ := TokenCursor.kinds_peek hpeek
    have hone : frame.children.length + 1 ≤ usizeMax := by
      rw [hkinds, List.length_cons] at hsize
      omega
    rw [saturatingAdd_one hone] at hle
    exact ⟨hle, TokenCursor.passes_peek hpeek, rfl, rfl⟩
  · obtain ⟨⟨found, c₂⟩, -, h⟩ := bind_eq_ok.mp h
    obtain ⟨_, -, h⟩ := bind_eq_ok.mp h
    cases h
  · cases h

theorem sound_nextChild_close {frame : Frame OpenedList SecsItem} {stack : ListStack}
    (h : reader.next frame stack s = .ok (false, s')) :
    (∀ n ∈ frame.header.declaredCount, n = frame.children.length) ∧ s.Reaches [.gt] [] s' := by
  obtain ⟨_, -, h⟩ := bind_eq_ok.mp h
  obtain ⟨⟨found, c₁⟩, hpeek, h⟩ := bind_eq_ok.mp h
  have h₁ := TokenCursor.passes_peek hpeek
  dsimp only at h
  split at h
  · obtain ⟨_, -, h⟩ := bind_eq_ok.mp h
    cases h
  · obtain ⟨rest, hrest⟩ := TokenCursor.kinds_peek hpeek
    have hkinds : c₁.kinds = .gt :: rest := h₁.kinds.symm.trans hrest
    obtain ⟨token, c₂, hnext, hkind, h₂, -⟩ := TokenCursor.next_of_kinds hkinds
    obtain ⟨⟨found, c₂'⟩, hnext', h⟩ := bind_eq_ok.mp h
    rw [hnext] at hnext'
    cases hnext'
    obtain ⟨_, hcount, h⟩ := bind_eq_ok.mp h
    cases h
    exact ⟨checkDeclaredCount_eq_ok.mp hcount, h₁.trans h₂, rfl, rfl⟩
  · cases h

theorem complete_nextChild_more (frame : Frame OpenedList SecsItem) (stack : ListStack)
    {rest : List TokenKind} (hkinds : s.tokens.kinds = .lt :: rest)
    (hlist : frame.children.length + 1 ≤ s.limits.maxListItems)
    (hcount : ∀ n ∈ frame.header.declaredCount, frame.children.length + 1 ≤ n) :
    ∃ s', reader.next frame stack s = .ok (true, s') ∧ s.Reaches [] [] s' := by
  obtain ⟨⟨_, pos⟩, c₁, hpeek, rfl, h₁⟩ := TokenCursor.peek_of_kinds hkinds
  have hsize := saturatingAdd_one (hlist.trans s.limits.list_addressable)
  have hadmit : admitListChild s.limits frame = .ok () := by
    unfold admitListChild
    dsimp only
    rw [hsize, bind_ok (ensure_of hlist)]
    split
    · rename_i declared hdeclared
      exact ensure_of (hcount declared hdeclared)
    · rfl
  refine ⟨{ s with tokens := c₁ }, ?_, h₁, rfl, rfl⟩
  show nextChild frame stack s = _
  unfold nextChild
  rw [bind_ok (checkAttached_of (Nat.le_of_succ_le hlist)), bind_ok hpeek]
  dsimp only
  rw [bind_ok hadmit]
  rfl

theorem complete_nextChild_close (frame : Frame OpenedList SecsItem) (stack : ListStack)
    {rest : List TokenKind} (hkinds : s.tokens.kinds = .gt :: rest)
    (hlist : frame.children.length ≤ s.limits.maxListItems)
    (hcount : ∀ n ∈ frame.header.declaredCount, n = frame.children.length) :
    ∃ s', reader.next frame stack s = .ok (false, s') ∧ s.Reaches [.gt] [] s' := by
  obtain ⟨⟨_, pos⟩, c₁, hpeek, rfl, h₁⟩ := TokenCursor.peek_of_kinds hkinds
  obtain ⟨token, c₂, hnext, hkind, h₂, -⟩ := TokenCursor.next_of_kinds (h₁.kinds.symm.trans hkinds)
  refine ⟨{ s with tokens := c₂ }, ?_, h₁.trans h₂, rfl, rfl⟩
  show nextChild frame stack s = _
  unfold nextChild
  rw [bind_ok (checkAttached_of hlist), bind_ok hpeek]
  dsimp only
  rw [bind_ok hnext]
  dsimp only
  rw [bind_ok (checkDeclaredCount_eq_ok.mpr hcount)]
  rfl

/-! ## Whole items -/

/-- What is behind the head of an item is behind the item. -/
theorem Headed.reaches {kind : ItemKind} {count body : List TokenKind} {s₁ : ItemCursor}
    (h : s.Headed kind count s₁) (h' : s₁.Reaches body items s')
    (hcount : item.nodeCount = (preorderAll items).length + 1) :
    s.Reaches (.lt :: .word kind.word :: (count ++ body)) [item] s' where
  tokens := h.tokens.trans h'.tokens
  limits := h'.limits.trans h.limits
  nodeCount := by
    have hitem : item.preorder.length = (preorderAll items).length + 1 := hcount
    rw [h'.nodeCount, h.nodeCount, preorderAll_singleton, hitem, Nat.add_assoc, Nat.add_comm 1]

/-- Tokens that are passed are no longer counted. -/
theorem Reaches.size (h : s.Reaches ks items s') (hks : (preorderAll items).length ≤ ks.length)
    (hsize : s.nodeCount + s.tokens.kinds.length ≤ usizeMax) :
    s'.nodeCount + s'.tokens.kinds.length ≤ usizeMax := by
  rw [h.tokens.kinds, List.length_append] at hsize
  rw [h.nodeCount]
  omega

mutual

/-- **What the recursion reads** the tokens stand for, and there was room for it.  By induction
on the reading, with the limits as sums over the items that have been counted. -/
theorem tokens_of_reads : ∀ {stack : ListStack} {s : ItemCursor} {item : SecsItem}
    {s' : ItemCursor},
    reader.Reads stack s item s' → stack.length ≤ s.limits.maxDepth →
    s.nodeCount + s.tokens.kinds.length ≤ usizeMax →
    ∃ ks, ItemTokens ks item ∧ Room s.limits stack.length s.nodeCount [item] ∧
      s.Reaches ks [item] s'
  | stack, s, item, s', .leaf start, hdepth, hsize => by
    obtain ⟨kind, typePos, declared, count, s₁, htotal, -, hcounted, hheaded, hbody⟩ :=
      sound_parseOneItem hsize start
    by_cases hkind : kind = .list
    · subst hkind
      obtain ⟨-, hopened, -⟩ := startBody_list.mp hbody
      cases hopened
    · obtain ⟨leaf, _, hstarted, ⟨body, counted, fits⟩, hreaches⟩ :=
        (startBody_startsLeaf typePos hkind).sound _ _ hbody
      cases hstarted
      rw [hheaded.limits] at fits
      exact ⟨_, .leaf (hcounted _ counted) body, (room_leaf body.leaf).mpr ⟨hdepth, htotal, fits⟩,
        hheaded.reaches hreaches (nodeCount_of_leaf body.leaf)⟩
  | stack, s, _, s', .node start children, _, hsize => by
    have ih := tokens_of_fills children
    obtain ⟨kind, typePos, declared, count, s₁, htotal, hdepth, hcounted, hheaded, hbody⟩ :=
      sound_parseOneItem hsize start
    by_cases hkind : kind = .list
    · subst hkind
      obtain ⟨-, hopened, hstate⟩ := startBody_list.mp hbody
      cases hopened
      have hlength : s.nodeCount + 1 + s₁.tokens.kinds.length ≤ usizeMax := by
        rw [hheaded.tokens.kinds, List.length_append, List.length_cons] at hsize
        omega
      rw [hstate, hheaded.limits, hheaded.nodeCount] at ih
      obtain ⟨ks, rest, hitems, hall, hdeclared, hlist, hroom, hreaches⟩ :=
        ih (hdepth rfl) htotal (Nat.zero_le _) hlength
          (by rw [List.length_nil, Nat.zero_add]; exact (Nat.le_add_left _ _).trans hlength)
      obtain rfl := hitems
      exact ⟨_, .list (hcounted _ hdeclared) hall, room_list.mpr ⟨hlist, hroom⟩,
        hheaded.reaches hreaches rfl⟩
    · obtain ⟨leaf, _, hstarted, -, -⟩ := (startBody_startsLeaf typePos hkind).sound _ _ hbody
      cases hstarted

/-- What is still read for an open List the tokens stand for, and there was room for it. -/
theorem tokens_of_fills : ∀ {frame : Frame OpenedList SecsItem} {stack : ListStack} {s : ItemCursor}
    {items : List SecsItem} {s' : ItemCursor}, reader.Fills frame stack s items s' →
    stack.length + 1 ≤ s.limits.maxDepth → s.nodeCount ≤ s.limits.maxTotalItems →
    frame.children.length ≤ s.limits.maxListItems →
    s.nodeCount + s.tokens.kinds.length ≤ usizeMax →
    frame.children.length + s.tokens.kinds.length ≤ usizeMax →
    ∃ ks rest, items = frame.children ++ rest ∧ ItemsTokens ks rest ∧
      (∀ n ∈ frame.header.declaredCount, n = items.length) ∧ items.length ≤ s.limits.maxListItems ∧
      Room s.limits (stack.length + 1) s.nodeCount rest ∧ s.Reaches (ks ++ [.gt]) rest s'
  | _, _, _, _, _, .close next, hdepth, htotal, hlist, _, _ => by
    obtain ⟨hdeclared, hreaches⟩ := sound_nextChild_close next
    exact ⟨[], [], (List.append_nil _).symm, .nil, hdeclared, hlist, room_nil.mpr ⟨hdepth, htotal⟩,
      hreaches⟩
  | frame, stack, s, items, s', .more next child rest, hdepth, htotal, hlist, hsize, hchildren => by
    have ihchild := tokens_of_reads child
    have ihrest := tokens_of_fills rest
    rename_i s₁ s₂ item
    obtain ⟨hless, hmore⟩ := sound_nextChild_more next hchildren
    obtain ⟨ks, htokens, hroom, hreaches⟩ :=
      ihchild (hmore.limits ▸ hdepth) (hmore.size (Nat.zero_le _) hsize)
    rw [hmore.limits, hmore.nodeCount] at hroom
    have hboth : s.Reaches ks [item] s₂ := hmore.trans hreaches
    have hnodes : (preorderAll [item]).length ≤ ks.length := by
      rw [preorderAll_singleton]
      exact htokens.nodeCount_le
    have htotal₂ : s₂.nodeCount ≤ s₂.limits.maxTotalItems := by
      rw [hboth.nodeCount, hboth.limits]
      exact hroom.total
    have hchildren₂ : (frame.push item).children.length + s₂.tokens.kinds.length ≤ usizeMax := by
      have hpos := item.nodeCount_pos.trans_le htokens.nodeCount_le
      rw [hboth.tokens.kinds, List.length_append] at hchildren
      rw [Frame.push_children, List.length_append, List.length_singleton]
      omega
    obtain ⟨ks', rest', hitems, hall, hdeclared, hlength, hroom', hreaches'⟩ :=
      ihrest (hboth.limits ▸ hdepth) htotal₂
        (by rw [Frame.push_children, List.length_append, hboth.limits]; exact hless)
        (hboth.size hnodes hsize) hchildren₂
    rw [hboth.limits, hboth.nodeCount, preorderAll_singleton] at hroom'
    rw [Frame.push_children, List.append_assoc] at hitems
    refine ⟨ks ++ ks', item :: rest', hitems, .cons htokens hall, hdeclared, hboth.limits ▸ hlength,
      room_cons.mpr ⟨hroom, hroom'⟩, ?_⟩
    rw [List.append_assoc]
    exact hboth.trans hreaches'

end

mutual

/-- **What the tokens that come next stand for** the recursion reads, if there is room.  By
induction on the derivation, so that nothing has to be said of what the parser rejects. -/
theorem reads_of_tokens : ∀ {ks : List TokenKind} {item : SecsItem}, ItemTokens ks item →
    ∀ (stack : ListStack) {s : ItemCursor} {rest : List TokenKind}, s.tokens.kinds = ks ++ rest →
    Room s.limits stack.length s.nodeCount [item] →
    ∃ s', reader.Reads stack s item s' ∧ s.Reaches ks [item] s'
  | _, .list items, .list counted all, stack, s, rest, hkinds, hroom => by
    rename_i count ks
    obtain ⟨hlist, hinner⟩ := room_list.mp hroom
    have hdepth := Nat.le_trans (Nat.le_add_right _ _) hinner.nesting
    have htotal := Nat.le_trans (Nat.le_add_right _ _) hinner.total
    rw [List.cons_append, List.cons_append, List.append_assoc, List.append_assoc] at hkinds
    obtain ⟨typePos, declared, s₁, hstart, hdeclared, hheaded, hrest⟩ := complete_parseOneItem stack
      hkinds counted (hlist.trans s.limits.list_addressable) (all.head_ne rest)
      (List.append_ne_nil_of_right_ne_nil _ (List.cons_ne_nil _ _)) htotal fun _ => hdepth
    have hopened : parseOneItem stack s = .ok (.opened ⟨declared, typePos⟩, s₁) := by
      rw [hstart]
      refine startBody_list.mpr ⟨fun n hn => ?_, rfl, rfl⟩
      rw [hdeclared n hn, hheaded.limits]
      exact hlist
    rw [← hheaded.limits, ← hheaded.nodeCount] at hinner
    obtain ⟨s', hfills, hreaches⟩ := fills_of_tokens all ⟨⟨declared, typePos⟩, []⟩ stack hrest
      (fun n hn => (hdeclared n hn).trans (Nat.zero_add _).symm)
      (by rw [List.length_nil, Nat.zero_add, hheaded.limits]; exact hlist) hinner
    exact ⟨s', .node hopened hfills, hheaded.reaches hreaches rfl⟩
  | _, item, .leaf counted body, stack, s, rest, hkinds, hroom => by
    rename_i kind count ks
    obtain ⟨hdepth, htotal, hfits⟩ := (room_leaf body.leaf).mp hroom
    have hcount : elementCount item ≤ usizeMax :=
      body.elementCount_le.trans (hfits.trans (maxItemBytes_lt s.limits).le)
    rw [List.cons_append, List.cons_append, List.append_assoc, List.append_assoc] at hkinds
    obtain ⟨typePos, declared, s₁, hstart, hdeclared, hheaded, hrest⟩ := complete_parseOneItem stack
      hkinds counted hcount (body.head_ne rest)
      (List.append_ne_nil_of_right_ne_nil _ (List.cons_ne_nil _ _)) htotal
      fun hkind => absurd hkind body.kind_ne_list
    rw [← hheaded.limits] at hfits
    obtain ⟨s', hleaf, hreaches⟩ := (startBody_startsLeaf typePos body.kind_ne_list).complete
      item _ (.closed body hdeclared hfits) ⟨rest, by rw [hrest, List.append_assoc]⟩
    exact ⟨s', .leaf (hstart.trans hleaf), hheaded.reaches hreaches (nodeCount_of_leaf body.leaf)⟩

/-- The children that the tokens stand for fill an open List. -/
theorem fills_of_tokens : ∀ {ks : List TokenKind} {items : List SecsItem}, ItemsTokens ks items →
    ∀ (frame : Frame OpenedList SecsItem) (stack : ListStack) {s : ItemCursor} {rest :
      List TokenKind},
    s.tokens.kinds = ks ++ .gt :: rest →
    (∀ n ∈ frame.header.declaredCount, n = frame.children.length + items.length) →
    frame.children.length + items.length ≤ s.limits.maxListItems →
    Room s.limits (stack.length + 1) s.nodeCount items →
    ∃ s', reader.Fills frame stack s (frame.children ++ items) s' ∧ s.Reaches (ks ++ [.gt]) items s'
  | _, _, .nil, frame, stack, s, rest, hkinds, hdeclared, hlist, _ => by
    obtain ⟨s', hnext, hreaches⟩ := complete_nextChild_close frame stack hkinds hlist hdeclared
    refine ⟨s', ?_, hreaches⟩
    rw [List.append_nil]
    exact .close hnext
  | _, item :: items, .cons head tail, frame, stack, s, rest, hkinds, hdeclared, hlist, hroom => by
    rename_i ks ks'
    obtain ⟨hhead, htail⟩ := room_cons.mp hroom
    rw [List.length_cons] at hdeclared hlist
    obtain ⟨bracket, hbracket⟩ := head.head
    rw [List.append_assoc] at hkinds
    obtain ⟨s₁, hmore, hreaches₁⟩ := complete_nextChild_more frame stack
      (hbracket ▸ hkinds) (by omega) fun n hn => by rw [hdeclared n hn]; omega
    rw [← hreaches₁.limits] at hhead
    have hnodes₁ : s₁.nodeCount = s.nodeCount := hreaches₁.nodeCount
    obtain ⟨s₂, hchild, hreaches₂⟩ := reads_of_tokens head (frame :: stack)
      (hreaches₁.tokens.kinds.symm.trans hkinds) (hnodes₁ ▸ hhead)
    have hboth : s.Reaches ks [item] s₂ := hreaches₁.trans hreaches₂
    have hnodes₂ : s₂.nodeCount = s.nodeCount + item.nodeCount := by
      rw [hboth.nodeCount, preorderAll_singleton]
      rfl
    rw [← hboth.limits, ← hnodes₂] at htail
    have hpushed : (frame.push item).children.length = frame.children.length + 1 :=
      List.length_append
    obtain ⟨s', hfills, hreaches₃⟩ := fills_of_tokens tail (frame.push item) stack
      (hboth.tokens.kinds_eq hkinds)
      (fun n hn => by rw [hdeclared n hn, hpushed]; omega)
      (by rw [hpushed, hboth.limits]; omega) htail
    rw [Frame.push_children, List.append_assoc] at hfills
    refine ⟨s', .more hmore hchild hfills, ?_⟩
    rw [List.append_assoc]
    exact hboth.trans hreaches₃

end

end ItemCursor

end Sml
end SecsRust

import SecsRust.Sml.Cursor

/-!
# The bodies of leaves

Every leaf body is a loop that takes tokens up to the closing bracket, admits each element
before it converts it, and compares the declared count at the end.  The loops accept exactly
the bodies of the grammar whose bytes are within the limit and whose count is the declared
one, if there is one.

The loops of the element types differ in their width and in how a token is converted, and
are one loop here with these as parameters (`recognises_parseBody`).  Text is different,
since one token of it may hold any number of characters and a byte may stand beside a quoted
fragment (`recognises_parseAsciiBody`).

Forward the proof uses the invariant rule for loops: what has been read so far is a body,
with so many elements and so many bytes.  Backward it is an induction on the body, and each
element is admitted because the whole body is.
-/

namespace SecsRust
namespace Sml

open Secs2

/-- A sum that saturates is compared with a limit below `usize::MAX` as the sum itself. -/
theorem min_usizeMax_le {a m : ℕ} (hm : m < usizeMax) : min a usizeMax ≤ m ↔ a ≤ m := by
  rw [min_le_iff]
  omega

/-- A body up to its bracket, within a declared count and the limit on its bytes.  It is what a
loop over elements accepts, in terms of the values that it returns. -/
inductive ClosedBody (limits : DecodeLimits) (declared : Option ℕ) {α : Type}
    (Body : List TokenKind → α → Prop) (count bytes : α → ℕ) : List TokenKind → α → Prop where
  | closed {ks : List TokenKind} {value : α} (body : Body ks value)
      (counted : ∀ n ∈ declared, n = count value) (fits : bytes value ≤ limits.maxItemBytes) :
      ClosedBody limits declared Body count bytes (ks ++ [.gt]) value

section

variable {limits : DecodeLimits} {typePos : SourcePos} {declared : Option ℕ}

/-! ## Checks -/

theorem maxItemBytes_lt (limits : DecodeLimits) : limits.maxItemBytes < usizeMax :=
  Nat.lt_of_le_of_lt limits.bytes_le (by decide)

theorem checkDeclaredBytes_of {width : ℕ} (h : ∀ n ∈ declared, n * width ≤ limits.maxItemBytes) :
    checkDeclaredBytes limits typePos declared width = .ok () := by
  cases declared with
  | none => rfl
  | some count => exact ensure_of ((min_usizeMax_le (maxItemBytes_lt limits)).mpr (h count rfl))

theorem checkDeclaredCount_eq_ok {actual : ℕ} :
    checkDeclaredCount typePos declared actual = .ok () ↔ ∀ n ∈ declared, n = actual := by
  cases declared with
  | none => exact iff_of_true rfl fun _ h => nomatch h
  | some count =>
    rw [checkDeclaredCount, ensure_eq_ok]
    exact ⟨fun h n hn => Option.mem_some.mp hn ▸ h, fun h => h count rfl⟩

/-- What has been admitted is counted in full. -/
theorem admitBodyElement_eq {bodyBytes elementCount elementBytes elementGain projected : ℕ}
    (h : admitBodyElement limits typePos declared bodyBytes elementCount elementBytes elementGain =
      .ok projected) :
    projected = bodyBytes + elementBytes ∧ projected ≤ limits.maxItemBytes := by
  obtain ⟨_, hbytes, h⟩ := bind_eq_ok.mp h
  have hle := (min_usizeMax_le (maxItemBytes_lt limits)).mp (ensure_eq_ok.mp hbytes)
  have hsum : saturatingAdd bodyBytes elementBytes = bodyBytes + elementBytes :=
    min_eq_left (hle.trans (maxItemBytes_lt limits).le)
  have hprojected : projected = saturatingAdd bodyBytes elementBytes := by
    dsimp only at h
    split at h
    · obtain ⟨_, -, h⟩ := bind_eq_ok.mp h
      exact (pure_eq_ok.mp h).symm
    · exact (pure_eq_ok.mp h).symm
  rw [hprojected, hsum]
  exact ⟨rfl, hle⟩

theorem admitBodyElement_of {bodyBytes elementCount elementBytes elementGain : ℕ}
    (hbytes : bodyBytes + elementBytes ≤ limits.maxItemBytes)
    (hcount : ∀ n ∈ declared, elementCount + elementGain ≤ n) :
    admitBodyElement limits typePos declared bodyBytes elementCount elementBytes elementGain =
      .ok (bodyBytes + elementBytes) := by
  have hle : saturatingAdd bodyBytes elementBytes ≤ limits.maxItemBytes :=
    (min_usizeMax_le (maxItemBytes_lt limits)).mpr hbytes
  have hsum : saturatingAdd bodyBytes elementBytes = bodyBytes + elementBytes :=
    min_eq_left (hbytes.trans (maxItemBytes_lt limits).le)
  unfold admitBodyElement
  dsimp only
  rw [bind_ok (ensure_of hle), hsum]
  cases declared with
  | none => rfl
  | some count =>
    have hless : saturatingAdd elementCount elementGain ≤ count :=
      (min_le_left _ _).trans (hcount count rfl)
    dsimp only
    rw [bind_ok (ensure_of hless)]
    rfl

/-! ## Elements of one width -/

section

variable {α : Type} {expected : String} {width : ℕ} {element : Token → Option (Except ParseError α)}
  {Literal : TokenKind → α → Prop}

theorem next_bodyTurn (helement : ∀ token v, element token = some (.ok v) → Literal token.kind v)
    {s s' : BodyState α}
    (h : bodyTurn limits typePos declared expected width element s = .ok (.next s')) :
    ∃ token v, s.tokens.next = .ok (some token, s'.tokens) ∧ Literal token.kind v ∧
      s'.values = s.values ++ [v] ∧ s'.bodyBytes = s.bodyBytes + width ∧
      s'.bodyBytes ≤ limits.maxItemBytes := by
  obtain ⟨⟨found, next⟩, hnext, h⟩ := bind_eq_ok.mp h
  dsimp only at h
  split at h
  · rename_i token
    split at h
    · obtain ⟨_, -, h⟩ := bind_eq_ok.mp h
      cases h
    · split at h
      · rename_i converted hconverted
        obtain ⟨bodyBytes, hadmit, h⟩ := bind_eq_ok.mp h
        obtain ⟨v, rfl, h⟩ := bind_eq_ok.mp h
        cases h
        obtain ⟨hsum, hle⟩ := admitBodyElement_eq hadmit
        exact ⟨token, v, hnext, helement token v hconverted, rfl, hsum, hle⟩
      · cases h
  · cases h

/-- What the loop has read so far is a body. -/
theorem sound_parseBody (helement : ∀ token v, element token = some (.ok v) → Literal token.kind v)
    {c c' : TokenCursor} {values : List α}
    (h : parseBody limits typePos declared expected width element c = .ok (values, c')) :
    ∃ ks, ClosedBody limits declared (Elements Literal) List.length
      (fun values => values.length * width)
      ks values ∧ c.Passes ks c' := by
  obtain ⟨_, -, h⟩ := bind_eq_ok.mp h
  refine Loop.run_rule
    (P := fun s => ∃ ks, Elements Literal ks s.values ∧ c.Passes ks s.tokens ∧
      s.bodyBytes = s.values.length * width ∧ s.bodyBytes ≤ limits.maxItemBytes)
    (Q := fun result => ∃ ks, ClosedBody limits declared (Elements Literal) List.length
      (fun values => values.length * width) ks result.1 ∧ c.Passes ks result.2)
    size_bodyTurn ?_ ?_ ⟨[], .nil, .refl c, (Nat.zero_mul width).symm, Nat.zero_le _⟩ h
  · rintro s s' ⟨ks, hvalues, hpasses, hbytes, -⟩ hturn
    obtain ⟨token, v, hnext, hliteral, hvalues', hbytes', hle⟩ := next_bodyTurn helement hturn
    refine ⟨ks ++ [token.kind], ?_, hpasses.trans (TokenCursor.passes_next hnext), ?_, hle⟩
    · rw [hvalues']
      exact List.rel_append hvalues (.cons hliteral .nil)
    · rw [hbytes', hvalues', hbytes, List.length_append, List.length_singleton, Nat.succ_mul]
  · rintro s ⟨values, final⟩ ⟨ks, hvalues, hpasses, hbytes, hle⟩ hturn
    obtain ⟨token, hnext, hgt, rfl, hcount⟩ := done_bodyTurn hturn
    have hclose := TokenCursor.passes_next hnext
    rw [hgt] at hclose
    exact ⟨ks ++ [.gt], .closed hvalues (checkDeclaredCount_eq_ok.mp hcount) (hbytes ▸ hle),
      hpasses.trans hclose⟩

/-- The loop reads a body that comes next; `s` has read a part of it. -/
theorem complete_bodyRun (helement : ∀ token v, Literal token.kind v → element token = some (.ok v))
    (hgt : ∀ v, ¬ Literal .gt v) {ks : List TokenKind} {values : List α}
    (hvalues : Elements Literal ks values) : ∀ {s : BodyState α}, ks ++ [.gt] <+: s.tokens.kinds →
    s.bodyBytes = s.values.length * width → (∀ n ∈ declared, n = s.values.length + values.length) →
    (s.values.length + values.length) * width ≤ limits.maxItemBytes →
    ∃ c', Loop.run (bodyTurn limits typePos declared expected width element)
      (fun s => s.tokens.size) size_bodyTurn s = .ok (s.values ++ values, c') ∧
        s.tokens.Passes (ks ++ [.gt]) c' := by
  induction hvalues with
  | nil =>
    rintro s ⟨rest, hrest⟩ hbytes hcount hfits
    obtain ⟨token, c', hnext, hkind, hpasses, -⟩ := TokenCursor.next_of_kinds hrest.symm
    rw [List.length_nil, Nat.add_zero] at hcount
    refine ⟨c', ?_, hpasses⟩
    have hturn : bodyTurn limits typePos declared expected width element s =
        .ok (.done (s.values, c')) := by
      unfold bodyTurn
      rw [bind_ok hnext]
      dsimp only
      rw [if_pos hkind, bind_ok (checkDeclaredCount_eq_ok.mpr hcount)]
      rfl
    rw [Loop.run_eq, hturn, List.append_nil]
  | @cons k v ks values hliteral hvalues ih =>
    rintro s ⟨rest, hrest⟩ hbytes hcount hfits
    obtain ⟨token, c', hnext, rfl, hpasses, hkinds⟩ := TokenCursor.next_of_kinds hrest.symm
    rw [List.length_cons] at hcount hfits
    have hless : s.values.length + 1 ≤ s.values.length + (values.length + 1) := by omega
    have hadmit : admitBodyElement limits typePos declared s.bodyBytes s.values.length width 1 =
        .ok (s.bodyBytes + width) := by
      refine admitBodyElement_of ?_ fun n hn => (hcount n hn) ▸ hless
      rw [hbytes, ← Nat.succ_mul]
      exact (Nat.mul_le_mul_right width hless).trans hfits
    have hopen : token.kind ≠ .gt := fun h => hgt v (h ▸ hliteral)
    have hturn : bodyTurn limits typePos declared expected width element s =
        .ok (.next ⟨c', s.values ++ [v], s.bodyBytes + width⟩) := by
      unfold bodyTurn
      rw [bind_ok hnext]
      dsimp only
      rw [if_neg hopen, helement token v hliteral]
      dsimp only
      rw [bind_ok hadmit]
      rfl
    have hlength : (s.values ++ [v]).length = s.values.length + 1 := List.length_append
    obtain ⟨c'', hrun, hrest'⟩ := ih (s := ⟨c', s.values ++ [v], s.bodyBytes + width⟩)
      ⟨rest, hkinds.symm⟩ (by rw [hlength, hbytes, Nat.succ_mul])
      (fun n hn => by rw [hcount n hn, hlength]; omega)
      (by rw [hlength, Nat.add_right_comm]; exact hfits)
    refine ⟨c'', ?_, hpasses.cons hrest'⟩
    rw [Loop.run_eq, hturn]
    dsimp only
    rw [hrun, List.append_assoc, List.singleton_append]

/-- **A body of elements** is accepted exactly when it is one, has the declared count and is
within the limit.  The order of the checks does not matter for it: all of them have to be passed. -/
theorem recognises_parseBody
    (helement : ∀ token v, element token = some (.ok v) ↔ Literal token.kind v)
    (hgt : ∀ v, ¬ Literal .gt v) :
    Recognises (parseBody limits typePos declared expected width element)
      (ClosedBody limits declared (Elements Literal) List.length
        (fun values => values.length * width)) where
  sound c values c' h := sound_parseBody (fun token v => (helement token v).mp) h
  complete c values ks hclosed hnext := by
    obtain ⟨hvalues, hcount, hfits⟩ := hclosed
    have hbytes : ∀ n ∈ declared, n * width ≤ limits.maxItemBytes := by
      intro n hn
      rw [hcount n hn]
      exact hfits
    have hrun : ∃ c', Loop.run (bodyTurn limits typePos declared expected width element)
        (fun s => s.tokens.size) size_bodyTurn ⟨c, [], 0⟩ = .ok ([] ++ values, c') ∧
          c.Passes _ c' :=
      complete_bodyRun (fun token v => (helement token v).mpr) hgt hvalues hnext
        (Nat.zero_mul width).symm (fun n hn => (hcount n hn).trans (Nat.zero_add _).symm)
        (by rw [List.length_nil, Nat.zero_add]; exact hfits)
    obtain ⟨c', hrun, hpasses⟩ := hrun
    refine ⟨c', ?_, hpasses⟩
    unfold parseBody
    rw [bind_ok (checkDeclaredBytes_of hbytes)]
    exact hrun

end

/-! ## Text -/

theorem AsciiFragments.append {ks ks' : List TokenKind} {bytes bytes' : List UInt8}
    (h : AsciiFragments ks bytes) (h' : AsciiFragments ks' bytes') :
    AsciiFragments (ks ++ ks') (bytes ++ bytes') := by
  induction h with
  | nil => exact h'
  | str fragment rest ih =>
    rw [List.append_assoc]
    exact .str fragment ih
  | byte text ascii rest ih => exact .byte text ascii ih

theorem next_asciiTurn {s s' : BodyState UInt8}
    (h : asciiTurn limits typePos declared s = .ok (.next s')) :
    ∃ token bytes, s.tokens.next = .ok (some token, s'.tokens) ∧ AsciiFragments [token.kind] bytes ∧
      s'.values = s.values ++ bytes ∧ s'.bodyBytes = s.bodyBytes + bytes.length ∧
      s'.bodyBytes ≤ limits.maxItemBytes := by
  obtain ⟨⟨found, next⟩, hnext, h⟩ := bind_eq_ok.mp h
  dsimp only at h
  split at h
  · obtain ⟨_, -, h⟩ := bind_eq_ok.mp h
    cases h
  · rename_i fragment pos
    obtain ⟨charCount, hadmit, h⟩ := bind_eq_ok.mp h
    cases h
    obtain ⟨hsum, hle⟩ := admitBodyElement_eq hadmit
    refine ⟨_, fragmentBytes fragment, hnext, ?_, rfl, ?_, hle⟩
    · rw [← List.append_nil (fragmentBytes fragment)]
      exact .str fragment .nil
    · rw [length_fragmentBytes]
      exact hsum
  · rename_i value text pos
    obtain ⟨charCount, hadmit, h⟩ := bind_eq_ok.mp h
    obtain ⟨_, hascii, h⟩ := bind_eq_ok.mp h
    cases h
    obtain ⟨hsum, hle⟩ := admitBodyElement_eq hadmit
    exact ⟨_, [value], hnext, .byte text (ensure_eq_ok.mp hascii) .nil, rfl, hsum, hle⟩
  · cases h

/-- One fragment or byte that comes next is taken. -/
theorem asciiTurn_of {s : BodyState UInt8} {token : Token} {c' : TokenCursor} {bytes : List UInt8}
    (hnext : s.tokens.next = .ok (some token, c')) (hfragment : AsciiFragments [token.kind] bytes)
    (hfits : s.bodyBytes + bytes.length ≤ limits.maxItemBytes)
    (hcount : ∀ n ∈ declared, s.bodyBytes + bytes.length ≤ n) :
    asciiTurn limits typePos declared s =
      .ok (.next ⟨c', s.values ++ bytes, s.bodyBytes + bytes.length⟩) := by
  have hadmit : admitBodyElement limits typePos declared s.bodyBytes s.bodyBytes bytes.length
      bytes.length = .ok (s.bodyBytes + bytes.length) := admitBodyElement_of hfits hcount
  obtain ⟨kind, pos⟩ := token
  cases hfragment with
  | str fragment rest =>
    cases rest
    rw [List.append_nil, length_fragmentBytes] at hadmit ⊢
    unfold asciiTurn
    rw [bind_ok hnext]
    dsimp only
    rw [bind_ok hadmit]
    rfl
  | byte text ascii rest =>
    cases rest
    unfold asciiTurn
    rw [bind_ok hnext]
    dsimp only
    rw [List.length_singleton] at hadmit
    rw [bind_ok hadmit, bind_ok (ensure_of ascii)]
    rfl

/-- What the loop over text has read so far is text. -/
theorem sound_asciiRun {c c' : TokenCursor} {bytes : List UInt8}
    (h : Loop.run (asciiTurn limits typePos declared) (fun s => s.tokens.size) size_asciiTurn
      ⟨c, [], 0⟩ = .ok (bytes, c')) :
    ∃ ks, ClosedBody limits declared AsciiFragments List.length List.length ks bytes ∧
      c.Passes ks c' := by
  refine Loop.run_rule
    (P := fun s => ∃ ks, AsciiFragments ks s.values ∧ c.Passes ks s.tokens ∧
      s.bodyBytes = s.values.length ∧ s.bodyBytes ≤ limits.maxItemBytes)
    (Q := fun result => ∃ ks, ClosedBody limits declared AsciiFragments List.length List.length ks
      result.1 ∧ c.Passes ks result.2)
    size_asciiTurn ?_ ?_ ⟨[], .nil, .refl c, rfl, Nat.zero_le _⟩ h
  · rintro s s' ⟨ks, hvalues, hpasses, hbytes, -⟩ hturn
    obtain ⟨token, bytes, hnext, hfragment, hvalues', hbytes', hle⟩ := next_asciiTurn hturn
    refine ⟨ks ++ [token.kind], ?_, hpasses.trans (TokenCursor.passes_next hnext), ?_, hle⟩
    · rw [hvalues']
      exact hvalues.append hfragment
    · rw [hbytes', hvalues', hbytes, List.length_append]
  · rintro s ⟨bytes, final⟩ ⟨ks, hvalues, hpasses, hbytes, hle⟩ hturn
    obtain ⟨token, hnext, hgt, rfl, hcount⟩ := done_asciiTurn hturn
    have hclose := TokenCursor.passes_next hnext
    rw [hgt] at hclose
    rw [hbytes] at hcount hle
    exact ⟨ks ++ [.gt], .closed hvalues (checkDeclaredCount_eq_ok.mp hcount) hle,
      hpasses.trans hclose⟩

/-- The loop over text reads these bytes where these tokens come next, whatever it has read before.
-/
def ReadsText (limits : DecodeLimits) (typePos : SourcePos) (declared : Option ℕ)
    (ks : List TokenKind) (bytes : List UInt8) : Prop :=
  ∀ s : BodyState UInt8, ks ++ [.gt] <+: s.tokens.kinds → s.bodyBytes = s.values.length →
    (∀ n ∈ declared, n = s.values.length + bytes.length) →
    s.values.length + bytes.length ≤ limits.maxItemBytes →
    ∃ c', Loop.run (asciiTurn limits typePos declared) (fun s => s.tokens.size) size_asciiTurn s =
      .ok (s.values ++ bytes, c') ∧ s.tokens.Passes (ks ++ [.gt]) c'

theorem readsText_nil : ReadsText limits typePos declared [] [] := by
  rintro s ⟨rest, hrest⟩ hlength hcount hfits
  obtain ⟨⟨kind, pos⟩, c', hnext, rfl, hpasses, -⟩ := TokenCursor.next_of_kinds hrest.symm
  rw [List.length_nil, Nat.add_zero, ← hlength] at hcount
  refine ⟨c', ?_, hpasses⟩
  have hturn : asciiTurn limits typePos declared s = .ok (.done (s.values, c')) := by
    unfold asciiTurn
    rw [bind_ok hnext]
    dsimp only
    rw [bind_ok (checkDeclaredCount_eq_ok.mpr hcount)]
    rfl
  rw [Loop.run_eq, hturn, List.append_nil]

theorem readsText_cons {k : TokenKind} {ks : List TokenKind} {first bytes : List UInt8}
    (hfirst : AsciiFragments [k] first) (ih : ReadsText limits typePos declared ks bytes) :
    ReadsText limits typePos declared (k :: ks) (first ++ bytes) := by
  rintro s ⟨rest, hrest⟩ hlength hcount hfits
  obtain ⟨token, c', hnext, rfl, hpasses, hkinds⟩ := TokenCursor.next_of_kinds hrest.symm
  rw [List.length_append] at hcount hfits
  have hroom : s.bodyBytes + first.length ≤ limits.maxItemBytes := by omega
  have hturn : asciiTurn limits typePos declared s =
      .ok (.next ⟨c', s.values ++ first, s.bodyBytes + first.length⟩) :=
    asciiTurn_of hnext hfirst hroom fun n hn => by
      rw [hcount n hn, hlength]
      omega
  have hvalues : (s.values ++ first).length = s.values.length + first.length := List.length_append
  obtain ⟨c'', hrun, hrest'⟩ := ih ⟨c', s.values ++ first, s.bodyBytes + first.length⟩
    ⟨rest, hkinds.symm⟩ (by rw [hvalues, hlength])
    (fun n hn => by rw [hcount n hn, hvalues, Nat.add_assoc])
    (by rw [hvalues, Nat.add_assoc]; exact hfits)
  refine ⟨c'', ?_, hpasses.cons hrest'⟩
  rw [Loop.run_eq, hturn]
  dsimp only
  rw [hrun, List.append_assoc]

theorem complete_asciiRun {ks : List TokenKind} {bytes : List UInt8}
    (hbytes : AsciiFragments ks bytes) :
    ReadsText limits typePos declared ks bytes := by
  induction hbytes with
  | nil => exact readsText_nil
  | str fragment rest ih =>
    have hfirst : AsciiFragments [.str fragment] (fragmentBytes fragment ++ []) :=
      .str fragment .nil
    rw [List.append_nil] at hfirst
    exact readsText_cons hfirst ih
  | byte text ascii rest ih => exact readsText_cons (.byte text ascii .nil) ih

/-- **Text** is accepted exactly when it is quoted fragments and seven-bit bytes, has the declared
number of characters and is within the limit. -/
theorem recognises_parseAsciiBody :
    Recognises (parseAsciiBody limits typePos declared)
      (ClosedBody limits declared (fun ks text => AsciiFragments ks text.bytes)
        (fun text => text.bytes.length) fun text => text.bytes.length) where
  sound c text c' h := by
    obtain ⟨_, -, h⟩ := bind_eq_ok.mp h
    obtain ⟨⟨bytes, final⟩, hrun, h⟩ := bind_eq_ok.mp h
    obtain ⟨_, ⟨hbody, hcount, hfits⟩, hpasses⟩ := sound_asciiRun hrun
    dsimp only at h
    split at h
    · cases h
      exact ⟨_, .closed hbody hcount hfits, hpasses⟩
    · cases h
  complete c text ks hclosed hnext := by
    obtain ⟨hbody, hcount, hfits⟩ := hclosed
    have hbytes : ∀ n ∈ declared, n * 1 ≤ limits.maxItemBytes := by
      intro n hn
      rw [Nat.mul_one, hcount n hn]
      exact hfits
    have hrun : ∃ c', Loop.run (asciiTurn limits typePos declared) (fun s => s.tokens.size)
        size_asciiTurn ⟨c, [], 0⟩ = .ok ([] ++ text.bytes, c') ∧ c.Passes _ c' :=
      complete_asciiRun hbody _ hnext rfl (fun n hn => (hcount n hn).trans (Nat.zero_add _).symm)
        (by rw [List.length_nil, Nat.zero_add]; exact hfits)
    obtain ⟨c', hrun, hpasses⟩ := hrun
    refine ⟨c', ?_, hpasses⟩
    unfold parseAsciiBody
    rw [bind_ok (checkDeclaredBytes_of hbytes), bind_ok hrun]
    exact dif_pos (allAscii_iff.mpr text.ascii)

end

end Sml
end SecsRust

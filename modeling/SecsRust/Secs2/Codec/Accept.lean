import SecsRust.Secs2.Codec.Decode

/-!
# What the decoder accepts

The decoder meets its limits early: it counts an item when it has read the header, and when
it opens a List it already asks for room for the declared children.  A tree that would break
a limit in the end is refused before it is built.  What has to be shown is that it refuses
nothing else.

`DecodeCursor.Fits` is what the early checks amount to for the nodes that come next: they
are in the input, and there is room for the items they stand for.  Nodes fit one after
another (`fits_cons`), and the node of a List fits if its header does and its children fit
inside of it (`fits_list`).  These lemmas do for the cursor what `SecsItem.Room` does for
the tree, and they carry both inductions.

`DecodeCursor.reads_iff` says that the recursive reading reads an item exactly when nodes
that fit derive it: in one direction by induction over the reading (`derives_of_reads`), in
the other over the derivation (`reads_of_derives`).  With the agreement of loop and
recursion, `decodeItem_eq_ok` is the same for a whole input, where all limits are still
free.
-/

namespace SecsRust
namespace Secs2

open SecsItem WireNode

/-- A prefix in two parts. -/
theorem append_prefix_iff {α : Type} {l l' rest : List α} :
    l ++ l' <+: rest ↔ l <+: rest ∧ l' <+: rest.drop l.length := by
  constructor
  · rintro ⟨tail, rfl⟩
    refine ⟨⟨l' ++ tail, by rw [List.append_assoc]⟩, tail, ?_⟩
    rw [List.append_assoc, List.drop_left]
  · rintro ⟨⟨tail, rfl⟩, tail', htail⟩
    rw [List.drop_left] at htail
    exact ⟨tail', by rw [List.append_assoc, htail]⟩

namespace DecodeCursor

/-- The nodes come next in the input, and there is room for the items they stand for.  The four
limits are in it, each as an inequality between what has been used, what these need, and the
limit. -/
structure Fits (s : DecodeCursor) (nodes : List WireNode) (items : List SecsItem) : Prop where
  next : wire nodes <+: s.rest
  room : Room s.limits s.depth s.acceptedNodes items

/-- The cursor behind the nodes of the items. -/
def passed (s : DecodeCursor) (nodes : List WireNode) (items : List SecsItem) : DecodeCursor :=
  s.after (wire nodes).length (preorderAll items).length

/-- The cursor behind the header of a List that is now open. -/
def entered (s : DecodeCursor) (count : LengthByteCount) : DecodeCursor :=
  { s.after (count.asCount + 1) 1 with depth := s.depth + 1 }

variable {s s' : DecodeCursor} {nodes rest : List WireNode} {item : SecsItem}
  {items : List SecsItem}

@[simp] theorem passed_limits : (s.passed nodes items).limits = s.limits := rfl

@[simp] theorem passed_depth : (s.passed nodes items).depth = s.depth := rfl

@[simp] theorem passed_acceptedNodes :
    (s.passed nodes items).acceptedNodes = s.acceptedNodes + (preorderAll items).length := rfl

theorem rest_passed : (s.passed nodes items).rest = s.rest.drop (wire nodes).length :=
  rest_after _ _

/-- Nothing fits whenever the limits hold so far. -/
theorem fits_nil : s.Fits [] [] ↔
    s.depth ≤ s.limits.maxDepth ∧ s.acceptedNodes ≤ s.limits.maxTotalItems :=
  ⟨fun h => room_nil.mp h.room, fun h => ⟨List.nil_prefix, room_nil.mpr h⟩⟩

@[simp] theorem passed_nil : s.passed [] [] = s := rfl

/-- **Items fit one after another.**  The limits that count are used up from left to right; the
depth is the same for each. -/
theorem fits_cons : s.Fits (nodes ++ rest) (item :: items) ↔
    s.Fits nodes [item] ∧ (s.passed nodes [item]).Fits rest items := by
  have hcount : (s.passed nodes [item]).acceptedNodes = s.acceptedNodes + item.nodeCount := by
    rw [passed_acceptedNodes, preorderAll_singleton]
    rfl
  constructor
  · rintro ⟨hnext, hroom⟩
    rw [wire_append, append_prefix_iff] at hnext
    obtain ⟨hhead, htail⟩ := room_cons.mp hroom
    exact ⟨⟨hnext.1, hhead⟩, rest_passed ▸ hnext.2, hcount ▸ htail⟩
  · rintro ⟨⟨hnext, hhead⟩, ⟨hnext', htail⟩⟩
    refine ⟨?_, room_cons.mpr ⟨hhead, hcount ▸ htail⟩⟩
    rw [wire_append, append_prefix_iff]
    exact ⟨hnext, rest_passed ▸ hnext'⟩

theorem passed_cons :
    (s.passed nodes [item]).passed rest items = s.passed (nodes ++ rest) (item :: items) := by
  rw [passed, passed, passed, after_after, wire_append, List.length_append, preorderAll_singleton,
    preorderAll, List.length_append]

/-- **A List fits** if its header does, and its children behind it one level deeper. -/
theorem fits_list {count : LengthByteCount} (hfits : items.length < 256 ^ count.asCount) :
    s.Fits (⟨.list, count, items.length, [], hfits⟩ :: nodes) [list items] ↔
      (headerBytes .list count items.length <+: s.rest ∧ items.length ≤ s.limits.maxListItems) ∧
        (s.entered count).Fits nodes items := by
  have hbytes : wire (⟨.list, count, items.length, [], hfits⟩ :: nodes) =
      headerBytes .list count items.length ++ wire nodes := by
    rw [wire_cons, bytes, header, List.append_nil]
  have hrest : (s.entered count).rest =
      s.rest.drop (headerBytes .list count items.length).length := by
    rw [length_headerBytes]
    exact rest_after (s := s) _ 1
  constructor
  · rintro ⟨hnext, hroom⟩
    rw [hbytes, append_prefix_iff] at hnext
    obtain ⟨hchildren, hinner⟩ := room_list.mp hroom
    exact ⟨⟨hnext.1, hchildren⟩, hrest ▸ hnext.2, hinner⟩
  · rintro ⟨⟨hheader, hchildren⟩, ⟨hnext, hinner⟩⟩
    refine ⟨?_, room_list.mpr ⟨hchildren, hinner⟩⟩
    rw [hbytes, append_prefix_iff]
    exact ⟨hheader, hrest ▸ hnext⟩

/-- A node of a scalar. -/
theorem fits_scalar {code : FormatCode} {count : LengthByteCount} {body : List UInt8}
    (hfits : body.length < 256 ^ count.asCount) (hpayload : Payload code body item) :
    s.Fits [⟨code, count, body.length, body, hfits⟩] [item] ↔
      headerBytes code count body.length <+: s.rest ∧
        body <+: (s.after (count.asCount + 1) 1).rest ∧ s.depth ≤ s.limits.maxDepth ∧
        s.acceptedNodes + 1 ≤ s.limits.maxTotalItems ∧ body.length ≤ s.limits.maxItemBytes := by
  have hbytes : wire [⟨code, count, body.length, body, hfits⟩] =
      headerBytes code count body.length ++ body := by
    rw [wire_cons, wire_nil, List.append_nil]
    rfl
  rw [rest_after, ← length_headerBytes code count body.length, ← and_assoc, ← append_prefix_iff,
    ← hbytes]
  constructor
  · rintro ⟨hnext, hroom⟩
    obtain ⟨hdepth, htotal, hbytes⟩ := (room_leaf hpayload.leaf).mp hroom
    exact ⟨hnext, hdepth, htotal, hpayload.length.trans_le hbytes⟩
  · rintro ⟨hnext, hdepth, htotal, hbytes⟩
    exact ⟨hnext, (room_leaf hpayload.leaf).mpr ⟨hdepth, htotal,
      hpayload.length.symm.trans_le hbytes⟩⟩

theorem passed_scalar {code : FormatCode} {count : LengthByteCount} {body : List UInt8}
    (hfits : body.length < 256 ^ count.asCount) (hleaf : item.isList = false) :
    s.passed [⟨code, count, body.length, body, hfits⟩] [item] =
      s.after (count.asCount + 1 + body.length) 1 := by
  rw [passed, wire_cons, wire_nil, List.append_nil, length_bytes, preorderAll_singleton,
    preorder_of_leaf hleaf]
  rfl

/-- Behind a List the depth is what it was before. -/
theorem passed_list {count : LengthByteCount} (hfits : items.length < 256 ^ count.asCount) :
    s.passed (⟨.list, count, items.length, [], hfits⟩ :: nodes) [list items] =
      { (s.entered count).passed nodes items with depth := s.depth } := by
  rw [passed, wire_cons, List.length_append, length_bytes, preorderAll_singleton, preorder,
    List.length_cons, List.length_nil, Nat.add_zero, Nat.add_comm (preorderAll items).length,
    ← after_after]
  rfl

/-! ## One item -/

/-- **A complete item** is a scalar or an empty List whose node fits.  It is one half of what
starting an item means; the other is an open List. -/
theorem startItem_leaf {stack : ListStack} (hdepth : s.depth ≤ s.limits.maxDepth) :
    s.startItem stack = .ok (.leaf item, s') ↔ item.children = [] ∧ ∃ nodes, Derives nodes item ∧
      s.Fits nodes [item] ∧ s' = s.passed nodes [item] := by
  rw [startItem_eq_ok]
  constructor
  · rintro ⟨code, count, declared, hfits, hpre, hnodes, hbody⟩
    by_cases hcode : code = .list
    · subst hcode
      obtain ⟨⟨-, -, hnext⟩, hstarted⟩ := startBody_list.mp hbody
      split at hstarted
      · rename_i hzero
        subst hzero
        cases hstarted
        have hempty : ([] : List SecsItem).length < 256 ^ count.asCount := hfits
        refine ⟨rfl, _, .list hempty .nil, (fits_list hempty).mpr ⟨⟨hpre, Nat.zero_le _⟩, ?_⟩, ?_⟩
        · exact fits_nil.mpr ⟨hnext, hnodes⟩
        · rw [passed_list]
          rfl
      · cases hstarted
    · have hcursor := cursor_add_le hpre (List.cons_ne_nil _ _)
      rw [length_headerBytes] at hcursor
      obtain ⟨body, scalar, hbytes, rfl, hnext, hpayload, hstarted⟩ :=
        (startBody_scalar hcode hcursor).mp hbody
      cases hstarted
      refine ⟨children_of_leaf hpayload.leaf, _, .scalar hfits hpayload,
        (fits_scalar hfits hpayload).mpr ⟨hpre, hnext, hdepth, hnodes, hbytes⟩, ?_⟩
      rw [passed_scalar hfits hpayload.leaf, after_after]
  · rintro ⟨hchildren, nodes, hderives, hfit, rfl⟩
    cases hderives with
    | list hfits hall =>
      obtain rfl : _ = [] := hchildren
      cases hall
      obtain ⟨⟨hpre, -⟩, hinner⟩ := (fits_list hfits).mp hfit
      obtain ⟨hnext, htotal⟩ := fits_nil.mp hinner
      refine ⟨_, _, _, hfits, hpre, htotal, startBody_list.mpr ⟨⟨Nat.zero_le _, htotal, hnext⟩, ?_⟩⟩
      rw [passed_list]
      rfl
    | scalar hfits hpayload =>
      obtain ⟨hpre, hnext, -, hnodes, hbytes⟩ := (fits_scalar hfits hpayload).mp hfit
      have hcursor := cursor_add_le hpre (List.cons_ne_nil _ _)
      rw [length_headerBytes] at hcursor
      refine ⟨_, _, _, hfits, hpre, hnodes, (startBody_scalar hpayload.code_ne_list hcursor).mpr
        ⟨_, item, hbytes, rfl, hnext, hpayload, ?_⟩⟩
      rw [passed_scalar hfits hpayload.leaf, after_after]

/-- **An open List** is a header that fits together with its children.  The children are only
announced; that they are there is found out one by one. -/
theorem startItem_opened {stack : ListStack} {header : ListHeader} :
    s.startItem stack = .ok (.opened header, s') ↔ ∃ count : LengthByteCount,
      header.expectedChildren < 256 ^ count.asCount ∧
        headerBytes .list count header.expectedChildren <+: s.rest ∧
        0 < header.expectedChildren ∧ header.headerOffset = s.cursor ∧
        header.expectedChildren ≤ s.limits.maxListItems ∧
        s.acceptedNodes + 1 + header.expectedChildren ≤ s.limits.maxTotalItems ∧
        s.depth + 1 ≤ s.limits.maxDepth ∧ s' = s.entered count := by
  rw [startItem_eq_ok]
  constructor
  · rintro ⟨code, count, declared, hfits, hpre, hnodes, hbody⟩
    by_cases hcode : code = .list
    · subst hcode
      obtain ⟨⟨hchildren, htotal, hdepth⟩, hstarted⟩ := startBody_list.mp hbody
      split at hstarted
      · cases hstarted
      · rename_i hpos
        cases hstarted
        exact ⟨count, hfits, hpre, Nat.pos_of_ne_zero hpos, rfl, hchildren, htotal, hdepth, rfl⟩
    · have hcursor := cursor_add_le hpre (List.cons_ne_nil _ _)
      rw [length_headerBytes] at hcursor
      obtain ⟨_, _, -, -, -, -, hstarted⟩ := (startBody_scalar hcode hcursor).mp hbody
      cases hstarted
  · rintro ⟨count, hfits, hpre, hpos, hoffset, hchildren, htotal, hdepth, rfl⟩
    refine ⟨.list, count, header.expectedChildren, hfits, hpre, by omega, ?_⟩
    refine startBody_list.mpr ⟨⟨hchildren, htotal, hdepth⟩, ?_⟩
    rw [if_neg (Nat.ne_of_gt hpos), ← hoffset]
    rfl

/-! ## Whole items -/

/-- The cursor behind an open List that has just been closed. -/
def closed (s : DecodeCursor) : DecodeCursor := { s with depth := s.depth - 1 }

theorem nextChild_more {frame : Frame ListHeader SecsItem} {stack : ListStack} :
    reader.next frame stack s = .ok (true, s') ↔
      frame.children.length < frame.header.expectedChildren ∧ s' = s := by
  show nextChild frame stack s = _ ↔ _
  unfold nextChild
  split <;> simp_all [eq_comm]

theorem nextChild_close {frame : Frame ListHeader SecsItem} {stack : ListStack} :
    reader.next frame stack s = .ok (false, s') ↔
      frame.header.expectedChildren ≤ frame.children.length ∧ s' = s.closed := by
  show nextChild frame stack s = _ ↔ _
  unfold nextChild
  split
  · rename_i hless
    exact iff_of_false (fun h => nomatch h) fun h => absurd hless (Nat.not_lt_of_le h.1)
  · rename_i hfull
    simp [Nat.le_of_not_lt hfull, closed, eq_comm]

mutual

/-- What the recursion reads is derived by nodes that fit.  By induction on the reading, with one
case for each of its rules. -/
theorem derives_of_reads : ∀ {stack : ListStack} {s : DecodeCursor} {item : SecsItem}
    {s' : DecodeCursor}, reader.Reads stack s item s' → s.depth ≤ s.limits.maxDepth →
    ∃ nodes, Derives nodes item ∧ s.Fits nodes [item] ∧ s' = s.passed nodes [item]
  | _, _, _, _, .leaf start, hdepth => ((startItem_leaf hdepth).mp start).2
  | _, _, _, _, .node start children, hdepth => by
    rename_i header items
    have ih := derives_of_fills children
    obtain ⟨count, hfits, hpre, hpos, -, hlist, htotal, hnext, rfl⟩ := startItem_opened.mp start
    have hroom := Nat.le_trans (Nat.le_add_right _ _) htotal
    obtain ⟨nodes, rest, hitems, hall, hlength, hfit, rfl⟩ := ih (Nat.zero_le _) hnext hroom
    obtain rfl : items = rest := hitems
    obtain ⟨offset, expected⟩ := header
    obtain rfl : items.length = expected := hlength
    refine ⟨_, .list hfits hall, (fits_list hfits).mpr ⟨⟨hpre, hlist⟩, hfit⟩, ?_⟩
    exact (passed_list hfits).symm

/-- What is still read for an open List is derived by nodes that fit. -/
theorem derives_of_fills : ∀ {frame : Frame ListHeader SecsItem} {stack : ListStack}
    {s : DecodeCursor} {items : List SecsItem} {s' : DecodeCursor},
    reader.Fills frame stack s items s' →
    frame.children.length ≤ frame.header.expectedChildren → s.depth ≤ s.limits.maxDepth →
    s.acceptedNodes ≤ s.limits.maxTotalItems →
    ∃ nodes rest, items = frame.children ++ rest ∧ DerivesAll nodes rest ∧
      items.length = frame.header.expectedChildren ∧ s.Fits nodes rest ∧
      s' = (s.passed nodes rest).closed
  | _, _, _, _, _, .close next, hchildren, hdepth, htotal => by
    obtain ⟨hfull, rfl⟩ := nextChild_close.mp next
    exact ⟨[], [], (List.append_nil _).symm, .nil, le_antisymm hchildren hfull,
      fits_nil.mpr ⟨hdepth, htotal⟩, rfl⟩
  | _, _, _, _, _, .more next child rest, _, hdepth, _ => by
    have ihchild := derives_of_reads child
    have ihrest := derives_of_fills rest
    obtain ⟨hless, rfl⟩ := nextChild_more.mp next
    obtain ⟨nodes, hderives, hfit, rfl⟩ := ihchild hdepth
    obtain ⟨nodes', new, hitems, hall, hlength, hfit', rfl⟩ :=
      ihrest (by simpa using hless) hdepth hfit.room.total
    rw [Frame.push_children, List.append_assoc] at hitems
    refine ⟨nodes ++ nodes', _, hitems, .cons hderives hall, hlength, fits_cons.mpr ⟨hfit, hfit'⟩,
      ?_⟩
    rw [passed_cons]
    rfl

end

mutual

/-- What nodes that fit derive the recursion reads.  By induction on the derivation; it is the
converse of the lemma above. -/
theorem reads_of_derives : ∀ {nodes : List WireNode} {item : SecsItem}, Derives nodes item →
    ∀ {stack : ListStack} {s : DecodeCursor}, s.depth ≤ s.limits.maxDepth → s.Fits nodes [item] →
    reader.Reads stack s item (s.passed nodes [item])
  | _, .list [], .list fits all, _, _, hdepth, hfit =>
    .leaf ((startItem_leaf hdepth).mpr ⟨rfl, _, .list fits all, hfit, rfl⟩)
  | _, .list (item :: items), .list fits all, stack, s, _, hfit => by
    obtain ⟨⟨hpre, hlist⟩, hinner⟩ := (fits_list fits).mp hfit
    have hdepth := Nat.le_trans (Nat.le_add_right _ _) hinner.room.nesting
    have hstart : s.startItem stack = .ok (.opened ⟨s.cursor, (item :: items).length⟩,
        s.entered _) :=
      startItem_opened.mpr ⟨_, fits, hpre, Nat.succ_pos _, rfl, hlist,
        hinner.room.length_le, hdepth, rfl⟩
    have hfills : reader.Fills ⟨⟨s.cursor, (item :: items).length⟩, []⟩ stack _ _ _ :=
      fills_of_derives all (Nat.zero_add _) hdepth hinner
    rw [passed_list fits]
    exact .node hstart hfills
  | _, _, .scalar fits payload, _, _, hdepth, hfit =>
    .leaf ((startItem_leaf hdepth).mpr
      ⟨children_of_leaf payload.leaf, _, .scalar fits payload, hfit, rfl⟩)

/-- The children that nodes that fit derive fill an open List. -/
theorem fills_of_derives : ∀ {nodes : List WireNode} {items : List SecsItem},
    DerivesAll nodes items → ∀ {frame : Frame ListHeader SecsItem} {stack : ListStack}
    {s : DecodeCursor}, frame.children.length + items.length = frame.header.expectedChildren →
    s.depth ≤ s.limits.maxDepth → s.Fits nodes items →
    reader.Fills frame stack s (frame.children ++ items) (s.passed nodes items).closed
  | _, _, .nil, frame, stack, s, hlength, _, _ => by
    have hclose : reader.Fills frame stack s frame.children s.closed :=
      .close (nextChild_close.mpr ⟨Nat.le_of_eq hlength.symm, rfl⟩)
    rw [List.append_nil]
    exact hclose
  | _, item :: items, .cons head tail, frame, stack, s, hlength, hdepth, hfit => by
    obtain ⟨hhead, htail⟩ := fits_cons.mp hfit
    rw [List.length_cons] at hlength
    have hmore : reader.next frame stack s = .ok (true, s) := nextChild_more.mpr ⟨by omega, rfl⟩
    have hchild : reader.Reads (frame :: stack) s item _ := reads_of_derives head hdepth hhead
    have hcount : (frame.push item).children.length + items.length =
        (frame.push item).header.expectedChildren := by
      rw [Frame.push_children, List.length_append, List.length_singleton, Frame.push_header]
      omega
    have hrest : reader.Fills (frame.push item) stack (s.passed _ [item]) _ _ :=
      fills_of_derives tail hcount hdepth htail
    rw [Frame.push_children, List.append_assoc, passed_cons] at hrest
    exact .more hmore hchild hrest

end

/-- **The decoder reads what the grammar derives within the limits.** -/
theorem reads_iff {stack : ListStack} (hdepth : s.depth ≤ s.limits.maxDepth) :
    reader.Reads stack s item s' ↔
      ∃ nodes, Derives nodes item ∧ s.Fits nodes [item] ∧ s' = s.passed nodes [item] := by
  refine ⟨fun h => derives_of_reads h hdepth, ?_⟩
  rintro ⟨nodes, hderives, hfit, rfl⟩
  exact reads_of_derives hderives hdepth hfit

/-- At the start every limit is free. -/
theorem fits_new {limits : DecodeLimits} {input : ByteSlice} :
    (new input limits).Fits nodes [item] ↔ wire nodes <+: input.bytes ∧ item.Within limits :=
  ⟨fun h => ⟨h.next, room_start.mp h.room⟩, fun h => ⟨h.1, room_start.mpr h.2⟩⟩

end DecodeCursor

/-- An item has at least one byte. -/
theorem wire_ne_nil {nodes : List WireNode} {item : SecsItem} (h : Derives nodes item) :
    wire nodes ≠ [] := by
  cases h <;> exact List.cons_ne_nil _ _

/-- **The decoder accepts the grammar within the limits**, and the whole input.  There is no
other way to be accepted, and nothing that the grammar and the limits allow is rejected. -/
theorem decodeItem_eq_ok {limits : DecodeLimits} {input : ByteSlice} {item : SecsItem} :
    decodeItem limits input = .ok item ↔
      (∃ nodes, Derives nodes item ∧ input.bytes = wire nodes) ∧ item.Within limits := by
  have hrun : ∀ s', (DecodeCursor.new input limits).run = .ok (item, s') ↔ _ := fun _ =>
    DecodeCursor.run_eq_ok.trans (DecodeCursor.reads_iff (Nat.zero_le _))
  unfold decodeItem
  constructor
  · intro h
    split at h
    · cases h
    · split at h
      · cases h
      · rename_i item' s' hok
        split at h
        · cases h
        · rename_i hall
          cases h
          obtain ⟨nodes, hderives, hfit, rfl⟩ := (hrun s').mp hok
          obtain ⟨hpre, hwithin⟩ := DecodeCursor.fits_new.mp hfit
          have hlength : 0 + (wire nodes).length = input.bytes.length := not_not.mp hall
          rw [Nat.zero_add] at hlength
          exact ⟨⟨nodes, hderives, (hpre.eq_of_length hlength).symm⟩, hwithin⟩
  · rintro ⟨⟨nodes, hderives, hbytes⟩, hwithin⟩
    have hnonempty : input.bytes.isEmpty ≠ true := by
      rw [hbytes, Ne, List.isEmpty_iff]
      exact wire_ne_nil hderives
    have hok := (hrun ((DecodeCursor.new input limits).passed nodes [item])).mpr
      ⟨nodes, hderives, DecodeCursor.fits_new.mpr ⟨hbytes ▸ List.prefix_rfl, hwithin⟩, rfl⟩
    rw [if_neg hnonempty, hok]
    dsimp only
    rw [if_neg]
    rw [not_not, hbytes]
    exact Nat.zero_add _

end Secs2
end SecsRust

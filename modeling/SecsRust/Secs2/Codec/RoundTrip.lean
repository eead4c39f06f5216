import SecsRust.Secs2.Codec.Accept
import SecsRust.Secs2.Codec.Encode

/-!
# Encoding and decoding

The encoder writes one wire form of a tree and the decoder accepts all of them, so decoding
undoes encoding, and encoding what was decoded picks the canonical form.  Both follow from
the grammar: the two traversals never meet.

* `decode_undoes_encode`: what was encoded decodes to the same tree under all limits it
  satisfies;
* `decoder_accepts_grammar`: the decoder accepts exactly the wire grammar within the limits;
* `reencoding_canonicalises`: what was decoded encodes to a form that is no longer, and that
  is the input exactly when every node of the input is canonical.

The last one compares two wire forms of one tree, the one that was read and the one that is
written.  Since both have one node for each item, in the same order, they are compared node
by node (`Describes.written`): the written node has the fewest length bytes and Booleans
that are zero or one, and is otherwise the node that was read.  The lengths and the bytes of
whole forms are then sums over the nodes (`written_all`), and two forms are equal exactly
when all of their nodes are, because a header ends where its count says.
-/

namespace SecsRust
namespace Secs2

open SecsItem WireNode

/-! ## The canonical form of a tree -/

/-- The canonical nodes of items whose lengths can be represented. -/
theorem exists_canonical {items : List SecsItem}
    (h : ∀ item ∈ items, item.declared ≤ maxEncodedItemLength) :
    ∃ nodes, List.Forall₂ Describes nodes items ∧ wire nodes = items.flatMap nodeBytes := by
  induction items with
  | nil => exact ⟨[], .nil, rfl⟩
  | cons item items ih =>
    obtain ⟨hitem, hitems⟩ := List.forall_mem_cons.mp h
    obtain ⟨nodes, hdescribes, hwire⟩ := ih hitems
    refine ⟨canonicalNode item hitem :: nodes, .cons (describes_canonicalNode hitem) hdescribes, ?_⟩
    rw [wire_cons, bytes_canonicalNode, hwire, List.flatMap_cons]

/-- What the encoder writes is a wire form of the tree. -/
theorem derives_of_encode {item : SecsItem} {bytes : List UInt8}
    (h : encodeToVec item = .ok bytes) : ∃ nodes, Derives nodes item ∧ bytes = wire nodes := by
  obtain ⟨hall, rfl, -⟩ := encodeToVec_eq_ok.mp h
  obtain ⟨nodes, hdescribes, hwire⟩ := exists_canonical hall
  exact ⟨nodes, derives_iff.mpr hdescribes, hwire.symm⟩

/-- **Decoding undoes encoding**, for every tree that can be encoded and under all limits that it
satisfies. -/
theorem decode_undoes_encode {item : SecsItem} {bytes : List UInt8} {limits : DecodeLimits}
    (hencode : encodeToVec item = .ok bytes) (hwithin : item.Within limits) :
    ∃ addressable : bytes.length ≤ usizeMax, decodeItem limits ⟨bytes, addressable⟩ = .ok item :=
  ⟨(encodeToVec_eq_ok.mp hencode).2.2,
    decodeItem_eq_ok.mpr ⟨derives_of_encode hencode, hwithin⟩⟩

/-- A List of a Boolean and a number, under limits that it just satisfies. -/
theorem decode_undoes_encode_of_pair :
    ∃ addressable, decodeItem ⟨1, 3, 4, 2, rfl, by decide, by decide⟩
      ⟨[0x01, 0x02, 0x25, 0x01, 0x01, 0xB1, 0x04, 0x00, 0x00, 0x00, 0x2A], addressable⟩ =
        .ok (.list [.boolean [true], .u4 [42]]) :=
  decode_undoes_encode rfl
    { nesting := by decide
      nodes := by decide
      each := by
        rintro _ (_ | ⟨_, _ | ⟨_, _ | ⟨_, ⟨⟩⟩⟩⟩) <;> exact ⟨by decide, by decide⟩ }

/-! ## The grammar of the decoder -/

/-- **The decoder accepts exactly the wire grammar within the limits.** -/
theorem decoder_accepts_grammar (limits : DecodeLimits) (input : ByteSlice) (item : SecsItem) :
    decodeItem limits input = .ok item ↔
      (∃ nodes, Derives nodes item ∧ input.bytes = wire nodes) ∧
        item.nesting ≤ limits.maxDepth ∧ item.nodeCount ≤ limits.maxTotalItems ∧
        (∀ node ∈ item.preorder, node.isList = false → node.payloadBytes ≤ limits.maxItemBytes) ∧
        ∀ node ∈ item.preorder, node.children.length ≤ limits.maxListItems := by
  refine decodeItem_eq_ok.trans (and_congr_right fun _ => ⟨?_, ?_⟩)
  · rintro ⟨hnesting, hnodes, heach⟩
    exact ⟨hnesting, hnodes, fun node hnode _ => (heach node hnode).payload,
      fun node hnode => (heach node hnode).children⟩
  · rintro ⟨hnesting, hnodes, hpayload, hchildren⟩
    refine ⟨hnesting, hnodes, fun node hnode => ⟨?_, hchildren node hnode⟩⟩
    cases hlist : node.isList with
    | false => exact hpayload node hnode hlist
    | true =>
      rw [eq_list_of_isList hlist]
      exact Nat.zero_le _

/-! ## Encoding what was decoded -/

section

variable {node : WireNode} {item : SecsItem}

/-- A Boolean byte is written back as it was read if it is zero or one. -/
theorem boolean_written (body : List UInt8) :
    ((body.map fun byte => byte != 0).map fun value =>
      if value then (0x01 : UInt8) else 0x00) = body ↔
      ∀ byte ∈ body, byte = 0x00 ∨ byte = 0x01 := by
  rw [List.map_map]
  refine (List.map_id body).symm.congr_right.trans (List.map_inj_left.trans ?_)
  refine forall₂_congr fun byte _ => ?_
  by_cases hzero : byte = 0
  · simp [hzero]
  · have htrue : (byte != 0) = true := bne_iff_ne.mpr hzero
    simp only [Function.comp_apply, htrue, if_true, id_eq, hzero, false_or]
    exact eq_comm

/-- **A payload is written back as it was read**, except that a true Boolean becomes one. -/
theorem Payload.written {code : FormatCode} {body : List UInt8} (h : Payload code body item) :
    formatCodeOf item = code ∧ (writePayload item = body ↔
      (code = .boolean → ∀ byte ∈ body, byte = 0x00 ∨ byte = 0x01)) := by
  cases h with
  | boolean =>
    refine ⟨rfl, (boolean_written body).trans ?_⟩
    simp
  | i1 values => exact ⟨rfl, iff_of_true (Element.write_i8 values).symm fun h => nomatch h⟩
  | u1 values => exact ⟨rfl, iff_of_true (Element.write_u8 values).symm fun h => nomatch h⟩
  | _ => exact ⟨rfl, iff_of_true rfl fun h => nomatch h⟩

/-- Three length bytes bound every length. -/
theorem WireNode.declared_le (node : WireNode) : node.declared ≤ maxEncodedItemLength := by
  have hfits := node.fits
  have hmax : maxEncodedItemLength = 256 ^ 3 - 1 := by decide
  cases hcount : node.count <;> rw [hcount] at hfits <;>
    simp only [LengthByteCount.asCount] at hfits <;> omega

/-- A count of length bytes is minimal if it is the one that the encoder chooses. -/
theorem WireNode.minimal_iff (node : WireNode) :
    node.Minimal ↔ node.count = lengthByteCount node.declared := by
  rw [← Option.some_inj, ← forDeclaredLength_lengthByteCount node.declared_le, eq_comm,
    LengthByteCount.forDeclaredLength_eq_some]
  exact (and_iff_right node.fits).symm

/-- A node agrees with the one that the encoder writes, up to the count of its length bytes and the
bytes of its Booleans. -/
theorem Describes.agrees (h : Describes node item) :
    formatCodeOf item = node.code ∧ item.declared = node.declared ∧
      (writePayload item).length = node.body.length ∧ (writePayload item = node.body ↔
        (node.code = .boolean → ∀ byte ∈ node.body, byte = 0x00 ∨ byte = 0x01)) := by
  cases h with
  | list fits => exact ⟨rfl, rfl, rfl, iff_of_true rfl fun h => nomatch h⟩
  | scalar fits payload =>
    have hdeclared : item.declared = item.payloadBytes := by
      have hleaf := payload.leaf
      cases item <;> first | rfl | cases hleaf
    have hlength := length_writePayload payload.leaf
    obtain ⟨hcode, hbody⟩ := payload.written
    exact ⟨hcode, hdeclared.trans payload.length.symm,
      hlength.trans (hdeclared.trans payload.length.symm), hbody⟩

theorem asCount_inj {count count' : LengthByteCount} (h : count.asCount = count'.asCount) :
    count = count' := by
  cases count <;> cases count' <;> first | rfl | exact absurd h (by decide)

/-- **A node against the one that the encoder writes for its item.** -/
theorem Describes.written (h : Describes node item) :
    item.declared ≤ maxEncodedItemLength ∧ (nodeBytes item).length ≤ node.bytes.length ∧
      (nodeBytes item = node.bytes ↔ node.Canonical) := by
  obtain ⟨hcode, hdeclared, hlength, hbody⟩ := h.agrees
  have hle := node.declared_le
  have hminimal := (LengthByteCount.forDeclaredLength_eq_some.mp
    (forDeclaredLength_lengthByteCount hle)).2 node.count node.fits
  have hbytes : nodeBytes item =
      headerBytes node.code (lengthByteCount node.declared) node.declared ++ writePayload item := by
    rw [nodeBytes, writeHeader_eq, hcode, hdeclared]
  have hcount : (nodeBytes item).length =
      (lengthByteCount node.declared).asCount + 1 + node.body.length := by
    rw [hbytes, List.length_append, length_headerBytes, hlength]
  refine ⟨hdeclared.trans_le hle, ?_, ?_⟩
  · rw [hcount, length_bytes]
    omega
  · constructor
    · intro hequal
      have hcounts : (lengthByteCount node.declared).asCount = node.count.asCount := by
        have hlengths := congrArg List.length hequal
        rw [hcount, length_bytes] at hlengths
        omega
      have hsame := asCount_inj hcounts
      rw [hbytes, hsame] at hequal
      exact ⟨node.minimal_iff.mpr hsame.symm, hbody.mp (List.append_cancel_left hequal)⟩
    · rintro ⟨hmin, hboolean⟩
      rw [hbytes, ← node.minimal_iff.mp hmin, hbody.mpr hboolean]
      rfl

/-- **A wire form against the one that the encoder writes.** -/
theorem written_all {nodes : List WireNode} {items : List SecsItem}
    (h : List.Forall₂ Describes nodes items) :
    (∀ item ∈ items, item.declared ≤ maxEncodedItemLength) ∧
      (items.flatMap nodeBytes).length ≤ (wire nodes).length ∧
        (items.flatMap nodeBytes = wire nodes ↔ ∀ node ∈ nodes, node.Canonical) := by
  induction h with
  | nil => exact ⟨fun _ h => (List.not_mem_nil h).elim, le_refl _, iff_of_true rfl fun _ h =>
    nomatch h⟩
  | cons head tail ih =>
    obtain ⟨hdeclared, hshorter, hequal⟩ := head.written
    obtain ⟨ihdeclared, ihshorter, ihequal⟩ := ih
    refine ⟨List.forall_mem_cons.mpr ⟨hdeclared, ihdeclared⟩, ?_, ?_⟩
    · rw [List.flatMap_cons, wire_cons, List.length_append, List.length_append]
      exact Nat.add_le_add hshorter ihshorter
    · rw [List.flatMap_cons, wire_cons, List.forall_mem_cons, ← hequal, ← ihequal]
      constructor
      · intro h
        -- neither part is longer, so the parts end at the same place
        have hlengths := congrArg List.length h
        rw [List.length_append, List.length_append] at hlengths
        exact List.append_inj h (by omega)
      · rintro ⟨hhead, htail⟩
        rw [hhead, htail]

end

/-- **Encoding what was decoded canonicalises.**  It succeeds, its result is no longer than the
input and decodes to the same tree, and it is the input exactly when every header of the input uses
the smallest number of length bytes and every Boolean byte is zero or one. -/
theorem reencoding_canonicalises {limits : DecodeLimits} {input : ByteSlice} {item : SecsItem}
    (hdecode : decodeItem limits input = .ok item) :
    ∃ output : ByteSlice, encodeToVec item = .ok output.bytes ∧
      output.bytes.length ≤ input.bytes.length ∧ decodeItem limits output = .ok item ∧
      (∃ nodes, Derives nodes item ∧ input.bytes = wire nodes) ∧
      ∀ nodes, Derives nodes item → input.bytes = wire nodes →
        (output.bytes = input.bytes ↔
          (∀ node ∈ nodes, ∀ count : LengthByteCount, node.declared < 256 ^ count.asCount →
            node.count.asCount ≤ count.asCount) ∧
          ∀ node ∈ nodes, node.code = .boolean → ∀ byte ∈ node.body, byte = 0x00 ∨
            byte = 0x01) := by
  obtain ⟨⟨nodes, hderives, hinput⟩, hwithin⟩ := decodeItem_eq_ok.mp hdecode
  obtain ⟨hdeclared, hshorter, -⟩ := written_all (derives_iff.mp hderives)
  rw [← hinput] at hshorter
  have hfits : (item.preorder.flatMap nodeBytes).length ≤ usizeMax :=
    hshorter.trans input.addressable
  have hencode : encodeToVec item = .ok (item.preorder.flatMap nodeBytes) :=
    encodeToVec_eq_ok.mpr ⟨hdeclared, rfl, hfits⟩
  refine ⟨⟨_, hfits⟩, hencode, hshorter, ?_, ⟨nodes, hderives, hinput⟩, ?_⟩
  · exact decodeItem_eq_ok.mpr ⟨derives_of_encode hencode, hwithin⟩
  · intro nodes' hderives' hinput'
    rw [hinput']
    refine (written_all (derives_iff.mp hderives')).2.2.trans ⟨fun h => ?_, fun h node hnode => ?_⟩
    · exact ⟨fun node hnode => (h node hnode).minimal, fun node hnode => (h node hnode).boolean⟩
    · exact ⟨h.1 node hnode, h.2 node hnode⟩

/-- A List with a length byte too many and a true Boolean that is not one. -/
theorem reencoding_canonicalises_of_noncanonical :
    ∃ output : ByteSlice, encodeToVec (.list [.boolean [true]]) = .ok output.bytes ∧
      output.bytes.length ≤ 6 ∧ decodeItem .default output = .ok (.list [.boolean [true]]) := by
  have hdecode : decodeItem .default ⟨[0x02, 0x00, 0x01, 0x25, 0x01, 0x07], by decide⟩ =
      .ok (.list [.boolean [true]]) := rfl
  obtain ⟨output, hencode, hshorter, hback, -⟩ := reencoding_canonicalises hdecode
  exact ⟨output, hencode, hshorter, hback⟩

end Secs2
end SecsRust

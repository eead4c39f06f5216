import SecsRust.Secs2.Codec.Grammar

/-!
# The wire grammar is unambiguous

Bytes are the wire form of at most one item, whatever comes behind them: a format byte
carries its code and the count of its length bytes, these carry the declared length, and
that length says where the payload ends or how many children follow.  No limit of a decoder
enters.

The two inductions are over a derivation of one item and of several, against a second
derivation that starts with the same bytes.  What follows the item in the input is arbitrary
on both sides, and that it is the same is part of the conclusion; without it the induction
over the children of a List would not go through.
-/

namespace SecsRust
namespace Secs2

open WireNode

section

variable {code code' : FormatCode} {count count' : LengthByteCount} {declared declared' : ℕ}
variable {rest rest' body : List UInt8} {item item' : SecsItem}

/-- A format byte carries one code and one count. -/
theorem formatByte_inj (h : count.formatByte code = count'.formatByte code') :
    code = code' ∧ count = count' := by
  obtain ⟨hcode, hcount⟩ := LengthByteCount.formatByte_eq_iff.mp (rfl : count.formatByte code = _)
  obtain ⟨hcode', hcount'⟩ := LengthByteCount.formatByte_eq_iff.mp h
  exact ⟨Option.some.inj (hcode.symm.trans hcode'), Option.some.inj (hcount.symm.trans hcount')⟩

/-- **A header ends where its count says**, and is one header. -/
theorem headerBytes_inj (hfits : declared < 256 ^ count.asCount)
    (hfits' : declared' < 256 ^ count'.asCount)
    (h : headerBytes code count declared ++ rest = headerBytes code' count' declared' ++ rest') :
    code = code' ∧ declared = declared' ∧ rest = rest' := by
  rw [headerBytes, headerBytes, List.cons_append, List.cons_append, List.cons.injEq] at h
  obtain ⟨hbyte, hbytes⟩ := h
  obtain ⟨hcode, rfl⟩ := formatByte_inj hbyte
  have hlength : (beBytes count.asCount declared).length =
      (beBytes count.asCount declared').length := by
    rw [length_beBytes, length_beBytes]
  obtain ⟨hdeclared, hrest⟩ := List.append_inj hbytes hlength
  refine ⟨hcode, ?_, hrest⟩
  rw [← beValue_beBytes hfits, hdeclared, beValue_beBytes hfits']

theorem Element.write_injective {α : Type} (e : Element α) : Function.Injective e.write :=
  Function.LeftInverse.injective read_write

/-- **A payload is the payload of one item.**  By cases on the format; numbers are their elements
by `Element.read_write`. -/
theorem Payload.unique {body' : List UInt8} (h : Payload code body item)
    (h' : Payload code body' item')
    (hbody : body = body') : item = item' := by
  cases h with
  | binary | jis8 =>
    cases h'
    exact congrArg _ hbody
  | boolean =>
    cases h'
    exact congrArg _ (congrArg _ hbody)
  | ascii =>
    cases h'
    exact congrArg _ ((AsciiString.mk.injEq _ _ _ _).mpr hbody)
  | localized =>
    cases h'
    rename_i encoding bytes encoding' bytes'
    have hlength : (Element.u16.toBeBytes encoding.raw).length =
        (Element.u16.toBeBytes encoding'.raw).length := by
      rw [Element.length_toBeBytes, Element.length_toBeBytes]
    obtain ⟨hraw, hbytes⟩ := List.append_inj hbody hlength
    have hback : Element.u16.fromBeBytes (Element.u16.toBeBytes encoding.raw) = encoding.raw :=
      Element.fromBeBytes_toBeBytes _
    have hencoding : encoding = encoding' := by
      refine (LocalizedEncodingCode.mk.injEq _ _ _ _).mpr ?_
      rw [← hback, hraw, Element.fromBeBytes_toBeBytes]
    rw [hencoding, hbytes]
  | _ =>
    cases h'
    exact congrArg _ (Element.write_injective _ hbody)

end

/-! ## Items -/

mutual

theorem Derives.unique_append : ∀ {nodes nodes' : List WireNode} {item item' : SecsItem},
    Derives nodes item → Derives nodes' item' → ∀ {rest rest' : List UInt8},
    wire nodes ++ rest = wire nodes' ++ rest' → item = item' ∧ rest = rest'
  | _, _, _, _, .list fits all, h', rest, rest', h => by
    rw [wire_cons, bytes, header, List.append_nil, List.append_assoc] at h
    cases h' with
    | list fits' all' =>
      rw [wire_cons, bytes, header, List.append_nil, List.append_assoc] at h
      obtain ⟨-, hcount, hchildren⟩ := headerBytes_inj fits fits' h
      obtain ⟨rfl, hrest⟩ := all.unique_append all' hcount hchildren
      exact ⟨rfl, hrest⟩
    | scalar fits' payload =>
      rw [wire_cons, bytes, header, List.append_assoc, List.append_assoc] at h
      obtain ⟨hcode, -⟩ := headerBytes_inj fits fits' h
      exact absurd hcode.symm payload.code_ne_list
  | _, _, _, _, .scalar fits payload, h', rest, rest', h => by
    rw [wire_cons, bytes, header, List.append_assoc, List.append_assoc] at h
    cases h' with
    | list fits' all' =>
      rw [wire_cons, bytes, header, List.append_nil, List.append_assoc] at h
      obtain ⟨hcode, -⟩ := headerBytes_inj fits fits' h
      exact absurd hcode payload.code_ne_list
    | scalar fits' payload' =>
      rw [wire_cons, bytes, header, List.append_assoc, List.append_assoc] at h
      obtain ⟨rfl, hlength, hbody⟩ := headerBytes_inj fits fits' h
      obtain ⟨rfl, hrest⟩ := List.append_inj hbody hlength
      exact ⟨payload.unique payload' rfl, hrest⟩

theorem DerivesAll.unique_append : ∀ {nodes nodes' : List WireNode} {items items' : List SecsItem},
    DerivesAll nodes items → DerivesAll nodes' items' → items.length = items'.length →
    ∀ {rest rest' : List UInt8}, wire nodes ++ rest = wire nodes' ++ rest' →
    items = items' ∧ rest = rest'
  | _, _, _, _, .nil, h', hlength, rest, rest', h => by
    cases h' with
    | nil => exact ⟨rfl, h⟩
    | cons head' tail' => cases hlength
  | _, _, _, _, .cons head tail, h', hlength, rest, rest', h => by
    cases h' with
    | nil => cases hlength
    | cons head' tail' =>
      rw [wire_append, wire_append, List.append_assoc, List.append_assoc] at h
      obtain ⟨rfl, hnext⟩ := head.unique_append head' h
      obtain ⟨rfl, hrest⟩ := tail.unique_append tail' (Nat.succ.inj hlength) hnext
      exact ⟨rfl, hrest⟩

end

/-- **Bytes are the wire form of at most one item.**  By induction on the first derivation; each
header decides the rule of the second one. -/
theorem Derives.unique {nodes nodes' : List WireNode} {item item' : SecsItem}
    (h : Derives nodes item)
    (h' : Derives nodes' item') (hwire : wire nodes = wire nodes') : item = item' :=
  (h.unique_append h' (congrArg (· ++ []) hwire)).1

end Secs2
end SecsRust

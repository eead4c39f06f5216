import Mathlib.Data.List.Basic

/-!
# Two parties that agree on a switch

Each of two parties has a switch.  A party that wants to turn its switch asks its peer; the
peer turns its own switch and grants, or refuses, and the asker turns its switch when it
learns that the request was granted. Either party may ask at any time, so requests may
cross, and there is a FIFO channel in each direction.

While something is under way the two switches may differ, and must: the party that grants
turns first. What can be hoped for is that they agree once both channels are empty
(`Agreed.on_eq`), and the invariant has to say what the channels hold until then.

## The invariant

`Agreed` has one clause for the future and several for the order of the channels.  The first
says that each party will end where the last grant in the channel towards it will put it, if
there is one. That would be false if a request could be granted and the grant then be undone
by an older answer. The other clauses exclude this: behind a request that is under way its
sender has granted nothing but the same change, a request and its answer are not under way
together, and an answer belongs to the request that its receiver awaits.

`Step` is what one party may do in one go, with a received note or without one.  It leaves
open why it does it: whether it asks, grants or refuses is its own decision, and the
invariant holds of every choice (`Agreed.step`).  By the symmetry of the invariant
(`Agreed.symm`) it is enough to look at the steps of one of the two.
-/

namespace SecsRust
namespace Handshake

universe u

variable {ι : Type u}

/-- A party: whether its switch is on, and the change for which it awaits an answer. -/
structure Party (ι : Type u) where
  on : Bool
  asked : Option (Bool × ι)

/-- What the parties send: a request for a value of the switch, and the answer to it. -/
inductive Note (ι : Type u) where
  | ask (value : Bool) (id : ι)
  | answer (value : Bool) (id : ι) (granted : Bool)

namespace Note

/-- The request that a note makes. -/
def asks : Note ι → Option (Bool × ι)
  | ask value id => some (value, id)
  | answer .. => none

/-- The request that a note answers. -/
def answers : Note ι → Option (Bool × ι)
  | ask .. => none
  | answer value id _ => some (value, id)

/-- The value that a note grants. -/
def grants : Note ι → Option Bool
  | answer value _ true => some value
  | answer _ _ false | ask .. => none

end Note

/-- The last value granted in a channel. -/
def granted (channel : List (Note ι)) : Option Bool := (channel.filterMap Note.grants).getLast?

/-- **What a party may do** with a received note, or without one, and what it sends. -/
inductive Step : Party ι → Option (Note ι) → List (Note ι) → Party ι → Prop where
  | rest (p : Party ι) : Step p none [] p
  | ask (p : Party ι) (value : Bool) (id : ι) (idle : p.asked = none) (change : p.on = !value) :
      Step p none [.ask value id] ⟨p.on, some (value, id)⟩
  | grant (p : Party ι) (value : Bool) (id : ι) (change : p.on = !value) :
      Step p (some (.ask value id)) [.answer value id true] ⟨value, p.asked⟩
  | refuse (p : Party ι) (value : Bool) (id : ι) :
      Step p (some (.ask value id)) [.answer value id false] p
  | lose (p : Party ι) (value : Bool) (id : ι) : Step p (some (.ask value id)) [] p
  | learn (p : Party ι) (value : Bool) (id : ι) (granted : Bool)
      (asked : p.asked = some (value, id)) :
      Step p (some (.answer value id granted)) [] ⟨if granted then value else p.on, none⟩
  | andThen {p p₁ p₂ : Party ι} {received : Option (Note ι)} {sent more : List (Note ι)}
      (first : Step p received sent p₁) (next : Step p₁ none more p₂) :
      Step p received (sent ++ more) p₂

/-- **The invariant of two parties**, each with the channel of what it has sent and the other has
not received. -/
structure Agreed (p : Party ι) (channel : List (Note ι)) (p' : Party ι) (channel' : List (Note ι)) :
    Prop where
  -- a request is under way, or its answer is, or neither
  asked : (channel.filterMap Note.asks ++ channel'.filterMap Note.answers).Sublist p.asked.toList
  asked' : (channel'.filterMap Note.asks ++ channel.filterMap Note.answers).Sublist p'.asked.toList
  -- behind a request its sender has granted the same change, or it has not turned its switch since
  pending : ∀ earlier later value id, channel = earlier ++ .ask value id :: later →
    (granted later).getD (!p.on) = value
  pending' : ∀ earlier later value id, channel' = earlier ++ .ask value id :: later →
    (granted later).getD (!p'.on) = value
  -- once the grants have arrived, the switches agree
  final : (granted channel').getD p.on = (granted channel).getD p'.on

section

variable {p p₁ p' : Party ι} {channel channel' rest sent : List (Note ι)} {note : Note ι}

theorem granted_append_singleton :
    granted (channel ++ [note]) = note.grants.or (granted channel) := by
  unfold granted
  rw [List.filterMap_append, List.getLast?_append]
  cases note with
  | ask value id => simp [Note.grants]
  | answer value id outcome => cases outcome <;> simp [Note.grants]

theorem granted_cons (note : Note ι) (channel : List (Note ι)) :
    granted (note :: channel) = (granted channel).or note.grants := by
  unfold granted
  rw [List.filterMap_cons]
  cases note.grants with
  | none => simp
  | some value => simp [List.getLast?_cons]

theorem granted_of_no_answers (h : channel.filterMap Note.answers = []) :
    granted channel = none := by
  unfold granted
  rw [List.getLast?_eq_none_iff, List.filterMap_eq_nil_iff]
  intro note hnote
  have hnone := List.filterMap_eq_nil_iff.mp h note hnote
  cases note with
  | ask value id => rfl
  | answer value id outcome => cases hnone

theorem Agreed.symm (h : Agreed p channel p' channel') : Agreed p' channel' p channel :=
  ⟨h.asked', h.asked, h.pending', h.pending, h.final.symm⟩

/-- A request and its answer are not under way together. -/
theorem nil_of_cons_sublist {α : Type u} {a : α} {first last : List α} {o : Option α}
    (h : (a :: (first ++ last)).Sublist o.toList) : first = [] ∧ last = [] ∧ o = some a := by
  cases o with
  | none => cases h
  | some b =>
    have hlength : (a :: (first ++ last)).length ≤ 1 := h.length_le
    rw [List.length_cons, List.length_append] at hlength
    have hfirst : first.length = 0 := by omega
    have hlast : last.length = 0 := by omega
    obtain rfl := List.length_eq_zero_iff.mp hfirst
    obtain rfl := List.length_eq_zero_iff.mp hlast
    have heq := List.mem_singleton.mp (h.subset List.mem_cons_self)
    exact ⟨rfl, rfl, congrArg some heq.symm⟩

/-- A note in a channel that has grown is the last one, or it was there before. -/
theorem split_append_singleton {note last : Note ι} {earlier later : List (Note ι)}
    (h : channel ++ [last] = earlier ++ note :: later) :
    later = [] ∧ note = last ∨ ∃ before, later = before ++ [last] ∧
      channel = earlier ++ note :: before := by
  rcases List.eq_nil_or_concat later with rfl | ⟨before, final, rfl⟩
  · exact Or.inl ⟨rfl, (List.cons.inj (List.append_inj' h rfl).2).1.symm⟩
  · rw [List.concat_eq_append] at h ⊢
    rw [← List.cons_append, ← List.append_assoc] at h
    obtain ⟨hchannel, hlast⟩ := List.append_inj' h rfl
    rw [(List.cons.inj hlast).1]
    exact Or.inr ⟨before, rfl, hchannel⟩

theorem not_mem_asks {value : Bool} {id : ι} {earlier later : List (Note ι)}
    (hnone : channel.filterMap Note.asks = []) : channel ≠ earlier ++ .ask value id :: later := by
  rintro rfl
  have hask := List.filterMap_eq_nil_iff.mp hnone (.ask value id)
    (List.mem_append_right _ List.mem_cons_self)
  cases hask

/-- **Every step keeps the invariant.** -/
theorem Agreed.step {received : Option (Note ι)} (h : Agreed p channel p' (received.toList ++ rest))
    (hs : Step p received sent p₁) : Agreed p₁ (channel ++ sent) p' rest := by
  induction hs generalizing channel rest with
  | rest p =>
    rw [List.append_nil]
    exact h
  | andThen first next ih ihnext =>
    rw [← List.append_assoc]
    exact ihnext (ih h)
  | ask p value id idle change =>
    have hnone : channel.filterMap Note.asks = [] ∧ rest.filterMap Note.answers = [] := by
      have hsub := h.asked
      rw [idle] at hsub
      exact List.append_eq_nil_iff.mp (List.sublist_nil.mp hsub)
    refine ⟨?_, ?_, fun earlier later value' id' hsplit => ?_, h.pending', ?_⟩
    · rw [List.filterMap_append, hnone.1, hnone.2]
      exact List.Sublist.refl _
    · rw [List.filterMap_append, show [Note.ask value id].filterMap Note.answers = [] from rfl,
        List.append_nil]
      exact h.asked'
    · rcases split_append_singleton hsplit with ⟨rfl, heq⟩ | ⟨before, -, hbefore⟩
      · obtain ⟨rfl, -⟩ := Note.ask.inj heq
        rw [change, Bool.not_not]
        rfl
      · exact absurd hbefore (not_mem_asks hnone.1)
    · rw [granted_append_singleton]
      exact h.final
  | grant p value id change =>
    have hasked := h.asked'
    change ((value, id) :: (rest.filterMap Note.asks ++ channel.filterMap Note.answers)).Sublist
      p'.asked.toList at hasked
    obtain ⟨hasks, hanswers, hpeer⟩ := nil_of_cons_sublist hasked
    -- what the peer has granted behind its request is the same change
    have hbehind : (granted rest).getD value = value := by
      cases hgranted : granted rest with
      | none => rfl
      | some other =>
        have hsame := h.pending' [] rest value id rfl
        rw [hgranted] at hsame
        exact hsame
    refine ⟨?_, ?_, fun earlier later value' id' hsplit => ?_,
      fun earlier later value' id' hsplit => ?_, ?_⟩
    · rw [List.filterMap_append, show [Note.answer value id true].filterMap Note.asks = [] from rfl,
        List.append_nil]
      exact h.asked
    · rw [List.filterMap_append, hasks, hanswers, hpeer]
      exact List.Sublist.refl _
    · rcases split_append_singleton hsplit with ⟨-, heq⟩ | ⟨before, rfl, hbefore⟩
      · cases heq
      · rw [granted_append_singleton]
        have hsame := h.pending earlier before value' id' hbefore
        have hnone : granted before = none := by
          refine granted_of_no_answers ?_
          rw [hbefore, List.filterMap_append, List.filterMap_cons] at hanswers
          exact (List.append_eq_nil_iff.mp hanswers).2
        rw [hnone, change] at hsame
        have hvalue : value = value' := by simpa using hsame
        exact hvalue
    · exact absurd hsplit (not_mem_asks hasks)
    · rw [granted_append_singleton]
      exact hbehind
  | refuse p value id =>
    have hasked := h.asked'
    change ((value, id) :: (rest.filterMap Note.asks ++ channel.filterMap Note.answers)).Sublist
      p'.asked.toList at hasked
    obtain ⟨hasks, hanswers, hpeer⟩ := nil_of_cons_sublist hasked
    refine ⟨?_, ?_, fun earlier later value' id' hsplit => ?_,
      fun earlier later value' id' hsplit => ?_, ?_⟩
    · rw [List.filterMap_append,
        show [Note.answer value id false].filterMap Note.asks = [] from rfl, List.append_nil]
      exact h.asked
    · rw [List.filterMap_append, hasks, hanswers, hpeer]
      exact List.Sublist.refl _
    · rcases split_append_singleton hsplit with ⟨-, heq⟩ | ⟨before, rfl, hbefore⟩
      · cases heq
      · rw [granted_append_singleton]
        exact h.pending earlier before value' id' hbefore
    · exact absurd hsplit (not_mem_asks hasks)
    · rw [granted_append_singleton]
      have hfinal := h.final
      rw [Option.toList_some, List.singleton_append, granted_cons] at hfinal
      simpa [Note.grants] using hfinal
  | lose p value id =>
    rw [List.append_nil]
    refine ⟨h.asked, ?_, h.pending, fun earlier later value' id' hsplit => ?_, ?_⟩
    · exact (List.sublist_cons_self _ _).trans h.asked'
    · exact h.pending' (.ask value id :: earlier) later value' id' (congrArg (List.cons _) hsplit)
    · have hfinal := h.final
      rw [Option.toList_some, List.singleton_append, granted_cons] at hfinal
      simpa [Note.grants] using hfinal
  | learn p value id outcome hasked =>
    rw [List.append_nil]
    have hnone : channel.filterMap Note.asks = [] ∧ rest.filterMap Note.answers = [] := by
      have hsub := h.asked
      have hlength : (channel.filterMap Note.asks ++
          (value, id) :: rest.filterMap Note.answers).length ≤ 1 := by
        rw [hasked] at hsub
        exact hsub.length_le
      rw [List.length_append, List.length_cons] at hlength
      exact ⟨List.length_eq_zero_iff.mp (by omega), List.length_eq_zero_iff.mp (by omega)⟩
    refine ⟨?_, h.asked', fun earlier later value' id' hsplit => ?_,
      fun earlier later value' id' hsplit => ?_, ?_⟩
    · rw [hnone.1, hnone.2]
      exact List.Sublist.refl _
    · exact absurd hsplit (not_mem_asks hnone.1)
    · exact h.pending' (.answer value id outcome :: earlier) later value' id'
        (congrArg (List.cons _) hsplit)
    · have hfinal := h.final
      rw [Option.toList_some, List.singleton_append, granted_cons,
        granted_of_no_answers hnone.2] at hfinal
      rw [granted_of_no_answers hnone.2, ← hfinal]
      cases outcome <;> rfl

/-- Two parties that start alike and have sent nothing. -/
theorem agreed_start (on : Bool) : Agreed (⟨on, none⟩ : Party ι) [] ⟨on, none⟩ [] := by
  refine ⟨List.Sublist.refl _, List.Sublist.refl _, fun earlier later value id hsplit => ?_,
    fun earlier later value id hsplit => ?_, rfl⟩
  · exact absurd hsplit (not_mem_asks rfl)
  · exact absurd hsplit (not_mem_asks rfl)

/-- **With both channels empty the switches agree.** -/
theorem Agreed.on_eq (h : Agreed p [] p' []) : p.on = p'.on := h.final

/-- An answer that arrives belongs to the request that its receiver awaits. -/
theorem Agreed.asked_of_answer {value outcome : Bool} {id : ι}
    (h : Agreed p channel p' (.answer value id outcome :: rest)) : p.asked = some (value, id) := by
  have hmem : (value, id) ∈ channel.filterMap Note.asks ++
      (Note.answer value id outcome :: rest).filterMap Note.answers :=
    List.mem_append_right _ List.mem_cons_self
  exact Option.mem_toList.mp (h.asked.subset hmem)

end

end Handshake
end SecsRust

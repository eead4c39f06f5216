import SecsRust.Hsms.Core.Network

/-!
# Two Cores agree on the selection

Both ends may select and deselect, at the same time, and each may refuse the other.
Requests cross on the way, an answer may arrive after its sender has changed its mind, and
the drain of a Deselect delays its request.  Still, when nothing is on its way and neither
side waits for an answer, both are Selected or neither is.

## The argument

A network is a pair of parties of `Handshake` as long as both Cores are open, each round
being a step of its party (`SessionCore.moves_handle`, `SessionCore.moves_onMessage`).  The
invariant of the handshake is stated and proved there, for any two parties and channels of
any length; here the channels are those of the network, read through `notesOf`, and every
frame in them conforms, because a Core has sent it.

## What need not be excluded

No timer and no identifier has to be excluded.  T6, T7, an exhausted identifier space, a
failed write and a Separate all close the Core that they strike, and a closed Core is not
held to anything: the statement is about states in which neither is closing.  Commits may
come late or never.

`endpoints_agree_after_crossing_selects` is the run in which both sides select at once.
-/

namespace SecsRust
namespace Hsms

open Std Secs2 SessionCore

/-- What a channel says about the selection. -/
def notesIn (channel : List ProtocolMessage) : List (Handshake.Note SystemBytes) :=
  channel.filterMap ProtocolMessage.note

theorem notesIn_append {channel more : List ProtocolMessage} :
    notesIn (channel ++ more) = notesIn channel ++ notesIn more := List.filterMap_append

theorem notesIn_messagesOf (actions : List CoreAction) :
    notesIn (messagesOf actions) = notesOf actions := by
  unfold notesIn messagesOf notesOf
  rw [List.filterMap_map]
  rfl

theorem notesIn_cons (message : ProtocolMessage) (rest : List ProtocolMessage) :
    notesIn (message :: rest) = message.note.toList ++ notesIn rest := by
  unfold notesIn
  cases hnote : message.note with
  | none => exact List.filterMap_cons_none hnote
  | some note => exact List.filterMap_cons_some hnote

namespace Network

variable {n : Network} {side : Side}

/-- Neither Core is closing. -/
def Open (n : Network) : Prop := ∀ side, (n.core side).closing = false

/-- **The invariant of an open network**: the messages on their way conform, and the two parties
with what they have to tell each other agree. -/
structure Agrees (n : Network) : Prop where
  conforms : ∀ side, ∀ message ∈ n.channel side, message.Conforms
  agreed : Handshake.Agreed (n.core .a).party (notesIn (n.channel .a)) (n.core .b).party
    (notesIn (n.channel .b))

theorem Agrees.on_side (h : n.Agrees) (side : Side) : Handshake.Agreed (n.core side).party
    (notesIn (n.channel side)) (n.core side.other).party (notesIn (n.channel side.other)) := by
  cases side with
  | a => exact h.agreed
  | b => exact h.agreed.symm

theorem agrees_of_side (hconforms : ∀ side, ∀ message ∈ n.channel side, message.Conforms)
    (side : Side)
    (h : Handshake.Agreed (n.core side).party (notesIn (n.channel side)) (n.core side.other).party
      (notesIn (n.channel side.other))) : n.Agrees := by
  cases side with
  | a => exact ⟨hconforms, h⟩
  | b => exact ⟨hconforms, h.symm⟩

/-- **One round keeps the agreement**, if it is a step of its party.  The party of the Core moves
as `Lib.Handshake` allows, and so do the notes that it sends. -/
theorem agrees_perform {input : Input} {received : Option (Handshake.Note SystemBytes)}
    (hmoves : Turn.Moves received (Turn.start (n.core side)) ((n.core side).handle input))
    (hlive : ((n.core side).handle input).core.closing = false)
    (hconforms : ∀ side, ∀ message ∈ n.channel side, message.Conforms)
    (h : Handshake.Agreed (n.core side).party (notesIn (n.channel side)) (n.core side.other).party
      (received.toList ++ notesIn (n.channel side.other))) : (n.perform side input).1.Agrees := by
  obtain ⟨-, sent, hactions, hsent, hstep⟩ := hmoves hlive
  have hactions : ((n.core side).handle input).actions = sent := hactions
  refine agrees_of_side (fun side' message hmem => ?_) side ?_
  · rcases side.eq_or_eq_other side' with rfl | rfl
    · rw [perform_channel_self, List.mem_append] at hmem
      rcases hmem with hmem | hmem
      · exact hconforms side' message hmem
      · obtain ⟨frame, hframe, rfl⟩ := List.mem_map.mp hmem
        exact hsent frame (hactions ▸ hframe)
    · rw [perform_channel_other] at hmem
      exact hconforms side.other message hmem
  · rw [perform_core_self, perform_core_other, perform_channel_self, perform_channel_other,
      notesIn_append, notesIn_messagesOf, hactions]
    exact h.step hstep

/-- A Core that is not connected drops a request, and cannot have been sent an answer. -/
theorem moves_unconnected {core : SessionCore} (hstate : core.state = none)
    {message : ProtocolMessage}
    (hnone : ∀ value systemBytes granted, message.note ≠ some (.answer value systemBytes granted))
    (now : MonoTime) : Turn.Moves message.note (Turn.start core) (core.onMessage message now) := by
  rcases onMessage_ignored (Or.inl hstate) with hclosed | heq
  · exact Turn.moves_of_closing hclosed
  · rw [heq]
    refine Turn.moves_of_silent rfl rfl rfl ?_
    show Handshake.Step core.party message.note [] core.party
    cases hnote : message.note with
    | none => exact .rest _
    | some note =>
      cases note with
      | ask value systemBytes => exact .lose _ value systemBytes
      | answer value systemBytes granted => exact absurd hnote (hnone value systemBytes granted)

/-- What is known of each Core of a network by itself. -/
structure Sound (n : Network) : Prop where
  coherent : ∀ side, Coherent none (n.core side)
  session : ∀ side, (n.core side).ControlSession
  seated : ∀ side, (n.core side).Seated

/-- A round that leaves its Core open found it open. -/
theorem open_of_perform {input : Input} (hsound : n.Sound) (hopen : (n.perform side input).1.Open) :
    n.Open ∧ ((n.core side).handle input).core.closing = false := by
  have hself := hopen side
  rw [perform_core_self] at hself
  refine ⟨fun side' => ?_, hself⟩
  rcases side.eq_or_eq_other side' with rfl | rfl
  · exact live_of_handle (hsound.coherent side') hself
  · have hother := hopen side.other
    rwa [perform_core_other] at hother

/-- **One move keeps the agreement** of a network that stays open.  The move is one of either
side, and the symmetry of the agreement makes the two cases one. -/
theorem Agrees.step (hsound : n.Sound) (h : n.Open → n.Agrees) (move : Move)
    (hopen : (machine.step n move).1.Open) : (machine.step n move).1.Agrees := by
  rcases step_cases n move with heq | ⟨side, input, heq⟩ | ⟨side, message, rest, now, hchannel, heq⟩
  · rw [heq] at hopen ⊢
    exact h hopen
  · rw [heq] at hopen ⊢
    obtain ⟨hbefore, hlive⟩ := open_of_perform hsound hopen
    have hagrees := h hbefore
    exact agrees_perform (moves_handle (hsound.coherent side) input.property) hlive hagrees.conforms
      (hagrees.on_side side)
  · rw [heq] at hopen ⊢
    have hsound' : (n.withdraw side.other rest).Sound :=
      ⟨hsound.coherent, hsound.session, hsound.seated⟩
    obtain ⟨hbefore, hlive⟩ := open_of_perform hsound' hopen
    have hbefore : n.Open := hbefore
    have hagrees := h hbefore
    have hagreed := hagrees.on_side side
    rw [hchannel, notesIn_cons] at hagreed
    have hmessage : message.Conforms := by
      refine hagrees.conforms side.other message ?_
      rw [hchannel]
      exact List.mem_cons_self
    have hasked : ∀ value systemBytes granted,
        message.note = some (.answer value systemBytes granted) →
        (n.core side).party.asked = some (value, systemBytes) := by
      intro value systemBytes granted hnote
      rw [hnote] at hagreed
      exact hagreed.asked_of_answer
    have hmoves : Turn.Moves message.note (Turn.start (n.core side))
        ((n.core side).handle (.message message now)) := by
      cases hstate : (n.core side).state with
      | some state =>
        exact moves_onMessage (hsound.coherent side) (hsound.session side) (by rw [hstate]; rfl)
          (hbefore side)
          hmessage hasked now
      | none =>
        refine moves_unconnected hstate (fun value systemBytes granted hnote => ?_) now
        obtain ⟨transaction, hactive, -, -⟩ :=
          active_of_asked (hasked value systemBytes granted hnote)
        have hconnected := hsound.seated side (hbefore side) (by rw [hactive]; rfl)
        rw [hstate] at hconnected
        cases hconnected
    refine agrees_perform hmoves hlive (fun side' other hmem => ?_) ?_
    · rcases side.eq_or_eq_other side' with rfl | rfl
      · rw [withdraw_channel_other] at hmem
        exact hagrees.conforms side' other hmem
      · rw [withdraw_channel_self] at hmem
        refine hagrees.conforms side.other other ?_
        rw [hchannel]
        exact List.mem_cons_of_mem _ hmem
    · rw [withdraw_channel_self, withdraw_channel_other]
      exact hagreed

section

variable (config : Side → SessionCoreConfig) (nextWriteId : Side → Option UInt64)
  (nextSystemBytes : Side → Option UInt32)

theorem sound_run (moves : List Move) :
    (machine.after (initial config nextWriteId nextSystemBytes) moves).Sound := by
  refine ⟨fun side => coherent_core config nextWriteId nextSystemBytes moves side, fun side => ?_,
    fun side => ?_⟩
  · rw [core_after]
    exact controlSession_run _ _ _ _
  · rw [core_after]
    exact seated_run _ _ _ _

/-- Every network that is reached and open agrees. -/
theorem agrees_run (moves : List Move) :
    (machine.after (initial config nextWriteId nextSystemBytes) moves).Open →
      (machine.after (initial config nextWriteId nextSystemBytes) moves).Agrees := by
  induction moves using List.reverseRecOn with
  | nil =>
    refine fun _ => ⟨fun side message hmem => ?_, Handshake.agreed_start false⟩
    cases hmem
  | append_singleton moves move ih =>
    rw [Machine.after_append_singleton]
    exact Agrees.step (sound_run config nextWriteId nextSystemBytes moves) ih move

end

end Network

/-- **Two endpoints agree on the selection**: whenever nothing is on its way between two connected
Cores that are open, both are Selected or both are NotSelected. -/
theorem endpoints_agree_on_selection (config : Side → SessionCoreConfig)
    (nextWriteId : Side → Option UInt64)
    (nextSystemBytes : Side → Option UInt32) (moves : List Move) {n : Network}
    (hrun : n = Network.machine.after (Network.initial config nextWriteId nextSystemBytes) moves)
    (hopen : n.Open) (hempty : ∀ side, n.channel side = [])
    (hconnected : ∀ side, (n.core side).state.isSome = true) :
    (n.core .a).state = (n.core .b).state := by
  subst hrun
  have hagreed := (Network.agrees_run config nextWriteId nextSystemBytes moves hopen).agreed
  rw [hempty .a, hempty .b] at hagreed
  have hon := hagreed.on_eq
  have hrange (side : Side) :=
    (Network.coherent_core config nextWriteId nextSystemBytes moves side).state_range
  generalize Network.machine.after
    (Network.initial config nextWriteId nextSystemBytes) moves = n at *
  have hsame : decide ((n.core .a).state = some .selected) =
      decide ((n.core .b).state = some .selected) := hon
  have ha := hconnected .a
  have hb := hconnected .b
  rcases hrange .a with hnone | hstate | hstate
  · rw [hnone] at ha
    cases ha
  · rcases hrange .b with hnone | hstate' | hstate'
    · rw [hnone] at hb
      cases hb
    · rw [hstate, hstate']
    · rw [hstate, hstate'] at hsame
      cases hsame
  · rcases hrange .b with hnone | hstate' | hstate'
    · rw [hnone] at hb
      cases hb
    · rw [hstate, hstate'] at hsame
      cases hsame
    · rw [hstate, hstate']

/-- Both ends connect and select at the same time, and every message is delivered. -/
def Scenario.crossingSelects : List Move :=
  [.own .a ⟨.connected .zero, rfl⟩, .own .b ⟨.connected .zero, rfl⟩,
    .own .a ⟨.command ⟨⟨1⟩, .select⟩ .zero, rfl⟩, .own .b ⟨.command ⟨⟨1⟩, .select⟩ .zero, rfl⟩,
    .deliver .a .zero, .deliver .b .zero, .deliver .a .zero, .deliver .b .zero]

theorem endpoints_agree_after_crossing_selects :
    let n := Network.machine.after (Network.initial (fun _ => Scenario.config) (fun _ => some 0)
      fun _ => some 0) Scenario.crossingSelects
    (n.core .a).state = some .selected ∧ (n.core .a).state = (n.core .b).state := by
  refine ⟨by decide, ?_⟩
  refine endpoints_agree_on_selection _ _ _ Scenario.crossingSelects rfl (fun side => ?_)
    (fun side => ?_)
    fun side => ?_
  · cases side <;> decide
  · cases side <;> decide
  · cases side <;> decide

end Hsms
end SecsRust

import SecsRust.Hsms.Core.Session.Party

/-!
# Two Cores and the channels between them

Two Session Cores, joined by a reliable FIFO channel in each direction.  Either side may be
given any input of its own at any time (`OwnInput`): commands, replies, write outcomes,
time, shutdowns.  Or the oldest message on its way to it is delivered, and goes through
`on_message`.  Whatever frames a round sends join the channel, in order.  A message is
delivered whole or not at all; what a transport may do to the bytes is a matter of other
modules.

A run of the network is a list of moves, and its history is the list of the rounds that they
made.  A move that has nothing to deliver makes no round.  Each side by itself then runs as
a Core on the inputs of its own rounds (`core_after`), and nothing is lost, duplicated or
reordered between the sides (`sent_eq`): what one side has received, followed by what is on
its way, is what the other has sent.

So what is known of one Core may be used on either side, and that is how the two modules
that follow proceed. They take the invariants of a single Core at the inputs of each side,
and combine them through the channel. No invariant of the network is proved by looking at
two Cores at once, the agreement on the selection apart.
-/

namespace SecsRust
namespace Hsms

open Std Secs2 SessionCore

/-- The two ends of a connection.  They run the same Core and differ in nothing but their inputs. -/
inductive Side where
  | a
  | b
  deriving DecidableEq

/-- The other end. -/
def Side.other : Side → Side
  | a => b
  | b => a

@[simp] theorem Side.other_other (side : Side) : side.other.other = side := by cases side <;> rfl

theorem Side.other_ne (side : Side) : side.other ≠ side := by cases side <;> nofun

theorem Side.eq_or_eq_other (side side' : Side) : side' = side ∨ side' = side.other := by
  cases side <;> cases side' <;> simp [Side.other]

/-- Two Cores, and the messages on their way.  Each direction is a FIFO, as TCP has it, and its
length has no bound. -/
structure Network where
  core : Side → SessionCore
  /-- What a side has sent and the other has not received, the oldest first. -/
  channel : Side → List ProtocolMessage

/-- An input that does not come from the peer. -/
abbrev OwnInput := { input : Input // input.isInbound = false }

/-- What may happen next.  Either side may be given any input, and a message is received only
from the front of its channel. -/
inductive Move where
  | own (side : Side) (input : OwnInput)
  | deliver (side : Side) (now : MonoTime)

/-- One round of one side: its input and its actions. -/
structure NetworkRound where
  side : Side
  input : Input
  actions : List CoreAction

/-- The messages that some actions send, in order. -/
def messagesOf (actions : List CoreAction) : List ProtocolMessage := (framesOf actions).map Prod.snd

theorem messagesOf_append {past actions : List CoreAction} :
    messagesOf (past ++ actions) = messagesOf past ++ messagesOf actions := by
  rw [messagesOf, framesOf_append, List.map_append]
  rfl

namespace Network

/-- One round of one side. -/
def perform (n : Network) (side : Side) (input : Input) : Network × List NetworkRound :=
  let t := (n.core side).handle input
  (⟨Function.update n.core side t.core,
    Function.update n.channel side (n.channel side ++ messagesOf t.actions)⟩, [⟨side,
      input, t.actions⟩])

/-- A side's channel is left with `rest`. -/
def withdraw (n : Network) (side : Side) (rest : List ProtocolMessage) : Network :=
  { n with channel := Function.update n.channel side rest }

/-- The oldest message on its way to a side is taken from the channel and received. -/
def deliver (n : Network) (side : Side) (now : MonoTime) : Network × List NetworkRound :=
  match n.channel side.other with
  | [] => (n, [])
  | message :: rest =>
    (n.withdraw side.other rest).perform side (.message message now)

/-- The network as a reactive machine. -/
def machine : Machine Network Move NetworkRound where
  step n move :=
    match move with
    | .own side input => n.perform side input.val
    | .deliver side now => n.deliver side now

/-- Two new Cores, with nothing on its way. -/
def initial (config : Side → SessionCoreConfig) (nextWriteId : Side → Option UInt64)
    (nextSystemBytes : Side → Option UInt32) : Network where
  core side := SessionCore.initial (config side) (nextWriteId side) (nextSystemBytes side)
  channel _ := []

section

variable {n : Network} {side : Side} {input : Input}

@[simp] theorem perform_core_self :
    (n.perform side input).1.core side = ((n.core side).handle input).core :=
  Function.update_self side _ n.core

@[simp] theorem perform_core_other : (n.perform side input).1.core side.other = n.core side.other :=
  Function.update_of_ne side.other_ne _ n.core

@[simp] theorem perform_channel_self : (n.perform side input).1.channel side =
    n.channel side ++ messagesOf ((n.core side).handle input).actions :=
  Function.update_self side _ n.channel

@[simp] theorem perform_channel_other :
    (n.perform side input).1.channel side.other = n.channel side.other :=
  Function.update_of_ne side.other_ne _ n.channel

@[simp] theorem withdraw_channel_self {rest : List ProtocolMessage} :
    (n.withdraw side.other rest).channel side.other = rest := Function.update_self _ _ n.channel

@[simp] theorem withdraw_channel_other {rest : List ProtocolMessage} :
    (n.withdraw side.other rest).channel side = n.channel side :=
  Function.update_of_ne side.other_ne.symm _ n.channel

/-- **One move**: nothing, a round of a side on an input of its own, or a round on the oldest
message on its way to the side. -/
theorem step_cases (n : Network) (move : Move) :
    machine.step n move = (n, []) ∨
    (∃ (side : Side) (input : OwnInput), machine.step n move = n.perform side input.val) ∨
    ∃ (side : Side) (message : ProtocolMessage) (rest : List ProtocolMessage) (now : MonoTime),
      n.channel side.other = message :: rest ∧
      machine.step n move = (n.withdraw side.other rest).perform side (.message message now) := by
  cases move with
  | own side input => exact Or.inr (Or.inl ⟨side, input, rfl⟩)
  | deliver side now =>
    cases hchannel : n.channel side.other with
    | nil =>
      refine Or.inl ?_
      show n.deliver side now = (n, [])
      unfold deliver
      rw [hchannel]
    | cons message rest =>
      refine Or.inr (Or.inr ⟨side, message, rest, now, hchannel, ?_⟩)
      show n.deliver side now = _
      unfold deliver
      rw [hchannel]

end

end Network

/-! ## The rounds of one side -/

/-- The inputs of one side, in order. -/
def inputsOf (side : Side) (rounds : List NetworkRound) : List Input :=
  rounds.filterMap fun round => if round.side = side then some round.input else none

/-- What one side has emitted, each action with its input, in order. -/
def emissionsOf (side : Side) (rounds : List NetworkRound) : List (Input × CoreAction) :=
  rounds.flatMap fun round =>
    if round.side = side then round.actions.map fun action => (round.input, action) else []

/-- The actions of one side, in order. -/
def actionsOf (side : Side) (rounds : List NetworkRound) : List CoreAction :=
  (emissionsOf side rounds).map Prod.snd

/-- The message of an input that delivers one. -/
def Input.received : Input → Option ProtocolMessage
  | .message incoming _ => some incoming
  | .connected _ | .command .. | .inboundViolation .. | .reply .. | .writeOutcome .. | .shutdown ..
  | .finishShutdownDrain .. | .advanceTime _ | .finalizeWriter _ => none

/-- The messages that one side has received, in order. -/
def receivedBy (side : Side) (rounds : List NetworkRound) : List ProtocolMessage :=
  (inputsOf side rounds).filterMap Input.received

section

variable {side : Side} {rounds more : List NetworkRound} {input : Input} {actions : List CoreAction}

theorem inputsOf_append :
    inputsOf side (rounds ++ more) = inputsOf side rounds ++ inputsOf side more :=
  List.filterMap_append

theorem emissionsOf_append :
    emissionsOf side (rounds ++ more) = emissionsOf side rounds ++ emissionsOf side more :=
  List.flatMap_append

theorem actionsOf_append :
    actionsOf side (rounds ++ more) = actionsOf side rounds ++ actionsOf side more := by
  unfold actionsOf
  rw [emissionsOf_append, List.map_append]

theorem receivedBy_append :
    receivedBy side (rounds ++ more) = receivedBy side rounds ++ receivedBy side more := by
  unfold receivedBy
  rw [inputsOf_append, List.filterMap_append]

@[simp] theorem inputsOf_self : inputsOf side [⟨side, input, actions⟩] = [input] :=
  List.filterMap_cons_some (if_pos rfl)

@[simp] theorem inputsOf_other : inputsOf side.other [⟨side, input, actions⟩] = [] :=
  List.filterMap_cons_none (if_neg side.other_ne.symm)

@[simp] theorem emissionsOf_self :
    emissionsOf side [⟨side, input, actions⟩] = actions.map fun action => (input, action) := by
  simp [emissionsOf]

@[simp] theorem emissionsOf_other : emissionsOf side.other [⟨side, input, actions⟩] = [] := by
  simp [emissionsOf, side.other_ne.symm]

@[simp] theorem actionsOf_self : actionsOf side [⟨side, input, actions⟩] = actions := by
  rw [actionsOf, emissionsOf_self, List.map_map]
  exact List.map_id _

@[simp] theorem actionsOf_other : actionsOf side.other [⟨side, input, actions⟩] = [] := by
  rw [actionsOf, emissionsOf_other]
  rfl

theorem receivedBy_message {message : ProtocolMessage} {now : MonoTime} :
    receivedBy side [⟨side, .message message now, actions⟩] = [message] := by
  unfold receivedBy
  rw [inputsOf_self]
  rfl

theorem receivedBy_own (hown : input.isInbound = false) :
    receivedBy side [⟨side, input, actions⟩] = [] := by
  unfold receivedBy
  rw [inputsOf_self]
  cases input <;> first | rfl | cases hown

theorem receivedBy_other : receivedBy side.other [⟨side, input, actions⟩] = [] := by
  unfold receivedBy
  rw [inputsOf_other]
  rfl

end

/-! ## Runs -/

namespace Network

variable (config : Side → SessionCoreConfig) (nextWriteId : Side → Option UInt64)
  (nextSystemBytes : Side → Option UInt32)

/-- A side has run as a Core on the inputs of its rounds, and has emitted what the Core emits. -/
def SideRuns (start : Network) (rounds : List NetworkRound) (n : Network) (side : Side) : Prop :=
  n.core side = SessionCore.machine.after (start.core side) (inputsOf side rounds) ∧
    emissionsOf side rounds =
      SessionCore.machine.labelled.history (start.core side) (inputsOf side rounds)

theorem SideRuns.perform {start n n' : Network} {rounds : List NetworkRound} {side : Side}
    {input : Input}
    (h : ∀ side, SideRuns start rounds n side) (hcore : n'.core = n.core) (side' : Side) :
    SideRuns start (rounds ++ (n'.perform side input).2) (n'.perform side input).1 side' := by
  show SideRuns start (rounds ++ [⟨side, input, ((n'.core side).handle input).actions⟩]) _ side'
  rw [hcore]
  rcases side.eq_or_eq_other side' with rfl | rfl
  · obtain ⟨hrun, hemitted⟩ := h side'
    refine ⟨?_, ?_⟩
    · rw [perform_core_self, inputsOf_append, inputsOf_self, Machine.after_append_singleton,
        ← hrun, hcore]
      rfl
    · rw [emissionsOf_append, emissionsOf_self, inputsOf_append, inputsOf_self,
        Machine.history_append_singleton, Machine.labelled_after, ← hemitted, ← hrun]
      rfl
  · obtain ⟨hrun, hemitted⟩ := h side.other
    refine ⟨?_, ?_⟩
    · rw [perform_core_other, inputsOf_append, inputsOf_other, List.append_nil, hcore]
      exact hrun
    · rw [emissionsOf_append, emissionsOf_other, inputsOf_append, inputsOf_other, List.append_nil,
        List.append_nil]
      exact hemitted

/-- **Each side of a network runs as a Core.**  So everything that was proved about the runs of
one Core holds of both, whatever the other does. -/
theorem sideRuns (start : Network) (moves : List Move) (side : Side) :
    SideRuns start (machine.history start moves) (machine.after start moves) side := by
  have hrun := machine.invariant_history
    (I := fun rounds n => ∀ side, SideRuns start rounds n side)
    (fun rounds n move h => by
      rcases step_cases n move with heq | ⟨side, input, heq⟩ | ⟨side, message, rest, now, -, heq⟩
      · rw [heq, List.append_nil]
        exact h
      · rw [heq]
        exact SideRuns.perform h rfl
      · rw [heq]
        exact SideRuns.perform h rfl)
    (s := start) (fun side => ⟨rfl, rfl⟩) moves
  exact hrun side

/-- A Core of a network is a Core after a run. -/
theorem core_after (moves : List Move) (side : Side) :
    (machine.after (initial config nextWriteId nextSystemBytes) moves).core side =
      SessionCore.machine.after
        (SessionCore.initial (config side) (nextWriteId side) (nextSystemBytes side))
        (inputsOf side (machine.history (initial config nextWriteId nextSystemBytes) moves)) :=
  (sideRuns (initial config nextWriteId nextSystemBytes) moves side).1

theorem emissions_eq (moves : List Move) (side : Side) :
    emissionsOf side (machine.history (initial config nextWriteId nextSystemBytes) moves) =
      SessionCore.machine.labelled.history
        (SessionCore.initial (config side) (nextWriteId side) (nextSystemBytes side))
        (inputsOf side (machine.history (initial config nextWriteId nextSystemBytes) moves)) :=
  (sideRuns (initial config nextWriteId nextSystemBytes) moves side).2

/-- **Nothing is lost, duplicated or reordered**: what a side has sent is what the other has
received and what is still on its way. -/
theorem sent_eq (moves : List Move) (side : Side) :
    messagesOf (actionsOf side
      (machine.history (initial config nextWriteId nextSystemBytes) moves)) =
      receivedBy side.other (machine.history (initial config nextWriteId nextSystemBytes) moves) ++
        (machine.after (initial config nextWriteId nextSystemBytes) moves).channel side := by
  have hperform {n : Network} {rounds : List NetworkRound} {side : Side} {input : Input}
      {received : List ProtocolMessage}
      (hself : receivedBy side [⟨side, input, ((n.core side).handle input).actions⟩] = received)
      (hsame : messagesOf (actionsOf side rounds) = receivedBy side.other rounds ++ n.channel side)
      (hpeer : messagesOf (actionsOf side.other rounds) =
        receivedBy side rounds ++ (received ++ n.channel side.other)) (side' : Side) :
      messagesOf (actionsOf side' (rounds ++ (n.perform side input).2)) =
        receivedBy side'.other (rounds ++ (n.perform side input).2) ++
          (n.perform side input).1.channel side' := by
    show messagesOf (actionsOf side'
        (rounds ++ [⟨side, input, ((n.core side).handle input).actions⟩])) =
      receivedBy side'.other (rounds ++ [⟨side, input, ((n.core side).handle input).actions⟩]) ++ _
    rcases side.eq_or_eq_other side' with rfl | rfl
    · rw [actionsOf_append, messagesOf_append, actionsOf_self, hsame, receivedBy_append,
        receivedBy_other, List.append_nil, perform_channel_self, List.append_assoc]
    · rw [actionsOf_append, actionsOf_other, List.append_nil, hpeer, receivedBy_append,
        Side.other_other, hself, perform_channel_other, List.append_assoc]
  have hrun := machine.invariant_history
    (I := fun rounds n => ∀ side,
      messagesOf (actionsOf side rounds) = receivedBy side.other rounds ++ n.channel side)
    (fun rounds n move h => by
      rcases step_cases n move with heq | ⟨side, input, heq⟩ | ⟨side, message, rest, now,
        hchannel, heq⟩
      · rw [heq, List.append_nil]
        exact h
      · rw [heq]
        have hpeer := h side.other
        rw [Side.other_other] at hpeer
        exact hperform (receivedBy_own input.property) (h side) hpeer
      · rw [heq]
        have hpeer := h side.other
        rw [Side.other_other, hchannel] at hpeer
        refine hperform receivedBy_message ?_ ?_
        · rw [withdraw_channel_other]
          exact h side
        · rw [withdraw_channel_self]
          exact hpeer)
    (s := initial config nextWriteId nextSystemBytes) (fun side => rfl) moves
  exact hrun side

theorem coherent_core (moves : List Move) (side : Side) :
    Coherent none ((machine.after (initial config nextWriteId nextSystemBytes) moves).core
      side) := by
  rw [core_after]
  exact coherent_run (config side) (nextWriteId side) (nextSystemBytes side) _

end Network

end Hsms
end SecsRust

import SecsRust.Hsms.Core.Agreement
import SecsRust.Hsms.Core.Session.Delivery

/-!
# Replies reach the request that they answer

A Request is answered by a frame with its System Bytes, stream and function, and that is all
that ties the two together.  Both ends number their own requests, so that the same System
Bytes may be under way in both directions; a reply may come late, be an abort, or never
come.

## Back along the channel

In a network the tie holds, and it is followed backwards.  A Request that completes with a
response has received a frame (`Matching`).  The frame is in the channel because the peer
has sent it.  The answer is an even function, which only `on_reply` sends, so the peer was
given a capability in that round (`Authority`). The contract that the reply spends was made
by the delivery of a Primary with those System Bytes.  And that Primary was the frame of the
Request, because this side has sent only one odd function with these System Bytes
(`Numbered.frame_unique`).

Each link is a fact about one Core, used on one side, and each of them supplies the
hypothesis of the next. `GivenBy` is what is left at the end: the intent and the body with
which the application of the peer has called `on_reply`.

## One request for one capability

A capability is answered once (`Authority`), and a response frame is consumed by the Request
that it matches. So no capability satisfies more than one Request, also when a reply comes
after T3 and the System Bytes are those of a tombstone.
-/

namespace SecsRust
namespace Hsms

open Std Secs2 SessionCore

/-! ## Where even functions come from -/

/-- A reply round holds no contract that it did not find. -/
theorem contract_of_reply {origin : SessionCore} {c : CommandId} {capability : ReplyCapabilityId}
    {intent : ReplyIntent} {body : Option SecsItem} {now : MonoTime} {start stage : Stage}
    {actions : List CoreAction}
    (h : Steps (Effect origin (.reply c capability intent body now)) start actions stage)
    {k : ReplyCapabilityId} {header : DataHeader}
    (hheld : stage.core.replyContracts[k]? = some header) :
    start.core.replyContracts[k]? = some header := by
  refine h.preserves
    (I := fun stage => ∀ header, stage.core.replyContracts[k]? = some header →
      start.core.replyContracts[k]? = some header)
    (fun stage _ stage' hI he header hafter => ?_) (fun _ h => h) header hheld
  refine hI header ?_
  cases he.authority with
  | shrinks contracts _ _ _ _ _ => exact contracts k header hafter
  | deliversOneWay received _ _ _ _ _ _ _ => cases received
  | delivers received _ _ _ _ _ _ _ _ _ _ _ _ => cases received
  | answers _ _ contracts _ _ _ _ =>
    rw [contracts, TreeMap.getElem?_erase] at hafter
    split at hafter
    · cases hafter
    · exact hafter

/-- The frame carries what an application gave to `on_reply`. -/
inductive DataMessage.Carries (frame : DataMessage) (body : Option SecsItem) :
    ReplyIntent → Prop where
  | secondary (body_eq : frame.body = body) (function : frame.header.function.raw ≠ 0) :
      Carries frame body .secondary
  | abort (empty : frame.body = none) (function : frame.header.function.raw = 0) :
      Carries frame body .abort

/-- **A Data frame with an even function is a reply**, for a contract that the round found. -/
theorem reply_of_even {core : SessionCore} (hc : Coherent none core) {input : Input} {w : WriteId}
    {frame : DataMessage} (hmem : .sendFrame w (.data frame) ∈ (core.handle input).actions)
    (heven : frame.header.function.raw % 2 = 0) :
    ∃ c capability intent body now header, input = .reply c capability intent body now ∧
      core.replyContracts[capability]? = some header ∧
        frame.header.systemBytes = header.systemBytes ∧
      frame.Carries body intent := by
  obtain ⟨before, after, past, actions, later, hpast, he, -, hmem, -⟩ :=
    (steps_handle hc input).exists_of_mem hmem
  have hodd {function : Function} (hodd : function.raw % 2 = 1) (heq :
      function = frame.header.function) :
      False := by
    rw [← heq, hodd] at heven
    revert heven
    decide
  cases he with
  | @sendReply s _ c capability header v function reply _ _ _ held _ _ cause =>
    obtain ⟨-, hframe⟩ := CoreAction.sendFrame.inj (List.mem_singleton.mp hmem)
    obtain rfl := ProtocolMessage.data.inj hframe
    cases cause with
    | @secondary own _ now _ received successor =>
      subst received
      have hheld := contract_of_reply hpast held
      rw [entry_frame] at hheld
      refine ⟨own, capability, .secondary, reply, now, header, rfl, hheld, rfl, .secondary rfl ?_⟩
      unfold ResponseContract.succFunction at successor
      split at successor
      · cases successor
      · rename_i hne
        obtain rfl := Option.some.inj successor
        intro hzero
        exact hne (by grind)
    | @abort own body now received =>
      subst received
      have hheld := contract_of_reply hpast held
      rw [entry_frame] at hheld
      exact ⟨own, capability, .abort, body, now, header, rfl, hheld, rfl, .abort rfl rfl⟩
  | sendRequest primary _ _ _ _ _ _ odd _ =>
    obtain ⟨-, hframe⟩ := CoreAction.sendFrame.inj (List.mem_singleton.mp hmem)
    exact (hodd odd (congrArg (fun message => message.header.function)
      (ProtocolMessage.data.inj hframe)).symm).elim
  | sendPrimary primary _ _ _ _ _ _ odd _ =>
    obtain ⟨-, hframe⟩ := CoreAction.sendFrame.inj (List.mem_singleton.mp hmem)
    exact (hodd odd (congrArg (fun message => message.header.function)
      (ProtocolMessage.data.inj hframe)).symm).elim
  | ended _ _ _ _ _ => cases isData_of_mem_end hmem
  | lostWrite _ _ _ _ _ _ => cases isData_of_mem_end hmem
  | admissionClosed _ _ _ _ _ =>
    rcases List.mem_append.mp hmem with hmem | hmem
    · cases isCompletion_of_mem_loss hmem
    · cases List.mem_singleton.mp hmem
  | abandonWrites _ _ _ => cases isCompletion_of_mem_abandonments hmem
  | loseCommands _ _ _ => cases isCompletion_of_mem_loss hmem
  | separate _ _ _ _ _ _ _ _ =>
    rcases List.mem_append.mp hmem with hmem | hmem
    · cases isCompletion_of_mem_separate hmem
    · simp at hmem
  | peerSeparate _ _ _ _ _ =>
    rcases List.mem_append.mp hmem with hmem | hmem
    · cases isCompletion_of_mem_separate hmem
    · simp at hmem
  | retireControl _ _ _ => cases isCompletion_of_mem_control hmem
  | failWrite _ _ _ =>
    obtain ⟨_, -, hc⟩ := List.mem_filterMap.mp hmem
    obtain ⟨_, -, heq⟩ := Option.map_eq_some_iff.mp hc
    cases heq
  | tick _ | observe _ _ _ | startDrain _ _ _ _ _ _ _ | commitControl _ _ _ _ _
  | commitRequest _ _ _ _ _
  | commitSilently _ _ _ => cases hmem
  | lateAnnounce _ | lateControl _ _ _ _ | connect _ _ _ _ _ | selected _ _ _
  | deselected _ _ _ _ _ _
  | respond _ _ _ _ _ _ | refuse _ _ _ | endDrain _ _ _ | startControl _ _ _ _ _ _ _ _ _ _
  | startDeselection _ _ _ _ _ | retireRequest _ _ _ | rejectSend _ _ _ _ _ _
  | deliver _ _ _ _ _ _ _ _ _
  | deliverOneWay _ _ _ _ _ _ | spendContract _ _ _ _ _ _ | commitCommand _ _ _ _ =>
    cases List.mem_singleton.mp hmem

/-- The emission by which a command starts its Request. -/
theorem mem_of_requestOf {past : List (Input × CoreAction)} {c : CommandId} {w : WriteId}
    {frame : DataMessage}
    (h : requestOf past c = some (w, frame)) :
    ∃ primary now, (.command ⟨c, .request primary⟩ now, .sendFrame w (.data frame)) ∈ past := by
  obtain ⟨before, after, hsplit, -⟩ := List.lookup_eq_some_iff.mp h
  have hmem : (c, w, frame) ∈ past.filterMap requestFrame := by
    rw [← List.mem_reverse, hsplit]
    exact List.mem_append_right _ List.mem_cons_self
  obtain ⟨emission, hemission, hrequest⟩ := List.mem_filterMap.mp hmem
  unfold requestFrame at hrequest
  split at hrequest
  · obtain ⟨rfl, hrest⟩ := Prod.mk.inj (Option.some.inj hrequest)
    obtain ⟨rfl, rfl⟩ := Prod.mk.inj hrest
    exact ⟨_, _, hemission⟩
  · cases hrequest

/-! ## The rounds of a network -/

namespace Network

variable (config : Side → SessionCoreConfig) (nextWriteId : Side → Option UInt64)
  (nextSystemBytes : Side → Option UInt32)

/-- A move makes one round or none. -/
theorem rounds_of_step (n : Network) (move : Move) :
    (machine.step n move).2 = [] ∨ ∃ round, (machine.step n move).2 = [round] := by
  rcases step_cases n move with heq | ⟨side, input, heq⟩ | ⟨side, message, rest, now, -, heq⟩
  · exact Or.inl (by rw [heq])
  · exact Or.inr ⟨_, by rw [heq]; rfl⟩
  · exact Or.inr ⟨_, by rw [heq]; rfl⟩

/-- The move behind a round of the history. -/
theorem exists_move {n : Network} {moves : List Move} {earlier later : List NetworkRound}
    {round : NetworkRound}
    (h : machine.history n moves = earlier ++ round :: later) :
    ∃ before move after, moves = before ++ move :: after ∧ machine.history n before = earlier ∧
      (machine.step (machine.after n before) move).2 = [round] := by
  induction moves generalizing n earlier with
  | nil =>
    rw [Machine.history_nil] at h
    exact absurd h.symm (by simp)
  | cons move moves ih =>
    rw [Machine.history_cons] at h
    rcases rounds_of_step n move with hnone | ⟨first, hone⟩
    · rw [hnone, List.nil_append] at h
      obtain ⟨before, next, after, hsplit, hhistory, hround⟩ := ih h
      refine ⟨move :: before, next, after, by rw [hsplit]; rfl, ?_, hround⟩
      rw [Machine.history_cons, hnone]
      exact hhistory
    · rw [hone, List.singleton_append] at h
      cases earlier with
      | nil =>
        obtain ⟨rfl, -⟩ := List.cons.inj h
        exact ⟨[], move, moves, rfl, rfl, hone⟩
      | cons head earlier =>
        obtain ⟨rfl, htail⟩ := List.cons.inj h
        obtain ⟨before, next, after, hsplit, hhistory, hround⟩ := ih htail
        refine ⟨move :: before, next, after, by rw [hsplit]; rfl, ?_, hround⟩
        rw [Machine.history_cons, hone, hhistory]
        rfl

/-- The Core of a side after the rounds so far. -/
def coreAfter (rounds : List NetworkRound) (side : Side) : SessionCore :=
  SessionCore.machine.after (SessionCore.initial (config side) (nextWriteId side)
    (nextSystemBytes side))
    (inputsOf side rounds)

/-- What a round of a network is: the round of its Core, and if it is about a message, the other
side has sent that message before. -/
structure Genuine (earlier : List NetworkRound) (round : NetworkRound) : Prop where
  actions : round.actions =
    ((coreAfter config nextWriteId nextSystemBytes earlier round.side).handle round.input).actions
  sent : ∀ message now, round.input = .message message now →
    message ∈ messagesOf (actionsOf round.side.other earlier)
  emissions : ∀ side, emissionsOf side earlier = SessionCore.machine.labelled.history
    (SessionCore.initial (config side) (nextWriteId side) (nextSystemBytes side))
    (inputsOf side earlier)

/-- **Every round of a run is genuine.** -/
theorem genuine_of_history {moves : List Move} {earlier later : List NetworkRound}
    {round : NetworkRound}
    (h : machine.history (initial config nextWriteId nextSystemBytes)
      moves = earlier ++ round :: later) :
    Genuine config nextWriteId nextSystemBytes earlier round := by
  obtain ⟨before, move, after, -, rfl, hround⟩ := exists_move h
  have hcore (side : Side) := core_after config nextWriteId nextSystemBytes before side
  have hsent (side : Side) := sent_eq config nextWriteId nextSystemBytes before side
  refine ⟨?_, fun message now hinput => ?_, fun side =>
    emissions_eq config nextWriteId nextSystemBytes before side⟩
  · rcases step_cases (machine.after (initial config nextWriteId nextSystemBytes) before) move with
      heq | ⟨side, input, heq⟩ | ⟨side, message, rest, now, -, heq⟩
    · rw [heq] at hround
      cases hround
    · rw [heq] at hround
      rw [← (List.cons.inj hround).1, coreAfter, ← hcore]
    · rw [heq] at hround
      rw [← (List.cons.inj hround).1, coreAfter, ← hcore]
      rfl
  · rcases step_cases (machine.after (initial config nextWriteId nextSystemBytes) before) move with
      heq | ⟨side, input, heq⟩ | ⟨side, received, rest, now', hchannel, heq⟩
    · rw [heq] at hround
      cases hround
    · rw [heq] at hround
      rw [← (List.cons.inj hround).1] at hinput
      have hown := input.property
      rw [show input.val = .message message now from hinput] at hown
      cases hown
    · rw [heq] at hround
      rw [← (List.cons.inj hround).1] at hinput ⊢
      obtain ⟨rfl, -⟩ := Input.message.inj hinput
      rw [hsent, hchannel]
      exact List.mem_append_right _ List.mem_cons_self

theorem coherent_coreAfter (rounds : List NetworkRound) (side : Side) :
    Coherent none (coreAfter config nextWriteId nextSystemBytes rounds side) :=
  coherent_run _ _ _ _

end Network

/-! ## Finding the round of an emission -/

theorem exists_round_of_emission {side : Side} {rounds : List NetworkRound} {input : Input}
    {action : CoreAction}
    (h : (input, action) ∈ emissionsOf side rounds) :
    ∃ earlier round later, rounds = earlier ++ round :: later ∧ round.side = side ∧
      round.input = input ∧
      action ∈ round.actions := by
  obtain ⟨round, hround, hmem⟩ := List.mem_flatMap.mp h
  obtain ⟨earlier, later, hsplit⟩ := List.append_of_mem hround
  split at hmem
  · rename_i hside
    obtain ⟨own, hown, heq⟩ := List.mem_map.mp hmem
    obtain ⟨rfl, rfl⟩ := Prod.mk.inj heq
    exact ⟨earlier, round, later, hsplit, hside, rfl, hown⟩
  · cases hmem

theorem emission_of_round {side : Side} {earlier later : List NetworkRound} {round : NetworkRound}
    (hside : round.side = side) {action : CoreAction} (hmem : action ∈ round.actions) :
    (round.input, action) ∈ emissionsOf side (earlier ++ round :: later) := by
  refine List.mem_flatMap.mpr ⟨round, List.mem_append_right _ List.mem_cons_self, ?_⟩
  rw [if_pos hside]
  exact List.mem_map_of_mem hmem

theorem exists_round_of_message {side : Side} {rounds : List NetworkRound}
    {message : ProtocolMessage}
    (h : message ∈ messagesOf (actionsOf side rounds)) :
    ∃ earlier round later w, rounds = earlier ++ round :: later ∧ round.side = side ∧
      .sendFrame w message ∈ round.actions := by
  obtain ⟨⟨w, own⟩, hframe, rfl⟩ := List.mem_map.mp h
  obtain ⟨action, haction, hsend⟩ := List.mem_filterMap.mp hframe
  obtain ⟨⟨input, own'⟩, hemission, rfl⟩ := List.mem_map.mp haction
  obtain ⟨earlier, round, later, hsplit, hside, -, hmem⟩ := exists_round_of_emission hemission
  cases own' with
  | sendFrame v sent =>
    obtain ⟨rfl, rfl⟩ := Prod.mk.inj (Option.some.inj hsend)
    exact ⟨earlier, round, later, v, hsplit, hside, hmem⟩
  | deliverPrimary | sessionStateChanged | completeCommand | closeGeneration => cases hsend

theorem frame_of_emission {side : Side} {rounds : List NetworkRound} {input : Input} {w : WriteId}
    {message : ProtocolMessage} (h : (input, .sendFrame w message) ∈ emissionsOf side rounds) :
    (w, message) ∈ framesOf (actionsOf side rounds) :=
  List.mem_filterMap.mpr ⟨_, List.mem_map.mpr ⟨_, h, rfl⟩, rfl⟩

/-! ## Answers -/

/-- The result that an application's reply gives to the Request. -/
inductive GivenBy : ReplyIntent → Option SecsItem → CoreCommandResult → Prop where
  | secondary (header : DataHeader) (body : Option SecsItem) :
      GivenBy .secondary body (.request (.ok ⟨header, body⟩))
  | abort (body : Option SecsItem) : GivenBy .abort body
      (.request (.error (.protocol .transactionAborted)))

/-- A response that carries a reply gives what the application replied. -/
theorem givenBy_of_carries {message frame : DataMessage} {body : Option SecsItem}
    {intent : ReplyIntent}
    {result : CoreCommandResult} (hcarries : message.Carries body intent)
    (hresponds : message.Responds frame result) : GivenBy intent body result := by
  cases hresponds with
  | normal _ function =>
    cases hcarries with
    | secondary body_eq _ => exact body_eq ▸ .secondary _ _
    | abort _ zero =>
      rw [zero] at function
      exact absurd function (by simp)
  | abort _ zero _ =>
    cases hcarries with
    | secondary _ nonzero => exact absurd zero nonzero
    | abort _ _ => exact .abort body

/-- **A Request was answered through a capability**: its frame was delivered to the other side with
the capability, and later the application there gave the capability to `on_reply`, with what the
result says. -/
structure Answered (earlier : List NetworkRound) (side : Side) (c : CommandId) (w : WriteId)
    (frame : DataMessage) (capability : ReplyCapabilityId) (result : CoreCommandResult) : Prop where
  asked : requestOf (emissionsOf side earlier) c = some (w, frame)
  replied : ∃ before delivery between reply after,
    earlier = before ++ delivery :: (between ++ reply :: after) ∧
    delivery.side = side.other ∧ .deliverPrimary frame (some capability) ∈ delivery.actions ∧
    reply.side = side.other ∧ ∃ own intent body now,
      reply.input = .reply own capability intent body now ∧
      GivenBy intent body result

/-- **Replies reach the request that they answer**: every response that completes a Request was
given by the peer's application to exactly that Request, and a capability answers one Request. -/
structure RepliesReachRequests (rounds : List NetworkRound) : Prop where
  answered : ∀ earlier round later, rounds = earlier ++ round :: later → ∀ c result,
    .completeCommand c result ∈ round.actions → result.isResponse = true →
      ∃ w frame capability, Answered earlier round.side c w frame capability result
  once : ∀ earlier later earlier' later', rounds = earlier ++ later → rounds = earlier' ++ later' →
    ∀ side c c' w w' frame frame' capability result result',
      Answered earlier side c w frame capability result →
      Answered earlier' side c' w' frame' capability result' → c = c' ∧ w = w' ∧ frame = frame'

section

variable (config : Side → SessionCoreConfig) (nextWriteId : Side → Option UInt64)
  (nextSystemBytes : Side → Option UInt32)

open Network

/-- The frames of a side are numbered. -/
theorem numbered_of_emissions {rounds : List NetworkRound} {side : Side}
    (h : emissionsOf side rounds = SessionCore.machine.labelled.history
      (SessionCore.initial (config side) (nextWriteId side) (nextSystemBytes side))
      (inputsOf side rounds)) :
    Numbered (actionsOf side rounds)
      (coreAfter config nextWriteId nextSystemBytes rounds side) := by
  unfold actionsOf
  rw [h, Machine.map_snd_labelled_history]
  exact numbered_run _ _ _ _

/-- **The Primary with which a contract was granted** is the frame of the Request with its System
Bytes. -/
theorem primary_eq_frame {side : Side} {earlier before rest : List NetworkRound}
    {delivery : NetworkRound}
    (hsplit : earlier = before ++ delivery :: rest) (hside : delivery.side = side.other)
    (hgenuine : Genuine config nextWriteId nextSystemBytes before delivery)
    (hnumbered : Numbered (actionsOf side earlier)
      (coreAfter config nextWriteId nextSystemBytes earlier side))
    {primary frame : DataMessage} {capability : Option ReplyCapabilityId}
    (hdelivered : .deliverPrimary primary capability ∈ delivery.actions) {w : WriteId}
    (hframe : (w, .data frame) ∈ framesOf (actionsOf side earlier))
    (hodd : frame.header.function.raw % 2 = 1)
    (hbytes : primary.header.systemBytes = frame.header.systemBytes) : primary = frame := by
  rw [hgenuine.actions] at hdelivered
  have hc := coherent_coreAfter config nextWriteId nextSystemBytes before delivery.side
  obtain ⟨now, hinput⟩ := received_of_delivery hc hdelivered
  obtain ⟨-, -, -, hprimary, -⟩ := delivery_of_handle hc hdelivered
  have hsent := hgenuine.sent _ now hinput
  rw [hside, Side.other_other] at hsent
  obtain ⟨⟨v, message⟩, hmem, heq⟩ := List.mem_map.mp hsent
  obtain rfl : message = .data primary := heq
  have hmem' : (v, ProtocolMessage.data primary) ∈ framesOf (actionsOf side earlier) := by
    rw [hsplit, actionsOf_append, framesOf_append]
    exact List.mem_append_left _ hmem
  have hown : ProtocolMessage.requestSystemBytes (.data frame) = some frame.header.systemBytes :=
    if_pos hodd
  have hpeer : ProtocolMessage.requestSystemBytes
      (.data primary) = some frame.header.systemBytes := by
    rw [← hbytes]
    exact if_pos hprimary
  have hsame := hnumbered.frame_unique hmem' hframe hpeer hown
  exact ProtocolMessage.data.inj (congrArg Prod.snd hsame)

/-- Every response was given by the peer's application. -/
theorem answered_of_response {moves : List Move} {earlier later : List NetworkRound}
    {round : NetworkRound}
    (h : machine.history (initial config nextWriteId nextSystemBytes)
      moves = earlier ++ round :: later)
    {c : CommandId} {result : CoreCommandResult} (hmem : .completeCommand c result ∈ round.actions)
    (hresponse : result.isResponse = true) :
    ∃ w frame capability, Answered earlier round.side c w frame capability result := by
  have hgenuine := genuine_of_history config nextWriteId nextSystemBytes h
  have hmatched : Matched (emissionsOf round.side earlier)
      (coreAfter config nextWriteId nextSystemBytes earlier round.side) := by
    rw [hgenuine.emissions]
    exact matched_run _ _ _ _
  rw [hgenuine.actions] at hmem
  obtain ⟨message, now, transaction, frame, result', hinput, -, hasked, hodd, hresponds, heq⟩ :=
    response_of_handle hmatched
      (coherent_coreAfter config nextWriteId nextSystemBytes earlier round.side) hmem
      hresponse
  obtain ⟨rfl, rfl⟩ := CoreAction.completeCommand.inj heq
  -- the message is a reply
  obtain ⟨before, reply, after, v, rfl, hside, hsend⟩ :=
    exists_round_of_message (hgenuine.sent _ now hinput)
  have hreplied := genuine_of_history config nextWriteId nextSystemBytes
    (h.trans (List.append_assoc before (reply :: after) (round :: later)))
  have hsent := hsend
  rw [hreplied.actions] at hsent
  obtain ⟨own, capability, intent, body, at_, header, hreply, hheld, hbytes, hcarries⟩ :=
    reply_of_even (coherent_coreAfter config nextWriteId nextSystemBytes before reply.side) hsent
      (hresponds.even hodd)
  -- its contract was granted with a Primary
  have hentitled : Entitled (emissionsOf reply.side before)
      (coreAfter config nextWriteId nextSystemBytes before reply.side) := by
    rw [hreplied.emissions]
    exact entitled_run _ _ _ _
  obtain ⟨primary, ⟨input, hgranted⟩, hheader⟩ := hentitled.delivered capability header hheld
  obtain ⟨first, delivery, between, rfl, hown, -, hdelivered⟩ := exists_round_of_emission hgranted
  have hdeliveries := genuine_of_history config nextWriteId nextSystemBytes
    ((h.trans (List.append_assoc _ (reply :: after) (round :: later))).trans
      (List.append_assoc first (delivery :: between) (reply :: (after ++ round :: later))))
  have hcontinues : message.header.systemBytes = frame.header.systemBytes := by
    cases hresponds with
    | normal base _ => exact base.systemBytes
    | abort base _ _ => exact base.systemBytes
  obtain ⟨asked, when_, hemission⟩ := mem_of_requestOf hasked
  have hprimary : primary = frame := by
    refine primary_eq_frame config nextWriteId nextSystemBytes (List.append_assoc first _ _)
      (hown.trans hside)
      hdeliveries (numbered_of_emissions config nextWriteId nextSystemBytes
        (hgenuine.emissions round.side))
      hdelivered (frame_of_emission hemission) hodd ?_
    rw [hheader, ← hbytes, hcontinues]
  subst hprimary
  exact ⟨transaction.writeId, primary, capability, hasked, first, delivery, between, reply, after,
    List.append_assoc first _ _, hown.trans hside, hdelivered, hside, own, intent,
    body, at_, hreply, givenBy_of_carries hcarries hresponds⟩

/-- A command that started two Requests in one history started them with two writes. -/
theorem command_unique {rounds : List NetworkRound} {side : Side} {core : SessionCore}
    (h : Numbered (actionsOf side rounds) core) {input input' : Input} {w : WriteId}
    {message message' : ProtocolMessage}
    (hmem : (input, .sendFrame w message) ∈ emissionsOf side rounds)
    (hmem' : (input', .sendFrame w message') ∈ emissionsOf side rounds) : input = input' := by
  have hwrites : ((emissionsOf side rounds).filterMap fun emission =>
      emission.2.frame.map Prod.fst).Pairwise fun v v' => v.raw < v'.raw := by
    have hincreasing := h.increasing
    unfold framesOf actionsOf at hincreasing
    rw [List.filterMap_map, List.map_filterMap] at hincreasing
    exact hincreasing
  have hsame := eq_of_filterMap_pairwise (fun v => UInt64.lt_irrefl v.raw) hwrites hmem hmem'
    (b := w) rfl rfl
  exact congrArg Prod.fst hsame

/-- **In every run of two Cores, replies reach the request that they answer.** -/
theorem replies_reach_their_request (moves : List Move) :
    RepliesReachRequests (machine.history (initial config nextWriteId nextSystemBytes) moves) := by
  refine ⟨fun earlier round later h c result hmem hresponse =>
    answered_of_response config nextWriteId nextSystemBytes h hmem hresponse, ?_⟩
  intro earlier later earlier' later' hsplit hsplit' side c c' w w' frame frame' capability
    result result'
    hanswered hanswered'
  have hemissions (side : Side) := emissions_eq config nextWriteId nextSystemBytes moves side
  have hnumbered := numbered_of_emissions config nextWriteId nextSystemBytes (hemissions side)
  have hentitled : Entitled (emissionsOf side.other
      (machine.history (initial config nextWriteId nextSystemBytes) moves))
      (coreAfter config nextWriteId nextSystemBytes
        (machine.history (initial config nextWriteId nextSystemBytes) moves) side.other) := by
    rw [hemissions]
    exact entitled_run _ _ _ _
  have hin {earlier later : List NetworkRound} (hsplit : machine.history
      (initial config nextWriteId nextSystemBytes) moves = earlier ++ later) {side : Side}
      {emission : Input × CoreAction} (hmem : emission ∈ emissionsOf side earlier) : emission ∈
        emissionsOf side (machine.history (initial config nextWriteId nextSystemBytes) moves) := by
    rw [hsplit, emissionsOf_append]
    exact List.mem_append_left _ hmem
  -- the capability was granted once
  obtain ⟨before, delivery, between, reply, after, hearlier, hside, hdelivered, -⟩ :=
    hanswered.replied
  obtain ⟨before', delivery', between', reply', after', hearlier', hside', hdelivered', -⟩ :=
    hanswered'.replied
  have hgrant := hin hsplit (hearlier ▸ emission_of_round hside hdelivered)
  have hgrant' := hin hsplit' (hearlier' ▸ emission_of_round hside' hdelivered')
  have hdeliveries := eq_of_filterMap_pairwise
      (fun k hne => hne rfl) hentitled.granted hgrant hgrant'
    (b := capability) rfl rfl
  have hframes : frame = frame' :=
    (CoreAction.deliverPrimary.inj (congrArg Prod.snd hdeliveries)).1
  subst hframes
  -- and the frame was sent once
  obtain ⟨primary, now, hasked⟩ := mem_of_requestOf hanswered.asked
  obtain ⟨primary', now', hasked'⟩ := mem_of_requestOf hanswered'.asked
  have hasked := hin hsplit hasked
  have hasked' := hin hsplit' hasked'
  have hodd : frame.header.function.raw % 2 = 1 := by
    rw [hearlier, List.append_assoc] at hsplit
    have hgenuine := genuine_of_history config nextWriteId nextSystemBytes hsplit
    rw [hgenuine.actions] at hdelivered
    obtain ⟨-, -, -, hodd, -⟩ := delivery_of_handle
      (coherent_coreAfter config nextWriteId nextSystemBytes before delivery.side) hdelivered
    exact hodd
  have hbytes : ProtocolMessage.requestSystemBytes (.data frame) = some frame.header.systemBytes :=
    if_pos hodd
  have hsame := hnumbered.frame_unique (frame_of_emission hasked)
      (frame_of_emission hasked') hbytes hbytes
  obtain rfl : w = w' := congrArg Prod.fst hsame
  have hinputs := command_unique hnumbered hasked hasked'
  obtain ⟨hcommands, -⟩ := Input.command.inj hinputs
  exact ⟨congrArg CoreCommand.commandId hcommands, rfl, rfl⟩

end

end Hsms
end SecsRust

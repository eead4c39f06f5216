import SecsRust.Lib.Handshake
import SecsRust.Hsms.Core.Session.Attribution

/-!
# A Core as a party to the selection

Select and Deselect turn one switch, the selection, and both ends may ask for either.  This
file reads a Core as a party of `Handshake`: its switch is on in Selected, and it has asked
for the value that its active control transaction stands for (`SessionCore.party`).  What a
frame says about the selection is a note (`ProtocolMessage.note`); most frames say nothing.

Whatever a round does that leaves the Core open is a step of that party.  `Turn.Moves` is
this statement about a part of a round: the frames sent in between conform, and together
with what was received they take the one party to the other.  A Core that closes is exempt,
and is held to nothing afterwards.

## What has to be looked at

The completions of commands change neither the selection nor the transaction (`Turn.Rests`),
and a part of a round that rests is no step at all.  What is left are the few functions that
send a request, answer one or receive an answer, and they are the sections of this file.  A
timer that ends a transaction, a failed write and a Separate all close the Core, which is
why no timer has to be excluded from the agreement.

Two side conditions come from elsewhere: while a drain waits the slot is empty
(`Turn.Alone`), and an active transaction belongs to a connected Core
(`SessionCore.Seated`).
-/

namespace SecsRust
namespace Hsms

open Std Secs2 SessionCore

/-- The selection that a control procedure asks for; Linktest asks for none. -/
def TransactionKind.selects : TransactionKind → Option Bool
  | .select => some true
  | .deselect => some false
  | .linktest => none

/-- The party that a Core is. -/
def SessionCore.party (core : SessionCore) : Handshake.Party SystemBytes where
  on := decide (core.state = some .selected)
  asked := core.activeTransaction.bind fun transaction =>
    transaction.kind.selects.map fun value => (value, transaction.systemBytes)

/-- What a message says about the selection. -/
def ProtocolMessage.note : ProtocolMessage → Option (Handshake.Note SystemBytes)
  | .control (.selectRequest _ systemBytes) => some (.ask true systemBytes)
  | .control (.selectResponse _ status systemBytes) =>
    some (.answer true systemBytes (decide status.IsSuccess))
  | .control (.deselectRequest _ systemBytes) => some (.ask false systemBytes)
  | .control (.deselectResponse _ status systemBytes) =>
    some (.answer false systemBytes (decide status.IsSuccess))
  | .control (.linktestRequest _) | .control (.linktestResponse _) | .control (.rejectRequest ..)
  | .control (.separateRequest ..) | .data _ => none

/-- The message is one that a Core sends to a Core: Select and Deselect belong to the control
session, and a Reject never names one of their requests. -/
def ProtocolMessage.Conforms : ProtocolMessage → Prop
  | .control (.selectRequest sessionId _) => sessionId = controlSessionId
  | .control (.selectResponse sessionId _ _) => sessionId = controlSessionId
  | .control (.deselectRequest sessionId _) => sessionId = controlSessionId
  | .control (.deselectResponse sessionId _ _) => sessionId = controlSessionId
  | .control (.rejectRequest _ headerByte2 reason _) =>
    reason ≠ .unsupportedPtype ∧ headerByte2 ≠ 1 ∧ headerByte2 ≠ 3
  | .control (.linktestRequest _) | .control (.linktestResponse _) | .control (.separateRequest ..)
  | .data _ => True

/-- What the frames of some actions say about the selection, in order. -/
def notesOf (actions : List CoreAction) : List (Handshake.Note SystemBytes) :=
  (framesOf actions).filterMap fun frame => frame.2.note

theorem notesOf_append {past actions : List CoreAction} :
    notesOf (past ++ actions) = notesOf past ++ notesOf actions := by
  rw [notesOf, framesOf_append, List.filterMap_append]
  rfl

namespace SessionCore

variable {core core' : SessionCore}

theorem party_congr (hstate : core'.state = core.state)
    (hactive : core'.activeTransaction = core.activeTransaction) : core'.party = core.party := by
  unfold party
  rw [hstate, hactive]

/-- The party that asks for nothing. -/
theorem party_idle (hactive : core.activeTransaction = none) :
    core.party = ⟨decide (core.state = some .selected), none⟩ := by
  unfold party
  rw [hactive]
  rfl

theorem party_of_active {transaction : ControlTransaction}
    (hactive : core.activeTransaction = some transaction) :
    core.party = ⟨decide (core.state = some .selected),
      transaction.kind.selects.map fun value => (value, transaction.systemBytes)⟩ := by
  unfold party
  rw [hactive]
  rfl

/-- The transaction behind a request. -/
theorem active_of_asked {value : Bool} {systemBytes : SystemBytes}
    (h : core.party.asked = some (value, systemBytes)) : ∃ transaction,
      core.activeTransaction = some transaction ∧ transaction.kind.selects = some value ∧
        transaction.systemBytes = systemBytes := by
  obtain ⟨transaction, hactive, hasked⟩ := Option.bind_eq_some_iff.mp h
  obtain ⟨own, hkind, heq⟩ := Option.map_eq_some_iff.mp hasked
  obtain ⟨rfl, rfl⟩ := Prod.mk.inj heq
  exact ⟨transaction, hactive, hkind, rfl⟩

/-- A waiting drain finds the slot empty and the session connected. -/
def Alone (core : SessionCore) : Prop :=
  core.closing = false → core.deselectDrain.isSome = true →
    core.activeTransaction = none ∧ (core.state = some .notSelected ∨ core.state = some .selected)

theorem alone_of_coherent {fresh : Option CommandId} (h : Coherent fresh core) : core.Alone := by
  intro hlive hdrain
  obtain ⟨hidle, hconnected⟩ := h.drain_alone hlive hdrain
  rcases h.state_range with hnone | hstate
  · rw [hnone] at hconnected
    cases hconnected
  · exact ⟨hidle, hstate⟩

end SessionCore

/-! ## A transaction belongs to a connected Core -/

/-- Only a connected Core has an active transaction. -/
def SessionCore.Seated (core : SessionCore) : Prop :=
  core.closing = false → core.activeTransaction.isSome = true → core.state.isSome = true

theorem Effect.seated {origin : SessionCore} {input : Input} {stage stage' : Stage}
    {actions : List CoreAction} (he : Effect origin input stage actions stage')
    (h : stage.core.Seated) : stage'.core.Seated := by
  intro hlive hactive
  have hopen : stage.core.closing = false := by
    cases hclosing : stage.core.closing with
    | false => rfl
    | true => exact not_closing hlive (he.closing_mono hclosing)
  by_cases hbefore : stage.core.activeTransaction.isSome = true
  · exact Turn.connected_of_effect (h hopen hbefore) he
  · -- nothing was active, so that the effect has started a transaction
    have hidle : stage.core.activeTransaction = none := by simpa using hbefore
    cases he with
    | startControl _ _ state _ _ _ _ _ _ _ => exact state
    | startDeselection state _ _ _ _ =>
      exact congrArg Option.isSome state
    | ended _ _ _ _ done => rw [done.frame] at hlive; cases hlive
    | lostWrite _ _ _ _ _ done => rw [done.frame] at hlive; cases hlive
    | admissionClosed _ _ _ _ _ => cases hlive
    | abandonWrites _ closing _ => exact not_closing hopen closing
    | loseCommands _ closing _ => exact not_closing hopen closing
    | @separate s s' _ _ _ _ _ _ _ _ _ _ _ done =>
      have hclosed : s'.closing = true := by rw [done.frame]
      exact not_closing hlive hclosed
    | peerSeparate _ _ _ _ done => rw [done.frame] at hlive; cases hlive
    | retireControl _ _ _ => cases hactive
    | commitControl _ _ active _ _ => exact absurd (hidle.symm.trans active) nofun
    | @failWrite s _ w write _ _ _ _ =>
      have hnone : (((s.eraseWrite w).removeTransactionForWrite w write.kind).release
          write.commandId).activeTransaction = none := by
        rw [release_frame]
        unfold removeTransactionForWrite
        split
        · split <;> first | rfl | exact hidle
        · split <;> exact hidle
        · exact hidle
        · exact hidle
        · exact hidle
      rw [hnone] at hactive
      cases hactive
    | tick _ | observe _ _ _ | lateAnnounce _ | lateControl _ _ _ _ | connect _ _ _ _ _
    | selected _ _ _
    | deselected _ _ _ _ _ _ | respond _ _ _ _ _ _ | refuse _ _ _ | startDrain _ _ _ _ _ _ _
    | endDrain _ _ _ | sendRequest _ _ _ _ _ _ _ _ _ | sendPrimary _ _ _ _ _ _ _ _ _
    | retireRequest _ _ _ | rejectSend _ _ _ _ _ _ | deliver _ _ _ _ _ _ _ _ _
    | deliverOneWay _ _ _ _ _ _ | spendContract _ _ _ _ _ _ | sendReply _ _ _ _ _ _ _
    | commitRequest _ _ _ _ _ | commitCommand _ _ _ _ | commitSilently _ _ _ =>
      exact absurd hactive hbefore

theorem seated_run (config : SessionCoreConfig) (nextWriteId : Option UInt64)
    (nextSystemBytes : Option UInt32) (inputs : List Input) :
    (machine.after (SessionCore.initial config nextWriteId nextSystemBytes) inputs).Seated := by
  have hrun := machine.invariant (I := fun core => Coherent none core ∧ core.Seated)
    (fun core input hI => by
      refine ⟨hI.1.handle input, ?_⟩
      refine (steps_handle hI.1 input).preserves (I := fun stage => stage.core.Seated)
        (fun _ _ _ hI he => he.seated hI) ?_
      rw [entry_frame]
      exact hI.2)
    ⟨coherent_initial config nextWriteId nextSystemBytes, fun _ hactive => by cases hactive⟩ inputs
  exact hrun.2

namespace Turn

variable {received : Option (Handshake.Note SystemBytes)} {t t₁ t₂ : Turn}

/-! ## Moves of the party -/

/-- `t₁` comes after `t`: if the Core is still open, the frames sent in between conform, and
together with what was received they are a step of the party. -/
def Moves (received : Option (Handshake.Note SystemBytes)) (t t₁ : Turn) : Prop :=
  t₁.core.closing = false → t.core.closing = false ∧ ∃ sent, t₁.actions = t.actions ++ sent ∧
    (∀ frame ∈ framesOf sent, frame.2.Conforms) ∧
    Handshake.Step t.core.party received (notesOf sent) t₁.core.party

/-- Nothing about the selection happens between `t` and `t₁`, unless the Core closes. -/
def Rests (t t₁ : Turn) : Prop :=
  t₁.core.closing = true ∨ t₁.core.closing = t.core.closing ∧ t₁.core.state = t.core.state ∧
    t₁.core.activeTransaction = t.core.activeTransaction ∧
      t₁.core.deselectDrain = t.core.deselectDrain ∧
    ∃ sent, t₁.actions = t.actions ++ sent ∧ framesOf sent = []

theorem moves_of_closing (h : t₁.core.closing = true) : Moves received t t₁ :=
  fun hlive => not_closing hlive h

theorem Moves.andThen (h : Moves received t t₁) (h' : Moves none t₁ t₂) : Moves received t t₂ := by
  intro hlive
  obtain ⟨hlive₁, more, hmore, hconforms', hnext⟩ := h' hlive
  obtain ⟨hopen, sent, hsent, hconforms, hfirst⟩ := h hlive₁
  refine ⟨hopen, sent ++ more, ?_, fun frame hframe => ?_, ?_⟩
  · rw [hmore, hsent, List.append_assoc]
  · rw [framesOf_append] at hframe
    exact (List.mem_append.mp hframe).elim (hconforms frame) (hconforms' frame)
  · rw [notesOf_append]
    exact hfirst.andThen hnext

theorem Rests.moves (h : Rests t t₁) : Moves none t t₁ := by
  rcases h with hclosed | ⟨hclosing, hstate, hactive, -, sent, hactions, hsilent⟩
  · exact moves_of_closing hclosed
  · intro hlive
    refine ⟨hclosing.symm.trans hlive, sent, hactions, fun frame hframe => ?_, ?_⟩
    · rw [hsilent] at hframe
      cases hframe
    · rw [party_congr hstate hactive, notesOf, hsilent]
      exact .rest _

theorem Rests.alone (h : Rests t t₁) (halone : t.core.Alone) : t₁.core.Alone := by
  rcases h with hclosed | ⟨hclosing, hstate, hactive, hdrain, -⟩
  · exact fun hlive => not_closing hlive hclosed
  · intro hlive hwaits
    rw [hactive, hstate]
    exact halone (hclosing.symm.trans hlive) (hdrain ▸ hwaits)

theorem Rests.trans (h : Rests t t₁) (h' : Rests t₁ t₂) : Rests t t₂ := by
  rcases h' with hclosed | ⟨hclosing', hstate', hactive', hdrain', more, hmore, hsilent'⟩
  · exact Or.inl hclosed
  · rcases h with hclosed | ⟨hclosing, hstate, hactive, hdrain, sent, hsent, hsilent⟩
    · exact Or.inl (hclosing'.trans hclosed)
    · refine Or.inr ⟨hclosing'.trans hclosing, hstate'.trans hstate, hactive'.trans hactive,
        hdrain'.trans hdrain, sent ++ more, ?_, ?_⟩
      · rw [hmore, hsent, List.append_assoc]
      · rw [framesOf_append, hsilent, hsilent']
        rfl

/-- A change of the Core that is none of the party. -/
theorem rests_update {f : SessionCore → SessionCore}
    (hclosing : (f t.core).closing = t.core.closing)
    (hstate : (f t.core).state = t.core.state)
    (hactive : (f t.core).activeTransaction = t.core.activeTransaction)
    (hdrain : (f t.core).deselectDrain = t.core.deselectDrain) : Rests t (t.update f) :=
  Or.inr ⟨hclosing, hstate, hactive, hdrain, [], (List.append_nil _).symm, rfl⟩

theorem rests_push {action : CoreAction} (h : action.frame = none) : Rests t (t.push action) :=
  Or.inr ⟨rfl, rfl, rfl, rfl, [action], rfl, List.filterMap_cons_none h⟩

/-- A frame that is a step of the party. -/
theorem moves_of_send {w : WriteId} {message : ProtocolMessage}
    (hclosing : t₁.core.closing = t.core.closing)
    (hactions : t₁.actions = t.actions ++ [.sendFrame w message]) (hconforms : message.Conforms)
    (hstep : Handshake.Step t.core.party received message.note.toList t₁.core.party) :
    Moves received t t₁ := by
  refine fun hlive => ⟨hclosing ▸ hlive, _, hactions, fun frame hframe => ?_, ?_⟩
  · rw [List.mem_singleton.mp hframe]
    exact hconforms
  · have hnotes : notesOf [.sendFrame w message] = message.note.toList := by
      show [(w, message)].filterMap (fun frame => frame.2.note) = message.note.toList
      cases hnote : message.note with
      | none => exact List.filterMap_cons_none hnote
      | some note => exact List.filterMap_cons_some hnote
    rw [hnotes]
    exact hstep

/-- A step of the party that sends nothing. -/
theorem moves_of_silent {sent : List CoreAction} (hclosing : t₁.core.closing = t.core.closing)
    (hactions : t₁.actions = t.actions ++ sent) (hsilent : framesOf sent = [])
    (hstep : Handshake.Step t.core.party received [] t₁.core.party) : Moves received t t₁ := by
  refine fun hlive => ⟨hclosing ▸ hlive, sent, hactions, fun frame hframe => ?_, ?_⟩
  · rw [hsilent] at hframe
    cases hframe
  · rw [notesOf, hsilent]
    exact hstep

/-! ## What rests -/

theorem rests_endGeneration (t : Turn) (t' : Turn) (reason : GenerationCloseReason) :
    Rests t (t'.endGeneration reason) := Or.inl (endGeneration_closing t' reason)

theorem rests_emitCompletion (t : Turn) (c : CommandId) (result : CoreCommandResult) :
    Rests t (t.emitCompletion c result) := by
  unfold emitCompletion
  split
  · exact (rests_update rfl rfl rfl rfl).trans (rests_push rfl)
  · exact rests_endGeneration t t .runtimeInvariant

theorem rests_completeError (t : Turn) (c : CommandId) (error : OperationError) :
    Rests t (t.completeError c error) := by
  unfold completeError
  split
  · exact rests_endGeneration t t .runtimeInvariant
  · exact rests_emitCompletion t c _

theorem rests_completeControl (t : Turn) (c : CommandId) (result : Except OperationError Unit) :
    Rests t (t.completeControl c result) := by
  unfold completeControl
  split
  · exact rests_endGeneration t t .runtimeInvariant
  · exact rests_emitCompletion t c _

theorem rests_completeSend (t : Turn) (c : CommandId)
    (result : Except OperationError CommittedWrite) :
    Rests t (t.completeSend c result) := by
  unfold completeSend
  split
  · exact rests_endGeneration t t .runtimeInvariant
  · exact rests_emitCompletion t c _

theorem rests_completeRequest (t : Turn) (c : CommandId)
    (result : Except OperationError MatchedSecondary) :
    Rests t (t.completeRequest c result) := by
  unfold completeRequest
  split
  · exact rests_endGeneration t t .runtimeInvariant
  · exact rests_emitCompletion t c _

theorem rests_completeControlTransaction (t : Turn) (transaction : ControlTransaction)
    (result : Except OperationError Unit) :
    Rests t (t.completeControlTransaction transaction result) := by
  unfold completeControlTransaction
  split
  · exact rests_completeControl t _ result
  · exact rests_update (f := id) rfl rfl rfl rfl

theorem rests_recordActivity (t : Turn) (occurredAt : MonoTime) :
    Rests t (t.recordActivity occurredAt) := by
  rcases t.recordActivity_cases occurredAt with ⟨-, _, _, heq⟩ | ⟨_, heq⟩
  · rw [heq]
    exact rests_update rfl rfl rfl rfl
  · rw [heq]
    exact Or.inl (endGeneration_closing _ .runtimeInvariant)

theorem rests_expireRequests (requests : List DataTransaction) (t : Turn) :
    Rests t (requests.foldl expireRequest t) := by
  induction requests generalizing t with
  | nil => exact rests_update (f := id) rfl rfl rfl rfl
  | cons transaction requests ih =>
    have hfirst : Rests t (t.expireRequest transaction) := by
      unfold expireRequest
      exact (rests_update rfl rfl rfl rfl).trans (rests_emitCompletion _ _ _)
    exact hfirst.trans (ih _)

/-! ## What asks -/

/-- **A started transaction asks**, if the slot was empty and it asks for a change. -/
theorem moves_startTransaction (t : Turn) (hidle : t.core.activeTransaction = none)
    {kind : TransactionKind}
    (hchange : ∀ value, kind.selects = some value → t.core.party.on = !value)
    (c : Option CommandId) :
    Moves none t (t.startTransaction kind c) := by
  unfold startTransaction
  rcases t.allocateRequestIdentifiers_cases with ⟨reason, heq⟩ | ⟨sb, w, -, heq⟩
  · rw [heq]
    exact moves_of_closing (endGeneration_closing t reason)
  · rw [heq]
    refine @moves_of_send none t _ w (.control (requestMessage kind sb)) rfl rfl ?_ ?_
    · cases kind with
      | select | deselect => exact rfl
      | linktest => trivial
    · have hasked : t.core.party.asked = none := by
        rw [party_idle hidle]
      have hasks (core : SessionCore) (hstate : core.state = t.core.state)
          (hactive : core.activeTransaction = some ⟨kind, c, controlSessionId, sb, w, none⟩) :
          Handshake.Step t.core.party none
            (ProtocolMessage.note (.control (requestMessage kind sb))).toList core.party := by
        have hafter : core.party = ⟨t.core.party.on, kind.selects.map fun value =>
          (value, sb)⟩ := by
          rw [party_of_active hactive, hstate]
          rfl
        rw [hafter]
        cases kind with
        | select => exact .ask _ true sb hasked (hchange true rfl)
        | deselect => exact .ask _ false sb hasked (hchange false rfl)
        | linktest =>
          have hsame : (⟨t.core.party.on, none⟩ : Handshake.Party SystemBytes) = t.core.party := by
            rw [party_idle hidle]
          exact hsame ▸ .rest _
      exact hasks _ rfl rfl

theorem moves_startSelect (t : Turn) (c : CommandId) : Moves none t (t.startSelect c) := by
  unfold startSelect
  split
  · exact (rests_completeError t c _).moves
  · rename_i hstate
    split
    · exact (rests_completeError t c _).moves
    · rename_i hidle
      refine moves_startTransaction t (by simpa using hidle) (fun value hvalue => ?_) _
      obtain rfl := Option.some.inj hvalue
      show decide (t.core.state = some .selected) = false
      rw [hstate]
      rfl
  · exact (rests_completeError t c _).moves

theorem moves_startLinktest (t : Turn) (c : CommandId) : Moves none t (t.startLinktest c) := by
  have hstart : Moves none t (if t.core.activeTransaction.isSome then t.completeError c .controlBusy
      else t.startTransaction .linktest (some c)) := by
    split
    · exact (rests_completeError t c _).moves
    · rename_i hidle
      refine moves_startTransaction t (by simpa using hidle) (fun value hvalue => ?_) _
      cases hvalue
  unfold startLinktest
  split
  · exact hstart
  · exact hstart
  · exact (rests_completeError t c _).moves

/-- **A waiting drain asks for the Deselect** once nothing is in use. -/
theorem moves_progressDeselect (t : Turn) (halone : t.core.Alone) (now : MonoTime) :
    Moves none t (t.progressDeselect now) := by
  have hdropped : Moves none t (t.update fun core => { core with deselectDrain := none }) :=
    moves_of_silent rfl (List.append_nil _).symm rfl (.rest _)
  unfold progressDeselect
  split
  · rename_i hclosing
    exact moves_of_closing hclosing
  · rename_i hopen
    have hlive := Bool.eq_false_of_not_eq_true hopen
    split
    · exact (rests_update (f := id) rfl rfl rfl rfl).moves
    · rename_i drain hdrain
      obtain ⟨hidle, hstate⟩ := halone hlive (by rw [hdrain]; rfl)
      split_ifs with hdue hunselected hquiet
      · exact hdropped.andThen (rests_completeError _ _ _).moves
      · exact hdropped.andThen (rests_completeControl _ _ _).moves
      · refine hdropped.andThen ?_
        refine moves_startTransaction _ ?_ (fun value hvalue => ?_) _
        · exact hidle
        · obtain rfl := Option.some.inj hvalue
          show decide (t.core.state = some .selected) = true
          exact decide_eq_true (hstate.resolve_left hunselected)
      · exact (rests_update (f := id) rfl rfl rfl rfl).moves

theorem moves_startDeselect (t : Turn) (c : CommandId) (now : MonoTime) :
    Moves none t (t.startDeselect c now) := by
  unfold startDeselect
  split_ifs with hstate hbusy
  · exact (rests_completeError t c _).moves
  · exact (rests_completeError t c _).moves
  · simp only [Bool.or_eq_true, not_or, Bool.not_eq_true, Option.isSome_eq_false_iff,
      Option.isNone_iff_eq_none] at hbusy
    split
    · rename_i deadline _
      have hwaits : Moves none t (t.update fun core =>
        { core with deselectDrain := some ⟨c, deadline⟩ }) :=
        moves_of_silent rfl (List.append_nil _).symm rfl (.rest _)
      refine hwaits.andThen (moves_progressDeselect _ ?_ now)
      exact fun _ _ => ⟨hbusy.1, Or.inr (not_not.mp hstate)⟩
    · exact moves_of_closing (endGeneration_closing _ .runtimeInvariant)

theorem moves_startData (t : Turn) (c : CommandId) (primary : PrimaryMessage)
    (replyExpected : Bool) :
    Moves none t (t.startData c primary replyExpected) := by
  unfold startData
  split
  · exact (rests_completeError t c _).moves
  · split
    · exact (rests_completeError t c _).moves
    · split
      · exact (rests_completeError t c _).moves
      · split
        · exact (rests_completeError t c _).moves
        · rcases t.allocateRequestIdentifiers_cases with ⟨reason, heq⟩ | ⟨sb, w, -, heq⟩
          · rw [heq]
            exact moves_of_closing (endGeneration_closing t reason)
          · rw [heq]
            dsimp only
            split_ifs
            · exact moves_of_closing (endGeneration_closing _ .runtimeInvariant)
            · exact moves_of_send rfl rfl trivial (.rest _)
            · exact moves_of_send rfl rfl trivial (.rest _)

theorem moves_expireDeadlines (halone : t.core.Alone) (now : MonoTime) :
    Moves none t (t.expireDeadlines now) := by
  have hsame : Moves none t t := (rests_update (f := id) rfl rfl rfl rfl).moves
  unfold expireDeadlines
  split
  · exact hsame
  · split
    · exact moves_of_closing (requestClose_closing _ _ _)
    · split
      · exact moves_of_closing (requestClose_closing _ _ _)
      · have hrests := rests_expireRequests (expiredRequests t.core now) t
        have hprogress := hrests.moves.andThen (moves_progressDeselect _ (hrests.alone halone) now)
        dsimp only
        split
        · exact hprogress
        · split
          · rename_i hidle
            simp only [Bool.and_eq_true, Option.isNone_iff_eq_none] at hidle
            have hprobe : Moves none _
                ((((expiredRequests t.core now).foldl expireRequest t).progressDeselect now).update
                  fun core => { core with idleDeadline := none }) :=
              (rests_update rfl rfl rfl rfl).moves
            refine (hprogress.andThen hprobe).andThen ?_
            refine moves_startTransaction _ ?_ (fun value hvalue => ?_) _
            · exact hidle.1.1
            · cases hvalue
          · exact hprogress

/-! ## What answers -/

theorem moves_sendResponse {message : ControlMessage} (hclosing : t₁.core.closing = t.core.closing)
    (hactions : t₁.actions = t.actions) (hconforms : (ProtocolMessage.control message).Conforms)
    (hstep : Handshake.Step t.core.party received (ProtocolMessage.note (.control message)).toList
      t₁.core.party) : Moves received t (t₁.sendResponse message) := by
  rcases t₁.sendResponse_cases message with heq | ⟨w, -, heq⟩
  · rw [heq]
    exact moves_of_closing (endGeneration_closing t₁ .runtimeInvariant)
  · rw [heq]
    exact moves_of_send hclosing (by rw [hactions]) hconforms hstep

theorem moves_receiveSelectRequest (t : Turn) (systemBytes : SystemBytes) :
    Moves (some (.ask true systemBytes)) t
      (t.receiveSelectRequest controlSessionId systemBytes) := by
  unfold receiveSelectRequest
  rw [if_neg (not_not_intro rfl)]
  by_cases hselected : t.core.state = some .selected
  · rw [if_pos hselected]
    dsimp only
    rw [if_neg fun h => absurd h.1 (by decide)]
    exact moves_sendResponse rfl rfl rfl (.refuse _ true systemBytes)
  · rw [if_neg hselected]
    dsimp only
    have hgrant : Moves (some (.ask true systemBytes)) t ((t.update fun core =>
        { core with state := some .selected, selectionDeadline := none }).sendResponse
          (.selectResponse controlSessionId .success systemBytes)) :=
      moves_sendResponse rfl rfl rfl (.grant _ true systemBytes (decide_eq_false hselected))
    split
    · exact hgrant.andThen (rests_push rfl).moves
    · exact hgrant

/-- The transaction that an expected answer belongs to. -/
theorem active_of_answer {value : Bool} {systemBytes : SystemBytes}
    (hsession : t.core.ControlSession)
    (hasked : t.core.party.asked = some (value, systemBytes)) : ∃ transaction,
      t.core.activeTransaction = some transaction ∧ transaction.kind.selects = some value ∧
        transaction.systemBytes = systemBytes ∧ transaction.sessionId = controlSessionId := by
  obtain ⟨transaction, hactive, hkind, hbytes⟩ := active_of_asked hasked
  exact ⟨transaction, hactive, hkind, hbytes, hsession transaction hactive⟩

/-- **The answer ends the transaction**, and the selection follows it. -/
theorem moves_of_answer {value granted : Bool} {systemBytes : SystemBytes} {sent : List CoreAction}
    (hasked : t.core.party.asked = some (value, systemBytes))
    (hclosing : t₁.core.closing = t.core.closing)
    (hactions : t₁.actions = t.actions ++ sent) (hsilent : framesOf sent = [])
    (hidle : t₁.core.activeTransaction = none)
    (hon : decide (t₁.core.state = some .selected) = if granted then value else t.core.party.on) :
    Moves (some (.answer value systemBytes granted)) t t₁ := by
  refine moves_of_silent hclosing hactions hsilent ?_
  rw [party_idle hidle, hon]
  exact .learn _ value systemBytes granted hasked

theorem moves_receiveSelectResponse (hsession : t.core.ControlSession) {systemBytes : SystemBytes}
    (hasked : t.core.party.asked = some (true, systemBytes)) (status : SelectStatus) :
    Moves (some (.answer true systemBytes (decide status.IsSuccess))) t
      (t.receiveSelectResponse controlSessionId status systemBytes) := by
  obtain ⟨transaction, hactive, hkind, hbytes, hcontrol⟩ := active_of_answer hsession hasked
  have hselect : transaction.kind = .select := by
    cases hown : transaction.kind with
    | select => rfl
    | deselect | linktest =>
      rw [hown] at hkind
      cases hkind
  unfold receiveSelectResponse
  rw [hactive]
  dsimp only
  rw [if_neg (by rw [hselect, hcontrol, hbytes]; simp)]
  by_cases hsuccess : status.IsSuccess
  · rw [dif_pos hsuccess, decide_eq_true hsuccess]
    refine Moves.andThen ?_ (rests_completeControlTransaction _ _ _).moves
    split
    · exact moves_of_answer hasked rfl rfl rfl rfl rfl
    · rename_i hselected
      refine moves_of_answer hasked rfl (List.append_nil _).symm rfl rfl ?_
      exact decide_eq_true (not_not.mp hselected)
  · rw [dif_neg hsuccess, decide_eq_false hsuccess]
    refine Moves.andThen ?_ (rests_completeControlTransaction _ _ _).moves
    exact moves_of_answer hasked rfl (List.append_nil _).symm rfl rfl rfl

theorem moves_receiveDeselectRequest (t : Turn) (systemBytes : SystemBytes) (now : MonoTime) :
    Moves (some (.ask false systemBytes)) t
      (t.receiveDeselectRequest controlSessionId systemBytes now) := by
  have hrefused (status : DeselectStatus) (hstatus : ¬ status.IsSuccess) :
      Moves (some (.ask false systemBytes)) t
        (t.sendResponse (.deselectResponse controlSessionId status systemBytes)) := by
    refine moves_sendResponse rfl rfl rfl ?_
    show Handshake.Step _ _ [.answer false systemBytes (decide status.IsSuccess)] _
    rw [decide_eq_false hstatus]
    exact .refuse _ false systemBytes
  unfold receiveDeselectRequest
  dsimp only
  by_cases hselected : t.core.state = some .selected
  · have hours : ¬ (controlSessionId ≠ controlSessionId ∨ t.core.state ≠ some .selected) := by
      simp [hselected]
    rw [if_neg hours]
    cases hdata : t.core.dataInUse with
    | true =>
      rw [if_pos rfl, if_neg fun h => absurd h.1 (by decide)]
      exact hrefused .busy (by decide)
    | false =>
      rw [if_neg Bool.false_ne_true]
      rcases t.sendResponse_cases (.deselectResponse controlSessionId .success systemBytes) with
        heq | ⟨w, -, heq⟩
      · rw [heq, if_neg]
        · exact moves_of_closing (endGeneration_closing t .runtimeInvariant)
        · rw [endGeneration_closing]
          exact fun h => Bool.false_ne_true h.2
      · rw [heq]
        split
        · -- the response and the deselection are one step
          have hstate : (⟨t.core.trackWrite w ⟨.response, none⟩,
              t.actions ++ [.sendFrame w (.control
              (.deselectResponse controlSessionId .success systemBytes))], t.overflowed⟩ :
              Turn).core.state ≠
                some .notSelected := by
            show t.core.state ≠ some .notSelected
            rw [hselected]
            nofun
          rcases commitDeselection_cases now hstate with ⟨deadline, -, hcommit⟩ | hcommit
          · rw [hcommit]
            refine Moves.andThen ?_ (rests_push rfl).moves
            exact moves_of_send rfl rfl rfl (.grant _ false systemBytes (decide_eq_true hselected))
          · rw [hcommit]
            exact moves_of_closing (endGeneration_closing _ .runtimeInvariant)
        · rename_i hclosed
          refine moves_of_closing ?_
          by_contra hlive
          exact hclosed ⟨rfl, by simpa using hlive⟩
  · have hother : controlSessionId ≠ controlSessionId ∨ t.core.state ≠ some .selected :=
      Or.inr hselected
    rw [if_pos hother, if_neg fun h => absurd h.1 (by decide)]
    exact hrefused .notSelected (by decide)

theorem moves_receiveDeselectResponse (hsession : t.core.ControlSession) {systemBytes : SystemBytes}
    (hasked : t.core.party.asked = some (false, systemBytes)) (status : DeselectStatus)
    (now : MonoTime) :
    Moves (some (.answer false systemBytes (decide status.IsSuccess))) t
      (t.receiveDeselectResponse controlSessionId status systemBytes now) := by
  obtain ⟨transaction, hactive, hkind, hbytes, hcontrol⟩ := active_of_answer hsession hasked
  have hdeselect : transaction.kind = .deselect := by
    cases hown : transaction.kind with
    | deselect => rfl
    | select | linktest =>
      rw [hown] at hkind
      cases hkind
  have hfound : t.core.activeTransaction.filter (fun transaction => transaction.kind = .deselect ∧
      transaction.sessionId = controlSessionId ∧ transaction.systemBytes = systemBytes) =
        some transaction := by
    rw [hactive]
    exact if_pos (decide_eq_true ⟨hdeselect, hcontrol, hbytes⟩)
  unfold receiveDeselectResponse
  rw [hfound]
  dsimp only
  by_cases hsuccess : status.IsSuccess
  · rw [dif_pos hsuccess, decide_eq_true hsuccess]
    refine Moves.andThen ?_ (rests_completeControlTransaction _ _ _).moves
    by_cases hstate : t.core.state = some .notSelected
    · have hkept : (t.update fun core =>
        { core with activeTransaction := none }).commitDeselection now =
          t.update fun core => { core with activeTransaction := none } := by
        unfold commitDeselection
        exact if_neg (not_not_intro hstate)
      rw [hkept]
      refine moves_of_answer hasked rfl (List.append_nil _).symm rfl rfl ?_
      show decide (t.core.state = some .selected) = false
      rw [hstate]
      rfl
    · rcases @commitDeselection_cases (t.update fun core =>
        { core with activeTransaction := none }) now
        hstate with ⟨deadline, -, hcommit⟩ | hcommit
      · rw [hcommit]
        exact moves_of_answer hasked rfl rfl rfl rfl rfl
      · rw [hcommit]
        exact moves_of_closing (endGeneration_closing _ .runtimeInvariant)
  · rw [dif_neg hsuccess, decide_eq_false hsuccess]
    refine Moves.andThen ?_ (rests_completeControlTransaction _ _ _).moves
    exact moves_of_answer hasked rfl (List.append_nil _).symm rfl rfl rfl

/-! ## What says nothing -/

theorem moves_refl (t : Turn) : Moves none t t := (rests_update (f := id) rfl rfl rfl rfl).moves

/-- The end of a transaction that asks for nothing. -/
theorem moves_linktest {transaction : ControlTransaction}
    (hactive : t.core.activeTransaction = some transaction)
    (hkind : transaction.kind = .linktest) (result : Except OperationError Unit) :
    Moves none t ((t.update fun core =>
      { core with activeTransaction := none }).completeControlTransaction
      transaction result) := by
  refine Moves.andThen ?_ (rests_completeControlTransaction _ _ _).moves
  refine moves_of_silent rfl (List.append_nil _).symm rfl ?_
  have hsame : (t.update fun core =>
    { core with activeTransaction := none }).core.party = t.core.party := by
    rw [party_of_active hactive, hkind]
    exact party_idle rfl
  rw [hsame]
  exact .rest _

theorem moves_receiveLinktestResponse (t : Turn) (systemBytes : SystemBytes) :
    Moves none t (t.receiveLinktestResponse systemBytes) := by
  have hrefused : Moves none t (t.sendTransactionNotOpenReject controlSessionId 6 systemBytes) :=
    moves_sendResponse rfl rfl ⟨by decide, by decide, by decide⟩ (.rest _)
  unfold receiveLinktestResponse
  split
  · exact hrefused
  · rename_i transaction hactive
    split
    · exact hrefused
    · rename_i hmatches
      simp only [ne_eq, not_or, not_not] at hmatches
      exact moves_linktest hactive hmatches.1 _

/-- **A Reject that conforms ends no Select and no Deselect.**  A Reject of a peer that follows
the protocol is about something else, so the agreement does not depend on it. -/
theorem moves_receiveReject (t : Turn) {sessionId : UInt16} {headerByte2 : UInt8}
    {reason : RejectReason}
    {systemBytes : SystemBytes} (hconforms : (ProtocolMessage.control
      (.rejectRequest sessionId headerByte2 reason systemBytes)).Conforms) :
    Moves none t (t.receiveReject sessionId headerByte2 reason systemBytes).1 := by
  unfold receiveReject
  split
  · exact moves_refl t
  · split
    · exact moves_refl t
    · rename_i target htargets
      have hmem : target ∈ rejectTargets t.core sessionId headerByte2 reason systemBytes := by
        rw [htargets]
        exact List.mem_singleton_self _
      cases target with
      | control transaction =>
        have hcontrol : RejectTarget.control transaction ∈
            controlTargets t.core sessionId headerByte2 reason systemBytes := by
          rcases List.mem_append.mp hmem with hmem | hmem
          · rcases List.mem_append.mp hmem with hmem | hmem
            · exact hmem
            · obtain ⟨_, _, _, _, heq⟩ := mem_requestTargets.mp hmem
              cases heq
          · obtain ⟨_, _, _, _, _, heq⟩ := mem_sendTargets.mp hmem
            cases heq
        obtain ⟨own, hactive, hnames, heq⟩ := mem_controlTargets.mp hcontrol
        obtain rfl := RejectTarget.control.inj heq
        refine moves_linktest hactive ?_ _
        obtain ⟨hreason, hselect, hdeselect⟩ := hconforms
        obtain ⟨-, -, hbyte⟩ := of_decide_eq_true hnames
        rw [if_neg hreason] at hbyte
        cases hkind : transaction.kind with
        | linktest => rfl
        | select =>
          rw [hkind] at hbyte
          exact absurd hbyte hselect
        | deselect =>
          rw [hkind] at hbyte
          exact absurd hbyte hdeselect
      | dataRequest transaction =>
        exact ((rests_update rfl rfl rfl rfl).trans (rests_completeError _ _ _)).moves
      | dataSend c => exact (rests_completeError t c _).moves
    · exact moves_refl t

theorem rests_receiveData (t : Turn) (message : DataMessage) :
    Rests t (t.receiveData message).1 := by
  unfold receiveData
  dsimp only
  split
  · exact rests_update (f := id) rfl rfl rfl rfl
  · split
    · exact rests_update (f := id) rfl rfl rfl rfl
    · exact (rests_update rfl rfl rfl rfl).trans (rests_completeRequest _ _ _)
    · exact (rests_update rfl rfl rfl rfl).trans (rests_completeRequest _ _ _)

theorem moves_receiveInboundData (t : Turn) (message : DataMessage) :
    Moves none t (t.receiveInboundData message) := by
  unfold receiveInboundData
  dsimp only
  split
  · exact moves_sendResponse rfl rfl ⟨by decide, by decide, by decide⟩ (.rest _)
  · split
    · exact ((rests_receiveData t message).trans (rests_update rfl rfl rfl rfl)).moves
    · split
      · exact moves_of_closing (requestClose_closing _ _ _)
      · split
        · split
          · exact moves_of_closing (requestClose_closing _ _ _)
          · split
            · exact moves_of_closing (requestClose_closing _ _ _)
            · exact ((rests_update rfl rfl rfl rfl).trans (rests_push rfl)).moves
        · exact (rests_push rfl).moves

/-- **What an open Core does with a message that conforms.**  It is one step of its party, with
the notes of the frames that it sends. -/
theorem moves_receive (hsession : t.core.ControlSession) {message : ProtocolMessage}
    (hconforms : message.Conforms) (hasked : ∀ value systemBytes granted,
      message.note = some (.answer value systemBytes granted) →
        t.core.party.asked = some (value, systemBytes)) (now : MonoTime) :
    Moves message.note t (receive t message now) := by
  cases message with
  | data message => exact moves_receiveInboundData t message
  | control message =>
    cases message with
    | selectRequest sessionId systemBytes =>
      obtain rfl : sessionId = controlSessionId := hconforms
      exact moves_receiveSelectRequest t systemBytes
    | selectResponse sessionId status systemBytes =>
      obtain rfl : sessionId = controlSessionId := hconforms
      exact moves_receiveSelectResponse hsession (hasked _ _ _ rfl) status
    | deselectRequest sessionId systemBytes =>
      obtain rfl : sessionId = controlSessionId := hconforms
      exact moves_receiveDeselectRequest t systemBytes now
    | deselectResponse sessionId status systemBytes =>
      obtain rfl : sessionId = controlSessionId := hconforms
      exact moves_receiveDeselectResponse hsession (hasked _ _ _ rfl) status now
    | linktestRequest systemBytes => exact moves_sendResponse rfl rfl trivial (.rest _)
    | linktestResponse systemBytes => exact moves_receiveLinktestResponse t systemBytes
    | rejectRequest sessionId headerByte2 reason systemBytes =>
      exact (moves_receiveReject t hconforms).andThen (rests_update rfl rfl rfl rfl).moves
    | separateRequest sessionId systemBytes =>
      by_cases hselected : t.core.state = some .selected
      · exact moves_of_closing (closing_receiveSeparate hselected)
      · show Moves none t t.receiveSeparate
        rw [receiveSeparate_ignored hselected]
        exact moves_refl t

end Turn

namespace SessionCore

variable {core : SessionCore}

/-! ## Rounds -/

/-- A waiting drain is still alone after a message is received. -/
theorem alone_receive {t : Turn} (h : Coherent none t.core) (hlive : t.core.closing = false)
    (hstate : t.core.state.isSome = true) (message : ProtocolMessage) (now : MonoTime) :
    (receive t message now).core.Alone := by
  by_cases hseparate : ∃ sessionId systemBytes,
      message = .control (.separateRequest sessionId systemBytes)
  · obtain ⟨sessionId, systemBytes, rfl⟩ := hseparate
    show t.receiveSeparate.core.Alone
    by_cases hselected : t.core.state = some .selected
    · exact fun hopen => not_closing hopen (closing_receiveSeparate hselected)
    · rw [receiveSeparate_ignored hselected]
      exact alone_of_coherent h
  · have hruns : Runs t.core (.message message now) t none (receive t message now) none := by
      refine runs_receive h hlive hstate rfl fun _ => Or.inr fun sessionId systemBytes heq => ?_
      exact absurd ⟨sessionId, systemBytes, heq⟩ hseparate
    exact alone_of_coherent (hruns.coherent h)

/-- **The round of a message that conforms** is a step of the party, unless it closes the Core. -/
theorem moves_onMessage (h : Coherent none core) (hsession : core.ControlSession)
    (hstate : core.state.isSome = true) (hlive : core.closing = false) {message : ProtocolMessage}
    (hconforms : message.Conforms) (hasked : ∀ value systemBytes granted,
      message.note = some (.answer value systemBytes granted) →
        core.party.asked = some (value, systemBytes)) (now : MonoTime) :
    Turn.Moves message.note (Turn.start core) (core.onMessage message now) := by
  rcases onMessage_cases hstate hlive with hclosed | ⟨-, -, lastActivity, idleDeadline, heq⟩
  · exact Turn.moves_of_closing hclosed
  · rw [heq]
    have hobserved : Coherent none
        (Turn.start (core.observed now lastActivity idleDeadline)).core :=
      h.observe rfl
    have hreceive : Turn.Moves message.note (Turn.start core)
        (receive (Turn.start (core.observed now lastActivity idleDeadline)) message now) :=
      @Turn.moves_receive (Turn.start (core.observed now lastActivity idleDeadline))
        hsession message
        hconforms hasked now
    exact hreceive.andThen (Turn.moves_progressDeselect _
      (alone_receive hobserved hlive hstate message now) now)

/-- A round that begins with a change that is none of the party. -/
theorem rests_start {core' : SessionCore} (hclosing : core'.closing = core.closing)
    (hstate : core'.state = core.state) (hactive : core'.activeTransaction = core.activeTransaction)
    (hdrain : core'.deselectDrain = core.deselectDrain) :
    Turn.Rests (Turn.start core) (Turn.start core') :=
  Or.inr ⟨hclosing, hstate, hactive, hdrain, [], rfl, rfl⟩

theorem moves_onConnected (now : MonoTime) : Turn.Moves none (Turn.start core)
    (core.onConnected now) := by
  unfold onConnected
  rcases (Turn.start core).acceptTime_cases now with ⟨-, heq⟩ | ⟨-, heq⟩
  · rw [heq]
    exact Turn.moves_of_closing (Turn.endGeneration_closing _ .runtimeInvariant)
  · rw [heq]
    dsimp only
    split
    · exact Turn.moves_of_closing (Turn.endGeneration_closing _ .runtimeInvariant)
    · rename_i hfresh
      simp only [Bool.or_eq_true, not_or, Bool.not_eq_true, Option.isSome_eq_false_iff,
        Option.isNone_iff_eq_none] at hfresh
      have hnone : core.state = none := hfresh.1
      have harmed : Turn.Moves none (Turn.start core) ((((Turn.start core).update fun core =>
          { core with lastNow := some now }).update fun core =>
            { core with state := some .notSelected }).armSelectionTimeout now) := by
        rcases armSelectionTimeout_cases (((Turn.start core).update fun core =>
          { core with lastNow := some now }).update fun core =>
            { core with state := some .notSelected }) now with
          ⟨deadline, -, harm⟩ | harm
        · rw [harm]
          refine Turn.moves_of_silent rfl (List.append_nil _).symm rfl ?_
          have hstep (core' : SessionCore) (hstate : core'.state = some .notSelected)
              (hactive : core'.activeTransaction = core.activeTransaction) :
              Handshake.Step core.party none [] core'.party := by
            have hsame : core'.party = core.party := by
              unfold party
              rw [hstate, hactive, hnone]
              rfl
            rw [hsame]
            exact .rest _
          exact hstep _ rfl rfl
        · rw [harm]
          exact Turn.moves_of_closing (Turn.endGeneration_closing _ .runtimeInvariant)
      have hactive := harmed.andThen (Turn.rests_recordActivity _ now).moves
      split
      · exact hactive
      · exact hactive.andThen (Turn.rests_push rfl).moves

theorem moves_onCommand (core : SessionCore) (command : CoreCommand) (now : MonoTime) :
    Turn.Moves none (Turn.start core) (core.onCommand command now) := by
  unfold onCommand
  dsimp only
  split
  · exact Turn.moves_of_closing (Turn.endGeneration_closing _ .runtimeInvariant)
  · rcases (Turn.start (core.accept command.commandId command.kind.openKind)).acceptTime_cases
      now with
      ⟨-, heq⟩ | ⟨-, heq⟩
    · rw [heq]
      exact Turn.moves_of_closing (Turn.endGeneration_closing _ .runtimeInvariant)
    · rw [heq]
      dsimp only
      have hstart : Turn.Rests (Turn.start core) ((Turn.start (core.accept command.commandId
          command.kind.openKind)).update fun core => { core with lastNow := some now }) :=
        rests_start rfl rfl rfl rfl
      generalize (Turn.start (core.accept command.commandId command.kind.openKind)).update
        (fun core => { core with lastNow := some now }) = t at hstart ⊢
      refine hstart.moves.andThen ?_
      split
      · exact (Turn.rests_completeError t _ _).moves
      · split
        · exact (Turn.rests_completeError t _ _).moves
        · split
          · exact (Turn.rests_completeError t _ _).moves
          · split
            · exact Turn.moves_startDeselect t _ now
            · exact Turn.moves_startSelect t _
            · exact Turn.moves_startLinktest t _
            · by_cases hselected : t.core.state = some .selected
              · exact Turn.moves_of_closing (closing_startSeparate hselected _ _)
              · rw [startSeparate_refused hselected]
                exact (Turn.rests_completeError t _ _).moves
            · exact Turn.moves_startData t _ _ _
            · exact Turn.moves_startData t _ _ _

theorem moves_onReply (halone : core.Alone) (c : CommandId) (capability : ReplyCapabilityId)
    (intent : ReplyIntent) (body : Option SecsItem) (now : MonoTime) :
    Turn.Moves none (Turn.start core) (core.onReply c capability intent body now) := by
  unfold onReply
  split
  · exact Turn.moves_of_closing (Turn.endGeneration_closing _ .runtimeInvariant)
  · rcases (Turn.start (core.accept c intent.openKind)).acceptTime_cases now with ⟨-,
      heq⟩ | ⟨-, heq⟩
    · rw [heq]
      exact Turn.moves_of_closing (Turn.endGeneration_closing _ .runtimeInvariant)
    · rw [heq]
      dsimp only
      have hstart : Turn.Rests (Turn.start core)
          ((Turn.start (core.accept c intent.openKind)).update fun core =>
          { core with lastNow := some now }) := rests_start rfl rfl rfl rfl
      generalize (Turn.start (core.accept c intent.openKind)).update
        (fun core => { core with lastNow := some now }) = t at hstart ⊢
      refine hstart.moves.andThen ?_
      split
      · exact (Turn.rests_completeError t _ _).moves
      · split
        · exact (Turn.rests_completeError t _ _).moves
        · split
          · exact (Turn.rests_completeError t _ _).moves
          · rename_i primary _
            have hspent : Turn.Rests t (t.update fun core =>
                { core with replyContracts := core.replyContracts.erase capability }) :=
              Turn.rests_update rfl rfl rfl rfl
            split
            · have hcompleted := hspent.trans (Turn.rests_completeControl _ c (.ok ()))
              have hwaits := (hstart.trans hcompleted).alone halone
              exact hcompleted.moves.andThen (Turn.moves_progressDeselect _ hwaits now)
            · refine hspent.moves.andThen ?_
              split
              · exact (Turn.rests_completeError _ _ _).moves
              · split
                · exact Turn.moves_of_closing (Turn.endGeneration_closing _ .runtimeInvariant)
                · rename_i hnext
                  unfold allocateWriteId at hnext
                  split at hnext
                  · cases hnext
                  · obtain ⟨rfl, rfl⟩ := Prod.mk.inj (Option.some.inj hnext)
                    exact Turn.moves_of_send rfl rfl trivial (.rest _)

/-- The commit of a write arms a timer or completes a command. -/
theorem rests_commitWrite (t : Turn) (w : WriteId) (write : PendingWrite) (occurredAt : MonoTime) :
    Turn.Rests t (t.commitWrite w write occurredAt) ∨ ∃ transaction deadline,
      t.core.activeTransaction = some transaction ∧
        t.commitWrite w write occurredAt = t.update fun core =>
        { core with activeTransaction := some { transaction with deadline := deadline } } := by
  have hsame : Turn.Rests t t := Turn.rests_update (f := id) rfl rfl rfl rfl
  unfold Turn.commitWrite
  split
  · split
    · rename_i transaction hactive
      split
      · dsimp only
        split
        · exact Or.inl (Turn.rests_endGeneration t _ .runtimeInvariant)
        · exact Or.inr ⟨transaction, _, hactive, rfl⟩
      · exact Or.inl hsame
    · exact Or.inl hsame
  · split
    · exact Or.inl (Turn.rests_completeSend t _ _)
    · exact Or.inl hsame
  · split
    · split
      · dsimp only
        split
        · exact Or.inl (Turn.rests_endGeneration t _ .runtimeInvariant)
        · exact Or.inl (Turn.rests_update rfl rfl rfl rfl)
      · exact Or.inl hsame
    · exact Or.inl hsame
  · split
    · exact Or.inl (Turn.rests_completeControl t _ _)
    · exact Or.inl hsame
  · exact Or.inl hsame

theorem moves_settleWrite {t : Turn} (halone : t.core.Alone) (w : WriteId) (write : PendingWrite)
    (occurredAt now : MonoTime) :
    Turn.Moves none t (t.settleWrite w write .committed occurredAt now) := by
  unfold Turn.settleWrite
  split
  · exact ((Turn.rests_update rfl rfl rfl rfl).trans (Turn.rests_completeError _ _ _)).moves
  · show Turn.Moves none t ((t.commitWrite w write occurredAt).expireDeadlines now)
    rcases rests_commitWrite t w write occurredAt with hrests | ⟨transaction, deadline, hactive,
      heq⟩
    · exact hrests.moves.andThen (Turn.moves_expireDeadlines (hrests.alone halone) now)
    · rw [heq]
      have hcommits : Turn.Moves none t (t.update fun core =>
          { core with activeTransaction := some { transaction with deadline := deadline } }) := by
        refine Turn.moves_of_silent rfl (List.append_nil _).symm rfl ?_
        have hstep (core' : SessionCore) (hstate : core'.state = t.core.state)
            (hnext : core'.activeTransaction = some { transaction with deadline := deadline }) :
            Handshake.Step t.core.party none [] core'.party := by
          have hsame : core'.party = t.core.party := by
            rw [party_of_active hnext, party_of_active hactive, hstate]
          rw [hsame]
          exact .rest _
        exact hstep _ rfl rfl
      refine hcommits.andThen (Turn.moves_expireDeadlines ?_ now)
      intro hlive hdrain
      have hidle := (halone hlive hdrain).1
      rw [hactive] at hidle
      cases hidle

theorem moves_onWriteOutcomeAt (halone : core.Alone) (w : WriteId) (occurredAt now : MonoTime) :
    Turn.Moves none (Turn.start core) (core.onWriteOutcomeAt w .committed occurredAt now) := by
  unfold onWriteOutcomeAt
  rcases (Turn.start core).acceptTime_cases now with ⟨-, heq⟩ | ⟨-, heq⟩
  · rw [heq]
    exact Turn.moves_of_closing (Turn.endGeneration_closing _ .runtimeInvariant)
  · rw [heq]
    dsimp only
    split
    · exact Turn.moves_of_closing (Turn.endGeneration_closing _ .runtimeInvariant)
    · split
      · exact Turn.moves_of_closing (Turn.endGeneration_closing _ .runtimeInvariant)
      · rename_i write _
        have hstart : Turn.Rests (Turn.start core) (((Turn.start core).update fun core =>
            { core with lastNow := some now }).update fun core =>
              { core with pendingWrites := core.pendingWrites.erase w }) :=
                rests_start rfl rfl rfl rfl
        generalize (((Turn.start core).update fun core => { core with lastNow := some now }).update
          fun core => { core with pendingWrites := core.pendingWrites.erase w }) = t at hstart ⊢
        have hrecorded : Turn.Rests (Turn.start core)
            (if WriteOutcome.committed = .committed ∧
              (!t.core.closing) = true then t.recordActivity occurredAt
              else t) := by
          split
          · exact hstart.trans (Turn.rests_recordActivity t occurredAt)
          · exact hstart
        exact hrecorded.moves.andThen
          (moves_settleWrite (hrecorded.alone halone) w write occurredAt now)

/-- **Every round that is not about the peer** is a step of the party without a received note,
unless it closes the Core. -/
theorem moves_handle (h : Coherent none core) {input : Input} (hown : input.isInbound = false) :
    Turn.Moves none (Turn.start core) (core.handle input) := by
  have halone := alone_of_coherent h
  cases input with
  | connected now => exact moves_onConnected now
  | command command now => exact moves_onCommand core command now
  | message message now => cases hown
  | inboundViolation violation now => cases hown
  | reply c capability intent body now => exact moves_onReply halone c capability intent body now
  | writeOutcome w outcome occurredAt now =>
    cases outcome with
    | committed => exact moves_onWriteOutcomeAt halone w occurredAt now
    | notWritten fault => exact Turn.moves_of_closing (closing_of_failure rfl)
    | indeterminate fault => exact Turn.moves_of_closing (closing_of_failure rfl)
  | shutdown reason failedWriteId now =>
    exact Turn.moves_of_closing (closing_onShutdown reason failedWriteId now)
  | finishShutdownDrain reason now =>
    exact Turn.moves_of_closing (closing_finishShutdownDrain reason now)
  | advanceTime now =>
    show Turn.Moves none (Turn.start core) (core.advanceTime now)
    unfold advanceTime
    rcases (Turn.start core).acceptTime_cases now with ⟨-, heq⟩ | ⟨-, heq⟩
    · rw [heq]
      exact Turn.moves_of_closing (Turn.endGeneration_closing _ .runtimeInvariant)
    · rw [heq]
      have hstart : Turn.Rests (Turn.start core) ((Turn.start core).update fun core =>
          { core with lastNow := some now }) := Turn.rests_update rfl rfl rfl rfl
      exact hstart.moves.andThen (Turn.moves_expireDeadlines (hstart.alone halone) now)
  | finalizeWriter now =>
    refine Turn.moves_of_closing ?_
    cases hclosing : core.closing with
    | true =>
      by_contra hlive
      exact not_closing (@live_of_handle _ (.finalizeWriter now) h
        (Bool.eq_false_of_not_eq_true hlive)) hclosing
    | false =>
      show (core.finalizeWriter now).core.closing = true
      unfold finalizeWriter
      rcases (Turn.start core).acceptTime_cases now with ⟨-, heq⟩ | ⟨-, heq⟩
      · rw [heq]
        exact Turn.endGeneration_closing _ .runtimeInvariant
      · rw [heq]
        dsimp only
        split
        · exact Turn.endGeneration_closing _ .runtimeInvariant
        · rename_i hopen
          exact absurd (show (!core.closing) = true by rw [hclosing]; rfl) hopen

end SessionCore

end Hsms
end SecsRust

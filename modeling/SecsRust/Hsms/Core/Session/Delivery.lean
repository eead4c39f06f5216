import SecsRust.Hsms.Core.Session.Authority

/-!
# Deliveries of a round

A round of Core delivers at most one Primary, the one that it has received, and as its first
action (`deliveries_handle`).  All other operations of a Turn deliver nothing
(`Turn.Withholds`), and the property is closed under composition, so the functions of the
Core have a line each.

The place in the batch matters to the Driver.  An action that fails leaves those before it
applied, so a delivery that comes first is queued, or fails, before anything else of its
round has had an effect.  The accounts of inbound Primaries begin here: `deliveries` reads
the delivered Primaries off a list of actions, and what the Driver queues is compared with
it.
-/

namespace SecsRust
namespace Hsms

open Std Secs2 SessionCore

/-- The Primaries that actions deliver. -/
def deliveries (actions : List CoreAction) : List (DataMessage × Option ReplyCapabilityId) :=
  actions.filterMap CoreAction.delivery

@[simp] theorem deliveries_nil : deliveries [] = [] := rfl

theorem deliveries_append (actions more : List CoreAction) :
    deliveries (actions ++ more) = deliveries actions ++ deliveries more := List.filterMap_append

theorem deliveries_eq_nil {actions : List CoreAction}
    (h : ∀ message capability, .deliverPrimary message capability ∉ actions) :
    deliveries actions = [] := by
  refine List.filterMap_eq_nil_iff.mpr fun action hmem => ?_
  cases action with
  | deliverPrimary message capability => exact absurd hmem (h message capability)
  | sendFrame | sessionStateChanged | completeCommand | closeGeneration => rfl

namespace Turn

variable {t t₁ t₂ : Turn}

/-- What is pushed between `t` and `t₁` delivers nothing. -/
def Withholds (t t₁ : Turn) : Prop :=
  ∃ actions, t₁.actions = t.actions ++ actions ∧ deliveries actions = []

namespace Withholds

theorem of_eq (h : t₁.actions = t.actions) : Withholds t t₁ := ⟨[], by rw [h, List.append_nil], rfl⟩

theorem refl (t : Turn) : Withholds t t := of_eq rfl

theorem trans (h : Withholds t t₁) (h' : Withholds t₁ t₂) : Withholds t t₂ := by
  obtain ⟨actions, heq, hnone⟩ := h
  obtain ⟨more, heq', hnone'⟩ := h'
  refine ⟨actions ++ more, by rw [heq', heq, List.append_assoc], ?_⟩
  rw [deliveries_append, hnone, hnone', List.append_nil]

theorem update (t : Turn) (f : SessionCore → SessionCore) : Withholds t (t.update f) := of_eq rfl

theorem push (t : Turn) {action : CoreAction} (h : action.delivery = none) :
    Withholds t (t.push action) :=
  ⟨[action], rfl, List.filterMap_cons_none h⟩

theorem settle (t : Turn) (c : CommandId) (result : CoreCommandResult) :
    Withholds t (t.settle c result) :=
  (update t _).trans (push _ rfl)

theorem completeAll (t : Turn) (error : OperationError) : Withholds t (t.completeAll error) := by
  have hone (t : Turn) (c : CommandId) : Withholds t (t.completeOpenOrDefer error c) := by
    unfold completeOpenOrDefer
    split
    · exact update t _
    · split
      · exact settle t c _
      · exact refl t
  have hloop (ids : List CommandId) (t : Turn) :
      Withholds t (ids.foldl (fun t c => t.completeOpenOrDefer error c) t) := by
    induction ids generalizing t with
    | nil => exact refl t
    | cons c ids ih => exact (hone t c).trans (ih _)
  exact (update t _).trans (hloop _ _)

theorem requestClose (t : Turn) (reason : GenerationCloseReason) (barrier : CloseBarrier) :
    Withholds t (t.requestClose reason barrier) := by
  unfold Turn.requestClose
  dsimp only
  split
  · exact update t _
  · exact ((update t _).trans (update _ _)).trans (push _ rfl)

theorem endGeneration (t : Turn) (reason : GenerationCloseReason) :
    Withholds t (t.endGeneration reason) :=
  (completeAll t _).trans (requestClose _ _ _)

theorem emitCompletion (t : Turn) (c : CommandId) (result : CoreCommandResult) :
    Withholds t (t.emitCompletion c result) := by
  unfold Turn.emitCompletion
  split
  · exact settle t c result
  · exact endGeneration t _

theorem completeError (t : Turn) (c : CommandId) (error : OperationError) :
    Withholds t (t.completeError c error) := by
  unfold Turn.completeError
  split
  · exact endGeneration t _
  · exact emitCompletion t c _

theorem completeControl (t : Turn) (c : CommandId) (result : Except OperationError Unit) :
    Withholds t (t.completeControl c result) := by
  unfold Turn.completeControl
  split
  · exact endGeneration t _
  · exact emitCompletion t c _

theorem completeRequest (t : Turn) (c : CommandId)
    (result : Except OperationError MatchedSecondary) :
    Withholds t (t.completeRequest c result) := by
  unfold Turn.completeRequest
  split
  · exact endGeneration t _
  · exact emitCompletion t c _

theorem sendFrame (t : Turn) (w : WriteId) (write : PendingWrite) (message : ProtocolMessage) :
    Withholds t (t.sendFrame w write message) := (update t _).trans (push _ rfl)

theorem sendResponse (t : Turn) (message : ControlMessage) :
    Withholds t (t.sendResponse message) := by
  unfold Turn.sendResponse
  split
  · exact endGeneration t _
  · next core _ => exact (of_eq rfl : Withholds t { t with core := core }).trans (sendFrame _ _ _ _)

theorem allocateRequestIdentifiers (t : Turn) : Withholds t t.allocateRequestIdentifiers.1 := by
  unfold Turn.allocateRequestIdentifiers
  split
  · exact endGeneration t _
  · split
    · exact endGeneration t _
    · split
      · exact refl t
      · split
        · exact of_eq rfl
        · exact of_eq rfl

theorem startTransaction (t : Turn) (kind : TransactionKind) (c : Option CommandId) :
    Withholds t (t.startTransaction kind c) := by
  have hallocate := allocateRequestIdentifiers t
  unfold Turn.startTransaction
  split
  · next heq =>
    rw [heq] at hallocate
    exact hallocate
  · next heq =>
    rw [heq] at hallocate
    exact (hallocate.trans (update _ _)).trans (sendFrame _ _ _ _)

theorem progressDeselect (t : Turn) (now : MonoTime) : Withholds t (t.progressDeselect now) := by
  unfold Turn.progressDeselect
  split
  · exact refl t
  · split
    · exact refl t
    · split
      · exact (update t _).trans (completeError _ _ _)
      · split
        · exact (update t _).trans (completeControl _ _ _)
        · split
          · exact (update t _).trans (startTransaction _ _ _)
          · exact refl t

theorem receiveData (t : Turn) (message : DataMessage) : Withholds t (t.receiveData message).1 := by
  unfold Turn.receiveData
  dsimp only
  split
  · exact refl t
  · split
    · exact refl t
    · exact (update t _).trans (completeRequest _ _ _)
    · exact (update t _).trans (completeRequest _ _ _)

end Withholds

/-- The delivery of a Data frame, if it is one. -/
theorem receiveInboundData_delivers (t : Turn) (message : DataMessage) :
    Withholds t (t.receiveInboundData message) ∨ ∃ capability,
      (t.receiveInboundData message).actions = t.actions ++ [.deliverPrimary message
        capability] := by
  unfold receiveInboundData
  dsimp only
  split
  · exact Or.inl (.sendResponse t _)
  · split
    · exact Or.inl ((Withholds.receiveData t message).trans (.update _ _))
    · split
      · exact Or.inl (.endGeneration t _)
      · split
        · split
          · exact Or.inl (.endGeneration t _)
          · split
            · exact Or.inl (.endGeneration t _)
            · exact Or.inr ⟨_, rfl⟩
        · exact Or.inr ⟨_, rfl⟩

end Turn

namespace SessionCore

/-- A Primary is delivered in the round that receives it. -/
theorem received_of_delivery {core : SessionCore} (hc : Coherent none core) {input : Input}
    {primary : DataMessage} {capability : Option ReplyCapabilityId}
    (hmem : .deliverPrimary primary capability ∈ (core.handle input).actions) :
    ∃ now, input = .message (.data primary) now := by
  obtain ⟨before, after, past, actions, later, -, he, -, hmem, -⟩ :=
    (steps_handle hc input).exists_of_mem hmem
  cases he.authority with
  | shrinks _ _ _ _ undelivered _ => cases undelivered _ hmem
  | deliversOneWay received _ actions _ _ _ _ _ =>
    rw [actions, List.mem_singleton] at hmem
    obtain ⟨rfl, -⟩ := CoreAction.deliverPrimary.inj hmem
    exact ⟨_, received⟩
  | delivers received _ _ _ _ actions _ _ _ _ _ _ _ =>
    rw [actions, List.mem_singleton] at hmem
    obtain ⟨rfl, -⟩ := CoreAction.deliverPrimary.inj hmem
    exact ⟨_, received⟩
  | answers _ _ _ _ _ actions _ =>
    rw [actions, List.mem_singleton] at hmem
    cases hmem

/-- The round of a Data frame. -/
theorem onMessage_delivers (core : SessionCore) (message : DataMessage) (now : MonoTime) :
    deliveries (core.onMessage (.data message) now).actions = [] ∨
      core.AcceptsTime now ∧ ∃ capability rest,
        (core.onMessage (.data message) now).actions = .deliverPrimary message capability :: rest ∧
          deliveries rest = [] := by
  have hnone {t : Turn} (h : Turn.Withholds (Turn.start core) t) : deliveries t.actions = [] := by
    obtain ⟨actions, heq, hactions⟩ := h
    rw [heq]
    exact hactions
  have hbase : Turn.Withholds (Turn.start core) (Turn.start { core with notice := none }) :=
    .of_eq rfl
  unfold onMessage
  rcases (Turn.start { core with notice := none }).acceptTime_cases now with ⟨-, heq⟩ | ⟨haccepts,
    heq⟩
  · rw [heq]
    exact Or.inl (hnone (hbase.trans (.endGeneration _ _)))
  · rw [heq]
    refine Or.imp_right (fun hdelivers => ⟨haccepts, hdelivers⟩) ?_
    dsimp only
    generalize hobserved : (Turn.start { core with notice := none }).update
      (fun core => { core with lastNow := some now }) = t
    have ht : t.actions = [] := by rw [← hobserved]; rfl
    split
    · rw [ht]
      exact Or.inl rfl
    · rcases t.recordActivity_cases now with ⟨-, _, _, hrec⟩ | ⟨_, hrec⟩
      · have hempty : (t.recordActivity now).actions = [] := by rw [hrec]; exact ht
        split
        · rw [hempty]
          exact Or.inl rfl
        · generalize t.recordActivity now = t₁ at hempty ⊢
          obtain ⟨rest, hrest, hrestnone⟩ :=
            Turn.Withholds.progressDeselect (t₁.receiveInboundData message) now
          show deliveries ((t₁.receiveInboundData message).progressDeselect now).actions = [] ∨
              ∃ capability rest,
            ((t₁.receiveInboundData message).progressDeselect now).actions =
              .deliverPrimary message capability :: rest ∧ deliveries rest = []
          rcases t₁.receiveInboundData_delivers message with ⟨actions, hactions,
            hactionsnone⟩ | ⟨capability, hactions⟩
          · refine Or.inl ?_
            rw [hrest, hactions, hempty, List.nil_append, deliveries_append, hactionsnone,
              hrestnone]
            rfl
          · refine Or.inr ⟨capability, rest, ?_, hrestnone⟩
            rw [hrest, hactions, hempty]
            rfl
      · have hclosed : (t.recordActivity now).core.closing = true := by
          rw [hrec]
          exact Turn.endGeneration_closing _ .runtimeInvariant
        rw [if_pos hclosed, hrec]
        obtain ⟨actions, hactions, hactionsnone⟩ := Turn.Withholds.endGeneration
          ((t.update _).noteOverflow) .runtimeInvariant
        refine Or.inl ?_
        show deliveries (Turn.endGeneration _ .runtimeInvariant).actions = []
        rw [hactions]
        show deliveries (t.actions ++ actions) = []
        rw [ht]
        exact hactionsnone

/-- **A round delivers nothing, or the Primary that it has received, and that first.** -/
theorem deliveries_handle {core : SessionCore} (hc : Coherent none core) (input : Input) :
    deliveries (core.handle input).actions = [] ∨ ∃ message capability now rest,
      input = .message (.data message) now ∧ core.AcceptsTime now ∧
        (core.handle input).actions = .deliverPrimary message capability :: rest ∧
          deliveries rest = [] := by
  by_cases h : ∃ message capability,
    .deliverPrimary message capability ∈ (core.handle input).actions
  · obtain ⟨message, capability, hmem⟩ := h
    obtain ⟨now, rfl⟩ := received_of_delivery hc hmem
    refine (core.onMessage_delivers message now).imp_right ?_
    rintro ⟨haccepts, capability, rest, hactions, hrest⟩
    exact ⟨message, capability, now, rest, rfl, haccepts, hactions, hrest⟩
  · exact Or.inl (deliveries_eq_nil fun message capability hmem => h ⟨message, capability, hmem⟩)

end SessionCore

end Hsms
end SecsRust

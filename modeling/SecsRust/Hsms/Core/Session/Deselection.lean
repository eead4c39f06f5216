import SecsRust.Hsms.Core.Session.Procedure

/-!
# Deselection and Data traffic

A local Deselect first drains the Data obligations and only then asks the peer.  From its
request to the end of its transaction no Data frame leaves: `replies_blocked` refuses
commands and replies alike, and the request itself is only sent when nothing is in use.

Two statements are proved.  The one is about the round of the request: no Data frame is sent
in it, neither before the request nor after it.  The other is about every later round until
the transaction ends or the generation closes: no Data frame is sent in these either.

Within one round the two are kept apart by the write of the Data frame, which is still
pending when the round could ask for the Deselect (`Effect.sendsData`, `Effect.deselects`),
and by the transaction of the Deselect, which blocks the frames after it.  Between rounds
the transaction alone does it.  That the transaction is still the same one is `Procedure`:
the slot is not emptied and filled again in one round.

The accepted Deselect of the peer is treated beside it.  It is only accepted where no Data
obligation is left, and it makes the session NotSelected in the same round, so there is no
span of time in which Data could leave.
-/

namespace SecsRust
namespace Hsms

open Std Secs2 SessionCore

/-- The action sends a Data message. -/
def CoreAction.sendsData : CoreAction → Bool
  | .sendFrame _ (.data _) => true
  | .sendFrame _ (.control _) | .deliverPrimary .. | .sessionStateChanged _ | .completeCommand ..
  | .closeGeneration .. => false

/-- The System Bytes of the Deselect that an action requests. -/
def CoreAction.deselects : CoreAction → Option SystemBytes
  | .sendFrame _ (.control (.deselectRequest _ systemBytes)) => some systemBytes
  | _ => none

/-- The Deselect transaction with these System Bytes is active. -/
def SessionCore.Deselecting (core : SessionCore) (systemBytes : SystemBytes) : Prop :=
  ∃ transaction, core.activeTransaction = some transaction ∧ transaction.kind = .deselect ∧
    transaction.systemBytes = systemBytes

theorem SessionCore.Deselecting.repliesBlocked {core : SessionCore} {systemBytes : SystemBytes}
    (h : core.Deselecting systemBytes) : core.repliesBlocked = true := by
  obtain ⟨transaction, hactive, hkind, -⟩ := h
  unfold SessionCore.repliesBlocked
  rw [hactive]
  exact decide_eq_true hkind

theorem sendsData_of_isData {a : CoreAction} (h : a.isData = false) : a.sendsData = false := by
  cases a with
  | sendFrame w message => cases message <;> first | rfl | cases h
  | _ => rfl

theorem deselects_of_isCompletion {a : CoreAction} (h : a.isCompletion = true) :
    a.deselects = none := by
  cases a <;> first | rfl | cases h

/-! ## What one effect sends -/

/-- **A Data frame** is sent for a command or a reply of this round, while no Deselect is active,
and leaves a write behind. -/
theorem Effect.sendsData {origin : SessionCore} {input : Input} {stage stage' : Stage}
    {actions : List CoreAction} (he : Effect origin input stage actions stage') {a : CoreAction}
    (hmem : a ∈ actions) (hdata : a.sendsData = true) :
    stage.core.closing = false ∧ origin.repliesBlocked = false ∧ stage.core.repliesBlocked = false ∧
      (∀ w, ¬ input.Targets w) ∧
      (∃ w kind, stage'.core.writeKind w = some kind ∧ kind.isData = true) ∧
      ∀ b ∈ actions, b.deselects = none := by
  have hno : a.isData = false → False := fun h => by
    rw [sendsData_of_isData h] at hdata
    cases hdata
  have hone {w : WriteId} {message : DataMessage} :
      ∀ b ∈ [CoreAction.sendFrame w (.data message)], b.deselects = none := fun b hb => by
    rw [List.mem_singleton.mp hb]
    rfl
  cases he with
  | ended _ _ _ _ _ => exact (hno (isData_of_mem_end hmem)).elim
  | lostWrite _ _ _ _ _ _ => exact (hno (isData_of_mem_end hmem)).elim
  | admissionClosed _ _ _ _ _ =>
    rcases List.mem_append.mp hmem with hmem | hmem
    · exact (hno (CoreAction.isData_of_isCompletion (isCompletion_of_mem_loss hmem))).elim
    · cases List.mem_singleton.mp hmem
      cases hdata
  | abandonWrites _ _ _ =>
    exact (hno (CoreAction.isData_of_isCompletion (isCompletion_of_mem_abandonments hmem))).elim
  | loseCommands _ _ _ =>
    exact (hno (CoreAction.isData_of_isCompletion (isCompletion_of_mem_loss hmem))).elim
  | separate _ _ _ _ _ _ _ _ =>
    rcases List.mem_append.mp hmem with hmem | hmem
    · exact (hno (CoreAction.isData_of_isCompletion (isCompletion_of_mem_separate hmem))).elim
    · simp only [List.mem_cons, List.not_mem_nil, or_false] at hmem
      rcases hmem with rfl | rfl | rfl <;> cases hdata
  | peerSeparate _ _ _ _ _ =>
    rcases List.mem_append.mp hmem with hmem | hmem
    · exact (hno (CoreAction.isData_of_isCompletion (isCompletion_of_mem_separate hmem))).elim
    · simp only [List.mem_cons, List.not_mem_nil, or_false] at hmem
      rcases hmem with rfl | rfl <;> cases hdata
  | retireControl _ _ _ =>
    exact (hno (CoreAction.isData_of_isCompletion (isCompletion_of_mem_control hmem))).elim
  | failWrite _ _ _ =>
    obtain ⟨c, -, hc⟩ := List.mem_filterMap.mp hmem
    obtain ⟨kind, -, rfl⟩ := Option.map_eq_some_iff.mp hc
    cases hdata
  | @sendRequest s _ c w sb now primary received _ live _ _ unblocked _ _ =>
    subst received
    refine ⟨live, unblocked.1, unblocked.2, fun _ h => h, ⟨w, .dataRequest sb, ?_, rfl⟩, hone⟩
    exact (writeKind_trackWrite w w _).trans (if_pos rfl)
  | @sendPrimary s _ c w sb now primary received _ live _ _ unblocked _ _ =>
    subst received
    refine ⟨live, unblocked.1, unblocked.2, fun _ h => h,
      ⟨w, .dataSend ⟨s.config.sessionId, sb⟩, ?_, rfl⟩, hone⟩
    exact (writeKind_trackWrite w w _).trans (if_pos rfl)
  | @sendReply s _ c capability header w function body _ live _ _ unblocked _ cause =>
    refine ⟨live, unblocked.1, unblocked.2, ?_,
      ⟨w, .dataSend ⟨header.sessionId, header.systemBytes⟩, ?_, rfl⟩, hone⟩
    · intro w h
      cases cause with
      | secondary reply _ => rw [reply] at h; exact h
      | abort reply => rw [reply] at h; exact h
    · exact (writeKind_trackWrite w w _).trans (if_pos rfl)
  | tick _ | observe _ _ _ | startDrain _ _ _ _ _ _ _ | commitControl _ _ _ _ _
  | commitRequest _ _ _ _ _
  | commitSilently _ _ _ => cases hmem
  | lateAnnounce _ | lateControl _ _ _ _ | connect _ _ _ _ _ | selected _ _ _
  | deselected _ _ _ _ _ _
  | respond _ _ _ _ _ _ | refuse _ _ _ | endDrain _ _ _ | startControl _ _ _ _ _ _ _ _ _ _
  | startDeselection _ _ _ _ _ | retireRequest _ _ _ | rejectSend _ _ _ _ _ _
  | deliver _ _ _ _ _ _ _ _ _
  | deliverOneWay _ _ _ _ _ _ | spendContract _ _ _ _ _ _ | commitCommand _ _ _ _ =>
    cases List.mem_singleton.mp hmem
    cases hdata

/-- **A Deselect is requested** only when nothing is in use.  The drain waits until then, and the
request is what ends the waiting. -/
theorem Effect.deselects {origin : SessionCore} {input : Input} {stage stage' : Stage}
    {actions : List CoreAction} (he : Effect origin input stage actions stage') {a : CoreAction}
    {sb : SystemBytes} (hmem : a ∈ actions) (hrequest : a.deselects = some sb) :
    stage.core.dataInUse = false := by
  have hno : a.isCompletion = true → False := fun h => by
    rw [deselects_of_isCompletion h] at hrequest
    cases hrequest
  cases he with
  | ended _ _ _ _ _ =>
    rcases List.mem_append.mp hmem with hmem | hmem
    · exact (hno (isCompletion_of_mem_loss hmem)).elim
    · split at hmem
      · cases hmem
      · cases List.mem_singleton.mp hmem
        cases hrequest
  | lostWrite _ _ _ _ _ _ =>
    rcases List.mem_append.mp hmem with hmem | hmem
    · exact (hno (isCompletion_of_mem_loss hmem)).elim
    · split at hmem
      · cases hmem
      · cases List.mem_singleton.mp hmem
        cases hrequest
  | admissionClosed _ _ _ _ _ =>
    rcases List.mem_append.mp hmem with hmem | hmem
    · exact (hno (isCompletion_of_mem_loss hmem)).elim
    · cases List.mem_singleton.mp hmem
      cases hrequest
  | abandonWrites _ _ _ => exact (hno (isCompletion_of_mem_abandonments hmem)).elim
  | loseCommands _ _ _ => exact (hno (isCompletion_of_mem_loss hmem)).elim
  | separate _ _ _ _ _ _ _ _ =>
    rcases List.mem_append.mp hmem with hmem | hmem
    · exact (hno (isCompletion_of_mem_separate hmem)).elim
    · simp only [List.mem_cons, List.not_mem_nil, or_false] at hmem
      rcases hmem with rfl | rfl | rfl <;> cases hrequest
  | peerSeparate _ _ _ _ _ =>
    rcases List.mem_append.mp hmem with hmem | hmem
    · exact (hno (isCompletion_of_mem_separate hmem)).elim
    · simp only [List.mem_cons, List.not_mem_nil, or_false] at hmem
      rcases hmem with rfl | rfl <;> cases hrequest
  | retireControl _ _ _ => exact (hno (isCompletion_of_mem_control hmem)).elim
  | failWrite _ _ _ =>
    obtain ⟨c, -, hc⟩ := List.mem_filterMap.mp hmem
    obtain ⟨kind, -, rfl⟩ := Option.map_eq_some_iff.mp hc
    cases hrequest
  | startDeselection _ _ _ quiet _ =>
    cases List.mem_singleton.mp hmem
    cases hrequest
    exact quiet
  | startControl kind other _ _ _ _ _ _ _ _ =>
    cases List.mem_singleton.mp hmem
    cases kind with
    | deselect => exact absurd rfl other
    | select | linktest => cases hrequest
  | respond message _ _ _ response _ =>
    cases List.mem_singleton.mp hmem
    cases message with
    | deselectRequest _ _ => cases response
    | _ => cases hrequest
  | tick _ | observe _ _ _ | startDrain _ _ _ _ _ _ _ | commitControl _ _ _ _ _
  | commitRequest _ _ _ _ _
  | commitSilently _ _ _ => cases hmem
  | lateAnnounce _ | lateControl _ _ _ _ | connect _ _ _ _ _ | selected _ _ _
  | deselected _ _ _ _ _ _
  | refuse _ _ _ | endDrain _ _ _ | sendRequest _ _ _ _ _ _ _ _ _ | sendPrimary _ _ _ _ _ _ _ _ _
  | sendReply _ _ _ _ _ _ _ | retireRequest _ _ _ | rejectSend _ _ _ _ _ _
  | deliver _ _ _ _ _ _ _ _ _
  | deliverOneWay _ _ _ _ _ _ | spendContract _ _ _ _ _ _ | commitCommand _ _ _ _ =>
    cases List.mem_singleton.mp hmem
    cases hrequest

/-! ## What one round sends -/

/-- A requested Deselect is active from then on, unless the Core closes. -/
theorem Exclusive.deselecting {origin core : SessionCore} {past : List CoreAction}
    (h : Exclusive origin past core) {a : CoreAction} {sb : SystemBytes} (ha : a ∈ past)
    (hrequest : a.deselects = some sb) : core.closing = true ∨ core.Deselecting sb := by
  obtain ⟨sessionId, hmem⟩ : ∃ sessionId, .deselectRequest sessionId sb ∈ controlRequests past := by
    cases a with
    | sendFrame w message =>
      cases message with
      | data message => cases hrequest
      | control message =>
        cases message with
        | deselectRequest sessionId systemBytes =>
          cases hrequest
          refine ⟨sessionId, List.mem_filterMap.mpr ⟨(w, _), List.mem_filterMap.mpr ⟨_, ha, rfl⟩,
            rfl⟩⟩
        | _ => cases hrequest
    | _ => cases hrequest
  rcases h.requests with hnone | ⟨-, transaction, hone, hholds⟩
  · rw [hnone] at hmem
    cases hmem
  · rw [hone] at hmem
    refine hholds.imp_right fun hcontrol => ?_
    obtain ⟨held, hactive, hidentity⟩ := Option.map_eq_some_iff.mp hcontrol
    have hsameKind := congrArg ControlTransaction.kind hidentity
    have hsameBytes := congrArg ControlTransaction.systemBytes hidentity
    have hmessage := List.mem_singleton.mp hmem
    cases hkind : transaction.kind with
    | deselect =>
      rw [hkind] at hmessage
      refine ⟨held, hactive, hsameKind.trans hkind, hsameBytes.trans ?_⟩
      exact (ControlMessage.deselectRequest.inj hmessage).2.symm
    | select | linktest =>
      rw [hkind] at hmessage
      cases hmessage

/-- A round that has sent a Data frame has not requested a Deselect, and the write of the frame is
still pending. -/
def Apart (input : Input) (past : List CoreAction) (core : SessionCore) : Prop :=
  (∃ a ∈ past, a.sendsData = true) → (∀ w, ¬ input.Targets w) ∧ (∀ b ∈ past, b.deselects = none) ∧
    ∃ w kind, core.writeKind w = some kind ∧ kind.isData = true

/-- A pending Data write keeps Data in use. -/
theorem dataInUse_of_writeKind {core : SessionCore} {w : WriteId} {kind : PendingWriteKind}
    (h : core.writeKind w = some kind) (hdata : kind.isData = true) : core.dataInUse = true := by
  refine Bool.eq_true_of_not_eq_false fun hquiet => ?_
  obtain ⟨write, hwrite, rfl⟩ := Option.map_eq_some_iff.mp h
  have hnone := (dataInUse_eq_false_iff.mp hquiet).1.2 w write hwrite
  rw [hdata] at hnone
  cases hnone

/-- A pending Data write stays, in a round that is not about any write. -/
theorem WriteStep.kept {input : Input} {before after : SessionCore} {actions : List CoreAction}
    (h : WriteStep input before after actions) (htargets : ∀ w, ¬ input.Targets w) {w : WriteId}
    {kind : PendingWriteKind} (hused : before.WriteUsed w)
    (hkind : before.writeKind w = some kind) :
    after.writeKind w = some kind := by
  cases h with
  | keeps _ _ _ kinds => exact (kinds w).trans hkind
  | sends v _ _ _ _ next _ _ kinds _ =>
    rw [kinds, if_neg]
    · exact hkind
    · rintro rfl
      exact absurd (hused v.raw next) (UInt64.lt_irrefl _)
  | resolves v _ _ _ _ targeted => exact absurd targeted (htargets v)
  | abandons _ _ _ _ finalize => exact absurd (by rw [finalize]; trivial) (htargets w)

theorem Apart.step {origin : SessionCore} {input : Input} {past actions : List CoreAction}
    {stage stage' : Stage} (h : Apart input past stage.core) (hc : Coherent stage.fresh stage.core)
    (hodd : stage.core.PrimaryContracts) (hexclusive : Exclusive origin past stage.core)
    (he : Effect origin input stage actions stage') :
    Apart input (past ++ actions) stage'.core := by
  rintro ⟨a, ha, hdata⟩
  rcases List.mem_append.mp ha with ha | ha
  · obtain ⟨htargets, hnone, w, kind, hkind, hisData⟩ := h ⟨a, ha, hdata⟩
    obtain ⟨write, hwrite, -⟩ := Option.map_eq_some_iff.mp hkind
    refine ⟨htargets, fun b hb => ?_, w, kind,
      (he.writeStep hodd).kept htargets (hc.write_used w write hwrite) hkind, hisData⟩
    rcases List.mem_append.mp hb with hb | hb
    · exact hnone b hb
    · refine Option.eq_none_iff_forall_ne_some.mpr fun sb hrequest => ?_
      have hquiet := he.deselects hb hrequest
      rw [dataInUse_of_writeKind hkind hisData] at hquiet
      cases hquiet
  · obtain ⟨hlive, -, hunblocked, htargets, hwrite, hsilent⟩ := he.sendsData ha hdata
    refine ⟨htargets, fun b hb => ?_, hwrite⟩
    rcases List.mem_append.mp hb with hb | hb
    · refine Option.eq_none_iff_forall_ne_some.mpr fun sb hrequest => ?_
      rcases hexclusive.deselecting hb hrequest with hclosing | hactive
      · exact not_closing hlive hclosing
      · rw [hactive.repliesBlocked] at hunblocked
        cases hunblocked
    · exact hsilent b hb

/-- **One round sends Data frames or requests a Deselect, not both**, and sends no Data frame if it
begins with a Deselect that is active. -/
theorem apart_handle {core : SessionCore} (hc : Coherent none core) (hodd : core.PrimaryContracts)
    (input : Input) : Apart input (core.handle input).actions (core.handle input).core ∧
      ∀ a ∈ (core.handle input).actions, a.sendsData = true → core.repliesBlocked = false := by
  have hround := (steps_handle hc input).accumulates_nil
    (I := fun past stage => Coherent stage.fresh stage.core ∧ stage.core.PrimaryContracts ∧
      Exclusive core past stage.core ∧ Apart input past stage.core)
    (fun past stage actions stage' hI he => ⟨he.coherent hI.1, he.authority.primaryContracts hI.2.1,
      hI.2.2.1.step hI.1 he, hI.2.2.2.step hI.1 hI.2.1 hI.2.2.1 he⟩)
    (by
      refine ⟨hc.entry input, ?_, ?_, fun ⟨a, ha, _⟩ => absurd ha List.not_mem_nil⟩
      · rw [entry_frame]
        exact hodd
      · rw [entry_frame]
        exact ⟨fun hlive hdrain => (hc.drain_alone hlive hdrain).1, Or.inl rfl⟩)
  refine ⟨hround.2.2.2, fun a ha hdata => ?_⟩
  obtain ⟨before, after, past, actions, later, -, he, -, hmem, -⟩ :=
    (steps_handle hc input).exists_of_mem ha
  exact (he.sendsData hmem hdata).2.1

/-! ## Runs -/

/-- The round of an input sends no Data frame. -/
def SessionCore.SendsNoData (core : SessionCore) (input : Input) : Prop :=
  ∀ w message, .sendFrame w (.data message) ∉ (core.handle input).actions

/-- No Data obligation is left, on either side.  With nothing in use a deselection can exclude
Data without breaking a promise. -/
structure SessionCore.Quiet (core : SessionCore) : Prop where
  dataTransactions : core.dataTransactions = ∅
  replyContracts : core.replyContracts = ∅
  pendingWrites : ∀ (w : WriteId) write, core.pendingWrites[w]? = some write →
    write.kind.isData = false

/-- **Deselection never overlaps Data traffic**, in every run.  From the request of a Deselect to
the end of its transaction no Data frame is sent: not in the round of the request, after which the
transaction is active or the Core is closing, and not in any later round that finds it so.  And a
connected Core that is neither Selected nor closing has no Request, reply contract or Data write. -/
theorem deselection_excludes_data (config : SessionCoreConfig) (nextWriteId : Option UInt64)
    (nextSystemBytes : Option UInt32) (inputs : List Input) :
    let at_ := machine.after (SessionCore.initial config nextWriteId nextSystemBytes)
    (∀ earlier input rest, inputs = earlier ++ input :: rest → ∀ w sb,
      .sendFrame w (.control (.deselectRequest controlSessionId sb)) ∈
        ((at_ earlier).handle input).actions →
        (at_ earlier).SendsNoData input ∧
        ((at_ (earlier ++ [input])).Deselecting sb ∨ (at_ (earlier ++ [input])).closing = true) ∧
        ∀ middle input' later, rest = middle ++ input' :: later →
          (at_ (earlier ++ input :: middle)).Deselecting sb ∨
            (at_ (earlier ++ input :: middle)).closing = true →
          (at_ (earlier ++ input :: middle)).SendsNoData input') ∧
    ((at_ inputs).state ≠ none → (at_ inputs).state ≠ some .selected →
      (at_ inputs).closing = false →
      (at_ inputs).Quiet) := by
  intro at_
  have hcoherent := coherent_run config nextWriteId nextSystemBytes
  have hodd := primaryContracts_run config nextWriteId nextSystemBytes
  refine ⟨fun earlier input rest _ w sb hrequest => ?_, fun _ hstate hlive => ?_⟩
  · have hround := apart_handle (hcoherent earlier) (hodd earlier) input
    have hafter : at_ (earlier ++ [input]) = ((at_ earlier).handle input).core :=
      machine.after_append_singleton _ _ _
    refine ⟨fun v message hdata => ?_, ?_, ?_⟩
    · have hnone := (hround.1 ⟨_, hdata, rfl⟩).2.1 _ hrequest
      cases hnone
    · rw [hafter]
      exact ((exclusive_handle (hcoherent earlier)).deselecting hrequest rfl).symm
    · rintro middle input' later - hheld v message hdata
      rcases hheld with hactive | hclosing
      · have hblocked := (apart_handle (hcoherent _) (hodd _) input').2 _ hdata rfl
        rw [hactive.repliesBlocked] at hblocked
        cases hblocked
      · have hnone : framesOf ((at_ (earlier ++ input :: middle)).handle input').actions = [] :=
          frames_of_closing (hcoherent _) (hodd _) hclosing
        have hmem : (v, .data message) ∈ framesOf
            ((at_ (earlier ++ input :: middle)).handle input').actions :=
          List.mem_filterMap.mpr ⟨_, hdata, rfl⟩
        rw [hnone] at hmem
        cases hmem
  · have hquiet := (hcoherent inputs).unselected_quiet hlive hstate
    exact ⟨hquiet.1.1, hquiet.2, hquiet.1.2⟩

end Hsms
end SecsRust

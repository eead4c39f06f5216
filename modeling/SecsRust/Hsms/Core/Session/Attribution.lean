import SecsRust.Hsms.Core.Session.Matching
import SecsRust.Hsms.Core.Session.Procedure

/-!
# Whom a peer Reject names

A Reject carries a session id and System Bytes, and the Core has to find the operation that
the peer refuses.  It looks in three places: at the active control transaction, at the live
Requests, and at the Sends whose writes are pending.  It acts where the three together name
exactly one operation.

## At most one of ours

The active control transaction has a session id of its own.  Live Requests and pending Sends
have System Bytes from the allocator, which uses none twice.  So among the operations that
originate here a Reject names at most one.  The argument is about the history rather than
about the tables: the System Bytes of our requests increase
(`Numbered.requests_increasing`), and every live Request and every pending Send of ours
belongs to one of these frames.

## Replies

A reply has the System Bytes of the Primary that it answers, and those are the choice of the
peer. While its write is pending it is a Send like any other, and a Reject may name it
together with a Request or a Send of ours, or with another reply.  Such a Reject is
ambiguous, and `receive_reject` then leaves everything alone and says so in a notice.

The last section follows an attributed Reject to the end of its round: the one target
completes with `PeerRejected`, and no other command is touched.
-/

namespace SecsRust
namespace Hsms

open Std Secs2 SessionCore

/-! ## The session of the control transaction -/

/-- A control transaction belongs to the control session. -/
def SessionCore.ControlSession (core : SessionCore) : Prop :=
  ∀ transaction, core.activeTransaction = some transaction →
    transaction.sessionId = controlSessionId

theorem Effect.controlSession {origin : SessionCore} {input : Input} {stage stage' : Stage}
    {actions : List CoreAction} (he : Effect origin input stage actions stage')
    (h : stage.core.ControlSession) : stage'.core.ControlSession := by
  have hidle {core : SessionCore} (hnone : core.activeTransaction = none) :
      core.ControlSession := by
    intro transaction hactive
    cases hnone.symm.trans hactive
  cases he with
  | ended _ _ _ _ done => exact hidle (by rw [done.frame])
  | lostWrite _ _ _ _ _ done => exact hidle (by rw [done.frame])
  | admissionClosed _ _ _ _ done => exact hidle (by rw [done.frame])
  | loseCommands _ _ done => exact hidle (by rw [done.frame])
  | abandonWrites _ _ done =>
    intro transaction hactive
    rw [done.frame] at hactive
    exact h transaction hactive
  | separate _ _ _ _ idle _ _ done =>
    refine hidle (Eq.trans ?_ idle)
    dsimp only [trackWrite, takeSystemBytes]
    rw [done.frame]
  | peerSeparate _ _ idle _ done =>
    refine hidle (Eq.trans ?_ idle)
    dsimp only
    rw [done.frame]
  | retireControl _ _ _ => exact hidle rfl
  | startControl _ _ _ _ _ _ _ _ _ _ | startDeselection _ _ _ _ _ =>
    intro transaction hactive
    cases hactive
    rfl
  | @commitControl _ _ _ _ transaction _ _ _ _ _ active _ _ =>
    intro armed hactive
    cases hactive
    exact h transaction active
  | @failWrite s _ w write _ _ _ _ =>
    intro transaction hactive
    dsimp only at hactive
    rw [release_frame] at hactive
    refine h transaction ?_
    cases hkind : write.kind with
    | transactionRequest =>
      rw [hkind] at hactive
      unfold removeTransactionForWrite at hactive
      dsimp only at hactive
      split at hactive
      · cases hactive
      · exact hactive
    | dataRequest sb =>
      rw [hkind] at hactive
      unfold removeTransactionForWrite at hactive
      dsimp only at hactive
      split at hactive <;> exact hactive
    | dataSend _ | response | separate =>
      rw [hkind] at hactive
      exact hactive
  | tick _ | observe _ _ _ | lateAnnounce _ | lateControl _ _ _ _ | connect _ _ _ _ _
  | selected _ _ _
  | deselected _ _ _ _ _ _ | respond _ _ _ _ _ _ | refuse _ _ _ | startDrain _ _ _ _ _ _ _
  | endDrain _ _ _
  | sendRequest _ _ _ _ _ _ _ _ _ | sendPrimary _ _ _ _ _ _ _ _ _ | retireRequest _ _ _
  | rejectSend _ _ _ _ _ _ | deliver _ _ _ _ _ _ _ _ _ | deliverOneWay _ _ _ _ _ _
  | spendContract _ _ _ _ _ _ | sendReply _ _ _ _ _ _ _ | commitRequest _ _ _ _ _
  | commitCommand _ _ _ _ | commitSilently _ _ _ => exact h

theorem controlSession_run (config : SessionCoreConfig) (nextWriteId : Option UInt64)
    (nextSystemBytes : Option UInt32) (inputs : List Input) :
    (machine.after (SessionCore.initial config nextWriteId nextSystemBytes)
      inputs).ControlSession := by
  have hrun := machine.invariant (I := fun core => Coherent none core ∧ core.ControlSession)
    (fun core input hI => by
      refine ⟨hI.1.handle input, ?_⟩
      refine (steps_handle hI.1 input).preserves (I := fun stage => stage.core.ControlSession)
        (fun _ _ _ hI he => he.controlSession hI) ?_
      rw [entry_frame]
      exact hI.2)
    ⟨coherent_initial config nextWriteId nextSystemBytes, nofun⟩ inputs
  exact hrun.2

/-! ## Requests of ours have System Bytes of their own -/

theorem eq_of_filterMap_pairwise {α β : Type} {f : α → Option β} {r : β → β → Prop}
    (hirrefl : ∀ b, ¬ r b b) {l : List α} (h : (l.filterMap f).Pairwise r) {a a' : α}
    {b : β} (ha : a ∈ l)
    (ha' : a' ∈ l) (hb : f a = some b) (hb' : f a' = some b) : a = a' := by
  induction l with
  | nil => cases ha
  | cons first rest ih =>
    have hrest : (rest.filterMap f).Pairwise r := by
      refine h.sublist ?_
      exact (List.sublist_cons_self first rest).filterMap f
    have hapart {other : α} (hother : other ∈ rest) (hfirst : f first = some b) (hsome :
        f other = some b) :
        False := by
      rw [List.filterMap_cons_some hfirst] at h
      exact hirrefl b (List.rel_of_pairwise_cons h (List.mem_filterMap.mpr ⟨other, hother, hsome⟩))
    rcases List.mem_cons.mp ha with hfirst | hlater
    · rcases List.mem_cons.mp ha' with hfirst' | hlater'
      · exact hfirst.trans hfirst'.symm
      · exact (hapart hlater' (hfirst ▸ hb) hb').elim
    · rcases List.mem_cons.mp ha' with hfirst' | hlater'
      · exact (hapart hlater (hfirst' ▸ hb') hb).elim
      · exact ih hrest hlater hlater'

/-- Two frames of ours with the same System Bytes are one. -/
theorem Numbered.frame_unique {past : List CoreAction} {core : SessionCore} (h : Numbered past core)
    {frame frame' : WriteId × ProtocolMessage} {sb : SystemBytes} (hframe : frame ∈ framesOf past)
    (hframe' : frame' ∈ framesOf past) (hbytes : frame.2.requestSystemBytes = some sb)
    (hbytes' : frame'.2.requestSystemBytes = some sb) : frame = frame' :=
  eq_of_filterMap_pairwise (fun b => UInt32.lt_irrefl b.raw) h.requests_increasing hframe hframe'
    hbytes hbytes'

/-- The frame of a live Request. -/
theorem Matched.exists_frame {core : SessionCore} {past : List (Input × CoreAction)}
    (h : Matched past core)
    {sb : SystemBytes} {transaction : DataTransaction}
    (hlive : core.dataTransactions[sb]? = some transaction) :
    ∃ w frame, (w, .data frame) ∈ framesOf (past.map Prod.snd) ∧ frame.header.replyExpected = true ∧
      ProtocolMessage.requestSystemBytes (.data frame) = some sb := by
  obtain ⟨frame, hfound, -, hbytes, hreply, hodd⟩ := h.asked sb transaction hlive
  refine ⟨transaction.writeId, frame, ?_, hreply, ?_⟩
  · obtain ⟨before, after, hsplit, -⟩ := List.lookup_eq_some_iff.mp hfound
    have hmem : (transaction.commandId, transaction.writeId,
        frame) ∈ past.filterMap requestFrame := by
      rw [← List.mem_reverse, hsplit]
      exact List.mem_append_right _ List.mem_cons_self
    obtain ⟨emission, hemission, hrequest⟩ := List.mem_filterMap.mp hmem
    refine List.mem_filterMap.mpr ⟨emission.2, List.mem_map_of_mem hemission, ?_⟩
    unfold requestFrame at hrequest
    split at hrequest
    · cases hrequest
      rfl
    · cases hrequest
  · show (if frame.header.function.raw % 2 = 1 then some frame.header.systemBytes else none) =
        some sb
    rw [if_pos hodd, hbytes]

/-! ## The targets of a Reject -/

/-- The target is a reply of ours whose write is still pending: a Send with an even function. -/
def RejectTarget.IsReply (past : List CoreAction) (core : SessionCore) (target : RejectTarget) :
    Prop :=
  ∃ w correlation c frame, target = .dataSend c ∧
    core.pendingWrites[w]? = some ⟨.dataSend correlation, some c⟩ ∧
      (w, .data frame) ∈ framesOf past ∧
    frame.header.function.raw % 2 = 0

section

variable {past : List CoreAction} {core : SessionCore} {sessionId : UInt16} {headerByte2 : UInt8}
  {reason : RejectReason} {systemBytes : SystemBytes}

/-- A Send that is no reply has System Bytes of ours. -/
theorem Numbered.exists_send (h : Numbered past core) {w : WriteId}
    {correlation : DataWriteCorrelation}
    {c : CommandId} (hpending : core.pendingWrites[w]? = some ⟨.dataSend correlation, some c⟩)
    (hours : ¬ (RejectTarget.dataSend c).IsReply past core) :
    ∃ frame, (w, .data frame) ∈ framesOf past ∧ frame.header.replyExpected = false ∧
      ProtocolMessage.requestSystemBytes (.data frame) = some correlation.systemBytes := by
  have hkind : core.writeKind w = some (.dataSend correlation) := by
    rw [writeKind, hpending]
    rfl
  obtain ⟨message, hframe, hfits⟩ := h.pending w _ hkind
  cases message with
  | control message => cases hfits
  | data frame =>
    obtain ⟨rfl, hreply⟩ := hfits
    refine ⟨frame, hframe, hreply, if_pos ?_⟩
    by_contra hnot
    have heven : frame.header.function.raw % 2 = 0 := by grind
    exact hours ⟨w, _, c, frame, rfl, hpending, hframe, heven⟩

theorem systemBytes_of_matches {own : SessionId} {sb : SystemBytes}
    (h : matchesDataReject own sb sessionId headerByte2 reason systemBytes = true) :
    own.raw = sessionId ∧ sb = systemBytes := by
  obtain ⟨hsession, hbytes, -⟩ := matchesDataReject_iff.mp h
  exact ⟨hsession, hbytes⟩

/-- **A Reject names at most one operation that is no reply.**  The System Bytes of what
originates here are used once, so two operations that a Reject names are the same one. -/
theorem rejectTargets_pairwise {labelled : List (Input × CoreAction)} (hc : Coherent none core)
    (hsession : core.ControlSession) (hmatched : Matched labelled core)
    (hnumbered : Numbered (labelled.map Prod.snd) core) :
    (Turn.rejectTargets core sessionId headerByte2 reason systemBytes).Pairwise fun a b =>
      a.IsReply (labelled.map Prod.snd) core ∨ b.IsReply (labelled.map Prod.snd) core := by
  refine List.pairwise_append.mpr ⟨List.pairwise_append.mpr ⟨?_, ?_, ?_⟩, ?_, ?_⟩
  · -- the control transaction alone
    unfold Turn.controlTargets
    split
    · exact List.Pairwise.nil
    · split
      · exact List.pairwise_singleton _ _
      · exact List.Pairwise.nil
  · -- two Requests with the same System Bytes
    refine List.pairwise_filterMap.mpr ?_
    refine (ExtTreeMap.distinct_keys_toList (t := core.dataTransactions)).imp_of_mem ?_
    rintro ⟨key, transaction⟩ ⟨key', transaction'⟩ hmem hmem' hne a ha b hb
    refine absurd ?_ hne
    rw [Option.ite_none_right_eq_some] at ha hb
    rw [← hc.request_key key transaction (TreeMap.mem_toList.mp hmem),
      ← hc.request_key key' transaction' (TreeMap.mem_toList.mp hmem'),
      (systemBytes_of_matches ha.1).2, (systemBytes_of_matches hb.1).2]
    exact Std.compare_self
  · -- a control transaction and a Request
    intro a ha b hb
    obtain ⟨control, hactive, hnames, -⟩ := Turn.mem_controlTargets.mp ha
    obtain ⟨key, transaction, -, hmatch, -⟩ := Turn.mem_requestTargets.mp hb
    obtain ⟨hown, -⟩ := of_decide_eq_true hnames
    have hcontrol : transaction.responseContract.sessionId.raw = controlSessionId :=
      (systemBytes_of_matches hmatch).1.trans (hown.symm.trans (hsession control hactive))
    exact absurd hcontrol transaction.responseContract.sessionId.unreserved
  · -- two Sends with the same System Bytes
    refine List.pairwise_filterMap.mpr ?_
    refine (ExtTreeMap.distinct_keys_toList (t := core.pendingWrites)).imp_of_mem ?_
    rintro ⟨w, kind, command⟩ ⟨w', kind', command'⟩ hmem hmem' hne a ha b hb
    cases kind with
    | dataSend correlation =>
      cases kind' with
      | dataSend correlation' =>
        cases command with
        | none => cases ha
        | some c =>
          cases command' with
          | none => cases hb
          | some c' =>
            rw [Option.ite_none_right_eq_some, Option.some.injEq] at ha hb
            obtain ⟨hmatch, rfl⟩ := ha
            obtain ⟨hmatch', rfl⟩ := hb
            by_contra hours
            rw [not_or] at hours
            obtain ⟨frame, hframe, -, hbytes⟩ :=
              hnumbered.exists_send (TreeMap.mem_toList.mp hmem) hours.1
            obtain ⟨frame', hframe', -, hbytes'⟩ :=
              hnumbered.exists_send (TreeMap.mem_toList.mp hmem') hours.2
            rw [(systemBytes_of_matches hmatch).2] at hbytes
            rw [(systemBytes_of_matches hmatch').2] at hbytes'
            have hone := hnumbered.frame_unique hframe hframe' hbytes hbytes'
            exact hne (by rw [congrArg Prod.fst hone]; exact Std.compare_self)
      | transactionRequest | dataRequest _ | response | separate => cases hb
    | transactionRequest | dataRequest _ | response | separate => cases ha
  · -- a Send and something else
    intro a ha b hb
    obtain ⟨w, correlation, c, hpending, hmatch, rfl⟩ := Turn.mem_sendTargets.mp hb
    by_contra hours
    rw [not_or] at hours
    obtain ⟨frame, hframe, hsend, hbytes⟩ := hnumbered.exists_send hpending hours.2
    rcases List.mem_append.mp ha with ha | ha
    · obtain ⟨control, hactive, hnames, -⟩ := Turn.mem_controlTargets.mp ha
      obtain ⟨hown, -⟩ := of_decide_eq_true hnames
      have hcontrol : correlation.sessionId.raw = controlSessionId :=
        (systemBytes_of_matches hmatch).1.trans (hown.symm.trans (hsession control hactive))
      exact correlation.sessionId.unreserved hcontrol
    · obtain ⟨key, transaction, hlive, hrequest, -⟩ := Turn.mem_requestTargets.mp ha
      obtain ⟨v, request, hasked, hreply, hkey⟩ := hmatched.exists_frame hlive
      rw [← hc.request_key key transaction hlive, (systemBytes_of_matches hrequest).2] at hkey
      rw [(systemBytes_of_matches hmatch).2] at hbytes
      have hone := hnumbered.frame_unique hframe hasked hbytes hkey
      have hsame : frame = request := ProtocolMessage.data.inj (congrArg Prod.snd hone)
      rw [hsame, hreply] at hsend
      cases hsend

end

/-! ## Attribution -/

/-- A Reject names a reply of ours whose write is still pending. -/
def SessionCore.NamesReply (past : List CoreAction) (core : SessionCore) (sessionId : UInt16)
    (headerByte2 : UInt8) (reason : RejectReason) (systemBytes : SystemBytes) : Prop :=
  ∃ target ∈ Turn.rejectTargets core sessionId headerByte2 reason systemBytes,
    target.IsReply past core

/-- A Reject that names a live Request and nothing else completes the Request. -/
theorem receiveReject_request {t : Turn} {sessionId : UInt16} {headerByte2 : UInt8}
    {reason : RejectReason}
    {systemBytes key : SystemBytes} {transaction : DataTransaction} (hc : Coherent none t.core)
    (hlive : t.core.dataTransactions[key]? = some transaction)
    (hnames : transaction.responseContract.matchesReject sessionId headerByte2 reason
      systemBytes = true)
    (hone : (Turn.rejectTargets t.core sessionId headerByte2 reason systemBytes).length ≤ 1) :
    (t.receiveReject sessionId headerByte2 reason systemBytes).1.actions = t.actions ++
      [.completeCommand transaction.commandId (.request (.error (.peerRejected reason)))] := by
  have hmem : RejectTarget.dataRequest transaction ∈
      Turn.rejectTargets t.core sessionId headerByte2 reason systemBytes := by
    refine List.mem_append_left _ (List.mem_append_right _ ?_)
    exact Turn.mem_requestTargets.mpr ⟨key, transaction, hlive, hnames, rfl⟩
  have hbase : reason.IsBaseStandard := (matchesDataReject_iff.mp hnames).2.2.1
  have hsingle :
      Turn.rejectTargets t.core sessionId headerByte2 reason
        systemBytes = [.dataRequest transaction] := by
    obtain ⟨target, htarget⟩ := List.length_eq_one_iff.mp
      (Nat.le_antisymm hone (List.length_pos_of_mem hmem))
    rw [htarget] at hmem ⊢
    rw [List.mem_singleton.mp hmem]
  have hopen : (t.retireTransaction transaction
      transaction.responseContract.systemBytes).core.openCommands[transaction.commandId]? =
        some .request :=
    hc.request_open _ transaction hlive
  unfold Turn.receiveReject
  rw [if_neg (not_not_intro hbase), hsingle]
  show ((t.retireTransaction transaction transaction.responseContract.systemBytes).completeError
    transaction.commandId (.peerRejected reason)).actions = _
  rw [Turn.completeError_of_open hopen]
  rfl

/-- The round of such a Reject completes the Request too. -/
theorem completes_rejected_request {core : SessionCore} {sessionId : UInt16} {headerByte2 : UInt8}
    {reason : RejectReason} {systemBytes key : SystemBytes} {transaction : DataTransaction}
    (hc : Coherent none core) (hlive : core.dataTransactions[key]? = some transaction)
    (hnames : transaction.responseContract.matchesReject sessionId headerByte2 reason
      systemBytes = true)
    (hone : (Turn.rejectTargets core sessionId headerByte2 reason systemBytes).length ≤ 1)
    {now : MonoTime}
    (haccepts : core.AcceptsTime now) (hfits : core.ActivityFits now) :
    .completeCommand transaction.commandId (.request (.error (.peerRejected reason))) ∈
      (core.handle (.message (.control
        (.rejectRequest sessionId headerByte2 reason systemBytes)) now)).actions := by
  have hopen : core.closing = false := by
    rw [← Bool.not_eq_true]
    intro hclosing
    rw [(hc.closing_empty hclosing).2, ExtTreeMap.getElem?_empty] at hlive
    cases hlive
  have hselected : core.state = some .selected := by
    by_contra hnot
    rw [(hc.unselected_quiet hopen hnot).1.1, ExtTreeMap.getElem?_empty] at hlive
    cases hlive
  obtain ⟨lastActivity, idleDeadline, heq⟩ := @onMessage_eq _
    (.control (.rejectRequest sessionId headerByte2 reason systemBytes)) _
    (by rw [hselected]; rfl) hopen haccepts hfits
  have hseen : Coherent none (Turn.start (core.observed now lastActivity idleDeadline)).core :=
    hc.observe rfl
  have hreceived := receiveReject_request hseen hlive hnames hone
  -- nothing that the round does afterwards takes an action back
  have hafter : Runs (core.observed now lastActivity idleDeadline)
      (.message (.control (.rejectRequest sessionId headerByte2 reason systemBytes)) now)
      (Turn.start (core.observed now lastActivity idleDeadline)) none
      ((Turn.start (core.observed now lastActivity idleDeadline)).receiveReject
        sessionId headerByte2 reason systemBytes).1 none :=
    Turn.runs_receiveReject rfl hseen hopen rfl
  have hnoticed : Coherent none (receive (Turn.start (core.observed now lastActivity idleDeadline))
      (.control (.rejectRequest sessionId headerByte2 reason systemBytes)) now).core :=
    (hafter.coherent hseen).observe rfl
  obtain ⟨later, hactions, -⟩ : Runs core
      (.message (.control (.rejectRequest sessionId headerByte2 reason systemBytes)) now)
      (receive (Turn.start (core.observed now lastActivity idleDeadline))
        (.control (.rejectRequest sessionId headerByte2 reason systemBytes)) now) none
      ((receive (Turn.start (core.observed now lastActivity idleDeadline))
        (.control (.rejectRequest sessionId headerByte2 reason systemBytes))
          now).progressDeselect now) none :=
    Turn.runs_progressDeselect hnoticed rfl
  show _ ∈ (core.onMessage _ now).actions
  rw [heq, hactions]
  refine List.mem_append_left _ ?_
  show _ ∈ ((Turn.start (core.observed now lastActivity idleDeadline)).receiveReject
    sessionId headerByte2 reason systemBytes).1.actions
  rw [hreceived]
  exact List.mem_append_right _ List.mem_cons_self

theorem receiveReject_ambiguous {t : Turn} {sessionId : UInt16} {headerByte2 : UInt8}
    {reason : RejectReason}
    {systemBytes : SystemBytes}
    (h : (t.receiveReject sessionId headerByte2 reason systemBytes).2 = .ambiguous) :
    (t.receiveReject sessionId headerByte2 reason systemBytes).1 = t ∧
      1 < (Turn.rejectTargets t.core sessionId headerByte2 reason systemBytes).length := by
  unfold Turn.receiveReject at h ⊢
  by_cases hbase : reason.IsBaseStandard
  · rw [if_neg (not_not_intro hbase)] at h ⊢
    cases htargets : Turn.rejectTargets t.core sessionId headerByte2 reason systemBytes with
    | nil =>
      rw [htargets] at h
      dsimp only at h
      split at h <;> cases h
    | cons target rest =>
      cases rest with
      | nil =>
        rw [htargets] at h
        rcases target with ⟨_, _ | _, _, _, _, _⟩ | _ | _ <;> cases h
      | cons second others => exact ⟨rfl, Nat.succ_lt_succ (Nat.succ_pos _)⟩
  · rw [if_pos hbase] at h
    cases h

/-- **A peer Reject names at most one operation that originates here.**  In every reachable Core at
most one target of a Reject is no reply with a pending write.  If there is no such reply among them,
the Reject is not ambiguous, and one that exactly names a live Request completes it; if the Reject
is ambiguous it changes nothing. -/
theorem reject_names_one_of_ours (config : SessionCoreConfig) (nextWriteId : Option UInt64)
    (nextSystemBytes : Option UInt32) (inputs : List Input) (sessionId : UInt16)
    (headerByte2 : UInt8)
    (reason : RejectReason) (systemBytes : SystemBytes) :
    let start := SessionCore.initial config nextWriteId nextSystemBytes
    let core := machine.after start inputs
    let past := machine.history start inputs
    let received := (Turn.start core).receiveReject sessionId headerByte2 reason systemBytes
    ((Turn.rejectTargets core sessionId headerByte2 reason systemBytes).Pairwise fun a b =>
      a.IsReply past core ∨ b.IsReply past core) ∧
    (¬ core.NamesReply past sessionId headerByte2 reason systemBytes →
      (Turn.rejectTargets core sessionId headerByte2 reason systemBytes).length ≤ 1 ∧
      received.2 ≠ .ambiguous ∧
      ∀ (key : SystemBytes) transaction, core.dataTransactions[key]? = some transaction →
        transaction.responseContract.matchesReject sessionId headerByte2 reason systemBytes = true →
        received.1.actions =
            [.completeCommand transaction.commandId (.request (.error (.peerRejected reason)))] ∧
          ∀ now, core.AcceptsTime now → core.ActivityFits now →
            .completeCommand transaction.commandId (.request (.error (.peerRejected reason))) ∈
              (core.handle (.message (.control
                (.rejectRequest sessionId headerByte2 reason systemBytes)) now)).actions) ∧
    (received.2 = .ambiguous → received.1 = Turn.start core) := by
  intro start core past received
  have hc : Coherent none core := coherent_run config nextWriteId nextSystemBytes inputs
  have hpast : (machine.labelled.history start inputs).map Prod.snd = past :=
    machine.map_snd_labelled_history start inputs
  have hpairwise : (Turn.rejectTargets core sessionId headerByte2 reason systemBytes).Pairwise
      fun a b =>
      a.IsReply past core ∨ b.IsReply past core := by
    rw [← hpast]
    refine rejectTargets_pairwise hc (controlSession_run config nextWriteId nextSystemBytes inputs)
      (matched_run config nextWriteId nextSystemBytes inputs) ?_
    rw [hpast]
    exact numbered_run config nextWriteId nextSystemBytes inputs
  refine ⟨hpairwise, fun hours => ?_, fun hambiguous => (receiveReject_ambiguous hambiguous).1⟩
  have hone : (Turn.rejectTargets core sessionId headerByte2 reason systemBytes).length ≤ 1 := by
    by_contra hmany
    refine hours ?_
    rcases List.pairwise_iff_getElem.mp hpairwise 0 1 (by omega)
      (by omega) Nat.zero_lt_one with hreply | hreply
    · exact ⟨_, List.getElem_mem _, hreply⟩
    · exact ⟨_, List.getElem_mem _, hreply⟩
  refine ⟨hone, fun hambiguous => ?_,
    fun key transaction hlive hnames => ⟨?_, fun now haccepts hfits => ?_⟩⟩
  · exact absurd (receiveReject_ambiguous hambiguous).2 (Nat.not_lt.mpr hone)
  · exact receiveReject_request hc hlive hnames hone
  · exact completes_rejected_request hc hlive hnames hone haccepts hfits

/-- A Request is live, and the reply to a Primary with its System Bytes is pending. -/
def Scenario.sharedSystemBytes : List Input :=
  Scenario.selected ++ [.command ⟨⟨1⟩, .request Scenario.request⟩ .zero,
    .message (.data (Scenario.primary 1 true 0)) .zero, .reply ⟨2⟩ ⟨0⟩ .secondary none .zero]

theorem pending_reply_makes_reject_ambiguous :
    let core := machine.after (SessionCore.new Scenario.config) Scenario.sharedSystemBytes
    let received := (Turn.start core).receiveReject 7 0 .transactionNotOpen ⟨0⟩
    (Turn.rejectTargets core 7 0 .transactionNotOpen ⟨0⟩).length = 2 ∧ received.2 = .ambiguous ∧
      core.dataTransactions.isEmpty = false ∧ received.1.actions = [] := by
  decide

end Hsms
end SecsRust

import SecsRust.Hsms.Core.Session.Authority
import SecsRust.Hsms.Core.Session.Revocation

/-!
# Frames, identifiers and pending writes

Every frame takes the next WriteId, and a request of ours takes the next System Bytes as
well. `WriteStep` says so for one effect, together with what the effect does to the pending
writes: it keeps them, adds the write of its frame, resolves the write that the input names,
or gives all of them up.

Over a run the WriteIds of the frames increase, the System Bytes of our requests do too
(`Numbered`), and a write is pending exactly if its frame was emitted and it has not been
consumed since.  The last point needs a look at the entry points: an input that names a
pending write and is accepted does consume it.  That is in `Writes`; here is what the
effects give without it.

Both identifier spaces may start anywhere and may run out.  Where one has run out the Core
ends the generation instead of wrapping, so the statements need no hypothesis about how many
identifiers are left: what has been emitted was emitted below the counter.
-/

namespace SecsRust
namespace Hsms

open Std Secs2 SessionCore

/-- The frame that a `SendFrame` action emits. -/
def CoreAction.frame : CoreAction → Option (WriteId × ProtocolMessage)
  | sendFrame writeId message => some (writeId, message)
  | deliverPrimary .. | sessionStateChanged _ | completeCommand .. | closeGeneration .. => none

/-- The System Bytes of a request that originates here: a control request or a Primary. -/
def ProtocolMessage.requestSystemBytes : ProtocolMessage → Option SystemBytes
  | .control (.selectRequest _ systemBytes) | .control (.deselectRequest _ systemBytes)
  | .control (.linktestRequest systemBytes) | .control (.separateRequest _ systemBytes) =>
    some systemBytes
  | .control (.selectResponse ..) | .control (.deselectResponse ..)
  | .control (.linktestResponse _) | .control (.rejectRequest ..) => none
  | .data message =>
    if message.header.function.raw % 2 = 1 then some message.header.systemBytes else none

/-- The write of a frame is tracked under the purpose of the frame. -/
def PendingWriteKind.Fits : PendingWriteKind → ProtocolMessage → Prop
  | .transactionRequest, .control message => ∃ kind systemBytes,
      message = Turn.requestMessage kind systemBytes
  | .separate, .control message => ∃ systemBytes,
      message = .separateRequest controlSessionId systemBytes
  | .response, .control message => message.isResponse = true
  | .dataRequest systemBytes, .data message => message.header.systemBytes = systemBytes ∧
      message.header.replyExpected = true ∧ message.header.function.raw % 2 = 1
  | .dataSend correlation, .data message =>
      correlation = ⟨message.header.sessionId, message.header.systemBytes⟩ ∧
        message.header.replyExpected = false
  | _, _ => False

/-- The input is about the write: it reports its outcome, its failed admission, or the end of the
Writer. -/
def Input.Targets : Input → WriteId → Prop
  | .writeOutcome writeId _ _ _, w => writeId = w
  | .shutdown _ (some writeId) _, w => writeId = w
  | .finalizeWriter _, _ => True
  | _, _ => False

namespace SessionCore

/-- The purpose of a pending write. -/
def writeKind (core : SessionCore) (w : WriteId) : Option PendingWriteKind :=
  core.pendingWrites[w]?.map PendingWrite.kind

/-- A frame takes the next System Bytes if it is a request of ours, and leaves them otherwise. -/
def TakesSystemBytes (before after : SessionCore) (message : ProtocolMessage) : Prop :=
  match message.requestSystemBytes with
  | none => after.nextSystemBytes = before.nextSystemBytes
  | some systemBytes => before.nextSystemBytes = some systemBytes.raw ∧
      after.nextSystemBytes = u32CheckedSucc systemBytes.raw

/-- The live reply contracts belong to Primaries. -/
def PrimaryContracts (core : SessionCore) : Prop :=
  ∀ (k : ReplyCapabilityId) header, core.replyContracts[k]? = some header →
    header.function.raw % 2 = 1

/-- The input consumes the write: it is about the write and its time is accepted. -/
def Consumes (core : SessionCore) (input : Input) (w : WriteId) : Prop :=
  match input with
  | .writeOutcome writeId _ occurredAt now =>
    writeId = w ∧ core.AcceptsTime now ∧ occurredAt ≤ now
  | .shutdown _ (some writeId) now => writeId = w ∧ core.AcceptsTime now
  | .finalizeWriter now => core.closing = true ∧ core.AcceptsTime now
  | _ => False

end SessionCore

/-! ## What one effect does to the writes -/

/-- The ways in which an effect treats frames and pending writes. -/
inductive WriteStep (input : Input) (before after : SessionCore) (actions : List CoreAction) :
    Prop where
  | keeps (frames : actions.filterMap CoreAction.frame = [])
      (writeId : after.nextWriteId = before.nextWriteId)
      (systemBytes : after.nextSystemBytes = before.nextSystemBytes)
      (kinds : ∀ w, after.writeKind w = before.writeKind w)
  | sends (w : WriteId) (message : ProtocolMessage) (kind : PendingWriteKind)
      (frames : actions.filterMap CoreAction.frame = [(w, message)])
      (live : before.closing = false) (next : before.nextWriteId = some w.raw)
      (advanced : after.nextWriteId = u64CheckedSucc w.raw)
      (systemBytes : before.TakesSystemBytes after message)
      (kinds : ∀ w', after.writeKind w' = if w = w' then some kind else before.writeKind w')
      (fits : kind.Fits message)
  | resolves (w : WriteId) (frames : actions.filterMap CoreAction.frame = [])
      (writeId : after.nextWriteId = before.nextWriteId)
      (systemBytes : after.nextSystemBytes = before.nextSystemBytes)
      (kinds : ∀ w', after.writeKind w' = if w = w' then none else before.writeKind w')
      (targeted : input.Targets w)
  | abandons {now : MonoTime} (frames : actions.filterMap CoreAction.frame = [])
      (writeId : after.nextWriteId = before.nextWriteId)
      (systemBytes : after.nextSystemBytes = before.nextSystemBytes)
      (kinds : ∀ w', after.writeKind w' = none) (finalize : input = .finalizeWriter now)

section

variable {core : SessionCore}

theorem writeKind_detach (c : CommandId) (w : WriteId) :
    (core.detach c).writeKind w = core.writeKind w := by
  rw [writeKind, getElem?_pendingWrites_detach, writeKind, Option.map_map]
  refine congrArg (fun f => Option.map f _) (funext fun write => ?_)
  simp only [Function.comp]
  split <;> rfl

theorem writeKind_release (c : Option CommandId) (w : WriteId) :
    (core.release c).writeKind w = core.writeKind w := by
  cases c with
  | none => rfl
  | some c => exact writeKind_detach c w

theorem writeKind_eraseWrite (w w' : WriteId) :
    (core.eraseWrite w).writeKind w' = if w = w' then none else core.writeKind w' := by
  rw [writeKind, eraseWrite_pendingWrites]
  split <;> rfl

theorem writeKind_trackWrite (w w' : WriteId) (write : PendingWrite) :
    (core.trackWrite w write).writeKind w' =
      if w = w' then some write.kind else core.writeKind w' := by
  have hlookup : (core.trackWrite w write).pendingWrites[w']? =
      if w = w' then some write else core.pendingWrites[w']? := TreeMap.getElem?_insert _ _ _
  rw [writeKind, hlookup]
  split <;> rfl

theorem writeKind_congr {after : SessionCore} (h : after.pendingWrites = core.pendingWrites)
    (w : WriteId) : after.writeKind w = core.writeKind w := by
  rw [writeKind, h, writeKind]

theorem frame_of_isCompletion {action : CoreAction} (h : action.isCompletion = true) :
    action.frame = none := by
  cases action <;> first | rfl | cases h

theorem frames_of_completions {actions : List CoreAction}
    (h : ∀ a ∈ actions, a.isCompletion = true) : actions.filterMap CoreAction.frame = [] :=
  List.filterMap_eq_nil_iff.mpr fun a ha => frame_of_isCompletion (h a ha)

theorem frames_endActions (reason : GenerationCloseReason) :
    (core.endActions reason).filterMap CoreAction.frame = [] := by
  unfold endActions
  rw [List.filterMap_append, frames_of_completions fun a ha => isCompletion_of_mem_loss ha]
  split <;> rfl

/-- A reply frame is no request of ours: its function is even. -/
theorem requestSystemBytes_reply {input : Input} {capability : ReplyCapabilityId}
    {header : DataHeader} {function : Function} {body : Option SecsItem}
    (hodd : header.function.raw % 2 = 1) (h : ReplyCause input capability header function body) :
    ProtocolMessage.requestSystemBytes (.data ⟨⟨header.sessionId, header.stream, function, false,
      header.systemBytes⟩, body⟩) = none := by
  have heven : ¬ function.raw % 2 = 1 := by
    cases h with
    | abort _ => decide
    | secondary _ successor =>
      unfold ResponseContract.succFunction at successor
      split at successor
      · cases successor
      · obtain rfl := Option.some.inj successor
        intro hsucc
        have h1 := congrArg UInt8.toNat hodd
        have h2 := congrArg UInt8.toNat hsucc
        simp only [UInt8.toNat_mod, UInt8.toNat_add, UInt8.reduceToNat] at h1 h2
        omega
  exact if_neg heven

end

/-- **What one effect does to frames and writes**, as long as the live contracts are Primaries. -/
theorem Effect.writeStep {origin : SessionCore} {input : Input} {stage stage' : Stage}
    {actions : List CoreAction} (he : Effect origin input stage actions stage')
    (hodd : stage.core.PrimaryContracts) :
    WriteStep input stage.core stage'.core actions := by
  cases he with
  | @ended s pre s' _ _ _ reason frame _ _ done =>
    have hpending : s'.pendingWrites = s.pendingWrites := by rw [done.frame, frame]
    exact .keeps (frames_endActions reason) (by rw [done.frame, frame])
      (by rw [done.frame, frame]) fun w => writeKind_congr hpending w
  | @lostWrite s pre s' _ _ w _ _ _ reason outcome _ _ frame done =>
    have hpending : s'.pendingWrites = (s.eraseWrite w).pendingWrites := by rw [done.frame, frame]
    refine .resolves w (frames_endActions reason) (by rw [done.frame, frame]; rfl)
      (by rw [done.frame, frame]; rfl) (fun w' => ?_) (show Input.Targets input w by
        rw [outcome]; rfl)
    exact (writeKind_congr hpending w').trans (writeKind_eraseWrite w w')
  | @admissionClosed s s' _ reason _ _ _ done =>
    have hpending : s'.pendingWrites = s.pendingWrites := by rw [done.frame]
    have hnext : s'.nextWriteId = s.nextWriteId := by rw [done.frame]
    have hbytes : s'.nextSystemBytes = s.nextSystemBytes := by rw [done.frame]
    refine .keeps ?_ hnext hbytes fun w => writeKind_congr hpending w
    rw [List.filterMap_append, frames_of_completions fun a ha => isCompletion_of_mem_loss ha]
    rfl
  | @abandonWrites s s' _ now finalize _ done =>
    refine .abandons (frames_of_completions fun a ha => isCompletion_of_mem_abandonments ha)
      (by rw [done.frame]) (by rw [done.frame]) (fun w' => ?_) finalize
    have hnone : s'.pendingWrites[w']? = none := by
      rw [done.frame]
      exact ExtTreeMap.getElem?_empty
    show s'.writeKind w' = none
    rw [writeKind, hnone]
    rfl
  | @loseCommands s s' _ _ _ _ done =>
    have hpending : s'.pendingWrites = s.pendingWrites := by rw [done.frame]
    exact .keeps (frames_of_completions fun a ha => isCompletion_of_mem_loss ha)
      (by rw [done.frame])
      (by rw [done.frame]) fun w => writeKind_congr hpending w
  | @separate s s' _ f w sb reason _ live _ _ _ next done =>
    have hpending : s'.pendingWrites = s.pendingWrites := by rw [done.frame]
    refine .sends w (.control (.separateRequest controlSessionId sb)) .separate ?_ live next.2 rfl
      ⟨next.1, rfl⟩ (fun w' => ?_) ⟨sb, rfl⟩
    · rw [List.filterMap_append, frames_of_completions fun a ha => isCompletion_of_mem_separate ha]
      rfl
    · refine (writeKind_trackWrite w w' _).trans ?_
      split
      · rfl
      · exact writeKind_congr hpending w'
  | @peerSeparate s s' _ _ _ _ _ done =>
    have hpending : s'.pendingWrites = s.pendingWrites := by rw [done.frame]
    refine .keeps ?_ (by rw [done.frame]) (by rw [done.frame]) fun w => writeKind_congr hpending w
    rw [List.filterMap_append, frames_of_completions fun a ha => isCompletion_of_mem_separate ha]
    rfl
  | @retireControl s _ f transaction _ _ _ _ =>
    refine .keeps (frames_of_completions fun a ha => isCompletion_of_mem_control ha) ?_ ?_ fun w =>
      writeKind_release _ w
    all_goals
      dsimp only
      rw [release_frame]
  | @failWrite s _ w write _ _ cause _ =>
    refine .resolves w (frames_of_completions fun a ha => ?_) ?_ ?_ (fun w' => ?_) ?_
    · obtain ⟨c, -, hc⟩ := List.mem_filterMap.mp ha
      obtain ⟨kind, -, rfl⟩ := Option.map_eq_some_iff.mp hc
      rfl
    · dsimp only
      rw [release_frame, removeTransactionForWrite_frame]
      rfl
    · dsimp only
      rw [release_frame, removeTransactionForWrite_frame]
      rfl
    · refine (writeKind_release _ w').trans (Eq.trans ?_ (writeKind_eraseWrite w w'))
      refine writeKind_congr ?_ w'
      rw [removeTransactionForWrite_frame]
    · cases cause with
      | notWritten outcome => rw [outcome]; rfl
      | indeterminate outcome => rw [outcome]; rfl
      | notAdmitted shutdown => rw [shutdown]; rfl
  -- a command leaves, or nothing that the writes read changes
  | lateControl _ _ _ _ | refuse _ _ _ | endDrain _ _ _ | retireRequest _ _ _
  | rejectSend _ _ _ _ _ _ | spendContract _ _ _ _ _ _ =>
    exact .keeps rfl rfl rfl fun w => writeKind_detach _ w
  | tick _ | observe _ _ _ | lateAnnounce _ | connect _ _ _ _ _ | selected _ _ _
  | deselected _ _ _ _ _ _ | startDrain _ _ _ _ _ _ _ | deliver _ _ _ _ _ _ _ _ _
  | deliverOneWay _ _ _ _ _ _ => exact .keeps rfl rfl rfl fun _ => rfl
  -- a frame
  | @respond s _ _ w message _ live next response _ =>
    refine .sends w (.control message) .response rfl live next rfl ?_
      (fun w' => writeKind_trackWrite w w' _)
      response
    cases message <;> first | rfl | cases response
  | @startControl s _ f w sb kind _ _ live _ _ _ next _ _ =>
    refine .sends w (.control (Turn.requestMessage kind sb)) .transactionRequest rfl live next.2 rfl
      ?_
      (fun w' => writeKind_trackWrite w w' _) ⟨kind, sb, rfl⟩
    cases kind <;> exact ⟨next.1, rfl⟩
  | @startDeselection s _ w sb drain _ live _ _ next =>
    exact .sends w (.control (Turn.requestMessage .deselect sb)) .transactionRequest rfl live next.2
      rfl ⟨next.1, rfl⟩
      (fun w' => writeKind_trackWrite w w' _) ⟨.deselect, sb, rfl⟩
  | @sendRequest s _ c w sb _ primary _ _ live _ _ _ odd next =>
    refine .sends w (.data _) (.dataRequest sb) rfl live next.2 rfl ?_
      (fun w' => writeKind_trackWrite w w' _) ⟨rfl, rfl, odd⟩
    rw [TakesSystemBytes, ProtocolMessage.requestSystemBytes, if_pos odd]
    exact ⟨next.1, rfl⟩
  | @sendPrimary s _ c w sb _ primary _ _ live _ _ _ odd next =>
    refine .sends w (.data _) (.dataSend ⟨s.config.sessionId, sb⟩) rfl live next.2 rfl ?_
      (fun w' => writeKind_trackWrite w w' _) ⟨rfl, rfl⟩
    rw [TakesSystemBytes, ProtocolMessage.requestSystemBytes, if_pos odd]
    exact ⟨next.1, rfl⟩
  | @sendReply s _ c capability header w function body _ live _ held _ next cause =>
    refine .sends w (.data _)
      (.dataSend ⟨header.sessionId, header.systemBytes⟩) rfl live next rfl ?_
      (fun w' => writeKind_trackWrite w w' _) ⟨rfl, rfl⟩
    rw [TakesSystemBytes, requestSystemBytes_reply (hodd capability header held) cause]
    rfl
  -- a write is resolved
  | @commitControl s _ w _ _ _ _ _ outcome _ _ _ _ =>
    exact .resolves w rfl rfl rfl (fun w' => writeKind_eraseWrite w w') (by rw [outcome]; rfl)
  | @commitRequest s _ w _ _ _ _ _ _ outcome _ _ _ _ =>
    exact .resolves w rfl rfl rfl (fun w' => writeKind_eraseWrite w w') (by rw [outcome]; rfl)
  | @commitCommand s _ w _ c _ _ _ outcome _ _ _ =>
    exact .resolves w rfl rfl rfl
      (fun w' => (writeKind_detach c w').trans (writeKind_eraseWrite w w')) (by rw [outcome]; rfl)
  | @commitSilently s _ w _ _ _ outcome _ _ =>
    exact .resolves w rfl rfl rfl (fun w' => writeKind_eraseWrite w w') (by rw [outcome]; rfl)

theorem AuthorityStep.primaryContracts {input : Input} {before after : SessionCore}
    {actions : List CoreAction} (h : AuthorityStep input before after actions)
    (hodd : before.PrimaryContracts) : after.PrimaryContracts := by
  intro k header hk
  cases h with
  | shrinks contracts _ _ _ _ _ => exact hodd k header (contracts k header hk)
  | deliversOneWay _ same _ _ _ _ _ _ => exact hodd k header (same ▸ hk)
  | delivers _ contracts _ _ _ _ _ _ _ odd _ _ _ =>
    rw [contracts, TreeMap.getElem?_insert] at hk
    split at hk
    · exact Option.some.inj hk ▸ odd
    · exact hodd k header hk
  | answers _ _ contracts _ _ _ _ =>
    rw [contracts, TreeMap.getElem?_erase] at hk
    split at hk
    · cases hk
    · exact hodd k header hk

/-! ## The history of frames -/

/-- The frames emitted so far, in order. -/
def framesOf (past : List CoreAction) : List (WriteId × ProtocolMessage) :=
  past.filterMap CoreAction.frame

/-- The System Bytes of the requests of ours emitted so far, in order. -/
def requestsOf (past : List CoreAction) : List SystemBytes :=
  (framesOf past).filterMap fun frame => frame.2.requestSystemBytes

/-- The frames so far are numbered: WriteIds and our System Bytes increase, both counters have
passed them, and every pending write belongs to a frame that fits it. -/
structure Numbered (past : List CoreAction) (core : SessionCore) : Prop where
  increasing : ((framesOf past).map Prod.fst).Pairwise fun w w' => w.raw < w'.raw
  used : ∀ frame ∈ framesOf past, core.WriteUsed frame.1
  requests_increasing : (requestsOf past).Pairwise fun sb sb' => sb.raw < sb'.raw
  requests_used : ∀ sb ∈ requestsOf past, core.SystemBytesUsed sb
  pending : ∀ w kind, core.writeKind w = some kind →
    ∃ message, (w, message) ∈ framesOf past ∧ kind.Fits message

section

variable {past actions : List CoreAction} {input : Input} {before after : SessionCore}

theorem framesOf_append : framesOf (past ++ actions) = framesOf past ++ framesOf actions :=
  List.filterMap_append

theorem requestsOf_append :
    requestsOf (past ++ actions) = requestsOf past ++ requestsOf actions := by
  rw [requestsOf, framesOf_append, List.filterMap_append]
  rfl

theorem requestsOf_eq_nil (h : framesOf actions = []) : requestsOf actions = [] := by
  rw [requestsOf, h]
  rfl

/-- A used WriteId stays used. -/
theorem WriteStep.writeUsed (h : WriteStep input before after actions) {w : WriteId}
    (hw : before.WriteUsed w) : after.WriteUsed w := by
  intro next hnext
  cases h with
  | keeps _ writeId _ _ => exact hw next (writeId ▸ hnext)
  | resolves _ _ writeId _ _ _ => exact hw next (writeId ▸ hnext)
  | abandons _ writeId _ _ _ => exact hw next (writeId ▸ hnext)
  | sends _ _ _ _ _ before_next advanced _ _ _ =>
    rw [advanced] at hnext
    exact UInt64.lt_trans (hw _ before_next) (lt_of_u64CheckedSucc hnext)

/-- Used System Bytes stay used. -/
theorem WriteStep.systemBytesUsed (h : WriteStep input before after actions) {sb : SystemBytes}
    (hsb : before.SystemBytesUsed sb) : after.SystemBytesUsed sb := by
  intro next hnext
  cases h with
  | keeps _ _ systemBytes _ => exact hsb next (systemBytes ▸ hnext)
  | resolves _ _ _ systemBytes _ _ => exact hsb next (systemBytes ▸ hnext)
  | abandons _ _ systemBytes _ _ => exact hsb next (systemBytes ▸ hnext)
  | sends _ message _ _ _ _ _ systemBytes _ _ =>
    unfold TakesSystemBytes at systemBytes
    cases hrequest : message.requestSystemBytes with
    | none =>
      rw [hrequest] at systemBytes
      exact hsb next (systemBytes ▸ hnext)
    | some taken =>
      rw [hrequest] at systemBytes
      obtain ⟨hbefore, hafter⟩ := systemBytes
      rw [hafter] at hnext
      exact UInt32.lt_trans (hsb _ hbefore) (lt_of_u32CheckedSucc hnext)

/-- An effect without a frame. -/
theorem Numbered.silent (h : Numbered past before) (hstep : WriteStep input before after actions)
    (hframes : framesOf actions = [])
    (hkinds : ∀ w kind, after.writeKind w = some kind → before.writeKind w = some kind) :
    Numbered (past ++ actions) after where
  increasing := by
    rw [framesOf_append, hframes, List.append_nil]
    exact h.increasing
  used := by
    rw [framesOf_append, hframes, List.append_nil]
    exact fun frame hframe => hstep.writeUsed (h.used frame hframe)
  requests_increasing := by
    rw [requestsOf_append, requestsOf_eq_nil hframes, List.append_nil]
    exact h.requests_increasing
  requests_used := by
    rw [requestsOf_append, requestsOf_eq_nil hframes, List.append_nil]
    exact fun sb hsb => hstep.systemBytesUsed (h.requests_used sb hsb)
  pending := by
    rw [framesOf_append, hframes, List.append_nil]
    exact fun w kind hw => h.pending w kind (hkinds w kind hw)

/-- An effect with a frame. -/
theorem Numbered.send {w : WriteId} {message : ProtocolMessage} {kind : PendingWriteKind}
    (h : Numbered past before) (hstep : WriteStep input before after actions)
    (hframes : framesOf actions = [(w, message)]) (hnext : before.nextWriteId = some w.raw)
    (hadvanced : after.nextWriteId = u64CheckedSucc w.raw)
    (hbytes : before.TakesSystemBytes after message)
    (hkinds : ∀ w', after.writeKind w' = if w = w' then some kind else before.writeKind w')
    (hfits : kind.Fits message) : Numbered (past ++ actions) after where
  increasing := by
    rw [framesOf_append, hframes, List.map_append, List.pairwise_append]
    refine ⟨h.increasing, List.pairwise_singleton _ _, fun a ha b hb => ?_⟩
    obtain ⟨frame, hframe, rfl⟩ := List.mem_map.mp ha
    rw [List.mem_singleton.mp hb]
    exact h.used frame hframe _ hnext
  used := by
    rw [framesOf_append, hframes]
    intro frame hframe
    rcases List.mem_append.mp hframe with hframe | hframe
    · exact hstep.writeUsed (h.used frame hframe)
    · rw [List.mem_singleton.mp hframe]
      intro next hsucc
      rw [hadvanced] at hsucc
      exact lt_of_u64CheckedSucc hsucc
  requests_increasing := by
    rw [requestsOf_append, List.pairwise_append]
    have hrequests : requestsOf actions = message.requestSystemBytes.toList := by
      rw [requestsOf, hframes]
      cases hrequest : message.requestSystemBytes <;> simp [hrequest]
    rw [hrequests]
    unfold TakesSystemBytes at hbytes
    cases hrequest : message.requestSystemBytes with
    | none => exact ⟨h.requests_increasing, List.Pairwise.nil, fun _ _ _ hb => by cases hb⟩
    | some taken =>
      rw [hrequest] at hbytes
      refine ⟨h.requests_increasing, List.pairwise_singleton _ _, fun a ha b hb => ?_⟩
      rw [List.mem_singleton.mp hb]
      exact h.requests_used a ha _ hbytes.1
  requests_used := by
    rw [requestsOf_append]
    intro sb hsb
    rcases List.mem_append.mp hsb with hsb | hsb
    · exact hstep.systemBytesUsed (h.requests_used sb hsb)
    · rw [requestsOf, hframes] at hsb
      obtain ⟨frame, hframe, hrequest⟩ := List.mem_filterMap.mp hsb
      rw [List.mem_singleton.mp hframe] at hrequest
      unfold TakesSystemBytes at hbytes
      rw [hrequest] at hbytes
      intro next hsucc
      rw [hbytes.2] at hsucc
      exact lt_of_u32CheckedSucc hsucc
  pending := by
    rw [framesOf_append, hframes]
    intro w' kind' hw'
    rw [hkinds] at hw'
    split at hw'
    · rename_i heq
      obtain rfl := Option.some.inj hw'
      exact ⟨message, List.mem_append_right _ (by rw [heq]; exact List.mem_singleton_self _), hfits⟩
    · obtain ⟨found, hmem, hfound⟩ := h.pending w' kind' hw'
      exact ⟨found, List.mem_append_left _ hmem, hfound⟩

theorem Numbered.step (h : Numbered past before) (hstep : WriteStep input before after actions) :
    Numbered (past ++ actions) after := by
  have hwrite := hstep
  cases hstep with
  | keeps frames _ _ kinds => exact h.silent hwrite frames fun w kind hw => kinds w ▸ hw
  | sends w message kind frames _ next advanced systemBytes kinds fits =>
    exact h.send hwrite frames next advanced systemBytes kinds fits
  | resolves w frames _ _ kinds _ =>
    refine h.silent hwrite frames fun w' kind hw => ?_
    rw [kinds] at hw
    split at hw
    · cases hw
    · exact hw
  | abandons frames _ _ kinds _ =>
    refine h.silent hwrite frames fun w kind hw => ?_
    rw [kinds] at hw
    cases hw

end

/-- One round extends the numbering. -/
theorem Numbered.handle {past : List CoreAction} {core : SessionCore} {input : Input}
    (h : Numbered past core) (hc : Coherent none core) (hodd : core.PrimaryContracts) :
    Numbered (past ++ (core.handle input).actions) (core.handle input).core := by
  have hround := (steps_handle hc input).accumulates
    (I := fun past stage => stage.core.PrimaryContracts ∧ Numbered past stage.core)
    (fun past stage actions stage' hI he => ⟨he.authority.primaryContracts hI.1,
      hI.2.step (he.writeStep hI.1)⟩)
    (by
      rw [entry_frame]
      exact ⟨hodd, ⟨h.increasing, h.used, h.requests_increasing, h.requests_used, h.pending⟩⟩)
  exact hround.2

/-- Every run numbers its frames. -/
theorem numbered_run (config : SessionCoreConfig) (nextWriteId : Option UInt64)
    (nextSystemBytes : Option UInt32) (inputs : List Input) :
    Numbered (machine.history (SessionCore.initial config nextWriteId nextSystemBytes) inputs)
      (machine.after (SessionCore.initial config nextWriteId nextSystemBytes) inputs) := by
  have hstart : Numbered [] (SessionCore.initial config nextWriteId nextSystemBytes) := by
    refine ⟨List.Pairwise.nil, ?_, List.Pairwise.nil, ?_, fun w kind hw => ?_⟩
    · rintro _ ⟨⟩
    · rintro _ ⟨⟩
    · have hnone : (SessionCore.initial config nextWriteId nextSystemBytes).pendingWrites[w]? =
          none := ExtTreeMap.getElem?_empty
      rw [writeKind, hnone] at hw
      cases hw
  have hrun := machine.invariant_history
    (I := fun past core => Coherent none core ∧ core.PrimaryContracts ∧ Numbered past core)
    (fun past core input hI => by
      refine ⟨hI.1.handle input, ?_, hI.2.2.handle hI.1 hI.2.1⟩
      refine (steps_handle hI.1 input).preserves (I := fun stage => stage.core.PrimaryContracts)
        (fun _ _ _ hI he => he.authority.primaryContracts hI) ?_
      rw [entry_frame]
      exact hI.2.1)
    ⟨coherent_initial config nextWriteId nextSystemBytes,
      fun k header hk => absurd hk TreeMap.getElem?_empty_ne, hstart⟩ inputs
  exact hrun.2.2

end Hsms
end SecsRust

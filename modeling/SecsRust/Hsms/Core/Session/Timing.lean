import SecsRust.Hsms.Core.Session.Matching
import SecsRust.Hsms.Core.Session.Authority

/-!
# Timers of the Core

`next_deadline` takes the least of five deadlines, and `expire_deadlines` visits the same
five in another order and may itself start a Deselect or a Linktest.  The Driver sleeps
until the one and then calls the other, so if the two disagreed it would either sleep too
long or spin.

## Nothing is due

`Undue` says of each source that it is not due yet, and `rests_iff` that `next_deadline`
reads exactly that. One call of `expire_deadlines` then leaves nothing due
(`expireDeadlines_rests`), and where nothing is due it does nothing
(`expireDeadlines_of_rests`).  The first of these is not obvious, since what expires may
start something: a drain that is given up makes room for the idle probe, and a Deselect that
starts has a timer of its own, which is not armed before its frame is committed.

## T3

The second half is about T3.  `Armed` ties the deadline of a live Request to the outcome
that armed it, so a timeout comes at or after the commit of its frame plus T3.  The loop
goes through the Requests that are due by their command identifiers (`Expires`), and
`TimesOut` says of a part of a round which commands it times out, in this order, and that no
other command ends in it.  `Spares` is the complement: the parts of a round that time
nothing out.  What `on_message` and the other entry points do not do is read off it, and
`SessionCore.OnlyTimesOut` is what comes out for a whole round.
-/

namespace SecsRust
namespace Hsms

open Std Secs2 SessionCore

/-! ## What is due -/

namespace SessionCore

/-- No timer but the idle probe is due at `now`. -/
structure Undue (core : SessionCore) (now : MonoTime) : Prop where
  selection : ∀ deadline, core.selectionDeadline = some deadline → now < deadline
  control : ∀ transaction deadline, core.activeTransaction = some transaction →
    transaction.deadline = some deadline → now < deadline
  request : ∀ (sb : SystemBytes) transaction deadline,
    core.dataTransactions[sb]? = some transaction → transaction.deadline = some deadline →
    now < deadline
  drain : ∀ drain, core.deselectDrain = some drain → now < drain.deadline

/-- The idle probe is not due at `now`, or the control slot is taken. -/
def ProbeUndue (core : SessionCore) (now : MonoTime) : Prop :=
  core.activeTransaction = none → core.deselectDrain = none →
    ∀ deadline, core.idleDeadline = some deadline → now < deadline

/-- `next_deadline` is `None` or later than `now`. -/
def Rests (core : SessionCore) (now : MonoTime) : Prop :=
  ∀ deadline, core.nextDeadline = some deadline → now < deadline

variable {core : SessionCore} {now : MonoTime}

/-- The least element of a list is later than `now` exactly when all its elements are. -/
theorem lt_min?_iff {deadlines : List MonoTime} :
    (∀ deadline, deadlines.min? = some deadline → now < deadline) ↔
      ∀ deadline ∈ deadlines, now < deadline := by
  constructor
  · intro h deadline hmem
    obtain ⟨least, hleast⟩ := Option.isSome_iff_exists.mp
      (List.isSome_min?_of_ne_nil (List.ne_nil_of_mem hmem))
    exact (h least hleast).trans_le ((List.min?_eq_some_iff.mp hleast).2 deadline hmem)
  · exact fun h deadline hleast => h deadline (List.min?_eq_some_iff.mp hleast).1

/-- **`next_deadline` reads the five sources.**  So that it has passed is that no timer is due,
and the reverse. -/
theorem rests_iff :
    core.Rests now ↔ core.closing = true ∨ core.state = none ∨
      core.Undue now ∧ core.ProbeUndue now := by
  unfold Rests nextDeadline
  cases hclosing : core.closing with
  | true => exact iff_of_true nofun (Or.inl rfl)
  | false =>
    cases hstate : core.state with
    | none => exact iff_of_true nofun (Or.inr (Or.inl rfl))
    | some state =>
      rw [if_neg (by simp), lt_min?_iff]
      simp only [List.mem_append, Option.mem_toList, Option.bind_eq_some_iff,
        List.mem_filterMap, Prod.exists, TreeMap.mem_toList, Option.filter_eq_some_iff,
        Bool.and_eq_true, Option.isNone_iff_eq_none, Option.map_eq_some_iff]
      constructor
      · intro h
        refine Or.inr (Or.inr ⟨⟨fun deadline hd => h deadline ?_, fun transaction deadline ha hd =>
          h deadline ?_, fun sb transaction deadline hr hd => h deadline ?_, fun drain hd =>
          h drain.deadline ?_⟩, fun ha hn deadline hd => h deadline ?_⟩)
        · exact Or.inl (Or.inl (Or.inl (Or.inl hd)))
        · exact Or.inl (Or.inl (Or.inl (Or.inr ⟨transaction, ha, hd⟩)))
        · exact Or.inl (Or.inl (Or.inr ⟨sb, transaction, hr, hd⟩))
        · exact Or.inr ⟨drain, hd, rfl⟩
        · exact Or.inl (Or.inr ⟨hd, ha, hn⟩)
      · rintro (hfalse | hfalse | ⟨hundue, hprobe⟩)
        · cases hfalse
        · cases hfalse
        · rintro deadline ((((hd | ⟨transaction, ha, hd⟩) | ⟨sb, transaction, hr, hd⟩) |
            ⟨hd, ha, hn⟩) | ⟨drain, hd, rfl⟩)
          · exact hundue.selection deadline hd
          · exact hundue.control transaction deadline ha hd
          · exact hundue.request sb transaction deadline hr hd
          · exact hprobe ha hn deadline hd
          · exact hundue.drain drain hd

theorem Rests.of_closing (h : core.closing = true) : core.Rests now := rests_iff.mpr (Or.inl h)

/-- No T3 is due exactly when the list of the expired Requests is empty. -/
theorem expiredRequests_eq_nil_iff :
    Turn.expiredRequests core now = [] ↔ ∀ (sb : SystemBytes) transaction deadline,
      core.dataTransactions[sb]? = some transaction → transaction.deadline = some deadline →
      now < deadline := by
  rw [Turn.expiredRequests, ← List.length_eq_zero_iff, List.length_insertionSort,
    List.length_eq_zero_iff, List.filter_eq_nil_iff]
  constructor
  · intro h sb transaction deadline hlive hdeadline
    have hdue := h transaction (TreeMap.mem_map_snd_toList.mpr ⟨sb, hlive⟩)
    rw [hdeadline] at hdue
    exact lt_of_not_ge fun hle => hdue (decide_eq_true hle)
  · intro h transaction hmem hdue
    obtain ⟨sb, hlive⟩ := TreeMap.mem_map_snd_toList.mp hmem
    cases hdeadline : transaction.deadline with
    | none =>
      rw [hdeadline] at hdue
      cases hdue
    | some deadline =>
      rw [hdeadline] at hdue
      exact (h sb transaction deadline hlive hdeadline).not_ge (of_decide_eq_true hdue)

/-- An armed timer that is not due, as `expire_deadlines` tests it. -/
theorem any_due_eq_false_iff {armed : Option MonoTime} :
    (armed.any fun deadline => decide (deadline ≤ now)) = false ↔
      ∀ deadline, armed = some deadline → now < deadline := by
  cases armed with
  | none => exact iff_of_true rfl nofun
  | some deadline => simp

end SessionCore

/-! ## The T3 loop -/

namespace Turn

variable {t : Turn} {now : MonoTime}

/-- The completion of a Request by T3. -/
def timeoutOf (transaction : DataTransaction) : CoreAction :=
  .completeCommand transaction.commandId
    (.requestTimedOut transaction.responseContract.requestHeader)

/-- `t'` is `t` once the listed Requests have expired. -/
structure Expires (t t' : Turn) (requests : List DataTransaction) : Prop where
  coherent : Coherent none t'.core
  frame : t'.core = { t.core with
    openCommands := t'.core.openCommands
    deferredErrors := t'.core.deferredErrors
    pendingWrites := t'.core.pendingWrites
    dataTransactions := t'.core.dataTransactions
    tombstones := t'.core.tombstones }
  openCommands : ∀ c : CommandId, t'.core.openCommands[c]? =
    if c ∈ requests.map DataTransaction.commandId then none else t.core.openCommands[c]?
  dataTransactions : ∀ (sb : SystemBytes) transaction,
    t'.core.dataTransactions[sb]? = some transaction →
      t.core.dataTransactions[sb]? = some transaction ∧ transaction ∉ requests
  actions : t'.actions = t.actions ++ requests.map timeoutOf

/-- **The T3 loop** expires the listed Requests. -/
theorem foldl_expireRequest_expires :
    ∀ (requests : List DataTransaction) (t : Turn), Coherent none t.core → t.core.closing = false →
      ExpiryList t.core now requests → Expires t (requests.foldl expireRequest t) requests
  | [], t, h, _, _ => {
      coherent := h
      frame := rfl
      openCommands := fun c => by simp
      dataTransactions := fun sb transaction hlive => ⟨hlive, List.not_mem_nil⟩
      actions := (List.append_nil _).symm }
  | transaction :: requests, t, h, hlive, hlist => by
    have hpending := hlist.live transaction List.mem_cons_self
    have hone := expireRequest_of_live h hpending
    have hfirst : Runs t.core (.advanceTime now) t none (t.expireRequest transaction) none :=
      (runs_expireRequests (show Input.now (.advanceTime now) = now from rfl) rfl [transaction] t h
        hlive
        { live := fun other hother => by rwa [List.mem_singleton.mp hother]
          due := fun other hother => hlist.due other
            (List.mem_singleton.mp hother ▸ List.mem_cons_self)
          distinct := List.pairwise_singleton _ _ }).1
    have hrest := foldl_expireRequest_expires requests (t.expireRequest transaction)
      (hfirst.coherent h) (by rw [hone]; exact hlive) (by rw [hone]; exact hlist.tail)
    rw [List.foldl_cons]
    refine ⟨hrest.coherent, ?_, fun c => ?_, fun sb other hother => ?_, ?_⟩
    · rw [hrest.frame, hone]
      rfl
    · rw [hrest.openCommands, hone, List.map_cons]
      simp only [List.mem_cons]
      by_cases hrequest : c ∈ requests.map DataTransaction.commandId
      · rw [if_pos hrequest, if_pos (Or.inr hrequest)]
      · rw [if_neg hrequest]
        refine (getElem?_openCommands_detach c).trans ?_
        by_cases hc : transaction.commandId = c
        · rw [if_pos hc, if_pos (Or.inl hc.symm)]
        · rw [if_neg hc, if_neg (not_or.mpr ⟨Ne.symm hc, hrequest⟩)]
    · obtain ⟨hother, hnot⟩ := hrest.dataTransactions sb other hother
      rw [hone] at hother
      replace hother : (t.core.dataTransactions.erase
        transaction.responseContract.systemBytes)[sb]? = some other := hother
      rw [TreeMap.getElem?_erase] at hother
      split at hother
      · cases hother
      · rename_i hne
        refine ⟨hother, fun hmem => ?_⟩
        rcases List.mem_cons.mp hmem with heq | hmem
        · exact hne (heq ▸ h.request_key sb other hother)
        · exact hnot hmem
    · rw [hrest.actions, hone, List.map_cons, List.append_assoc]
      rfl

/-- The T3 loop of `expire_deadlines`. -/
theorem expires_expiredRequests (h : Coherent none t.core) (hlive : t.core.closing = false)
    (now : MonoTime) :
    Expires t ((expiredRequests t.core now).foldl expireRequest t) (expiredRequests t.core now) :=
  foldl_expireRequest_expires _ t h hlive (expiryList_expiredRequests h now)

/-- After the loop no T3 is due. -/
theorem Expires.request_undue {t' : Turn} (h : Expires t t' (expiredRequests t.core now))
    {sb : SystemBytes} {transaction : DataTransaction} {deadline : MonoTime}
    (hlive : t'.core.dataTransactions[sb]? = some transaction)
    (hdeadline : transaction.deadline = some deadline) : now < deadline := by
  obtain ⟨hbefore, hnot⟩ := h.dataTransactions sb transaction hlive
  refine lt_of_not_ge fun hle => hnot ?_
  rw [expiredRequests, List.mem_insertionSort, List.mem_filter, hdeadline]
  exact ⟨TreeMap.mem_map_snd_toList.mpr ⟨sb, hbefore⟩, decide_eq_true hle⟩

/-! ## The drain and the probe -/

theorem startTransaction_cases (t : Turn) (kind : TransactionKind) (c : Option CommandId) :
    ((t.core.nextWriteId = none ∨ t.core.nextSystemBytes = none) ∧
      ∃ reason, t.startTransaction kind c = t.endGeneration reason) ∨
    ∃ sb w, t.startTransaction kind c =
      ⟨{ (t.core.takeSystemBytes sb).trackWrite w ⟨.transactionRequest, c⟩ with
          activeTransaction := some ⟨kind, c, controlSessionId, sb, w, none⟩ },
        t.actions ++ [.sendFrame w (.control (requestMessage kind sb))], t.overflowed⟩ := by
  rcases t.allocateRequestIdentifiers_cases with ⟨reason, heq⟩ | ⟨sb, w, -, heq⟩
  · refine Or.inl ⟨?_, reason, ?_⟩
    · unfold allocateRequestIdentifiers allocateSystemBytes allocateWriteId at heq
      cases hw : t.core.nextWriteId with
      | none => exact Or.inl rfl
      | some writeRaw =>
        cases hb : t.core.nextSystemBytes with
        | none => exact Or.inr rfl
        | some bytesRaw =>
          simp only [hw, hb, Option.isNone_some, Bool.false_eq_true, if_false] at heq
          cases congrArg Prod.snd heq
    · unfold startTransaction
      rw [heq]
  · refine Or.inr ⟨sb, w, ?_⟩
    unfold startTransaction
    rw [heq]
    rfl

/-- The waiting Deselect gives up its drain. -/
def dropDrain (t : Turn) : Turn := t.update fun core => { core with deselectDrain := none }

/-- What `progress_deselect` does: nothing, the completion of the waiting command, or the start of
its transaction. -/
theorem progressDeselect_cases (h : Coherent none t.core) (hlive : t.core.closing = false)
    (now : MonoTime) :
    (t.progressDeselect now = t ∧ ∀ drain, t.core.deselectDrain = some drain →
      now < drain.deadline) ∨
    ∃ drain, t.core.deselectDrain = some drain ∧
      ((∃ result, t.progressDeselect now = t.dropDrain.settle drain.commandId (.control result)) ∨
        t.progressDeselect now =
          t.dropDrain.startTransaction .deselect (some drain.commandId)) := by
  unfold progressDeselect
  rw [if_neg (by simp [hlive])]
  cases hdrain : t.core.deselectDrain with
  | none => exact Or.inl ⟨rfl, nofun⟩
  | some drain =>
    have hopen : t.dropDrain.core.openCommands[drain.commandId]? = some .control :=
      h.drain_open hlive drain hdrain
    dsimp only
    by_cases hdue : drain.deadline ≤ now
    · rw [if_pos hdue]
      exact Or.inr ⟨drain, rfl, Or.inl ⟨_, completeError_of_open hopen⟩⟩
    · rw [if_neg hdue]
      by_cases hstate : t.core.state = some .notSelected
      · rw [if_pos hstate]
        exact Or.inr ⟨drain, rfl, Or.inl ⟨_, completeControl_of_open hopen⟩⟩
      · rw [if_neg hstate]
        cases huse : t.core.dataInUse with
        | true =>
          refine Or.inl ⟨if_neg (by simp), fun drain' heq => ?_⟩
          rw [← Option.some.inj heq]
          exact lt_of_not_ge hdue
        | false => exact Or.inr ⟨drain, rfl, Or.inr (if_pos rfl)⟩

/-- The idle probe, the last part of `expire_deadlines`. -/
def probeIdle (t : Turn) (now : MonoTime) : Turn :=
  if t.core.closing then
    t
  else if t.core.activeTransaction.isNone && t.core.deselectDrain.isNone &&
      t.core.idleDeadline.any fun deadline => deadline ≤ now then
    (t.update fun core => { core with idleDeadline := none }).startTransaction .linktest none
  else
    t

theorem probeIdle_of_probeUndue (h : t.core.ProbeUndue now) : t.probeIdle now = t := by
  unfold probeIdle
  split
  · rfl
  · refine if_neg fun hdue => ?_
    simp only [Bool.and_eq_true, Option.isNone_iff_eq_none] at hdue
    obtain ⟨⟨hactive, hdrain⟩, hidle⟩ := hdue
    rw [any_due_eq_false_iff.mpr (h hactive hdrain)] at hidle
    cases hidle

/-- `expire_deadlines` closes for T7 or T6, or it runs the T3 loop, the drain and the probe. -/
theorem expireDeadlines_cases (t : Turn) (now : MonoTime) :
    ((t.core.closing = true ∨ t.core.state = none) ∧ t.expireDeadlines now = t) ∨
    t.expireDeadlines now = t.endGeneration (.communicationsTimeout .t7) ∨
    (∃ transaction, t.core.activeTransaction = some transaction ∧ t.expireDeadlines now =
      ((t.update fun core => { core with activeTransaction := none }).completeControlTransaction
        transaction (.error (.timeout .t6))).endGeneration (.communicationsTimeout .t6)) ∨
    t.core.closing = false ∧ t.core.state ≠ none ∧
      (∀ deadline, t.core.selectionDeadline = some deadline → now < deadline) ∧
      (∀ transaction deadline, t.core.activeTransaction = some transaction →
        transaction.deadline = some deadline → now < deadline) ∧
      t.expireDeadlines now =
        (((expiredRequests t.core now).foldl expireRequest t).progressDeselect now).probeIdle
          now := by
  unfold expireDeadlines
  cases hclosing : t.core.closing with
  | true => exact Or.inl ⟨Or.inl rfl, if_pos rfl⟩
  | false =>
    cases hstate : t.core.state with
    | none => exact Or.inl ⟨Or.inr rfl, if_pos rfl⟩
    | some state =>
      rw [if_neg (by simp)]
      refine Or.inr ?_
      cases hselection : t.core.selectionDeadline.any fun deadline => decide (deadline ≤ now) with
      | true => exact Or.inl (if_pos rfl)
      | false =>
        rw [if_neg (by simp)]
        refine Or.inr ?_
        cases hactive : t.core.activeTransaction.filter fun transaction =>
            transaction.deadline.any fun deadline => decide (deadline ≤ now) with
        | some transaction =>
          exact Or.inl ⟨transaction, (Option.filter_eq_some_iff.mp hactive).1, rfl⟩
        | none =>
          refine Or.inr ⟨rfl, nofun, any_due_eq_false_iff.mp hselection,
            fun transaction deadline ha hd => ?_, rfl⟩
          have hnot := Option.filter_eq_none_iff.mp hactive transaction ha
          rw [hd] at hnot
          exact lt_of_not_ge fun hle => hnot (decide_eq_true hle)

/-- A transaction that starts has no deadline yet. -/
theorem startTransaction_undue {kind : TransactionKind} {c : Option CommandId}
    (h : t.core.Undue now) : (t.startTransaction kind c).core.closing = true ∨
      (t.startTransaction kind c).core.Undue now ∧
        (t.startTransaction kind c).core.ProbeUndue now := by
  rcases t.startTransaction_cases kind c with ⟨-, reason, heq⟩ | ⟨sb, w, heq⟩
  · rw [heq]
    exact Or.inl (endGeneration_closing _ _)
  · rw [heq]
    refine Or.inr ⟨⟨h.selection, fun transaction deadline ha hd => ?_, h.request, h.drain⟩, nofun⟩
    rw [← Option.some.inj ha] at hd
    cases hd

/-- After `progress_deselect` the drain is not due either. -/
theorem progressDeselect_undue (h : Coherent none t.core) (hlive : t.core.closing = false)
    (hselection : ∀ deadline, t.core.selectionDeadline = some deadline → now < deadline)
    (hcontrol : ∀ transaction deadline, t.core.activeTransaction = some transaction →
      transaction.deadline = some deadline → now < deadline)
    (hrequest : ∀ (sb : SystemBytes) transaction deadline,
      t.core.dataTransactions[sb]? = some transaction → transaction.deadline = some deadline →
      now < deadline) :
    (t.progressDeselect now).core.closing = true ∨ (t.progressDeselect now).core.Undue now := by
  have hdropped : t.dropDrain.core.Undue now := ⟨hselection, hcontrol, hrequest, nofun⟩
  rcases progressDeselect_cases h hlive now with ⟨heq, hdrain⟩ | ⟨drain, -, ⟨result, heq⟩ | heq⟩
  · rw [heq]
    exact Or.inr ⟨hselection, hcontrol, hrequest, hdrain⟩
  · rw [heq]
    exact Or.inr ⟨hdropped.selection, hdropped.control, hdropped.request, hdropped.drain⟩
  · rw [heq]
    exact (startTransaction_undue hdropped).imp_right And.left

/-- The probe leaves nothing due. -/
theorem probeIdle_rests (h : t.core.closing = true ∨ t.core.Undue now) :
    (t.probeIdle now).core.Rests now := by
  unfold probeIdle
  split
  · rename_i hclosing
    exact .of_closing hclosing
  · rename_i hopen
    have hundue := h.resolve_left hopen
    split
    · have hundue' : (t.update fun core => { core with idleDeadline := none }).core.Undue now :=
        ⟨hundue.selection, hundue.control, hundue.request, hundue.drain⟩
      exact rests_iff.mpr ((startTransaction_undue hundue').imp_right Or.inr)
    · rename_i hprobe
      refine rests_iff.mpr (Or.inr (Or.inr ⟨hundue, fun hactive hdrain => ?_⟩))
      rw [hactive, hdrain] at hprobe
      exact any_due_eq_false_iff.mp (Bool.eq_false_of_not_eq_true hprobe)

/-- **One call clears every due timer**: after `expire_deadlines`, `next_deadline` is `None` or
later than `now`.  It follows the order of the source: a timer that closes the generation leaves
none behind it to look at. -/
theorem expireDeadlines_rests (h : Coherent none t.core) (now : MonoTime) :
    (t.expireDeadlines now).core.Rests now := by
  rcases t.expireDeadlines_cases now with ⟨hquiet, heq⟩ | heq | ⟨transaction, -, heq⟩ |
    ⟨hlive, hstate, hselection, hcontrol, heq⟩
  · rw [heq]
    exact rests_iff.mpr (hquiet.imp_right Or.inl)
  · rw [heq]
    exact .of_closing (endGeneration_closing _ _)
  · rw [heq]
    exact .of_closing (endGeneration_closing _ _)
  · rw [heq]
    have hexpires := expires_expiredRequests h hlive now
    generalize (expiredRequests t.core now).foldl expireRequest t = t1 at hexpires
    have hframe := hexpires.frame
    have hlive1 : t1.core.closing = false := by rw [hframe]; exact hlive
    exact probeIdle_rests (progressDeselect_undue hexpires.coherent hlive1
      (by rw [hframe]; exact hselection) (by rw [hframe]; exact hcontrol)
      fun sb transaction deadline => hexpires.request_undue)

/-- Where nothing is due and no drain is pending, `expire_deadlines` does nothing. -/
theorem expireDeadlines_of_rests (hrests : t.core.Rests now)
    (hdrain : t.core.deselectDrain = none) :
    t.expireDeadlines now = t := by
  rcases rests_iff.mp hrests with hclosing | hstate | ⟨hundue, hprobe⟩
  · unfold expireDeadlines
    rw [hclosing]
    exact if_pos rfl
  · unfold expireDeadlines
    rw [hstate]
    exact if_pos (Bool.or_true _)
  · unfold expireDeadlines
    split
    · rfl
    · rw [any_due_eq_false_iff.mpr hundue.selection, if_neg Bool.false_ne_true]
      have hnone : (t.core.activeTransaction.filter fun transaction =>
          transaction.deadline.any fun deadline => decide (deadline ≤ now)) = none := by
        refine Option.filter_eq_none_iff.mpr fun transaction hactive hdue => ?_
        rw [any_due_eq_false_iff.mpr (hundue.control transaction · hactive)] at hdue
        cases hdue
      rw [hnone, expiredRequests_eq_nil_iff.mpr hundue.request]
      dsimp only [List.foldl_nil]
      rw [progressDeselect_of_noDrain hdrain]
      exact probeIdle_of_probeUndue hprobe

end Turn

/-! ## What armed a T3 -/

/-- The T3 deadline of every live Request was armed by the committed outcome of its write. -/
def SessionCore.Armed (seen : List Input) (core : SessionCore) : Prop :=
  ∀ (sb : SystemBytes) transaction deadline, core.dataTransactions[sb]? = some transaction →
    transaction.deadline = some deadline → ∃ occurredAt now,
      .writeOutcome transaction.writeId .committed occurredAt now ∈ seen ∧
      occurredAt.checkedAdd core.config.timeouts.t3 = some deadline

section

variable {origin : SessionCore} {input : Input} {stage stage' : Stage} {actions : List CoreAction}
  {seen : List Input}

/-- The armed Requests of `after` are Requests of `before`, with the same timer. -/
def SessionCore.KeepsArmed (before after : SessionCore) : Prop :=
  ∀ (sb : SystemBytes) transaction, after.dataTransactions[sb]? = some transaction →
    transaction.deadline ≠ none → before.dataTransactions[sb]? = some transaction

theorem SessionCore.KeepsArmed.of_eq {before after : SessionCore}
    (h : after.dataTransactions = before.dataTransactions) : before.KeepsArmed after := by
  intro sb transaction hlive _
  rwa [h] at hlive

theorem SessionCore.KeepsArmed.of_empty {before after : SessionCore}
    (h : after.dataTransactions = ∅) : before.KeepsArmed after := by
  intro sb transaction hlive _
  rw [h] at hlive
  exact absurd hlive TreeMap.getElem?_empty_ne

theorem SessionCore.KeepsArmed.of_erase {before after : SessionCore} {sb : SystemBytes}
    (h : after.dataTransactions = before.dataTransactions.erase sb) : before.KeepsArmed after := by
  intro sb' transaction hlive _
  rw [h, TreeMap.getElem?_erase] at hlive
  split at hlive
  · cases hlive
  · exact hlive

theorem keepsArmed_removeTransactionForWrite (core : SessionCore) (w : WriteId)
    (kind : PendingWriteKind) : core.KeepsArmed (core.removeTransactionForWrite w kind) := by
  cases kind with
  | dataRequest sb =>
    unfold removeTransactionForWrite
    dsimp only
    split
    · exact .of_erase rfl
    · exact .of_eq rfl
  | transactionRequest =>
    unfold removeTransactionForWrite
    dsimp only
    split <;> exact .of_eq rfl
  | dataSend _ | response | separate => exact .of_eq rfl

/-- Only the committed outcome of its write arms a Request. -/
theorem Effect.keepsArmed (he : Effect origin input stage actions stage') :
    stage.core.KeepsArmed stage'.core ∨
      ∃ (sb : SystemBytes) (transaction : DataTransaction) (occurredAt now deadline : MonoTime),
        input = .writeOutcome transaction.writeId .committed occurredAt now ∧
        occurredAt.checkedAdd stage.core.config.timeouts.t3 = some deadline ∧
        stage'.core.dataTransactions =
          stage.core.dataTransactions.insert sb { transaction with deadline := some deadline } := by
  cases he with
  | ended _ _ _ _ done | lostWrite _ _ _ _ _ done | loseCommands _ _ done
  | separate _ _ _ _ _ _ _ done
  | admissionClosed _ _ _ _ done | peerSeparate _ _ _ _ done =>
    refine Or.inl (.of_empty ?_)
    dsimp only [trackWrite, takeSystemBytes]
    rw [done.frame]
  | abandonWrites _ _ done =>
    refine Or.inl (.of_eq ?_)
    dsimp only
    rw [done.frame]
  | retireControl _ _ _ =>
    refine Or.inl (.of_eq ?_)
    dsimp only
    rw [release_frame]
  | @failWrite s _ w write _ _ _ _ =>
    refine Or.inl ?_
    dsimp only
    rw [release_frame]
    exact keepsArmed_removeTransactionForWrite (s.eraseWrite w) w write.kind
  | @sendRequest s _ c w systemBytes now primary _ _ _ _ _ _ _ _ =>
    refine Or.inl fun sb transaction hlive harmed => ?_
    rw [TreeMap.getElem?_insert] at hlive
    split at hlive
    · rw [← Option.some.inj hlive] at harmed
      exact absurd rfl harmed
    · exact hlive
  | retireRequest _ _ _ => exact Or.inl (.of_erase rfl)
  | commitRequest outcome pending live own armed =>
    exact Or.inr ⟨_, _, _, _, _, own ▸ outcome, armed, rfl⟩
  | tick _ | observe _ _ _ | lateAnnounce _ | lateControl _ _ _ _ | connect _ _ _ _ _
  | selected _ _ _ | deselected _ _ _ _ _ _ | respond _ _ _ _ _ _ | refuse _ _ _
  | startDrain _ _ _ _ _ _ _ | endDrain _ _ _ | startControl _ _ _ _ _ _ _ _ _ _
  | startDeselection _ _ _ _ _ | sendPrimary _ _ _ _ _ _ _ _ _ | rejectSend _ _ _ _ _ _
  | deliver _ _ _ _ _ _ _ _ _ | deliverOneWay _ _ _ _ _ _ | spendContract _ _ _ _ _ _
  | sendReply _ _ _ _ _ _ _ | commitControl _ _ _ _ _ | commitCommand _ _ _ _
  | commitSilently _ _ _ => exact Or.inl (.of_eq rfl)

theorem SessionCore.Armed.step (h : stage.core.Armed seen) (hinput : input ∈ seen)
    (he : Effect origin input stage actions stage') : stage'.core.Armed seen := by
  intro sb transaction deadline hlive hdeadline
  rw [he.config_eq]
  rcases he.keepsArmed with hkept | ⟨sb', committed, occurredAt, now, armed, hcause, hadd, hinsert⟩
  · refine h sb transaction deadline (hkept sb transaction hlive ?_) hdeadline
    rw [hdeadline]
    nofun
  · rw [hinsert, TreeMap.getElem?_insert] at hlive
    split at hlive
    · rw [← Option.some.inj hlive] at hdeadline ⊢
      obtain rfl := Option.some.inj hdeadline
      exact ⟨occurredAt, now, hcause ▸ hinput, hadd⟩
    · exact h sb transaction deadline hlive hdeadline

theorem SessionCore.Armed.mono {seen' : List Input} {core : SessionCore} (h : core.Armed seen)
    (hmono : seen ⊆ seen') : core.Armed seen' := by
  intro sb transaction deadline hlive hdeadline
  obtain ⟨occurredAt, now, hmem, hadd⟩ := h sb transaction deadline hlive hdeadline
  exact ⟨occurredAt, now, hmono hmem, hadd⟩

end

theorem SessionCore.Armed.entry {seen : List Input} {core : SessionCore} (h : core.Armed seen)
    (input : Input) : (core.entry input).core.Armed (seen ++ [input]) := by
  rw [entry_frame]
  exact h.mono (List.subset_append_left _ _)

theorem armed_run (config : SessionCoreConfig) (nextWriteId : Option UInt64)
    (nextSystemBytes : Option UInt32) (inputs : List Input) :
    (machine.after (SessionCore.initial config nextWriteId nextSystemBytes) inputs).Armed
      inputs := by
  have hrun := machine.invariant_inputs
    (I := fun seen core => Coherent none core ∧ core.Armed seen)
    (fun seen core input hI => ⟨hI.1.handle input,
      (steps_handle hI.1 input).preserves (I := fun stage => stage.core.Armed (seen ++ [input]))
        (fun _ _ _ h he => h.step List.mem_concat_self he) (hI.2.entry input)⟩)
    (s := SessionCore.initial config nextWriteId nextSystemBytes)
    ⟨coherent_initial config nextWriteId nextSystemBytes,
      fun _ _ _ hlive => absurd hlive TreeMap.getElem?_empty_ne⟩ inputs
  exact hrun.2

/-! ## One T3 completion -/

/-- The contract of a request frame gives back its header. -/
theorem requestHeader_contract {frame : DataMessage} (hreply : frame.header.replyExpected = true) :
    frame.contract.requestHeader = frame.header := by
  obtain ⟨⟨sessionId, stream, ⟨function⟩, replyExpected, systemBytes⟩, body⟩ := frame
  obtain rfl : replyExpected = true := hreply
  unfold DataMessage.contract ResponseContract.forRequest ResponseContract.requestHeader
    ResponseContract.succFunction
  by_cases hlast : function = 255
  · subst hlast
    rfl
  · have hback : function + 1 - 1 = function := UInt8.add_sub_cancel _ _
    simp only [if_neg hlast, hback]

/-- The command that an action times out. -/
def CoreAction.timedOut : CoreAction → Option CommandId
  | completeCommand c (.requestTimedOut _) => some c
  | completeCommand _ _ | sendFrame .. | sessionStateChanged _ | deliverPrimary ..
  | closeGeneration .. => none

/-- What times out is retired. -/
theorem CoreAction.timedOut_of_retired {action : CoreAction} (h : action.retired = none) :
    action.timedOut = none := by
  cases action with
  | completeCommand c result =>
    cases result with
    | requestTimedOut header => cases h
    | control _ | send _ | request _ => rfl
  | sendFrame | sessionStateChanged | deliverPrimary | closeGeneration => rfl

/-- **T3 is never early**: a Request that times out in a round had its request frame committed, T3
has passed since, and the completion carries the header of that frame. -/
theorem timeout_of_handle {past : List (Input × CoreAction)} {core : SessionCore} {input : Input}
    {seen : List Input} (hc : Coherent none core) (h : Matched past core) (harmed : core.Armed seen)
    {c : CommandId} {header : DataHeader}
    (ha : .completeCommand c (.requestTimedOut header) ∈ (core.handle input).actions) :
    input.isTick = true ∧ ∃ w frame occurredAt at_ deadline, requestOf past c = some (w, frame) ∧
      frame.header = header ∧ .writeOutcome w .committed occurredAt at_ ∈ seen ++ [input] ∧
      occurredAt.checkedAdd core.config.timeouts.t3 = some deadline ∧ deadline ≤ input.now := by
  obtain ⟨before, after, done, actions, later, hpast, he, -, hmem, -⟩ :=
    (steps_handle hc input).exists_of_mem ha
  obtain ⟨hcoherent, hmatched⟩ := h.round hc hpast
  have hstage := hpast.preserves (I := fun stage => stage.core.Armed (seen ++ [input]) ∧
      stage.core.config = core.config)
    (fun _ _ _ hI he => ⟨hI.1.step List.mem_concat_self he, he.config_eq.trans hI.2⟩)
    ⟨harmed.entry input, by rw [entry_frame]⟩
  cases he.requestStep hmatched.parked hcoherent with
  | keeps _ _ kept _ =>
    have hnone := CoreAction.timedOut_of_retired (kept _ hmem)
    cases hnone
  | starts _ hactions _ _ _ _ _ =>
    rw [hactions] at hmem
    cases List.mem_singleton.mp hmem
  | @retires sb transaction result pending cause hactions _ _ =>
    rw [hactions] at hmem
    obtain ⟨rfl, rfl⟩ := CoreAction.completeCommand.inj (List.mem_singleton.mp hmem)
    cases cause with
    | @expired deadline ticks armed due =>
      obtain ⟨frame, hasked, hcontract, -, hreply, -⟩ := hmatched.asked sb transaction pending
      have hinput : ∀ c primary now, input ≠ .command ⟨c, .request primary⟩ now := by
        rintro c primary now rfl
        cases ticks
      rw [requestOf_append_silent fun a _ => requestFrame_of_input hinput] at hasked
      obtain ⟨occurredAt, now, hcommitted, hadd⟩ := hstage.1 sb transaction deadline pending armed
      rw [hstage.2] at hadd
      refine ⟨ticks, transaction.writeId, frame, occurredAt, now, deadline, hasked, ?_, hcommitted,
        hadd, due⟩
      rw [hcontract, requestHeader_contract hreply]

/-! ## What a round times out -/

namespace Turn

/-- The commands that the round has timed out so far, in order. -/
def timeouts (t : Turn) : List CommandId := t.actions.filterMap CoreAction.timedOut

/-- Between `t` and `t'` nothing is timed out and nothing starts, and while the Core stays open only
the commands `spent` leave it. -/
structure Spares (spent : CommandId → Prop) (t t' : Turn) : Prop where
  timeouts : t'.timeouts = t.timeouts
  closing : t.core.closing = true → t'.core.closing = true
  frame : t'.core.closing = false → t'.core.nextWriteId = t.core.nextWriteId ∧
    t'.core.nextSystemBytes = t.core.nextSystemBytes ∧ t'.core.deselectDrain = t.core.deselectDrain
  kept : t'.core.closing = false → ∀ c : CommandId, ¬ spent c →
    t.core.openCommands[c]?.isSome = true → t'.core.openCommands[c]?.isSome = true

section

variable {t t' t'' : Turn} {spent : CommandId → Prop}

theorem timeouts_append {before after : List CoreAction}
    (h : ∀ a ∈ after, a.retired = none) :
    (before ++ after).filterMap CoreAction.timedOut = before.filterMap CoreAction.timedOut := by
  rw [List.filterMap_append, List.filterMap_eq_nil_iff.mpr fun a ha =>
    CoreAction.timedOut_of_retired (h a ha), List.append_nil]

theorem Spares.of_eq (hactions : t'.actions = t.actions)
    (hopen : t'.core.openCommands = t.core.openCommands)
    (hclosing : t'.core.closing = t.core.closing)
    (hframe : t'.core.nextWriteId = t.core.nextWriteId ∧
      t'.core.nextSystemBytes = t.core.nextSystemBytes ∧
      t'.core.deselectDrain = t.core.deselectDrain) :
    Spares spent t t' where
  timeouts := by
    unfold Turn.timeouts
    rw [hactions]
  closing h := by rw [hclosing, h]
  frame _ := hframe
  kept _ c _ hc := by rwa [hopen]

theorem Spares.refl (t : Turn) : Spares spent t t := .of_eq rfl rfl rfl ⟨rfl, rfl, rfl⟩

theorem Spares.live (h : Spares spent t t') (hlive : t'.core.closing = false) :
    t.core.closing = false := by
  cases hclosing : t.core.closing with
  | false => rfl
  | true => rw [← hlive, h.closing hclosing]

theorem Spares.trans (h : Spares spent t t') (h' : Spares spent t' t'') : Spares spent t t'' where
  timeouts := h'.timeouts.trans h.timeouts
  closing hclosing := h'.closing (h.closing hclosing)
  frame hlive := by
    obtain ⟨hwrite, hbytes, hdrain⟩ := h'.frame hlive
    rw [hwrite, hbytes, hdrain]
    exact h.frame (h'.live hlive)
  kept hlive c hspent hc := h'.kept hlive c hspent (h.kept (h'.live hlive) c hspent hc)

/-- Ending the generation times nothing out. -/
theorem timeouts_endGeneration (t : Turn) (reason : GenerationCloseReason) :
    (t.endGeneration reason).timeouts = t.timeouts := by
  unfold Turn.timeouts
  rw [endGeneration_actions]
  exact timeouts_append fun a ha => retired_of_mem_end ha

/-- Ending the generation spends every command. -/
theorem spares_endGeneration (t : Turn) (reason : GenerationCloseReason) :
    Spares spent t (t.endGeneration reason) where
  timeouts := timeouts_endGeneration t reason
  closing _ := endGeneration_closing t reason
  frame hlive := by
    rw [endGeneration_closing] at hlive
    cases hlive
  kept hlive := by
    rw [endGeneration_closing] at hlive
    cases hlive

theorem Spares.ended (h : Spares spent t t') (reason : GenerationCloseReason) :
    Spares spent t (t'.endGeneration reason) := h.trans (spares_endGeneration t' reason)

theorem spares_settle (t : Turn) {c : CommandId} {result : CoreCommandResult} (hc : spent c)
    (hresult : CoreAction.timedOut (.completeCommand c result) = none) :
    Spares spent t (t.settle c result) where
  timeouts := by
    show (t.actions ++ [CoreAction.completeCommand c result]).filterMap CoreAction.timedOut = _
    rw [List.filterMap_append, List.filterMap_cons, hresult, List.filterMap_nil, List.append_nil]
    rfl
  closing := id
  frame _ := ⟨rfl, rfl, rfl⟩
  kept _ c' hc' hopen := by
    refine (congrArg Option.isSome (getElem?_openCommands_detach c')).trans ?_
    rwa [if_neg fun heq : c = c' => hc' (heq ▸ hc)]

theorem spares_emitCompletion (t : Turn) {c : CommandId} {result : CoreCommandResult} (hc : spent c)
    (hresult : CoreAction.timedOut (.completeCommand c result) = none) :
    Spares spent t (t.emitCompletion c result) := by
  unfold emitCompletion
  split
  · exact spares_settle t hc hresult
  · exact spares_endGeneration t _

theorem spares_completeError (t : Turn) {c : CommandId} (hc : spent c) (error : OperationError) :
    Spares spent t (t.completeError c error) := by
  unfold completeError
  split
  · exact spares_endGeneration t _
  · rename_i kind _
    exact spares_emitCompletion t hc (by cases kind <;> rfl)

theorem spares_completeControl (t : Turn) {c : CommandId} (hc : spent c)
    (result : Except OperationError Unit) : Spares spent t (t.completeControl c result) := by
  unfold completeControl
  split
  · exact spares_endGeneration t _
  · exact spares_emitCompletion t hc rfl

theorem spares_completeSend (t : Turn) {c : CommandId} (hc : spent c)
    (result : Except OperationError CommittedWrite) : Spares spent t (t.completeSend c result) := by
  unfold completeSend
  split
  · exact spares_endGeneration t _
  · exact spares_emitCompletion t hc rfl

theorem spares_commitWrite (t : Turn) (w : WriteId) (write : PendingWrite) (occurredAt : MonoTime)
    (hspent : ∀ c, write.commandId = some c → spent c) :
    Spares spent t (t.commitWrite w write occurredAt) := by
  unfold commitWrite
  split
  · split
    · split
      · dsimp only
        split
        · refine Spares.ended ?_ .runtimeInvariant
          exact .of_eq rfl rfl rfl ⟨rfl, rfl, rfl⟩
        · exact .of_eq rfl rfl rfl ⟨rfl, rfl, rfl⟩
      · exact .refl t
    · exact .refl t
  · split
    · rename_i c hc
      exact spares_completeSend t (hspent c hc) _
    · exact .refl t
  · split
    · split
      · dsimp only
        split
        · refine Spares.ended ?_ .runtimeInvariant
          exact .of_eq rfl rfl rfl ⟨rfl, rfl, rfl⟩
        · exact .of_eq rfl rfl rfl ⟨rfl, rfl, rfl⟩
      · exact .refl t
    · exact .refl t
  · split
    · rename_i c hc
      exact spares_completeControl t (hspent c hc) _
    · exact .refl t
  · exact .refl t

theorem spares_finishFailedWrite (t : Turn) (w : WriteId) (write : PendingWrite)
    (error : OperationError) (hspent : ∀ c, write.commandId = some c → spent c) :
    Spares spent t (t.finishFailedWrite w write error) := by
  have hremove : Spares spent t
      (t.update fun core => core.removeTransactionForWrite w write.kind) := by
    refine .of_eq rfl ?_ ?_ ?_
    all_goals
      dsimp only [update]
      rw [removeTransactionForWrite_frame]
    exact ⟨rfl, rfl, rfl⟩
  unfold finishFailedWrite
  dsimp only
  split
  · rename_i c hc
    exact (hremove.trans (spares_completeError _ (hspent c hc) error)).ended .transportLost
  · exact hremove.ended .transportLost

theorem spares_resolveWrite (t : Turn) (w : WriteId) (write : PendingWrite) (outcome : WriteOutcome)
    (occurredAt : MonoTime) (hspent : ∀ c, write.commandId = some c → spent c) :
    Spares spent t (t.resolveWrite w write outcome occurredAt) := by
  cases outcome with
  | committed => exact spares_commitWrite t w write occurredAt hspent
  | notWritten _ => exact spares_finishFailedWrite t w write _ hspent
  | indeterminate _ => exact spares_finishFailedWrite t w write _ hspent

theorem spares_recordActivity (t : Turn) (occurredAt : MonoTime) :
    Spares spent t (t.recordActivity occurredAt) := by
  rcases t.recordActivity_cases occurredAt with ⟨-, _, _, heq⟩ | ⟨_, heq⟩
  · rw [heq]
    exact .of_eq rfl rfl rfl ⟨rfl, rfl, rfl⟩
  · rw [heq]
    refine Spares.trans (Spares.ended ?_ .runtimeInvariant) (.of_eq rfl rfl rfl ⟨rfl, rfl, rfl⟩)
    exact .of_eq rfl rfl rfl ⟨rfl, rfl, rfl⟩

end

/-- The Requests that a round times out are listed in CommandId order, each once. -/
theorem pairwise_expiredRequests {core : SessionCore} (h : Coherent none core) (now : MonoTime) :
    ((expiredRequests core now).map DataTransaction.commandId).Pairwise fun a b =>
      a.raw < b.raw := by
  have hsorted : (expiredRequests core now).Pairwise fun a b =>
      a.commandId.raw ≤ b.commandId.raw := List.pairwise_insertionSort _ _
  have hlist := expiryList_expiredRequests (t := Turn.start core) h now
  refine List.pairwise_map.mpr ((hsorted.and hlist.distinct).imp_of_mem ?_)
  rintro a b ha hb ⟨hle, hne⟩
  refine lt_of_le_of_ne hle fun heq => hne ?_
  exact h.request_unique _ _ a b (hlist.live a ha) (hlist.live b hb) (congrArg InternalId.mk heq)

/-- The T3 loop times out the listed Requests. -/
theorem Expires.timeouts {t t' : Turn} {requests : List DataTransaction}
    (h : Expires t t' requests) :
    t'.timeouts = t.timeouts ++ requests.map DataTransaction.commandId := by
  unfold Turn.timeouts
  rw [h.actions, List.filterMap_append]
  congr 1
  rw [List.filterMap_map]
  exact congrFun List.filterMap_eq_map requests

/-- What the rest of `expire_deadlines` does once the T3 loop is through: nothing times out, and
while identifiers are left the Core stays open and keeps every command but that of the drain. -/
structure Follows (t t' : Turn) : Prop where
  timeouts : t'.timeouts = t.timeouts
  kept : t.core.nextWriteId ≠ none → t.core.nextSystemBytes ≠ none →
    t'.core.closing = false ∧ ∀ c : CommandId,
      (∀ drain, t.core.deselectDrain = some drain → drain.commandId ≠ c) →
      t.core.openCommands[c]?.isSome = true → t'.core.openCommands[c]?.isSome = true

/-- A transaction that starts. -/
theorem follows_startTransaction {t t' : Turn} {kind : TransactionKind} {c : Option CommandId}
    (hlive : t.core.closing = false) (htimeouts : t'.timeouts = t.timeouts)
    (hcore : t'.core.closing = t.core.closing ∧ t'.core.nextWriteId = t.core.nextWriteId ∧
      t'.core.nextSystemBytes = t.core.nextSystemBytes ∧
      t'.core.openCommands = t.core.openCommands) :
    Follows t (t'.startTransaction kind c) := by
  obtain ⟨hclosing, hwrite, hbytes, hopen⟩ := hcore
  rcases t'.startTransaction_cases kind c with ⟨hnone, reason, heq⟩ | ⟨sb, w, heq⟩
  · rw [heq]
    refine ⟨(timeouts_endGeneration t' reason).trans htimeouts, ?_⟩
    rw [hwrite, hbytes] at hnone
    exact fun h1 h2 => absurd hnone (not_or.mpr ⟨h1, h2⟩)
  · rw [heq]
    refine ⟨(timeouts_append fun a ha => by rw [List.mem_singleton.mp ha]; rfl).trans htimeouts,
      fun _ _ => ⟨hclosing.trans hlive, fun c _ hc => ?_⟩⟩
    show t'.core.openCommands[c]?.isSome = true
    rwa [hopen]

theorem follows_probeIdle {t : Turn} (hlive : t.core.closing = false) (now : MonoTime) :
    Follows t (t.probeIdle now) := by
  unfold probeIdle
  rw [if_neg (by simp [hlive])]
  split
  · exact follows_startTransaction hlive rfl ⟨rfl, rfl, rfl, rfl⟩
  · exact ⟨rfl, fun _ _ => ⟨hlive, fun _ _ hc => hc⟩⟩

theorem follows_tail {t : Turn} (h : Coherent none t.core) (hlive : t.core.closing = false)
    (now : MonoTime) : Follows t ((t.progressDeselect now).probeIdle now) := by
  rcases progressDeselect_cases h hlive now with ⟨heq, -⟩ | ⟨drain, hdrain, ⟨result, heq⟩ | heq⟩
  · rw [heq]
    exact follows_probeIdle hlive now
  · rw [heq]
    have hsettle : Spares (· = drain.commandId) t.dropDrain
        (t.dropDrain.settle drain.commandId (.control result)) := spares_settle _ rfl rfl
    have hprobe := follows_probeIdle (t := t.dropDrain.settle drain.commandId (.control result))
      hlive now
    refine ⟨hprobe.timeouts.trans hsettle.timeouts, fun hwrite hbytes => ?_⟩
    obtain ⟨hlive', hkept⟩ := hprobe.kept hwrite hbytes
    exact ⟨hlive', fun c hc hopen => hkept c nofun
      (hsettle.kept hlive c (Ne.symm (hc drain hdrain)) hopen)⟩
  · have hstart : Follows t (t.dropDrain.startTransaction .deselect (some drain.commandId)) :=
      follows_startTransaction hlive rfl ⟨rfl, rfl, rfl, rfl⟩
    -- a transaction that has started takes the slot, so nothing is probed
    have hidle : (t.dropDrain.startTransaction .deselect (some drain.commandId)).probeIdle now =
        t.dropDrain.startTransaction .deselect (some drain.commandId) := by
      unfold probeIdle
      split
      · rfl
      · rename_i hopen
        have hbusy := startTransaction_busy (t := t.dropDrain) .deselect (some drain.commandId)
          (Bool.eq_false_of_not_eq_true hopen)
        refine if_neg fun hprobe => hbusy ?_
        simp only [Bool.and_eq_true, Option.isNone_iff_eq_none] at hprobe
        exact hprobe.1.1
    rw [heq, hidle]
    exact hstart

/-- Between `t` and `t'` the commands `ids` time out, in CommandId order, and with them, while
identifiers are left, no other command ends but that of a drain. -/
structure TimesOut (t t' : Turn) (ids : List CommandId) : Prop where
  timeouts : t'.timeouts = t.timeouts ++ ids
  ordered : ids.Pairwise fun a b => a.raw < b.raw
  live : ids ≠ [] → t.core.closing = false
  kept : ids ≠ [] → t.core.nextWriteId ≠ none → t.core.nextSystemBytes ≠ none →
    t'.core.closing = false ∧ ∀ c : CommandId, c ∉ ids →
      (∀ drain, t.core.deselectDrain = some drain → drain.commandId ≠ c) →
      t.core.openCommands[c]?.isSome = true → t'.core.openCommands[c]?.isSome = true

theorem TimesOut.of_none {t t' : Turn} (h : t'.timeouts = t.timeouts) : TimesOut t t' [] :=
  ⟨h.trans (List.append_nil _).symm, .nil, fun hne => absurd rfl hne, fun hne => absurd rfl hne⟩

/-- What one call of `expire_deadlines` times out. -/
theorem expireDeadlines_timesOut {t : Turn} (h : Coherent none t.core) (now : MonoTime) :
    ∃ ids, TimesOut t (t.expireDeadlines now) ids := by
  rcases t.expireDeadlines_cases now with ⟨-, heq⟩ | heq | ⟨transaction, -, heq⟩ |
    ⟨hlive, -, -, -, heq⟩
  · exact ⟨[], .of_none (congrArg Turn.timeouts heq)⟩
  · rw [heq]
    exact ⟨[], .of_none (timeouts_endGeneration t _)⟩
  · rw [heq]
    have hdrop : Spares (fun _ => True) t ((t.update fun core =>
        { core with activeTransaction := none }).completeControlTransaction transaction
          (.error (.timeout .t6))) := by
      unfold completeControlTransaction
      split
      · refine Spares.trans ?_ (spares_completeControl _ trivial _)
        exact .of_eq rfl rfl rfl ⟨rfl, rfl, rfl⟩
      · exact .of_eq rfl rfl rfl ⟨rfl, rfl, rfl⟩
    exact ⟨[], .of_none (hdrop.ended _).timeouts⟩
  · have hexpires := expires_expiredRequests h hlive now
    rw [heq]
    generalize (expiredRequests t.core now).foldl expireRequest t = t1 at hexpires
    have hlive1 : t1.core.closing = false := by rw [hexpires.frame]; exact hlive
    have hsame : t1.core.nextWriteId = t.core.nextWriteId ∧
        t1.core.nextSystemBytes = t.core.nextSystemBytes ∧
        t1.core.deselectDrain = t.core.deselectDrain := by
      rw [hexpires.frame]
      exact ⟨rfl, rfl, rfl⟩
    have htail := follows_tail hexpires.coherent hlive1 now
    have hkept := htail.kept
    rw [hsame.1, hsame.2.1, hsame.2.2] at hkept
    refine ⟨(expiredRequests t.core now).map DataTransaction.commandId,
      htail.timeouts.trans hexpires.timeouts, pairwise_expiredRequests h now, fun _ => hlive,
      fun _ hwrite hbytes => ⟨(hkept hwrite hbytes).1, fun c hc hdrain hopen =>
        (hkept hwrite hbytes).2 c hdrain ?_⟩⟩
    rwa [hexpires.openCommands, if_neg hc]

end Turn

/-! ## Rounds that time something out -/

section

variable {core : SessionCore}

/-- The command is that of the waiting Deselect, or of the write whose outcome the round takes. -/
def SessionCore.Settled (core : SessionCore) (input : Input) (c : CommandId) : Prop :=
  (∃ drain, core.deselectDrain = some drain ∧ drain.commandId = c) ∨
  ∃ w outcome occurredAt now write, input = .writeOutcome w outcome occurredAt now ∧
    core.pendingWrites[w]? = some write ∧ write.commandId = some c

/-- What times out in a round does so in CommandId order, and while identifiers are left the other
commands stay open, apart from those that the round settles otherwise. -/
structure SessionCore.OnlyTimesOut (core : SessionCore) (input : Input) (round : Turn) : Prop where
  ordered : round.timeouts.Pairwise fun a b => a.raw < b.raw
  kept : round.timeouts ≠ [] → core.nextWriteId ≠ none → core.nextSystemBytes ≠ none →
    round.core.closing = false ∧ ∀ c : CommandId, c ∉ round.timeouts → ¬ core.Settled input c →
      core.openCommands[c]?.isSome = true → round.core.openCommands[c]?.isSome = true

theorem SessionCore.OnlyTimesOut.of_none {input : Input} {round : Turn} (h : round.timeouts = []) :
    core.OnlyTimesOut input round where
  ordered := by rw [h]; exact .nil
  kept hne := absurd h hne

/-- A part of the round that ends at most what the round settles, followed by `expire_deadlines`. -/
theorem onlyTimesOut_of_spares {input : Input} {t : Turn} {now : MonoTime}
    (hspares : Turn.Spares (core.Settled input) (Turn.start core) t) (h : Coherent none t.core) :
    core.OnlyTimesOut input (t.expireDeadlines now) := by
  obtain ⟨ids, htimes⟩ := Turn.expireDeadlines_timesOut h now
  have hids : (t.expireDeadlines now).timeouts = ids := by
    rw [htimes.timeouts, hspares.timeouts]
    rfl
  constructor
  · rw [hids]
    exact htimes.ordered
  · rw [hids]
    intro hne hwrite hbytes
    obtain ⟨hsameWrite, hsameBytes, hsameDrain⟩ := hspares.frame (htimes.live hne)
    obtain ⟨hlive, hkept⟩ := htimes.kept hne (hsameWrite ▸ hwrite) (hsameBytes ▸ hbytes)
    refine ⟨hlive, fun c hc hsettled hopen => hkept c hc (fun drain hdrain heq => ?_)
      (hspares.kept (htimes.live hne) c hsettled hopen)⟩
    exact hsettled (Or.inl ⟨drain, hsameDrain ▸ hdrain, heq⟩)

theorem onlyTimesOut_advanceTime (h : Coherent none core) (now : MonoTime) :
    core.OnlyTimesOut (.advanceTime now) (core.advanceTime now) := by
  unfold SessionCore.advanceTime
  rcases (Turn.start core).acceptTime_cases now with ⟨-, heq⟩ | ⟨-, heq⟩
  · rw [heq]
    exact .of_none (Turn.timeouts_endGeneration (Turn.start core) _)
  · rw [heq]
    exact onlyTimesOut_of_spares (.of_eq rfl rfl rfl ⟨rfl, rfl, rfl⟩) (h.observe rfl)

/-- The round of a write outcome, once the write has left the table. -/
theorem onlyTimesOut_settleWrite {t : Turn} {w : WriteId} {write : PendingWrite}
    {outcome : WriteOutcome} {occurredAt now : MonoTime}
    (hspares : Turn.Spares (core.Settled (.writeOutcome w outcome occurredAt now))
      (Turn.start core) t)
    (hsettled : ∀ c, write.commandId = some c →
      core.Settled (.writeOutcome w outcome occurredAt now) c)
    (h : Turn.releasedError t.core write outcome = none →
      Coherent none (t.resolveWrite w write outcome occurredAt).core ∨ t.core.closing = true) :
    core.OnlyTimesOut (.writeOutcome w outcome occurredAt now)
      (t.settleWrite w write outcome occurredAt now) := by
  unfold Turn.settleWrite
  cases hreleased : Turn.releasedError t.core write outcome with
  | some released =>
    obtain ⟨c, error⟩ := released
    refine .of_none ?_
    have hdropped : Turn.Spares (fun _ => True) t (t.update fun core =>
        { core with deferredErrors := core.deferredErrors.erase c }) :=
      .of_eq rfl rfl rfl ⟨rfl, rfl, rfl⟩
    exact ((hdropped.trans (Turn.spares_completeError _ trivial error)).timeouts).trans
      hspares.timeouts
  | none =>
    have hresolve := hspares.trans (Turn.spares_resolveWrite t w write outcome occurredAt hsettled)
    rcases h hreleased with hcoherent | hclosing
    · exact onlyTimesOut_of_spares hresolve hcoherent
    · refine .of_none ?_
      dsimp only
      rw [expireDeadlines_of_closing ((Turn.spares_resolveWrite t w write outcome occurredAt
        hsettled).closing hclosing)]
      exact hresolve.timeouts

theorem onlyTimesOut_onWriteOutcomeAt (h : Coherent none core) (w : WriteId)
    (outcome : WriteOutcome) (occurredAt now : MonoTime) :
    core.OnlyTimesOut (.writeOutcome w outcome occurredAt now)
      (core.onWriteOutcomeAt w outcome occurredAt now) := by
  have hfail : ∀ {t : Turn}, t.timeouts = [] →
      core.OnlyTimesOut (.writeOutcome w outcome occurredAt now) t.failRuntimeInvariant := fun ht =>
    .of_none ((Turn.timeouts_endGeneration _ _).trans ht)
  unfold SessionCore.onWriteOutcomeAt
  rcases (Turn.start core).acceptTime_cases now with ⟨-, heq⟩ | ⟨-, heq⟩
  · rw [heq]
    exact hfail rfl
  · rw [heq]
    dsimp only
    split
    · exact hfail rfl
    · cases hpending : core.pendingWrites[w]? with
      | none =>
        rw [show ((Turn.start core).update fun core =>
          { core with lastNow := some now }).core.pendingWrites[w]? = none from hpending]
        exact hfail rfl
      | some write =>
        rw [show ((Turn.start core).update fun core =>
          { core with lastNow := some now }).core.pendingWrites[w]? = some write from hpending]
        dsimp only
        have hsettled : ∀ c, write.commandId = some c →
            core.Settled (.writeOutcome w outcome occurredAt now) c := fun c hc =>
          Or.inr ⟨w, outcome, occurredAt, now, write, rfl, hpending, hc⟩
        generalize htick : (Turn.start core).update (fun core =>
          { core with lastNow := some now }) = t
        have hcoherent : Coherent none t.core := by
          rw [← htick]
          exact h.observe rfl
        have hpending : t.core.pendingWrites[w]? = some write := by
          rw [← htick]
          exact hpending
        have hspares : Turn.Spares (core.Settled (.writeOutcome w outcome occurredAt now))
            (Turn.start core) (t.update fun core => core.eraseWrite w) := by
          rw [← htick]
          exact .of_eq rfl rfl rfl ⟨rfl, rfl, rfl⟩
        -- the outcome takes effect on a coherent Core, unless its activity has closed it
        have hresolve : ∀ {t : Turn}, Coherent none t.core → t.core.pendingWrites[w]? = some write →
            Turn.releasedError t.core write outcome = none → Coherent none
              ((t.update fun core => core.eraseWrite w).resolveWrite w write outcome
                occurredAt).core := by
          intro t ht hw hreleased
          have hruns : Runs t.core (.writeOutcome w outcome occurredAt now) t none _ none :=
            runs_resolveWrite ht hw hreleased rfl
          exact hruns.coherent ht
        split
        · refine onlyTimesOut_settleWrite
            (hspares.trans (Turn.spares_recordActivity _ occurredAt)) hsettled fun hreleased => ?_
          rcases (t.update fun core => core.eraseWrite w).recordActivity_cases occurredAt with
            ⟨-, lastActivity, idleDeadline, hrecord⟩ | ⟨lastActivity, hrecord⟩
          · -- the activity does not touch the write, so it can be recorded first
            have hobserve : Coherent none (t.update fun core =>
                { core with lastActivity := lastActivity, idleDeadline := idleDeadline }).core :=
              hcoherent.observe rfl
            rw [show (t.update fun core => { core with
              pendingWrites := core.pendingWrites.erase w }).recordActivity occurredAt = _ from
                hrecord] at hreleased ⊢
            exact Or.inl (hresolve hobserve hpending hreleased)
          · rw [show (t.update fun core => { core with
              pendingWrites := core.pendingWrites.erase w }).recordActivity occurredAt = _ from
                hrecord]
            exact Or.inr (Turn.endGeneration_closing _ _)
        · exact onlyTimesOut_settleWrite hspares hsettled fun hreleased =>
            Or.inl (hresolve hcoherent hpending hreleased)

/-- **T3 only retires its Request**: what times out in a round does so in CommandId order, and no
other command ends with it. -/
theorem onlyTimesOut_handle (h : Coherent none core) (input : Input)
    (hticks : (core.handle input).timeouts ≠ [] → input.isTick = true) :
    core.OnlyTimesOut input (core.handle input) := by
  by_cases hnone : (core.handle input).timeouts = []
  · exact .of_none hnone
  · have hinput := hticks hnone
    cases input with
    | advanceTime now => exact onlyTimesOut_advanceTime h now
    | writeOutcome w outcome occurredAt now =>
      exact onlyTimesOut_onWriteOutcomeAt h w outcome occurredAt now
    | connected _ | command _ _ | message _ _ | inboundViolation _ _ | reply _ _ _ _ _
    | shutdown _ _ _ | finishShutdownDrain _ _ | finalizeWriter _ => cases hinput

end

/-- A command that a round times out has its completion among the actions. -/
theorem mem_timeouts {t : Turn} {c : CommandId} :
    c ∈ t.timeouts ↔ ∃ header, .completeCommand c (.requestTimedOut header) ∈ t.actions := by
  unfold Turn.timeouts
  rw [List.mem_filterMap]
  constructor
  · rintro ⟨action, hmem, htimes⟩
    cases action with
    | completeCommand c' result =>
      cases result with
      | requestTimedOut header =>
        obtain rfl := Option.some.inj htimes
        exact ⟨header, hmem⟩
      | control _ | send _ | request _ => cases htimes
    | sendFrame | sessionStateChanged | deliverPrimary | closeGeneration => cases htimes
  · rintro ⟨header, hmem⟩
    exact ⟨_, hmem, rfl⟩

/-- **Timers make progress and never fire early**, in every run.  After `advance_time(now)` nothing
is due; where nothing was due and no Deselect drain is pending it emits nothing and changes only
`last_now`.  A Request times out only when T3 has passed since the committed outcome of its write,
with the header of the frame sent for it, and in a round that lets timers expire; the Requests that
time out together do so in CommandId order, and as long as identifiers are left no other command
ends in that round but that of an ending drain and that of the write whose outcome it takes. -/
theorem timers_progress (config : SessionCoreConfig) (nextWriteId : Option UInt64)
    (nextSystemBytes : Option UInt32) (inputs : List Input) :
    let core := machine.after (SessionCore.initial config nextWriteId nextSystemBytes) inputs
    let past := machine.labelled.history (SessionCore.initial config nextWriteId nextSystemBytes)
      inputs
    (∀ now, core.AcceptsTime now → (core.handle (.advanceTime now)).core.Rests now) ∧
    (∀ now, core.AcceptsTime now → core.deselectDrain = none → core.Rests now →
      core.handle (.advanceTime now) = ⟨{ core with lastNow := some now }, [], false⟩) ∧
    (∀ input c header, .completeCommand c (.requestTimedOut header) ∈ (core.handle input).actions →
      input.isTick = true ∧ ∃ w frame occurredAt at_ deadline,
        requestOf past c = some (w, frame) ∧ frame.header = header ∧
        .writeOutcome w .committed occurredAt at_ ∈ inputs ++ [input] ∧
        occurredAt.checkedAdd config.timeouts.t3 = some deadline ∧ deadline ≤ input.now) ∧
    ∀ input, core.OnlyTimesOut input (core.handle input) := by
  intro core past
  have hcoherent : Coherent none core := coherent_run config nextWriteId nextSystemBytes inputs
  have hmatched : Matched past core := matched_run config nextWriteId nextSystemBytes inputs
  have harmed : core.Armed inputs := armed_run config nextWriteId nextSystemBytes inputs
  have hconfig : core.config = config := config_run config nextWriteId nextSystemBytes inputs
  have haccepted : ∀ now, core.AcceptsTime now → core.handle (.advanceTime now) =
      ((Turn.start core).update fun core => { core with lastNow := some now }).expireDeadlines
        now := by
    intro now haccepts
    show core.advanceTime now = _
    unfold SessionCore.advanceTime
    rcases (Turn.start core).acceptTime_cases now with ⟨hnot, -⟩ | ⟨-, heq⟩
    · exact absurd haccepts hnot
    · rw [heq]
  have htimeout : ∀ input c header,
      .completeCommand c (.requestTimedOut header) ∈ (core.handle input).actions →
      input.isTick = true ∧ ∃ w frame occurredAt at_ deadline,
        requestOf past c = some (w, frame) ∧ frame.header = header ∧
        .writeOutcome w .committed occurredAt at_ ∈ inputs ++ [input] ∧
        occurredAt.checkedAdd config.timeouts.t3 = some deadline ∧ deadline ≤ input.now := by
    intro input c header ha
    rw [← hconfig]
    exact timeout_of_handle hcoherent hmatched harmed ha
  refine ⟨fun now haccepts => ?_, fun now haccepts hdrain hrests => ?_, htimeout, fun input => ?_⟩
  · rw [haccepted now haccepts]
    exact Turn.expireDeadlines_rests (hcoherent.observe rfl) now
  · rw [haccepted now haccepts, Turn.expireDeadlines_of_rests hrests hdrain]
    rfl
  · refine onlyTimesOut_handle hcoherent input fun hne => ?_
    obtain ⟨c, hc⟩ := List.exists_mem_of_ne_nil _ hne
    obtain ⟨header, ha⟩ := mem_timeouts.mp hc
    exact (htimeout input c header ha).1

end Hsms
end SecsRust

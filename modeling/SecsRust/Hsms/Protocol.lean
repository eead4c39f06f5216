import SecsRust.Secs2.Item
import SecsRust.Hsms.Model

/-!
# Protocol values and error vocabulary

The header and control-message values of `hsms/protocol`, the recoverable inbound
violations, and the stable errors of `hsms/error.rs` and `hsms/api/event.rs` that the
Session Core emits.

A Data header is structurally valid by its type: its Data Session ID is not the one of
control traffic, and its stream has seven bits.  A control message keeps every byte of its
header that has no fixed value, also the raw status of a response, since a status without a
name is still reported as it came.
-/

namespace SecsRust
namespace Hsms

open Secs2

/-- `CONTROL_SESSION_ID`: the Session ID of locally generated control traffic. -/
def controlSessionId : UInt16 := 0xFFFF

/-! ## Data messages -/

/-- `DataHeader`: a structurally valid HSMS Data header.  Its Session ID is not the one that is
reserved for control messages. -/
structure DataHeader where
  sessionId : SessionId
  stream : Stream
  function : Function
  replyExpected : Bool
  systemBytes : SystemBytes
  deriving DecidableEq

/-- `DataMessage`: a header with optional decoded Message Text. -/
structure DataMessage where
  header : DataHeader
  body : Option SecsItem

/-! ## Control messages -/

/-- `SelectStatus`: the raw `Select.rsp` status byte. -/
structure SelectStatus where
  raw : UInt8
  deriving DecidableEq

namespace SelectStatus

def success : SelectStatus := ⟨0⟩
def alreadyActive : SelectStatus := ⟨1⟩
def notReady : SelectStatus := ⟨2⟩

/-- `is_success`: the E37 success value is zero. -/
def IsSuccess (status : SelectStatus) : Prop := status.raw = 0

instance (status : SelectStatus) : Decidable status.IsSuccess :=
  inferInstanceAs (Decidable (status.raw = 0))

end SelectStatus

/-- `DeselectStatus`: the raw `Deselect.rsp` status byte. -/
structure DeselectStatus where
  raw : UInt8
  deriving DecidableEq

namespace DeselectStatus

def success : DeselectStatus := ⟨0⟩
def notSelected : DeselectStatus := ⟨1⟩
def busy : DeselectStatus := ⟨2⟩

/-- `is_success`: the E37 success value is zero. -/
def IsSuccess (status : DeselectStatus) : Prop := status.raw = 0

instance (status : DeselectStatus) : Decidable status.IsSuccess :=
  inferInstanceAs (Decidable (status.raw = 0))

end DeselectStatus

/-- A `NonZeroU8`, as Rust has it: the number with the proof that it is not zero. -/
structure NonZeroU8 where
  raw : UInt8
  nonzero : raw ≠ 0
  deriving DecidableEq

/-- `RejectReason`: a non-zero `Reject.req` reason byte. -/
structure RejectReason where
  raw : UInt8
  nonzero : raw ≠ 0
  deriving DecidableEq

namespace RejectReason

def unsupportedStype : RejectReason := ⟨1, by decide⟩
def unsupportedPtype : RejectReason := ⟨2, by decide⟩
def transactionNotOpen : RejectReason := ⟨3, by decide⟩
def entityNotSelected : RejectReason := ⟨4, by decide⟩

/-- `is_base_standard`: one of E37's four named reasons. -/
def IsBaseStandard (reason : RejectReason) : Prop := reason.raw ≤ entityNotSelected.raw

instance (reason : RejectReason) : Decidable reason.IsBaseStandard :=
  inferInstanceAs (Decidable (reason.raw ≤ entityNotSelected.raw))

theorem isBaseStandard_iff (reason : RejectReason) :
    reason.IsBaseStandard ↔
      reason.raw = 1 ∨ reason.raw = 2 ∨ reason.raw = 3 ∨ reason.raw = 4 := by
  have h := reason.nonzero
  simp only [IsBaseStandard, entityNotSelected, UInt8.le_iff_toNat_le, ← UInt8.toNat_inj,
    ne_eq, UInt8.reduceToNat] at h ⊢
  omega

end RejectReason

/-- `ControlMessage`: a header-only E37 control message.  Each constructor has the fields that
its header can carry, and no others. -/
inductive ControlMessage where
  | selectRequest (sessionId : UInt16) (systemBytes : SystemBytes)
  | selectResponse (sessionId : UInt16) (status : SelectStatus) (systemBytes : SystemBytes)
  | deselectRequest (sessionId : UInt16) (systemBytes : SystemBytes)
  | deselectResponse (sessionId : UInt16) (status : DeselectStatus) (systemBytes : SystemBytes)
  | linktestRequest (systemBytes : SystemBytes)
  | linktestResponse (systemBytes : SystemBytes)
  | rejectRequest (sessionId : UInt16) (headerByte2 : UInt8) (reason : RejectReason)
      (systemBytes : SystemBytes)
  | separateRequest (sessionId : UInt16) (systemBytes : SystemBytes)
  deriving DecidableEq

/-- `ProtocolMessage`: a direction-neutral semantic message. -/
inductive ProtocolMessage where
  | data (message : DataMessage)
  | control (message : ControlMessage)

/-! ## Inbound violations -/

/-- `HeaderSnapshot`: ten header bytes in wire order.  It has the bytes as they came, whether or
not they make sense. -/
structure HeaderSnapshot where
  bytes : Vector UInt8 10
  deriving DecidableEq

namespace HeaderSnapshot

/-- The raw two-byte Session ID, big-endian. -/
def sessionId (header : HeaderSnapshot) : UInt16 :=
  header.bytes[0].toUInt16 <<< 8 ||| header.bytes[1].toUInt16

/-- The raw Presentation Type byte. -/
def pType (header : HeaderSnapshot) : UInt8 := header.bytes[4]

/-- The raw Session Type byte. -/
def sType (header : HeaderSnapshot) : UInt8 := header.bytes[5]

/-- The raw four-byte System Bytes, big-endian. -/
def systemBytes (header : HeaderSnapshot) : UInt32 :=
  header.bytes[6].toUInt32 <<< 24 ||| header.bytes[7].toUInt32 <<< 16 |||
    header.bytes[8].toUInt32 <<< 8 ||| header.bytes[9].toUInt32

end HeaderSnapshot

/-- `HeaderViolationKind`: what is wrong with the header of a complete frame.  An unknown type
carries the byte that was found. -/
inductive HeaderViolationKind where
  | controlMessageHasText
  | invalidDataSessionId
  | invalidControlSessionId
  | invalidControlHeader
  | unknownPresentationType (pType : UInt8)
  | unknownSessionType (sType : UInt8)
  deriving DecidableEq

/-- `HeaderViolation`: the header is kept, since the Reject that answers it repeats parts of it. -/
structure HeaderViolation where
  header : HeaderSnapshot
  kind : HeaderViolationKind
  deriving DecidableEq

/-- `PayloadViolationKind`: the text is no SECS-II item, or it is one beyond the limits of the
decoder. -/
inductive PayloadViolationKind where
  | malformedSecs2
  | resourceLimitExceeded
  deriving DecidableEq

/-- `PayloadViolation`: a frame with a valid Data header whose text cannot be used. -/
structure PayloadViolation where
  header : DataHeader
  kind : PayloadViolationKind
  deriving DecidableEq

/-- `InboundViolation`: a frame that was read completely and cannot be interpreted.  The stream
goes on behind it. -/
inductive InboundViolation where
  | header (violation : HeaderViolation)
  | payload (violation : PayloadViolation)
  deriving DecidableEq

/-! ## Errors and notices -/

/-- `TimeoutKind`: the timer that a reported timeout names. -/
inductive TimeoutKind where
  | drain
  | connect
  | t3
  | t5
  | t6
  | t7
  | t8
  | linktest
  deriving DecidableEq

/-- `ProtocolError`: errors of the protocol as an application sees them. -/
inductive ProtocolError where
  | invalidPrimaryFunction (function : Function)
  | violation (description : String)
  | responseMismatch
  | transactionAborted
  deriving DecidableEq

/-- `MessageContext`: header bytes with the generation they belong to. -/
structure MessageContext where
  generation : ConnectionGeneration
  header : Vector UInt8 10
  deriving DecidableEq

/-- `EncodeError` of the SECS-II encoder. -/
inductive EncodeError where
  | itemBodyTooLarge (formatCode : UInt8) (bodyBytes : ℕ)
  | listTooLarge (childCount : ℕ)
  | arithmeticOverflow
  deriving DecidableEq

/-- `OperationError`: the failure of a typed endpoint operation. -/
inductive OperationError where
  | requestTimeout (context : MessageContext)
  | notRunning
  | notConnected
  | notSelected
  | alreadySelected
  | controlBusy
  | sessionDeselected
  | draining
  | faulted
  | staleConnectionGeneration
  | backpressure
  | selectRejected (status : NonZeroU8)
  | deselectRejected (status : NonZeroU8)
  | replyCapabilityUnavailable
  | replyRequiresAbort
  | peerRejected (reason : RejectReason)
  | timeout (kind : TimeoutKind)
  | connectionLost
  | deliveryIndeterminate
  | runtimeStopped
  | encode (error : EncodeError)
  | outboundFrameTooLarge (textLength maximumMessageLength : ℕ)
  | protocol (error : ProtocolError)
  deriving DecidableEq

/-- `PeerRejectDisposition`: what an inbound Reject was found to be about. -/
inductive PeerRejectDisposition where
  | operationRejected
  | autonomousRejected
  | unknown
  | ambiguous
  | late
  | duplicate
  | conflicting
  | unsupportedExtension
  deriving DecidableEq

/-- `PeerRejectNotice`: the report of an inbound Reject, with the reason that the peer has given. -/
structure PeerRejectNotice where
  reason : RejectReason
  disposition : PeerRejectDisposition
  deriving DecidableEq

/-- `ProtocolNotice`: a diagnostic observation of the current inbound round. -/
inductive ProtocolNotice where
  | secondaryMismatch
  | unmatchedSecondary
  | violation (error : ProtocolError)
  | peerReject (notice : PeerRejectNotice)
  | staleEventIgnored
  deriving DecidableEq

/-- `ReplyIntent`: the application's reply operation. -/
inductive ReplyIntent where
  | secondary
  | abort
  | abandon
  deriving DecidableEq

end Hsms
end SecsRust

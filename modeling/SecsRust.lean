import SecsRust.Hsms.Core.Session.Step
import SecsRust.Lib.Machine
import SecsRust.Lib.Ledger
import SecsRust.Hsms.Core.Session.Completion
import SecsRust.Hsms.Core.Session.Effect
import SecsRust.Hsms.Core.Session.Coherent
import SecsRust.Hsms.Core.Session.CoherentStep
import SecsRust.Hsms.Core.Session.Preservation
import SecsRust.Hsms.Core.Session.Trace
import SecsRust.Hsms.Core.Session.Rounds
import SecsRust.Hsms.Core.Session.Handle
import SecsRust.Hsms.Core.Session.Accounting
import SecsRust.Hsms.Core.Session.Ownership
import SecsRust.Hsms.Core.Session.Closing
import SecsRust.Hsms.Core.Session.Revocation
import SecsRust.Hsms.Core.Session.Authority
import SecsRust.Hsms.Core.Session.Writes
import SecsRust.Hsms.Core.Session.Procedure
import SecsRust.Hsms.Core.Session.Selection
import SecsRust.Hsms.Core.Session.Matching
import SecsRust.Hsms.Core.Session.Timing
import SecsRust.Lib.Frames
import SecsRust.Lib.Preorder
import SecsRust.Lib.BigEndian
import SecsRust.Secs2.Limits
import SecsRust.Secs2.Tree
import SecsRust.Secs2.Codec.Header
import SecsRust.Secs2.Codec.Element
import SecsRust.Secs2.Codec.Grammar
import SecsRust.Secs2.Codec.Encode
import SecsRust.Secs2.Codec.Accept
import SecsRust.Secs2.Codec.RoundTrip
import SecsRust.Secs2.Codec.Delimited
import SecsRust.Secs2.Codec.Passes
import SecsRust.Lib.Loop
import SecsRust.Sml.Scanner
import SecsRust.Sml.Parser
import SecsRust.Sml.Grammar
import SecsRust.Sml.AcceptText
import SecsRust.Sml.Formatter
import SecsRust.Sml.Agreement
import SecsRust.Hsms.Config
import SecsRust.Hsms.Wire.Frame
import SecsRust.Hsms.Generation.Transport.Reader
import SecsRust.Hsms.Generation.Transport.Worker
import SecsRust.Hsms.Generation.Driver.Settlement
import SecsRust.Hsms.Generation.Driver.Closing
import SecsRust.Hsms.Generation.Transport.ReaderWorker
import SecsRust.Hsms.Core.Session.Timed
import SecsRust.Lib.Feed
import SecsRust.Hsms.Generation.Transport.Tasks
import SecsRust.Hsms.Supervisor.Replacement
import SecsRust.Hsms.Generation.Driver.Deadlines
import SecsRust.Hsms.Endpoint.Budgets
import SecsRust.Secs2.Codec.Bounded
import SecsRust.Sml.Refusal
import SecsRust.Sml.ByteScanner
import SecsRust.Sml.Lossless
import SecsRust.Sml.Cut
import SecsRust.Sml.Reading
import SecsRust.Sml.Traced
import SecsRust.Sml.Decided
import SecsRust.Hsms.Core.Session.Deselection
import SecsRust.Hsms.Core.Session.Drain
import SecsRust.Hsms.Core.Session.Attribution
import SecsRust.Hsms.Core.Session.Visibility
import SecsRust.Hsms.Generation.Transport.Lanes
import SecsRust.Lib.Handshake
import SecsRust.Hsms.Core.Replies
import SecsRust.Hsms.Endpoint.Diagnostics
import SecsRust.Hsms.Endpoint.Acknowledgements
import SecsRust.Hsms.Generation.Graceful
import SecsRust.Hsms.Endpoint.Inbound

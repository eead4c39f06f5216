import SecsRust.Hsms.Model

/-!
# The exit of a generation

`hsms/supervisor/session.rs`: what the end of one connection generation tells its
supervisor.  An exit carries the generation that has ended, why it ended, and whether its
cleanup came to an end (`CleanupResult`). A poisoned exit says what was left behind, and the
generation keeps the slot until it is recovered.
-/

namespace SecsRust
namespace Hsms

/-- `CleanupPoison`: why a cleanup could not come to its end. -/
inductive CleanupPoison where
  | taskDidNotStop
  | invariantViolation
  deriving DecidableEq

/-- `CleanupResult`: only a clean one proves that nothing is left. -/
inductive CleanupResult where
  | clean
  | poisoned (poison : CleanupPoison)
  deriving DecidableEq

/-- `SessionExit`: the end of a generation, its first reason, and what its cleanup came to. -/
structure SessionExit where
  generation : ConnectionGeneration
  reason : GenerationCloseReason
  cleanup : CleanupResult
  deriving DecidableEq

end Hsms
end SecsRust

/-!
# Limits on messages
-/

namespace CommandLink

/-- The sizes that a server accepts. -/
structure MessageLimits where
  documentSize : Nat := 16 * 1024 * 1024
  messageSize : Nat := 48000000
  batchCount : Nat := 1000
  deriving DecidableEq, Repr

/-- The sizes assumed until a server has told its own. -/
def MessageLimits.initial : MessageLimits := {}

end CommandLink

import BadgeLink.Config.Document
import BadgeLink.Error
import BadgeLink.Files

/-!
# Failures

A session can fail before it reaches a badge, and a failure then says what was being done.  Its chain
starts with that and goes on with what caused it, one text for each cause.
-/

namespace BadgeLink

/-- Why a session has no result. -/
inductive Failure
  | badge (cause : Error)
  | connecting (cause : Error)
  | reading (path : String) (cause : FileFault)
  | parsing (path : String) (cause : Config.Fault)
  | hexData (text : String) (cause : Text.Hex.Fault)
  | zeroTimeout
  deriving Repr, DecidableEq

namespace Failure

/-- What failed, followed by what caused it. -/
def chain : Failure → List String
  | badge cause => cause.chain
  | connecting cause => "connecting to badge" :: cause.chain
  | reading path cause => [s!"reading config {path}", cause.message]
  | parsing path cause => [s!"parsing config {path}", cause.message]
  | hexData text cause => [s!"invalid hex data {Text.quoted text}", cause.message]
  | zeroTimeout => ["timeout must be greater than 0"]

def message (f : Failure) : String :=
  f.chain.headD ""

end Failure
end BadgeLink

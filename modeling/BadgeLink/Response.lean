import BadgeLink.Frame

/-!
# Responses

A device answers a frame with a status and a payload.  One status means success; any other comes with
its payload as an error.
-/

namespace BadgeLink

/-- What a device answers, without the length byte and the checksum. -/
inductive Response
  | ok (payload : List UInt8)
  | failed (status : UInt8) (payload : List UInt8)
  deriving Repr, DecidableEq

namespace Response

def okStatus : UInt8 :=
  0x80

/-- The status that acknowledges a reset. -/
def resetStatus : UInt8 :=
  0x81

/-- Takes apart what follows the length byte. -/
def ofBody (bytes : List UInt8) : Except Error Response :=
  (Frame.decodeBody bytes).map fun (status, payload) =>
    if status = okStatus then .ok payload else .failed status payload

def isOk : Response → Bool
  | ok _ => true
  | failed .. => false

def payload : Response → List UInt8
  | ok bytes => bytes
  | failed _ bytes => bytes

/-- The payload of a success; any other status is an error. -/
def toPayload : Response → Except Error (List UInt8)
  | ok bytes => .ok bytes
  | failed status bytes => .error (.refused status bytes)

/-- A response in one line, the status without padding. -/
def debug : Response → String
  | ok bytes => s!"OK[{Text.Hex.encode bytes}]"
  | failed status bytes =>
    "ERROR(" ++ String.ofList (Nat.toDigits 16 status.toNat) ++ s!")[{Text.Hex.encode bytes}]"

end Response
end BadgeLink

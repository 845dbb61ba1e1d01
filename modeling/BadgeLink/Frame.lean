import BadgeLink.Error

/-!
# Frames

Everything but a reset travels in a frame: a length byte, then as many bytes of body, then their
checksum.  The first byte of the body is a type byte on the way to the device and a status byte on the
way back.  The checksum is the exclusive or of the body, so the order of the bytes does not matter to it.
-/

namespace BadgeLink
namespace Frame

/-- The largest body that one length byte can describe. -/
def maxBody : Nat :=
  255

/-- The exclusive or of all bytes. -/
def checksum (bytes : List UInt8) : UInt8 :=
  bytes.foldl (· ^^^ ·) 0

/-- The frame with the given first byte and data, if the length byte can hold the size of its body. -/
def encode (first : UInt8) (data : List UInt8) : Except Error (List UInt8) :=
  let body := first :: data
  if maxBody < body.length then .error (.argument (.bodyLength body.length))
  else .ok (body.length.toUInt8 :: body ++ [checksum body])

/-- The frame of a device that replies with a status and nothing else. -/
def bare (status : UInt8) : List UInt8 :=
  [1, status, status]

/-- Takes apart what follows the length byte: the status and the payload, once the checksum agrees. -/
def decodeBody (bytes : List UInt8) : Except Error (UInt8 × List UInt8) :=
  match bytes.getLast?, bytes.dropLast with
  | none, _ => .error (.frame .missingChecksum)
  | some _, [] => .error (.frame .missingStatus)
  | some received, status :: payload =>
    let expected := checksum (status :: payload)
    if expected = received then .ok (status, payload) else .error (.checksum expected received)

end Frame
end BadgeLink

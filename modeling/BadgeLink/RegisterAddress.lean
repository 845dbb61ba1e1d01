import BadgeLink.Error

/-!
# Register addresses

The register of an I2C device is named by raw bytes or by a number.  A number travels big-endian in
the fewest bytes that hold it, and never in none.  Either way at most four bytes are sent.
-/

namespace BadgeLink

/-- The address of a register inside an I2C device. -/
inductive RegisterAddress
  | raw (bytes : List UInt8)
  | number (value : UInt64)
  deriving Repr, DecidableEq

namespace RegisterAddress

/-- The address that a number of up to 64 bits names, which does not depend on its width. -/
def ofWord {width : Nat} (value : BitVec width) : RegisterAddress :=
  number ⟨value.setWidth 64⟩

def ofUInt8 (value : UInt8) : RegisterAddress :=
  ofWord value.toBitVec

def ofUInt16 (value : UInt16) : RegisterAddress :=
  ofWord value.toBitVec

def ofUInt32 (value : UInt32) : RegisterAddress :=
  ofWord value.toBitVec

def ofUInt64 (value : UInt64) : RegisterAddress :=
  ofWord value.toBitVec

/-- The most bytes an address may have. -/
def maxLength : Nat :=
  4

/-- The number of bits up to the highest one that is set. -/
def bitLength (value : UInt64) : Nat :=
  if value = 0 then 0 else value.toNat.log2 + 1

/-- The fewest bytes that hold a value, one for zero. -/
def byteCount (value : UInt64) : Nat :=
  max ((bitLength value + 7) / 8) 1

/-- All eight bytes of a value, the highest first. -/
def bigEndian (value : UInt64) : List UInt8 :=
  ([56, 48, 40, 32, 24, 16, 8, 0] : List UInt64).map fun shift => (value >>> shift).toUInt8

/-- The lowest `byteCount` bytes of a value, the highest of them first. -/
def minimalBytes (value : UInt64) : List UInt8 :=
  (bigEndian value).drop (8 - byteCount value)

/-- The bytes of an address before their number is checked. -/
def bytes : RegisterAddress → List UInt8
  | raw b => b
  | number value => minimalBytes value

/-- The bytes that are sent for an address. -/
def toBytes (address : RegisterAddress) : Except Error (List UInt8) :=
  if maxLength < address.bytes.length then
    .error (.argument (.addressLength address.bytes.length))
  else .ok address.bytes

end RegisterAddress
end BadgeLink

import Lightstep.Common.Characters

/-! Values, and their conversion to JSON.

Every level of a value is written to one string stream, whose format flags stay as
they were set last. -/
namespace Lightstep.Common

/-- A double is its representation, and a dictionary is in the order in which it iterates. -/
inductive Value where
  | bool (value : Bool)
  | double (value : UInt64)
  | int64 (value : Int64)
  | uint64 (value : UInt64)
  | string (s : List UInt8)
  | null
  | cString (s : List UInt8)
  | values (values : List Value)
  | dictionary (dictionary : List (List UInt8 × Value))

/-- The bytes of a C string end before the first null. -/
def cStringView (s : List UInt8) : List UInt8 := s.takeWhile (· != 0)

/-! ### The stream -/

/-- What `operator<<` writes for a finite double. -/
class DoubleFormat where
  format : UInt64 → List UInt8

structure OStringStream where
  str : List UInt8
  hex : Bool
  width : Nat
  fill : UInt8

namespace OStringStream

def new : OStringStream := ⟨[], false, 0, 32⟩

/-- Fills up to the width, which is then 0 again. -/
def put (s : List UInt8) (writer : OStringStream) : OStringStream :=
  {writer with str := writer.str ++ List.replicate (writer.width - s.length) writer.fill ++ s, width := 0}

def setHex (writer : OStringStream) : OStringStream := {writer with hex := true}

def setW (n : Nat) (writer : OStringStream) : OStringStream := {writer with width := n}

def setFill (c : UInt8) (writer : OStringStream) : OStringStream := {writer with fill := c}

/-- `%llx`. -/
def hexadecimal (n : Nat) : List UInt8 := (Nat.toDigits 16 n).map fun c => c.toNat.toUInt8

/-- To the base 16 a number is written as an unsigned one. -/
def putInt64 (n : Int64) (writer : OStringStream) : OStringStream :=
  if writer.hex then writer.put (hexadecimal n.toUInt64.toNat)
  else if n < 0 then writer.put (45 :: decimal n.toInt.natAbs)
  else writer.put (decimal n.toInt.natAbs)

def putUInt64 (n : UInt64) (writer : OStringStream) : OStringStream :=
  if writer.hex then writer.put (hexadecimal n.toNat) else writer.put (decimal n.toNat)

end OStringStream

/-! ### JSON -/

open OStringStream

def writeEscapedChar (c : UInt8) (writer : OStringStream) : OStringStream :=
  if c = 34 then writer.put (ascii "\\\"")
  else if c = 92 then writer.put (ascii "\\\\")
  else if c = 8 then writer.put (ascii "\\b")
  else if c = 10 then writer.put (ascii "\\n")
  else if c = 13 then writer.put (ascii "\\r")
  else if c = 9 then writer.put (ascii "\\t")
  -- A character is signed, so those from 128 on are below 0.
  else if 0 ≤ c.toInt8 ∧ c.toInt8 ≤ 31 then
    ((((writer.put (ascii "\\u")).setHex).setW 4).setFill 48).putInt64 c.toInt8.toInt64
  else writer.put [c]

def writeEscapedString (s : List UInt8) (writer : OStringStream) : OStringStream :=
  (s.foldl (fun writer c => writeEscapedChar c writer) (writer.put (ascii "\""))).put (ascii "\"")

def isNan (bits : UInt64) : Bool := bits &&& 0x7fffffffffffffff > 0x7ff0000000000000

def isInf (bits : UInt64) : Bool := bits &&& 0x7fffffffffffffff == 0x7ff0000000000000

def signBit (bits : UInt64) : Bool := bits &&& 0x8000000000000000 != 0

variable [DoubleFormat]

def writeDouble (value : UInt64) (writer : OStringStream) : OStringStream :=
  if isNan value then writer.put (ascii "\"NaN\"")
  else if isInf value then
    if signBit value then writer.put (ascii "\"-Inf\"") else writer.put (ascii "\"+Inf\"")
  else writer.put (DoubleFormat.format value)

mutual

def writeJson (writer : OStringStream) : Value → OStringStream
  | .bool value => writer.put (if value then ascii "true" else ascii "false")
  | .double value => writeDouble value writer
  | .int64 value => writer.putInt64 value
  | .uint64 value => writer.putUInt64 value
  | .string s => writeEscapedString s writer
  | .null => writer.put (ascii "null")
  | .cString s => writeEscapedString (cStringView s) writer
  | .values values => (writeJsonValues (writer.put (ascii "[")) values).put (ascii "]")
  | .dictionary dictionary => (writeJsonDictionary (writer.put (ascii "\x7b")) dictionary).put (ascii "\x7d")

def writeJsonValues (writer : OStringStream) : List Value → OStringStream
  | [] => writer
  | [value] => writeJson writer value
  | value :: next :: rest => writeJsonValues ((writeJson writer value).put (ascii ",")) (next :: rest)

def writeJsonDictionary (writer : OStringStream) : List (List UInt8 × Value) → OStringStream
  | [] => writer
  | [(key, value)] => writeJson ((writeEscapedString key writer).put (ascii ":")) value
  | (key, value) :: next :: rest =>
    writeJsonDictionary ((writeJson ((writeEscapedString key writer).put (ascii ":")) value).put (ascii ","))
      (next :: rest)

end

def toJson (value : Value) : List UInt8 := (writeJson .new value).str

end Lightstep.Common

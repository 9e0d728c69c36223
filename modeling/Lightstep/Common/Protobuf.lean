import Lightstep.Common.WrittenFields

/-! Embedded messages, written to a stream by hand.

A message written so is one more field of the message that the stream is a part of. -/
namespace Lightstep.Common
open Library

def wireTypeLengthDelimited : UInt32 := 2

def protoFieldShift : UInt32 := 3

def computeStreamMessageKey (field wireType : UInt32) : UInt32 := (field <<< protoFieldShift) ||| wireType

def writeEmbeddedMessage (field : UInt32) (message : List Field) (stream : List UInt8) : List UInt8 :=
  let messageSize := (encodeFields message).length
  stream ++ varint (computeStreamMessageKey field wireTypeLengthDelimited).toNat ++ varint messageSize ++
    encodeFields message

theorem toNat_computeStreamMessageKey {field : UInt32} (h : field.toNat < 2 ^ 29) :
    (computeStreamMessageKey field wireTypeLengthDelimited).toNat = field.toNat * 8 + 2 := by
  have hshift : field.toNat <<< 3 = field.toNat * 8 := Nat.shiftLeft_eq _ 3
  have hlt : field.toNat * 8 < 2 ^ 32 := by omega
  have hor : field.toNat * 8 ||| 2 = field.toNat * 8 + 2 := by
    rw [← hshift]
    exact (Nat.shiftLeft_add_eq_or_of_lt (by decide : 2 < 2 ^ 3) _).symm
  simp only [computeStreamMessageKey, protoFieldShift, wireTypeLengthDelimited, UInt32.toNat_or, UInt32.toNat_shiftLeft]
  show field.toNat <<< (3 % 32) % 2 ^ 32 ||| 2 = _
  rw [Nat.mod_eq_of_lt (by decide : 3 < 32), hshift, Nat.mod_eq_of_lt hlt, hor]

/-- **An embedded message is a field** of the message it is written into. -/
theorem writeEmbeddedMessage_eq {field : UInt32} (h : field.toNat < 2 ^ 29) (message : List Field) (stream : List UInt8) :
    writeEmbeddedMessage field message stream =
      stream ++ (Library.Field.mk field.toNat (.lengthDelimited (encodeFields message))).encode := by
  rw [writeEmbeddedMessage, toNat_computeStreamMessageKey h, List.append_assoc, List.append_assoc]
  rfl

end Lightstep.Common

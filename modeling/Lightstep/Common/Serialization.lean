import Lightstep.Common.CodedOutputStream
import Lightstep.Common.Collector
import Lightstep.Common.Value

/-! Serializing fields by hand.

The size of a field is computed before it is written, for the length prefix that
comes first and for the memory that the field is written to. -/
namespace Lightstep.Common
open Library

/-- Only the wire types that are used. -/
inductive WireType where
  | varint
  | fixed64
  | lengthDelimited

def WireType.toNat : WireType → Nat
  | varint => 0
  | fixed64 => 1
  | lengthDelimited => 2

def staticSerializationKey (fieldNumber : Nat) (wireType : WireType) : UInt32 :=
  (fieldNumber <<< 3 ||| wireType.toNat).toUInt32

/-! ### Sizes -/

def staticKeySerializationSize (fieldNumber : Nat) (wireType : WireType) : Nat :=
  varintSize (staticSerializationKey fieldNumber wireType).toNat

def computeVarintSerializationSize (fieldNumber x : Nat) : Nat :=
  staticKeySerializationSize fieldNumber .varint + varintSize x

def computeLengthDelimitedHeaderSerializationSize (fieldNumber length : Nat) : Nat :=
  staticKeySerializationSize fieldNumber .lengthDelimited + varintSize length

def computeLengthDelimitedSerializationSize (fieldNumber length : Nat) : Nat :=
  staticKeySerializationSize fieldNumber .lengthDelimited + varintSize length + length

/-! ### Fields -/

section
variable {S : Type} [OutputStream S]

def writeKeyLength (fieldNumber length : Nat) (stream : S) : S :=
  writeVarint32 length.toUInt32 (writeTag (staticSerializationKey fieldNumber .lengthDelimited) stream)

/-- The data is the representation of a double, in the byte order of the machine. -/
def writeFixed64 (fieldNumber : Nat) (data : UInt64) (stream : S) : S :=
  put (some (littleEndian 8 data.toNat)) (writeTag (staticSerializationKey fieldNumber .fixed64) stream)

def writeVarintField64 (fieldNumber : Nat) (x : UInt64) (stream : S) : S :=
  writeVarint64 x (writeTag (staticSerializationKey fieldNumber .varint) stream)

def writeVarintField32 (fieldNumber : Nat) (x : UInt32) (stream : S) : S :=
  writeVarint32 x (writeTag (staticSerializationKey fieldNumber .varint) stream)

def writeBigVarint (fieldNumber : Nat) (x : UInt64) (stream : S) : S :=
  writeBigVarint64 x (writeTag (staticSerializationKey fieldNumber .varint) stream)

end

namespace CodedOutputStream

def getDirectBufferForNBytesAndAdvance (stream : CodedOutputStream) (n : Nat) : Option (Vector UInt8 n) :=
  stream.bytes.bind fun bytes => stream.directBuffer bytes n

/-- The memory of `n` bytes after it has been written to. -/
def fill {n : Nat} (memory : Vector UInt8 n) (direct : DirectCodedOutputStream) (stream : CodedOutputStream) :
    CodedOutputStream :=
  put (fillMemory memory.toList direct.written) stream

/-- What is written into memory if the stream has it, and to the stream if not. -/
def withDirectBuffer (totalSize : Nat) (serializer : Serializer) (stream : CodedOutputStream) : CodedOutputStream :=
  withSize totalSize (fun stream =>
    match stream.getDirectBufferForNBytesAndAdvance totalSize with
    | some memory => stream.fill memory (serializer.direct ⟨some []⟩)
    | none => serializer.coded stream) stream

end CodedOutputStream

/-- The overloads of `WriteLengthDelimitedField`. -/
class LengthDelimitedStream (S : Type) extends OutputStream S where
  writeLengthDelimitedField : Nat → Nat → Serializer → S → S

export LengthDelimitedStream (writeLengthDelimitedField)

instance : LengthDelimitedStream CodedOutputStream where
  writeLengthDelimitedField fieldNumber serializationSize serializer stream :=
    let totalSize := computeLengthDelimitedSerializationSize fieldNumber serializationSize
    stream.withDirectBuffer totalSize
      { coded := fun stream => serializer.coded (writeKeyLength fieldNumber serializationSize stream)
        direct := fun stream => serializer.direct (writeKeyLength fieldNumber serializationSize stream) }

instance : LengthDelimitedStream DirectCodedOutputStream where
  writeLengthDelimitedField fieldNumber serializationSize serializer stream :=
    serializer.direct (writeKeyLength fieldNumber serializationSize stream)

/-- A functor from a template. -/
def Serializer.of (f : {S : Type} → [LengthDelimitedStream S] → S → S) : Serializer := ⟨f, f⟩

def stringSerializer (s : List UInt8) : Serializer := .of (writeRaw s)

section
variable {S : Type} [LengthDelimitedStream S]

def writeString (fieldNumber : Nat) (s : List UInt8) (stream : S) : S :=
  writeLengthDelimitedField fieldNumber s.length (stringSerializer s) stream

end

/-! ### Timestamps -/

/-- Nanoseconds since the epoch of the clock. -/
abbrev SystemTime := Int64

/-- Seconds and nanoseconds; the division is that of the unsigned constant. -/
def protobufFormatTimestamp (t : SystemTime) : UInt64 × UInt32 :=
  (t.toUInt64 / 1000000000, (t.toUInt64 % 1000000000).toUInt32)

def computeTimestampSerializationSize (secondsSinceEpoch : UInt64) (nanoFraction : UInt32) : Nat :=
  computeVarintSerializationSize 1 secondsSinceEpoch.toNat + computeVarintSerializationSize 2 nanoFraction.toNat

section
variable {S : Type}

def writeTimestampImpl [OutputStream S] (secondsSinceEpoch : UInt64) (nanoFraction : UInt32) (stream : S) : S :=
  writeVarintField32 2 nanoFraction (writeVarintField64 1 secondsSinceEpoch stream)

def timestampSerializer (secondsSinceEpoch : UInt64) (nanoFraction : UInt32) : Serializer :=
  .of (writeTimestampImpl secondsSinceEpoch nanoFraction)

def writeTimestampParts [LengthDelimitedStream S] (fieldNumber serializationSize : Nat) (secondsSinceEpoch : UInt64)
    (nanoFraction : UInt32) (stream : S) : S :=
  writeLengthDelimitedField fieldNumber serializationSize (timestampSerializer secondsSinceEpoch nanoFraction) stream

end

def writeTimestamp (fieldNumber : Nat) (timestamp : SystemTime) (stream : CodedOutputStream) : CodedOutputStream :=
  let (secondsSinceEpoch, nanoFraction) := protobufFormatTimestamp timestamp
  let serializationSize := computeTimestampSerializationSize secondsSinceEpoch nanoFraction
  writeTimestampParts fieldNumber serializationSize secondsSinceEpoch nanoFraction stream

/-! ### Key-values -/

def keyValueKeyField : Nat := 1
def keyValueStringValueField : Nat := 2
def keyValueIntValueField : Nat := 3
def keyValueDoubleValueField : Nat := 4
def keyValueBoolValueField : Nat := 5
def keyValueJsonValueField : Nat := 6

section
variable [DoubleFormat]

/-- The size, and the string and the counter of JSON afterwards. -/
def computeKeyValueSerializationSize (key : List UInt8) (value : Value) (json : List UInt8) (jsonCounter : Nat) :
    Nat × List UInt8 × Nat :=
  let result := computeLengthDelimitedSerializationSize keyValueKeyField key.length
  let doBool (value : Bool) :=
    (result + computeVarintSerializationSize keyValueBoolValueField value.toNat, json, jsonCounter)
  let doInt64 (value : Int64) :=
    (result + computeVarintSerializationSize keyValueIntValueField value.toUInt64.toNat, json, jsonCounter)
  let doString (s : List UInt8) :=
    (result + computeLengthDelimitedSerializationSize keyValueStringValueField s.length, json, jsonCounter)
  let doJson :=
    (result + computeLengthDelimitedSerializationSize keyValueJsonValueField (toJson value).length, toJson value,
      jsonCounter + 1)
  match value with
  | .bool value => doBool value
  | .double _ => (result + (staticKeySerializationSize keyValueDoubleValueField .fixed64 + 8), json, jsonCounter)
  | .int64 value => doInt64 value
  | .uint64 value => doInt64 value.toInt64
  | .string s => doString s
  | .null => doBool false
  | .cString s => doString (cStringView s)
  | .values _ => doJson
  | .dictionary _ => doJson

end

/-- The JSON of the field comes from the pass that computed its size. -/
def writeKeyValueImpl (key : List UInt8) (value : Value) (jsonValues : List (List UInt8)) (jsonCounter : Nat)
    (stream : CodedOutputStream) : CodedOutputStream × Nat :=
  let stream := writeString keyValueKeyField key stream
  let doBool (value : Bool) := (writeVarintField32 keyValueBoolValueField value.toNat.toUInt32 stream, jsonCounter)
  let doInt64 (value : Int64) := (writeVarintField64 keyValueIntValueField value.toUInt64 stream, jsonCounter)
  let doString (s : List UInt8) := (writeString keyValueStringValueField s stream, jsonCounter)
  let doJson := (writeString keyValueJsonValueField (jsonValues.getD jsonCounter []) stream, jsonCounter + 1)
  match value with
  | .bool value => doBool value
  | .double value => (writeFixed64 keyValueDoubleValueField value stream, jsonCounter)
  | .int64 value => doInt64 value
  | .uint64 value => doInt64 value.toInt64
  | .string s => doString s
  | .null => doBool false
  | .cString s => doString (cStringView s)
  | .values _ => doJson
  | .dictionary _ => doJson

def writeKeyValueSized (fieldNumber serializationSize : Nat) (key : List UInt8) (value : Value)
    (jsonValues : List (List UInt8)) (jsonCounter : Nat) (stream : CodedOutputStream) : CodedOutputStream × Nat :=
  writeKeyValueImpl key value jsonValues jsonCounter (writeKeyLength fieldNumber serializationSize stream)

def writeKeyValue [DoubleFormat] (fieldNumber : Nat) (key : List UInt8) (value : Value) (stream : CodedOutputStream) :
    CodedOutputStream :=
  let (serializationSize, json, _) := computeKeyValueSerializationSize key value [] 0
  (writeKeyValueSized fieldNumber serializationSize key value [json] 0 stream).1

end Lightstep.Common

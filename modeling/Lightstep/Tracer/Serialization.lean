import Lightstep.Common.WrittenFields

/-! Serializing the parts of a span. -/
namespace Lightstep.Tracer
open Common Library

/-- The numbers of the fields of a span. -/
def spanContextField : Nat := 1
def operationNameField : Nat := 2
def spanReferenceField : Nat := 3
def startTimestampField : Nat := 4
def durationField : Nat := 5
def tagsField : Nat := 6
def logsField : Nat := 7

def spanContextTraceIdField : Nat := 1
def spanContextSpanIdField : Nat := 2
def spanContextBaggageField : Nat := 3

def spanReferenceRelationshipField : Nat := 1
def spanReferenceSpanContextField : Nat := 2

/-- An entry of a map is a message with a key and a value. -/
def mapEntryKeyField : Nat := 1
def mapEntryValueField : Nat := 2

def logTimestampField : Nat := 1
def logFieldsField : Nat := 2

/-! ### Span contexts -/

/-- The size of an item without its header, which is written before it. -/
def computeBaggageSerializationSize (baggageItem : List UInt8 × List UInt8) : Nat :=
  computeLengthDelimitedSerializationSize mapEntryKeyField baggageItem.1.length +
    computeLengthDelimitedSerializationSize mapEntryValueField baggageItem.2.length

/-- The size of a context without its header. -/
def computeSpanContextSerializationSize (traceId spanId : UInt64) (baggage : List (List UInt8 × List UInt8)) : Nat :=
  baggage.foldl
    (fun result baggageItem => result +
      computeLengthDelimitedSerializationSize spanContextBaggageField (computeBaggageSerializationSize baggageItem))
    (computeVarintSerializationSize spanContextTraceIdField traceId.toNat +
      computeVarintSerializationSize spanContextSpanIdField spanId.toNat)

section
variable {S : Type} [LengthDelimitedStream S]

/-- One entry of the map: its header, its key and its value. -/
def writeBaggageItem (baggageItem : List UInt8 × List UInt8) (stream : S) : S :=
  writeString mapEntryValueField baggageItem.2 (writeString mapEntryKeyField baggageItem.1
    (writeKeyLength spanContextBaggageField (computeBaggageSerializationSize baggageItem) stream))

/-- What a context has in it, into a coded stream or into memory. -/
def writeSpanContextImpl (traceId spanId : UInt64) (baggage : List (List UInt8 × List UInt8)) (stream : S) : S :=
  baggage.foldl (fun stream baggageItem => writeBaggageItem baggageItem stream)
    (writeBigVarint spanContextSpanIdField spanId (writeBigVarint spanContextTraceIdField traceId stream))

end

def spanContextSerializer (traceId spanId : UInt64) (baggage : List (List UInt8 × List UInt8)) : Serializer :=
  .of (writeSpanContextImpl traceId spanId baggage)

/-- The context behind a header with a size that has been computed. -/
def writeSpanContextSized {S : Type} [LengthDelimitedStream S] (fieldNumber serializationSize : Nat)
    (traceId spanId : UInt64) (baggage : List (List UInt8 × List UInt8)) (stream : S) : S :=
  writeLengthDelimitedField fieldNumber serializationSize (spanContextSerializer traceId spanId baggage) stream

/-- The context of the span itself; those of its references have a field of their own. -/
def writeSpanContext (traceId spanId : UInt64) (baggage : List (List UInt8 × List UInt8)) (stream : CodedOutputStream) :
    CodedOutputStream :=
  let serializationSize := computeSpanContextSerializationSize traceId spanId baggage
  writeSpanContextSized spanContextField serializationSize traceId spanId baggage stream

/-! ### Logs -/

/-- The locals of the pass that computes the sizes. -/
structure LogSizes where
  fieldSerializationSizes : List Nat
  jsonValues : List (List UInt8)
  json : List UInt8
  jsonCounter : Nat
  serializationSize : Nat

/-- A string that is moved into the vector is left empty. -/
def computeLogField [DoubleFormat] (sizes : LogSizes) (field : List UInt8 × Value) : LogSizes :=
  let (fieldSerializationSize, json, jsonCounter) :=
    computeKeyValueSerializationSize field.1 field.2 sizes.json sizes.jsonCounter
  let (jsonValues, json) :=
    if jsonCounter > sizes.jsonValues.length then (sizes.jsonValues ++ [json], []) else (sizes.jsonValues, json)
  { fieldSerializationSizes := sizes.fieldSerializationSizes ++ [fieldSerializationSize]
    jsonValues, json, jsonCounter
    serializationSize := sizes.serializationSize +
      computeLengthDelimitedSerializationSize logFieldsField fieldSerializationSize }

/-- The pass that writes. It goes through the sizes and the strings of JSON as the first pass left them. -/
def writeLogFields (fieldSerializationSizes : List Nat) (jsonValues : List (List UInt8)) :
    List (List UInt8 × Value) → Nat → Nat → CodedOutputStream → CodedOutputStream
  | [], _, _, stream => stream
  | field :: rest, fieldIndex, jsonCounter, stream =>
    let (stream, jsonCounter) := writeKeyValueSized logFieldsField (fieldSerializationSizes.getD fieldIndex 0) field.1
      field.2 jsonValues jsonCounter stream
    writeLogFields fieldSerializationSizes jsonValues rest (fieldIndex + 1) jsonCounter stream

/-- Two passes over the fields: one for the sizes, one that writes. -/
def writeLog [DoubleFormat] (timestamp : SystemTime) (fields : List (List UInt8 × Value)) (stream : CodedOutputStream) :
    CodedOutputStream :=
  let (secondsSinceEpoch, nanoFraction) := protobufFormatTimestamp timestamp
  let timestampSerializationSize := computeTimestampSerializationSize secondsSinceEpoch nanoFraction
  let sizes := fields.foldl computeLogField
    ⟨[], [], [], 0, computeLengthDelimitedSerializationSize logTimestampField timestampSerializationSize⟩
  let stream := writeKeyLength logsField sizes.serializationSize stream
  let stream := writeTimestampParts logTimestampField timestampSerializationSize secondsSinceEpoch nanoFraction stream
  writeLogFields sizes.fieldSerializationSizes sizes.jsonValues fields 0 0 stream

/-! ### The rest -/

def writeOperationName (operationName : List UInt8) (stream : CodedOutputStream) : CodedOutputStream :=
  writeString operationNameField operationName stream

def writeTag [DoubleFormat] (key : List UInt8) (value : Value) (stream : CodedOutputStream) : CodedOutputStream :=
  writeKeyValue tagsField key value stream

def writeStartTimestamp (timestamp : SystemTime) (stream : CodedOutputStream) : CodedOutputStream :=
  writeTimestamp startTimestampField timestamp stream

inductive SpanReferenceType where
  | childOfRef
  | followsFromRef
  deriving DecidableEq

/-- The number of a reference type in the messages. -/
def relationship (referenceType : SpanReferenceType) : UInt32 :=
  match referenceType with
  | .childOfRef => 0
  | .followsFromRef => 1

/-- A reference has no baggage. -/
def writeSpanReference (referenceType : SpanReferenceType) (traceId spanId : UInt64) (stream : CodedOutputStream) :
    CodedOutputStream :=
  let relationship := relationship referenceType
  let spanContextSerializationSize := computeSpanContextSerializationSize traceId spanId []
  let serializationSize := computeVarintSerializationSize spanReferenceRelationshipField relationship.toNat +
    computeLengthDelimitedSerializationSize spanReferenceSpanContextField spanContextSerializationSize
  let stream := writeKeyLength spanReferenceField serializationSize stream
  let stream := writeVarintField32 spanReferenceRelationshipField relationship stream
  writeSpanContextSized spanReferenceSpanContextField spanContextSerializationSize traceId spanId [] stream

/-- A duration in nanoseconds, to whole microseconds toward 0. -/
def elapse (duration : Int64) : UInt64 := (duration / 1000).toUInt64

/-- One varint, written into the buffer where that has room for it. -/
def writeDuration (duration : Int64) (stream : CodedOutputStream) : CodedOutputStream :=
  let elapse := elapse duration
  let totalSize := computeVarintSerializationSize durationField elapse.toNat
  stream.withDirectBuffer totalSize
    { coded := writeVarintField64 durationField elapse
      direct := writeVarintField64 durationField elapse }

end Lightstep.Tracer

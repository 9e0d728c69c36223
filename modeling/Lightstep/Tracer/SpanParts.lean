import Lightstep.Tracer.Span
import Lightstep.Tracer.SpanRead

/-! The parts of a span.

A part is what one writer adds to a span's stream. It has a field, which the
writer appends and a parser reads back, and does one thing to the message. -/
namespace Lightstep.Tracer
open Common Library

/-- A reference to a context of this library. -/
abbrev ValidReference := SpanReferenceType × LightStepSpanContext

inductive SpanPart where
  | operationName (name : List UInt8)
  | startTimestamp (timestamp : SystemTime)
  | reference (valid : ValidReference)
  | tag (keyValue : List UInt8 × Value)
  | log (record : LogRecord)
  | duration (elapsed : Int64)
  | spanContext (traceId spanId : UInt64) (baggage : List (List UInt8 × List UInt8))

def toReference (valid : ValidReference) : Collector.Reference :=
  ⟨(toRelationship valid.1).toInt32, some ⟨valid.2.traceIdLow, valid.2.spanId, ∅⟩⟩

variable [DoubleFormat]

namespace SpanPart

def write : SpanPart → CodedOutputStream → CodedOutputStream
  | operationName name => writeOperationName name
  | startTimestamp timestamp => writeStartTimestamp timestamp
  | reference valid => writeSpanReference valid.1 valid.2.traceIdLow valid.2.spanId
  | tag keyValue => writeTag keyValue.1 keyValue.2
  | log record => writeLog record.timestamp record.fields
  | duration elapsed => writeDuration elapsed
  | spanContext traceId spanId baggage => writeSpanContext traceId spanId baggage

def field : SpanPart → Library.Field
  | operationName name => ⟨operationNameField, .lengthDelimited name⟩
  | startTimestamp timestamp => ⟨startTimestampField, .lengthDelimited (encodeFields (systemTimeFields timestamp))⟩
  | reference valid =>
    ⟨spanReferenceField, .lengthDelimited (encodeFields (referenceFields valid.1 valid.2.traceIdLow valid.2.spanId))⟩
  | tag keyValue => ⟨tagsField, .lengthDelimited (encodeFields (keyValueFields keyValue.1 keyValue.2))⟩
  | log record => ⟨logsField, .lengthDelimited (encodeFields (logFields record.timestamp record.fields))⟩
  | duration elapsed => ⟨durationField, .varint (elapse elapsed).toNat⟩
  | spanContext traceId spanId baggage =>
    ⟨spanContextField, .lengthDelimited (encodeFields (spanContextFields traceId spanId baggage))⟩

/-- What a part does to the message. -/
def apply (span : Collector.Span) : SpanPart → Collector.Span
  | operationName name => {span with operationName := name}
  | startTimestamp timestamp => {span with startTimestamp := some (toTimestamp timestamp)}
  | reference valid => {span with references := span.references ++ [toReference valid]}
  | tag keyValue => {span with tags := span.tags ++ [toKeyValue keyValue.1 keyValue.2]}
  | log record => {span with logs := span.logs ++ [toLog record.timestamp record.fields]}
  | duration elapsed => {span with durationMicros := elapse elapsed}
  | spanContext traceId spanId baggage =>
    {span with
      spanContext := some ⟨traceId, spanId, FlatMap.insertAll baggage (span.spanContext.getD .default).baggage⟩}

theorem write_writes (part : SpanPart) : Writes part.write part.field.encode := by
  cases part with
  | operationName name => exact writeOperationName_writes name
  | startTimestamp timestamp => exact writeStartTimestamp_writes timestamp
  | reference valid => exact writeSpanReference_writes valid.1 valid.2.traceIdLow valid.2.spanId
  | tag keyValue => exact writeTag_writes keyValue.1 keyValue.2
  | log record => exact writeLog_writes record.timestamp record.fields
  | duration elapsed => exact writeDuration_writes elapsed
  | spanContext traceId spanId baggage => exact writeSpanContext_writes traceId spanId baggage

theorem regular_field (part : SpanPart) : part.field.Regular := by
  cases part with
  | operationName name => exact regular_lengthDelimited (by decide) (by decide) name
  | duration elapsed => exact regular_varint64 (by decide) (by decide) (elapse elapsed)
  | startTimestamp | reference | tag | log | spanContext =>
    exact regular_lengthDelimited (by decide) (by decide) _

/-- **A field that is not too long is read as what its part does.** -/
theorem read_field {part : SpanPart} (h : part.field.encode.length < 2 ^ 31) (span : Collector.Span) :
    span.read part.field = some (apply span part) := by
  have hpayload : ∀ {number : Nat} {payload : List UInt8},
      (Library.Field.mk number (.lengthDelimited payload)).encode.length < 2 ^ 31 → payload.length < 2 ^ 31 :=
    fun h => Nat.lt_of_le_of_lt (length_le_encode _ _) h
  cases part with
  | operationName name => rfl
  | startTimestamp timestamp => exact congrArg (Option.map _) (read_systemTimeFields (hpayload h) _)
  | reference valid => exact congrArg (Option.map _) (read_referenceFields (hpayload h))
  | tag keyValue => exact congrArg (Option.map _) (read_keyValueFields (hpayload h))
  | log record => exact congrArg (Option.map _) (read_logFields (hpayload h))
  | duration elapsed =>
    exact congrArg (fun x => some {span with durationMicros := x}) UInt64.ofNat_toNat
  | spanContext traceId spanId baggage => exact congrArg (Option.map _) (read_spanContextFields (hpayload h) _)

def encode (parts : List SpanPart) : List UInt8 := encodeFields (parts.map field)

theorem encode_append (a b : List SpanPart) : encode (a ++ b) = encode a ++ encode b := by
  rw [encode, List.map_append, encodeFields_append]
  rfl

/-- **A parser gets what the parts do, one after the other.** -/
theorem parse_encode {parts : List SpanPart} (h : (encode parts).length < 2 ^ 31) :
    Collector.Span.parse (encode parts) = some (parts.foldl apply .default) := by
  have hregular : ∀ f ∈ parts.map field, f.Regular := fun f hf => by
    obtain ⟨part, -, rfl⟩ := List.mem_map.mp hf
    exact part.regular_field
  have hread : ∀ part ∈ parts, ∀ span : Collector.Span, span.read part.field = pure (apply span part) := by
    intro part hpart span
    have hlength := length_le_encodeFields (List.mem_map_of_mem (f := field) hpart)
    exact read_field (Nat.lt_of_le_of_lt hlength h) span
  rw [Collector.Span.parse, if_pos h, encode, readMessage_of_regular hregular h, List.foldlM_map]
  exact foldlM_eq_foldl hread .default

/-- What is written is parsed exactly if what is meant is short enough. -/
theorem parse_eqOrLong {body : Option (List UInt8)} {parts : List SpanPart} (h : EqOrLong body (encode parts))
    (hlength : (encode parts).length < 2 ^ 31) :
    body.bind Collector.Span.parse = some (parts.foldl apply .default) := by
  rw [h.eq_of_length_lt hlength, Option.bind_some]
  exact parse_encode hlength

theorem length_lt_of_parse {body : Option (List UInt8)} {parts : List SpanPart} (h : EqOrLong body (encode parts))
    {span : Collector.Span} (hparse : body.bind Collector.Span.parse = some span) : (encode parts).length < 2 ^ 31 := by
  obtain ⟨written, rfl, hparse⟩ := Option.bind_eq_some_iff.mp hparse
  have hshort : written.length < 2 ^ 31 := by
    by_contra hlong
    have hnone : Collector.Span.parse written = none := if_neg hlong
    exact absurd (hparse.symm.trans hnone) (Option.some_ne_none span)
  rwa [← h.eq_of_written hshort]

end SpanPart

/-! ### Streams of parts -/

/-- After the header a stream has the parts, or they are too long for a parser. -/
def Holds (header : List UInt8) (stream : CodedOutputStream) (parts : List SpanPart) : Prop :=
  ∃ bytes, EqOrLong bytes (SpanPart.encode parts) ∧ stream.bytes = bytes.map (header ++ ·)

namespace Holds
variable {header : List UInt8} {stream : CodedOutputStream} {parts : List SpanPart}

theorem write (h : Holds header stream parts) (part : SpanPart) : Holds header (part.write stream) (parts ++ [part]) := by
  obtain ⟨bytes, hbytes, hstream⟩ := h
  obtain ⟨bytes', hbytes', hwritten⟩ := part.write_writes stream
  have hpart : SpanPart.encode [part] = part.field.encode := encodeFields_singleton part.field
  refine ⟨Option.map₂ (· ++ ·) bytes bytes', ?_, ?_⟩
  · rw [SpanPart.encode_append, hpart]
    exact hbytes.append hbytes'
  · have hput : (put bytes' stream).bytes = Option.map₂ (· ++ ·) stream.bytes bytes' := rfl
    rw [hwritten, hput, hstream]
    exact Option.map₂_map_left_comm (List.append_assoc header)

theorem foldl_write (h : Holds header stream parts) (more : List SpanPart) :
    Holds header (more.foldl (fun stream part => part.write stream) stream) (parts ++ more) := by
  induction more generalizing stream parts with
  | nil =>
    rw [List.append_nil]
    exact h
  | cons part rest ih =>
    rw [List.append_cons]
    exact ih (h.write part)

end Holds
end Lightstep.Tracer

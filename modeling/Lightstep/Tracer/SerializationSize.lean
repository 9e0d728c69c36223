import Lightstep.Tracer.SpanFields

/-! Computed sizes are the sizes of what is written.

No field may reach `2 ^ 31` bytes, where its size is no `int`. Below it a writer appends
the same bytes whether the stream hands out memory or not, and what goes into memory
fills it exactly. -/
namespace Lightstep.Tracer
open Common Library

/-- A writer of one field: its payload has the size computed for it, the field that of the payload
with its header, and every stream gets the field. -/
structure WritesExactly (f : CodedOutputStream → CodedOutputStream) (fieldNumber : Nat) (payload : List UInt8)
    (serializationSize : Nat) : Prop where
  size : payload.length = serializationSize
  field : (Library.Field.mk fieldNumber (.lengthDelimited payload)).encode.length =
    computeLengthDelimitedHeaderSerializationSize fieldNumber serializationSize + serializationSize
  written : (Library.Field.mk fieldNumber (.lengthDelimited payload)).encode.length < 2 ^ 31 → ∀ stream,
    f stream = put (some (Library.Field.mk fieldNumber (.lengthDelimited payload)).encode) stream

/-- A functor writes the same to either stream, and fills the memory that its field is given. -/
structure FillsExactly (serializer : Serializer) (fieldNumber : Nat) (payload : List UInt8) : Prop where
  coded : (Library.Field.mk fieldNumber (.lengthDelimited payload)).encode.length < 2 ^ 31 → ∀ stream,
    serializer.coded (writeKeyLength fieldNumber payload.length stream) =
      put (some (Library.Field.mk fieldNumber (.lengthDelimited payload)).encode) stream
  direct : (Library.Field.mk fieldNumber (.lengthDelimited payload)).encode.length < 2 ^ 31 →
    (serializer.direct (writeKeyLength fieldNumber payload.length ⟨some []⟩)).written =
      some (Library.Field.mk fieldNumber (.lengthDelimited payload)).encode
  size : (Library.Field.mk fieldNumber (.lengthDelimited payload)).encode.length =
    computeLengthDelimitedSerializationSize fieldNumber payload.length

theorem WritesExactly.of_writes {f : CodedOutputStream → CodedOutputStream} {fieldNumber serializationSize : Nat}
    {payload : List UInt8} (h : WritesField f fieldNumber payload) (hfield : fieldNumber < 2 ^ 29)
    (hsize : payload.length = serializationSize) : WritesExactly f fieldNumber payload serializationSize where
  size := hsize
  field := by
    rw [length_encode_lengthDelimited hfield, hsize]
    rfl
  written hshort := Writes.eq_put h hshort

theorem FillsExactly.of_writes {serializer : Serializer} {fieldNumber : Nat} {payload : List UInt8}
    (h : serializer.Writes payload) (hfield : fieldNumber < 2 ^ 29) : FillsExactly serializer fieldNumber payload where
  coded hshort := Writes.eq_put (h.1.prefixed hfield rfl) hshort
  direct hshort := congrArg DirectCodedOutputStream.written (Writes.eq_put (h.2.prefixed hfield rfl) hshort ⟨some []⟩)
  size := length_encode_lengthDelimited hfield payload

variable [DoubleFormat]

/-- The pass that computes the sizes of a record's fields, after a timestamp of a given size. -/
def sizeFields (start : Nat) (fields : List (List UInt8 × Value)) : LogSizes :=
  fields.foldl computeLogField ⟨[], [], [], 0, start⟩

theorem sizeFields_sized (start : Nat) (fields : List (List UInt8 × Value)) :
    (sizeFields start fields).Sized start fields := by
  have hstart : LogSizes.Sized ⟨[], [], [], 0, start⟩ start [] := ⟨rfl, rfl, rfl, rfl⟩
  exact hstart.foldl fields

/-- The two passes over a record meet at every field: the pass that writes comes to it with the
counter that the pass before had there, and finds its size and its string of JSON. -/
structure PassesMeet (start : Nat) (done : List (List UInt8 × Value)) (field : List UInt8 × Value)
    (rest : List (List UInt8 × Value)) : Prop where
  size : (sizeFields start (done ++ field :: rest)).fieldSerializationSizes[done.length]? =
    some (encodeFields (keyValueFields field.1 field.2)).length
  json : field.2.isJson = true →
    (sizeFields start (done ++ field :: rest)).jsonValues[(sizeFields start done).jsonCounter]? = some (toJson field.2)
  counter : (encodeFields (done.map logFieldField)).length < 2 ^ 31 → ∀ stream,
    writeLogFields (sizeFields start (done ++ field :: rest)).fieldSerializationSizes
        (sizeFields start (done ++ field :: rest)).jsonValues (done ++ field :: rest) 0 0 stream =
      writeLogFields (sizeFields start (done ++ field :: rest)).fieldSerializationSizes
        (sizeFields start (done ++ field :: rest)).jsonValues (field :: rest) done.length
        (sizeFields start done).jsonCounter (put (some (encodeFields (done.map logFieldField))) stream)

/-- Some fields into the pass that writes. -/
theorem writeLogFields_append (done middle rest : List (List UInt8 × Value)) (stream : CodedOutputStream) :
    ∃ bytes, EqOrLong bytes (encodeFields (middle.map logFieldField)) ∧
      writeLogFields ((done ++ middle ++ rest).map fun field => (encodeFields (keyValueFields field.1 field.2)).length)
          (jsonStrings (done ++ middle ++ rest)) (middle ++ rest) done.length (jsonStrings done).length stream =
        writeLogFields ((done ++ middle ++ rest).map fun field => (encodeFields (keyValueFields field.1 field.2)).length)
          (jsonStrings (done ++ middle ++ rest)) rest (done ++ middle).length (jsonStrings (done ++ middle)).length
          (put bytes stream) := by
  induction middle generalizing done stream with
  | nil =>
    refine ⟨some [], .refl _, ?_⟩
    rw [List.append_nil, LawfulOutputStream.put_nil]
    rfl
  | cons field middle ih =>
    obtain ⟨bytes, hbytes, hwritten⟩ := writeLogFields_step done field (middle ++ rest) stream
    obtain ⟨bytes', hbytes', hwritten'⟩ := ih (done ++ [field]) (put bytes stream)
    refine ⟨Option.map₂ (· ++ ·) bytes bytes', hbytes.append hbytes', ?_⟩
    rw [LawfulOutputStream.put_put] at hwritten'
    rw [List.append_assoc, List.cons_append, hwritten]
    simpa only [List.append_assoc, List.cons_append, List.nil_append] using hwritten'

theorem passesMeet (start : Nat) (done : List (List UInt8 × Value)) (field : List UInt8 × Value)
    (rest : List (List UInt8 × Value)) : PassesMeet start done field rest := by
  have hall := sizeFields_sized start (done ++ field :: rest)
  have hdone := sizeFields_sized start done
  refine ⟨?_, fun hjson => ?_, fun hshort stream => ?_⟩
  · rw [hall.fieldSerializationSizes]
    exact getElem?_sizes done field rest
  · rw [hall.jsonValues, hdone.jsonCounter]
    exact getElem?_jsonStrings done rest hjson
  · obtain ⟨bytes, hbytes, hwritten⟩ := writeLogFields_append [] done (field :: rest) stream
    rw [hall.fieldSerializationSizes, hall.jsonValues, hdone.jsonCounter, ← hbytes.eq_of_length_lt hshort]
    exact hwritten

/-- What it means that sizes and bytes agree, for every writer of a part of a span. -/
structure SizesMatch : Prop where
  writeString : ∀ fieldNumber < 2 ^ 29, ∀ s, WritesExactly (writeString fieldNumber s) fieldNumber s s.length
  writeTimestamp : ∀ fieldNumber < 2 ^ 29, ∀ timestamp, WritesExactly (writeTimestamp fieldNumber timestamp) fieldNumber
    (encodeFields (systemTimeFields timestamp))
    (computeTimestampSerializationSize (protobufFormatTimestamp timestamp).1 (protobufFormatTimestamp timestamp).2)
  writeKeyValue : ∀ fieldNumber < 2 ^ 29, ∀ key value json jsonCounter,
    WritesExactly (writeKeyValue fieldNumber key value) fieldNumber (encodeFields (keyValueFields key value))
      (computeKeyValueSerializationSize key value json jsonCounter).1
  writeSpanContext : ∀ traceId spanId baggage, WritesExactly (writeSpanContext traceId spanId baggage) spanContextField
    (encodeFields (spanContextFields traceId spanId baggage)) (computeSpanContextSerializationSize traceId spanId baggage)
  writeSpanReference : ∀ referenceType traceId spanId,
    WritesExactly (writeSpanReference referenceType traceId spanId) spanReferenceField
      (encodeFields (referenceFields referenceType traceId spanId))
      (computeVarintSerializationSize spanReferenceRelationshipField (relationship referenceType).toNat +
        computeLengthDelimitedSerializationSize spanReferenceSpanContextField
          (computeSpanContextSerializationSize traceId spanId []))
  writeLog : ∀ timestamp fields, WritesExactly (writeLog timestamp fields) logsField
    (encodeFields (logFields timestamp fields))
    (sizeFields (computeLengthDelimitedSerializationSize logTimestampField
      (computeTimestampSerializationSize (protobufFormatTimestamp timestamp).1 (protobufFormatTimestamp timestamp).2))
      fields).serializationSize
  writeDuration : ∀ duration stream,
    writeDuration duration stream =
        put (some (Library.Field.mk durationField (.varint (elapse duration).toNat)).encode) stream ∧
      (writeVarintField64 durationField (elapse duration) (⟨some []⟩ : DirectCodedOutputStream)).written =
        some (Library.Field.mk durationField (.varint (elapse duration).toNat)).encode ∧
      (Library.Field.mk durationField (.varint (elapse duration).toNat)).encode.length =
        computeVarintSerializationSize durationField (elapse duration).toNat
  stringSerializer : ∀ fieldNumber < 2 ^ 29, ∀ s, FillsExactly (stringSerializer s) fieldNumber s
  timestampSerializer : ∀ fieldNumber < 2 ^ 29, ∀ secondsSinceEpoch nanoFraction,
    FillsExactly (timestampSerializer secondsSinceEpoch nanoFraction) fieldNumber
      (encodeFields (timestampFields secondsSinceEpoch nanoFraction))
  spanContextSerializer : ∀ fieldNumber < 2 ^ 29, ∀ traceId spanId baggage,
    FillsExactly (spanContextSerializer traceId spanId baggage) fieldNumber
      (encodeFields (spanContextFields traceId spanId baggage))
  jsonCounter : ∀ start done field rest, PassesMeet start done field rest

/-- **Sizes match bytes**, and memory handed out makes no difference. -/
theorem sizes_match : SizesMatch where
  writeString _ h s := .of_writes (.writeString h s) h rfl
  writeTimestamp _ h timestamp := .of_writes (.writeTimestamp h timestamp) h (length_timestampFields _ _)
  writeKeyValue _ h key value json jsonCounter := .of_writes (.writeKeyValue h key value) h
    (congrArg Prod.fst (computeKeyValueSerializationSize_eq key value json jsonCounter)).symm
  writeSpanContext traceId spanId baggage := .of_writes (writeSpanContext_writes traceId spanId baggage) (by decide)
    (length_spanContextFields traceId spanId baggage)
  writeSpanReference referenceType traceId spanId := .of_writes (writeSpanReference_writes referenceType traceId spanId)
    (by decide) (length_referenceFields referenceType traceId spanId)
  writeLog timestamp fields := by
    refine .of_writes (writeLog_writes timestamp fields) (by decide) ?_
    rw [(sizeFields_sized _ fields).serializationSize, length_logFields, systemTimeFields, length_timestampFields]
  writeDuration duration stream := by
    have hfield : durationField < 2 ^ 29 := by decide
    have hlength := Field.encode_varint_length_le durationField (elapse duration).toNat
    have hshort : (Library.Field.mk durationField (.varint (elapse duration).toNat)).encode.length < 2 ^ 31 := by omega
    refine ⟨(writeDuration_writes duration).eq_put hshort stream, ?_, length_encode_varint hfield _⟩
    exact congrArg DirectCodedOutputStream.written
      ((Writes.writeVarintField64 (S := DirectCodedOutputStream) hfield (elapse duration)).eq_put hshort ⟨some []⟩)
  stringSerializer _ h s := .of_writes (stringSerializer_writes s) h
  timestampSerializer _ h secondsSinceEpoch nanoFraction :=
    .of_writes (timestampSerializer_writes secondsSinceEpoch nanoFraction) h
  spanContextSerializer _ h traceId spanId baggage :=
    .of_writes ⟨writeSpanContextImpl_writes traceId spanId baggage, writeSpanContextImpl_writes traceId spanId baggage⟩ h
  jsonCounter := passesMeet

omit [DoubleFormat] in
/-- Where the size of a string is no `int`, nothing is known of the stream. -/
theorem bytes_writeString_of_long {s : List UInt8} (h : 2 ^ 31 ≤ s.length) (fieldNumber : Nat)
    (stream : CodedOutputStream) : (writeString fieldNumber s stream).bytes = none := by
  have hlong : ¬ computeLengthDelimitedSerializationSize fieldNumber s.length < 2 ^ 31 := by
    rw [computeLengthDelimitedSerializationSize]
    omega
  have hput : writeString fieldNumber s stream = put none stream := if_neg hlong
  rw [hput]
  exact Option.map₂_none_right ..

/-- A string of `2 ^ 31` characters. -/
def longString : List UInt8 := List.replicate (2 ^ 31) 97

omit [DoubleFormat] in
theorem longString_not_written : longString.length < 2 ^ 32 ∧
    ¬ ∀ stream : CodedOutputStream, writeString operationNameField longString stream =
      put (some (Library.Field.mk operationNameField (.lengthDelimited longString)).encode) stream := by
  have hlength : longString.length = 2 ^ 31 := List.length_replicate
  refine ⟨by omega, fun h => ?_⟩
  have hunknown := bytes_writeString_of_long (Nat.le_of_eq hlength.symm) operationNameField ⟨some [], fun _ _ => none⟩
  have hwritten := congrArg CodedOutputStream.bytes (h ⟨some [], fun _ _ => none⟩)
  exact Option.some_ne_none _ (hwritten.symm.trans hunknown)

end Lightstep.Tracer

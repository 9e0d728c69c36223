import Lightstep.Tracer.Serialization

/-! The fields of a span that its writers append.

Each writer of a part of a span appends one field of the message. -/
namespace Lightstep.Tracer
open Common Library

/-! ### Span contexts and references -/

/-- An item as a field of its context. -/
def baggageField (item : List UInt8 × List UInt8) : Field :=
  ⟨spanContextBaggageField, .lengthDelimited (encodeFields (entryFields item.1 item.2))⟩

/-- The fields of a context: the two ids, which are written also when they are 0, and the baggage. -/
def spanContextFields (traceId spanId : UInt64) (baggage : List (List UInt8 × List UInt8)) : List Field :=
  ⟨spanContextTraceIdField, .varint traceId.toNat⟩ :: ⟨spanContextSpanIdField, .varint spanId.toNat⟩ ::
    baggage.map baggageField

theorem length_entryFields (item : List UInt8 × List UInt8) :
    (encodeFields (entryFields item.1 item.2)).length = computeBaggageSerializationSize item := by
  rw [entryFields, encodeFields_cons, encodeFields_singleton, List.length_append,
    length_encode_lengthDelimited (by decide), length_encode_lengthDelimited (by decide)]
  rfl

/-- The sizes computed are those of the fields. -/
theorem length_baggageField (item : List UInt8 × List UInt8) : (baggageField item).encode.length =
    computeLengthDelimitedSerializationSize spanContextBaggageField (computeBaggageSerializationSize item) := by
  have hlength := length_encode_lengthDelimited (show spanContextBaggageField < 2 ^ 29 by decide)
    (encodeFields (entryFields item.1 item.2))
  rwa [length_entryFields] at hlength

/-- So the loop over the baggage adds up to the size of the context. -/
theorem length_spanContextFields (traceId spanId : UInt64) (baggage : List (List UInt8 × List UInt8)) :
    (encodeFields (spanContextFields traceId spanId baggage)).length =
      computeSpanContextSerializationSize traceId spanId baggage := by
  have hfold : ∀ (baggage : List (List UInt8 × List UInt8)) (n : Nat),
      baggage.foldl (fun result item => result +
        computeLengthDelimitedSerializationSize spanContextBaggageField (computeBaggageSerializationSize item)) n =
      n + (encodeFields (baggage.map baggageField)).length := by
    intro baggage
    induction baggage with
    | nil => intro n; rfl
    | cons item rest ih =>
      intro n
      rw [List.foldl_cons, ih, List.map_cons, encodeFields_cons, List.length_append, length_baggageField, Nat.add_assoc]
  rw [computeSpanContextSerializationSize, hfold, spanContextFields, encodeFields_cons, encodeFields_cons,
    List.length_append, List.length_append, length_encode_varint (by decide), length_encode_varint (by decide),
    Nat.add_assoc]

section
variable {S : Type} [LengthDelimitedStream S] [LawfulLengthDelimitedStream S]

/-- An item is a field, its header being of the size of what follows. -/
theorem writeBaggageItem_writes (item : List UInt8 × List UInt8) :
    Writes (writeBaggageItem item : S → S) (baggageField item).encode := by
  have hentry : Writes (fun stream : S => writeString mapEntryValueField item.2 (writeString mapEntryKeyField item.1 stream))
      (encodeFields (entryFields item.1 item.2)) := by
    rw [entryFields, encodeFields_cons, encodeFields_singleton]
    exact Writes.comp (WritesField.writeString (by decide) item.1) (WritesField.writeString (by decide) item.2)
  exact hentry.prefixed (by decide) (length_entryFields item).symm

theorem writeSpanContextImpl_writes (traceId spanId : UInt64) (baggage : List (List UInt8 × List UInt8)) :
    Writes (writeSpanContextImpl traceId spanId baggage : S → S)
      (encodeFields (spanContextFields traceId spanId baggage)) := by
  have hfold : ∀ (baggage : List (List UInt8 × List UInt8)) {f : S → S} {a : List UInt8}, Writes f a →
      Writes (fun stream => baggage.foldl (fun stream item => writeBaggageItem item stream) (f stream))
        (a ++ encodeFields (baggage.map baggageField)) := by
    intro baggage
    induction baggage with
    | nil =>
      intro f a hf
      rw [List.map_nil, show encodeFields [] = [] from rfl, List.append_nil]
      exact hf
    | cons item rest ih =>
      intro f a hf
      rw [List.map_cons, encodeFields_cons, ← List.append_assoc]
      exact ih (hf.comp (writeBaggageItem_writes item))
  have hids : Writes (fun stream : S => writeBigVarint spanContextSpanIdField spanId
      (writeBigVarint spanContextTraceIdField traceId stream))
      ((Library.Field.mk spanContextTraceIdField (.varint traceId.toNat)).encode ++
        (Library.Field.mk spanContextSpanIdField (.varint spanId.toNat)).encode) :=
    (Writes.writeBigVarint (by decide) traceId).comp (.writeBigVarint (by decide) spanId)
  rw [spanContextFields, encodeFields_cons, encodeFields_cons, ← List.append_assoc]
  exact hfold baggage hids

theorem writeSpanContextSized_writes {fieldNumber : Nat} (h : fieldNumber < 2 ^ 29) (traceId spanId : UInt64)
    (baggage : List (List UInt8 × List UInt8)) :
    WritesField (writeSpanContextSized fieldNumber (computeSpanContextSerializationSize traceId spanId baggage) traceId
        spanId baggage : S → S) fieldNumber (encodeFields (spanContextFields traceId spanId baggage)) := by
  rw [← length_spanContextFields]
  exact LawfulLengthDelimitedStream.lengthDelimited h
    ⟨writeSpanContextImpl_writes traceId spanId baggage, writeSpanContextImpl_writes traceId spanId baggage⟩

end

/-- **A context is one field** of its span. -/
theorem writeSpanContext_writes (traceId spanId : UInt64) (baggage : List (List UInt8 × List UInt8)) :
    WritesField (writeSpanContext traceId spanId baggage) spanContextField
      (encodeFields (spanContextFields traceId spanId baggage)) :=
  writeSpanContextSized_writes (by decide) traceId spanId baggage

/-- The fields of a reference: its type, and a context without baggage. -/
def referenceFields (referenceType : SpanReferenceType) (traceId spanId : UInt64) : List Field :=
  [⟨spanReferenceRelationshipField, .varint (relationship referenceType).toNat⟩,
    ⟨spanReferenceSpanContextField, .lengthDelimited (encodeFields (spanContextFields traceId spanId []))⟩]

theorem length_referenceFields (referenceType : SpanReferenceType) (traceId spanId : UInt64) :
    (encodeFields (referenceFields referenceType traceId spanId)).length =
      computeVarintSerializationSize spanReferenceRelationshipField (relationship referenceType).toNat +
        computeLengthDelimitedSerializationSize spanReferenceSpanContextField
          (computeSpanContextSerializationSize traceId spanId []) := by
  rw [referenceFields, encodeFields_cons, encodeFields_singleton, List.length_append, length_encode_varint (by decide),
    length_encode_lengthDelimited (by decide), length_spanContextFields]

/-- **A reference is one field** of its span. -/
theorem writeSpanReference_writes (referenceType : SpanReferenceType) (traceId spanId : UInt64) :
    WritesField (writeSpanReference referenceType traceId spanId) spanReferenceField
      (encodeFields (referenceFields referenceType traceId spanId)) := by
  have hinner : Writes (fun stream : CodedOutputStream => writeSpanContextSized spanReferenceSpanContextField
      (computeSpanContextSerializationSize traceId spanId []) traceId spanId []
      (writeVarintField32 spanReferenceRelationshipField (relationship referenceType) stream))
      (encodeFields (referenceFields referenceType traceId spanId)) := by
    rw [referenceFields, encodeFields_cons, encodeFields_singleton]
    exact (Writes.writeVarintField32 (by decide) _).comp (writeSpanContextSized_writes (by decide) traceId spanId [])
  exact hinner.prefixed (by decide) (length_referenceFields referenceType traceId spanId).symm

/-! ### Scalars and strings -/

theorem writeOperationName_writes (operationName : List UInt8) :
    WritesField (writeOperationName operationName) operationNameField operationName :=
  WritesField.writeString (by decide) operationName

theorem writeStartTimestamp_writes (timestamp : SystemTime) :
    WritesField (writeStartTimestamp timestamp) startTimestampField (encodeFields (systemTimeFields timestamp)) :=
  WritesField.writeTimestamp (by decide) timestamp

/-- Into memory or not, a duration is one varint. -/
theorem writeDuration_writes (duration : Int64) :
    Writes (writeDuration duration) (Library.Field.mk durationField (.varint (elapse duration).toNat)).encode :=
  Writes.withDirectBuffer ⟨Writes.writeVarintField64 (by decide) _, Writes.writeVarintField64 (by decide) _⟩
    (length_encode_varint (by decide) _).symm

/-! ### Tags and logs -/

variable [DoubleFormat]

theorem writeTag_writes (key : List UInt8) (value : Value) :
    WritesField (writeTag key value) tagsField (encodeFields (keyValueFields key value)) :=
  WritesField.writeKeyValue (by decide) key value

/-- A field of a record of a log, as a field of the record. -/
def logFieldField (field : List UInt8 × Value) : Field :=
  ⟨logFieldsField, .lengthDelimited (encodeFields (keyValueFields field.1 field.2))⟩

/-- The fields of a record: its time, and the key-values. -/
def logFields (timestamp : SystemTime) (fields : List (List UInt8 × Value)) : List Field :=
  ⟨logTimestampField, .lengthDelimited (encodeFields (systemTimeFields timestamp))⟩ :: fields.map logFieldField

/-- The strings of JSON of a record, in the order of its fields. -/
def jsonStrings (fields : List (List UInt8 × Value)) : List (List UInt8) :=
  (fields.filter fun field => field.2.isJson).map fun field => toJson field.2

theorem jsonStrings_append (a b : List (List UInt8 × Value)) : jsonStrings (a ++ b) = jsonStrings a ++ jsonStrings b := by
  rw [jsonStrings, List.filter_append, List.map_append]
  rfl

theorem jsonStrings_singleton (field : List UInt8 × Value) :
    jsonStrings [field] = if field.2.isJson then [toJson field.2] else [] := by
  rw [jsonStrings, List.filter_singleton]
  cases field.2.isJson <;> rfl

/-- What the pass over the fields `done` leaves. -/
structure LogSizes.Sized (sizes : LogSizes) (start : Nat) (done : List (List UInt8 × Value)) : Prop where
  fieldSerializationSizes : sizes.fieldSerializationSizes =
    done.map fun field => (encodeFields (keyValueFields field.1 field.2)).length
  jsonValues : sizes.jsonValues = jsonStrings done
  jsonCounter : sizes.jsonCounter = (jsonStrings done).length
  serializationSize : sizes.serializationSize = start + (encodeFields (done.map logFieldField)).length

/-- One field more in the pass that sizes. -/
theorem LogSizes.Sized.computeLogField {sizes : LogSizes} {start : Nat} {done : List (List UInt8 × Value)}
    (h : sizes.Sized start done) (field : List UInt8 × Value) :
    (computeLogField sizes field).Sized start (done ++ [field]) := by
  have hsize : (logFieldField field).encode.length = computeLengthDelimitedSerializationSize logFieldsField
      (encodeFields (keyValueFields field.1 field.2)).length := length_encode_lengthDelimited (by decide) _
  have hstrings : jsonStrings (done ++ [field]) =
      jsonStrings done ++ if field.2.isJson then [toJson field.2] else [] := by
    rw [jsonStrings_append, jsonStrings_singleton]
  have hjson : (Tracer.computeLogField sizes field).jsonValues = jsonStrings (done ++ [field]) := by
    rw [hstrings, Tracer.computeLogField, computeKeyValueSerializationSize_eq, h.jsonCounter, h.jsonValues]
    cases field.2.isJson <;> simp
  refine ⟨?_, hjson, ?_, ?_⟩
  · rw [Tracer.computeLogField, computeKeyValueSerializationSize_eq, h.fieldSerializationSizes, List.map_append]
    rfl
  · rw [hstrings, Tracer.computeLogField, computeKeyValueSerializationSize_eq, h.jsonCounter]
    cases field.2.isJson <;> simp
  · rw [List.map_append, encodeFields_append, List.length_append, List.map_singleton, encodeFields_singleton, hsize,
      Tracer.computeLogField, computeKeyValueSerializationSize_eq, h.serializationSize]
    exact Nat.add_assoc ..

/-- The whole pass. -/
theorem LogSizes.Sized.foldl {sizes : LogSizes} {start : Nat} {done : List (List UInt8 × Value)}
    (h : sizes.Sized start done) (fields : List (List UInt8 × Value)) :
    (fields.foldl Tracer.computeLogField sizes).Sized start (done ++ fields) := by
  induction fields generalizing sizes done with
  | nil =>
    rw [List.append_nil]
    exact h
  | cons field rest ih =>
    rw [List.append_cons]
    exact ih (h.computeLogField field)

theorem getElem?_sizes (done : List (List UInt8 × Value)) (field : List UInt8 × Value)
    (rest : List (List UInt8 × Value)) :
    ((done ++ field :: rest).map fun field => (encodeFields (keyValueFields field.1 field.2)).length)[done.length]? =
      some (encodeFields (keyValueFields field.1 field.2)).length := by
  rw [List.getElem?_map, List.getElem?_append_right (Nat.le_refl _), Nat.sub_self]
  rfl

theorem getElem?_jsonStrings (done : List (List UInt8 × Value)) {field : List UInt8 × Value}
    (rest : List (List UInt8 × Value)) (h : field.2.isJson = true) :
    (jsonStrings (done ++ field :: rest))[(jsonStrings done).length]? = some (toJson field.2) := by
  rw [List.append_cons, jsonStrings_append, jsonStrings_append, jsonStrings_singleton, if_pos h, List.append_assoc,
    List.getElem?_append_right (Nat.le_refl _), Nat.sub_self]
  rfl

/-- One field of the pass that writes: it is at the field's own size and at its own string of JSON. -/
theorem writeLogFields_step (done : List (List UInt8 × Value)) (field : List UInt8 × Value)
    (rest : List (List UInt8 × Value)) (stream : CodedOutputStream) :
    ∃ bytes, EqOrLong bytes (logFieldField field).encode ∧
      writeLogFields ((done ++ field :: rest).map fun field => (encodeFields (keyValueFields field.1 field.2)).length)
          (jsonStrings (done ++ field :: rest)) (field :: rest) done.length (jsonStrings done).length stream =
        writeLogFields ((done ++ field :: rest).map fun field => (encodeFields (keyValueFields field.1 field.2)).length)
          (jsonStrings (done ++ field :: rest)) rest (done ++ [field]).length (jsonStrings (done ++ [field])).length
          (put bytes stream) := by
  have hsize : ((done ++ field :: rest).map fun field => (encodeFields (keyValueFields field.1 field.2)).length).getD
      done.length 0 = (encodeFields (keyValueFields field.1 field.2)).length := by
    rw [List.getD_eq_getElem?_getD, getElem?_sizes, Option.getD_some]
  have hcounter : (jsonStrings (done ++ [field])).length = (jsonStrings done).length + field.2.isJson.toNat := by
    rw [jsonStrings_append, jsonStrings_singleton, List.length_append]
    cases field.2.isJson <;> rfl
  obtain ⟨bytes, hbytes, hwritten⟩ := writeKeyValueSized_spec (show logFieldsField < 2 ^ 29 by decide) field.1
    (getElem?_jsonStrings done rest) stream
  refine ⟨bytes, hbytes, ?_⟩
  rw [writeLogFields, hsize, hwritten, hcounter, List.length_append, List.length_singleton]

/-- **The pass that writes follows the one that sized.** -/
theorem writeLogFields_writes (done rest : List (List UInt8 × Value)) :
    Writes (writeLogFields ((done ++ rest).map fun field => (encodeFields (keyValueFields field.1 field.2)).length)
        (jsonStrings (done ++ rest)) rest done.length (jsonStrings done).length)
      (encodeFields (rest.map logFieldField)) := by
  induction rest generalizing done with
  | nil => exact Writes.id
  | cons field rest ih =>
    intro stream
    obtain ⟨bytes, hbytes, hwritten⟩ := writeLogFields_step done field rest stream
    obtain ⟨bytes', hbytes', hwritten'⟩ := ih (done ++ [field]) (put bytes stream)
    refine ⟨Option.map₂ (· ++ ·) bytes bytes', hbytes.append hbytes', ?_⟩
    rw [← List.append_cons, LawfulOutputStream.put_put] at hwritten'
    rw [hwritten, hwritten']

/-- The size of a record is that of its time and of its fields. -/
theorem length_logFields (timestamp : SystemTime) (fields : List (List UInt8 × Value)) :
    (encodeFields (logFields timestamp fields)).length =
      computeLengthDelimitedSerializationSize logTimestampField (encodeFields (systemTimeFields timestamp)).length +
        (encodeFields (fields.map logFieldField)).length := by
  rw [logFields, encodeFields_cons, List.length_append, length_encode_lengthDelimited (by decide)]

/-- **A record of a log is one field** of its span. -/
theorem writeLog_writes (timestamp : SystemTime) (fields : List (List UInt8 × Value)) :
    WritesField (writeLog timestamp fields) logsField (encodeFields (logFields timestamp fields)) := by
  have htimestamp : (encodeFields (systemTimeFields timestamp)).length =
      computeTimestampSerializationSize (protobufFormatTimestamp timestamp).1 (protobufFormatTimestamp timestamp).2 :=
    length_timestampFields _ _
  have hsized : LogSizes.Sized ⟨[], [], [], 0, computeLengthDelimitedSerializationSize logTimestampField
      (encodeFields (systemTimeFields timestamp)).length⟩ (computeLengthDelimitedSerializationSize logTimestampField
      (encodeFields (systemTimeFields timestamp)).length) [] := ⟨rfl, rfl, rfl, rfl⟩
  have hsized := hsized.foldl fields
  rw [List.nil_append] at hsized
  have htime := WritesField.writeTimestampParts (S := CodedOutputStream) (show logTimestampField < 2 ^ 29 by decide)
    (protobufFormatTimestamp timestamp).1 (protobufFormatTimestamp timestamp).2
  have hinner := Writes.comp htime (writeLogFields_writes [] fields)
  have hmeant : (Library.Field.mk logTimestampField (.lengthDelimited (encodeFields (timestampFields
      (protobufFormatTimestamp timestamp).1 (protobufFormatTimestamp timestamp).2)))).encode ++
      encodeFields (fields.map logFieldField) = encodeFields (logFields timestamp fields) := (encodeFields_cons ..).symm
  rw [hmeant] at hinner
  have hlog := hinner.prefixed (show logsField < 2 ^ 29 by decide)
    (hsized.serializationSize.trans (length_logFields timestamp fields).symm)
  intro stream
  obtain ⟨bytes, hbytes, hwritten⟩ := hlog stream
  refine ⟨bytes, hbytes, Eq.trans ?_ hwritten⟩
  rw [htimestamp] at hsized ⊢
  rw [writeLog]
  dsimp only
  rw [hsized.fieldSerializationSizes, hsized.jsonValues]
  rfl

end Lightstep.Tracer

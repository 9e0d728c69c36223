import Lightstep.Common.FlatMap
import Lightstep.Common.Utility
import Lightstep.Tracer.SpanFields

/-! What a parser reads from the fields of a span.

The payload of each field, if it is shorter than the parser's limit, is read back
to the message that the conversions to the collector's types make of the same
values. -/
namespace Lightstep.Tracer
open Common Library Collector

/-! ### Timestamps -/

/-- The fields that are written are ones that a parser takes. -/
theorem regular_timestampFields (secondsSinceEpoch : UInt64) (nanoFraction : UInt32) :
    ∀ f ∈ timestampFields secondsSinceEpoch nanoFraction, f.Regular := by
  intro f hf
  rcases List.mem_pair.mp hf with rfl | rfl
  · exact regular_varint64 (by decide) (by decide) secondsSinceEpoch
  · exact regular_varint32 (by decide) (by decide) nanoFraction

/-- Both fields are there, so that nothing is left of an earlier timestamp. -/
theorem read_systemTimeFields {t : SystemTime} (h : (encodeFields (systemTimeFields t)).length < 2 ^ 31)
    (init : Timestamp) :
    readMessage Timestamp.read init (encodeFields (systemTimeFields t)) = some (toTimestamp t) := by
  refine (readMessage_of_regular (regular_timestampFields _ _) h _ _).trans ?_
  simp only [timestampFields, List.foldlM_cons, List.foldlM_nil, Timestamp.read, Nat.toUInt64,
    Nat.toUInt32, UInt64.ofNat_toNat, UInt32.ofNat_toNat]
  rfl

/-! ### Contexts and references -/

theorem regular_entryFields (item : List UInt8 × List UInt8) : ∀ f ∈ entryFields item.1 item.2, f.Regular := by
  intro f hf
  rcases List.mem_pair.mp hf with rfl | rfl
  · exact regular_lengthDelimited (by decide) (by decide) item.1
  · exact regular_lengthDelimited (by decide) (by decide) item.2

theorem regular_spanContextFields (traceId spanId : UInt64) (baggage : List (List UInt8 × List UInt8)) :
    ∀ f ∈ spanContextFields traceId spanId baggage, f.Regular := by
  refine List.forall_mem_cons.mpr ⟨regular_varint64 (by decide) (by decide) traceId, ?_⟩
  refine List.forall_mem_cons.mpr ⟨regular_varint64 (by decide) (by decide) spanId, fun f hf => ?_⟩
  obtain ⟨item, -, rfl⟩ := List.mem_map.mp hf
  exact regular_lengthDelimited (by decide) (by decide) _

/-- The entry of an item is read as the item. -/
theorem read_entryFields {item : List UInt8 × List UInt8} (h : (baggageField item).encode.length < 2 ^ 31) :
    readMessage readEntry ([], []) (encodeFields (entryFields item.1 item.2)) = some item := by
  have hentry : (encodeFields (entryFields item.1 item.2)).length < 2 ^ 31 :=
    Nat.lt_of_le_of_lt (length_le_encode _ _) h
  exact readMessage_of_regular (regular_entryFields item) hentry readEntry ([], [])

/-- The item goes into the map of the context. -/
theorem read_baggageField {item : List UInt8 × List UInt8} (h : (baggageField item).encode.length < 2 ^ 31)
    (c : SpanContext) :
    c.read (baggageField item) = some {c with baggage := c.baggage.insert item.1 item.2} :=
  congrArg (Option.map _) (read_entryFields h)

/-- A bound on a context is one on each of its items. -/
theorem length_baggageField_lt {traceId spanId : UInt64} {baggage : List (List UInt8 × List UInt8)} {n : Nat}
    (h : (encodeFields (spanContextFields traceId spanId baggage)).length < n) :
    ∀ item ∈ baggage, (baggageField item).encode.length < n := by
  intro item hitem
  have hmem : baggageField item ∈ spanContextFields traceId spanId baggage :=
    List.mem_cons_of_mem _ (List.mem_cons_of_mem _ (List.mem_map_of_mem hitem))
  exact Nat.lt_of_le_of_lt (length_le_encodeFields hmem) h

/-- The items are inserted into the map, one after the other. -/
theorem foldlM_baggageField {baggage : List (List UInt8 × List UInt8)}
    (h : ∀ item ∈ baggage, (baggageField item).encode.length < 2 ^ 31) (c : SpanContext) :
    (baggage.map baggageField).foldlM SpanContext.read c =
      some {c with baggage := FlatMap.insertAll baggage c.baggage} := by
  induction baggage generalizing c with
  | nil => rfl
  | cons item rest ih =>
    rw [List.map_cons, List.foldlM_cons, read_baggageField (h item (List.mem_cons_self ..))]
    exact ih (fun x hx => h x (List.mem_cons_of_mem item hx)) _

/-- **A context is read back**, its baggage into the map that was there. -/
theorem read_spanContextFields {traceId spanId : UInt64} {baggage : List (List UInt8 × List UInt8)}
    (h : (encodeFields (spanContextFields traceId spanId baggage)).length < 2 ^ 31) (init : SpanContext) :
    readMessage SpanContext.read init (encodeFields (spanContextFields traceId spanId baggage)) =
      some ⟨traceId, spanId, FlatMap.insertAll baggage init.baggage⟩ := by
  rw [readMessage_of_regular (regular_spanContextFields traceId spanId baggage) h, spanContextFields,
    List.foldlM_cons]
  have hids : SpanContext.mk traceId.toNat.toUInt64 spanId.toNat.toUInt64 init.baggage =
      ⟨traceId, spanId, init.baggage⟩ :=
    congrArg₂ (SpanContext.mk · · init.baggage) UInt64.ofNat_toNat UInt64.ofNat_toNat
  show (baggage.map baggageField).foldlM SpanContext.read
    ⟨traceId.toNat.toUInt64, spanId.toNat.toUInt64, init.baggage⟩ = _
  rw [hids]
  exact foldlM_baggageField (length_baggageField_lt h) ⟨traceId, spanId, init.baggage⟩

/-- The type of a reference in the collector's words. -/
def toRelationship : SpanReferenceType → Relationship
  | .childOfRef => .childOf
  | .followsFromRef => .followsFrom

theorem toInt32_relationship (referenceType : SpanReferenceType) :
    (relationship referenceType).toNat.toUInt32.toInt32 = (toRelationship referenceType).toInt32 := by
  cases referenceType <;> rfl

theorem regular_referenceFields (referenceType : SpanReferenceType) (traceId spanId : UInt64) :
    ∀ f ∈ referenceFields referenceType traceId spanId, f.Regular := by
  intro f hf
  rcases List.mem_pair.mp hf with rfl | rfl
  · exact regular_varint32 (by decide) (by decide) (relationship referenceType)
  · exact regular_lengthDelimited (by decide) (by decide) _

/-- **A reference is read back.** -/
theorem read_referenceFields {referenceType : SpanReferenceType} {traceId spanId : UInt64}
    (h : (encodeFields (referenceFields referenceType traceId spanId)).length < 2 ^ 31) :
    readMessage Reference.read .default (encodeFields (referenceFields referenceType traceId spanId)) =
      some ⟨(toRelationship referenceType).toInt32, some ⟨traceId, spanId, ∅⟩⟩ := by
  have hcontext : (encodeFields (spanContextFields traceId spanId [])).length < 2 ^ 31 := by
    refine Nat.lt_of_le_of_lt (Nat.le_trans (length_le_encode spanReferenceSpanContextField _)
      (length_le_encodeFields ?_)) h
    exact List.mem_cons_of_mem _ (List.mem_cons_self ..)
  have hread : readMessage SpanContext.read .default (encodeFields (spanContextFields traceId spanId [])) =
      some ⟨traceId, spanId, ∅⟩ := read_spanContextFields hcontext .default
  rw [readMessage_of_regular (regular_referenceFields referenceType traceId spanId) h, referenceFields,
    List.foldlM_cons]
  show ((readMessage SpanContext.read .default (encodeFields (spanContextFields traceId spanId []))).map
    fun c => Reference.mk (relationship referenceType).toNat.toUInt32.toInt32 (some c)).bind some = _
  rw [hread, toInt32_relationship]
  rfl

/-! ### Key-values and logs -/

variable [DoubleFormat]

theorem regular_valueField (value : Value) : (valueField value).Regular := by
  cases value with
  | bool value =>
    have hvalue : value.toNat < 2 ^ 64 := Nat.lt_of_le_of_lt value.toNat_le (by decide)
    exact ⟨(by decide : 0 < keyValueBoolValueField), (by decide : keyValueBoolValueField < 2 ^ 29), hvalue⟩
  | double value =>
    exact ⟨(by decide : 0 < keyValueDoubleValueField), (by decide : keyValueDoubleValueField < 2 ^ 29), value.toNat_lt⟩
  | int64 value => exact regular_varint64 (by decide) (by decide) value.toUInt64
  | uint64 value => exact regular_varint64 (by decide) (by decide) value
  | string s => exact regular_lengthDelimited (by decide) (by decide) s
  | null => exact regular_varint32 (by decide) (by decide) 0
  | cString s => exact regular_lengthDelimited (by decide) (by decide) _
  | values values => exact regular_lengthDelimited (by decide) (by decide) _
  | dictionary dictionary => exact regular_lengthDelimited (by decide) (by decide) _

theorem regular_keyValueFields (key : List UInt8) (value : Value) : ∀ f ∈ keyValueFields key value, f.Regular := by
  intro f hf
  rcases List.mem_pair.mp hf with rfl | rfl
  · exact regular_lengthDelimited (by decide) (by decide) key
  · exact regular_valueField value

/-- A value is read as what the collector makes of it, whichever member of the `oneof` that is. -/
theorem read_valueField (key : List UInt8) (value : Value) :
    KeyValue.read ⟨key, none⟩ (valueField value) = some (toKeyValue key value) := by
  cases value with
  | bool value => cases value <;> rfl
  | double value => exact congrArg (fun x => some (KeyValue.mk key (some (.doubleValue x)))) UInt64.ofNat_toNat
  | int64 value => exact congrArg (fun x => some (KeyValue.mk key (some (.intValue x.toInt64)))) UInt64.ofNat_toNat
  | uint64 value => exact congrArg (fun x => some (KeyValue.mk key (some (.intValue x.toInt64)))) UInt64.ofNat_toNat
  | string s => rfl
  | null => rfl
  | cString s => rfl
  | values values => rfl
  | dictionary dictionary => rfl

/-- **A key-value is read back.** -/
theorem read_keyValueFields {key : List UInt8} {value : Value}
    (h : (encodeFields (keyValueFields key value)).length < 2 ^ 31) :
    readMessage KeyValue.read .default (encodeFields (keyValueFields key value)) = some (toKeyValue key value) := by
  rw [readMessage_of_regular (regular_keyValueFields key value) h, keyValueFields, List.foldlM_cons]
  show (KeyValue.read ⟨key, none⟩ (valueField value)).bind some = _
  rw [read_valueField]
  rfl

theorem regular_logFields (timestamp : SystemTime) (fields : List (List UInt8 × Value)) :
    ∀ f ∈ logFields timestamp fields, f.Regular := by
  refine List.forall_mem_cons.mpr ⟨regular_lengthDelimited (by decide) (by decide) _, fun f hf => ?_⟩
  obtain ⟨field, -, rfl⟩ := List.mem_map.mp hf
  exact regular_lengthDelimited (by decide) (by decide) _

/-- A field of a record is appended to its fields. -/
theorem read_logFieldField {field : List UInt8 × Value} (h : (logFieldField field).encode.length < 2 ^ 31) (log : Log) :
    log.read (logFieldField field) = some {log with fields := log.fields ++ [toKeyValue field.1 field.2]} := by
  have hread := read_keyValueFields (Nat.lt_of_le_of_lt (length_le_encode logFieldsField _) h)
  exact congrArg (Option.map _) hread

/-- The fields of a record are read in their order. -/
theorem foldlM_logFieldField {fields : List (List UInt8 × Value)}
    (h : ∀ field ∈ fields, (logFieldField field).encode.length < 2 ^ 31) (log : Log) :
    (fields.map logFieldField).foldlM Log.read log =
      some {log with fields := log.fields ++ fields.map fun field => toKeyValue field.1 field.2} := by
  induction fields generalizing log with
  | nil => rw [List.map_nil, List.map_nil, List.append_nil]; rfl
  | cons field rest ih =>
    have hrest := ih (fun x hx => h x (List.mem_cons_of_mem field hx))
      {log with fields := log.fields ++ [toKeyValue field.1 field.2]}
    rw [List.append_assoc] at hrest
    rw [List.map_cons, List.foldlM_cons, read_logFieldField (h field (List.mem_cons_self ..))]
    exact hrest

/-- **A record of a log is read back**, its time and all its fields. -/
theorem read_logFields {timestamp : SystemTime} {fields : List (List UInt8 × Value)}
    (h : (encodeFields (logFields timestamp fields)).length < 2 ^ 31) :
    readMessage Log.read .default (encodeFields (logFields timestamp fields)) = some (toLog timestamp fields) := by
  have hpart : ∀ {f : Library.Field}, f ∈ logFields timestamp fields → f.encode.length < 2 ^ 31 := fun hf =>
    Nat.lt_of_le_of_lt (length_le_encodeFields hf) h
  have htimestamp : (encodeFields (systemTimeFields timestamp)).length < 2 ^ 31 :=
    Nat.lt_of_le_of_lt (length_le_encode logTimestampField _) (hpart (List.mem_cons_self ..))
  have hfields : ∀ field ∈ fields, (logFieldField field).encode.length < 2 ^ 31 := fun field hfield =>
    hpart (List.mem_cons_of_mem _ (List.mem_map_of_mem hfield))
  rw [readMessage_of_regular (regular_logFields timestamp fields) h, logFields, List.foldlM_cons]
  show ((readMessage Timestamp.read .default (encodeFields (systemTimeFields timestamp))).map
    fun t => Log.mk (some t) []).bind _ = _
  rw [read_systemTimeFields htimestamp .default]
  exact foldlM_logFieldField hfields _

end Lightstep.Tracer

import Lightstep.Common.Serialization

/-! What the writers of fields append to a stream.

A writer appends the encoding of its field, as long as that is not too long for the
prefixes in it, and the computed sizes are those of the encodings. -/
namespace Lightstep.Common
open Library

/-! ### Sizes -/

/-- A key is its field number and its wire type. -/
theorem toNat_staticSerializationKey {fieldNumber : Nat} (h : fieldNumber < 2 ^ 29) (wireType : WireType) :
    (staticSerializationKey fieldNumber wireType).toNat = fieldNumber * 8 + wireType.toNat := by
  have htype : wireType.toNat < 2 ^ 3 := by cases wireType <;> decide
  have hor : fieldNumber <<< 3 ||| wireType.toNat = fieldNumber * 8 + wireType.toNat := by
    rw [← Nat.shiftLeft_add_eq_or_of_lt htype, Nat.shiftLeft_eq]
  rw [staticSerializationKey, hor, Nat.toUInt32, UInt32.toNat_ofNat']
  omega

theorem varint_staticSerializationKey {fieldNumber : Nat} (h : fieldNumber < 2 ^ 29) (wireType : WireType) :
    varint (staticSerializationKey fieldNumber wireType).toNat = fieldTag fieldNumber wireType.toNat := by
  rw [toNat_staticSerializationKey h, fieldTag]

theorem length_encode_varint {fieldNumber : Nat} (h : fieldNumber < 2 ^ 29) (x : Nat) :
    (Library.Field.mk fieldNumber (.varint x)).encode.length = computeVarintSerializationSize fieldNumber x := by
  rw [computeVarintSerializationSize, staticKeySerializationSize, varintSize, varint_staticSerializationKey h,
    Field.encode, List.length_append]
  rfl

theorem length_encode_fixed64 {fieldNumber : Nat} (h : fieldNumber < 2 ^ 29) (x : Nat) :
    (Library.Field.mk fieldNumber (.fixed64 x)).encode.length = staticKeySerializationSize fieldNumber .fixed64 + 8 := by
  rw [staticKeySerializationSize, varintSize, varint_staticSerializationKey h, Field.encode, List.length_append,
    WireValue.encode, length_littleEndian]
  rfl

/-- The precomputed size is the length of the field. -/
theorem length_encode_lengthDelimited {fieldNumber : Nat} (h : fieldNumber < 2 ^ 29) (payload : List UInt8) :
    (Library.Field.mk fieldNumber (.lengthDelimited payload)).encode.length =
      computeLengthDelimitedSerializationSize fieldNumber payload.length := by
  rw [computeLengthDelimitedSerializationSize, staticKeySerializationSize, varintSize, varintSize,
    varint_staticSerializationKey h, Field.encode, List.length_append, WireValue.encode, List.length_append,
    Nat.add_assoc]
  rfl

theorem encodeFields_cons (f : Field) (fields : List Field) :
    encodeFields (f :: fields) = f.encode ++ encodeFields fields := List.flatMap_cons

theorem encodeFields_singleton (f : Field) : encodeFields [f] = f.encode := by
  rw [encodeFields_cons]
  exact List.append_nil _

/-! ### Writers -/

/-- Whatever the stream, what is meant is appended to it, or is too long for a size. -/
def Writes {S : Type} [OutputStream S] (f : S → S) (meant : List UInt8) : Prop :=
  ∀ stream, ∃ bytes, EqOrLong bytes meant ∧ f stream = put bytes stream

/-- What writes a field with a payload. -/
def WritesField {S : Type} [OutputStream S] (f : S → S) (fieldNumber : Nat) (payload : List UInt8) : Prop :=
  Writes f (Library.Field.mk fieldNumber (.lengthDelimited payload)).encode

/-- What writes the same to both streams. -/
def Serializer.Writes (serializer : Serializer) (meant : List UInt8) : Prop :=
  Common.Writes serializer.coded meant ∧ Common.Writes serializer.direct meant

namespace Writes
section
variable {S : Type} [OutputStream S] [LawfulOutputStream S] {f g : S → S} {a b : List UInt8}

omit [LawfulOutputStream S] in
theorem put (bytes : List UInt8) : Writes (Common.put (some bytes) : S → S) bytes :=
  fun _ => ⟨some bytes, .refl bytes, rfl⟩

omit [LawfulOutputStream S] in
/-- A size that is no `int` is one that is too long. -/
theorem withSize (hf : Writes f a) : Writes (withSize a.length f) a := by
  intro stream
  rw [Common.withSize]
  by_cases hsize : a.length < 2 ^ 31
  · rw [if_pos hsize]
    exact hf stream
  · rw [if_neg hsize]
    exact ⟨none, .none (Nat.le_of_not_lt hsize), rfl⟩

omit [LawfulOutputStream S] in
theorem raw (bytes : List UInt8) : Writes (writeRaw bytes : S → S) bytes := (put bytes).withSize

/-- What writes one thing after another. -/
theorem comp (hf : Writes f a) (hg : Writes g b) : Writes (fun stream => g (f stream)) (a ++ b) := by
  intro stream
  obtain ⟨bytes, hbytes, hf⟩ := hf stream
  obtain ⟨bytes', hbytes', hg⟩ := hg (f stream)
  refine ⟨Option.map₂ (· ++ ·) bytes bytes', hbytes.append hbytes', ?_⟩
  show g (f stream) = _
  rw [hg, hf, LawfulOutputStream.put_put]

theorem id : Writes (fun stream : S => stream) [] :=
  fun stream => ⟨some [], .refl [], (LawfulOutputStream.put_nil stream).symm⟩

omit [LawfulOutputStream S] in
/-- Below the bound the stream gets what is meant. -/
theorem eq_put (h : Writes f a) (ha : a.length < 2 ^ 31) (stream : S) : f stream = Common.put (some a) stream := by
  obtain ⟨bytes, hbytes, hf⟩ := h stream
  rw [hf, hbytes.eq_of_length_lt ha]

omit [LawfulOutputStream S] in
theorem writeTag {fieldNumber : Nat} (h : fieldNumber < 2 ^ 29) (wireType : WireType) :
    Writes (Common.writeTag (staticSerializationKey fieldNumber wireType) : S → S)
      (fieldTag fieldNumber wireType.toNat) := by
  rw [← varint_staticSerializationKey h]
  exact put _

theorem writeVarintField64 {fieldNumber : Nat} (h : fieldNumber < 2 ^ 29) (x : UInt64) :
    Writes (Common.writeVarintField64 fieldNumber x : S → S) (Library.Field.mk fieldNumber (.varint x.toNat)).encode :=
  (writeTag h .varint).comp (put _)

theorem writeVarintField32 {fieldNumber : Nat} (h : fieldNumber < 2 ^ 29) (x : UInt32) :
    Writes (Common.writeVarintField32 fieldNumber x : S → S) (Library.Field.mk fieldNumber (.varint x.toNat)).encode :=
  (writeTag h .varint).comp (put _)

theorem writeFixed64 {fieldNumber : Nat} (h : fieldNumber < 2 ^ 29) (data : UInt64) :
    Writes (Common.writeFixed64 fieldNumber data : S → S) (Library.Field.mk fieldNumber (.fixed64 data.toNat)).encode :=
  (writeTag h .fixed64).comp (put _)

theorem writeBigVarint {fieldNumber : Nat} (h : fieldNumber < 2 ^ 29) (x : UInt64) :
    Writes (Common.writeBigVarint fieldNumber x : S → S) (Library.Field.mk fieldNumber (.varint x.toNat)).encode := by
  have hbig : Writes (writeBigVarint64 x : S → S) (varint x.toNat) := fun stream =>
    ⟨some (varint x.toNat), .refl _, LawfulOutputStream.writeBigVarint64_eq x stream⟩
  exact (writeTag h .varint).comp hbig

/-- A field whose prefix is written before it. -/
theorem prefixed {fieldNumber : Nat} (h : fieldNumber < 2 ^ 29) (hf : Writes f a) {length : Nat}
    (hlength : length = a.length) :
    WritesField (fun stream => f (writeKeyLength fieldNumber length stream)) fieldNumber a := by
  intro stream
  obtain ⟨bytes, hbytes, hf⟩ := hf (writeKeyLength fieldNumber length stream)
  refine ⟨_, hbytes.field fieldNumber, ?_⟩
  have hcut : length.toUInt32.toNat = a.length % 2 ^ 32 := by
    rw [Nat.toUInt32, UInt32.toNat_ofNat', hlength]
  show f (writeKeyLength fieldNumber length stream) = _
  rw [hf, writeKeyLength, writeVarint32, Common.writeTag, writeVarint32, hcut, varint_staticSerializationKey h,
    LawfulOutputStream.put_put, LawfulOutputStream.put_put]
  cases bytes <;> rfl

end

/-- The functor writes the same to both streams, and the memory it is handed has the size of what it writes. -/
theorem withDirectBuffer {serializer : Serializer} {meant : List UInt8} {totalSize : Nat}
    (h : serializer.Writes meant) (hsize : totalSize = meant.length) :
    Writes (CodedOutputStream.withDirectBuffer totalSize serializer) meant := by
  subst hsize
  refine Writes.withSize fun stream => ?_
  cases stream.getDirectBufferForNBytesAndAdvance meant.length with
  | none => exact h.1 stream
  | some memory =>
    obtain ⟨bytes, hbytes, hwritten⟩ := h.2 ⟨some []⟩
    have hlength : memory.toList.length = meant.length := Vector.length_toList
    refine ⟨_, hbytes.fillMemory hlength, ?_⟩
    show CodedOutputStream.fill memory (serializer.direct ⟨some []⟩) stream = _
    rw [hwritten, CodedOutputStream.fill]
    cases bytes <;> rfl

/-- **A field is written as it is meant**, into memory or to the stream. -/
theorem lengthDelimited {fieldNumber : Nat} {serializer : Serializer} {payload : List UInt8}
    (h : fieldNumber < 2 ^ 29) (hserializer : serializer.Writes payload) :
    WritesField (writeLengthDelimitedField fieldNumber payload.length serializer : CodedOutputStream → CodedOutputStream)
      fieldNumber payload :=
  withDirectBuffer ⟨hserializer.1.prefixed h rfl, hserializer.2.prefixed h rfl⟩
    (length_encode_lengthDelimited h payload).symm

end Writes

/-- The laws of `WriteLengthDelimitedField`. -/
class LawfulLengthDelimitedStream (S : Type) [LengthDelimitedStream S] : Prop extends LawfulOutputStream S where
  lengthDelimited {fieldNumber : Nat} {serializer : Serializer} {payload : List UInt8} (h : fieldNumber < 2 ^ 29)
    (hserializer : serializer.Writes payload) :
    WritesField (writeLengthDelimitedField fieldNumber payload.length serializer : S → S) fieldNumber payload

instance : LawfulLengthDelimitedStream CodedOutputStream where
  lengthDelimited := Writes.lengthDelimited

instance : LawfulLengthDelimitedStream DirectCodedOutputStream where
  lengthDelimited h hserializer := hserializer.2.prefixed h rfl

/-! ### Strings and timestamps -/

theorem stringSerializer_writes (s : List UInt8) : (stringSerializer s).Writes s := ⟨.raw s, .raw s⟩

theorem WritesField.writeString {S : Type} [LengthDelimitedStream S] [LawfulLengthDelimitedStream S] {fieldNumber : Nat}
    (h : fieldNumber < 2 ^ 29) (s : List UInt8) :
    WritesField (Common.writeString fieldNumber s : S → S) fieldNumber s :=
  LawfulLengthDelimitedStream.lengthDelimited h (stringSerializer_writes s)

/-- The fields of a timestamp. -/
def timestampFields (secondsSinceEpoch : UInt64) (nanoFraction : UInt32) : List Field :=
  [⟨1, .varint secondsSinceEpoch.toNat⟩, ⟨2, .varint nanoFraction.toNat⟩]

theorem length_timestampFields (secondsSinceEpoch : UInt64) (nanoFraction : UInt32) :
    (encodeFields (timestampFields secondsSinceEpoch nanoFraction)).length =
      computeTimestampSerializationSize secondsSinceEpoch nanoFraction := by
  rw [timestampFields, encodeFields_cons, encodeFields_singleton, List.length_append,
    length_encode_varint (by decide), length_encode_varint (by decide), computeTimestampSerializationSize]

theorem timestampSerializer_writes (secondsSinceEpoch : UInt64) (nanoFraction : UInt32) :
    (timestampSerializer secondsSinceEpoch nanoFraction).Writes
      (encodeFields (timestampFields secondsSinceEpoch nanoFraction)) := by
  rw [timestampFields, encodeFields_cons, encodeFields_singleton]
  exact ⟨(Writes.writeVarintField64 (by decide) _).comp (.writeVarintField32 (by decide) _),
    (Writes.writeVarintField64 (by decide) _).comp (.writeVarintField32 (by decide) _)⟩

theorem WritesField.writeTimestampParts {S : Type} [LengthDelimitedStream S] [LawfulLengthDelimitedStream S]
    {fieldNumber : Nat} (h : fieldNumber < 2 ^ 29) (secondsSinceEpoch : UInt64) (nanoFraction : UInt32) :
    WritesField (Common.writeTimestampParts fieldNumber (computeTimestampSerializationSize secondsSinceEpoch nanoFraction)
        secondsSinceEpoch nanoFraction : S → S)
      fieldNumber (encodeFields (timestampFields secondsSinceEpoch nanoFraction)) := by
  rw [← length_timestampFields]
  exact LawfulLengthDelimitedStream.lengthDelimited h (timestampSerializer_writes secondsSinceEpoch nanoFraction)

/-- The fields of a system time. -/
def systemTimeFields (t : SystemTime) : List Field :=
  timestampFields (protobufFormatTimestamp t).1 (protobufFormatTimestamp t).2

theorem WritesField.writeTimestamp {fieldNumber : Nat} (h : fieldNumber < 2 ^ 29) (t : SystemTime) :
    WritesField (Common.writeTimestamp fieldNumber t) fieldNumber (encodeFields (systemTimeFields t)) :=
  WritesField.writeTimestampParts h _ _

/-! ### Key-values -/

/-- Whether the value is converted to JSON. -/
def Value.isJson : Value → Bool
  | values _ => true
  | dictionary _ => true
  | _ => false

variable [DoubleFormat]

/-- The one field of a value. -/
def valueField (value : Value) : Field :=
  match value with
  | .bool value => ⟨keyValueBoolValueField, .varint value.toNat⟩
  | .double value => ⟨keyValueDoubleValueField, .fixed64 value.toNat⟩
  | .int64 value => ⟨keyValueIntValueField, .varint value.toUInt64.toNat⟩
  | .uint64 value => ⟨keyValueIntValueField, .varint value.toNat⟩
  | .string s => ⟨keyValueStringValueField, .lengthDelimited s⟩
  | .null => ⟨keyValueBoolValueField, .varint 0⟩
  | .cString s => ⟨keyValueStringValueField, .lengthDelimited (cStringView s)⟩
  | .values values => ⟨keyValueJsonValueField, .lengthDelimited (toJson (.values values))⟩
  | .dictionary dictionary => ⟨keyValueJsonValueField, .lengthDelimited (toJson (.dictionary dictionary))⟩

def keyValueFields (key : List UInt8) (value : Value) : List Field :=
  [⟨keyValueKeyField, .lengthDelimited key⟩, valueField value]

theorem encode_keyValueFields (key : List UInt8) (value : Value) :
    encodeFields (keyValueFields key value) =
      (Library.Field.mk keyValueKeyField (.lengthDelimited key)).encode ++ (valueField value).encode := by
  rw [keyValueFields, encodeFields_cons, encodeFields_singleton]

/-- **The computed size is that of the encoding**, and the string is the JSON of the value if it has one. -/
theorem computeKeyValueSerializationSize_eq (key : List UInt8) (value : Value) (json : List UInt8) (jsonCounter : Nat) :
    computeKeyValueSerializationSize key value json jsonCounter =
      ((encodeFields (keyValueFields key value)).length, if value.isJson then toJson value else json,
        jsonCounter + value.isJson.toNat) := by
  rw [encode_keyValueFields, List.length_append, length_encode_lengthDelimited (by decide)]
  cases value <;>
    simp [computeKeyValueSerializationSize, valueField, Value.isJson, length_encode_lengthDelimited, length_encode_varint,
      length_encode_fixed64, keyValueKeyField, keyValueStringValueField, keyValueIntValueField, keyValueDoubleValueField,
      keyValueBoolValueField, keyValueJsonValueField]

/-- **The pass that writes follows the one that computed the size**, if the string at the counter is
the JSON of the value. -/
theorem writeKeyValueImpl_spec (key : List UInt8) {value : Value} {jsonValues : List (List UInt8)} {jsonCounter : Nat}
    (h : value.isJson = true → jsonValues[jsonCounter]? = some (toJson value)) (stream : CodedOutputStream) :
    ∃ bytes, EqOrLong bytes (encodeFields (keyValueFields key value)) ∧
      writeKeyValueImpl key value jsonValues jsonCounter stream =
        (put bytes stream, jsonCounter + value.isJson.toNat) := by
  have hkey : keyValueKeyField < 2 ^ 29 := by decide
  have hwrite : ∀ f : CodedOutputStream → CodedOutputStream, Writes f (valueField value).encode →
      writeKeyValueImpl key value jsonValues jsonCounter stream =
        (f (writeString keyValueKeyField key stream), jsonCounter + value.isJson.toNat) →
      ∃ bytes, EqOrLong bytes (encodeFields (keyValueFields key value)) ∧
        writeKeyValueImpl key value jsonValues jsonCounter stream =
          (put bytes stream, jsonCounter + value.isJson.toNat) := fun f hf heq => by
    obtain ⟨bytes, hbytes, hwritten⟩ := Writes.comp (WritesField.writeString hkey key) hf stream
    rw [encode_keyValueFields]
    exact ⟨bytes, hbytes, by rw [heq]; exact congrArg (·, _) hwritten⟩
  have hjson : ∀ s, jsonValues[jsonCounter]? = some s → jsonValues.getD jsonCounter [] = s := fun s hs => by
    rw [List.getD_eq_getElem?_getD, hs, Option.getD_some]
  have hbool : keyValueBoolValueField < 2 ^ 29 := by decide
  have hint : keyValueIntValueField < 2 ^ 29 := by decide
  have hstring : keyValueStringValueField < 2 ^ 29 := by decide
  have hjsonField : keyValueJsonValueField < 2 ^ 29 := by decide
  cases value with
  | bool value => cases value <;> exact hwrite _ (.writeVarintField32 hbool _) rfl
  | double value => exact hwrite _ (.writeFixed64 (by decide) value) rfl
  | int64 value => exact hwrite _ (.writeVarintField64 hint value.toUInt64) rfl
  | uint64 value => exact hwrite _ (.writeVarintField64 hint value) rfl
  | string s => exact hwrite _ (WritesField.writeString hstring s) rfl
  | null => exact hwrite _ (.writeVarintField32 hbool 0) rfl
  | cString s => exact hwrite _ (WritesField.writeString hstring (cStringView s)) rfl
  | values values =>
    refine hwrite _ (WritesField.writeString hjsonField (toJson (.values values))) ?_
    rw [writeKeyValueImpl, hjson _ (h rfl)]
    rfl
  | dictionary dictionary =>
    refine hwrite _ (WritesField.writeString hjsonField (toJson (.dictionary dictionary))) ?_
    rw [writeKeyValueImpl, hjson _ (h rfl)]
    rfl

/-- A key-value with its key field. -/
theorem writeKeyValueSized_spec {fieldNumber : Nat} (hfield : fieldNumber < 2 ^ 29) (key : List UInt8) {value : Value}
    {jsonValues : List (List UInt8)} {jsonCounter : Nat}
    (h : value.isJson = true → jsonValues[jsonCounter]? = some (toJson value)) (stream : CodedOutputStream) :
    ∃ bytes,
      EqOrLong bytes (Library.Field.mk fieldNumber (.lengthDelimited (encodeFields (keyValueFields key value)))).encode ∧
      writeKeyValueSized fieldNumber (encodeFields (keyValueFields key value)).length key value jsonValues jsonCounter
        stream = (put bytes stream, jsonCounter + value.isJson.toNat) := by
  have hfst : Writes (fun stream => (writeKeyValueImpl key value jsonValues jsonCounter stream).1)
      (encodeFields (keyValueFields key value)) := fun stream => by
    obtain ⟨bytes, hbytes, hwritten⟩ := writeKeyValueImpl_spec key h stream
    exact ⟨bytes, hbytes, congrArg Prod.fst hwritten⟩
  obtain ⟨bytes, hbytes, hwritten⟩ := hfst.prefixed hfield rfl stream
  obtain ⟨_, -, hcounter⟩ := writeKeyValueImpl_spec key h
    (writeKeyLength fieldNumber (encodeFields (keyValueFields key value)).length stream)
  have hsnd := congrArg Prod.snd hcounter
  exact ⟨bytes, hbytes, Prod.ext hwritten hsnd⟩

theorem WritesField.writeKeyValue {fieldNumber : Nat} (h : fieldNumber < 2 ^ 29) (key : List UInt8) (value : Value) :
    WritesField (Common.writeKeyValue fieldNumber key value) fieldNumber (encodeFields (keyValueFields key value)) := by
  intro stream
  have hjson : value.isJson = true →
      [if value.isJson then toJson value else []][0]? = some (toJson value) := fun h => by simp [h]
  obtain ⟨bytes, hbytes, hwritten⟩ := writeKeyValueSized_spec h key hjson stream
  refine ⟨bytes, hbytes, ?_⟩
  rw [Common.writeKeyValue, computeKeyValueSerializationSize_eq]
  dsimp only
  rw [hwritten]

end Lightstep.Common

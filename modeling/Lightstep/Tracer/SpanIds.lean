import Mathlib.Algebra.Order.Ring.Nat
import Mathlib.Algebra.Ring.Int.Defs
import Lightstep.Tracer.SpanFields

/-! The ids of a span.

Ids are random, and so nearly always big. Into memory they are written by a loop of
its own, without bounds: it leaves the shortest encoding, and memory of the computed
size is full. -/
namespace Lightstep.Tracer
open Common Library

/-- What is written of a number into memory is its shortest encoding, and as long as was computed. -/
structure WritesShortest (x : UInt64) : Prop where
  written : ∀ stream : DirectCodedOutputStream, ∃ bytes,
    stream.writeBigVarint64 x = ⟨stream.written.map (· ++ bytes)⟩ ∧ IsVarint x.toNat bytes ∧ bytes.length = varintSize x.toNat
  /-- There is no other such encoding. -/
  only : ∀ (stream : DirectCodedOutputStream) bytes, IsVarint x.toNat bytes →
    stream.writeBigVarint64 x = ⟨stream.written.map (· ++ bytes)⟩
  writeVarint64 : ∀ stream : DirectCodedOutputStream, stream.writeBigVarint64 x = writeVarint64 x stream
  varintSize : ∀ k, 0 < k → (varintSize x.toNat ≤ k ↔ x.toNat < 128 ^ k)
  field : ∀ fieldNumber < 2 ^ 29,
    (writeBigVarint fieldNumber x (⟨some []⟩ : DirectCodedOutputStream)).written.map List.length =
      some (computeVarintSerializationSize fieldNumber x.toNat)
  /-- Whatever the memory held. -/
  filled : ∀ fieldNumber < 2 ^ 29, ∀ (memory : Vector UInt8 (computeVarintSerializationSize fieldNumber x.toNat))
    (stream : CodedOutputStream),
    stream.fill memory (writeBigVarint fieldNumber x ⟨some []⟩) = writeVarintField64 fieldNumber x stream

theorem writeBigVarint_eq {S : Type} [OutputStream S] [LawfulOutputStream S] {fieldNumber : Nat}
    (h : fieldNumber < 2 ^ 29) (x : UInt64) (stream : S) :
    writeBigVarint fieldNumber x stream = put (some (Library.Field.mk fieldNumber (.varint x.toNat)).encode) stream := by
  have hlength := Field.encode_varint_length_le fieldNumber x.toNat
  exact (Writes.writeBigVarint h x).eq_put (by omega) stream

theorem written_writeBigVarint {fieldNumber : Nat} (h : fieldNumber < 2 ^ 29) (x : UInt64) :
    (writeBigVarint fieldNumber x (⟨some []⟩ : DirectCodedOutputStream)).written =
      some (Library.Field.mk fieldNumber (.varint x.toNat)).encode := by
  rw [writeBigVarint_eq h]
  rfl

/-- Nothing that memory held is left in it. -/
theorem fill_of_length {n : Nat} (memory : Vector UInt8 n) {direct : DirectCodedOutputStream}
    (h : direct.written.map List.length = some n) (stream : CodedOutputStream) :
    stream.fill memory direct = put direct.written stream := by
  obtain ⟨written, hwritten, rfl⟩ := Option.map_eq_some_iff.mp h
  rw [CodedOutputStream.fill, hwritten, fillMemory_of_length Vector.length_toList]

/-- **The bytes of any number are its varint.** -/
theorem writesShortest (x : UInt64) : WritesShortest x := by
  have hvarint : IsVarint x.toNat (varint x.toNat) := isVarint_varint x.toNat_lt
  have hwritten := DirectCodedOutputStream.writeBigVarint64_eq x
  have hfield : ∀ fieldNumber < 2 ^ 29,
      (writeBigVarint fieldNumber x (⟨some []⟩ : DirectCodedOutputStream)).written.map List.length =
        some (computeVarintSerializationSize fieldNumber x.toNat) := by
    intro fieldNumber h
    rw [written_writeBigVarint h, Option.map_some, length_encode_varint h]
  have hvarint64 : ∀ stream : DirectCodedOutputStream, stream.writeBigVarint64 x = writeVarint64 x stream :=
    LawfulOutputStream.writeBigVarint64_eq x
  refine ⟨fun stream => ⟨_, hwritten stream, hvarint, rfl⟩, fun stream bytes hbytes => ?_, hvarint64,
    fun k => varintSize_le_iff x.toNat_lt, hfield, fun fieldNumber h memory stream => ?_⟩
  · rw [hbytes.unique hvarint, hwritten]
  · have hlength := Field.encode_varint_length_le fieldNumber x.toNat
    rw [fill_of_length memory (hfield fieldNumber h), written_writeBigVarint h]
    exact ((Writes.writeVarintField64 h x).eq_put (by omega) stream).symm

/-! ### Both ids -/

/-- A context without baggage is its ids; with baggage they come before it. -/
theorem writeSpanContextImpl_nil {S : Type} [LengthDelimitedStream S] [LawfulLengthDelimitedStream S]
    (traceId spanId : UInt64) (stream : S) :
    writeSpanContextImpl traceId spanId [] stream =
      put (some (encodeFields (spanContextFields traceId spanId []))) stream := by
  have htraceId : spanContextTraceIdField < 2 ^ 29 := by decide
  have hspanId : spanContextSpanIdField < 2 ^ 29 := by decide
  show writeBigVarint spanContextSpanIdField spanId (writeBigVarint spanContextTraceIdField traceId stream) = _
  rw [writeBigVarint_eq hspanId, writeBigVarint_eq htraceId, LawfulOutputStream.put_put, spanContextFields,
    encodeFields_cons, List.map_nil, encodeFields_singleton, Option.map₂_some_some]

theorem length_writeSpanContextImpl_nil (traceId spanId : UInt64) :
    (writeSpanContextImpl traceId spanId [] (⟨some []⟩ : DirectCodedOutputStream)).written.map List.length =
      some (computeSpanContextSerializationSize traceId spanId []) := by
  rw [writeSpanContextImpl_nil, ← length_spanContextFields]
  rfl

/-- **Big numbers are written as any others**, and the memory for a span's ids is full. -/
theorem bigVarints_fill :
    (∀ x, WritesShortest x) ∧
    ∀ traceId spanId,
      (writeSpanContextImpl traceId spanId [] (⟨some []⟩ : DirectCodedOutputStream)).written.map List.length =
        some (computeSpanContextSerializationSize traceId spanId []) ∧
      ∀ (memory : Vector UInt8 (computeSpanContextSerializationSize traceId spanId [])) (stream : CodedOutputStream),
        stream.fill memory (writeSpanContextImpl traceId spanId [] ⟨some []⟩) =
          writeSpanContextImpl traceId spanId [] stream := by
  refine ⟨writesShortest, fun traceId spanId => ?_⟩
  have hlength := length_writeSpanContextImpl_nil traceId spanId
  refine ⟨hlength, fun memory stream => ?_⟩
  rw [fill_of_length memory hlength, writeSpanContextImpl_nil, writeSpanContextImpl_nil traceId spanId stream]
  rfl

end Lightstep.Tracer

import Mathlib.Algebra.Order.Ring.Nat
import Mathlib.Algebra.Ring.Int.Defs
import Lightstep.Tracer.SpanRead

/-! Times and the timestamps made of them.

A timestamp counts its fraction forward from its seconds, before the epoch as after
it. The count of nanoseconds is signed and the constant it is divided by is not, so
that the division is that of the count modulo `2 ^ 64`. -/
namespace Lightstep.Tracer
open Common Library Collector

/-- Seconds and a fraction of nanoseconds that are a time. -/
structure Exact (t : SystemTime) (seconds nanos : Int) : Prop where
  nonneg : 0 ≤ nanos
  lt : nanos < 1000000000
  sum : seconds * 1000000000 + nanos = t.toInt

/-- There is one timestamp of a time: the seconds are rounded down. -/
theorem exact_iff {t : SystemTime} {seconds nanos : Int} :
    Exact t seconds nanos ↔ seconds = t.toInt / 1000000000 ∧ nanos = t.toInt % 1000000000 := by
  constructor
  · rintro ⟨hnonneg, hlt, hsum⟩
    omega
  · rintro ⟨rfl, rfl⟩
    exact ⟨by omega, by omega, by omega⟩

/-- What every conversion of a time keeps. A delta is one for which the difference is in range. -/
structure TimestampsExact (t : SystemTime) : Prop where
  format : Exact t (protobufFormatTimestamp t).1.toInt64.toInt (protobufFormatTimestamp t).2.toNat
  toTimestamp : Exact t (toTimestamp t).seconds.toInt (toTimestamp t).nanos.toInt
  writeTimestamp : ∀ fieldNumber < 2 ^ 29, ∀ stream, ∃ payload timestamp,
    writeTimestamp fieldNumber t stream =
        put (some (Library.Field.mk fieldNumber (.lengthDelimited payload)).encode) stream ∧
      readMessage Timestamp.read .default payload = some timestamp ∧
      Exact t timestamp.seconds.toInt timestamp.nanos.toInt
  toSystemTimestamp : ∀ timestampDelta : Int64, -2 ^ 63 ≤ t.toInt - timestampDelta.toInt →
    t.toInt - timestampDelta.toInt < 2 ^ 63 →
    (toSteadyTimestamp timestampDelta t).toInt = t.toInt - timestampDelta.toInt ∧
      toSystemTimestamp timestampDelta (toSteadyTimestamp timestampDelta t) = t

/-! ### The division -/

theorem toInt_eq_toUInt64 (t : SystemTime) :
    t.toInt = if 0 ≤ t.toInt then (t.toUInt64.toNat : Int) else (t.toUInt64.toNat : Int) - 2 ^ 64 := by
  have hcond := BitVec.toInt_eq_toNat_cond t.toBitVec
  rw [Int64.toInt_toBitVec, Int64.toNat_toBitVec] at hcond
  have hlt := t.toUInt64.toNat_lt
  split at hcond <;> split <;> omega

/-- The seconds leave the sign of their field alone, -/
theorem toInt_seconds (t : SystemTime) :
    (protobufFormatTimestamp t).1.toInt64.toInt = (t.toUInt64.toNat : Int) / 1000000000 := by
  have hlt := t.toUInt64.toNat_lt
  have hseconds : (protobufFormatTimestamp t).1.toNat = t.toUInt64.toNat / 1000000000 := UInt64.toNat_div ..
  have hcond := BitVec.toInt_eq_toNat_of_lt (x := (protobufFormatTimestamp t).1.toBitVec)
    (show 2 * (protobufFormatTimestamp t).1.toNat < 2 ^ 64 by omega)
  refine hcond.trans ?_
  show ((protobufFormatTimestamp t).1.toNat : Int) = _
  omega

/-- and the fraction is one, before the epoch as after it. -/
theorem toNat_nanos (t : SystemTime) : (protobufFormatTimestamp t).2.toNat = t.toUInt64.toNat % 1000000000 := by
  have hnanos : (protobufFormatTimestamp t).2.toNat = (t.toUInt64 % 1000000000).toNat % 2 ^ 32 :=
    UInt64.toNat_toUInt32 _
  have hmod : (t.toUInt64 % 1000000000).toNat = t.toUInt64.toNat % 1000000000 := UInt64.toNat_mod ..
  omega

theorem toInt_nanos (t : SystemTime) : (toTimestamp t).nanos.toInt = (protobufFormatTimestamp t).2.toNat := by
  have hnanos := toNat_nanos t
  exact BitVec.toInt_eq_toNat_of_lt (x := (protobufFormatTimestamp t).2.toBitVec)
    (show 2 * (protobufFormatTimestamp t).2.toNat < 2 ^ 32 by omega)

/-- **The timestamp is exact from the epoch on**, and at no time before it. -/
theorem exact_protobufFormatTimestamp_iff (t : SystemTime) :
    Exact t (protobufFormatTimestamp t).1.toInt64.toInt (protobufFormatTimestamp t).2.toNat ↔ 0 ≤ t.toInt := by
  have hseconds := toInt_seconds t
  have hnanos := toNat_nanos t
  have hsigned := toInt_eq_toUInt64 t
  rw [exact_iff]
  split at hsigned
  case isTrue hepoch => exact iff_of_true (by omega) hepoch
  case isFalse hepoch => exact iff_of_false (by omega) hepoch

/-! ### Bytes -/

theorem length_systemTimeFields (t : SystemTime) : (encodeFields (systemTimeFields t)).length ≤ 40 := by
  have hseconds := Field.encode_varint_length_le 1 (protobufFormatTimestamp t).1.toNat
  have hnanos := Field.encode_varint_length_le 2 (protobufFormatTimestamp t).2.toNat
  rw [systemTimeFields, timestampFields, encodeFields_cons, encodeFields_singleton, List.length_append]
  exact Nat.add_le_add hseconds hnanos

/-- What is written is the message of the same time. -/
theorem writeTimestamp_eq {fieldNumber : Nat} (h : fieldNumber < 2 ^ 29) (t : SystemTime) (stream : CodedOutputStream) :
    ∃ payload, writeTimestamp fieldNumber t stream =
        put (some (Library.Field.mk fieldNumber (.lengthDelimited payload)).encode) stream ∧
      readMessage Timestamp.read .default payload = some (toTimestamp t) := by
  have hlength := length_systemTimeFields t
  have hencode : (Library.Field.mk fieldNumber (.lengthDelimited (encodeFields (systemTimeFields t)))).encode.length ≤
      10 + (10 + (encodeFields (systemTimeFields t)).length) := Field.encode_length_le _
  exact ⟨encodeFields (systemTimeFields t), Writes.eq_put (WritesField.writeTimestamp h t) (by omega) stream,
    read_systemTimeFields (by omega) _⟩

/-! ### The steady clock -/

theorem toInt_toSteadyTimestamp {timestampDelta : Int64} {t : SystemTime}
    (hle : -2 ^ 63 ≤ t.toInt - timestampDelta.toInt) (hlt : t.toInt - timestampDelta.toInt < 2 ^ 63) :
    (toSteadyTimestamp timestampDelta t).toInt = t.toInt - timestampDelta.toInt := by
  rw [toSteadyTimestamp, Int64.toInt_sub]
  exact Int.bmod_eq_of_le hle hlt

theorem toSystemTimestamp_toSteadyTimestamp (timestampDelta : Int64) (t : SystemTime) :
    toSystemTimestamp timestampDelta (toSteadyTimestamp timestampDelta t) = t := Int64.sub_add_cancel t timestampDelta

/-! ### Every conversion -/

theorem timestampsExact_iff (t : SystemTime) : TimestampsExact t ↔ 0 ≤ t.toInt := by
  refine ⟨fun h => (exact_protobufFormatTimestamp_iff t).mp h.format, fun hepoch => ?_⟩
  have hformat := (exact_protobufFormatTimestamp_iff t).mpr hepoch
  have hmessage : Exact t (toTimestamp t).seconds.toInt (toTimestamp t).nanos.toInt := by
    rw [toInt_nanos]
    exact hformat
  refine ⟨hformat, hmessage, fun fieldNumber h stream => ?_, fun timestampDelta hle hlt => ?_⟩
  · obtain ⟨payload, hwritten, hread⟩ := writeTimestamp_eq h t stream
    exact ⟨payload, _, hwritten, hread, hmessage⟩
  · exact ⟨toInt_toSteadyTimestamp hle hlt, toSystemTimestamp_toSteadyTimestamp timestampDelta t⟩

/-- One nanosecond before the epoch is a time in the year 2554. -/
theorem not_timestampsExact :
    protobufFormatTimestamp (-1) = (18446744073, 709551615) ∧ ¬ TimestampsExact (-1) := by
  refine ⟨by decide, fun h => ?_⟩
  have hsum := h.format.sum
  revert hsum
  decide

end Lightstep.Tracer

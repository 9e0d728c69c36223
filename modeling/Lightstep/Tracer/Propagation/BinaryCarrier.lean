import Lightstep.Library.Message
import Lightstep.Tracer.Propagation.RoundTrip

/-! The binary carrier in the wire format.

A codec of the kind that protobuf generates: it gives back every message that is
not longer than such a codec serializes. -/
namespace Lightstep.Tracer
open Common Library

namespace BasicTracerCarrier

def itemField (item : List UInt8 × List UInt8) : Field := ⟨4, .lengthDelimited (encodeFields (entryFields item.1 item.2))⟩

/-- A scalar of the default value is left out. -/
def fields (b : BasicTracerCarrier) : List Field :=
  (if b.traceId = 0 then [] else [⟨1, .fixed64 b.traceId.toNat⟩]) ++
    (if b.spanId = 0 then [] else [⟨2, .fixed64 b.spanId.toNat⟩]) ++
    (if b.sampled then [⟨3, .varint 1⟩] else []) ++ b.baggageItems.map itemField

def read (b : BasicTracerCarrier) : Field → Option BasicTracerCarrier
  | ⟨1, .fixed64 n⟩ => some {b with traceId := n.toUInt64}
  | ⟨2, .fixed64 n⟩ => some {b with spanId := n.toUInt64}
  | ⟨3, .varint n⟩ => some {b with sampled := n != 0}
  | ⟨4, .lengthDelimited bytes⟩ => (readMessage readEntry ([], []) bytes).map fun entry =>
      {b with baggageItems := setHeader (· == ·) entry.1 entry.2 b.baggageItems}
  | _ => some b

end BasicTracerCarrier

namespace BinaryCarrier

def fields (c : BinaryCarrier) : List Field :=
  match c.basicCtx with
  | none => []
  | some b => [⟨2, .lengthDelimited (encodeFields b.fields)⟩]

def read (c : BinaryCarrier) : Field → Option BinaryCarrier
  | ⟨2, .lengthDelimited bytes⟩ =>
    (readMessage BasicTracerCarrier.read (c.basicCtx.getD .default) bytes).map fun b => ⟨some b⟩
  | _ => some c

end BinaryCarrier

/-- Serializing fails from a size of `2 ^ 31` on. -/
def wireCodec : BinaryCodec where
  serialize c := if (encodeFields c.fields).length < 2 ^ 31 then some (encodeFields c.fields) else none
  parse := readMessage BinaryCarrier.read ⟨none⟩

namespace BasicTracerCarrier

theorem fields_fit {b : BasicTracerCarrier} (h : (encodeFields b.fields).length < 2 ^ 31) :
    ∀ f ∈ b.fields, f.Fits := by
  intro f hf
  have hlength := length_le_encodeFields hf
  simp only [fields, List.mem_append, List.mem_map] at hf
  rcases hf with ((hf | hf) | hf) | ⟨item, -, rfl⟩
  · split at hf
    · cases hf
    · rw [List.mem_singleton.mp hf]
      exact fits_mk (by decide) (by decide) (show b.traceId.toNat < 2 ^ 64 from b.traceId.toNat_lt)
  · split at hf
    · cases hf
    · rw [List.mem_singleton.mp hf]
      exact fits_mk (by decide) (by decide) (show b.spanId.toNat < 2 ^ 64 from b.spanId.toNat_lt)
  · split at hf
    · rw [List.mem_singleton.mp hf]
      exact fits_mk (by decide) (by decide) (show 1 < 2 ^ 64 by decide)
    · cases hf
  · have hbytes := length_le_encode 4 (encodeFields (entryFields item.1 item.2))
    exact fits_mk (by decide) (by decide) (Nat.lt_of_le_of_lt (Nat.le_trans hbytes hlength) h)

theorem read_itemField {b : BasicTracerCarrier} {item : List UInt8 × List UInt8}
    (h : (encodeFields (entryFields item.1 item.2)).length < 2 ^ 31) :
    b.read (itemField item) = some {b with baggageItems := setHeader (· == ·) item.1 item.2 b.baggageItems} := by
  have hkey : item.1.length < 2 ^ 31 := by
    refine Nat.lt_of_le_of_lt (Nat.le_trans (length_le_encode 1 item.1) (length_le_encodeFields ?_)) h
    exact List.mem_cons_self ..
  have hvalue : item.2.length < 2 ^ 31 := by
    refine Nat.lt_of_le_of_lt (Nat.le_trans (length_le_encode 2 item.2) (length_le_encodeFields ?_)) h
    exact List.mem_cons_of_mem _ (List.mem_cons_self ..)
  simp only [read, itemField, readEntry_entryFields hkey hvalue, Option.map_some]

theorem foldlM_itemField {items : List (List UInt8 × List UInt8)} {b : BasicTracerCarrier}
    (h : ∀ item ∈ items, (encodeFields (entryFields item.1 item.2)).length < 2 ^ 31) :
    (items.map itemField).foldlM read b = some {b with
      baggageItems := items.foldl (fun items item => setHeader (· == ·) item.1 item.2 items) b.baggageItems} := by
  induction items generalizing b with
  | nil => rfl
  | cons item rest ih =>
    rw [List.map_cons, List.foldlM_cons, read_itemField (h item (List.mem_cons_self ..))]
    exact ih fun x hx => h x (List.mem_cons_of_mem item hx)

/-- The fields of a message read back to it. -/
theorem foldlM_fields {b : BasicTracerCarrier} (h : (encodeFields b.fields).length < 2 ^ 31)
    (hnodup : (b.baggageItems.map Prod.fst).Nodup) : b.fields.foldlM read default = some b := by
  have hitems : ∀ item ∈ b.baggageItems, (encodeFields (entryFields item.1 item.2)).length < 2 ^ 31 := by
    intro item hitem
    have hmem : itemField item ∈ b.fields := List.mem_append_right _ (List.mem_map_of_mem hitem)
    exact Nat.lt_of_le_of_lt (Nat.le_trans (length_le_encode 4 _) (length_le_encodeFields hmem)) h
  have hscalars : ((if b.traceId = 0 then [] else [⟨1, .fixed64 b.traceId.toNat⟩]) ++
      (if b.spanId = 0 then [] else [⟨2, .fixed64 b.spanId.toNat⟩]) ++
      (if b.sampled then [⟨3, .varint 1⟩] else []) : List Field).foldlM read default =
        some ⟨b.traceId, b.spanId, b.sampled, []⟩ := by
    by_cases htrace : b.traceId = 0 <;> by_cases hspan : b.spanId = 0 <;> cases hsampled : b.sampled <;>
      simp [htrace, hspan, read, default, Nat.toUInt64]
  rw [fields, List.foldlM_append, hscalars]
  show (b.baggageItems.map itemField).foldlM read ⟨b.traceId, b.spanId, b.sampled, []⟩ = some b
  rw [foldlM_itemField hitems, foldl_setHeader (show (([] ++ b.baggageItems).map Prod.fst).Nodup from hnodup)]
  rfl

end BasicTracerCarrier

theorem serialize_wireCodec {c : BinaryCarrier} (h : (encodeFields c.fields).length < 2 ^ 31) :
    wireCodec.serialize c = some (encodeFields c.fields) := if_pos h

theorem parse_wireCodec {b : BasicTracerCarrier} (hnodup : (b.baggageItems.map Prod.fst).Nodup)
    (h : (encodeFields b.fields).length < 2 ^ 31) :
    wireCodec.parse (encodeFields (BinaryCarrier.fields ⟨some b⟩)) = some ⟨some b⟩ := by
  have hfit : ∀ f ∈ BinaryCarrier.fields ⟨some b⟩, f.Fits := fun f hf => by
    rw [List.mem_singleton.mp hf]
    exact fits_mk (by decide) (by decide) h
  refine (readMessage_encodeFields hfit BinaryCarrier.read ⟨none⟩).trans ?_
  simp only [BinaryCarrier.fields, List.foldlM_cons, List.foldlM_nil, BinaryCarrier.read, Option.getD_none,
    readMessage_encodeFields (BasicTracerCarrier.fields_fit h), BasicTracerCarrier.foldlM_fields h hnodup]
  rfl

/-- **A message that can be serialized is given back.** -/
theorem wireCodec_roundTrips {b : BasicTracerCarrier} (hnodup : (b.baggageItems.map Prod.fst).Nodup)
    (h : (encodeFields (BinaryCarrier.fields ⟨some b⟩)).length < 2 ^ 31) : wireCodec.RoundTrips b where
  parse_nil := rfl
  parse_serialize := by
    have hmessage : (encodeFields b.fields).length < 2 ^ 31 := by
      refine Nat.lt_of_le_of_lt (Nat.le_trans (length_le_encode 2 _) (length_le_encodeFields ?_)) h
      exact List.mem_cons_self ..
    exact ⟨_, b.baggageItems, serialize_wireCodec h, parse_wireCodec hnodup hmessage, List.Perm.refl _⟩

/-! ### A run -/

/-- Envoy first, then B3. -/
def envoyB3 : LightStepTracerOptions := ⟨[.envoy, .b3, .envoy], false⟩

def someContext : TraceContext := ⟨1, 0xabcdef, 456, 1, 0⟩

def someItems : List (List UInt8 × List UInt8) := [(ascii "abc", ascii "123")]

theorem someItems_propagatable : Propagatable someItems := ⟨by decide +kernel, by decide +kernel, by decide +kernel⟩

theorem someItems_restored :
    ∃ contents, injectSpanContext wireCodec (makePropagationOptions envoyB3) (mapWriter (keyCompare true))
        someContext [] someItems [] = .ok contents ∧
      ∀ carrier, Presents carrier false contents →
        ∃ out, extractSpanContext wireCodec (makePropagationOptions envoyB3) carrier false .new = .ok (true, out) ∧
          Restored .envoy someContext [] someItems out :=
  extract_inject someItems_propagatable
    (fun _ => wireCodec_roundTrips someItems_propagatable.nodup (by decide +kernel)) [] true false

end Lightstep.Tracer

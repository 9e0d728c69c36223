import Lightstep.Tracer.SpanFaithful

/-! The baggage of a span as a map.

Whatever is assigned and in whatever order, a key has one entry, the last that was
assigned to it, and so it is serialized. -/
namespace Lightstep.Tracer
open Common Library

/-! ### The entries of a span context -/

def readBaggageEntry (f : Library.Field) : Option (List UInt8 × List UInt8) :=
  match f.value with
  | .lengthDelimited entry => readMessage readEntry ([], []) entry
  | _ => none

/-- The entries of a serialized span context, in order, where a map would keep the last of each key. -/
def readBaggageEntries (payload : List UInt8) : Option (List (List UInt8 × List UInt8)) :=
  (parseMessage payload).bind fun fields =>
    (fields.filter (·.number == spanContextBaggageField)).mapM readBaggageEntry

theorem readBaggageEntry_baggageField {item : List UInt8 × List UInt8}
    (h : (baggageField item).encode.length < 2 ^ 31) : readBaggageEntry (baggageField item) = some item :=
  read_entryFields h

theorem mapM_baggageField {baggage : List (List UInt8 × List UInt8)}
    (h : ∀ item ∈ baggage, (baggageField item).encode.length < 2 ^ 31) :
    (baggage.map baggageField).mapM readBaggageEntry = some baggage := by
  induction baggage with
  | nil => rfl
  | cons item rest ih =>
    rw [List.map_cons, List.mapM_cons, readBaggageEntry_baggageField (h item (List.mem_cons_self ..)),
      ih fun x hx => h x (List.mem_cons_of_mem item hx)]
    rfl

theorem filter_spanContextFields (traceId spanId : UInt64) (baggage : List (List UInt8 × List UInt8)) :
    (spanContextFields traceId spanId baggage).filter (·.number == spanContextBaggageField) =
      baggage.map baggageField := by
  have hbaggage : ∀ f ∈ baggage.map baggageField, (f.number == spanContextBaggageField) = true := by
    intro f hf
    obtain ⟨item, -, rfl⟩ := List.mem_map.mp hf
    rfl
  exact List.filter_eq_self.mpr hbaggage

theorem readBaggageEntries_spanContextFields {traceId spanId : UInt64} {baggage : List (List UInt8 × List UInt8)}
    (h : (encodeFields (spanContextFields traceId spanId baggage)).length < 2 ^ 31) :
    readBaggageEntries (encodeFields (spanContextFields traceId spanId baggage)) = some baggage := by
  have hfits : ∀ f ∈ spanContextFields traceId spanId baggage, f.encode.length < 2 ^ 31 := fun f hf =>
    Nat.lt_of_le_of_lt (length_le_encodeFields hf) h
  have hparse := parseMessage_encode fun f hf =>
    (regular_spanContextFields traceId spanId baggage f hf).fits (hfits f hf)
  rw [readBaggageEntries, hparse, Option.bind_some, filter_spanContextFields]
  exact mapM_baggageField (length_baggageField_lt h)

/-! ### The map -/

/-- The calls leave a map, and it is serialized as one. -/
structure MapOf (calls : List (List UInt8 × List UInt8)) (m : BaggageFlatMap) : Prop where
  sorted : m.data.Pairwise fun x y => stringViewComparison x.1 y.1
  distinct : (m.data.map Prod.fst).Nodup
  last : ∀ before key value after, calls = before ++ (key, value) :: after → (∀ call ∈ after, call.1 ≠ key) →
    m.find key = some (key, value)
  absent : ∀ key, (∀ call ∈ calls, call.1 ≠ key) → m.find key = none
  others : ∀ key value other, other ≠ key → (m.insertOrAssign key value).1.find other = m.find other
  place : ∀ key value, (m.insertOrAssign key value).1.data[(m.insertOrAssign key value).2]? = some (key, value)
  entries : ∀ key, (m.data.map Prod.fst).count key = if ∃ call ∈ calls, call.1 = key then 1 else 0
  values : ∀ item ∈ m.data, m.find item.1 = some item
  /-- As long as its size is an `int`, and its length one that a parser takes. -/
  serialized : ∀ traceId spanId, ∃ payload, payload.length = computeSpanContextSerializationSize traceId spanId m.data ∧
    ((Library.Field.mk spanContextField (.lengthDelimited payload)).encode.length < 2 ^ 31 → ∀ stream,
      writeSpanContext traceId spanId m.data stream =
        put (some (Library.Field.mk spanContextField (.lengthDelimited payload)).encode) stream) ∧
    (payload.length < 2 ^ 31 → readBaggageEntries payload = some m.data)

theorem mapOf_insertOrAssignAll (calls : List (List UInt8 × List UInt8)) :
    MapOf calls ((FlatMap.empty : BaggageFlatMap).insertOrAssignAll calls) where
  sorted := FlatMap.sorted _
  distinct := FlatMap.nodup_keys _
  last before key value after hcalls hafter := by
    rw [hcalls]
    exact FlatMap.find_of_last before after value hafter _
  absent key hcalls := FlatMap.find_of_not_assigned hcalls _
  others key value other hne := FlatMap.find_insertOrAssign_of_ne hne value _
  place key value := FlatMap.getElem?_insertOrAssign key value _
  entries key := by
    have hkeys : key ∈ ((FlatMap.empty : BaggageFlatMap).insertOrAssignAll calls).data.map Prod.fst ↔
        ∃ call ∈ calls, call.1 = key := FlatMap.mem_keys_insertOrAssignAll calls key
    split
    case isTrue hcall => exact List.count_eq_one_of_mem (FlatMap.nodup_keys _) (hkeys.mpr hcall)
    case isFalse hcall => exact List.count_eq_zero.mpr fun hmem => hcall (hkeys.mp hmem)
  values item hitem := (FlatMap.mem_data_iff item _).mp hitem
  serialized traceId spanId := by
    refine ⟨_, length_spanContextFields traceId spanId _, fun hshort stream => ?_, readBaggageEntries_spanContextFields⟩
    exact Writes.eq_put (writeSpanContext_writes traceId spanId _) hshort stream

/-! ### Spans -/

/-- A map in which all that was assigned is found can only be the one that the assignments make. -/
theorem mapOf_of_toFinmap {calls : List (List UInt8 × List UInt8)} {m : BaggageFlatMap}
    (h : m.toFinmap = FlatMap.insertAll calls ∅) : MapOf calls m := by
  have hm : m = (FlatMap.empty : BaggageFlatMap).insertOrAssignAll calls :=
    FlatMap.eq_of_toFinmap (h.trans (FlatMap.toFinmap_insertOrAssignAll calls FlatMap.empty).symm)
  rw [hm]
  exact mapOf_insertOrAssignAll calls

namespace Span
variable [DoubleFormat]

theorem baggage_finishImpl (recorder : SpanRecorder) (steadyNow : SteadyTime) (options : FinishSpanOptions)
    (span : Span) : (span.finishImpl recorder steadyNow options).baggage = span.baggage := by
  by_cases hfinished : span.isFinished = true
  · rw [finishImpl, if_pos hfinished]
  · rw [finishImpl, if_neg hfinished]
    dsimp only
    split <;> rfl

/-- Nothing is assigned to the baggage of a span that is finished. -/
theorem baggage_run (start : SpanStart) (directBuffer : List UInt8 → (n : Nat) → Option (Vector UInt8 n))
    (calls : List SpanCall) :
    ((start.span directBuffer).run start.recorder calls).baggage = (atFinish start directBuffer calls).baggage := by
  cases hfinish : firstFinish calls with
  | none => rw [atFinish, beforeFinish_of_none hfinish]
  | some finish => rw [run_eq_finishImpl hfinish, baggage_finishImpl]

/-- **Any assignments to an empty map leave a finite map**, of each key the value assigned last, and the baggage of
a span is at any time the map of what it inherited and of the items set before it was finished. -/
theorem baggage_mapOf :
    (∀ calls, MapOf calls ((FlatMap.empty : BaggageFlatMap).insertOrAssignAll calls)) ∧
    ∀ (start : SpanStart) directBuffer calls,
      MapOf (start.baggage ++ (beforeFinish calls).filterMap SpanCall.baggageItem?)
        ((start.span directBuffer).run start.recorder calls).baggage := by
  refine ⟨mapOf_insertOrAssignAll, fun start directBuffer calls => ?_⟩
  obtain ⟨htold, -⟩ := told_atFinish start directBuffer calls
  rw [baggage_run]
  exact mapOf_of_toFinmap htold.baggage

end Span
end Lightstep.Tracer

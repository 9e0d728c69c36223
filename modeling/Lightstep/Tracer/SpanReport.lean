import Lightstep.Tracer.SpanParts

/-! What a span reports.

The report is read off what the span was started with, the calls before it was
first finished, and the options of that call. The stream that is recorded parses
to it. -/
namespace Lightstep.Tracer
open Common Library TraceContext

/-! ### What a span is given -/

/-- What a span is started with. -/
structure SpanStart where
  recorder : SpanRecorder
  steadyNow : SteadyTime
  generated : Nat → UInt64
  operationName : List UInt8
  options : StartSpanOptions

def validReference (reference : SpanReference) : Option ValidReference :=
  match reference.2 with
  | .null => none
  | .foreign => none
  | .lightStep context => some (reference.1, context)

/-- A loop that passes over the references of no context of this library. -/
theorem foldl_validReference {σ : Type} {f : σ → SpanReference → σ}
    (h : ∀ s reference, validReference reference = none → f s reference = s) (references : List SpanReference) (s : σ) :
    references.foldl f s =
      (references.filterMap validReference).foldl (fun s valid => f s (valid.1, .lightStep valid.2)) s := by
  induction references generalizing s with
  | nil => rfl
  | cons reference rest ih =>
    obtain ⟨referenceType, context⟩ := reference
    cases context with
    | lightStep context => exact ih _
    | null =>
      rw [List.foldl_cons, h s _ rfl]
      exact ih s
    | foreign =>
      rw [List.foldl_cons, h s _ rfl]
      exact ih s

namespace SpanStart

def references (start : SpanStart) : List ValidReference := start.options.references.filterMap validReference

def traceId (start : SpanStart) : UInt64 :=
  match start.references with
  | [] => start.generated 0
  | reference :: _ => reference.2.traceIdLow

def spanId (start : SpanStart) : UInt64 :=
  match start.references with
  | [] => start.generated 1
  | _ :: _ => start.generated 0

/-- The items of the contexts that are referenced, in order. -/
def baggage (start : SpanStart) : List (List UInt8 × List UInt8) :=
  start.references.flatMap fun reference => reference.2.baggage

def timestamps (start : SpanStart) : SystemTime × SteadyTime :=
  computeStartTimestamps start.recorder start.steadyNow start.options.startSystemTimestamp
    start.options.startSteadyTimestamp

def span [DoubleFormat] (start : SpanStart) (directBuffer : List UInt8 → (n : Nat) → Option (Vector UInt8 n)) : Span :=
  .new start.recorder start.steadyNow start.generated directBuffer start.operationName start.options

end SpanStart

def beforeFinish (calls : List SpanCall) : List SpanCall := calls.takeWhile fun call => !call.isFinish

def SpanCall.finish? : SpanCall → Option (SteadyTime × FinishSpanOptions)
  | finishWithOptions steadyNow options => some (steadyNow, options)
  | _ => none

def firstFinish (calls : List SpanCall) : Option (SteadyTime × FinishSpanOptions) := calls.findSome? SpanCall.finish?

namespace SpanCall

def operationName? : SpanCall → Option (List UInt8)
  | setOperationName name => some name
  | _ => none

def tag? : SpanCall → Option (List UInt8 × Value)
  | setTag key value => some (key, value)
  | _ => none

def log? : SpanCall → Option LogRecord
  | log timestamp fields => some ⟨timestamp, fields⟩
  | _ => none

def baggageItem? : SpanCall → Option (List UInt8 × List UInt8)
  | setBaggageItem restrictedKey value => some (toLower restrictedKey, value)
  | _ => none

end SpanCall

/-! ### The report -/

def finishSteady (steadyNow : SteadyTime) (options : FinishSpanOptions) : SteadyTime :=
  if options.finishSteadyTimestamp = 0 then steadyNow else options.finishSteadyTimestamp

/-- The report of a span that was told `calls` before it was finished. -/
def report [DoubleFormat] (start : SpanStart) (calls : List SpanCall) (steadyNow : SteadyTime)
    (options : FinishSpanOptions) : Collector.Span where
  spanContext := some ⟨start.traceId, start.spanId,
    FlatMap.insertAll (start.baggage ++ calls.filterMap SpanCall.baggageItem?) ∅⟩
  operationName := (calls.filterMap SpanCall.operationName?).getLastD start.operationName
  references := start.references.map toReference
  startTimestamp := some (toTimestamp start.timestamps.1)
  durationMicros := elapse (finishSteady steadyNow options - start.timestamps.2)
  tags := (start.options.tags ++ calls.filterMap SpanCall.tag?).map fun tag => toKeyValue tag.1 tag.2
  logs := (calls.filterMap SpanCall.log? ++ options.logRecords).map fun record => toLog record.timestamp record.fields

/-! ### The parts of a report -/

namespace SpanStart

def parts (start : SpanStart) : List SpanPart :=
  [.operationName start.operationName, .startTimestamp start.timestamps.1] ++ start.references.map .reference ++
    start.options.tags.map .tag

end SpanStart

/-- The parts that the first `FinishWithOptions` adds. -/
def finishParts (startSteady : SteadyTime) (traceId spanId : UInt64) (baggage : List (List UInt8 × List UInt8))
    (steadyNow : SteadyTime) (options : FinishSpanOptions) : List SpanPart :=
  [.duration (finishSteady steadyNow options - startSteady)] ++ options.logRecords.map .log ++
    [.spanContext traceId spanId baggage]

def SpanCall.part? : SpanCall → Option SpanPart
  | setOperationName name => some (.operationName name)
  | setTag key value => some (.tag (key, value))
  | log timestamp fields => some (.log ⟨timestamp, fields⟩)
  | setBaggageItem _ _ => none
  | finishWithOptions _ _ => none

section
variable [DoubleFormat]

/-- The message of the span as it is finished. -/
def finishedParts (start : SpanStart) (directBuffer : List UInt8 → (n : Nat) → Option (Vector UInt8 n))
    (calls : List SpanCall) (steadyNow : SteadyTime) (options : FinishSpanOptions) : List SpanPart :=
  start.parts ++ calls.filterMap SpanCall.part? ++ finishParts start.timestamps.2 start.traceId start.spanId
    ((start.span directBuffer).run start.recorder calls).baggage.data steadyNow options

theorem apply_references (references : List ValidReference) (span : Collector.Span) :
    (references.map SpanPart.reference).foldl SpanPart.apply span =
      {span with references := span.references ++ references.map toReference} := by
  refine foldl_gather (fun (span : Collector.Span) added => {span with references := span.references ++ added})
    ?_ ?_ references span
  · intro span
    rw [List.append_nil]
  · intro span reference added
    rw [List.append_cons]
    rfl

theorem apply_tags (tags : List (List UInt8 × Value)) (span : Collector.Span) :
    (tags.map SpanPart.tag).foldl SpanPart.apply span =
      {span with tags := span.tags ++ tags.map fun tag => toKeyValue tag.1 tag.2} := by
  refine foldl_gather (fun (span : Collector.Span) added => {span with tags := span.tags ++ added}) ?_ ?_ tags span
  · intro span
    rw [List.append_nil]
  · intro span tag added
    rw [List.append_cons]
    rfl

theorem apply_logs (records : List LogRecord) (span : Collector.Span) :
    (records.map SpanPart.log).foldl SpanPart.apply span =
      {span with logs := span.logs ++ records.map fun record => toLog record.timestamp record.fields} := by
  refine foldl_gather (fun (span : Collector.Span) added => {span with logs := span.logs ++ added}) ?_ ?_ records span
  · intro span
    rw [List.append_nil]
  · intro span record added
    rw [List.append_cons]
    rfl

/-- The last name counts, tags and logs come after those there are. -/
theorem apply_calls (calls : List SpanCall) (span : Collector.Span) :
    (calls.filterMap SpanCall.part?).foldl SpanPart.apply span =
      {span with
        operationName := (calls.filterMap SpanCall.operationName?).getLastD span.operationName
        tags := span.tags ++ (calls.filterMap SpanCall.tag?).map fun tag => toKeyValue tag.1 tag.2
        logs := span.logs ++ (calls.filterMap SpanCall.log?).map fun record => toLog record.timestamp record.fields} := by
  induction calls generalizing span with
  | nil => simp
  | cons call rest ih =>
    cases call with
    | setOperationName name =>
      have hlast : ((SpanCall.setOperationName name :: rest).filterMap SpanCall.operationName?).getLastD
          span.operationName = (rest.filterMap SpanCall.operationName?).getLastD name := List.getLastD_cons ..
      rw [hlast]
      exact ih (SpanPart.apply span (.operationName name))
    | setTag key value =>
      have htags : (SpanCall.setTag key value :: rest).filterMap SpanCall.tag? =
        (key, value) :: rest.filterMap SpanCall.tag? := rfl
      rw [htags, List.map_cons, List.append_cons]
      exact ih (SpanPart.apply span (.tag (key, value)))
    | log timestamp fields =>
      have hlogs : (SpanCall.log timestamp fields :: rest).filterMap SpanCall.log? =
        ⟨timestamp, fields⟩ :: rest.filterMap SpanCall.log? := rfl
      rw [hlogs, List.map_cons, List.append_cons]
      exact ih (SpanPart.apply span (.log ⟨timestamp, fields⟩))
    | setBaggageItem restrictedKey value => exact ih span
    | finishWithOptions steadyNow options => exact ih span

/-- **The parts of a span make its report.** -/
theorem apply_parts (start : SpanStart) (calls : List SpanCall) {baggage : List (List UInt8 × List UInt8)}
    (h : FlatMap.insertAll baggage ∅ =
      FlatMap.insertAll (start.baggage ++ calls.filterMap SpanCall.baggageItem?) (∅ : Finmap fun _ => List UInt8))
    (steadyNow : SteadyTime) (options : FinishSpanOptions) :
    (start.parts ++ calls.filterMap SpanCall.part? ++
        finishParts start.timestamps.2 start.traceId start.spanId baggage steadyNow options).foldl
      SpanPart.apply .default = report start calls steadyNow options := by
  rw [List.foldl_append, List.foldl_append, SpanStart.parts, List.foldl_append, List.foldl_append, apply_references,
    apply_tags, apply_calls, finishParts, List.foldl_append, List.foldl_append, apply_logs, report, ← h, List.map_append,
    List.map_append]
  rfl

end
end Lightstep.Tracer

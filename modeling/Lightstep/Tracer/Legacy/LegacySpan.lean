import Lightstep.Tracer.SpanReport

/-! A span that is a message.

The setters change a message of the collector's type, and finishing hands the
message over. -/
namespace Lightstep.Tracer
open Common TraceContext

structure LegacySpan where
  span : Collector.Span
  traceIdHigh : UInt64
  traceFlags : UInt8
  traceState : List UInt8
  startSteady : SteadyTime
  isFinished : Bool
  recorded : List Collector.Span

namespace LegacySpan

def spanContext (span : LegacySpan) : Collector.SpanContext := span.span.spanContext.getD .default

def setSpanContext (context : Collector.SpanContext) (span : LegacySpan) : LegacySpan :=
  {span with span := {span.span with spanContext := some context}}

def setTraceId (traceId : UInt64) (span : LegacySpan) : LegacySpan :=
  span.setSpanContext {span.spanContext with traceId := traceId}

def setSpanId (spanId : UInt64) (span : LegacySpan) : LegacySpan :=
  span.setSpanContext {span.spanContext with spanId := spanId}

/-- The ids of the reference, the reference of the message and the span, or nothing where there is no
context of this library. -/
def setSpanReference (reference : SpanReference) (span : LegacySpan) :
    Option ((UInt64 × UInt64) × Collector.Reference × LegacySpan) :=
  let collectorReference : Collector.Reference := ⟨(toRelationship reference.1).toInt32, none⟩
  match reference.2 with
  | .null => none
  | .foreign => none
  | .lightStep referencedContext =>
    let span := {span with
      traceFlags := span.traceFlags ||| referencedContext.traceFlags
      traceState := appendTraceState span.traceState referencedContext.traceState}
    some ((referencedContext.traceIdHigh, referencedContext.traceIdLow),
      {collectorReference with
        spanContext := some ⟨referencedContext.traceIdLow, referencedContext.spanId, ∅⟩},
      span.setSpanContext {span.spanContext with
        baggage := referencedContext.baggage.foldl (fun baggage item => baggage.insert item.1 item.2)
          span.spanContext.baggage})

/-- One pass of the loop over the references. -/
def addReference (span : LegacySpan) (reference : SpanReference) : LegacySpan :=
  match setSpanReference reference span with
  | none => span
  | some ((traceIdHigh, traceId), collectorReference, span) =>
    let span := {span with span := {span.span with references := span.span.references ++ [collectorReference]}}
    if span.span.references.length = 1 then {span with traceIdHigh := traceIdHigh}.setTraceId traceId else span

/-- The ids are those that the generator gives next, in this order. -/
def generateIds (generated : Nat → UInt64) (span : LegacySpan) : LegacySpan :=
  if span.span.references = [] then
    ({span with traceIdHigh := 0}.setTraceId (generated 0)).setSpanId (generated 1)
  else span.setSpanId (generated 0)

variable [DoubleFormat]

def addTag (span : LegacySpan) (tag : List UInt8 × Value) : LegacySpan :=
  {span with
    span := {span.span with tags := span.span.tags ++ [toKeyValue tag.1 tag.2]}
    traceFlags := sampleTag tag.1 tag.2 span.traceFlags}

def new (recorder : SpanRecorder) (steadyNow : SteadyTime) (generated : Nat → UInt64) (operationName : List UInt8)
    (options : StartSpanOptions) : LegacySpan :=
  let (startTimestamp, startSteady) := computeStartTimestamps recorder steadyNow options.startSystemTimestamp
    options.startSteadyTimestamp
  let span : LegacySpan :=
    { span := {Collector.Span.default with
        operationName := operationName
        spanContext := some .default
        startTimestamp := some (toTimestamp startTimestamp)}
      traceIdHigh := 0, traceFlags := 0, traceState := [], startSteady, isFinished := false, recorded := [] }
  let span := options.references.foldl addReference span
  let span := if span.span.references = [] then
      {span with traceFlags := setTraceFlag sampledFlagMask span.traceFlags true}
    else span
  let span := options.tags.foldl addTag span
  generateIds generated span

def setOperationName (name : List UInt8) (span : LegacySpan) : LegacySpan :=
  {span with span := {span.span with operationName := name}}

def setTag (key : List UInt8) (value : Value) (span : LegacySpan) : LegacySpan := addTag span (key, value)

/-- `insert` of a map of protocol buffers keeps the value of a key that is there. -/
def insertNew (baggage : Finmap fun _ : List UInt8 => List UInt8) (item : List UInt8 × List UInt8) :
    Finmap fun _ : List UInt8 => List UInt8 :=
  if item.1 ∈ baggage then baggage else baggage.insert item.1 item.2

def setBaggageItem (restrictedKey value : List UInt8) (span : LegacySpan) : LegacySpan :=
  span.setSpanContext {span.spanContext with
    baggage := insertNew span.spanContext.baggage (toLower restrictedKey, value)}

def baggageItem (restrictedKey : List UInt8) (span : LegacySpan) : List UInt8 :=
  match span.spanContext.baggage.lookup (toLower restrictedKey) with
  | some value => value
  | none => []

/-- The timestamp is the time of the call. -/
def log (timestamp : SystemTime) (fields : List (List UInt8 × Value)) (span : LegacySpan) : LegacySpan :=
  {span with span := {span.span with logs := span.span.logs ++ [toLog timestamp fields]}}

def finishWithOptions (steadyNow : SteadyTime) (options : FinishSpanOptions) (span : LegacySpan) : LegacySpan :=
  if span.isFinished then span
  else
    let span := {span with isFinished := true}
    if isTraceFlagSet sampledFlagMask span.traceFlags = false then span
    else
      let finishTimestamp := if options.finishSteadyTimestamp = 0 then steadyNow else options.finishSteadyTimestamp
      let span := {span with span := {span.span with
        durationMicros := elapse (finishTimestamp - span.startSteady)
        logs := options.logRecords.foldl
          (fun logs (logRecord : LogRecord) => logs ++ [toLog logRecord.timestamp logRecord.fields]) span.span.logs}}
      {span with recorded := span.recorded ++ [span.span]}

/-- Only `FinishWithOptions` looks at whether the span is finished. -/
def call (span : LegacySpan) : SpanCall → LegacySpan
  | .setOperationName name => span.setOperationName name
  | .setTag key value => span.setTag key value
  | .setBaggageItem restrictedKey value => span.setBaggageItem restrictedKey value
  | .log timestamp fields => span.log timestamp fields
  | .finishWithOptions steadyNow options => span.finishWithOptions steadyNow options

def run (span : LegacySpan) (calls : List SpanCall) : LegacySpan := calls.foldl call span

end LegacySpan

def SpanStart.legacySpan [DoubleFormat] (start : SpanStart) : LegacySpan :=
  .new start.recorder start.steadyNow start.generated start.operationName start.options

end Lightstep.Tracer

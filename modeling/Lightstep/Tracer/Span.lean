import Lightstep.Common.FlatMap
import Lightstep.Common.Utility
import Lightstep.Tracer.Propagation.TraceContext
import Lightstep.Tracer.Serialization

/-! A span that is serialized while it is filled.

Its stream begins with the space that the recorder reserves for a header. A call
appends the field it sets; finishing appends the rest and hands the stream over. -/
namespace Lightstep.Tracer
open Common TraceContext

/-! ### Baggage -/

/-- Characters are signed. -/
abbrev charLess : UInt8 → UInt8 → Prop := Order.Preimage (fun c : UInt8 => c.toInt8.toInt) (· < ·)

/-- `std::lexicographical_compare`. -/
abbrev stringViewComparison : List UInt8 → List UInt8 → Prop := List.Lex charLess

instance : IsStrictTotalOrder UInt8 charLess where
  trichotomous a b hab hba := by
    have heq : a.toInt8.toInt = b.toInt8.toInt := le_antisymm (not_lt.mp hba) (not_lt.mp hab)
    have hbits : a.toInt8.toUInt8 = b.toInt8.toUInt8 := congrArg Int8.toUInt8 (Int8.toInt_inj.mp heq)
    exact hbits

instance : IsStrictTotalOrder (List UInt8) stringViewComparison :=
  { isStrictWeakOrder_of_isOrderConnected with }

abbrev BaggageFlatMap := FlatMap (List UInt8) (List UInt8) stringViewComparison

/-! ### What a span is given -/

/-- What a span uses of its recorder: the memory reserved for a header, the footer and the clocks. -/
structure SpanRecorder where
  headerSpace : List UInt8
  footer : List UInt8
  computeSystemSteadyTimestampDelta : Int64
  computeCurrentSystemTimestamp : SteadyTime → SystemTime

/-- What a span sees of a context that is referenced; the baggage is in the order in which it is visited. -/
structure LightStepSpanContext where
  traceIdHigh : UInt64
  traceIdLow : UInt64
  spanId : UInt64
  traceFlags : UInt8
  traceState : List UInt8
  baggage : List (List UInt8 × List UInt8)

inductive SpanContextPointer where
  | null
  /-- A context of another library. -/
  | foreign
  | lightStep (context : LightStepSpanContext)

abbrev SpanReference := SpanReferenceType × SpanContextPointer

/-- A timestamp of 0 is not set. -/
structure StartSpanOptions where
  startSystemTimestamp : SystemTime
  startSteadyTimestamp : SteadyTime
  references : List SpanReference
  tags : List (List UInt8 × Value)

structure LogRecord where
  timestamp : SystemTime
  fields : List (List UInt8 × Value)

structure FinishSpanOptions where
  finishSteadyTimestamp : SteadyTime
  logRecords : List LogRecord

/-- A call of `RecordSpan`: the size of the header space and the contents of the stream, if they are known. -/
structure RecordedSpan where
  headerSize : Nat
  span : Option (List UInt8)

/-! ### Helpers -/

def samplingPriorityKey : List UInt8 := ascii "sampling.priority"

def isSampled (value : Value) : Bool :=
  match value with
  | .int64 value => value != 0
  | .uint64 value => value != 0
  | _ => true

def computeStartTimestamps (recorder : SpanRecorder) (steadyNow : SteadyTime) (startSystemTimestamp : SystemTime)
    (startSteadyTimestamp : SteadyTime) : SystemTime × SteadyTime :=
  if startSystemTimestamp = 0 ∧ startSteadyTimestamp = 0 then
    (recorder.computeCurrentSystemTimestamp steadyNow, steadyNow)
  else if startSystemTimestamp = 0 then
    (toSystemTimestamp recorder.computeSystemSteadyTimestampDelta startSteadyTimestamp, startSteadyTimestamp)
  else if startSteadyTimestamp = 0 then
    (startSystemTimestamp, toSteadyTimestamp recorder.computeSystemSteadyTimestampDelta startSystemTimestamp)
  else (startSystemTimestamp, startSteadyTimestamp)

def appendTraceState (traceState keyValues : List UInt8) : List UInt8 :=
  if traceState = [] then keyValues else traceState ++ ascii "," ++ keyValues

/-- The flags after a tag: a sampling priority overrides the decision. -/
def sampleTag (key : List UInt8) (value : Value) (traceFlags : UInt8) : UInt8 :=
  if key = samplingPriorityKey then setTraceFlag sampledFlagMask traceFlags (isSampled value) else traceFlags

/-! ### The span -/

structure Span where
  codedStream : CodedOutputStream
  startSteady : SteadyTime
  isFinished : Bool
  traceIdHigh : UInt64
  traceId : UInt64
  spanId : UInt64
  traceFlags : UInt8
  baggage : BaggageFlatMap
  traceState : List UInt8
  recorded : List RecordedSpan

namespace Span

/-- The ids of the reference and the span, or nothing where there is no context of this library. -/
def setSpanReference (reference : SpanReference) (span : Span) : Option ((UInt64 × UInt64) × Span) :=
  match reference.2 with
  | .null => none
  | .foreign => none
  | .lightStep referencedContext =>
    some ((referencedContext.traceIdHigh, referencedContext.traceIdLow),
      { span with
        codedStream := writeSpanReference reference.1 referencedContext.traceIdLow referencedContext.spanId
          span.codedStream
        traceFlags := span.traceFlags ||| referencedContext.traceFlags
        traceState := appendTraceState span.traceState referencedContext.traceState
        baggage := referencedContext.baggage.foldl (fun baggage item => (baggage.insertOrAssign item.1 item.2).1)
          span.baggage })

/-- The loop over the references: the span, and how many were valid. -/
def addReference (st : Span × Nat) (reference : SpanReference) : Span × Nat :=
  match setSpanReference reference st.1 with
  | none => st
  | some ((traceIdHigh, traceId), span) =>
    if st.2 + 1 = 1 then ({span with traceIdHigh := traceIdHigh, traceId := traceId}, st.2 + 1)
    else (span, st.2 + 1)

/-- The ids are those that the generator gives next, in this order. -/
def generateIds (generated : Nat → UInt64) (st : Span × Nat) : Span :=
  if st.2 = 0 then
    {st.1 with
      traceFlags := setTraceFlag sampledFlagMask st.1.traceFlags true
      traceIdHigh := 0
      traceId := generated 0
      spanId := generated 1}
  else {st.1 with spanId := generated 0}

variable [DoubleFormat]

def addTag (span : Span) (tag : List UInt8 × Value) : Span :=
  {span with
    codedStream := writeTag tag.1 tag.2 span.codedStream
    traceFlags := sampleTag tag.1 tag.2 span.traceFlags}

/-- The memory that the stream hands out is `directBuffer`'s. -/
def new (recorder : SpanRecorder) (steadyNow : SteadyTime) (generated : Nat → UInt64)
    (directBuffer : List UInt8 → (n : Nat) → Option (Vector UInt8 n)) (operationName : List UInt8)
    (options : StartSpanOptions) : Span :=
  let codedStream := writeOperationName operationName ⟨some recorder.headerSpace, directBuffer⟩
  let (startTimestamp, startSteady) := computeStartTimestamps recorder steadyNow options.startSystemTimestamp
    options.startSteadyTimestamp
  let codedStream := writeStartTimestamp startTimestamp codedStream
  let span : Span :=
    { codedStream, startSteady, isFinished := false, traceIdHigh := 0, traceId := 0, spanId := 0, traceFlags := 0
      baggage := .empty, traceState := [], recorded := [] }
  let span := generateIds generated (options.references.foldl addReference (span, 0))
  options.tags.foldl addTag span

def setOperationName (name : List UInt8) (span : Span) : Span :=
  if span.isFinished then span else {span with codedStream := writeOperationName name span.codedStream}

def setTag (key : List UInt8) (value : Value) (span : Span) : Span :=
  if span.isFinished then span else addTag span (key, value)

def setBaggageItem (restrictedKey value : List UInt8) (span : Span) : Span :=
  if span.isFinished then span
  else {span with baggage := (span.baggage.insertOrAssign (toLower restrictedKey) value).1}

def baggageItem (restrictedKey : List UInt8) (span : Span) : List UInt8 :=
  match span.baggage.find (toLower restrictedKey) with
  | some item => item.2
  | none => []

/-- The timestamp is the time of the call. -/
def log (timestamp : SystemTime) (fields : List (List UInt8 × Value)) (span : Span) : Span :=
  if span.isFinished then span else {span with codedStream := writeLog timestamp fields span.codedStream}

def finishImpl (recorder : SpanRecorder) (steadyNow : SteadyTime) (options : FinishSpanOptions) (span : Span) : Span :=
  if span.isFinished then span
  else
    let span := {span with isFinished := true}
    if isTraceFlagSet sampledFlagMask span.traceFlags = false then span
    else
      let finishTimestamp := if options.finishSteadyTimestamp = 0 then steadyNow else options.finishSteadyTimestamp
      let codedStream := writeDuration (finishTimestamp - span.startSteady) span.codedStream
      let codedStream := options.logRecords.foldl
        (fun codedStream logRecord => writeLog logRecord.timestamp logRecord.fields codedStream) codedStream
      let codedStream := writeSpanContext span.traceId span.spanId span.baggage.data codedStream
      let codedStream := put (some recorder.footer) codedStream
      {span with
        codedStream := codedStream
        recorded := span.recorded ++ [⟨recorder.headerSpace.length, codedStream.bytes⟩]}

end Span

/-! ### Calls -/

/-- The calls on a span that change it. The destructor is a `FinishWithOptions` with no options set. -/
inductive SpanCall where
  | setOperationName (name : List UInt8)
  | setTag (key : List UInt8) (value : Value)
  | setBaggageItem (restrictedKey value : List UInt8)
  | log (timestamp : SystemTime) (fields : List (List UInt8 × Value))
  | finishWithOptions (steadyNow : SteadyTime) (options : FinishSpanOptions)

def SpanCall.isFinish : SpanCall → Bool
  | finishWithOptions _ _ => true
  | _ => false

namespace Span
variable [DoubleFormat]

def call (recorder : SpanRecorder) (span : Span) : SpanCall → Span
  | .setOperationName name => span.setOperationName name
  | .setTag key value => span.setTag key value
  | .setBaggageItem restrictedKey value => span.setBaggageItem restrictedKey value
  | .log timestamp fields => span.log timestamp fields
  | .finishWithOptions steadyNow options => span.finishImpl recorder steadyNow options

def run (recorder : SpanRecorder) (span : Span) (calls : List SpanCall) : Span := calls.foldl (call recorder) span

end Span
end Lightstep.Tracer

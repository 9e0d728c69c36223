import Lightstep.Library.Machine
import Lightstep.Library.Ledger
import Lightstep.Recorder.Metrics

/-! The recorder without a thread of its own, and its `AsyncTransporter`.

Any number of calls may be under way at a time, each with the point it has reached,
and a step is the next atomic action of one of them; a flush that the transporter
makes from `OnSpanBufferFull` is a call like any other. The span buffer is a queue
to which `Add` appends or not: a call may find it full by positions that have
changed since. Kept beside the recorder are the spans it was given and those it
gave up, and the messages that were answered. -/
namespace Lightstep.Recorder
open Library

/-- `ReportRequest`: a header, the message with the dropped spans unless there are none, and spans. -/
structure ReportRequest (Span : Type) where
  header : List UInt8
  metrics : Option EmbeddedMetricsMessage
  spans : List Span
  numSpans : Nat
  numSpans_eq : numSpans = spans.length

namespace ReportRequest
variable {Span : Type}

def new (header : List UInt8) (numDroppedSpans : Int32) : ReportRequest Span :=
  { header := header
    metrics := if numDroppedSpans = 0 then none else some (EmbeddedMetricsMessage.new.setNumDroppedSpans numDroppedSpans)
    spans := []
    numSpans := 0
    numSpans_eq := rfl }

def addSpan (r : ReportRequest Span) (span : Span) : ReportRequest Span :=
  { header := r.header
    metrics := r.metrics
    spans := r.spans ++ [span]
    numSpans := r.numSpans + 1
    numSpans_eq := by rw [r.numSpans_eq, List.length_append, List.length_singleton] }

def numDroppedSpans (r : ReportRequest Span) : Int32 :=
  match r.metrics with
  | none => 0
  | some metrics => metrics.numDroppedSpans

def batch (r : ReportRequest Span) : Batch Span := ⟨r.spans, counted r.numDroppedSpans⟩

@[simp] theorem numDroppedSpans_new (header : List UInt8) (n : Int32) :
    (new header n : ReportRequest Span).numDroppedSpans = n := by
  unfold new
  by_cases h : n = 0
  · rw [if_pos h, h]
    rfl
  · rw [if_neg h]
    rfl

end ReportRequest

/-- Where a call of `RecordSpan` is: about to add the span, in `OnSpanBufferFull`, about to add it
again, about to tell of the drop, about to count it. -/
inductive RecordPhase where
  | adding
  | bufferFull
  | addingAgain
  | dropping
  | counting
  deriving DecidableEq

structure RecordCall (Span : Type) where
  span : Span
  phase : RecordPhase

/-- Where a call of `FlushWithTimeout` is: at the lock, holding it, taking so many spans, about to send. -/
inductive FlushPhase where
  | locking
  | sizing
  | consuming (numSpans : Nat)
  | sending
  deriving DecidableEq

structure FlushCall (Span : Type) where
  reportRequest : ReportRequest Span
  phase : FlushPhase

/-- Where a call of `OnFailure` is: about to tell of the drops, to count them, to put back the count
of the message. -/
inductive FailurePhase where
  | dropping
  | counting
  | unconsuming
  deriving DecidableEq

structure FailureCall (Span : Type) where
  reportRequest : ReportRequest Span
  phase : FailurePhase

structure ManualRecorder (Span : Type) where
  reportRequestHeader : List UInt8
  metrics : MetricsTracker
  flushMutex : Bool
  spanBuffer : List Span
  recordCalls : List (RecordCall Span)
  flushCalls : List (FlushCall Span)
  failureCalls : List (FailureCall Span)
  /-- Flushes that have sent and are about to tell of it, and sent messages that are not answered. -/
  flushed : Nat
  unanswered : List (ReportRequest Span)
  recorded : List Span
  dropped : List Span
  succeeded : List (ReportRequest Span)
  failed : List (ReportRequest Span)

/-- The next action of a call, by its position among the calls of its kind. `added` is what `Add` returns. -/
inductive ManualEvent (Span : Type) where
  | recordSpan (span : Span)
  | record (index : Nat) (added : Bool)
  | flushWithTimeout
  | flush (index : Nat)
  | onFlush
  | onSuccess (index : Nat)
  | onFailure (index : Nat)
  | failure (index : Nat)

namespace ManualRecorder
variable {Span : Type}

def new (reportRequestHeader : List UInt8) : ManualRecorder Span :=
  { reportRequestHeader := reportRequestHeader, metrics := .new, flushMutex := false, spanBuffer := [],
    recordCalls := [], flushCalls := [], failureCalls := [], flushed := 0, unanswered := [], recorded := [],
    dropped := [], succeeded := [], failed := [] }

/-- `metrics_observer_.OnSpansDropped`, the first half of `MetricsTracker::OnSpansDropped`. -/
def tellDropped (numSpans : Nat) (m : MetricsTracker) : MetricsTracker :=
  {m with metricsObserver := {m.metricsObserver with spansDropped := m.metricsObserver.spansDropped + numSpans}}

/-- The addition to the counter, its second half. -/
def countDropped (numSpans : Nat) (m : MetricsTracker) : MetricsTracker :=
  {m with numDroppedSpans := m.numDroppedSpans + .ofNat numSpans}

/-- The two halves are the whole. -/
theorem countDropped_tellDropped (numSpans : Nat) (m : MetricsTracker) :
    countDropped numSpans (tellDropped numSpans m) = m.onSpansDropped numSpans := rfl

/-- The next action of a call of `RecordSpan`; the call is not among the others of the recorder. -/
def record (call : RecordCall Span) (added : Bool) (r : ManualRecorder Span) : ManualRecorder Span :=
  match call.phase with
  | .adding =>
    if added then {r with spanBuffer := r.spanBuffer ++ [call.span]}
    else {r with recordCalls := {call with phase := .bufferFull} :: r.recordCalls}
  | .bufferFull => {r with recordCalls := {call with phase := .addingAgain} :: r.recordCalls}
  | .addingAgain =>
    if added then {r with spanBuffer := r.spanBuffer ++ [call.span]}
    else {r with recordCalls := {call with phase := .dropping} :: r.recordCalls}
  | .dropping =>
    {r with metrics := tellDropped 1 r.metrics
            dropped := call.span :: r.dropped
            recordCalls := {call with phase := .counting} :: r.recordCalls}
  | .counting => {r with metrics := countDropped 1 r.metrics}

/-- The next action of a call of `FlushWithTimeout`, as for `RecordSpan`. -/
def flush (call : FlushCall Span) (r : ManualRecorder Span) : Option (ManualRecorder Span) :=
  match call.phase with
  | .locking =>
    if r.flushMutex then none
    else some {r with flushMutex := true, flushCalls := {call with phase := .sizing} :: r.flushCalls}
  | .sizing =>
    let numSpans := r.spanBuffer.length
    if numSpans = 0 ∧ call.reportRequest.numDroppedSpans = 0 then some {r with flushMutex := false}
    else some {r with flushCalls := {call with phase := .consuming numSpans} :: r.flushCalls}
  | .consuming 0 => some {r with flushMutex := false, flushCalls := {call with phase := .sending} :: r.flushCalls}
  | .consuming (numSpans + 1) =>
    match r.spanBuffer with
    | [] => none
    | span :: rest =>
      some {r with
        spanBuffer := rest
        flushCalls := ⟨call.reportRequest.addSpan span, .consuming numSpans⟩ :: r.flushCalls}
  | .sending => some {r with unanswered := call.reportRequest :: r.unanswered, flushed := r.flushed + 1}

/-- The next action of a call of `OnFailure`, as for `RecordSpan`. -/
def failure (call : FailureCall Span) (r : ManualRecorder Span) : ManualRecorder Span :=
  match call.phase with
  | .dropping =>
    {r with metrics := tellDropped call.reportRequest.numSpans r.metrics
            failed := call.reportRequest :: r.failed
            failureCalls := {call with phase := .counting} :: r.failureCalls}
  | .counting =>
    {r with metrics := countDropped call.reportRequest.numSpans r.metrics
            failureCalls := {call with phase := .unconsuming} :: r.failureCalls}
  | .unconsuming => {r with metrics := r.metrics.unconsumeDroppedSpans call.reportRequest.numDroppedSpans}

def step (r : ManualRecorder Span) : ManualEvent Span → Option (ManualRecorder Span)
  | .recordSpan span => some {r with recorded := span :: r.recorded, recordCalls := ⟨span, .adding⟩ :: r.recordCalls}
  | .record index added =>
    r.recordCalls[index]?.map fun call => {r with recordCalls := r.recordCalls.eraseIdx index}.record call added
  | .flushWithTimeout =>
    let (numDroppedSpans, metrics) := r.metrics.consumeDroppedSpans
    some {r with metrics := metrics
                 flushCalls := ⟨.new r.reportRequestHeader numDroppedSpans, .locking⟩ :: r.flushCalls}
  | .flush index =>
    r.flushCalls[index]?.bind fun call => {r with flushCalls := r.flushCalls.eraseIdx index}.flush call
  | .onFlush => if 0 < r.flushed then some {r with flushed := r.flushed - 1, metrics := r.metrics.onFlush} else none
  | .onSuccess index =>
    r.unanswered[index]?.map fun message =>
      {r with unanswered := r.unanswered.eraseIdx index
              metrics := r.metrics.onSpansSent message.numSpans
              succeeded := message :: r.succeeded}
  | .onFailure index =>
    r.unanswered[index]?.map fun message =>
      {r with unanswered := r.unanswered.eraseIdx index, failureCalls := ⟨message, .dropping⟩ :: r.failureCalls}
  | .failure index =>
    r.failureCalls[index]?.map fun call => {r with failureCalls := r.failureCalls.eraseIdx index}.failure call

def machine (Span : Type) : Machine (ManualRecorder Span) (ManualEvent Span) := ⟨step⟩

end ManualRecorder
end Lightstep.Recorder

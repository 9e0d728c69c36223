import Lightstep.Library.Machine
import Lightstep.Recorder.ReportBuilder

/-! The recorder with a writer thread and a `SyncTransporter`.

Whoever holds the lock runs to the point where the lock is released, so a step is
a critical section or what the writer does between two of them. A wait may end at
any time, since a timeout may. Kept beside the recorder are the spans it was given,
those it turned away and those it accepted, the reports it has made by what became
of them, and what each flush knew when it took the lock. -/
namespace Lightstep.Recorder
open Library

/-- Where the writer thread is. -/
inductive WriterPhase where
  | looping
  | waiting
  | flushing
  | writing (savePending saveDropped : Nat)
  | disabling (commands : List Command) (savePending saveDropped : Nat)
  | completing (success : Bool) (savePending saveDropped : Nat)
  | exiting
  | exited
  deriving DecidableEq

/-- A flush with the number it waits for, and the spans that were accepted before it took the lock. -/
structure FlushWait (Span : Type) where
  waitSeq : Nat
  accepted : List Span

structure FlushResult (Span : Type) where
  result : Bool
  accepted : List Span

structure AutoRecorder (Span : Type) where
  writeExit : Bool
  builder : ReportBuilder Span
  inflight : ReportMessage Span
  maxBufferedSpansSnapshot : Nat
  flushedSeqno : Nat
  encodingSeqno : Nat
  droppedSpans : Nat
  metricsObserver : MetricsObserver
  writer : WriterPhase
  waits : List (FlushWait Span)
  /-- What has been recorded, and what has been sent. -/
  recorded : List Span
  rejected : List Span
  accepted : List Span
  flying : List (ReportMessage Span)
  returned : List (ReportMessage Span)
  completed : List (ReportMessage Span)
  succeeded : List (ReportMessage Span)
  failed : List (ReportMessage Span)
  finished : List (FlushResult Span)

/-- `max_buffered_spans` has the value it has when the writer looks at it. A response is one that
`Send` returns with; it may also return with an error, or throw. -/
inductive AutoEvent (Span : Type) where
  | recordSpan (span : Span)
  | flushWithTimeout
  | flushReturns (index : Nat)
  | waitForNextWrite (maxBufferedSpans : Nat)
  | wake
  | beginReport
  | sendReturns (response : Option ReportResponse)
  | sendThrows
  | command
  | completeReport
  | writeThrows
  | exit
  | destroy

namespace AutoRecorder
variable {Span : Type}

def new (preamble : Preamble) (maxBufferedSpans : Nat) : AutoRecorder Span :=
  { writeExit := false, builder := .new preamble, inflight := .empty, maxBufferedSpansSnapshot := maxBufferedSpans,
    flushedSeqno := 0, encodingSeqno := 1, droppedSpans := 0, metricsObserver := ⟨0, 0, 0⟩, writer := .looping,
    waits := [], recorded := [], rejected := [], accepted := [], flying := [], returned := [], completed := [],
    succeeded := [], failed := [], finished := [] }

def recordSpan (span : Span) (r : AutoRecorder Span) : AutoRecorder Span :=
  if r.builder.numPendingSpans ≥ r.maxBufferedSpansSnapshot ∨ r.writeExit then
    {r with droppedSpans := r.droppedSpans + 1
            metricsObserver := {r.metricsObserver with spansDropped := r.metricsObserver.spansDropped + 1}
            rejected := span :: r.rejected}
  else {r with builder := r.builder.addSpan span, accepted := r.accepted ++ [span]}

/-- Up to the wait. -/
def flushWithTimeout (r : AutoRecorder Span) : AutoRecorder Span :=
  let hasEncoded := r.builder.numPendingSpans ≠ 0
  if ¬ hasEncoded ∧ r.encodingSeqno = 1 + r.flushedSeqno then
    {r with finished := ⟨true, r.accepted⟩ :: r.finished}
  else
    let waitSeq := r.encodingSeqno - if hasEncoded then 0 else 1
    {r with waits := r.waits ++ [⟨waitSeq, r.accepted⟩]}

/-- After the wait, which gives the value its predicate then has. -/
def flushReturns (wait : FlushWait Span) (r : AutoRecorder Span) : Bool :=
  let result := r.writeExit || decide (r.flushedSeqno ≥ wait.waitSeq)
  if !result then false else decide (r.flushedSeqno ≥ wait.waitSeq)

def makeWriterExit (r : AutoRecorder Span) : AutoRecorder Span := {r with writeExit := true}

/-- `FlushOne` up to the end of its first critical section. -/
def beginReport (r : AutoRecorder Span) : AutoRecorder Span :=
  let r := {r with metricsObserver := {r.metricsObserver with flushes := r.metricsObserver.flushes + 1}}
  let savePending := r.builder.numPendingSpans
  if savePending = 0 then {r with writer := .looping}
  else
    let saveDropped := r.droppedSpans
    let (builder, inflight) := (r.builder.setPendingClientDroppedSpans saveDropped).swapPending r.inflight
    {r with
      metricsObserver := {r.metricsObserver with spansSent := r.metricsObserver.spansSent + savePending}
      droppedSpans := 0
      builder := builder
      inflight := inflight
      encodingSeqno := r.encodingSeqno + 1
      writer := .writing savePending saveDropped
      flying := r.flying ++ [inflight]}

/-- `WriteReport` returns. -/
def writeReturns (success : Bool) (savePending saveDropped : Nat) (r : AutoRecorder Span) : AutoRecorder Span :=
  {r with writer := .completing success savePending saveDropped, returned := r.returned ++ [r.inflight]}

/-- The second critical section of `FlushOne`. -/
def completeReport (success : Bool) (savePending saveDropped : Nat) (r : AutoRecorder Span) : AutoRecorder Span :=
  let report := r.inflight
  let r := {r with flushedSeqno := r.flushedSeqno + 1, inflight := .empty, writer := .looping,
                   flying := r.flying.dropLast, completed := r.completed ++ [report]}
  if success then {r with succeeded := report :: r.succeeded}
  else
    {r with metricsObserver := {r.metricsObserver with
              spansDropped := r.metricsObserver.spansDropped + savePending}
            droppedSpans := r.droppedSpans + (saveDropped + savePending)
            failed := report :: r.failed}

def step (r : AutoRecorder Span) : AutoEvent Span → Option (AutoRecorder Span)
  | .recordSpan span => some ({r with recorded := span :: r.recorded}.recordSpan span)
  | .flushWithTimeout => some r.flushWithTimeout
  | .flushReturns index =>
    r.waits[index]?.map fun wait =>
      {r with waits := r.waits.eraseIdx index, finished := ⟨r.flushReturns wait, wait.accepted⟩ :: r.finished}
  | .waitForNextWrite maxBufferedSpans =>
    if r.writer = .looping then
      some {r with maxBufferedSpansSnapshot := maxBufferedSpans, writer := .waiting}
    else none
  | .wake =>
    if r.writer = .waiting then some {r with writer := if r.writeExit then .exited else .flushing} else none
  | .beginReport => if r.writer = .flushing then some r.beginReport else none
  | .sendReturns response =>
    match r.writer with
    | .writing savePending saveDropped =>
      match response with
      | none => some (r.writeReturns false savePending saveDropped)
      | some response => some {r with writer := .disabling response.commands savePending saveDropped}
    | _ => none
  | .sendThrows =>
    match r.writer with
    | .writing _ _ => some {r with writer := .exiting}
    | _ => none
  | .command =>
    match r.writer with
    | .disabling [] savePending saveDropped => some (r.writeReturns true savePending saveDropped)
    | .disabling (command :: commands) savePending saveDropped =>
      let r := if command.disable then r.makeWriterExit else r
      some {r with writer := .disabling commands savePending saveDropped}
    | _ => none
  | .completeReport =>
    match r.writer with
    | .completing success savePending saveDropped => some (r.completeReport success savePending saveDropped)
    | _ => none
  | .writeThrows => if r.writer = .looping ∨ r.writer = .waiting then some {r with writer := .exiting} else none
  | .exit => if r.writer = .exiting then some {r.makeWriterExit with writer := .exited} else none
  | .destroy => some r.makeWriterExit

def machine (Span : Type) : Machine (AutoRecorder Span) (AutoEvent Span) := ⟨step⟩

end AutoRecorder
end Lightstep.Recorder

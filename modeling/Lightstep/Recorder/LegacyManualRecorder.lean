import Lightstep.Library.Machine
import Lightstep.Recorder.ReportBuilder

/-! The recorder that sends its reports through a `LegacyAsyncTransporter`.

The transporter answers a report inside `Send` or later, or never, and `Send` may
throw. Kept beside the recorder are the spans it was given and those it turned
away, and every report that was handed to `Send`, by how it was answered. -/
namespace Lightstep.Recorder
open Library

/-- A callback of the transporter. -/
inductive Answer where
  | success (response : ReportResponse)
  | failure
  deriving DecidableEq

/-- What one call of `Send` does: the callback it makes before it returns, and whether it throws. -/
structure SendOutcome where
  answer : Option Answer
  throws : Bool
  deriving DecidableEq

structure Transmission (Span : Type) where
  report : ReportMessage Span
  outcome : SendOutcome
  deriving DecidableEq

structure LegacyManualRecorder (Span : Type) where
  disabled : Bool
  builder : ReportBuilder Span
  activeRequest : ReportMessage Span
  activeResponse : ReportResponse
  savedDroppedSpans : Nat
  savedPendingSpans : Nat
  flushedSeqno : Nat
  encodingSeqno : Nat
  droppedSpans : Nat
  metricsObserver : MetricsObserver
  /-- What has been recorded and turned away, and what has been sent. -/
  recorded : List Span
  rejected : List Span
  unanswered : List (ReportMessage Span)
  succeeded : List (ReportMessage Span)
  failed : List (ReportMessage Span)
  sends : List (Transmission Span)

/-- A call of the recorder. `max_buffered_spans` has the value it has at the call, and the outcomes
are those of the reports the call sends. An answer says which of the unanswered reports it is for. -/
inductive LegacyCall (Span : Type) where
  | recordSpan (span : Span) (maxBufferedSpans : Nat) (first second : SendOutcome)
  | flushWithTimeout (outcome : SendOutcome)
  | answer (index : Nat) (answer : Answer)

namespace LegacyManualRecorder
variable {Span : Type}

def new (preamble : Preamble) : LegacyManualRecorder Span :=
  { disabled := false, builder := .new preamble, activeRequest := .empty, activeResponse := ⟨[]⟩,
    savedDroppedSpans := 0, savedPendingSpans := 0, flushedSeqno := 0, encodingSeqno := 1, droppedSpans := 0,
    metricsObserver := ⟨0, 0, 0⟩, recorded := [], rejected := [], unanswered := [], succeeded := [], failed := [],
    sends := [] }

def isReportInProgress (r : LegacyManualRecorder Span) : Bool := r.encodingSeqno > 1 + r.flushedSeqno

def onSuccess (response : ReportResponse) (r : LegacyManualRecorder Span) : LegacyManualRecorder Span :=
  {r with flushedSeqno := r.flushedSeqno + 1
          activeRequest := .empty
          activeResponse := response
          disabled := r.disabled || response.disables}

def onFailure (r : LegacyManualRecorder Span) : LegacyManualRecorder Span :=
  {r with flushedSeqno := r.flushedSeqno + 1
          activeRequest := .empty
          metricsObserver := {r.metricsObserver with
            spansDropped := r.metricsObserver.spansDropped + r.savedPendingSpans}
          droppedSpans := r.droppedSpans + (r.savedDroppedSpans + r.savedPendingSpans)}

/-- A report is answered. -/
def answered (report : ReportMessage Span) (r : LegacyManualRecorder Span) : Answer → LegacyManualRecorder Span
  | .success response => {r.onSuccess response with succeeded := report :: r.succeeded}
  | .failure => {r.onFailure with failed := report :: r.failed}

/-- The call of `Send` with the active request. -/
def send (outcome : SendOutcome) (r : LegacyManualRecorder Span) : LegacyManualRecorder Span :=
  let r := {r with sends := ⟨r.activeRequest, outcome⟩ :: r.sends}
  match outcome.answer with
  | none => {r with unanswered := r.activeRequest :: r.unanswered}
  | some answer => r.answered r.activeRequest answer

def flushOne (outcome : SendOutcome) (r : LegacyManualRecorder Span) : LegacyManualRecorder Span × Bool :=
  let r := {r with metricsObserver := {r.metricsObserver with flushes := r.metricsObserver.flushes + 1}}
  if r.isReportInProgress then (r, r.builder.numPendingSpans == 0)
  else
    let r := {r with savedPendingSpans := r.builder.numPendingSpans}
    if r.savedPendingSpans = 0 then (r, true)
    else
      let r := {r with
        metricsObserver := {r.metricsObserver with spansSent := r.metricsObserver.spansSent + r.savedPendingSpans}
        savedDroppedSpans := r.droppedSpans
        builder := r.builder.setPendingClientDroppedSpans r.droppedSpans
        droppedSpans := 0}
      let (builder, activeRequest) := r.builder.swapPending r.activeRequest
      let r := {r with builder := builder, activeRequest := activeRequest, encodingSeqno := r.encodingSeqno + 1}
      let r := r.send outcome
      if outcome.throws then
        ({r with metricsObserver := {r.metricsObserver with
                   spansDropped := r.metricsObserver.spansDropped + r.savedPendingSpans}
                 droppedSpans := r.droppedSpans + r.savedPendingSpans
                 activeRequest := .empty}, false)
      else (r, true)

/-- A span that is turned away. -/
def drop (span : Span) (r : LegacyManualRecorder Span) : LegacyManualRecorder Span :=
  {r with droppedSpans := r.droppedSpans + 1
          metricsObserver := {r.metricsObserver with spansDropped := r.metricsObserver.spansDropped + 1}
          rejected := span :: r.rejected}

def addSpan (span : Span) (maxBufferedSpans : Nat) (outcome : SendOutcome) (r : LegacyManualRecorder Span) :
    LegacyManualRecorder Span :=
  let r := {r with builder := r.builder.addSpan span}
  if r.builder.numPendingSpans ≥ maxBufferedSpans then (r.flushOne outcome).1 else r

def recordSpan (span : Span) (maxBufferedSpans : Nat) (first second : SendOutcome) (r : LegacyManualRecorder Span) :
    LegacyManualRecorder Span :=
  if r.disabled then r.drop span
  else if r.builder.numPendingSpans ≥ maxBufferedSpans then
    if !r.isReportInProgress then (r.flushOne first).1.addSpan span maxBufferedSpans second
    else r.drop span
  else r.addSpan span maxBufferedSpans second

def flushWithTimeout (outcome : SendOutcome) (r : LegacyManualRecorder Span) : LegacyManualRecorder Span × Bool :=
  if r.disabled then (r, false) else r.flushOne outcome

/-- The transporter answers each report once. -/
def step (r : LegacyManualRecorder Span) : LegacyCall Span → Option (LegacyManualRecorder Span)
  | .recordSpan span maxBufferedSpans first second =>
    some ({r with recorded := span :: r.recorded}.recordSpan span maxBufferedSpans first second)
  | .flushWithTimeout outcome => some (r.flushWithTimeout outcome).1
  | .answer index answer =>
    r.unanswered[index]?.map fun report =>
      {r with unanswered := r.unanswered.eraseIdx index}.answered report answer

def machine (Span : Type) : Machine (LegacyManualRecorder Span) (LegacyCall Span) := ⟨step⟩

end LegacyManualRecorder
end Lightstep.Recorder

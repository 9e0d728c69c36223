import Lightstep.Library.Lock
import Lightstep.Tracer.Traces

/-! A span that threads share.

Every call takes the span's spin lock, the reads of the baggage, of the flags and of what is
injected as well. What is written under the lock is written a statement at a time. -/
namespace Lightstep.Tracer
open Library Common TraceContext

/-- The calls that take the lock. The callback of `ForeachBaggageItem` says whether to go on. -/
inductive SharedSpanCall where
  | change (c : SpanCall)
  | baggageItem (restrictedKey : List UInt8)
  | foreachBaggageItem (f : List UInt8 → List UInt8 → Bool)
  | traceFlags
  | inject

/-- What a call returns or hands out: the items a callback is called with, and what is injected. -/
inductive SpanAnswer where
  | nothing
  | item (value : List UInt8)
  | items (visited : List (List UInt8 × List UInt8))
  | flags (traceFlags : UInt8)
  | context (c : LightStepSpanContext)

/-- The locals of a call: whether it has returned early, and what it answers. -/
structure SpanCallLocals where
  returned : Bool
  answer : SpanAnswer

/-- The items up to the first at which the callback stops. -/
def visitedItems (f : List UInt8 → List UInt8 → Bool) : List (List UInt8 × List UInt8) → List (List UInt8 × List UInt8)
  | [] => []
  | item :: rest => if f item.1 item.2 then item :: visitedItems f rest else [item]

abbrev SpanStatement := Span × SpanCallLocals → Span × SpanCallLocals

namespace SpanStatement

def returnIf (p : Span → Bool) : SpanStatement := fun st => (st.1, {st.2 with returned := st.2.returned || p st.1})

def write (f : Span → Span) : SpanStatement := fun st => if st.2.returned then st else (f st.1, st.2)

def writeStream (f : CodedOutputStream → CodedOutputStream) : SpanStatement :=
  write fun span => {span with codedStream := f span.codedStream}

/-- `is_finished_.exchange(true)`, and the return where it was set. -/
def exchangeFinished : SpanStatement := fun st =>
  ({st.1 with isFinished := true}, {st.2 with returned := st.2.returned || st.1.isFinished})

def read (f : Span → SpanAnswer) : SpanStatement := fun st => (st.1, {st.2 with answer := f st.1})

end SpanStatement

namespace Span
variable [DoubleFormat]
open SpanStatement

/-- The statements of `FinishImpl` after it has decided to record the span. -/
def recordStatements (recorder : SpanRecorder) (finishTimestamp : SteadyTime) (options : FinishSpanOptions) :
    List SpanStatement :=
  [write fun span => {span with codedStream := writeDuration (finishTimestamp - span.startSteady) span.codedStream}] ++
  options.logRecords.map (fun logRecord => writeStream (writeLog logRecord.timestamp logRecord.fields)) ++
  [write fun span =>
      {span with codedStream := writeSpanContext span.traceId span.spanId span.baggage.data span.codedStream},
    writeStream (put (some recorder.footer)),
    write fun span =>
      {span with recorded := span.recorded ++ [⟨recorder.headerSpace.length, span.codedStream.bytes⟩]}]

/-- The statements of a call that changes the span. -/
def changeStatements (recorder : SpanRecorder) : SpanCall → List SpanStatement
  | .setOperationName name => [returnIf Span.isFinished, writeStream (writeOperationName name)]
  | .setTag key value =>
    [returnIf Span.isFinished, writeStream (writeTag key value),
      write fun span => {span with traceFlags := sampleTag key value span.traceFlags}]
  | .setBaggageItem restrictedKey value =>
    [returnIf Span.isFinished,
      write fun span => {span with baggage := (span.baggage.insertOrAssign (toLower restrictedKey) value).1}]
  | .log timestamp fields => [returnIf Span.isFinished, writeStream (writeLog timestamp fields)]
  | .finishWithOptions steadyNow options =>
    [exchangeFinished, returnIf fun span => !isTraceFlagSet sampledFlagMask span.traceFlags] ++
      recordStatements recorder
        (if options.finishSteadyTimestamp = 0 then steadyNow else options.finishSteadyTimestamp) options

def statements (recorder : SpanRecorder) : SharedSpanCall → List SpanStatement
  | .change c => changeStatements recorder c
  | .baggageItem restrictedKey => [read fun span => .item (span.baggageItem restrictedKey)]
  | .foreachBaggageItem f => [read fun span => .items (visitedItems f span.baggage.data)]
  | .traceFlags => [read fun span => .flags span.traceFlags]
  | .inject => [read fun span => .context span.context]

/-- A span behind its lock. -/
def shared (recorder : SpanRecorder) : LockedObject SharedSpanCall Span SpanCallLocals SpanAnswer where
  steps := statements recorder
  memory _ := ⟨false, .nothing⟩
  result := SpanCallLocals.answer

end Span

/-! ### A call by itself -/

namespace SharedSpanCall

def change? : SharedSpanCall → Option SpanCall
  | .change c => some c
  | _ => none

/-- What a call answers, by the span. -/
def answer (span : Span) : SharedSpanCall → SpanAnswer
  | .change _ => .nothing
  | .baggageItem restrictedKey => .item (span.baggageItem restrictedKey)
  | .foreachBaggageItem f => .items (visitedItems f span.baggage.data)
  | .traceFlags => .flags span.traceFlags
  | .inject => .context span.context

end SharedSpanCall

namespace Span
variable [DoubleFormat]
open SpanStatement

/-- What statements leave, one after the other. -/
def perform (statements : List SpanStatement) (st : Span × SpanCallLocals) : Span × SpanCallLocals :=
  statements.foldl (fun st statement => statement st) st

section
omit [DoubleFormat]

theorem perform_append (a b : List SpanStatement) (st : Span × SpanCallLocals) :
    perform (a ++ b) st = perform b (perform a st) := List.foldl_append ..

/-- A call that has returned writes nothing. -/
theorem perform_returned {statements : List SpanStatement} (h : ∀ statement ∈ statements, ∃ f, statement = write f)
    (span : Span) (answer : SpanAnswer) : perform statements (span, ⟨true, answer⟩) = (span, ⟨true, answer⟩) := by
  induction statements with
  | nil => rfl
  | cons statement rest ih =>
    obtain ⟨f, rfl⟩ := h statement (List.mem_cons_self ..)
    exact ih fun statement hrest => h statement (List.mem_cons_of_mem _ hrest)

/-- The loop over the log records. -/
theorem perform_writeStreams {A : Type} (f : A → CodedOutputStream → CodedOutputStream) (records : List A) (span : Span)
    (answer : SpanAnswer) : perform (records.map fun record => writeStream (f record)) (span, ⟨false, answer⟩) =
      ({span with codedStream := records.foldl (fun stream record => f record stream) span.codedStream},
        ⟨false, answer⟩) := by
  induction records generalizing span with
  | nil => rfl
  | cons record rest ih => exact ih _

end

theorem writes_recordStatements (recorder : SpanRecorder) (finishTimestamp : SteadyTime) (options : FinishSpanOptions) :
    ∀ statement ∈ recordStatements recorder finishTimestamp options, ∃ f, statement = write f := by
  intro statement h
  simp only [recordStatements, List.mem_append, List.mem_map, List.mem_cons, List.not_mem_nil, or_false] at h
  obtain (rfl | ⟨logRecord, -, rfl⟩) | rfl | rfl | rfl := h
  all_goals exact ⟨_, rfl⟩

/-- A span that is to be recorded is recorded. -/
theorem perform_recordStatements (recorder : SpanRecorder) (steadyNow : SteadyTime) (options : FinishSpanOptions)
    {span : Span} (hfinished : span.isFinished = false) (hsampled : isTraceFlagSet sampledFlagMask span.traceFlags = true)
    (answer : SpanAnswer) :
    perform (recordStatements recorder
        (if options.finishSteadyTimestamp = 0 then steadyNow else options.finishSteadyTimestamp) options)
      ({span with isFinished := true}, ⟨false, answer⟩) =
        (span.finishImpl recorder steadyNow options, ⟨false, answer⟩) := by
  unfold recordStatements finishImpl
  rw [perform_append, perform_append]
  simp only [hfinished, Bool.false_eq_true, if_false, hsampled]
  show perform _ (perform _ ({span with isFinished := true, codedStream := _}, ⟨false, answer⟩)) = _
  rw [perform_writeStreams]
  rfl

theorem perform_changeStatements (recorder : SpanRecorder) (c : SpanCall) (span : Span) :
    ∃ returned, perform (changeStatements recorder c) (span, ⟨false, .nothing⟩) =
      (span.call recorder c, ⟨returned, .nothing⟩) := by
  cases c with
  | setOperationName name => cases hfinished : span.isFinished <;>
    simp [changeStatements, perform, returnIf, writeStream, write, call, setOperationName, hfinished]
  | setTag key value => cases hfinished : span.isFinished <;>
    simp [changeStatements, perform, returnIf, writeStream, write, call, setTag, addTag, hfinished]
  | setBaggageItem restrictedKey value => cases hfinished : span.isFinished <;>
    simp [changeStatements, perform, returnIf, write, call, setBaggageItem, hfinished]
  | log timestamp fields => cases hfinished : span.isFinished <;>
    simp [changeStatements, perform, returnIf, writeStream, write, call, log, hfinished]
  | finishWithOptions steadyNow options =>
    have hstart : perform [exchangeFinished, returnIf fun span => !isTraceFlagSet sampledFlagMask span.traceFlags]
        (span, ⟨false, .nothing⟩) = ({span with isFinished := true},
          ⟨span.isFinished || !isTraceFlagSet sampledFlagMask span.traceFlags, .nothing⟩) := rfl
    refine ⟨span.isFinished || !isTraceFlagSet sampledFlagMask span.traceFlags, ?_⟩
    show perform (_ ++ recordStatements recorder _ options) _ = (span.finishImpl recorder steadyNow options, _)
    rw [perform_append, hstart]
    cases hfinished : span.isFinished with
    | true =>
      rw [Bool.true_or, perform_returned (writes_recordStatements _ _ _), finishImpl, if_pos hfinished, ← hfinished]
    | false =>
      cases hsampled : isTraceFlagSet sampledFlagMask span.traceFlags with
      | true => exact perform_recordStatements recorder steadyNow options hfinished hsampled .nothing
      | false =>
        rw [Bool.not_false, Bool.or_true, perform_returned (writes_recordStatements _ _ _)]
        simp [finishImpl, hfinished, hsampled]

/-- **The statements of a call, one after the other, are the call.** -/
theorem shared_call (recorder : SpanRecorder) (c : SharedSpanCall) (span : Span) :
    (shared recorder).call c span = (span.run recorder c.change?.toList, c.answer span) := by
  cases c with
  | change c =>
    obtain ⟨returned, hperform⟩ := perform_changeStatements recorder c span
    show ((perform (changeStatements recorder c) (span, ⟨false, .nothing⟩)).1,
      (perform (changeStatements recorder c) (span, ⟨false, .nothing⟩)).2.answer) = _
    rw [hperform]
    rfl
  | _ => rfl

theorem shared_run (recorder : SpanRecorder) (span : Span) (calls : List SharedSpanCall) :
    (shared recorder).run span calls = span.run recorder (calls.filterMap SharedSpanCall.change?) := by
  induction calls generalizing span with
  | nil => rfl
  | cons c rest ih =>
    have hcalls : (c :: rest).filterMap SharedSpanCall.change? =
        c.change?.toList ++ rest.filterMap SharedSpanCall.change? := by cases c <;> rfl
    rw [hcalls, run_append, ← ih]
    show (shared recorder).run ((shared recorder).call c span).1 rest = _
    rw [shared_call]

/-- What calls answer, one after the other. -/
def answers {T : Type} (recorder : SpanRecorder) :
    Span → List (T × SharedSpanCall) → List (T × SharedSpanCall × SpanAnswer)
  | _, [] => []
  | span, (t, c) :: rest => (t, c, c.answer span) :: answers recorder (span.run recorder c.change?.toList) rest

theorem shared_answers {T : Type} (recorder : SpanRecorder) (span : Span) (calls : List (T × SharedSpanCall)) :
    (shared recorder).answers span calls = answers recorder span calls := by
  induction calls generalizing span with
  | nil => rfl
  | cons call rest ih =>
    obtain ⟨t, c⟩ := call
    rw [LockedObject.answers, shared_call, ih]
    rfl

/-- A span is recorded once at most. -/
theorem length_recorded_le (start : SpanStart) (directBuffer : List UInt8 → (n : Nat) → Option (Vector UInt8 n))
    (calls : List SpanCall) : ((start.span directBuffer).run start.recorder calls).recorded.length ≤ 1 := by
  obtain ⟨htold, -⟩ := told_atFinish start directBuffer calls
  cases hfinish : firstFinish calls with
  | none =>
    have hrecorded := htold.recorded
    rw [atFinish, beforeFinish_of_none hfinish] at hrecorded
    rw [hrecorded]
    exact Nat.zero_le _
  | some finish =>
    cases hsampled : isTraceFlagSet sampledFlagMask (atFinish start directBuffer calls).traceFlags with
    | false =>
      rw [run_eq_finishImpl hfinish, htold.finish_unsampled finish.1 finish.2 hsampled]
      exact Nat.zero_le _
    | true =>
      obtain ⟨body, hrecorded, -⟩ := records_parts hfinish hsampled
      rw [hrecorded]
      exact Nat.le_refl _

/-- What threads make of a span by calls in an order. -/
structure OneByOne {T : Type} [DecidableEq T] (start : SpanStart)
    (directBuffer : List UInt8 → (n : Nat) → Option (Vector UInt8 n))
    (m : Locked T SharedSpanCall Span SpanCallLocals SpanAnswer) (order : List (T × SharedSpanCall)) : Prop where
  span : m.state =
    (start.span directBuffer).run start.recorder (order.filterMap fun call => call.2.change?)
  answers : ∀ t, m.returned t = LockedObject.ofThread t (answers start.recorder (start.span directBuffer) order)
  once : m.state.recorded.length ≤ 1
  recorded : ∀ recordedSpan ∈ m.state.recorded,
    ∃ (body : Option (List UInt8)) (steadyNow : SteadyTime) (options : FinishSpanOptions),
      firstFinish (order.filterMap fun call => call.2.change?) = some (steadyNow, options) ∧
      recordedSpan.span = body.map (start.recorder.headerSpace ++ · ++ start.recorder.footer) ∧
      ((SpanPart.encode (finishedParts start directBuffer (beforeFinish (order.filterMap fun call => call.2.change?))
          steadyNow options)).length < 2 ^ 31 → body.bind Collector.Span.parse =
        some (report start (beforeFinish (order.filterMap fun call => call.2.change?)) steadyNow options))

/-- **However threads share a span, it is recorded once at most, and what is recorded reports their calls in one
order**: the order in which they got the lock, which is every thread's own order for its calls. Every call answers as
it would there. -/
theorem threads_report_one_order {T : Type} [DecidableEq T] (start : SpanStart)
    (directBuffer : List UInt8 → (n : Nat) → Option (Vector UInt8 n)) {events : List (LockEvent T SharedSpanCall)}
    {m : Locked T SharedSpanCall Span SpanCallLocals SpanAnswer}
    (hrun : (LockedObject.machine T (shared start.recorder)).run (LockedObject.new (start.span directBuffer)) events =
      some m) (hfree : m.locked = false) :
    ∃ order : List (T × SharedSpanCall), OneByOne start directBuffer m order ∧
      ∀ t, events.flatMap (LockedObject.callsOf t) = LockedObject.ofThread t order ++ (m.phase t).spins := by
  obtain ⟨hstate, hreturned, hcalls⟩ := LockedObject.linearizable hrun hfree
  have hspan : m.state = (start.span directBuffer).run start.recorder (m.order.filterMap fun call => call.2.change?) := by
    rw [hstate, shared_run, List.filterMap_map]
    rfl
  refine ⟨m.order, ⟨hspan, fun t => ?_, ?_, fun recordedSpan h => ?_⟩, hcalls⟩
  · rw [hreturned t, shared_answers]
  · rw [hspan]
    exact length_recorded_le start directBuffer _
  · rw [hspan] at h
    exact parse_recorded start directBuffer _ h

/-- A thread that finishes the span, and one that finds the lock taken, and sets its tag too late. -/
def raced : List (LockEvent Bool SharedSpanCall) :=
  [.call true (.change (.setTag (ascii "t") (.bool true))), .call false (.change (.finishWithOptions 5000 ⟨0, []⟩)),
    .testAndSet false, .testAndSet true, .step false, .step false, .step false, .testAndSet true, .step false,
    .step false, .step false, .clear false, .testAndSet true, .step true, .step true, .step true, .clear true]

omit [DoubleFormat] in
set_option maxRecDepth 8000 in
theorem raced_reported : letI := zeroFormat
    ∃ m, (LockedObject.machine Bool (shared busyStart.recorder)).run
        (LockedObject.new (busyStart.span fun _ _ => none)) raced = some m ∧
      m.state.recorded.length = 1 ∧ ∃ order : List (Bool × SharedSpanCall),
        OneByOne busyStart (fun _ _ => none) m order ∧
          ∀ t, raced.flatMap (LockedObject.callsOf t) = LockedObject.ofThread t order ++ (m.phase t).spins := by
  let _ := zeroFormat
  have hresult : ((LockedObject.machine Bool (shared busyStart.recorder)).run
      (LockedObject.new (busyStart.span fun _ _ => none)) raced).map
        (fun m => (m.locked, m.state.recorded.length)) = some (false, 1) := by
    decide +kernel
  obtain ⟨m, hrun, hvalues⟩ := Option.map_eq_some_iff.mp hresult
  obtain ⟨hfree, hlength⟩ := Prod.mk.inj hvalues
  exact ⟨m, hrun, hlength, threads_report_one_order busyStart (fun _ _ => none) hrun hfree⟩

end Span
end Lightstep.Tracer

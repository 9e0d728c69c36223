import Lightstep.Common.JsonFaithful
import Lightstep.Common.ProtoUnmarshal
import Lightstep.Tracer.SpanReport

/-! The incremental serializer is faithful.

While a span is not finished, its stream has the parts it was started with and
those of the calls, in order. The first call that finishes a sampled span adds the
rest, and what is then recorded parses to the report. -/
namespace Lightstep.Tracer
open Common Library TraceContext

/-! ### Calls and the first that finishes -/

theorem isFinish_of_mem_beforeFinish {calls : List SpanCall} {call : SpanCall} (h : call ∈ beforeFinish calls) :
    call.isFinish = false := by
  simpa using List.mem_takeWhile_imp (p := fun call : SpanCall => !call.isFinish) h

theorem beforeFinish_of_none {calls : List SpanCall} (h : firstFinish calls = none) : beforeFinish calls = calls := by
  refine List.takeWhile_eq_self_iff.mpr fun call hcall => ?_
  have hnone := List.findSome?_eq_none_iff.mp h call hcall
  cases call with
  | finishWithOptions steadyNow options => cases hnone
  | _ => rfl

theorem split_of_some {calls : List SpanCall} {steadyNow : SteadyTime} {options : FinishSpanOptions}
    (h : firstFinish calls = some (steadyNow, options)) :
    ∃ after, calls = beforeFinish calls ++ .finishWithOptions steadyNow options :: after := by
  induction calls with
  | nil => cases h
  | cons call rest ih =>
    cases call with
    | finishWithOptions steadyNow' options' =>
      cases h
      exact ⟨rest, rfl⟩
    | setOperationName | setTag | setBaggageItem | log =>
      obtain ⟨after, hafter⟩ := ih h
      exact ⟨after, congrArg (List.cons _) hafter⟩

theorem beforeFinish_append {calls : List SpanCall} (hcalls : ∀ c ∈ calls, c.isFinish = false) (steadyNow : SteadyTime)
    (options : FinishSpanOptions) : beforeFinish (calls ++ [.finishWithOptions steadyNow options]) = calls := by
  rw [beforeFinish, List.takeWhile_append_of_pos fun call hcall => by rw [hcalls call hcall]; rfl]
  exact List.append_nil calls

theorem firstFinish_append {calls : List SpanCall} (hcalls : ∀ c ∈ calls, c.isFinish = false) (steadyNow : SteadyTime)
    (options : FinishSpanOptions) :
    firstFinish (calls ++ [.finishWithOptions steadyNow options]) = some (steadyNow, options) := by
  have hnone : calls.findSome? SpanCall.finish? = none := by
    refine List.findSome?_eq_none_iff.mpr fun call hcall => ?_
    have hopen := hcalls call hcall
    cases call with
    | finishWithOptions steadyNow options => cases hopen
    | _ => rfl
  rw [firstFinish, List.findSome?_append, hnone]
  rfl

theorem filterMap_cons_toList {α : Type} (f : SpanCall → Option α) (call : SpanCall) (rest : List SpanCall) :
    (call :: rest).filterMap f = (f call).toList ++ rest.filterMap f := by
  cases hf : f call with
  | none => rw [List.filterMap_cons_none hf, Option.toList_none, List.nil_append]
  | some x => rw [List.filterMap_cons_some hf, Option.toList_some, List.singleton_append]

namespace Span
variable [DoubleFormat]

/-- A span that is not finished has been told these parts and baggage. -/
structure Told (recorder : SpanRecorder) (parts : List SpanPart) (items : List (List UInt8 × List UInt8))
    (span : Span) : Prop where
  stream : Holds recorder.headerSpace span.codedStream parts
  baggage : span.baggage.toFinmap = FlatMap.insertAll items ∅
  isFinished : span.isFinished = false
  recorded : span.recorded = []

namespace Told
variable {recorder : SpanRecorder} {parts : List SpanPart} {items : List (List UInt8 × List UInt8)} {span : Span}

theorem open_span (h : Told recorder parts items span) : ¬ span.isFinished = true := by
  rw [h.isFinished]
  exact Bool.false_ne_true

theorem write (h : Told recorder parts items span) (part : SpanPart) (traceFlags : UInt8) :
    Told recorder (parts ++ [part]) items
      {span with codedStream := part.write span.codedStream, traceFlags := traceFlags} where
  stream := h.stream.write part
  baggage := h.baggage
  isFinished := h.isFinished
  recorded := h.recorded

theorem addTag (h : Told recorder parts items span) (tag : List UInt8 × Value) :
    Told recorder (parts ++ [.tag tag]) items (span.addTag tag) := h.write (.tag tag) _

theorem addTags (h : Told recorder parts items span) (tags : List (List UInt8 × Value)) :
    Told recorder (parts ++ tags.map .tag) items (tags.foldl Span.addTag span) := by
  induction tags generalizing parts span with
  | nil =>
    rw [List.map_nil, List.append_nil]
    exact h
  | cons tag rest ih =>
    rw [List.map_cons, List.append_cons]
    exact ih (h.addTag tag)

theorem insert (h : Told recorder parts items span) (item : List UInt8 × List UInt8) :
    Told recorder parts (items ++ [item]) {span with baggage := (span.baggage.insertOrAssign item.1 item.2).1} where
  stream := h.stream
  baggage := by
    rw [FlatMap.toFinmap_insertOrAssign, h.baggage, FlatMap.insertAll_append]
    rfl
  isFinished := h.isFinished
  recorded := h.recorded

/-- **A call that does not finish the span** adds its part or its item. -/
theorem call (h : Told recorder parts items span) {call : SpanCall} (hcall : call.isFinish = false) :
    Told recorder (parts ++ call.part?.toList) (items ++ call.baggageItem?.toList) (span.call recorder call) := by
  have hparts : parts ++ [] = parts := List.append_nil parts
  have hitems : items ++ [] = items := List.append_nil items
  cases call with
  | setOperationName name =>
    have hspan : span.call recorder (.setOperationName name) =
      {span with codedStream := writeOperationName name span.codedStream} := if_neg h.open_span
    rw [hspan, show (SpanCall.setOperationName name).baggageItem?.toList = [] from rfl, hitems]
    exact h.write (.operationName name) span.traceFlags
  | setTag key value =>
    have hspan : span.call recorder (.setTag key value) = span.addTag (key, value) := if_neg h.open_span
    rw [hspan, show (SpanCall.setTag key value).baggageItem?.toList = [] from rfl, hitems]
    exact h.addTag (key, value)
  | setBaggageItem restrictedKey value =>
    have hspan : span.call recorder (.setBaggageItem restrictedKey value) =
      {span with baggage := (span.baggage.insertOrAssign (toLower restrictedKey) value).1} := if_neg h.open_span
    rw [hspan, show (SpanCall.setBaggageItem restrictedKey value).part?.toList = [] from rfl, hparts]
    exact h.insert (toLower restrictedKey, value)
  | log timestamp fields =>
    have hspan : span.call recorder (.log timestamp fields) =
      {span with codedStream := writeLog timestamp fields span.codedStream} := if_neg h.open_span
    rw [hspan, show (SpanCall.log timestamp fields).baggageItem?.toList = [] from rfl, hitems]
    exact h.write (.log ⟨timestamp, fields⟩) span.traceFlags
  | finishWithOptions steadyNow options => cases hcall

theorem run (h : Told recorder parts items span) {calls : List SpanCall} (hcalls : ∀ c ∈ calls, c.isFinish = false) :
    Told recorder (parts ++ calls.filterMap SpanCall.part?) (items ++ calls.filterMap SpanCall.baggageItem?)
      (span.run recorder calls) := by
  induction calls generalizing parts items span with
  | nil =>
    rw [List.filterMap_nil, List.filterMap_nil, List.append_nil, List.append_nil]
    exact h
  | cons call rest ih =>
    rw [filterMap_cons_toList, filterMap_cons_toList, ← List.append_assoc, ← List.append_assoc]
    exact ih (h.call (hcalls call (List.mem_cons_self ..))) fun c hc => hcalls c (List.mem_cons_of_mem call hc)

end Told

/-! ### Starting -/

omit [DoubleFormat] in
theorem addReference_none (st : Span × Nat) (reference : SpanReference) (h : validReference reference = none) :
    addReference st reference = st := by
  obtain ⟨referenceType, context⟩ := reference
  cases context with
  | null => rfl
  | foreign => rfl
  | lightStep context => cases h

/-- What the loop over the references leaves after the valid ones. -/
structure Referenced (start : SpanStart) (valid : List ValidReference) (st : Span × Nat) : Prop where
  told : Told start.recorder
    ([.operationName start.operationName, .startTimestamp start.timestamps.1] ++ valid.map .reference)
    (valid.flatMap fun reference => reference.2.baggage) st.1
  count : st.2 = valid.length
  traceId : ∀ reference rest, valid = reference :: rest → st.1.traceId = reference.2.traceIdLow
  startSteady : st.1.startSteady = start.timestamps.2

theorem Told.inserts {recorder : SpanRecorder} {parts : List SpanPart} {items : List (List UInt8 × List UInt8)}
    {span : Span} (h : Told recorder parts items span) (more : List (List UInt8 × List UInt8)) :
    Told recorder parts (items ++ more) {span with
      baggage := more.foldl (fun baggage item => (baggage.insertOrAssign item.1 item.2).1) span.baggage} where
  stream := h.stream
  baggage := by
    rw [FlatMap.insertAll_append, ← h.baggage]
    exact FlatMap.toFinmap_insertOrAssignAll more span.baggage
  isFinished := h.isFinished
  recorded := h.recorded

namespace Referenced
variable {start : SpanStart} {valid : List ValidReference} {st : Span × Nat}

/-- A valid reference: the first one gives the trace its id. -/
theorem add (h : Referenced start valid st) (reference : ValidReference) :
    Referenced start (valid ++ [reference]) (addReference st (reference.1, .lightStep reference.2)) := by
  have htold := (h.told.write (.reference reference) (st.1.traceFlags ||| reference.2.traceFlags)).inserts
    reference.2.baggage
  have hparts : [.operationName start.operationName, .startTimestamp start.timestamps.1] ++ valid.map .reference ++
      [.reference reference] = ([.operationName start.operationName, .startTimestamp start.timestamps.1] ++
        (valid ++ [reference]).map .reference : List SpanPart) := by
    rw [List.map_append, ← List.append_assoc]
    rfl
  have hitems : (valid ++ [reference]).flatMap (fun reference => reference.2.baggage) =
      valid.flatMap (fun reference => reference.2.baggage) ++ reference.2.baggage := by
    rw [List.flatMap_append, List.flatMap_singleton]
  rw [hparts, ← hitems] at htold
  by_cases hfirst : st.2 + 1 = 1
  · have hst : addReference st (reference.1, .lightStep reference.2) = _ := if_pos hfirst
    have hvalid : valid = [] := List.length_eq_zero_iff.mp (by rw [← h.count]; omega)
    rw [hst]
    refine ⟨⟨htold.stream, htold.baggage, htold.isFinished, htold.recorded⟩, ?_, ?_, h.startSteady⟩
    · rw [List.length_append, ← h.count]
      rfl
    · intro reference' rest heq
      rw [hvalid, List.nil_append] at heq
      cases heq
      rfl
  · have hst : addReference st (reference.1, .lightStep reference.2) = _ := if_neg hfirst
    rw [hst]
    refine ⟨⟨htold.stream, htold.baggage, htold.isFinished, htold.recorded⟩, ?_, ?_, h.startSteady⟩
    · rw [List.length_append, ← h.count]
      rfl
    · intro reference' rest heq
      cases hvalid : valid with
      | nil =>
        rw [h.count, hvalid] at hfirst
        exact absurd rfl hfirst
      | cons first others =>
        rw [hvalid, List.cons_append] at heq
        cases heq
        exact h.traceId reference' others hvalid

theorem foldl (h : Referenced start valid st) (more : List ValidReference) :
    Referenced start (valid ++ more)
      (more.foldl (fun st reference => Span.addReference st (reference.1, .lightStep reference.2)) st) := by
  induction more generalizing valid st with
  | nil =>
    rw [List.append_nil]
    exact h
  | cons reference rest ih =>
    rw [List.append_cons]
    exact ih (h.add reference)

end Referenced

/-- What a span keeps once it is started. -/
structure Identified (start : SpanStart) (span : Span) : Prop where
  traceId : span.traceId = start.traceId
  spanId : span.spanId = start.spanId
  startSteady : span.startSteady = start.timestamps.2

theorem Referenced.generateIds {start : SpanStart} {st : Span × Nat} (h : Referenced start start.references st) :
    Told start.recorder
        ([.operationName start.operationName, .startTimestamp start.timestamps.1] ++ start.references.map .reference)
        start.baggage (generateIds start.generated st) ∧
      Identified start (generateIds start.generated st) := by
  cases hreferences : start.references with
  | nil =>
    have hcount : st.2 = 0 := by rw [h.count, hreferences]; rfl
    have hst : Span.generateIds start.generated st = _ := if_pos hcount
    rw [← hreferences, hst]
    refine ⟨⟨h.told.stream, h.told.baggage, h.told.isFinished, h.told.recorded⟩, ?_, ?_, h.startSteady⟩
    · rw [SpanStart.traceId, hreferences]
    · rw [SpanStart.spanId, hreferences]
  | cons reference rest =>
    have hcount : ¬ st.2 = 0 := by rw [h.count, hreferences]; exact Nat.succ_ne_zero _
    have hst : Span.generateIds start.generated st = _ := if_neg hcount
    rw [← hreferences, hst]
    refine ⟨⟨h.told.stream, h.told.baggage, h.told.isFinished, h.told.recorded⟩, ?_, ?_, h.startSteady⟩
    · rw [SpanStart.traceId, hreferences]
      exact h.traceId reference rest hreferences
    · rw [SpanStart.spanId, hreferences]

theorem identified_addTags {start : SpanStart} {span : Span} (h : Identified start span)
    (tags : List (List UInt8 × Value)) : Identified start (tags.foldl addTag span) := by
  induction tags generalizing span with
  | nil => exact h
  | cons tag rest ih => exact ih ⟨h.traceId, h.spanId, h.startSteady⟩

/-- **A span that is started** has been told its options, and has its ids. -/
theorem told_start (start : SpanStart) (directBuffer : List UInt8 → (n : Nat) → Option (Vector UInt8 n)) :
    Told start.recorder start.parts start.baggage (start.span directBuffer) ∧
      Identified start (start.span directBuffer) := by
  let span : Span :=
    { codedStream := writeStartTimestamp start.timestamps.1
        (writeOperationName start.operationName ⟨some start.recorder.headerSpace, directBuffer⟩)
      startSteady := start.timestamps.2, isFinished := false, traceIdHigh := 0, traceId := 0, spanId := 0
      traceFlags := 0, baggage := .empty, traceState := [], recorded := [] }
  have hstream : Holds start.recorder.headerSpace ⟨some start.recorder.headerSpace, directBuffer⟩ [] :=
    ⟨some [], .refl _, congrArg some (List.append_nil _).symm⟩
  have hempty : Referenced start [] (span, 0) :=
    { told :=
        { stream := (hstream.write (.operationName start.operationName)).write (.startTimestamp start.timestamps.1)
          baggage := rfl
          isFinished := rfl
          recorded := rfl }
      count := rfl
      traceId := fun _ _ h => nomatch h
      startSteady := rfl }
  have hreferenced := hempty.foldl start.references
  rw [List.nil_append, SpanStart.references, ← foldl_validReference addReference_none] at hreferenced
  obtain ⟨htold, hidentified⟩ := hreferenced.generateIds
  exact ⟨htold.addTags start.options.tags, identified_addTags hidentified start.options.tags⟩

/-! ### Finishing -/

theorem run_append (recorder : SpanRecorder) (span : Span) (a b : List SpanCall) :
    span.run recorder (a ++ b) = (span.run recorder a).run recorder b := List.foldl_append ..

/-- **A finished span takes no calls.** -/
theorem call_finished (recorder : SpanRecorder) {span : Span} (h : span.isFinished = true) (call : SpanCall) :
    span.call recorder call = span := by
  cases call <;> exact if_pos h

theorem run_finished (recorder : SpanRecorder) {span : Span} (h : span.isFinished = true) (calls : List SpanCall) :
    span.run recorder calls = span := by
  induction calls with
  | nil => rfl
  | cons call rest ih =>
    show (span.call recorder call).run recorder rest = span
    rw [call_finished recorder h]
    exact ih

/-- Ids and the start do not change. -/
theorem identified_call {start : SpanStart} {span : Span} (h : Identified start span) (recorder : SpanRecorder)
    (call : SpanCall) : Identified start (span.call recorder call) := by
  by_cases hfinished : span.isFinished = true
  · rw [call_finished recorder hfinished]
    exact h
  cases call with
  | setOperationName name =>
    rw [show span.call recorder (.setOperationName name) = _ from if_neg hfinished]
    exact ⟨h.traceId, h.spanId, h.startSteady⟩
  | setTag key value =>
    rw [show span.call recorder (.setTag key value) = _ from if_neg hfinished]
    exact ⟨h.traceId, h.spanId, h.startSteady⟩
  | setBaggageItem restrictedKey value =>
    rw [show span.call recorder (.setBaggageItem restrictedKey value) = _ from if_neg hfinished]
    exact ⟨h.traceId, h.spanId, h.startSteady⟩
  | log timestamp fields =>
    rw [show span.call recorder (.log timestamp fields) = _ from if_neg hfinished]
    exact ⟨h.traceId, h.spanId, h.startSteady⟩
  | finishWithOptions steadyNow options =>
    rw [show span.call recorder (.finishWithOptions steadyNow options) = _ from if_neg hfinished]
    by_cases hsampled : isTraceFlagSet sampledFlagMask span.traceFlags = false
    · rw [if_pos hsampled]
      exact ⟨h.traceId, h.spanId, h.startSteady⟩
    · rw [if_neg hsampled]
      exact ⟨h.traceId, h.spanId, h.startSteady⟩

theorem identified_run {start : SpanStart} {span : Span} (h : Identified start span) (recorder : SpanRecorder)
    (calls : List SpanCall) : Identified start (span.run recorder calls) := by
  induction calls generalizing span with
  | nil => exact h
  | cons call rest ih => exact ih (identified_call h recorder call)

theorem isFinished_finishImpl (recorder : SpanRecorder) (steadyNow : SteadyTime) (options : FinishSpanOptions)
    (span : Span) : (span.finishImpl recorder steadyNow options).isFinished = true := by
  by_cases hfinished : span.isFinished = true
  · rw [finishImpl, if_pos hfinished]
    exact hfinished
  · rw [finishImpl, if_neg hfinished]
    dsimp only
    split <;> rfl

namespace Told
variable {recorder : SpanRecorder} {parts : List SpanPart} {items : List (List UInt8 × List UInt8)} {span : Span}

theorem finish_unsampled (h : Told recorder parts items span) (steadyNow : SteadyTime) (options : FinishSpanOptions)
    (hsampled : isTraceFlagSet sampledFlagMask span.traceFlags = false) :
    (span.finishImpl recorder steadyNow options).recorded = [] := by
  rw [finishImpl, if_neg h.open_span, if_pos hsampled]
  exact h.recorded

/-- **A sampled span is recorded once**, with all its parts between the header and the footer. -/
theorem finish_sampled (h : Told recorder parts items span) (steadyNow : SteadyTime) (options : FinishSpanOptions)
    (hsampled : isTraceFlagSet sampledFlagMask span.traceFlags = true) :
    ∃ body, EqOrLong body (SpanPart.encode
        (parts ++ finishParts span.startSteady span.traceId span.spanId span.baggage.data steadyNow options)) ∧
      (span.finishImpl recorder steadyNow options).recorded =
        [⟨recorder.headerSpace.length, body.map (recorder.headerSpace ++ · ++ recorder.footer)⟩] := by
  obtain ⟨body, hbody, hstream⟩ := h.stream.foldl_write
    (finishParts span.startSteady span.traceId span.spanId span.baggage.data steadyNow options)
  refine ⟨body, hbody, ?_⟩
  have hwritten : (finishParts span.startSteady span.traceId span.spanId span.baggage.data steadyNow options).foldl
      (fun stream part => part.write stream) span.codedStream =
      writeSpanContext span.traceId span.spanId span.baggage.data (options.logRecords.foldl
        (fun codedStream logRecord => writeLog logRecord.timestamp logRecord.fields codedStream)
        (writeDuration (finishSteady steadyNow options - span.startSteady) span.codedStream)) := by
    rw [finishParts, List.foldl_append, List.foldl_append, List.foldl_map]
    rfl
  rw [hwritten] at hstream
  rw [finishImpl, if_neg h.open_span, if_neg (by rw [hsampled]; decide)]
  show span.recorded ++ [⟨recorder.headerSpace.length, Option.map₂ (· ++ ·) (CodedOutputStream.bytes _)
    (some recorder.footer)⟩] = _
  have hbytes := congrArg (Option.map₂ (· ++ ·) · (some recorder.footer)) hstream
  rw [h.recorded, List.nil_append]
  refine congrArg (fun bytes => [RecordedSpan.mk recorder.headerSpace.length bytes]) (hbytes.trans ?_)
  cases body <;> rfl

end Told

/-! ### Faithfulness -/

section
variable (start : SpanStart) (directBuffer : List UInt8 → (n : Nat) → Option (Vector UInt8 n))

/-- The span as it is first finished. -/
def atFinish (calls : List SpanCall) : Span := (start.span directBuffer).run start.recorder (beforeFinish calls)

/-- One call of `RecordSpan`, with a message between the header space and the footer. -/
def Records (calls : List SpanCall) (P : Option (List UInt8) → Prop) : Prop :=
  ∃ body, ((start.span directBuffer).run start.recorder calls).recorded =
    [⟨start.recorder.headerSpace.length, body.map (start.recorder.headerSpace ++ · ++ start.recorder.footer)⟩] ∧ P body

/-- What a serializer owes. In what it has recorded a parser finds the report, if that is not too long; and one that
checks the strings finds it too, if they are valid. -/
structure Faithful (calls : List SpanCall) : Prop where
  unfinished : firstFinish calls = none → ((start.span directBuffer).run start.recorder calls).recorded = []
  unsampled : isTraceFlagSet sampledFlagMask (atFinish start directBuffer calls).traceFlags = false →
    ((start.span directBuffer).run start.recorder calls).recorded = []
  recorded : ∀ steadyNow options, firstFinish calls = some (steadyNow, options) →
    isTraceFlagSet sampledFlagMask (atFinish start directBuffer calls).traceFlags = true →
    Records start directBuffer calls fun body =>
      (SpanPart.encode (finishedParts start directBuffer (beforeFinish calls) steadyNow options)).length < 2 ^ 31 →
        body.bind Collector.Span.parse = some (report start (beforeFinish calls) steadyNow options) ∧
          (Collector.checkMessage Collector.Span.check
              (SpanPart.encode (finishedParts start directBuffer (beforeFinish calls) steadyNow options)) = true →
            body.bind Collector.Span.unmarshal = some (report start (beforeFinish calls) steadyNow options))
  finished : (firstFinish calls).isSome = true → ∀ after,
    (start.span directBuffer).run start.recorder (calls ++ after) = (start.span directBuffer).run start.recorder calls

variable {start directBuffer}

theorem told_atFinish (start : SpanStart) (directBuffer : List UInt8 → (n : Nat) → Option (Vector UInt8 n))
    (calls : List SpanCall) :
    Told start.recorder (start.parts ++ (beforeFinish calls).filterMap SpanCall.part?)
        (start.baggage ++ (beforeFinish calls).filterMap SpanCall.baggageItem?) (atFinish start directBuffer calls) ∧
      Identified start (atFinish start directBuffer calls) :=
  ⟨(told_start start directBuffer).1.run fun _ h => isFinish_of_mem_beforeFinish h,
    identified_run (told_start start directBuffer).2 start.recorder (beforeFinish calls)⟩

/-- From the first call that finishes the span on it does not change. -/
theorem run_eq_finishImpl {calls : List SpanCall} {steadyNow : SteadyTime} {options : FinishSpanOptions}
    (h : firstFinish calls = some (steadyNow, options)) :
    (start.span directBuffer).run start.recorder calls =
      (atFinish start directBuffer calls).finishImpl start.recorder steadyNow options := by
  obtain ⟨after, hcalls⟩ := split_of_some h
  have hfinished := isFinished_finishImpl start.recorder steadyNow options (atFinish start directBuffer calls)
  calc (start.span directBuffer).run start.recorder calls
      = (start.span directBuffer).run start.recorder
          (beforeFinish calls ++ .finishWithOptions steadyNow options :: after) := congrArg _ hcalls
    _ = ((atFinish start directBuffer calls).finishImpl start.recorder steadyNow options).run start.recorder after :=
        run_append ..
    _ = (atFinish start directBuffer calls).finishImpl start.recorder steadyNow options :=
        run_finished start.recorder hfinished after

/-- What is recorded are the parts of the report, or is too long for a parser. -/
theorem records_parts {calls : List SpanCall} {steadyNow : SteadyTime} {options : FinishSpanOptions}
    (h : firstFinish calls = some (steadyNow, options))
    (hsampled : isTraceFlagSet sampledFlagMask (atFinish start directBuffer calls).traceFlags = true) :
    Records start directBuffer calls fun body =>
      EqOrLong body (SpanPart.encode (finishedParts start directBuffer (beforeFinish calls) steadyNow options)) := by
  obtain ⟨htold, hidentified⟩ := told_atFinish start directBuffer calls
  obtain ⟨body, hbody, hrecorded⟩ := htold.finish_sampled steadyNow options hsampled
  rw [hidentified.startSteady, hidentified.traceId, hidentified.spanId] at hbody
  exact ⟨body, by rw [run_eq_finishImpl h, hrecorded], hbody⟩

/-- What is short enough for a parser is parsed as the report. -/
theorem parse_finishedParts {calls : List SpanCall} {body : Option (List UInt8)} {steadyNow : SteadyTime}
    {options : FinishSpanOptions}
    (hbody : EqOrLong body (SpanPart.encode (finishedParts start directBuffer (beforeFinish calls) steadyNow options)))
    (hlength :
      (SpanPart.encode (finishedParts start directBuffer (beforeFinish calls) steadyNow options)).length < 2 ^ 31) :
    body.bind Collector.Span.parse = some (report start (beforeFinish calls) steadyNow options) := by
  obtain ⟨htold, -⟩ := told_atFinish start directBuffer calls
  rw [SpanPart.parse_eqOrLong hbody hlength]
  exact congrArg some (apply_parts start (beforeFinish calls) htold.baggage steadyNow options)

/-- So it is by a parser that checks the strings, if they are valid. -/
theorem unmarshal_finishedParts {calls : List SpanCall} {body : Option (List UInt8)} {steadyNow : SteadyTime}
    {options : FinishSpanOptions}
    (hbody : EqOrLong body (SpanPart.encode (finishedParts start directBuffer (beforeFinish calls) steadyNow options)))
    (hlength :
      (SpanPart.encode (finishedParts start directBuffer (beforeFinish calls) steadyNow options)).length < 2 ^ 31)
    (hcheck : Collector.checkMessage Collector.Span.check
      (SpanPart.encode (finishedParts start directBuffer (beforeFinish calls) steadyNow options)) = true) :
    body.bind Collector.Span.unmarshal = some (report start (beforeFinish calls) steadyNow options) := by
  have hparse := parse_finishedParts hbody hlength
  rw [hbody.eq_of_length_lt hlength, Option.bind_some] at hparse ⊢
  exact Collector.Span.unmarshal_eq_some_iff.mpr ⟨hcheck, hparse⟩

/-- **The serializer is faithful**, for every start and all sequences of calls. -/
theorem faithful (start : SpanStart) (directBuffer : List UInt8 → (n : Nat) → Option (Vector UInt8 n))
    (calls : List SpanCall) : Faithful start directBuffer calls := by
  obtain ⟨htold, -⟩ := told_atFinish start directBuffer calls
  have hunfinished : firstFinish calls = none → ((start.span directBuffer).run start.recorder calls).recorded = [] := by
    intro hnone
    have hrecorded := htold.recorded
    rwa [atFinish, beforeFinish_of_none hnone] at hrecorded
  refine ⟨hunfinished, fun hsampled => ?_, fun steadyNow options hfinish hsampled => ?_, fun hfinish after => ?_⟩
  · cases hfinish : firstFinish calls with
    | none => exact hunfinished hfinish
    | some finish =>
      rw [run_eq_finishImpl hfinish]
      exact htold.finish_unsampled finish.1 finish.2 hsampled
  · obtain ⟨body, hrecorded, hbody⟩ := records_parts hfinish hsampled
    exact ⟨body, hrecorded, fun hlength =>
      ⟨parse_finishedParts hbody hlength, unmarshal_finishedParts hbody hlength⟩⟩
  · obtain ⟨finish, hfinish⟩ := Option.isSome_iff_exists.mp hfinish
    have hspan : ((start.span directBuffer).run start.recorder calls).isFinished = true := by
      rw [run_eq_finishImpl hfinish]
      exact isFinished_finishImpl start.recorder finish.1 finish.2 _
    rw [run_append, run_finished start.recorder hspan after]

/-- Faithfulness whatever the length and the strings. -/
def Parses (start : SpanStart) (directBuffer : List UInt8 → (n : Nat) → Option (Vector UInt8 n))
    (calls : List SpanCall) : Prop :=
  ∀ steadyNow options, firstFinish calls = some (steadyNow, options) →
    isTraceFlagSet sampledFlagMask (atFinish start directBuffer calls).traceFlags = true →
    Records start directBuffer calls fun body =>
      body.bind Collector.Span.unmarshal = some (report start (beforeFinish calls) steadyNow options)

/-- Only what is short enough is parsed, and of valid strings. -/
theorem Parses.fits {calls : List SpanCall} (h : Parses start directBuffer calls) {steadyNow : SteadyTime}
    {options : FinishSpanOptions} (hfinish : firstFinish calls = some (steadyNow, options))
    (hsampled : isTraceFlagSet sampledFlagMask (atFinish start directBuffer calls).traceFlags = true) :
    (SpanPart.encode (finishedParts start directBuffer (beforeFinish calls) steadyNow options)).length < 2 ^ 31 ∧
      Collector.checkMessage Collector.Span.check
        (SpanPart.encode (finishedParts start directBuffer (beforeFinish calls) steadyNow options)) = true := by
  obtain ⟨body, hrecorded, hunmarshal⟩ := h steadyNow options hfinish hsampled
  obtain ⟨body', hrecorded', hbody⟩ := records_parts hfinish hsampled
  have heq : body = body' := by
    have hspan := congrArg RecordedSpan.span (List.singleton_inj.mp (hrecorded.symm.trans hrecorded'))
    exact Option.map_injective (fun a b hab => List.append_cancel_left (List.append_cancel_right hab)) hspan
  subst heq
  obtain ⟨bytes, rfl, hbytes⟩ := Option.bind_eq_some_iff.mp hunmarshal
  obtain ⟨hcheck, hparse⟩ := Collector.Span.unmarshal_eq_some_iff.mp hbytes
  have hlength := SpanPart.length_lt_of_parse hbody hparse
  exact ⟨hlength, Option.some.inj (hbody.eq_of_length_lt hlength) ▸ hcheck⟩

theorem length_le_encode_parts {name : List UInt8} {parts : List SpanPart} (h : .operationName name ∈ parts) :
    name.length ≤ (SpanPart.encode parts).length :=
  Nat.le_trans (length_le_encode operationNameField name) (length_le_encodeFields (List.mem_map_of_mem h))

/-- The name of a span is among what is encoded. -/
theorem operationName_length_le (calls : List SpanCall) (steadyNow : SteadyTime) (options : FinishSpanOptions) :
    start.operationName.length ≤
      (SpanPart.encode (finishedParts start directBuffer (beforeFinish calls) steadyNow options)).length := by
  have hmem : .operationName start.operationName ∈ start.parts := List.mem_cons_self ..
  exact length_le_encode_parts (List.mem_append_left
    (finishParts start.timestamps.2 start.traceId start.spanId (atFinish start directBuffer calls).baggage.data
      steadyNow options) (List.mem_append_left ((beforeFinish calls).filterMap SpanCall.part?) hmem))

end
end Span

/-! ### Names that are not parsed -/

namespace Span

/-- A name of `2 ^ 31` characters, whose size is no `int`. -/
def longName : SpanStart where
  recorder := ⟨[], [], 0, fun steadyTime => steadyTime⟩
  steadyNow := 0
  generated n := n.toUInt64
  operationName := List.replicate (2 ^ 31) 97
  options := ⟨0, 0, [], []⟩

/-- A name of one byte that is no character of UTF-8. -/
def invalidName : SpanStart := {longName with operationName := [255]}

theorem names_not_parsed :
    ¬ @Parses zeroFormat longName (fun _ _ => none) [.finishWithOptions 0 ⟨0, []⟩] ∧
      ¬ @Parses zeroFormat invalidName (fun _ _ => none) [.finishWithOptions 0 ⟨0, []⟩] := by
  let format := zeroFormat
  constructor
  · intro h
    have hsampled : isTraceFlagSet sampledFlagMask (atFinish longName (fun _ _ => none)
        [.finishWithOptions 0 ⟨0, []⟩]).traceFlags = true := by decide +kernel
    have hname : longName.operationName.length = 2 ^ 31 := List.length_replicate
    have hle : longName.operationName.length ≤ (SpanPart.encode (finishedParts longName (fun _ _ => none)
        (beforeFinish [.finishWithOptions 0 ⟨0, []⟩]) 0 ⟨0, []⟩)).length := operationName_length_le _ _ _
    have hlt := (h.fits rfl hsampled).1
    omega
  · intro h
    have hsampled : isTraceFlagSet sampledFlagMask (atFinish invalidName (fun _ _ => none)
        [.finishWithOptions 0 ⟨0, []⟩]).traceFlags = true := by decide +kernel
    have hcheck := (h.fits rfl hsampled).2
    have hinvalid : Collector.checkMessage Collector.Span.check (SpanPart.encode (finishedParts invalidName
        (fun _ _ => none) (beforeFinish [.finishWithOptions 0 ⟨0, []⟩]) 0 ⟨0, []⟩)) = false := by decide +kernel
    rw [hinvalid] at hcheck
    cases hcheck

/-- A span with a reference, whose name, tags, logs and baggage are set, also after it is finished. -/
def busyStart : SpanStart where
  recorder := ⟨[0, 0], [10], 0, fun steadyTime => steadyTime⟩
  steadyNow := 0
  generated n := n.toUInt64
  operationName := ascii "one"
  options := ⟨0, 0, [(.childOfRef, .null), (.followsFromRef, .lightStep ⟨1, 2, 3, 1, [], [(ascii "k", ascii "u")]⟩)],
    [(ascii "a", .null)]⟩

def busyCalls : List SpanCall :=
  [.setTag (ascii "b") (.values [.string (ascii "c"), .null]), .setBaggageItem (ascii "K") (ascii "v"),
    .setOperationName (ascii "two"), .log 1000000007 [(ascii "x", .int64 (-1)), (ascii "y", .dictionary [])],
    .finishWithOptions 5000 ⟨0, [⟨3, []⟩]⟩, .setOperationName (ascii "three"), .finishWithOptions 6000 ⟨0, []⟩]

theorem busySpan_recorded : @Records zeroFormat busyStart (fun _ _ => none) busyCalls fun body =>
    (@SpanPart.encode zeroFormat (@finishedParts zeroFormat busyStart (fun _ _ => none) (beforeFinish busyCalls) 5000
        ⟨0, [⟨3, []⟩]⟩)).length = 107 ∧
      body.bind Collector.Span.unmarshal =
        some (@report zeroFormat busyStart (beforeFinish busyCalls) 5000 ⟨0, [⟨3, []⟩]⟩) := by
  let format := zeroFormat
  have hsampled : isTraceFlagSet sampledFlagMask (atFinish busyStart (fun _ _ => none) busyCalls).traceFlags = true := by
    decide +kernel
  have hlength : (SpanPart.encode (finishedParts busyStart (fun _ _ => none) (beforeFinish busyCalls) 5000
      ⟨0, [⟨3, []⟩]⟩)).length = 107 := by decide +kernel
  have hcheck : Collector.checkMessage Collector.Span.check (SpanPart.encode (finishedParts busyStart (fun _ _ => none)
      (beforeFinish busyCalls) 5000 ⟨0, [⟨3, []⟩]⟩)) = true := by decide +kernel
  obtain ⟨body, hrecorded, hparse⟩ := (faithful busyStart (fun _ _ => none) busyCalls).recorded 5000 ⟨0, [⟨3, []⟩]⟩ rfl
    hsampled
  exact ⟨body, hrecorded, hlength, (hparse (by rw [hlength]; decide)).2 hcheck⟩

end Span
end Lightstep.Tracer

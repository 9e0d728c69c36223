import Lightstep.Tracer.Legacy.LegacySpan
import Lightstep.Tracer.SpanFaithful

/-! What a span that is a message has been told.

Its message is what the parts of the span make, with the context beside them. The
flags, the state and the high half of the trace id follow those of a span that is
serialized, reference by reference and tag by tag. -/
namespace Lightstep.Tracer
open Common Library TraceContext

/-- The parts of a trace context that are not in the message. -/
structure Alike (span : Span) (legacy : LegacySpan) : Prop where
  traceIdHigh : legacy.traceIdHigh = span.traceIdHigh
  traceFlags : legacy.traceFlags = span.traceFlags
  traceState : legacy.traceState = span.traceState

variable [DoubleFormat]

namespace LegacySpan

structure Told (parts : List SpanPart) (context : Collector.SpanContext) (startSteady : SteadyTime)
    (span : LegacySpan) : Prop where
  message : span.span = {parts.foldl SpanPart.apply .default with spanContext := some context}
  startSteady : span.startSteady = startSteady
  isFinished : span.isFinished = false
  recorded : span.recorded = []

namespace Told
variable {parts : List SpanPart} {context : Collector.SpanContext} {startSteady : SteadyTime} {span : LegacySpan}

theorem spanContext_eq (h : Told parts context startSteady span) : span.spanContext = context := by
  rw [spanContext, h.message]
  rfl

/-- A part that leaves the context alone. -/
theorem add (h : Told parts context startSteady span) (part : SpanPart)
    (hpart : ∀ message : Collector.Span, SpanPart.apply {message with spanContext := some context} part =
      {SpanPart.apply message part with spanContext := some context}) (traceFlags : UInt8) :
    Told (parts ++ [part]) context startSteady
      {span with span := SpanPart.apply span.span part, traceFlags := traceFlags} where
  message := by
    rw [h.message, hpart, List.foldl_append]
    rfl
  startSteady := h.startSteady
  isFinished := h.isFinished
  recorded := h.recorded

theorem setSpanContext (h : Told parts context startSteady span) (context' : Collector.SpanContext) :
    Told parts context' startSteady (span.setSpanContext context') where
  message := by
    rw [LegacySpan.setSpanContext, h.message]
  startSteady := h.startSteady
  isFinished := h.isFinished
  recorded := h.recorded

theorem addTags (h : Told parts context startSteady span) (tags : List (List UInt8 × Value)) :
    Told (parts ++ tags.map .tag) context startSteady (tags.foldl addTag span) := by
  induction tags generalizing parts span with
  | nil =>
    rw [List.map_nil, List.append_nil]
    exact h
  | cons tag rest ih =>
    rw [List.map_cons, List.append_cons]
    exact ih (h.add (.tag tag) (fun _ => rfl) (sampleTag tag.1 tag.2 span.traceFlags))

/-- **A call that does not finish the span** adds its part; baggage is only new baggage. -/
theorem call (h : Told parts context startSteady span) {call : SpanCall} (hcall : call.isFinish = false) :
    Told (parts ++ call.part?.toList)
      {context with baggage := call.baggageItem?.toList.foldl insertNew context.baggage} startSteady
      (span.call call) := by
  cases call with
  | setOperationName name => exact h.add (.operationName name) (fun _ => rfl) span.traceFlags
  | setTag key value =>
    exact h.add (.tag (key, value)) (fun _ => rfl) (sampleTag key value span.traceFlags)
  | setBaggageItem restrictedKey value =>
    have hset := h.setSpanContext {context with
      baggage := insertNew context.baggage (toLower restrictedKey, value)}
    rw [show (SpanCall.setBaggageItem restrictedKey value).part?.toList = [] from rfl, List.append_nil]
    rw [← h.spanContext_eq] at hset ⊢
    exact hset
  | log timestamp fields => exact h.add (.log ⟨timestamp, fields⟩) (fun _ => rfl) span.traceFlags
  | finishWithOptions steadyNow options => cases hcall

theorem run (h : Told parts context startSteady span) {calls : List SpanCall} (hcalls : ∀ c ∈ calls, c.isFinish = false) :
    Told (parts ++ calls.filterMap SpanCall.part?)
      {context with baggage := (calls.filterMap SpanCall.baggageItem?).foldl insertNew context.baggage} startSteady
      (span.run calls) := by
  induction calls generalizing parts context span with
  | nil =>
    rw [List.filterMap_nil, List.append_nil]
    exact h
  | cons call rest ih =>
    have hrest := ih (h.call (hcalls call (List.mem_cons_self ..))) fun c hc => hcalls c (List.mem_cons_of_mem call hc)
    rw [filterMap_cons_toList, filterMap_cons_toList, ← List.append_assoc, List.foldl_append]
    exact hrest

theorem finish_unsampled (h : Told parts context startSteady span) (steadyNow : SteadyTime)
    (options : FinishSpanOptions) (hsampled : isTraceFlagSet sampledFlagMask span.traceFlags = false) :
    (span.finishWithOptions steadyNow options).recorded = [] := by
  rw [finishWithOptions, if_neg (by rw [h.isFinished]; decide), if_pos hsampled]
  exact h.recorded

/-- **A sampled span is recorded once**, as what its parts and those of finishing make. -/
theorem finish_sampled (h : Told parts context startSteady span) (steadyNow : SteadyTime) (options : FinishSpanOptions)
    (hsampled : isTraceFlagSet sampledFlagMask span.traceFlags = true) :
    (span.finishWithOptions steadyNow options).recorded =
      [{(parts ++ ([SpanPart.duration (finishSteady steadyNow options - startSteady)] ++
        options.logRecords.map SpanPart.log)).foldl SpanPart.apply .default with spanContext := some context}] := by
  have hlogs : ∀ (records : List LogRecord) (logs : List Collector.Log),
      records.foldl (fun logs (logRecord : LogRecord) => logs ++ [toLog logRecord.timestamp logRecord.fields]) logs =
        logs ++ records.map fun record => toLog record.timestamp record.fields := by
    intro records
    induction records with
    | nil => intro logs; exact (List.append_nil logs).symm
    | cons record rest ih =>
      intro logs
      rw [List.foldl_cons, ih, List.map_cons, List.append_assoc, List.singleton_append]
  rw [finishWithOptions, if_neg (by rw [h.isFinished]; decide), if_neg (by rw [hsampled]; decide)]
  dsimp only
  rw [h.recorded, hlogs, h.message, h.startSteady, List.foldl_append, List.foldl_append, apply_logs]
  rfl

end Told

/-! ### Starting -/

/-- 0 as long as there is no reference. -/
def firstTraceId (valid : List ValidReference) : UInt64 :=
  match valid with
  | [] => 0
  | reference :: _ => reference.2.traceIdLow

/-- What the loops over the references leave after the valid ones. -/
structure Referenced (start : SpanStart) (valid : List ValidReference) (st : Span × Nat) (span : LegacySpan) :
    Prop where
  told : Told ([.operationName start.operationName, .startTimestamp start.timestamps.1] ++ valid.map .reference)
    ⟨firstTraceId valid, 0, FlatMap.insertAll (valid.flatMap fun reference => reference.2.baggage) ∅⟩
    start.timestamps.2 span
  count : st.2 = valid.length
  alike : Alike st.1 span

namespace Referenced
variable {start : SpanStart} {valid : List ValidReference} {st : Span × Nat} {span : LegacySpan}

theorem references_eq (h : Referenced start valid st span) : span.span.references = valid.map toReference := by
  rw [h.told.message, List.foldl_append, apply_references]
  exact List.nil_append _

theorem add (h : Referenced start valid st span) (reference : ValidReference) :
    Referenced start (valid ++ [reference]) (Span.addReference st (reference.1, .lightStep reference.2))
      (addReference span (reference.1, .lightStep reference.2)) := by
  have hlength : (span.span.references ++ [toReference reference]).length = st.2 + 1 := by
    rw [List.length_append, h.references_eq, List.length_map, ← h.count]
    rfl
  have hcount : st.2 + 1 = (valid ++ [reference]).length := by
    rw [List.length_append, ← h.count]
    rfl
  have hitems : FlatMap.insertAll ((valid ++ [reference]).flatMap fun reference => reference.2.baggage) ∅ =
      FlatMap.insertAll reference.2.baggage span.spanContext.baggage := by
    rw [List.flatMap_append, List.flatMap_singleton, FlatMap.insertAll_append, h.told.spanContext_eq]
  have hparts : [.operationName start.operationName, .startTimestamp start.timestamps.1] ++
      (valid ++ [reference]).map .reference = ([.operationName start.operationName, .startTimestamp start.timestamps.1] ++
        valid.map .reference ++ [.reference reference] : List SpanPart) := by
    rw [List.map_append, ← List.append_assoc]
    rfl
  have htold := (h.told.add (.reference reference) (fun _ => rfl) span.traceFlags).setSpanContext
    ⟨firstTraceId (valid ++ [reference]), 0,
      FlatMap.insertAll ((valid ++ [reference]).flatMap fun reference => reference.2.baggage) ∅⟩
  rw [← hparts] at htold
  by_cases hfirst : st.2 + 1 = 1
  · have hspan : Span.addReference st (reference.1, .lightStep reference.2) = _ := if_pos hfirst
    have hlegacy : addReference span (reference.1, .lightStep reference.2) = _ := if_pos (hlength.trans hfirst)
    have hvalid : valid = [] := List.length_eq_zero_iff.mp (by rw [← h.count]; omega)
    have hcontext : Collector.SpanContext.mk (firstTraceId (valid ++ [reference])) 0
        (FlatMap.insertAll ((valid ++ [reference]).flatMap fun reference => reference.2.baggage) ∅) =
        {span.spanContext with
          traceId := reference.2.traceIdLow
          baggage := FlatMap.insertAll reference.2.baggage span.spanContext.baggage} := by
      rw [hitems, h.told.spanContext_eq, hvalid]
      rfl
    rw [hcontext] at htold
    rw [hspan, hlegacy]
    refine ⟨?_, hcount, ⟨rfl, congrArg (· ||| reference.2.traceFlags) h.alike.traceFlags,
      congrArg (appendTraceState · reference.2.traceState) h.alike.traceState⟩⟩
    rw [hcontext]
    exact ⟨htold.message, htold.startSteady, htold.isFinished, htold.recorded⟩
  · have hspan : Span.addReference st (reference.1, .lightStep reference.2) = _ := if_neg hfirst
    have hlegacy : addReference span (reference.1, .lightStep reference.2) = _ := if_neg (hlength ▸ hfirst)
    have hcontext : Collector.SpanContext.mk (firstTraceId (valid ++ [reference])) 0
        (FlatMap.insertAll ((valid ++ [reference]).flatMap fun reference => reference.2.baggage) ∅) =
        {span.spanContext with baggage := FlatMap.insertAll reference.2.baggage span.spanContext.baggage} := by
      rw [hitems, h.told.spanContext_eq]
      cases hvalid : valid with
      | nil =>
        rw [h.count, hvalid] at hfirst
        exact absurd rfl hfirst
      | cons first others => rfl
    rw [hcontext] at htold
    rw [hspan, hlegacy]
    refine ⟨?_, hcount, ⟨h.alike.traceIdHigh, congrArg (· ||| reference.2.traceFlags) h.alike.traceFlags,
      congrArg (appendTraceState · reference.2.traceState) h.alike.traceState⟩⟩
    rw [hcontext]
    exact ⟨htold.message, htold.startSteady, htold.isFinished, htold.recorded⟩

theorem foldl (h : Referenced start valid st span) (more : List ValidReference) :
    Referenced start (valid ++ more)
      (more.foldl (fun st reference => Span.addReference st (reference.1, .lightStep reference.2)) st)
      (more.foldl (fun span reference => addReference span (reference.1, .lightStep reference.2)) span) := by
  induction more generalizing valid st span with
  | nil =>
    rw [List.append_nil]
    exact h
  | cons reference rest ih =>
    rw [List.append_cons]
    exact ih (h.add reference)

end Referenced

omit [DoubleFormat] in
theorem addReference_none (span : LegacySpan) (reference : SpanReference) (h : validReference reference = none) :
    addReference span reference = span := by
  obtain ⟨referenceType, context⟩ := reference
  cases context with
  | null => rfl
  | foreign => rfl
  | lightStep context => cases h

omit [DoubleFormat] in
/-- What comes after the loop and before the tags. -/
def sampleUnreferenced (span : LegacySpan) : LegacySpan :=
  if span.span.references = [] then {span with traceFlags := setTraceFlag sampledFlagMask span.traceFlags true} else span

/-- It makes no difference that the ids come after the tags. -/
theorem generateIds_addTags (generated : Nat → UInt64) (span : LegacySpan) (tags : List (List UInt8 × Value)) :
    generateIds generated (tags.foldl addTag span) = tags.foldl addTag (generateIds generated span) := by
  induction tags generalizing span with
  | nil => rfl
  | cons tag rest ih =>
    have hcomm : generateIds generated (addTag span tag) = addTag (generateIds generated span) tag := by
      by_cases hnone : span.span.references = []
      · rw [show generateIds generated (addTag span tag) = _ from if_pos hnone,
          show generateIds generated span = _ from if_pos hnone]
        rfl
      · rw [show generateIds generated (addTag span tag) = _ from if_neg hnone,
          show generateIds generated span = _ from if_neg hnone]
        rfl
    rw [List.foldl_cons, ih, hcomm, List.foldl_cons]

theorem Referenced.generateIds {start : SpanStart} {st : Span × Nat} {span : LegacySpan}
    (h : Referenced start start.references st span) :
    Told ([.operationName start.operationName, .startTimestamp start.timestamps.1] ++ start.references.map .reference)
        ⟨start.traceId, start.spanId, FlatMap.insertAll start.baggage ∅⟩ start.timestamps.2
        (generateIds start.generated span.sampleUnreferenced) ∧
      Alike (Span.generateIds start.generated st) (generateIds start.generated span.sampleUnreferenced) := by
  have hcontext := h.told.spanContext_eq
  cases hreferences : start.references with
  | nil =>
    have hcount : st.2 = 0 := by rw [h.count, hreferences]; rfl
    have hnone : span.span.references = [] := by rw [h.references_eq, hreferences]; rfl
    have hids : Collector.SpanContext.mk start.traceId start.spanId (FlatMap.insertAll start.baggage ∅) =
        {span.spanContext with traceId := start.generated 0, spanId := start.generated 1} := by
      rw [hcontext, SpanStart.traceId, SpanStart.spanId, SpanStart.baggage, hreferences]
    have htold := h.told.setSpanContext
      {span.spanContext with traceId := start.generated 0, spanId := start.generated 1}
    rw [sampleUnreferenced, if_pos hnone, LegacySpan.generateIds, if_pos (by exact hnone), Span.generateIds,
      if_pos hcount, hids, ← hreferences]
    exact ⟨⟨htold.message, htold.startSteady, htold.isFinished, htold.recorded⟩,
      ⟨rfl, congrArg (setTraceFlag sampledFlagMask · true) h.alike.traceFlags, h.alike.traceState⟩⟩
  | cons reference rest =>
    have hcount : ¬ st.2 = 0 := by rw [h.count, hreferences]; exact Nat.succ_ne_zero _
    have hsome : ¬ span.span.references = [] := by rw [h.references_eq, hreferences]; exact List.cons_ne_nil _ _
    have hids : Collector.SpanContext.mk start.traceId start.spanId (FlatMap.insertAll start.baggage ∅) =
        {span.spanContext with spanId := start.generated 0} := by
      rw [hcontext, SpanStart.traceId, SpanStart.spanId, SpanStart.baggage, hreferences]
      rfl
    have htold := h.told.setSpanContext {span.spanContext with spanId := start.generated 0}
    rw [sampleUnreferenced, if_neg hsome, LegacySpan.generateIds, if_neg hsome, Span.generateIds, if_neg hcount, hids,
      ← hreferences]
    exact ⟨htold, ⟨h.alike.traceIdHigh, h.alike.traceFlags, h.alike.traceState⟩⟩

/-- **A span that is started** has been told its options and is like one that is serialized. -/
theorem told_start (start : SpanStart) (directBuffer : List UInt8 → (n : Nat) → Option (Vector UInt8 n)) :
    Told start.parts ⟨start.traceId, start.spanId, FlatMap.insertAll start.baggage ∅⟩ start.timestamps.2
        start.legacySpan ∧
      Alike (start.span directBuffer) start.legacySpan := by
  let span : Span :=
    { codedStream := writeStartTimestamp start.timestamps.1
        (writeOperationName start.operationName ⟨start.recorder.headerSpace, directBuffer⟩)
      startSteady := start.timestamps.2, isFinished := false, traceIdHigh := 0, traceId := 0, spanId := 0
      traceFlags := 0, baggage := .empty, traceState := [], recorded := [] }
  let legacy : LegacySpan :=
    { span := {Collector.Span.default with
        operationName := start.operationName
        spanContext := some .default
        startTimestamp := some (toTimestamp start.timestamps.1)}
      traceIdHigh := 0, traceFlags := 0, traceState := [], startSteady := start.timestamps.2, isFinished := false
      recorded := [] }
  have hempty : Referenced start [] (span, 0) legacy := ⟨⟨rfl, rfl, rfl, rfl⟩, rfl, ⟨rfl, rfl, rfl⟩⟩
  have hreferenced := hempty.foldl start.references
  rw [List.nil_append, SpanStart.references, ← foldl_validReference Span.addReference_none,
    ← foldl_validReference addReference_none] at hreferenced
  obtain ⟨htold, halike⟩ := hreferenced.generateIds
  have hlegacy : start.legacySpan = start.options.tags.foldl addTag
      (LegacySpan.generateIds start.generated (start.options.references.foldl addReference legacy).sampleUnreferenced) :=
    generateIds_addTags start.generated _ start.options.tags
  rw [hlegacy]
  refine ⟨htold.addTags start.options.tags, ?_⟩
  exact List.foldl_rel halike fun tag _ span legacy h =>
    ⟨h.traceIdHigh, congrArg (sampleTag tag.1 tag.2) h.traceFlags, h.traceState⟩

end LegacySpan

/-! ### Calls -/

/-- **A call that does not finish them** keeps two spans alike. -/
theorem Alike.call {span : Span} {legacy : LegacySpan} (h : Alike span legacy) (recorder : SpanRecorder)
    (hopen : ¬ span.isFinished = true) {call : SpanCall} (hcall : call.isFinish = false) :
    Alike (span.call recorder call) (legacy.call call) := by
  cases call with
  | setOperationName name =>
    rw [show span.call recorder (.setOperationName name) = _ from if_neg hopen]
    exact ⟨h.traceIdHigh, h.traceFlags, h.traceState⟩
  | setTag key value =>
    rw [show span.call recorder (.setTag key value) = _ from if_neg hopen]
    exact ⟨h.traceIdHigh, congrArg (sampleTag key value) h.traceFlags, h.traceState⟩
  | setBaggageItem restrictedKey value =>
    rw [show span.call recorder (.setBaggageItem restrictedKey value) = _ from if_neg hopen]
    exact ⟨h.traceIdHigh, h.traceFlags, h.traceState⟩
  | log timestamp fields =>
    rw [show span.call recorder (.log timestamp fields) = _ from if_neg hopen]
    exact ⟨h.traceIdHigh, h.traceFlags, h.traceState⟩
  | finishWithOptions steadyNow options => cases hcall

theorem Alike.run {span : Span} {legacy : LegacySpan} (h : Alike span legacy) {recorder : SpanRecorder}
    {parts : List SpanPart} {items : List (List UInt8 × List UInt8)} (htold : Span.Told recorder parts items span)
    {calls : List SpanCall} (hcalls : ∀ c ∈ calls, c.isFinish = false) :
    Alike (span.run recorder calls) (legacy.run calls) := by
  induction calls generalizing span legacy parts items with
  | nil => exact h
  | cons call rest ih =>
    have hcall := hcalls call (List.mem_cons_self ..)
    exact ih (h.call recorder htold.open_span hcall) (htold.call hcall) fun c hc => hcalls c (List.mem_cons_of_mem call hc)

end Lightstep.Tracer

import Mathlib.Data.Finset.Sort
import Lightstep.Library.Machine
import Lightstep.Tracer.Propagation.BinaryCarrier
import Lightstep.Tracer.SpanContexts

/-! Traces.

A span is started from what arrives of the context of another, in the same process or behind any
number of legs. Over any number of such hops the spans make one trace: every span is reported as
one that refers to the span it was started from. -/
namespace Lightstep.Tracer
open Common Library TraceContext

/-- A span started from the context of another, and the calls on it until its own context is used. -/
structure Hop where
  legs : List Leg
  referenceType : SpanReferenceType
  start : SpanStart
  directBuffer : List UInt8 → (n : Nat) → Option (Vector UInt8 n)
  calls : List SpanCall

namespace Hop

/-- The start has one reference, which is null where no context arrives. -/
def started (hop : Hop) (context : Option LightStepSpanContext) : SpanStart :=
  {hop.start with
    options := {hop.start.options with references := [(hop.referenceType, context.elim .null .lightStep)]}}

def next [DoubleFormat] (hop : Hop) (parent : Span) : Option Span :=
  match crossAll hop.legs parent.context with
  | .error _ => none
  | .ok context => some (((hop.started context).span hop.directBuffer).run hop.start.recorder hop.calls)

/-- The calls that come before the span is finished. -/
def told (hop : Hop) : List SpanCall := beforeFinish hop.calls

end Hop

/-- The last sampling priority among tags. -/
def samplingPriority (tags : List (List UInt8 × Value)) : Option Bool :=
  (tags.filterMap fun tag => if tag.1 = samplingPriorityKey then some (isSampled tag.2) else none).getLast?

def Hop.samplingPriority (hop : Hop) : Option Bool :=
  Tracer.samplingPriority (hop.start.options.tags ++ hop.told.filterMap SpanCall.tag?)

def Span.sampled (span : Span) : Bool := isTraceFlagSet sampledFlagMask span.traceFlags

/-! ### Calls and what they leave alone -/

theorem sampled_sampleTag (key : List UInt8) (value : Value) (traceFlags : UInt8) :
    isTraceFlagSet sampledFlagMask (sampleTag key value traceFlags) =
      if key = samplingPriorityKey then isSampled value else isTraceFlagSet sampledFlagMask traceFlags := by
  unfold sampleTag
  split
  · exact isTraceFlagSet_setTraceFlag traceFlags (isSampled value)
  · rfl

theorem getD_samplingPriority_cons (tag : List UInt8 × Value) (rest : List (List UInt8 × Value)) (sampled : Bool) :
    (samplingPriority (tag :: rest)).getD sampled =
      (samplingPriority rest).getD (if tag.1 = samplingPriorityKey then isSampled tag.2 else sampled) := by
  unfold samplingPriority
  by_cases h : tag.1 = samplingPriorityKey <;> simp [h, List.getLast?_cons]

theorem getD_samplingPriority_append (a b : List (List UInt8 × Value)) (sampled : Bool) :
    (samplingPriority (a ++ b)).getD sampled = (samplingPriority b).getD ((samplingPriority a).getD sampled) := by
  induction a generalizing sampled with
  | nil => rfl
  | cons tag rest ih => rw [List.cons_append, getD_samplingPriority_cons, ih, getD_samplingPriority_cons]

namespace Span
variable [DoubleFormat]

/-- What no tag and no call changes. -/
structure Kept (span span' : Span) : Prop where
  traceIdHigh : span'.traceIdHigh = span.traceIdHigh
  traceState : span'.traceState = span.traceState

omit [DoubleFormat] in
theorem Kept.trans {span span₁ span₂ : Span} (h₁ : Kept span span₁) (h₂ : Kept span₁ span₂) : Kept span span₂ :=
  ⟨h₂.traceIdHigh.trans h₁.traceIdHigh, h₂.traceState.trans h₁.traceState⟩

theorem kept_call (recorder : SpanRecorder) (span : Span) (call : SpanCall) : Kept span (span.call recorder call) := by
  cases call with
  | finishWithOptions steadyNow options =>
    simp only [Span.call, finishImpl]
    split
    · exact ⟨rfl, rfl⟩
    · split <;> exact ⟨rfl, rfl⟩
  | setOperationName =>
    simp only [Span.call, Span.setOperationName]
    split <;> exact ⟨rfl, rfl⟩
  | setTag =>
    simp only [Span.call, Span.setTag]
    split <;> exact ⟨rfl, rfl⟩
  | setBaggageItem =>
    simp only [Span.call, Span.setBaggageItem]
    split <;> exact ⟨rfl, rfl⟩
  | log =>
    simp only [Span.call, Span.log]
    split <;> exact ⟨rfl, rfl⟩

theorem kept_run (recorder : SpanRecorder) (span : Span) (calls : List SpanCall) : Kept span (span.run recorder calls) := by
  induction calls generalizing span with
  | nil => exact ⟨rfl, rfl⟩
  | cons call rest ih => exact (kept_call recorder span call).trans (ih _)

theorem kept_addTags (tags : List (List UInt8 × Value)) (span : Span) : Kept span (tags.foldl addTag span) := by
  induction tags generalizing span with
  | nil => exact ⟨rfl, rfl⟩
  | cons tag rest ih => exact (show Kept span (addTag span tag) from ⟨rfl, rfl⟩).trans (ih _)

theorem sampled_addTag (span : Span) (tag : List UInt8 × Value) :
    (addTag span tag).sampled = if tag.1 = samplingPriorityKey then isSampled tag.2 else span.sampled :=
  sampled_sampleTag tag.1 tag.2 span.traceFlags

theorem sampled_addTags (tags : List (List UInt8 × Value)) (span : Span) :
    (tags.foldl addTag span).sampled = (samplingPriority tags).getD span.sampled := by
  induction tags generalizing span with
  | nil => rfl
  | cons tag rest ih =>
    rw [List.foldl_cons, ih, getD_samplingPriority_cons, sampled_addTag]

theorem sampled_finishImpl (recorder : SpanRecorder) (steadyNow : SteadyTime) (options : FinishSpanOptions)
    (span : Span) : (span.finishImpl recorder steadyNow options).sampled = span.sampled := by
  unfold finishImpl
  split
  · rfl
  · dsimp only
    split <;> rfl

/-- The last sampling priority that is set before the span is finished decides. -/
theorem sampled_run (recorder : SpanRecorder) {span : Span} (h : span.isFinished = false) (calls : List SpanCall) :
    (span.run recorder calls).sampled =
      (samplingPriority ((beforeFinish calls).filterMap SpanCall.tag?)).getD span.sampled := by
  have hopen : ¬ span.isFinished = true := by simp [h]
  induction calls generalizing span with
  | nil => rfl
  | cons call rest ih =>
    show ((span.call recorder call).run recorder rest).sampled = _
    cases call with
    | finishWithOptions steadyNow options =>
      have hcall : span.call recorder (.finishWithOptions steadyNow options) =
          span.finishImpl recorder steadyNow options := rfl
      rw [hcall, run_finished recorder (isFinished_finishImpl recorder steadyNow options span)]
      exact sampled_finishImpl recorder steadyNow options span
    | setTag key value =>
      have hcall : span.call recorder (.setTag key value) = addTag span (key, value) := if_neg hopen
      rw [hcall, @ih (addTag span (key, value)) h hopen]
      show _ = (samplingPriority ((key, value) :: (beforeFinish rest).filterMap SpanCall.tag?)).getD _
      rw [getD_samplingPriority_cons, sampled_addTag]
    | setOperationName name =>
      rw [show span.call recorder (.setOperationName name) = _ from if_neg hopen]
      exact ih h hopen
    | setBaggageItem restrictedKey value =>
      rw [show span.call recorder (.setBaggageItem restrictedKey value) = _ from if_neg hopen]
      exact ih h hopen
    | log timestamp fields =>
      rw [show span.call recorder (.log timestamp fields) = _ from if_neg hopen]
      exact ih h hopen

/-- A span started from one context, before it has tags. -/
theorem start_eq (start : SpanStart) (directBuffer : List UInt8 → (n : Nat) → Option (Vector UInt8 n))
    {referenceType : SpanReferenceType} {c : LightStepSpanContext}
    (h : start.options.references = [(referenceType, .lightStep c)]) :
    ∃ span : Span, start.span directBuffer = start.options.tags.foldl addTag span ∧ span.sampled = c.sampled ∧
      span.traceIdHigh = c.traceIdHigh ∧ span.traceState = c.traceState ∧ span.isFinished = false := by
  let opened : Span :=
    { codedStream := writeStartTimestamp start.timestamps.1
        (writeOperationName start.operationName ⟨some start.recorder.headerSpace, directBuffer⟩)
      startSteady := start.timestamps.2, isFinished := false, traceIdHigh := 0, traceId := 0, spanId := 0
      traceFlags := 0, baggage := .empty, traceState := [], recorded := [] }
  have hspan : start.span directBuffer = start.options.tags.foldl addTag
      (generateIds start.generated ([(referenceType, .lightStep c)].foldl addReference (opened, 0))) := by
    rw [← h]
    rfl
  have hflags : (0 : UInt8) ||| c.traceFlags = c.traceFlags := UInt8.zero_or
  refine ⟨_, hspan, ?_, rfl, rfl, rfl⟩
  show isTraceFlagSet sampledFlagMask (0 ||| c.traceFlags) = c.sampled
  rw [hflags]
  rfl

end Span

/-! ### One trace -/

/-- What a span started from the context of `parent` is to write, finished after `calls`. -/
def Hop.message [DoubleFormat] (parent : Span) (hop : Hop) (calls : List SpanCall) (steadyNow : SteadyTime)
    (options : FinishSpanOptions) : List UInt8 :=
  SpanPart.encode (finishedParts (hop.started (some parent.context)) hop.directBuffer calls steadyNow options)

/-- A span that goes on with the trace of the one it was started from. -/
structure Continues [DoubleFormat] (parent : Span) (hop : Hop) (child : Span) : Prop where
  traceId : child.traceId = parent.traceId
  traceIdHigh : child.traceIdHigh =
    if hop.legs.all fun leg => leg.options.firstMode.supports128bit then parent.traceIdHigh else 0
  spanId : child.spanId = hop.start.generated 0
  sampled : child.sampled = hop.samplingPriority.getD parent.sampled
  traceState : (∀ leg ∈ hop.legs, leg.options.firstMode = .traceContext) → child.traceState = parent.traceState
  baggage : child.baggage.toFinmap =
    FlatMap.insertAll (hop.told.filterMap SpanCall.baggageItem?) parent.baggage.toFinmap
  /-- Whatever else is called, what is reported refers to the parent. -/
  reported : ∀ later recordedSpan, recordedSpan ∈ (child.run hop.start.recorder later).recorded →
    ∃ (body : Option (List UInt8)) (steadyNow : SteadyTime) (options : FinishSpanOptions),
      firstFinish (hop.calls ++ later) = some (steadyNow, options) ∧
      recordedSpan.span = body.map (hop.start.recorder.headerSpace ++ · ++ hop.start.recorder.footer) ∧
      ((hop.message parent (beforeFinish (hop.calls ++ later)) steadyNow options).length < 2 ^ 31 → ∃ span,
        body.bind Collector.Span.parse = some span ∧
        span.references = [⟨(toRelationship hop.referenceType).toInt32, some ⟨parent.traceId, parent.spanId, ∅⟩⟩] ∧
        span.spanContext = some ⟨parent.traceId, child.spanId, FlatMap.insertAll
          ((beforeFinish (hop.calls ++ later)).filterMap SpanCall.baggageItem?) parent.baggage.toFinmap⟩)

/-- What a hop is promised: its legs are sound and encode the context, and no baggage has an empty key. -/
structure Hop.Sound (parent : Span) (hop : Hop) : Prop where
  legs : ∀ leg ∈ hop.legs, leg.Sound
  encodes : ∀ leg ∈ hop.legs, leg.Encodes parent.context
  keys : ∀ key value, .setBaggageItem key value ∈ hop.calls → key ≠ []

/-- Whatever is recorded parses to the report of the span, if that is short enough. -/
theorem Span.parse_recorded [DoubleFormat] (start : SpanStart)
    (directBuffer : List UInt8 → (n : Nat) → Option (Vector UInt8 n)) (calls : List SpanCall)
    {recordedSpan : RecordedSpan} (h : recordedSpan ∈ ((start.span directBuffer).run start.recorder calls).recorded) :
    ∃ (body : Option (List UInt8)) (steadyNow : SteadyTime) (options : FinishSpanOptions),
      firstFinish calls = some (steadyNow, options) ∧
      recordedSpan.span = body.map (start.recorder.headerSpace ++ · ++ start.recorder.footer) ∧
      ((SpanPart.encode (finishedParts start directBuffer (beforeFinish calls) steadyNow options)).length < 2 ^ 31 →
        body.bind Collector.Span.parse = some (report start (beforeFinish calls) steadyNow options)) := by
  obtain ⟨htold, -⟩ := told_atFinish start directBuffer calls
  cases hfinish : firstFinish calls with
  | none =>
    have hrecorded := htold.recorded
    rw [atFinish, beforeFinish_of_none hfinish] at hrecorded
    rw [hrecorded] at h
    cases h
  | some finish =>
    cases hsampled : isTraceFlagSet sampledFlagMask (atFinish start directBuffer calls).traceFlags with
    | false =>
      rw [run_eq_finishImpl hfinish, htold.finish_unsampled finish.1 finish.2 hsampled] at h
      cases h
    | true =>
      obtain ⟨body, hrecorded, hbody⟩ := records_parts hfinish hsampled
      rw [hrecorded, List.mem_singleton] at h
      subst h
      exact ⟨body, finish.1, finish.2, rfl, rfl, parse_finishedParts hbody⟩

namespace Hop
variable [DoubleFormat] {hop : Hop} {parent child : Span}

omit [DoubleFormat] in
/-- The baggage of a context that has come by the legs is inherited as that of the parent. -/
theorem insertAll_started {c : LightStepSpanContext} (hperm : c.baggage.Perm parent.context.baggage)
    (hnodup : (c.baggage.map Prod.fst).Nodup) (items : List (List UInt8 × List UInt8)) :
    FlatMap.insertAll ((hop.started (some c)).baggage ++ items) ∅ =
      FlatMap.insertAll items parent.baggage.toFinmap := by
  have hinherited : FlatMap.insertAll c.baggage ∅ = parent.baggage.toFinmap :=
    FlatMap.insertAll_perm hperm hnodup ∅
  rw [← hinherited, FlatMap.insertAll_append]
  show FlatMap.insertAll items (FlatMap.insertAll (c.baggage ++ []) ∅) = _
  rw [List.append_nil]

/-- Which way a context has come makes no difference to what is written. -/
theorem encode_finishedParts_started {c : LightStepSpanContext} (h : Arrived hop.legs parent.context c)
    (hparent : Propagatable parent.baggage.data) (calls : List SpanCall) (steadyNow : SteadyTime)
    (options : FinishSpanOptions) :
    SpanPart.encode (finishedParts (hop.started (some c)) hop.directBuffer (beforeFinish calls) steadyNow options) =
      hop.message parent (beforeFinish calls) steadyNow options := by
  have hbaggage : (Span.atFinish (hop.started (some c)) hop.directBuffer calls).baggage =
      (Span.atFinish (hop.started (some parent.context)) hop.directBuffer calls).baggage := by
    apply FlatMap.eq_of_toFinmap
    rw [(Span.told_atFinish _ _ calls).1.baggage, (Span.told_atFinish _ _ calls).1.baggage,
      insertAll_started h.baggage h.propagatable.nodup, insertAll_started (.refl _) hparent.nodup]
  have hfields : ∀ context : LightStepSpanContext, SpanPart.encode (finishedParts (hop.started (some context))
      hop.directBuffer (beforeFinish calls) steadyNow options) = SpanPart.encode
        ([.operationName hop.start.operationName, .startTimestamp hop.start.timestamps.1,
          .reference (hop.referenceType, ⟨0, context.traceIdLow, context.spanId, 0, [], []⟩)] ++
        hop.start.options.tags.map .tag ++ (beforeFinish calls).filterMap SpanCall.part? ++
        finishParts hop.start.timestamps.2 context.traceIdLow (hop.start.generated 0)
          (Span.atFinish (hop.started (some context)) hop.directBuffer calls).baggage.data steadyNow options) :=
    fun _ => rfl
  rw [hfields, h.traceIdLow, h.spanId, hbaggage, ← hfields]
  rfl

theorem continues_of_arrived {c : LightStepSpanContext} (h : Arrived hop.legs parent.context c)
    (hparent : Propagatable parent.baggage.data) :
    Continues parent hop (((hop.started (some c)).span hop.directBuffer).run hop.start.recorder hop.calls) := by
  obtain ⟨htold, hidentified⟩ := Span.told_start (hop.started (some c)) hop.directBuffer
  obtain ⟨span, hspan, hsampled, hhigh, hstate, -⟩ := Span.start_eq (hop.started (some c)) hop.directBuffer rfl
  have hids := Span.identified_run hidentified hop.start.recorder hop.calls
  have hkept := (Span.kept_addTags (hop.started (some c)).options.tags span).trans
    (Span.kept_run hop.start.recorder _ hop.calls)
  have hbaggage : ∀ items, FlatMap.insertAll ((hop.started (some c)).baggage ++ items) ∅ =
      FlatMap.insertAll items parent.baggage.toFinmap := insertAll_started h.baggage h.propagatable.nodup
  refine ⟨hids.traceId.trans h.traceIdLow, ?_, hids.spanId, ?_, fun htrace => ?_, ?_, fun later recordedSpan hmem => ?_⟩
  · rw [hspan, hkept.traceIdHigh, hhigh]
    exact h.traceIdHigh
  · rw [Span.sampled_run hop.start.recorder htold.isFinished, hspan, Span.sampled_addTags, hsampled, h.sampled]
    exact (getD_samplingPriority_append ..).symm
  · rw [hspan, hkept.traceState, hstate]
    exact h.traceState htrace
  · have htold := (Span.told_atFinish (hop.started (some c)) hop.directBuffer hop.calls).1.baggage
    rw [← Span.baggage_run, hbaggage] at htold
    exact htold
  · rw [← Span.run_append] at hmem
    obtain ⟨body, steadyNow, options, hfinish, hrecorded, hparse⟩ := Span.parse_recorded (hop.started (some c)) _ _ hmem
    rw [encode_finishedParts_started h hparent] at hparse
    refine ⟨body, steadyNow, options, hfinish, hrecorded, fun hlength => ⟨_, hparse hlength, ?_, ?_⟩⟩
    · show [toReference (hop.referenceType, c)] = _
      rw [toReference, h.traceIdLow, h.spanId]
      rfl
    · show some (Collector.SpanContext.mk c.traceIdLow _ _) = _
      rw [h.traceIdLow, hids.spanId, hbaggage]
      rfl

/-- The baggage of a span that goes on can be propagated. -/
theorem propagatable_of_continues (hparent : Propagatable parent.baggage.data)
    (hkeys : ∀ key value, .setBaggageItem key value ∈ hop.calls → key ≠ []) (h : Continues parent hop child) :
    Propagatable child.baggage.data := by
  have horigin : ∀ item ∈ child.baggage.data, (∃ key value, .setBaggageItem key value ∈ hop.calls ∧ toLower key = item.1) ∨
      item.1 ∈ parent.baggage.data.map Prod.fst := by
    intro item hitem
    have hmem := (FlatMap.mem_keys_iff item.1 child.baggage).mp (List.mem_map_of_mem hitem)
    rw [h.baggage, FlatMap.mem_insertAll] at hmem
    obtain ⟨set, hset, hkey⟩ | hmem := hmem
    · obtain ⟨call, hcall, heq⟩ := List.mem_filterMap.mp hset
      have hcall : call ∈ hop.calls := (List.takeWhile_prefix _).subset hcall
      cases call with
      | setBaggageItem key value =>
        cases heq
        exact .inl ⟨key, value, hcall, hkey⟩
      | _ => cases heq
    · exact .inr ((FlatMap.mem_keys_iff item.1 parent.baggage).mpr hmem)
  refine ⟨FlatMap.nodup_keys _, fun item hitem => ?_, fun item hitem => ?_⟩
  · obtain ⟨key, value, hcall, hkey⟩ | hmem := horigin item hitem
    · rw [← hkey]
      simpa [toLower] using hkeys key value hcall
    · obtain ⟨inherited, hinherited, heq⟩ := List.mem_map.mp hmem
      exact heq ▸ hparent.nonempty inherited hinherited
  · obtain ⟨key, value, -, hkey⟩ | hmem := horigin item hitem
    · rw [← hkey, toLower_toLower]
    · obtain ⟨inherited, hinherited, heq⟩ := List.mem_map.mp hmem
      exact heq ▸ hparent.lower inherited hinherited

/-- **Every hop goes on with the trace.** -/
theorem Sound.next (h : hop.Sound parent) (hparent : Propagatable parent.baggage.data) :
    ∃ child, hop.next parent = some child ∧ Continues parent hop child ∧ Propagatable child.baggage.data := by
  obtain ⟨c, hcross, harrived⟩ := crossAll_arrived h.legs hparent h.encodes
  have hcontinues := continues_of_arrived harrived hparent
  refine ⟨_, ?_, hcontinues, propagatable_of_continues hparent h.keys hcontinues⟩
  unfold Hop.next
  rw [hcross]

def machine : Machine Span Hop := ⟨fun parent hop => hop.next parent⟩

/-- What a whole trace keeps. -/
theorem run_keeps {hops : List Hop} {root last : Span} (hroot : Propagatable root.baggage.data)
    (hsound : machine.Guarded Hop.Sound root hops) (hrun : machine.run root hops = some last) :
    Propagatable last.baggage.data ∧ last.traceId = root.traceId ∧
      ((∀ hop ∈ hops, hop.samplingPriority = none) → last.sampled = root.sampled) := by
  induction hops generalizing root with
  | nil =>
    cases hrun
    exact ⟨hroot, rfl, fun _ => rfl⟩
  | cons hop rest ih =>
    obtain ⟨span, hstep, hrest⟩ := machine.run_cons.mp hrun
    obtain ⟨child, hnext, hcontinues, hchild⟩ := hsound.1.next hroot
    rw [show hop.next root = some span from hstep] at hnext
    cases hnext
    obtain ⟨hlast, htraceId, hsampled⟩ := ih hchild (hsound.2 span hstep) hrest
    refine ⟨hlast, htraceId.trans hcontinues.traceId, fun hnone => ?_⟩
    rw [hsampled fun other hother => hnone other (List.mem_cons_of_mem hop hother), hcontinues.sampled,
      hnone hop (List.mem_cons_self ..)]
    rfl

/-- **Over any number of hops the spans make one trace**: every hop gets through and starts a span
that goes on from the one before it, all with the trace id of the root, and sampled as the root is
where no tag says otherwise. -/
theorem traces_continue {hops : List Hop} {root : Span} (hroot : Propagatable root.baggage.data)
    (hsound : machine.Guarded Hop.Sound root hops) :
    (∃ last, machine.run root hops = some last) ∧
      ∀ before hop after, hops = before ++ hop :: after → ∃ parent child,
        machine.run root before = some parent ∧ machine.run root (before ++ [hop]) = some child ∧
          Continues parent hop child ∧ child.traceId = root.traceId ∧
          ((∀ other ∈ before ++ [hop], other.samplingPriority = none) → child.sampled = root.sampled) := by
  have hexists : ∀ {hops : List Hop}, machine.Guarded Hop.Sound root hops → ∃ last, machine.run root hops = some last := by
    intro hops hsound
    obtain ⟨last, hrun, -⟩ := machine.guarded_run_exists (I := fun span => Propagatable span.baggage.data)
      (fun parent hop hparent hhop => by
        obtain ⟨child, hnext, -, hchild⟩ := hhop.next hparent
        exact ⟨child, hnext, hchild⟩) hroot hsound
    exact ⟨last, hrun⟩
  refine ⟨hexists hsound, ?_⟩
  rintro before hop after rfl
  have hbefore := machine.guarded_append_left hsound
  obtain ⟨parent, hparent⟩ := hexists hbefore
  have hhop := (machine.guarded_append_right hsound hparent).1
  obtain ⟨child, hnext, hcontinues, -⟩ := hhop.next (run_keeps hroot hbefore hparent).1
  have hrun : machine.run root (before ++ [hop]) = some child := machine.run_snoc hparent hnext
  have hpath : machine.Guarded Hop.Sound root (before ++ [hop]) := by
    rw [List.append_cons] at hsound
    exact machine.guarded_append_left hsound
  obtain ⟨-, htraceId, hsampled⟩ := run_keeps hroot hpath hrun
  exact ⟨parent, child, hparent, hrun, hcontinues, htraceId, hsampled⟩

end Hop

/-! ### A trace -/

namespace Hop

/-- A map whose items come in the order of their keys. -/
def sortedItems (baggage : BaggageProtobufMap) : List (List UInt8 × List UInt8) :=
  (baggage.keys.sort (· ≤ ·)).filterMap fun key => (baggage.lookup key).map (key, ·)

theorem mem_sortedItems (baggage : BaggageProtobufMap) (key value : List UInt8) :
    (key, value) ∈ sortedItems baggage ↔ baggage.lookup key = some value := by
  have hkey : baggage.lookup key = some value → key ∈ baggage.keys := fun hlookup =>
    Finmap.mem_keys.mpr (Finmap.mem_of_lookup_eq_some hlookup)
  simp only [sortedItems, List.mem_filterMap, Finset.mem_sort, Option.map_eq_some_iff, Prod.mk.injEq]
  constructor
  · rintro ⟨other, -, found, hfound, rfl, rfl⟩
    exact hfound
  · exact fun hlookup => ⟨key, hkey hlookup, value, hlookup, rfl, rfl⟩

theorem nodup_sortedItems (baggage : BaggageProtobufMap) : ((sortedItems baggage).map Prod.fst).Nodup := by
  refine List.Nodup.sublist ?_ (Finset.sort_nodup baggage.keys (· ≤ ·))
  unfold sortedItems
  induction baggage.keys.sort (· ≤ ·) with
  | nil => exact List.Sublist.refl _
  | cons key rest ih =>
    rw [List.filterMap_cons]
    cases baggage.lookup key with
    | none => exact ih.cons key
    | some value => exact ih.cons_cons key

/-- The headers arrive as they were sent, with names of any case. -/
def plainLeg (modes : List PropagationMode) : Leg where
  options := ⟨modes, false⟩
  codec := wireCodec
  mapCaseSensitive := true
  caseSensitive := false
  transport contents := ⟨contents, fun _ => .error .lookupKeyNotSupported⟩
  iterate := sortedItems

theorem plainLeg_sound (modes : List PropagationMode) : (plainLeg modes).Sound :=
  ⟨fun _ => ⟨.refl _, fun _ => .inl rfl⟩, nodup_sortedItems, mem_sortedItems⟩

/-- A span with one baggage item, one started from it behind two legs, and one behind another. -/
def firstSpan : Span :=
  (@SpanStart.span zeroFormat Span.busyStart fun _ _ => none)

def secondHop : Hop where
  legs := [plainLeg [.envoy, .b3], plainLeg [.traceContext]]
  referenceType := .childOfRef
  start := Span.busyStart
  directBuffer _ _ := none
  calls := [.setBaggageItem (ascii "X") (ascii "y")]

def thirdHop : Hop where
  legs := [plainLeg [.lightstep]]
  referenceType := .followsFromRef
  start := Span.busyStart
  directBuffer _ _ := none
  calls := []

theorem secondHop_sound : secondHop.Sound firstSpan where
  legs := by simp [secondHop, plainLeg_sound]
  encodes leg hleg henvoy items hperm := by
    have hdata : firstSpan.context.baggage = [(ascii "k", ascii "u")] := by decide +kernel
    rw [hdata, List.perm_singleton] at hperm
    subst hperm
    obtain rfl | rfl : leg = plainLeg [.envoy, .b3] ∨ leg = plainLeg [.traceContext] := by simpa [secondHop] using hleg
    · exact wireCodec_roundTrips (by decide +kernel) (by decide +kernel)
    · exact absurd henvoy (by decide)
  keys key value h := by
    obtain ⟨rfl, -⟩ : key = ascii "X" ∧ value = ascii "y" := by simpa [secondHop] using h
    decide

theorem thirdHop_sound (parent : Span) : thirdHop.Sound parent where
  legs := by simp [thirdHop, plainLeg_sound]
  encodes leg hleg henvoy := by
    have hleg : leg = plainLeg [.lightstep] := by simpa [thirdHop] using hleg
    rw [hleg] at henvoy
    exact absurd henvoy (by decide)
  keys key value h := by cases h

theorem threeSpans_continue : letI := zeroFormat
    ∃ parent child, machine.run firstSpan [secondHop] = some parent ∧
      machine.run firstSpan [secondHop, thirdHop] = some child ∧ Continues parent thirdHop child ∧
        child.traceId = firstSpan.traceId ∧ child.sampled = firstSpan.sampled := by
  let _ := zeroFormat
  have hroot : Propagatable firstSpan.baggage.data := ⟨by decide +kernel, by decide +kernel, by decide +kernel⟩
  have hsound : machine.Guarded Hop.Sound firstSpan [secondHop, thirdHop] :=
    ⟨secondHop_sound, fun parent _ => ⟨thirdHop_sound parent, fun _ _ => trivial⟩⟩
  obtain ⟨parent, child, hparent, hchild, hcontinues, htraceId, hsampled⟩ :=
    (traces_continue hroot hsound).2 [secondHop] thirdHop [] rfl
  exact ⟨parent, child, hparent, hchild, hcontinues, htraceId, hsampled (by decide +kernel)⟩

end Hop
end Lightstep.Tracer

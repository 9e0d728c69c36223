import Lightstep.Tracer.Legacy.LegacyReport

/-! When the two classes of spans are interchangeable.

They part where baggage is set again: one assigns the value, the other keeps the
old one. And a message as long as the parser's limit can be built but not parsed. -/
namespace Lightstep.Tracer
open Common Library TraceContext

/-! ### Baggage that is set once -/

/-- Baggage is only set for a new key or to the value it has. -/
def KeepsBaggage (start : SpanStart) (calls : List SpanCall) : Prop :=
  ∀ done restrictedKey value rest, calls = done ++ .setBaggageItem restrictedKey value :: rest →
    ∀ old, (FlatMap.insertAll (start.baggage ++ done.filterMap SpanCall.baggageItem?) ∅).lookup (toLower restrictedKey) =
      some old → old = value

theorem KeepsBaggage.of_append {start : SpanStart} {done rest : List SpanCall} (h : KeepsBaggage start (done ++ rest)) :
    KeepsBaggage start done := by
  intro before restrictedKey value after hdone
  refine h before restrictedKey value (after ++ rest) ?_
  rw [hdone, List.append_assoc, List.cons_append]

theorem insert_of_lookup {baggage : Finmap fun _ : List UInt8 => List UInt8} {key value : List UInt8}
    (h : baggage.lookup key = some value) : baggage.insert key value = baggage := by
  refine Finmap.ext_lookup fun key' => ?_
  by_cases hkey : key' = key
  · rw [hkey, Finmap.lookup_insert, h]
  · rw [Finmap.lookup_insert_of_ne _ hkey]

/-- Keeping and assigning are the same where nothing changes. -/
theorem insertNew_eq_insert {baggage : Finmap fun _ : List UInt8 => List UInt8} {key value : List UInt8}
    (h : ∀ old, baggage.lookup key = some old → old = value) :
    LegacySpan.insertNew baggage (key, value) = baggage.insert key value := by
  by_cases hmem : key ∈ baggage
  · obtain ⟨old, hold⟩ := Finmap.mem_iff.mp hmem
    rw [LegacySpan.insertNew, if_pos hmem]
    exact (insert_of_lookup (h old hold ▸ hold)).symm
  · rw [LegacySpan.insertNew, if_neg hmem]

theorem eq_of_insertNew {baggage : Finmap fun _ : List UInt8 => List UInt8} {key value old : List UInt8}
    (hold : baggage.lookup key = some old)
    (h : LegacySpan.insertNew baggage (key, value) = baggage.insert key value) : old = value := by
  have hmem : key ∈ baggage := Finmap.mem_iff.mpr ⟨old, hold⟩
  rw [LegacySpan.insertNew, if_pos hmem] at h
  rw [h, Finmap.lookup_insert] at hold
  exact (Option.some.inj hold).symm

theorem KeepsBaggage.insertNew_eq {start : SpanStart} {calls : List SpanCall} (h : KeepsBaggage start calls) :
    (calls.filterMap SpanCall.baggageItem?).foldl LegacySpan.insertNew (FlatMap.insertAll start.baggage ∅) =
      FlatMap.insertAll (start.baggage ++ calls.filterMap SpanCall.baggageItem?) ∅ := by
  induction calls using List.reverseRecOn with
  | nil => rw [List.filterMap_nil, List.append_nil]; rfl
  | append_singleton done call ih =>
    rw [List.filterMap_append, List.foldl_append, ih h.of_append, ← List.append_assoc,
      FlatMap.insertAll_append (start.baggage ++ done.filterMap SpanCall.baggageItem?)]
    cases call with
    | setBaggageItem restrictedKey value => exact insertNew_eq_insert (h done restrictedKey value [] rfl)
    | setOperationName | setTag | log | finishWithOptions => rfl

/-! ### Agreement -/

/-- What can be asked of a span. -/
structure Agree (span : Span) (legacy : LegacySpan) : Prop where
  baggageItem : ∀ restrictedKey, legacy.baggageItem restrictedKey = span.baggageItem restrictedKey
  foreachBaggageItem : legacy.spanContext.baggage = span.baggage.toFinmap
  traceIdHigh : legacy.traceIdHigh = span.traceIdHigh
  traceIdLow : legacy.spanContext.traceId = span.traceId
  spanId : legacy.spanContext.spanId = span.spanId
  traceFlags : legacy.traceFlags = span.traceFlags
  traceState : legacy.traceState = span.traceState

/-- The message between the header and the footer. -/
def RecordedSpan.message (recorder : SpanRecorder) (recordedSpan : RecordedSpan) : Option (List UInt8) :=
  recordedSpan.span.map fun span =>
    (span.drop recordedSpan.headerSize).take (span.length - recordedSpan.headerSize - recorder.footer.length)

theorem message_mk (recorder : SpanRecorder) (body : Option (List UInt8)) :
    RecordedSpan.message recorder
      ⟨recorder.headerSpace.length, body.map (recorder.headerSpace ++ · ++ recorder.footer)⟩ = body := by
  cases body with
  | none => rfl
  | some body =>
    have hlength : (recorder.headerSpace ++ body ++ recorder.footer).length - recorder.headerSpace.length -
        recorder.footer.length = body.length := by
      rw [List.length_append, List.length_append]
      omega
    rw [RecordedSpan.message, Option.map_some, Option.map_some, hlength, List.append_assoc, List.drop_left,
      List.take_left]

section
variable [DoubleFormat]

/-- The two spans are asked and told the same, and record the same message. -/
structure Interchangeable (start : SpanStart) (directBuffer : List UInt8 → (n : Nat) → Option (Vector UInt8 n))
    (calls : List SpanCall) (steadyNow : SteadyTime) (options : FinishSpanOptions) : Prop where
  agree : ∀ done rest, calls = done ++ rest →
    Agree ((start.span directBuffer).run start.recorder done) (start.legacySpan.run done)
  recorded : (start.legacySpan.run (calls ++ [.finishWithOptions steadyNow options])).recorded.map some =
    ((start.span directBuffer).run start.recorder (calls ++ [.finishWithOptions steadyNow options])).recorded.map
      fun recordedSpan => (recordedSpan.message start.recorder).bind Collector.Span.parse

/-- No baggage changes, and what is recorded can be parsed. -/
structure Compatible (start : SpanStart) (directBuffer : List UInt8 → (n : Nat) → Option (Vector UInt8 n))
    (calls : List SpanCall) (steadyNow : SteadyTime) (options : FinishSpanOptions) : Prop where
  keepsBaggage : KeepsBaggage start calls
  short : isTraceFlagSet sampledFlagMask ((start.span directBuffer).run start.recorder calls).traceFlags = true →
    (SpanPart.encode (finishedParts start directBuffer calls steadyNow options)).length < 2 ^ 31

variable {start : SpanStart} {directBuffer : List UInt8 → (n : Nat) → Option (Vector UInt8 n)} {calls : List SpanCall}

/-- Apart from baggage the spans always agree. -/
theorem agree_iff (hcalls : ∀ c ∈ calls, c.isFinish = false) :
    Agree ((start.span directBuffer).run start.recorder calls) (start.legacySpan.run calls) ↔
      (calls.filterMap SpanCall.baggageItem?).foldl LegacySpan.insertNew (FlatMap.insertAll start.baggage ∅) =
        FlatMap.insertAll (start.baggage ++ calls.filterMap SpanCall.baggageItem?) ∅ := by
  obtain ⟨htold, hidentified⟩ := Span.told_start start directBuffer
  obtain ⟨hlegacy, halike⟩ := LegacySpan.told_start start directBuffer
  have halike := halike.run htold hcalls
  have htold := htold.run hcalls
  have hidentified := Span.identified_run hidentified start.recorder calls
  have hcontext := (hlegacy.run hcalls).spanContext_eq
  constructor
  · intro h
    have hbaggage := h.foreachBaggageItem
    rwa [hcontext, htold.baggage] at hbaggage
  · intro h
    have hbaggage : (start.legacySpan.run calls).spanContext.baggage =
        ((start.span directBuffer).run start.recorder calls).baggage.toFinmap := by
      rw [hcontext, htold.baggage]
      exact h
    refine ⟨fun restrictedKey => ?_, hbaggage, halike.traceIdHigh, ?_, ?_, halike.traceFlags, halike.traceState⟩
    · rw [LegacySpan.baggageItem, hbaggage, ← FlatMap.find_eq_lookup, Span.baggageItem]
      cases ((start.span directBuffer).run start.recorder calls).baggage.find (toLower restrictedKey) <;> rfl
    · rw [hcontext, hidentified.traceId]
    · rw [hcontext, hidentified.spanId]

/-- The context is the last part. -/
theorem apply_context (start : SpanStart) (calls : List SpanCall) (context : Collector.SpanContext)
    (steadyNow : SteadyTime) (options : FinishSpanOptions) :
    {(start.parts ++ calls.filterMap SpanCall.part? ++
        ([SpanPart.duration (finishSteady steadyNow options - start.timestamps.2)] ++
          options.logRecords.map SpanPart.log)).foldl SpanPart.apply .default with spanContext := some context} =
      {report start calls steadyNow options with spanContext := some context} := by
  have hreport := apply_parts start calls rfl steadyNow options
  rw [finishParts, ← List.append_assoc, List.foldl_append] at hreport
  rw [← hreport]
  rfl

/-- What both record of a sampled span, once finished. -/
theorem recorded_sampled (hcalls : ∀ c ∈ calls, c.isFinish = false) (steadyNow : SteadyTime) (options : FinishSpanOptions)
    (hsampled : isTraceFlagSet sampledFlagMask ((start.span directBuffer).run start.recorder calls).traceFlags = true) :
    (start.legacySpan.run (calls ++ [.finishWithOptions steadyNow options])).recorded =
        [{report start calls steadyNow options with spanContext := some (start.legacySpan.run calls).spanContext}] ∧
      ∃ body, EqOrLong body (SpanPart.encode (finishedParts start directBuffer calls steadyNow options)) ∧
        ((start.span directBuffer).run start.recorder (calls ++ [.finishWithOptions steadyNow options])).recorded.map
          (fun recordedSpan => (recordedSpan.message start.recorder).bind Collector.Span.parse) =
            [body.bind Collector.Span.parse] := by
  obtain ⟨htold, hidentified⟩ := Span.told_start start directBuffer
  obtain ⟨hlegacy, halike⟩ := LegacySpan.told_start start directBuffer
  have halike := halike.run htold hcalls
  have hlegacy := hlegacy.run hcalls
  constructor
  · have hrecorded := hlegacy.finish_sampled steadyNow options (halike.traceFlags ▸ hsampled)
    rw [apply_context, ← hlegacy.spanContext_eq] at hrecorded
    rw [LegacySpan.run, List.foldl_append]
    exact hrecorded
  · have hfinish := firstFinish_append hcalls steadyNow options
    have hbefore := beforeFinish_append hcalls steadyNow options
    have hatFinish : Span.atFinish start directBuffer (calls ++ [.finishWithOptions steadyNow options]) =
        (start.span directBuffer).run start.recorder calls := by rw [Span.atFinish, hbefore]
    have hsampled : isTraceFlagSet sampledFlagMask (Span.atFinish start directBuffer
        (calls ++ [.finishWithOptions steadyNow options])).traceFlags = true := hatFinish ▸ hsampled
    obtain ⟨body, hrecorded, hbody⟩ := Span.records_parts hfinish hsampled
    rw [hbefore] at hbody
    refine ⟨body, hbody, ?_⟩
    rw [hrecorded, List.map_singleton, message_mk]

/-- Neither records anything of a span that is not sampled. -/
theorem recorded_unsampled (hcalls : ∀ c ∈ calls, c.isFinish = false) (steadyNow : SteadyTime)
    (options : FinishSpanOptions)
    (hsampled : isTraceFlagSet sampledFlagMask ((start.span directBuffer).run start.recorder calls).traceFlags = false) :
    (start.legacySpan.run (calls ++ [.finishWithOptions steadyNow options])).recorded = [] ∧
      ((start.span directBuffer).run start.recorder (calls ++ [.finishWithOptions steadyNow options])).recorded = [] := by
  obtain ⟨htold, -⟩ := Span.told_start start directBuffer
  obtain ⟨hlegacy, halike⟩ := LegacySpan.told_start start directBuffer
  have halike := halike.run htold hcalls
  rw [LegacySpan.run, List.foldl_append, Span.run, List.foldl_append]
  exact ⟨(hlegacy.run hcalls).finish_unsampled steadyNow options (halike.traceFlags ▸ hsampled),
    (htold.run hcalls).finish_unsampled steadyNow options hsampled⟩

/-- A new value of an item would be seen before the finish. -/
theorem Interchangeable.keepsBaggage {steadyNow : SteadyTime} {options : FinishSpanOptions}
    (h : Interchangeable start directBuffer calls steadyNow options) (hcalls : ∀ c ∈ calls, c.isFinish = false) :
    KeepsBaggage start calls := by
  intro done restrictedKey value rest hsplit old hold
  have hdone : ∀ c ∈ done, c.isFinish = false := fun c hc => hcalls c (hsplit ▸ List.mem_append_left _ hc)
  have hset : ∀ c ∈ done ++ [.setBaggageItem restrictedKey value], c.isFinish = false := fun c hc =>
    (List.mem_append.mp hc).elim (hdone c) fun hc => List.mem_singleton.mp hc ▸ rfl
  have hbefore := (agree_iff hdone).mp (h.agree done _ hsplit)
  have hafter := (agree_iff hset).mp (h.agree _ rest (by rw [hsplit, List.append_assoc]; rfl))
  rw [List.filterMap_append, List.foldl_append, hbefore, ← List.append_assoc,
    FlatMap.insertAll_append (start.baggage ++ done.filterMap SpanCall.baggageItem?)] at hafter
  exact eq_of_insertNew hold hafter

/-- A report that is parsed is not too long to be. -/
theorem Interchangeable.short {steadyNow : SteadyTime} {options : FinishSpanOptions}
    (h : Interchangeable start directBuffer calls steadyNow options) (hcalls : ∀ c ∈ calls, c.isFinish = false)
    (hsampled : isTraceFlagSet sampledFlagMask ((start.span directBuffer).run start.recorder calls).traceFlags = true) :
    (SpanPart.encode (finishedParts start directBuffer calls steadyNow options)).length < 2 ^ 31 := by
  obtain ⟨hlegacy, body, hbody, hspan⟩ := recorded_sampled hcalls steadyNow options hsampled
  have hrecorded := h.recorded
  rw [hlegacy, hspan, List.map_singleton] at hrecorded
  exact SpanPart.length_lt_of_parse hbody (List.singleton_inj.mp hrecorded).symm

theorem Compatible.recorded {steadyNow : SteadyTime} {options : FinishSpanOptions}
    (h : Compatible start directBuffer calls steadyNow options) (hcalls : ∀ c ∈ calls, c.isFinish = false) :
    (start.legacySpan.run (calls ++ [.finishWithOptions steadyNow options])).recorded.map some =
      ((start.span directBuffer).run start.recorder (calls ++ [.finishWithOptions steadyNow options])).recorded.map
        fun recordedSpan => (recordedSpan.message start.recorder).bind Collector.Span.parse := by
  cases hsampled : isTraceFlagSet sampledFlagMask ((start.span directBuffer).run start.recorder calls).traceFlags with
  | false =>
    obtain ⟨hlegacy, hspan⟩ := recorded_unsampled hcalls steadyNow options hsampled
    rw [hlegacy, hspan]
    rfl
  | true =>
    obtain ⟨hlegacy, body, hbody, hspan⟩ := recorded_sampled hcalls steadyNow options hsampled
    have hbaggage := ((Span.told_start start directBuffer).1.run hcalls).baggage
    have hcontext := ((LegacySpan.told_start start directBuffer).1.run hcalls).spanContext_eq
    rw [hlegacy, hspan, SpanPart.parse_eqOrLong hbody (h.short hsampled), finishedParts, apply_parts start calls hbaggage,
      hcontext, h.keepsBaggage.insertNew_eq]
    rfl

/-- **The two classes are interchangeable exactly where baggage is kept** and what is recorded can be parsed. -/
theorem interchangeable_iff (start : SpanStart) (directBuffer : List UInt8 → (n : Nat) → Option (Vector UInt8 n))
    {calls : List SpanCall} (hcalls : ∀ c ∈ calls, c.isFinish = false) (steadyNow : SteadyTime)
    (options : FinishSpanOptions) :
    Interchangeable start directBuffer calls steadyNow options ↔
      Compatible start directBuffer calls steadyNow options := by
  constructor
  · intro h
    exact ⟨h.keepsBaggage hcalls, h.short hcalls⟩
  · intro h
    refine ⟨fun done rest hdone => ?_, h.recorded hcalls⟩
    have hkeeps : KeepsBaggage start done := (hdone ▸ h.keepsBaggage).of_append
    exact (agree_iff fun c hc => hcalls c (hdone ▸ List.mem_append_left rest hc)).mpr hkeeps.insertNew_eq

end

/-! ### Runs -/

/-- A start like any other, of a span with one item of baggage from a reference. -/
def plainStart : SpanStart where
  recorder := ⟨[0, 0], [10], 0, fun steadyTime => steadyTime⟩
  steadyNow := 7
  generated n := n.toUInt64
  operationName := ascii "a"
  options := ⟨0, 0, [(.childOfRef, .lightStep ⟨1, 2, 3, 1, ascii "x=y", [(ascii "k", ascii "u")]⟩)], []⟩

/-- A new key, and the value that another key has. -/
def keepingCalls : List SpanCall :=
  [.setBaggageItem (ascii "L") (ascii "v"), .setBaggageItem (ascii "K") (ascii "u")]

theorem keepingCalls_keepsBaggage : KeepsBaggage plainStart keepingCalls := by
  intro done restrictedKey value rest hsplit old hold
  match done with
  | [] =>
    cases hsplit
    have hnone : (FlatMap.insertAll plainStart.baggage ∅).lookup (toLower (ascii "L")) = none := by decide +kernel
    exact absurd (hold.symm.trans hnone) (Option.some_ne_none old)
  | [_] =>
    cases hsplit
    have hsome : (FlatMap.insertAll (plainStart.baggage ++ [(toLower (ascii "L"), ascii "v")]) ∅).lookup
        (toLower (ascii "K")) = some (ascii "u") := by decide +kernel
    exact Option.some.inj (hold.symm.trans hsome)
  | [_, _] => cases hsplit
  | _ :: _ :: _ :: _ => cases hsplit

theorem keepingCalls_interchangeable :
    @Interchangeable zeroFormat plainStart (fun _ _ => none) keepingCalls 0 ⟨0, []⟩ := by
  let format := zeroFormat
  have hcalls : ∀ c ∈ keepingCalls, c.isFinish = false := by decide +kernel
  exact (interchangeable_iff plainStart (fun _ _ => none) hcalls 0 ⟨0, []⟩).mpr
    ⟨keepingCalls_keepsBaggage, fun _ => by decide +kernel⟩

theorem secondValue_not_interchangeable : ¬ @Interchangeable zeroFormat plainStart (fun _ _ => none)
    [.setBaggageItem (ascii "K") (ascii "v")] 0 ⟨0, []⟩ := by
  let format := zeroFormat
  intro h
  have hitem := (h.agree [.setBaggageItem (ascii "K") (ascii "v")] [] rfl).baggageItem (ascii "k")
  exact absurd hitem (by decide +kernel)

end Lightstep.Tracer

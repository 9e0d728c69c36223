import Lightstep.Library.Fold
import Lightstep.Tracer.Propagation.Propagation
import Lightstep.Tracer.Propagation.BinaryCarrier

/-! What an extractor that finds nothing leaves behind.

The outputs are shared by all propagators, and only the baggage is cleared
between them. An extractor that finds nothing has not touched the trace context,
but the one of `traceparent` assigns a trace state it meets on the way: whoever
finds a context after it hands that state out as its own. -/
namespace Lightstep.Tracer
open Common TraceContext Library

variable {codec : BinaryCodec} {carrier : TextMapReader} {caseSensitive : Bool}

/-- The result of an extraction with another trace state. -/
def withTraceState (traceState : List UInt8) (found : Bool × Extraction) : Bool × Extraction :=
  (found.1, {found.2 with traceState := traceState})

namespace MultiheaderPropagator

theorem readHeader_frame {p : MultiheaderPropagator} {compare : KeyCompare} {scan scan' : Scan} {header : Header}
    (h : p.readHeader compare scan header = .ok scan') :
    scan.count < scan'.count ∨ scan'.traceContext = scan.traceContext ∧ scan'.count = scan.count := by
  cases p.readHeader_reads compare header with
  | corruptedTraceId _ _ hread | corruptedSpanId _ _ hread =>
    rw [hread] at h
    cases h
  | traceId _ _ hread | spanId _ _ _ hread =>
    rw [hread] at h
    cases h
    exact .inl (Nat.lt_succ_self _)
  | sampled _ _ _ hread | baggage _ _ hread =>
    rw [hread] at h
    cases h
    exact .inr ⟨rfl, rfl⟩

/-- A scan that counts no field keeps the context. -/
theorem scan_frame {p : MultiheaderPropagator} {compare : KeyCompare} {headers : List Header} {scan scan' : Scan}
    (h : headers.foldlM (p.readHeader compare) scan = .ok scan') :
    scan.count ≤ scan'.count ∧ (scan'.count = 0 → scan'.traceContext = scan.traceContext) := by
  apply foldlM_ok (P := fun _ scan scan' => scan.count ≤ scan'.count ∧
    (scan'.count = 0 → scan'.traceContext = scan.traceContext)) (fun _ => ⟨Nat.le_refl _, fun _ => rfl⟩) _ h
  rintro header rest scan scan₁ scan₂ hheader ⟨hle, hkept⟩
  rcases readHeader_frame hheader with hlt | ⟨hcontext, hcount⟩
  · exact ⟨by omega, fun hzero => by omega⟩
  · exact ⟨hcount ▸ hle, fun hzero => (hkept hzero).trans hcontext⟩

theorem extractSpanContext_frame {p : MultiheaderPropagator} {out out' : Extraction}
    (h : p.extractSpanContext carrier caseSensitive out = .ok (false, out')) :
    out'.traceContext = out.traceContext ∧ out'.traceState = out.traceState := by
  unfold extractSpanContext at h
  cases hscan : carrier.headers.foldlM (p.readHeader (keyCompare caseSensitive))
      ⟨out.traceContext, out.baggage, true, 0⟩ with
  | error e =>
    rw [hscan] at h
    cases h
  | ok scan =>
    rw [hscan] at h
    simp only [bind, Except.bind, pure, Except.pure] at h
    split at h
    · cases h
      rename_i hzero
      exact ⟨(scan_frame hscan).2 hzero, rfl⟩
    · split at h <;> cases h

/-- The trace state is not looked at. -/
theorem extractSpanContext_traceState (p : MultiheaderPropagator) (out : Extraction) (traceState : List UInt8) :
    p.extractSpanContext carrier caseSensitive {out with traceState := traceState} =
      withTraceState traceState <$> p.extractSpanContext carrier caseSensitive out := by
  unfold extractSpanContext
  cases carrier.headers.foldlM (p.readHeader (keyCompare caseSensitive)) ⟨out.traceContext, out.baggage, true, 0⟩ with
  | error e => rfl
  | ok scan =>
    simp only [bind, Except.bind, pure, Except.pure]
    split
    · rfl
    · split <;> rfl

end MultiheaderPropagator

namespace EnvoyPropagator

theorem extractSpanContext_frame {out out' : Extraction}
    (h : extractSpanContext codec carrier caseSensitive out = .ok (false, out')) :
    out'.traceContext = {out.traceContext with traceIdHigh := 0} ∧ out'.traceState = out.traceState := by
  unfold extractSpanContext at h
  split at h
  · cases h
    exact ⟨rfl, rfl⟩
  · cases h
  · split at h
    · cases h
    · cases h
    · rename_i b bytes hdecode
      cases hbinary : extractBinary codec (b :: bytes) with
      | error e =>
        rw [hbinary] at h
        cases h
      | ok found =>
        rw [hbinary] at h
        cases found with
        | none =>
          cases h
          exact ⟨rfl, rfl⟩
        | some found => cases h

theorem extractSpanContext_traceState (out : Extraction) (traceState : List UInt8) :
    extractSpanContext codec carrier caseSensitive {out with traceState := traceState} =
      withTraceState traceState <$> extractSpanContext codec carrier caseSensitive out := by
  unfold extractSpanContext
  cases lookupKey carrier propagationSingleKey (keyCompare caseSensitive) with
  | error e => cases e <;> rfl
  | ok value =>
    cases hdecode : Base64.decode value with
    | none => simp only [hdecode]; rfl
    | some decoded =>
      cases decoded with
      | nil => simp only [hdecode]; rfl
      | cons b bytes =>
        cases hbinary : extractBinary codec (b :: bytes) with
        | error e => simp only [hdecode, hbinary]; rfl
        | ok found => cases found <;> (simp only [hdecode, hbinary]; rfl)

end EnvoyPropagator

namespace CloudTracePropagator

theorem readHeader_frame {compare : KeyCompare} {scan scan' : Bool × Extraction} {header : Header}
    (h : readHeader compare scan header = .ok scan') : scan'.1 = true ∨ scan'.1 = scan.1 ∧
      scan'.2.traceContext = scan.2.traceContext ∧ scan'.2.traceState = scan.2.traceState := by
  unfold readHeader at h
  split at h
  · cases hparse : parseCloudTrace header.2 scan.2.traceContext with
    | error e =>
      rw [hparse] at h
      cases h
    | ok c =>
      rw [hparse] at h
      cases h
      exact .inl rfl
  · cases h
    exact .inr ⟨rfl, rfl, rfl⟩

theorem scan_frame {compare : KeyCompare} {headers : List Header} {scan scan' : Bool × Extraction}
    (h : headers.foldlM (readHeader compare) scan = .ok scan') : scan'.1 = true ∨ scan'.1 = scan.1 ∧
      scan'.2.traceContext = scan.2.traceContext ∧ scan'.2.traceState = scan.2.traceState := by
  apply foldlM_ok (P := fun _ scan scan' => scan'.1 = true ∨ scan'.1 = scan.1 ∧
    scan'.2.traceContext = scan.2.traceContext ∧ scan'.2.traceState = scan.2.traceState)
    (fun _ => .inr ⟨rfl, rfl, rfl⟩) _ h
  rintro header rest scan scan₁ scan₂ hheader (hfound | ⟨hsame, hcontext, hstate⟩)
  · exact .inl hfound
  · rcases readHeader_frame hheader with hfound | ⟨hsame₁, hcontext₁, hstate₁⟩
    · exact .inl (hsame.trans hfound)
    · exact .inr ⟨hsame.trans hsame₁, hcontext.trans hcontext₁, hstate.trans hstate₁⟩

theorem extractSpanContext_frame {out out' : Extraction}
    (h : extractSpanContext carrier caseSensitive out = .ok (false, out')) :
    out'.traceContext = out.traceContext ∧ out'.traceState = out.traceState := by
  rcases scan_frame h with hfound | ⟨-, hkept⟩
  · cases hfound
  · exact hkept

theorem extractSpanContext_traceState (out : Extraction) (traceState : List UInt8) :
    extractSpanContext carrier caseSensitive {out with traceState := traceState} =
      withTraceState traceState <$> extractSpanContext carrier caseSensitive out := by
  have hheader : ∀ scan header, readHeader (keyCompare caseSensitive) (withTraceState traceState scan) header =
      withTraceState traceState <$> readHeader (keyCompare caseSensitive) scan header := by
    intro scan header
    unfold readHeader
    split
    · have hcontext : (withTraceState traceState scan).2.traceContext = scan.2.traceContext := rfl
      rw [hcontext]
      cases parseCloudTrace header.2 scan.2.traceContext with
      | error e => rfl
      | ok c => rfl
    · rfl
  exact foldlM_hom hheader carrier.headers (false, out)

end CloudTracePropagator

namespace TraceContextPropagator

/-- The trace states of the headers, in their order. -/
def traceStates (compare : KeyCompare) (headers : List Header) : List (List UInt8) :=
  (headers.filter fun header => compare header.1 traceStateHeaderKey).map Prod.snd

/-- Without its parent header the context stays, and the last of the states has been assigned. -/
structure Unmatched (compare : KeyCompare) (headers : List Header) (scan scan' : Bool × Extraction) : Prop where
  absent : ∀ header ∈ headers, ¬ compare header.1 traceParentHeaderKey = true
  found : scan'.1 = scan.1
  traceContext : scan'.2.traceContext = scan.2.traceContext
  traceState : scan'.2.traceState = (traceStates compare headers).getLastD scan.2.traceState

theorem Unmatched.cons {compare : KeyCompare} {header : Header} {rest : List Header}
    {scan scan₁ scan₂ : Bool × Extraction} (hrest : Unmatched compare rest scan₁ scan₂)
    (hnot : ¬ compare header.1 traceParentHeaderKey = true) (h : readHeader compare scan header = .ok scan₁) :
    Unmatched compare (header :: rest) scan scan₂ := by
  have habsent : ∀ x ∈ header :: rest, ¬ compare x.1 traceParentHeaderKey = true :=
    List.forall_mem_cons.mpr ⟨hnot, hrest.absent⟩
  rw [readHeader, if_neg hnot] at h
  split at h
  · rename_i hstate
    cases h
    refine ⟨habsent, hrest.found, hrest.traceContext, ?_⟩
    rw [hrest.traceState, traceStates, traceStates, List.filter_cons, if_pos hstate, List.map_cons, List.getLastD_cons]
  · rename_i hstate
    cases h
    refine ⟨habsent, hrest.found, hrest.traceContext, ?_⟩
    rw [hrest.traceState, traceStates, traceStates, List.filter_cons, if_neg hstate]

theorem scan_frame {compare : KeyCompare} {headers : List Header} {scan scan' : Bool × Extraction}
    (h : headers.foldlM (readHeader compare) scan = .ok scan') :
    scan'.1 = true ∨ Unmatched compare headers scan scan' := by
  apply foldlM_ok (P := fun headers scan scan' => scan'.1 = true ∨ Unmatched compare headers scan scan')
    (fun _ => .inr ⟨fun _ h => absurd h List.not_mem_nil, rfl, rfl, rfl⟩) _ h
  rintro header rest scan scan₁ scan₂ hheader (hfound | hrest)
  · exact .inl hfound
  · by_cases hparent : compare header.1 traceParentHeaderKey = true
    · rw [readHeader, if_pos hparent] at hheader
      cases hparse : parseTraceContext header.2 scan.2.traceContext with
      | error e =>
        rw [hparse] at hheader
        cases hheader
      | ok c =>
        rw [hparse] at hheader
        cases hheader
        exact .inl hrest.found
    · exact .inr (hrest.cons hparent hheader)

theorem extractSpanContext_frame {out out' : Extraction}
    (h : extractSpanContext carrier caseSensitive out = .ok (false, out')) :
    Unmatched (keyCompare caseSensitive) carrier.headers (false, out) (false, out') := by
  rcases scan_frame h with hfound | hunmatched
  · cases hfound
  · exact hunmatched

/-- Whether it finds a context does not depend on the outputs. -/
theorem not_found {found : Bool} {out out' : Extraction}
    (habsent : ∀ header ∈ carrier.headers, ¬ keyCompare caseSensitive header.1 traceParentHeaderKey = true)
    (h : extractSpanContext carrier caseSensitive out = .ok (found, out')) : found = false := by
  have hfold := foldlM_ok (P := fun headers (scan scan' : Bool × Extraction) =>
    (∀ header ∈ headers, ¬ keyCompare caseSensitive header.1 traceParentHeaderKey = true) → scan'.1 = scan.1)
    (fun _ _ => rfl) (fun {header rest scan scan₁ scan₂} hheader hrest habsent => by
      have hnot := (List.forall_mem_cons.mp habsent).1
      have hsame := hrest (List.forall_mem_cons.mp habsent).2
      rw [readHeader, if_neg hnot] at hheader
      split at hheader <;> (cases hheader; exact hsame)) h
  exact hfold habsent

end TraceContextPropagator

namespace Propagator

/-- **A propagator that finds nothing** in a new context leaves it new, and leaves the trace state
unless it is the one of `traceparent`. -/
theorem extractSpanContext_frame {p : Propagator} {out out' : Extraction} (hnew : out.traceContext = .new)
    (h : p.extractSpanContext codec carrier caseSensitive out = .ok (false, out')) :
    out'.traceContext = .new ∧ out'.traceState = if p = traceContext then
      (TraceContextPropagator.traceStates (keyCompare caseSensitive) carrier.headers).getLastD out.traceState
      else out.traceState := by
  cases p with
  | multiheader p =>
    obtain ⟨hcontext, hstate⟩ := MultiheaderPropagator.extractSpanContext_frame h
    exact ⟨hcontext.trans hnew, hstate.trans (if_neg nofun).symm⟩
  | envoy =>
    obtain ⟨hcontext, hstate⟩ := EnvoyPropagator.extractSpanContext_frame h
    rw [hnew] at hcontext
    exact ⟨hcontext, hstate.trans (if_neg nofun).symm⟩
  | traceContext =>
    have hunmatched := TraceContextPropagator.extractSpanContext_frame h
    exact ⟨hunmatched.traceContext.trans hnew, hunmatched.traceState.trans (if_pos rfl).symm⟩
  | cloudTrace =>
    obtain ⟨hcontext, hstate⟩ := CloudTracePropagator.extractSpanContext_frame h
    exact ⟨hcontext.trans hnew, hstate.trans (if_neg nofun).symm⟩
  | baggage baggagePrefix =>
    cases h
    exact ⟨hnew, (if_neg nofun).symm⟩

/-- Only the propagator of `traceparent` looks at the trace state. -/
theorem extractSpanContext_traceState {p : Propagator} (hp : p ≠ traceContext) (out : Extraction)
    (traceState : List UInt8) :
    p.extractSpanContext codec carrier caseSensitive {out with traceState := traceState} =
      withTraceState traceState <$> p.extractSpanContext codec carrier caseSensitive out := by
  cases p with
  | multiheader p => exact p.extractSpanContext_traceState out traceState
  | envoy => exact EnvoyPropagator.extractSpanContext_traceState out traceState
  | traceContext => exact absurd rfl hp
  | cloudTrace => exact CloudTracePropagator.extractSpanContext_traceState out traceState
  | baggage baggagePrefix => rfl

end Propagator

/-- The propagators of the list run one after another and find nothing; the third argument is what
they leave in the outputs. -/
inductive Failed (codec : BinaryCodec) (carrier : TextMapReader) (caseSensitive : Bool) :
    List Propagator → Extraction → Extraction → Prop where
  | nil (out : Extraction) : Failed codec carrier caseSensitive [] out out
  | cons {p : Propagator} {failing : List Propagator} {out out₁ out₂ : Extraction}
    (hfirst : p.extractSpanContext codec carrier caseSensitive {out with baggage := ∅} = .ok (false, out₁))
    (hrest : Failed codec carrier caseSensitive failing out₁ out₂) :
    Failed codec carrier caseSensitive (p :: failing) out out₂

namespace Failed

/-- The next propagator goes on from what the failed ones have left. -/
theorem tryExtract_append {failing rest : List Propagator} {out out' : Extraction}
    (h : Failed codec carrier caseSensitive failing out out') :
    tryExtract codec carrier caseSensitive (failing ++ rest) out =
      tryExtract codec carrier caseSensitive rest out' := by
  induction h with
  | nil out => rfl
  | cons hfirst _ ih =>
    rw [List.cons_append, tryExtract, hfirst]
    exact ih

theorem frame {failing : List Propagator} {out out' : Extraction}
    (h : Failed codec carrier caseSensitive failing out out') (hnew : out.traceContext = .new) :
    out'.traceContext = .new ∧ out'.traceState = if .traceContext ∈ failing then
      (TraceContextPropagator.traceStates (keyCompare caseSensitive) carrier.headers).getLastD out.traceState
      else out.traceState := by
  induction h with
  | nil out => exact ⟨hnew, (if_neg List.not_mem_nil).symm⟩
  | @cons p failing out out₁ out₂ hfirst _ ih =>
    have hcleared : ({out with baggage := ∅} : Extraction).traceContext = .new := hnew
    obtain ⟨hcontext, hstate⟩ := Propagator.extractSpanContext_frame hcleared hfirst
    obtain ⟨hcontext', hstate'⟩ := ih hcontext
    refine ⟨hcontext', hstate'.trans ?_⟩
    rw [hstate]
    by_cases hp : p = .traceContext
    · have hmem : .traceContext ∈ p :: failing := hp ▸ List.mem_cons_self ..
      rw [if_pos hp, if_pos hmem]
      split
      · cases TraceContextPropagator.traceStates (keyCompare caseSensitive) carrier.headers <;> rfl
      · rfl
    · have hmem : .traceContext ∈ p :: failing ↔ .traceContext ∈ failing := by
        rw [List.mem_cons, or_iff_right (Ne.symm hp)]
      simp only [if_neg hp, hmem]

/-- The propagator of `traceparent` fails again where it has failed. -/
theorem absent {failing : List Propagator} {out out' : Extraction}
    (h : Failed codec carrier caseSensitive failing out out') (hmem : .traceContext ∈ failing) :
    ∀ header ∈ carrier.headers,
      ¬ keyCompare caseSensitive header.1 TraceContextPropagator.traceParentHeaderKey = true := by
  induction h with
  | nil out => cases hmem
  | cons hfirst _ ih =>
    rcases List.mem_cons.mp hmem with hhead | htail
    · subst hhead
      exact (TraceContextPropagator.extractSpanContext_frame hfirst).absent
    · exact ih htail

end Failed

/-- A propagator that leaves the trace state alone finds what it would alone, but for a trace state it
was handed. -/
theorem found_eq_iff {p : Propagator} (hp : p ≠ .traceContext) {traceState : List UInt8} {found : Extraction}
    (hfound : p.extractSpanContext codec carrier caseSensitive {Extraction.new with traceState := traceState} =
      .ok (true, found)) :
    .ok (true, found) = p.extractSpanContext codec carrier caseSensitive .new ↔ traceState = [] := by
  have hnew : p.extractSpanContext codec carrier caseSensitive .new =
      withTraceState [] <$> p.extractSpanContext codec carrier caseSensitive .new :=
    Propagator.extractSpanContext_traceState hp .new []
  rw [Propagator.extractSpanContext_traceState hp] at hfound
  cases halone : p.extractSpanContext codec carrier caseSensitive .new with
  | error e =>
    rw [halone] at hfound
    cases hfound
  | ok alone =>
    rw [halone] at hfound hnew
    have hstateless : alone.2.traceState = [] := congrArg (fun found : Bool × Extraction => found.2.traceState)
      (Except.ok.inj hnew)
    have htrace : (true, found) = withTraceState traceState alone := (Except.ok.inj hfound).symm
    rw [htrace]
    constructor
    · intro heq
      have hstates := congrArg (fun found : Bool × Extraction => found.2.traceState) (Except.ok.inj heq)
      exact hstates.trans hstateless
    · intro hnone
      rw [hnone, ← hstateless]
      rfl

/-- **When failed extractors leave no trace**: the outputs are those of the propagator that found the
context alone, unless the one of `traceparent` is among those before it and has met a last trace state
that is not empty. -/
theorem extract_alone_iff {options : PropagationOptions} {failing rest : List Propagator} {p : Propagator}
    {out found : Extraction} (hoptions : options.extractPropagators = failing ++ p :: rest)
    (hfailed : Failed codec carrier caseSensitive failing .new out)
    (hfound : p.extractSpanContext codec carrier caseSensitive {out with baggage := ∅} = .ok (true, found)) :
    extractSpanContext codec options carrier caseSensitive .new =
        p.extractSpanContext codec carrier caseSensitive .new ↔
      .traceContext ∉ failing ∨
        (TraceContextPropagator.traceStates (keyCompare caseSensitive) carrier.headers).getLastD [] = [] := by
  obtain ⟨hcontext, hstate⟩ := hfailed.frame rfl
  have hout : ({out with baggage := ∅} : Extraction) = {Extraction.new with traceState := out.traceState} := by
    rw [hcontext]
    rfl
  have hfirst : extractSpanContext codec options carrier caseSensitive .new = .ok (true, found) := by
    rw [extractSpanContext, hoptions, hfailed.tryExtract_append, tryExtract, hfound]
    rfl
  have hempty : out.traceState = [] ↔ .traceContext ∉ failing ∨
      (TraceContextPropagator.traceStates (keyCompare caseSensitive) carrier.headers).getLastD [] = [] := by
    rw [hstate]
    by_cases hmem : .traceContext ∈ failing
    · rw [if_pos hmem, or_iff_right (not_not.mpr hmem)]
      rfl
    · rw [if_neg hmem]
      exact iff_of_true rfl (.inl hmem)
  rw [hfirst, ← hempty]
  by_cases hp : p = .traceContext
  · -- it has found a parent header, so it is not one of those that failed
    have hmem : .traceContext ∉ failing := by
      intro hmem
      subst hp
      cases TraceContextPropagator.not_found (hfailed.absent hmem) hfound
    have hnone : out.traceState = [] := by
      rw [hstate, if_neg hmem]
      rfl
    rw [hout, hnone] at hfound
    exact iff_of_true hfound.symm hnone
  · rw [hout] at hfound
    exact found_eq_iff hp hfound

/-! ### A state without a parent -/

/-- The headers of B3, after a trace state or alone. -/
def b3Headers (stray : List Header) : TextMapReader :=
  ⟨stray ++ [(ascii "X-B3-TraceId", ascii "1"), (ascii "X-B3-SpanId", ascii "2")],
    fun _ => .error .lookupKeyNotSupported⟩

def strayState : List Header := [(ascii "tracestate", ascii "a=1")]

/-- Both formats are configured, the one of `traceparent` first. -/
def bothFormats : PropagationOptions := makePropagationOptions ⟨[.traceContext, .b3], false⟩

def b3Found (traceState : List UInt8) : Extraction := ⟨⟨0, 1, 2, 1, 0⟩, traceState, ∅⟩

theorem b3Headers_alone :
    extractSpanContext wireCodec bothFormats (b3Headers []) true .new =
        (Propagator.multiheader b3Propagator).extractSpanContext wireCodec (b3Headers []) true .new ↔
      .traceContext ∉ [Propagator.traceContext] ∨
        (TraceContextPropagator.traceStates (keyCompare true) (b3Headers []).headers).getLastD [] = [] :=
  have hfirst : Propagator.traceContext.extractSpanContext wireCodec (b3Headers []) true {Extraction.new with baggage := ∅} =
      .ok (false, .new) := rfl
  have hoptions : bothFormats.extractPropagators = [.traceContext] ++ .multiheader b3Propagator :: [] := rfl
  have hfound : (Propagator.multiheader b3Propagator).extractSpanContext wireCodec (b3Headers []) true
      {Extraction.new with baggage := ∅} = .ok (true, b3Found []) := rfl
  extract_alone_iff hoptions (.cons hfirst (.nil _)) hfound

/-- The trace state goes out with the context of B3. -/
theorem strayState_not_alone :
    (∃ out, Failed wireCodec (b3Headers strayState) true [.traceContext] .new out ∧
      (Propagator.multiheader b3Propagator).extractSpanContext wireCodec (b3Headers strayState) true
        {out with baggage := ∅} = .ok (true, b3Found (ascii "a=1"))) ∧
    bothFormats.extractPropagators = [.traceContext] ++ [.multiheader b3Propagator] ∧
    extractSpanContext wireCodec bothFormats (b3Headers strayState) true .new ≠
      (Propagator.multiheader b3Propagator).extractSpanContext wireCodec (b3Headers strayState) true .new := by
  have hfirst : Propagator.traceContext.extractSpanContext wireCodec (b3Headers strayState) true
      {Extraction.new with baggage := ∅} = .ok (false, ⟨.new, ascii "a=1", ∅⟩) := rfl
  have hboth : extractSpanContext wireCodec bothFormats (b3Headers strayState) true .new =
      .ok (true, b3Found (ascii "a=1")) := rfl
  have halone : (Propagator.multiheader b3Propagator).extractSpanContext wireCodec (b3Headers strayState) true .new =
      .ok (true, b3Found []) := rfl
  refine ⟨⟨_, .cons hfirst (.nil _), rfl⟩, rfl, ?_⟩
  rw [hboth, halone]
  intro heq
  have hstates := congrArg (fun found : Bool × Extraction => found.2.traceState) (Except.ok.inj heq)
  exact absurd hstates (by decide)

end Lightstep.Tracer

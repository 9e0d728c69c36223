import Lightstep.Tracer.Propagation.Propagator

/-! The configured propagators, and the two functions that go through them. -/
namespace Lightstep.Tracer
open Common

inductive PropagationMode where
  | lightstep
  | b3
  | envoy
  | traceContext
  | cloudTrace
  deriving DecidableEq

/-- The options that decide the propagation. -/
structure LightStepTracerOptions where
  propagationModes : List PropagationMode
  useSingleKeyPropagation : Bool
  deriving DecidableEq

structure PropagationOptions where
  injectPropagators : List Propagator
  extractPropagators : List Propagator
  deriving DecidableEq

/-- Keeps the first of each mode; the second argument has those seen. -/
def uniqifyPropagationModes : List PropagationMode → List PropagationMode → List PropagationMode
  | [], _ => []
  | mode :: rest, values =>
    if mode ∈ values then uniqifyPropagationModes rest values
    else mode :: uniqifyPropagationModes rest (mode :: values)

/-- The modes to inject and the modes to extract. Envoy falls back to the headers of LightStep. -/
def setInjectExtractPropagationModes (propagationModes : List PropagationMode) :
    List PropagationMode × List PropagationMode :=
  let extractPropagationModes := propagationModes.flatMap fun mode =>
    if mode = .envoy then [mode, .lightstep] else [mode]
  (uniqifyPropagationModes propagationModes [], uniqifyPropagationModes extractPropagationModes [])

def PropagationMode.propagator : PropagationMode → Propagator
  | lightstep => .multiheader lightStepPropagator
  | b3 => .multiheader b3Propagator
  | envoy => .envoy
  | traceContext => .traceContext
  | cloudTrace => .cloudTrace

def makePropagators (propagationModes : List PropagationMode) : List Propagator :=
  propagationModes.map PropagationMode.propagator

/-- The modes that are configured, or the default. -/
def LightStepTracerOptions.modes (options : LightStepTracerOptions) : List PropagationMode :=
  if options.propagationModes ≠ [] then options.propagationModes
  else if options.useSingleKeyPropagation then [.envoy]
  else [.lightstep]

def makePropagationOptions (options : LightStepTracerOptions) : PropagationOptions :=
  let (injectPropagationModes, extractPropagationModes) := setInjectExtractPropagationModes options.modes
  { injectPropagators := makePropagators injectPropagationModes ++
      if options.modes = [.envoy] then [] else [.baggage prefixBaggage]
    extractPropagators := makePropagators extractPropagationModes }

def injectSpanContext {σ : Type} (codec : BinaryCodec) (options : PropagationOptions) (carrier : TextMapWriter σ)
    (c : TraceContext) (traceState : List UInt8) (baggage : List (List UInt8 × List UInt8)) (s : σ) : Expected σ :=
  options.injectPropagators.foldlM (fun s p => p.injectSpanContext codec carrier c traceState baggage s) s

/-- Tries the propagators until one finds a context or fails. -/
def tryExtract (codec : BinaryCodec) (carrier : TextMapReader) (caseSensitive : Bool) :
    List Propagator → Extraction → Expected (Bool × Extraction)
  | [], out => .ok (false, out)
  | p :: rest, out => do
    let (found, out) ← p.extractSpanContext codec carrier caseSensitive {out with baggage := ∅}
    if found then return (true, out) else tryExtract codec carrier caseSensitive rest out

/-- Case matters in a text map and does not in HTTP headers. -/
def extractSpanContext (codec : BinaryCodec) (options : PropagationOptions) (carrier : TextMapReader)
    (caseSensitive : Bool) (out : Extraction) : Expected (Bool × Extraction) :=
  tryExtract codec carrier caseSensitive options.extractPropagators out

end Lightstep.Tracer

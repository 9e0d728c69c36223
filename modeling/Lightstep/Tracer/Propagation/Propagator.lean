import Lightstep.Common.Base64
import Lightstep.Tracer.Propagation.TraceContext
import Lightstep.Tracer.Propagation.BinaryPropagation

/-! The propagators.

Each puts a span context into headers of its own format and takes it out again.
An extraction says whether it found a context and gives the outputs it has
assigned to; with an error, nobody reads the outputs. -/
namespace Lightstep.Tracer
open Common TraceContext

/-- The output parameters of an extraction. -/
structure Extraction where
  traceContext : TraceContext
  traceState : List UInt8
  baggage : BaggageProtobufMap

def Extraction.new : Extraction := ⟨.new, [], ∅⟩

/-! ### Several headers -/

/-- A propagator with a header for each part of a context. -/
structure MultiheaderPropagator where
  traceIdKey : List UInt8
  spanIdKey : List UInt8
  sampledKey : List UInt8
  baggagePrefix : List UInt8
  supports128bit : Bool
  deriving DecidableEq

namespace MultiheaderPropagator

def fieldCount : Nat := 2
def falseStr : List UInt8 := ascii "false"
def oneStr : List UInt8 := ascii "1"
def zeroStr : List UInt8 := ascii "0"

def injectSpanContext {σ : Type} (p : MultiheaderPropagator) (carrier : TextMapWriter σ) (c : TraceContext) (s : σ) :
    Expected σ := do
  let s ← carrier.set p.traceIdKey
    (if p.supports128bit then uint128ToHex c.traceIdHigh c.traceIdLow else uint64ToHex c.traceIdLow) s
  let s ← carrier.set p.spanIdKey (uint64ToHex c.parentId) s
  carrier.set p.sampledKey (if c.sampled then oneStr else zeroStr) s

/-- The outputs while the headers are gone through, with the sampled bit and the fields counted. -/
structure Scan where
  traceContext : TraceContext
  baggage : BaggageProtobufMap
  sampled : Bool
  count : Nat

/-- The error of an id that cannot be read. What an access outside of the table does remains itself. -/
def idError : ErrorCode → ErrorCode
  | .outOfTable => .outOfTable
  | _ => .spanContextCorrupted

/-- One header of the carrier: an id, whether the span is sampled, or an item of the baggage. -/
def readHeader (p : MultiheaderPropagator) (compare : KeyCompare) (scan : Scan) (header : Header) : Expected Scan :=
  if compare header.1 p.traceIdKey then
    match hexToUint128 header.2 with
    | .error error => .error (idError error)
    | .ok traceId =>
      .ok {scan with
        traceContext := {scan.traceContext with traceIdHigh := traceId.1, traceIdLow := traceId.2}
        count := scan.count + 1}
  else if compare header.1 p.spanIdKey then
    match hexToUint64 header.2 with
    | .error error => .error (idError error)
    | .ok spanId =>
      .ok {scan with traceContext := {scan.traceContext with parentId := spanId}, count := scan.count + 1}
  else if compare header.1 p.sampledKey then
    .ok {scan with sampled := !(header.2 == falseStr || header.2 == zeroStr)}
  else .ok {scan with baggage := readBaggage p.baggagePrefix compare header scan.baggage}

def extractSpanContext (p : MultiheaderPropagator) (carrier : TextMapReader) (caseSensitive : Bool)
    (out : Extraction) : Expected (Bool × Extraction) := do
  let scan ← carrier.headers.foldlM (p.readHeader (keyCompare caseSensitive)) ⟨out.traceContext, out.baggage, true, 0⟩
  let out := {out with traceContext := scan.traceContext, baggage := scan.baggage}
  if scan.count = 0 then return (false, out)
  else if scan.count ≠ fieldCount then throw .spanContextCorrupted
  else
    return (true, {out with
      traceContext := {out.traceContext with traceFlags := setTraceFlag sampledFlagMask 0 scan.sampled}})

end MultiheaderPropagator

/-- `MakeLightStepPropagator`. -/
def lightStepPropagator : MultiheaderPropagator :=
  ⟨ascii "ot-tracer-traceid", ascii "ot-tracer-spanid", ascii "ot-tracer-sampled", prefixBaggage, false⟩

/-- `MakeB3Propagator`. -/
def b3Propagator : MultiheaderPropagator :=
  ⟨ascii "X-B3-TraceId", ascii "X-B3-SpanId", ascii "X-B3-Sampled", prefixBaggage, true⟩

/-! ### One header for all -/

namespace EnvoyPropagator

def propagationSingleKey : List UInt8 := ascii "x-ot-span-context"

def injectSpanContext {σ : Type} (codec : BinaryCodec) (carrier : TextMapWriter σ) (c : TraceContext)
    (baggage : List (List UInt8 × List UInt8)) (s : σ) : Expected σ := do
  let binaryEncoding ← injectBinary codec c.traceIdLow c.parentId c.sampled baggage
  carrier.set propagationSingleKey (Base64.encode binaryEncoding) s

def extractSpanContext (codec : BinaryCodec) (carrier : TextMapReader) (caseSensitive : Bool) (out : Extraction) :
    Expected (Bool × Extraction) :=
  let out := {out with traceContext := {out.traceContext with traceIdHigh := 0}}
  match lookupKey carrier propagationSingleKey (keyCompare caseSensitive) with
  | .error .keyNotFound => .ok (false, out)
  | .error error => .error error
  | .ok value =>
    match Base64.decode value with
    | none => .error .outOfTable
    | some [] => .error .spanContextCorrupted
    | some (b :: bytes) => do
      match ← extractBinary codec (b :: bytes) with
      | none => return (false, out)
      | some found =>
        return (true, {out with
          baggage := found.baggage
          traceContext := {out.traceContext with
            traceIdLow := found.traceId
            parentId := found.spanId
            traceFlags := setTraceFlag sampledFlagMask 0 found.sampled}})

end EnvoyPropagator

/-! ### One header and the state -/

namespace TraceContextPropagator

def traceParentHeaderKey : List UInt8 := ascii "traceparent"
def traceStateHeaderKey : List UInt8 := ascii "tracestate"

def injectSpanContext {σ : Type} (carrier : TextMapWriter σ) (c : TraceContext) (traceState : List UInt8) (s : σ) :
    Expected σ := do
  let s ← carrier.set traceParentHeaderKey c.serializeTraceContext s
  if traceState = [] then return s else carrier.set traceStateHeaderKey traceState s

/-- The outputs, and whether the parent header was found. -/
def readHeader (compare : KeyCompare) (scan : Bool × Extraction) (header : Header) : Expected (Bool × Extraction) :=
  if compare header.1 traceParentHeaderKey then do
    let c ← parseTraceContext header.2 scan.2.traceContext
    return (true, {scan.2 with traceContext := c})
  else if compare header.1 traceStateHeaderKey then .ok (scan.1, {scan.2 with traceState := header.2})
  else .ok (scan.1, {scan.2 with baggage := readBaggage prefixBaggage compare header scan.2.baggage})

def extractSpanContext (carrier : TextMapReader) (caseSensitive : Bool) (out : Extraction) :
    Expected (Bool × Extraction) :=
  carrier.headers.foldlM (readHeader (keyCompare caseSensitive)) (false, out)

end TraceContextPropagator

namespace CloudTracePropagator

def propagationSingleKey : List UInt8 := ascii "x-cloud-trace-context"

def injectSpanContext {σ : Type} (carrier : TextMapWriter σ) (c : TraceContext) (s : σ) : Expected σ :=
  carrier.set propagationSingleKey c.serializeCloudTrace s

def readHeader (compare : KeyCompare) (scan : Bool × Extraction) (header : Header) : Expected (Bool × Extraction) :=
  if compare header.1 propagationSingleKey then do
    let c ← parseCloudTrace header.2 scan.2.traceContext
    return (true, {scan.2 with traceContext := c})
  else .ok (scan.1, {scan.2 with baggage := readBaggage prefixBaggage compare header scan.2.baggage})

def extractSpanContext (carrier : TextMapReader) (caseSensitive : Bool) (out : Extraction) :
    Expected (Bool × Extraction) :=
  carrier.headers.foldlM (readHeader (keyCompare caseSensitive)) (false, out)

end CloudTracePropagator

/-! ### Baggage alone -/

namespace BaggagePropagator

def injectSpanContext {σ : Type} (baggagePrefix : List UInt8) (carrier : TextMapWriter σ)
    (baggage : List (List UInt8 × List UInt8)) (s : σ) : Expected σ :=
  baggage.foldlM (fun s item => carrier.set (baggagePrefix ++ item.1) item.2 s) s

end BaggagePropagator

/-- The propagators there are. -/
inductive Propagator where
  | multiheader (p : MultiheaderPropagator)
  | envoy
  | traceContext
  | cloudTrace
  | baggage (baggagePrefix : List UInt8)
  deriving DecidableEq

namespace Propagator

def injectSpanContext {σ : Type} (codec : BinaryCodec) (carrier : TextMapWriter σ) (c : TraceContext)
    (traceState : List UInt8) (items : List (List UInt8 × List UInt8)) : Propagator → σ → Expected σ
  | multiheader p => p.injectSpanContext carrier c
  | envoy => EnvoyPropagator.injectSpanContext codec carrier c items
  | traceContext => TraceContextPropagator.injectSpanContext carrier c traceState
  | cloudTrace => CloudTracePropagator.injectSpanContext carrier c
  | baggage baggagePrefix => BaggagePropagator.injectSpanContext baggagePrefix carrier items

def extractSpanContext (codec : BinaryCodec) (carrier : TextMapReader) (caseSensitive : Bool) (out : Extraction) :
    Propagator → Expected (Bool × Extraction)
  | multiheader p => p.extractSpanContext carrier caseSensitive out
  | envoy => EnvoyPropagator.extractSpanContext codec carrier caseSensitive out
  | traceContext => TraceContextPropagator.extractSpanContext carrier caseSensitive out
  | cloudTrace => CloudTracePropagator.extractSpanContext carrier caseSensitive out
  | baggage _ => .ok (false, out)

end Propagator
end Lightstep.Tracer

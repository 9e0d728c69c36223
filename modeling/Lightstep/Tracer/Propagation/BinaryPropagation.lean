import Lightstep.Tracer.Propagation.Carrier

/-! A span context as one message.

The code that protobuf generates for the message is not part of the repository;
`BinaryCodec` stands for it. -/
namespace Lightstep.Tracer
open Common

/-- The baggage is in the order in which its map iterates. -/
structure BasicTracerCarrier where
  traceId : UInt64
  spanId : UInt64
  sampled : Bool
  baggageItems : List (List UInt8 × List UInt8)
  deriving DecidableEq

structure BinaryCarrier where
  basicCtx : Option BasicTracerCarrier
  deriving DecidableEq

namespace BasicTracerCarrier

def default : BasicTracerCarrier := ⟨0, 0, false, []⟩

end BasicTracerCarrier

/-- `SerializeToOstream` and `ParseFromIstream`. -/
structure BinaryCodec where
  serialize : BinaryCarrier → Option (List UInt8)
  parse : List UInt8 → Option BinaryCarrier

/-- `ToLower` of the baggage: of keys that differ in case only, the first stays. -/
def toLowerBaggage (baggage : List (List UInt8 × List UInt8)) : BaggageProtobufMap :=
  baggage.foldl (fun result item => insertBaggage (toLower item.1) item.2 result) ∅

/-- The carrier `InjectSpanContext` fills; a later item of the same key replaces the value. -/
def fillCarrier (traceId spanId : UInt64) (sampled : Bool) (baggage : List (List UInt8 × List UInt8)) : BinaryCarrier :=
  ⟨some ⟨traceId, spanId, sampled,
    baggage.foldl (fun items item => setHeader (· == ·) item.1 item.2 items) []⟩⟩

def injectBinary (codec : BinaryCodec) (traceId spanId : UInt64) (sampled : Bool)
    (baggage : List (List UInt8 × List UInt8)) : Expected (List UInt8) :=
  match codec.serialize (fillCarrier traceId spanId sampled baggage) with
  | none => .error .ioError
  | some bytes => .ok bytes

/-- What an extraction assigns. -/
structure BinaryContext where
  traceId : UInt64
  spanId : UInt64
  sampled : Bool
  baggage : BaggageProtobufMap

/-- Nothing where no span is encoded. -/
def extractBinary (codec : BinaryCodec) (bytes : List UInt8) : Expected (Option BinaryContext) :=
  if bytes = [] then .ok none
  else
    match codec.parse bytes with
    | none => .error .spanContextCorrupted
    | some carrier =>
      let basic := carrier.basicCtx.getD .default
      .ok (some ⟨basic.traceId, basic.spanId, basic.sampled, toLowerBaggage basic.baggageItems⟩)

end Lightstep.Tracer

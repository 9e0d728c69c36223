import Lightstep.Common.CollectorReport

/-! The strings of a message, and the parser of the mock satellite, `proto.Unmarshal`, as a parameter.

A parser of proto3 takes no message in which some string is not valid UTF-8, a string that a
later one replaces included. What is relied on is that `proto.Unmarshal` reads every other
message below the size limit as the wire format says. -/
namespace Lightstep
namespace Collector
open Library

/-! ### The strings of a message -/

/-- What proto3 takes for a string. -/
def validUtf8 (s : List UInt8) : Bool := ByteArray.validateUTF8 ⟨s.toArray⟩

/-- Whether all fields of a message pass a check of the strings in one field. -/
def checkMessage (check : Field → Bool) (bytes : List UInt8) : Bool :=
  (parseMessage bytes).any fun fields => fields.all check

/-- The entry of a map of strings. -/
def checkEntry : Field → Bool
  | ⟨1, .lengthDelimited key⟩ => validUtf8 key
  | ⟨2, .lengthDelimited value⟩ => validUtf8 value
  | _ => true

def KeyValue.check : Field → Bool
  | ⟨1, .lengthDelimited s⟩ => validUtf8 s
  | ⟨2, .lengthDelimited s⟩ => validUtf8 s
  | ⟨6, .lengthDelimited s⟩ => validUtf8 s
  | _ => true

def Log.check : Field → Bool
  | ⟨2, .lengthDelimited bytes⟩ => checkMessage KeyValue.check bytes
  | _ => true

def SpanContext.check : Field → Bool
  | ⟨3, .lengthDelimited bytes⟩ => checkMessage checkEntry bytes
  | _ => true

def Reference.check : Field → Bool
  | ⟨2, .lengthDelimited bytes⟩ => checkMessage SpanContext.check bytes
  | _ => true

def Span.check : Field → Bool
  | ⟨1, .lengthDelimited bytes⟩ => checkMessage SpanContext.check bytes
  | ⟨2, .lengthDelimited s⟩ => validUtf8 s
  | ⟨3, .lengthDelimited bytes⟩ => checkMessage Reference.check bytes
  | ⟨6, .lengthDelimited bytes⟩ => checkMessage KeyValue.check bytes
  | ⟨7, .lengthDelimited bytes⟩ => checkMessage Log.check bytes
  | _ => true

def Reporter.check : Field → Bool
  | ⟨4, .lengthDelimited bytes⟩ => checkMessage KeyValue.check bytes
  | _ => true

def Auth.check : Field → Bool
  | ⟨1, .lengthDelimited s⟩ => validUtf8 s
  | _ => true

def MetricsSample.check : Field → Bool
  | ⟨1, .lengthDelimited s⟩ => validUtf8 s
  | _ => true

def InternalMetrics.check : Field → Bool
  | ⟨3, .lengthDelimited bytes⟩ => checkMessage Log.check bytes
  | ⟨4, .lengthDelimited bytes⟩ => checkMessage MetricsSample.check bytes
  | ⟨5, .lengthDelimited bytes⟩ => checkMessage MetricsSample.check bytes
  | _ => true

def ReportRequest.check : Field → Bool
  | ⟨1, .lengthDelimited bytes⟩ => checkMessage Reporter.check bytes
  | ⟨2, .lengthDelimited bytes⟩ => checkMessage Auth.check bytes
  | ⟨3, .lengthDelimited bytes⟩ => checkMessage Span.check bytes
  | ⟨6, .lengthDelimited bytes⟩ => checkMessage InternalMetrics.check bytes
  | _ => true

/-- Fields that fit are checked one by one. -/
theorem checkMessage_encodeFields {fields : List Field} (h : ∀ f ∈ fields, f.Fits) (check : Field → Bool) :
    checkMessage check (encodeFields fields) = fields.all check := by
  rw [checkMessage, parseMessage_encode h, Option.any_some]

/-- Regular fields that are short enough together are checked one by one. -/
theorem checkMessage_of_regular {fields : List Field} (h : ∀ f ∈ fields, f.Regular)
    (hlength : (encodeFields fields).length < 2 ^ 31) (check : Field → Bool) :
    checkMessage check (encodeFields fields) = fields.all check :=
  checkMessage_encodeFields
    (fun f hf => (h f hf).fits (Nat.lt_of_le_of_lt (length_le_encodeFields hf) hlength)) check

/-- A parser of proto3: it has a limit, and checks the strings. -/
def checkedUnmarshal {M : Type} (read : M → Field → Option M) (default : M) (check : Field → Bool)
    (bytes : List UInt8) : Option M :=
  if bytes.length < 2 ^ 31 ∧ checkMessage check bytes = true then readMessage read default bytes else none

/-- A span as a parser of proto3 takes it. -/
def Span.unmarshal : List UInt8 → Option Span := checkedUnmarshal Span.read .default Span.check

/-- It takes what one that reads strings as bytes takes, as long as they are valid. -/
theorem Span.unmarshal_eq_some_iff {bytes : List UInt8} {span : Span} :
    unmarshal bytes = some span ↔ checkMessage check bytes = true ∧ parse bytes = some span := by
  unfold unmarshal checkedUnmarshal parse
  by_cases hcheck : checkMessage check bytes = true
  · simp only [hcheck, and_true, true_and]
  · simp [hcheck]

end Collector

/-! ### The parser of the satellite -/

namespace MockSatellite
open Library Collector

/-- `proto.Unmarshal` into each of the messages that the satellite reads. -/
class ProtoUnmarshal where
  reporter : List UInt8 → Option Reporter
  auth : List UInt8 → Option Auth
  internalMetrics : List UInt8 → Option InternalMetrics
  span : List UInt8 → Option Collector.Span
  reportRequest : List UInt8 → Option ReportRequest

/-- A message below the size limit whose strings are all valid is unmarshaled. -/
structure Unmarshals {M : Type} (read : M → Field → Option M) (default : M) (check : Field → Bool)
    (unmarshal : List UInt8 → Option M) : Prop where
  reads : ∀ {bytes message}, bytes.length < 2 ^ 31 → readMessage read default bytes = some message →
    checkMessage check bytes = true → unmarshal bytes = some message

/-- Messages of all the kinds the satellite takes are read. -/
class LawfulProtoUnmarshal [ProtoUnmarshal] : Prop where
  reporter : Unmarshals Reporter.read .default Reporter.check ProtoUnmarshal.reporter
  auth : Unmarshals Auth.read .default Auth.check ProtoUnmarshal.auth
  internalMetrics :
    Unmarshals InternalMetrics.read .default InternalMetrics.check ProtoUnmarshal.internalMetrics
  span : Unmarshals Collector.Span.read .default Collector.Span.check ProtoUnmarshal.span
  reportRequest : Unmarshals ReportRequest.read .default ReportRequest.check ProtoUnmarshal.reportRequest

end MockSatellite
end Lightstep

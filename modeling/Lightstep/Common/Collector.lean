import Mathlib.Data.Finmap
import Lightstep.Library.Message

/-! The messages of a span, and how they are parsed.

A field of a message type is present or not, a scalar has its default, and a field
that comes twice is merged: the last scalar counts and repeated fields append. A
string is a list of bytes. -/
namespace Lightstep.Collector
open Library

/-- A point of time since the epoch, in seconds and a fraction of one. -/
structure Timestamp where
  seconds : Int64
  nanos : Int32
  deriving DecidableEq

/-- What a key has been given: one member of the `oneof`, a double by its bits. -/
inductive OneofValue where
  | stringValue (s : List UInt8)
  | intValue (n : Int64)
  | doubleValue (bits : UInt64)
  | boolValue (b : Bool)
  | jsonValue (s : List UInt8)
  deriving DecidableEq

/-- A tag, or a field of a log record; without a value no member of the `oneof` is set. -/
structure KeyValue where
  key : List UInt8
  value : Option OneofValue
  deriving DecidableEq

/-- One record of a log. -/
structure Log where
  timestamp : Option Timestamp
  fields : List KeyValue
  deriving DecidableEq

/-- What refers to a span. Of equal keys of the baggage the last counts. -/
structure SpanContext where
  traceId : UInt64
  spanId : UInt64
  baggage : Finmap fun _ : List UInt8 => List UInt8
  deriving DecidableEq

inductive Relationship where
  | childOf
  | followsFrom
  deriving DecidableEq

/-- The enumeration is open: it keeps the numbers it has no name for. -/
def Relationship.toInt32 : Relationship → Int32
  | childOf => 0
  | followsFrom => 1

/-- How a span comes from another, and which. -/
structure Reference where
  relationship : Int32
  spanContext : Option SpanContext
  deriving DecidableEq

/-- What a collector keeps of a span. -/
structure Span where
  spanContext : Option SpanContext
  operationName : List UInt8
  references : List Reference
  startTimestamp : Option Timestamp
  durationMicros : UInt64
  tags : List KeyValue
  logs : List Log
  deriving DecidableEq

namespace Timestamp

def default : Timestamp := ⟨0, 0⟩

def read (t : Timestamp) : Field → Option Timestamp
  | ⟨1, .varint n⟩ => some {t with seconds := n.toUInt64.toInt64}
  | ⟨2, .varint n⟩ => some {t with nanos := n.toUInt32.toInt32}
  | _ => some t

end Timestamp

namespace KeyValue

def default : KeyValue := ⟨[], none⟩

/-- A later member of the `oneof` takes the place of an earlier one. -/
def read (kv : KeyValue) : Field → Option KeyValue
  | ⟨1, .lengthDelimited s⟩ => some {kv with key := s}
  | ⟨2, .lengthDelimited s⟩ => some {kv with value := some (.stringValue s)}
  | ⟨3, .varint n⟩ => some {kv with value := some (.intValue n.toUInt64.toInt64)}
  | ⟨4, .fixed64 n⟩ => some {kv with value := some (.doubleValue n.toUInt64)}
  | ⟨5, .varint n⟩ => some {kv with value := some (.boolValue (n != 0))}
  | ⟨6, .lengthDelimited s⟩ => some {kv with value := some (.jsonValue s)}
  | _ => some kv

end KeyValue

namespace Log

def default : Log := ⟨none, []⟩

/-- The timestamp merges with what there is, the fields append. -/
def read (log : Log) : Field → Option Log
  | ⟨1, .lengthDelimited bytes⟩ =>
    (readMessage Timestamp.read (log.timestamp.getD .default) bytes).map fun t => {log with timestamp := some t}
  | ⟨2, .lengthDelimited bytes⟩ =>
    (readMessage KeyValue.read .default bytes).map fun kv => {log with fields := log.fields ++ [kv]}
  | _ => some log

end Log

namespace SpanContext

def default : SpanContext := ⟨0, 0, ∅⟩

/-- An entry of the map is a message of its own and replaces the one of its key. -/
def read (c : SpanContext) : Field → Option SpanContext
  | ⟨1, .varint n⟩ => some {c with traceId := n.toUInt64}
  | ⟨2, .varint n⟩ => some {c with spanId := n.toUInt64}
  | ⟨3, .lengthDelimited bytes⟩ =>
    (readMessage readEntry ([], []) bytes).map fun entry => {c with baggage := c.baggage.insert entry.1 entry.2}
  | _ => some c

end SpanContext

namespace Reference

def default : Reference := ⟨0, none⟩

def read (r : Reference) : Field → Option Reference
  | ⟨1, .varint n⟩ => some {r with relationship := n.toUInt32.toInt32}
  | ⟨2, .lengthDelimited bytes⟩ =>
    (readMessage SpanContext.read (r.spanContext.getD .default) bytes).map fun c => {r with spanContext := some c}
  | _ => some r

end Reference

namespace Span

/-- The message without a field, as for each of the messages before. -/
def default : Span := ⟨none, [], [], none, 0, [], []⟩

/-- The context and the timestamp merge with what there is, the repeated fields append. -/
def read (span : Span) : Field → Option Span
  | ⟨1, .lengthDelimited bytes⟩ =>
    (readMessage SpanContext.read (span.spanContext.getD .default) bytes).map fun c =>
      {span with spanContext := some c}
  | ⟨2, .lengthDelimited s⟩ => some {span with operationName := s}
  | ⟨3, .lengthDelimited bytes⟩ =>
    (readMessage Reference.read .default bytes).map fun r => {span with references := span.references ++ [r]}
  | ⟨4, .lengthDelimited bytes⟩ =>
    (readMessage Timestamp.read (span.startTimestamp.getD .default) bytes).map fun t =>
      {span with startTimestamp := some t}
  | ⟨5, .varint n⟩ => some {span with durationMicros := n.toUInt64}
  | ⟨6, .lengthDelimited bytes⟩ =>
    (readMessage KeyValue.read .default bytes).map fun kv => {span with tags := span.tags ++ [kv]}
  | ⟨7, .lengthDelimited bytes⟩ =>
    (readMessage Log.read .default bytes).map fun log => {span with logs := span.logs ++ [log]}
  | _ => some span

/-- A parser takes no message of `2 ^ 31` bytes or more. -/
def parse (bytes : List UInt8) : Option Span :=
  if bytes.length < 2 ^ 31 then readMessage read default bytes else none

end Span
end Lightstep.Collector

import Lightstep.Common.Serialization

/-! Conversions to the messages of the collector. -/
namespace Lightstep.Common
open Collector

/-- Nanoseconds on the steady clock. -/
abbrev SteadyTime := Int64

def toSystemTimestamp (timestampDelta : Int64) (steadyTimestamp : SteadyTime) : SystemTime :=
  steadyTimestamp + timestampDelta

def toSteadyTimestamp (timestampDelta : Int64) (systemTimestamp : SystemTime) : SteadyTime :=
  systemTimestamp - timestampDelta

def toTimestamp (t : SystemTime) : Timestamp :=
  let (secondsSinceEpoch, nanoFraction) := protobufFormatTimestamp t
  ⟨secondsSinceEpoch.toInt64, nanoFraction.toInt32⟩

variable [DoubleFormat]

/-- There is no unsigned integer among the values of the message. -/
def toKeyValue (key : List UInt8) (value : Value) : KeyValue :=
  match value with
  | .bool value => ⟨key, some (.boolValue value)⟩
  | .double value => ⟨key, some (.doubleValue value)⟩
  | .int64 value => ⟨key, some (.intValue value)⟩
  | .uint64 value => ⟨key, some (.intValue value.toInt64)⟩
  | .string s => ⟨key, some (.stringValue s)⟩
  | .null => ⟨key, some (.boolValue false)⟩
  | .cString s => ⟨key, some (.stringValue (cStringView s))⟩
  | .values values => ⟨key, some (.jsonValue (toJson (.values values)))⟩
  | .dictionary dictionary => ⟨key, some (.jsonValue (toJson (.dictionary dictionary)))⟩

def toLog (timestamp : SystemTime) (fields : List (List UInt8 × Value)) : Log :=
  ⟨some (toTimestamp timestamp), fields.map fun field => toKeyValue field.1 field.2⟩

end Lightstep.Common

import Lightstep.Common.Collector

/-! The messages of a report, how they are serialized and how they are parsed.

The generated serializers leave out a scalar that has its default, and a member of a
`oneof` only if it is not set. -/
namespace Lightstep.Collector
open Library

/-- Who reports: the tracer by its number, and what it is tagged with. -/
structure Reporter where
  reporterId : UInt64
  tags : List KeyValue
  deriving DecidableEq

/-- On whose behalf a report is made. -/
structure Auth where
  accessToken : List UInt8
  deriving DecidableEq

/-- The value of a sample, a double by its bits. -/
inductive SampleValue where
  | intValue (n : Int64)
  | doubleValue (bits : UInt64)
  deriving DecidableEq

/-- One sample of a metric. -/
structure MetricsSample where
  name : List UInt8
  value : Option SampleValue
  deriving DecidableEq

/-- What a reporter tells of its own working; the dropped spans are among the counts. -/
structure InternalMetrics where
  startTimestamp : Option Timestamp
  durationMicros : UInt64
  logs : List Log
  counts : List MetricsSample
  gauges : List MetricsSample
  deriving DecidableEq

/-- A report: who makes it, and the spans. -/
structure ReportRequest where
  reporter : Option Reporter
  auth : Option Auth
  spans : List Span
  timestampOffsetMicros : Int32
  internalMetrics : Option InternalMetrics
  deriving DecidableEq

/-! ### Serializing -/

/-- A string field, which is left out if it is empty. -/
def stringFields (number : Nat) (s : List UInt8) : List Field := if s = [] then [] else [⟨number, .lengthDelimited s⟩]

/-- The field of the member that is set. -/
def OneofValue.field : OneofValue → Field
  | stringValue s => ⟨2, .lengthDelimited s⟩
  | intValue n => ⟨3, .varint n.toUInt64.toNat⟩
  | doubleValue bits => ⟨4, .fixed64 bits.toNat⟩
  | boolValue b => ⟨5, .varint b.toNat⟩
  | jsonValue s => ⟨6, .lengthDelimited s⟩

def KeyValue.fields (kv : KeyValue) : List Field := stringFields 1 kv.key ++ (kv.value.map OneofValue.field).toList

/-- The number of a reporter, which is left out if it is 0. -/
def Reporter.idFields (reporterId : UInt64) : List Field :=
  if reporterId = 0 then [] else [⟨1, .varint reporterId.toNat⟩]

/-- A tag is a message of its own. -/
def Reporter.tagField (kv : KeyValue) : Field := ⟨4, .lengthDelimited (encodeFields kv.fields)⟩

def Reporter.fields (reporter : Reporter) : List Field :=
  idFields reporter.reporterId ++ reporter.tags.map tagField

def Auth.fields (auth : Auth) : List Field := stringFields 1 auth.accessToken

/-! ### Parsing -/

namespace Reporter

def default : Reporter := ⟨0, []⟩

/-- Tags append, and a field that is not known is passed over; so for each message. -/
def read (reporter : Reporter) : Field → Option Reporter
  | ⟨1, .varint n⟩ => some {reporter with reporterId := n.toUInt64}
  | ⟨4, .lengthDelimited bytes⟩ =>
    (readMessage KeyValue.read .default bytes).map fun kv => {reporter with tags := reporter.tags ++ [kv]}
  | _ => some reporter

end Reporter

namespace Auth

def default : Auth := ⟨[]⟩

def read (auth : Auth) : Field → Option Auth
  | ⟨1, .lengthDelimited s⟩ => some {auth with accessToken := s}
  | _ => some auth

end Auth

namespace MetricsSample

def default : MetricsSample := ⟨[], none⟩

/-- A later member of the `oneof` takes the place of an earlier one. -/
def read (sample : MetricsSample) : Field → Option MetricsSample
  | ⟨1, .lengthDelimited s⟩ => some {sample with name := s}
  | ⟨2, .varint n⟩ => some {sample with value := some (.intValue n.toUInt64.toInt64)}
  | ⟨3, .fixed64 n⟩ => some {sample with value := some (.doubleValue n.toUInt64)}
  | _ => some sample

end MetricsSample

namespace InternalMetrics

def default : InternalMetrics := ⟨none, 0, [], [], []⟩

def read (metrics : InternalMetrics) : Field → Option InternalMetrics
  | ⟨1, .lengthDelimited bytes⟩ =>
    (readMessage Timestamp.read (metrics.startTimestamp.getD .default) bytes).map fun t =>
      {metrics with startTimestamp := some t}
  | ⟨2, .varint n⟩ => some {metrics with durationMicros := n.toUInt64}
  | ⟨3, .lengthDelimited bytes⟩ =>
    (readMessage Log.read .default bytes).map fun log => {metrics with logs := metrics.logs ++ [log]}
  | ⟨4, .lengthDelimited bytes⟩ =>
    (readMessage MetricsSample.read .default bytes).map fun sample =>
      {metrics with counts := metrics.counts ++ [sample]}
  | ⟨5, .lengthDelimited bytes⟩ =>
    (readMessage MetricsSample.read .default bytes).map fun sample =>
      {metrics with gauges := metrics.gauges ++ [sample]}
  | _ => some metrics

end InternalMetrics

namespace ReportRequest

def default : ReportRequest := ⟨none, none, [], 0, none⟩

/-- A message that comes twice merges with what there is; spans append. -/
def read (report : ReportRequest) : Field → Option ReportRequest
  | ⟨1, .lengthDelimited bytes⟩ =>
    (readMessage Reporter.read (report.reporter.getD .default) bytes).map fun reporter =>
      {report with reporter := some reporter}
  | ⟨2, .lengthDelimited bytes⟩ =>
    (readMessage Auth.read (report.auth.getD .default) bytes).map fun auth => {report with auth := some auth}
  | ⟨3, .lengthDelimited bytes⟩ =>
    (readMessage Span.read .default bytes).map fun span => {report with spans := report.spans ++ [span]}
  | ⟨5, .varint n⟩ => some {report with timestampOffsetMicros := n.toUInt32.toInt32}
  | ⟨6, .lengthDelimited bytes⟩ =>
    (readMessage InternalMetrics.read (report.internalMetrics.getD .default) bytes).map fun metrics =>
      {report with internalMetrics := some metrics}
  | _ => some report

/-- A parser takes no message of `2 ^ 31` bytes or more. -/
def parse (bytes : List UInt8) : Option ReportRequest :=
  if bytes.length < 2 ^ 31 then readMessage read default bytes else none

end ReportRequest

/-! ### What is serialized is parsed back -/

theorem regular_stringFields {number : Nat} (hpos : 0 < number) (hlt : number < 2 ^ 29) (s : List UInt8) :
    ∀ f ∈ stringFields number s, f.Regular := by
  intro f hf
  unfold stringFields at hf
  split at hf
  · cases hf
  · rw [List.mem_singleton.mp hf]
    exact regular_lengthDelimited hpos hlt s

theorem OneofValue.regular_field (value : OneofValue) : value.field.Regular := by
  cases value with
  | stringValue s => exact regular_lengthDelimited (by decide) (by decide) s
  | intValue n => exact regular_varint64 (by decide) (by decide) n.toUInt64
  | doubleValue bits => exact ⟨(by decide : 0 < 4), (by decide : 4 < 2 ^ 29), bits.toNat_lt⟩
  | boolValue b => exact ⟨(by decide : 0 < 5), (by decide : 5 < 2 ^ 29), Nat.lt_of_le_of_lt b.toNat_le (by decide)⟩
  | jsonValue s => exact regular_lengthDelimited (by decide) (by decide) s

theorem KeyValue.regular_fields (kv : KeyValue) : ∀ f ∈ kv.fields, f.Regular := by
  intro f hf
  rcases List.mem_append.mp hf with hkey | hvalue
  · exact regular_stringFields (by decide) (by decide) kv.key f hkey
  · obtain ⟨value, -, rfl⟩ := Option.map_eq_some_iff.mp (Option.mem_toList.mp hvalue)
    exact value.regular_field

/-- The member that was set is the one that is read. -/
theorem KeyValue.read_field (key : List UInt8) (value : OneofValue) :
    KeyValue.read ⟨key, none⟩ value.field = some ⟨key, some value⟩ := by
  cases value with
  | stringValue s => rfl
  | intValue n => exact congrArg (fun x => some (KeyValue.mk key (some (.intValue x.toInt64)))) UInt64.ofNat_toNat
  | doubleValue bits => exact congrArg (fun x => some (KeyValue.mk key (some (.doubleValue x)))) UInt64.ofNat_toNat
  | boolValue b => cases b <;> rfl
  | jsonValue s => rfl

/-- A tag is read back, with its value if it has one. -/
theorem KeyValue.read_fields {kv : KeyValue} (h : (encodeFields kv.fields).length < 2 ^ 31) :
    readMessage KeyValue.read .default (encodeFields kv.fields) = some kv := by
  have hkey : (stringFields 1 kv.key).foldlM KeyValue.read .default = some ⟨kv.key, none⟩ := by
    unfold stringFields
    split
    · rename_i hnil
      rw [hnil]
      rfl
    · rfl
  rw [readMessage_of_regular kv.regular_fields h, KeyValue.fields, List.foldlM_append, hkey]
  obtain ⟨key, value⟩ := kv
  cases value with
  | none => rfl
  | some value => exact congrArg (Option.bind · some) (KeyValue.read_field key value)

theorem Reporter.regular_fields (reporter : Reporter) : ∀ f ∈ reporter.fields, f.Regular := by
  intro f hf
  rcases List.mem_append.mp hf with hid | htag
  · unfold idFields at hid
    split at hid
    · cases hid
    · rw [List.mem_singleton.mp hid]
      exact regular_varint64 (by decide) (by decide) reporter.reporterId
  · obtain ⟨kv, -, rfl⟩ := List.mem_map.mp htag
    exact regular_lengthDelimited (by decide) (by decide) _

theorem Reporter.read_idFields (reporterId : UInt64) :
    (idFields reporterId).foldlM Reporter.read .default = some ⟨reporterId, []⟩ := by
  unfold idFields
  split
  · rename_i hzero
    rw [hzero]
    rfl
  · exact congrArg (fun x => some (Reporter.mk x [])) UInt64.ofNat_toNat

/-- The tags are read in their order. -/
theorem Reporter.read_tags {tags : List KeyValue} (h : ∀ kv ∈ tags, (tagField kv).encode.length < 2 ^ 31)
    (reporter : Reporter) :
    (tags.map tagField).foldlM Reporter.read reporter = some {reporter with tags := reporter.tags ++ tags} := by
  induction tags generalizing reporter with
  | nil => simp
  | cons kv tags ih =>
    have hrest := ih (fun x hx => h x (List.mem_cons_of_mem kv hx)) {reporter with tags := reporter.tags ++ [kv]}
    rw [List.append_assoc] at hrest
    have hlength := Nat.lt_of_le_of_lt (length_le_encode 4 _) (h kv (List.mem_cons_self ..))
    have hread : reporter.read (tagField kv) = some {reporter with tags := reporter.tags ++ [kv]} :=
      congrArg (Option.map _) (KeyValue.read_fields hlength)
    rw [List.map_cons, List.foldlM_cons, hread]
    exact hrest

/-- **A reporter is read back**, its number and all tags. -/
theorem Reporter.read_fields {reporter : Reporter} (h : (encodeFields reporter.fields).length < 2 ^ 31) :
    readMessage Reporter.read .default (encodeFields reporter.fields) = some reporter := by
  have htags : ∀ kv ∈ reporter.tags, (tagField kv).encode.length < 2 ^ 31 := by
    intro kv hkv
    have hmem : tagField kv ∈ reporter.fields := List.mem_append_right _ (List.mem_map_of_mem hkv)
    exact Nat.lt_of_le_of_lt (length_le_encodeFields hmem) h
  rw [readMessage_of_regular reporter.regular_fields h, Reporter.fields, List.foldlM_append,
    Reporter.read_idFields]
  exact Reporter.read_tags htags _

/-- So is the token, also an empty one, which is not written. -/
theorem Auth.read_fields {auth : Auth} (h : (encodeFields auth.fields).length < 2 ^ 31) :
    readMessage Auth.read .default (encodeFields auth.fields) = some auth := by
  have hregular : ∀ f ∈ auth.fields, f.Regular := regular_stringFields (by decide) (by decide) auth.accessToken
  rw [readMessage_of_regular hregular h, Auth.fields, stringFields]
  obtain ⟨accessToken⟩ := auth
  split
  · rename_i hnil
    obtain rfl : accessToken = [] := hnil
    rfl
  · rfl

end Lightstep.Collector

import Lightstep.Common.Protobuf
import Lightstep.Common.ProtoUnmarshal
import Lightstep.Common.Utility
import Lightstep.Recorder.Metrics

/-! The parts of a report that are the same for every report of a recorder: who
reports, with the tags of its tracer, and the access token. -/
namespace Lightstep.Recorder
open Library Common

def reportRequestReporterField : UInt32 := 1

def reportRequestAuthField : UInt32 := 2

/-- What a report says of the tracer; the tags are in the order in which they iterate. -/
structure LightStepTracerOptions where
  accessToken : List UInt8
  tags : List (List UInt8 × Value)

/-- The counts of the metrics message: the spans dropped. -/
def droppedSpansMetrics (numDroppedSpans : Int32) : Collector.InternalMetrics :=
  {Collector.InternalMetrics.default with
    counts := [⟨ascii "spans.dropped", some (.intValue numDroppedSpans.toInt64)⟩]}

theorem fits_droppedSpansCount (m : EmbeddedMetricsMessage) : ∀ f ∈ m.droppedSpansCount, f.Fits := by
  intro f hf
  rcases List.mem_pair.mp hf with rfl | rfl
  · exact fits_mk (by decide) (by decide) (show (ascii "spans.dropped").length < 2 ^ 31 by decide)
  · exact fits_mk (by decide) (by decide) m.numDroppedSpans.toInt64.toUInt64.toNat_lt

theorem length_metricsMessage_lt (m : EmbeddedMetricsMessage) : (encodeFields m.message).length < 2 ^ 31 := by
  have hfragment : (encodeFields m.message).length ≤ m.makeFragment.length := length_le_encode 6 _
  have hmax := m.makeFragment_length_le
  omega

theorem fits_metricsMessage (m : EmbeddedMetricsMessage) : ∀ f ∈ m.message, f.Fits := by
  intro f hf
  have hle : (encodeFields m.droppedSpansCount).length ≤ (encodeFields m.message).length :=
    Nat.le_trans (length_le_encode 4 _) (length_le_encodeFields (List.mem_singleton_self _))
  rw [List.mem_singleton.mp hf]
  exact fits_mk (by decide) (by decide) (Nat.lt_of_le_of_lt hle (length_metricsMessage_lt m))

theorem read_metricsMessage (m : EmbeddedMetricsMessage) :
    readMessage Collector.InternalMetrics.read .default (encodeFields m.message) =
      some (droppedSpansMetrics m.numDroppedSpans) := by
  have hsample : readMessage Collector.MetricsSample.read .default (encodeFields m.droppedSpansCount) =
      some ⟨ascii "spans.dropped", some (.intValue m.numDroppedSpans.toInt64)⟩ := by
    rw [readMessage_encodeFields (fits_droppedSpansCount m)]
    exact congrArg (fun n => some (Collector.MetricsSample.mk _ (some (.intValue n.toInt64)))) UInt64.ofNat_toNat
  rw [readMessage_encodeFields (fits_metricsMessage m)]
  show ((readMessage Collector.MetricsSample.read .default (encodeFields m.droppedSpansCount)).map _).bind _ = _
  rw [hsample]
  rfl

/-- The one string of the metrics is valid. -/
theorem check_metricsMessage (m : EmbeddedMetricsMessage) :
    Collector.checkMessage Collector.InternalMetrics.check (encodeFields m.message) = true := by
  have hsample : Collector.checkMessage Collector.MetricsSample.check (encodeFields m.droppedSpansCount) = true := by
    rw [Collector.checkMessage_encodeFields (fits_droppedSpansCount m)]
    have hname : Collector.validUtf8 (ascii "spans.dropped") = true := by decide +kernel
    simp only [EmbeddedMetricsMessage.droppedSpansCount, List.all_cons, List.all_nil,
      Collector.MetricsSample.check, hname, Bool.and_self]
  rw [Collector.checkMessage_encodeFields (fits_metricsMessage m)]
  simp only [EmbeddedMetricsMessage.message, List.all_cons, List.all_nil, Collector.InternalMetrics.check, hsample,
    Bool.and_self]

variable [DoubleFormat]

def LightStepTracerOptions.reporter (tracerOptions : LightStepTracerOptions) (reporterId : UInt64) :
    Collector.Reporter := ⟨reporterId, tracerOptions.tags.map fun tag => toKeyValue tag.1 tag.2⟩

def LightStepTracerOptions.auth (tracerOptions : LightStepTracerOptions) : Collector.Auth :=
  ⟨tracerOptions.accessToken⟩

def writeReportRequestHeader (tracerOptions : LightStepTracerOptions) (reporterId : UInt64) : List UInt8 :=
  let stream := writeEmbeddedMessage reportRequestReporterField (tracerOptions.reporter reporterId).fields []
  writeEmbeddedMessage reportRequestAuthField tracerOptions.auth.fields stream

/-- The two fields of a report that its header is. -/
def reportHeaderFields (tracerOptions : LightStepTracerOptions) (reporterId : UInt64) : List Field :=
  [⟨1, .lengthDelimited (encodeFields (tracerOptions.reporter reporterId).fields)⟩,
    ⟨2, .lengthDelimited (encodeFields tracerOptions.auth.fields)⟩]

theorem writeReportRequestHeader_eq (tracerOptions : LightStepTracerOptions) (reporterId : UInt64) :
    writeReportRequestHeader tracerOptions reporterId =
      encodeFields (reportHeaderFields tracerOptions reporterId) := by
  rw [writeReportRequestHeader, writeEmbeddedMessage_eq (by decide), writeEmbeddedMessage_eq (by decide),
    reportHeaderFields, encodeFields_cons, encodeFields_singleton]
  rfl

theorem length_reportHeader {tracerOptions : LightStepTracerOptions} {reporterId : UInt64}
    (h : (writeReportRequestHeader tracerOptions reporterId).length < 2 ^ 31) :
    (encodeFields (tracerOptions.reporter reporterId).fields).length < 2 ^ 31 ∧
      (encodeFields tracerOptions.auth.fields).length < 2 ^ 31 := by
  rw [writeReportRequestHeader_eq] at h
  have hle : ∀ {number : Nat} {bytes : List UInt8},
      ⟨number, .lengthDelimited bytes⟩ ∈ reportHeaderFields tracerOptions reporterId → bytes.length < 2 ^ 31 :=
    fun hmem => Nat.lt_of_le_of_lt (Nat.le_trans (length_le_encode _ _) (length_le_encodeFields hmem)) h
  exact ⟨hle (List.mem_cons_self ..), hle (List.mem_cons_of_mem _ (List.mem_singleton_self _))⟩

theorem regular_reportHeaderFields (tracerOptions : LightStepTracerOptions) (reporterId : UInt64) :
    ∀ f ∈ reportHeaderFields tracerOptions reporterId, f.Regular := by
  intro f hf
  rcases List.mem_pair.mp hf with rfl | rfl
  · exact regular_lengthDelimited (by decide) (by decide) _
  · exact regular_lengthDelimited (by decide) (by decide) _

/-- A header whose parts a parser takes. -/
structure ValidHeader (tracerOptions : LightStepTracerOptions) (reporterId : UInt64) : Prop where
  length_lt : (writeReportRequestHeader tracerOptions reporterId).length < 2 ^ 31
  check : Collector.checkMessage Collector.ReportRequest.check (writeReportRequestHeader tracerOptions reporterId) = true

theorem ValidHeader.check_field {tracerOptions : LightStepTracerOptions} {reporterId : UInt64}
    (h : ValidHeader tracerOptions reporterId) :
    ∀ f ∈ reportHeaderFields tracerOptions reporterId, Collector.ReportRequest.check f = true := by
  have hlength := h.length_lt
  have hcheck := h.check
  rw [writeReportRequestHeader_eq] at hlength hcheck
  rwa [Collector.checkMessage_of_regular (regular_reportHeaderFields tracerOptions reporterId) hlength,
    List.all_eq_true] at hcheck

theorem ValidHeader.checks {tracerOptions : LightStepTracerOptions} {reporterId : UInt64}
    (h : ValidHeader tracerOptions reporterId) :
    Collector.checkMessage Collector.Reporter.check (encodeFields (tracerOptions.reporter reporterId).fields) = true ∧
      Collector.checkMessage Collector.Auth.check (encodeFields tracerOptions.auth.fields) = true :=
  ⟨h.check_field _ (List.mem_cons_self ..), h.check_field _ (List.mem_cons_of_mem _ (List.mem_singleton_self _))⟩

end Lightstep.Recorder

import Lightstep.Library.Wire
import Lightstep.Library.WordCount
import Lightstep.Common.Characters

/-! The recorder's counts, and the message they are reported in. -/
namespace Lightstep.Recorder
open Library Common

/-- What a metrics observer has been told. -/
structure MetricsObserver where
  spansSent : Nat
  spansDropped : Nat
  flushes : Nat
  deriving DecidableEq

/-- The drops that no report has taken over are counted in an `int`, which wraps. -/
structure MetricsTracker where
  metricsObserver : MetricsObserver
  numDroppedSpans : Int32
  deriving DecidableEq

namespace MetricsTracker

def new : MetricsTracker := ⟨⟨0, 0, 0⟩, 0⟩

def onSpansDropped (m : MetricsTracker) (numSpans : Nat) : MetricsTracker :=
  {m with metricsObserver := {m.metricsObserver with spansDropped := m.metricsObserver.spansDropped + numSpans}
          numDroppedSpans := m.numDroppedSpans + .ofNat numSpans}

def onSpansSent (m : MetricsTracker) (numSpans : Nat) : MetricsTracker :=
  {m with metricsObserver := {m.metricsObserver with spansSent := m.metricsObserver.spansSent + numSpans}}

def onFlush (m : MetricsTracker) : MetricsTracker :=
  {m with metricsObserver := {m.metricsObserver with flushes := m.metricsObserver.flushes + 1}}

def consumeDroppedSpans (m : MetricsTracker) : Int32 × MetricsTracker :=
  (m.numDroppedSpans, {m with numDroppedSpans := 0})

def unconsumeDroppedSpans (m : MetricsTracker) (numSpans : Int32) : MetricsTracker :=
  {m with numDroppedSpans := m.numDroppedSpans + numSpans}

/-! What the observer has been told in all. -/

def spansSent (m : MetricsTracker) : Nat := m.metricsObserver.spansSent

def spansDropped (m : MetricsTracker) : Nat := m.metricsObserver.spansDropped

end MetricsTracker

/-- The metrics message of a report request, with one count of dropped spans. -/
structure EmbeddedMetricsMessage where
  numDroppedSpans : Int32
  deriving DecidableEq

namespace EmbeddedMetricsMessage

def new : EmbeddedMetricsMessage := ⟨0⟩

def setNumDroppedSpans (_ : EmbeddedMetricsMessage) (numDroppedSpans : Int32) : EmbeddedMetricsMessage :=
  ⟨numDroppedSpans⟩

/-- `collector.MetricsSample`: its name and the member of its `oneof` that is set, an `int64`. -/
def droppedSpansCount (m : EmbeddedMetricsMessage) : List Field :=
  [⟨1, .lengthDelimited (ascii "spans.dropped")⟩, ⟨2, .varint m.numDroppedSpans.toInt64.toUInt64.toNat⟩]

/-- `collector.InternalMetrics`, which has nothing but its counts. -/
def message (m : EmbeddedMetricsMessage) : List Field :=
  [⟨4, .lengthDelimited (encodeFields m.droppedSpansCount)⟩]

/-- The message as the internal metrics of a `collector.ReportRequest`. -/
def makeFragment (m : EmbeddedMetricsMessage) : List UInt8 :=
  (⟨6, .lengthDelimited (encodeFields m.message)⟩ : Field).encode

theorem makeFragment_length_le (m : EmbeddedMetricsMessage) : m.makeFragment.length ≤ 100 := by
  have hcounts : (encodeFields m.droppedSpansCount).length ≤ 53 := by
    have hname := Field.encode_length_le ⟨1, .lengthDelimited (ascii "spans.dropped")⟩
    have hcount := Field.encode_length_le ⟨2, .varint m.numDroppedSpans.toInt64.toUInt64.toNat⟩
    simp only [WireValue.size, show (ascii "spans.dropped").length = 13 from rfl] at hname hcount
    simp only [droppedSpansCount, encodeFields, List.flatMap_cons, List.flatMap_nil, List.length_append,
      List.length_nil]
    omega
  have hmessage : (encodeFields m.message).length ≤ 73 := by
    have hfield := Field.encode_length_le ⟨4, .lengthDelimited (encodeFields m.droppedSpansCount)⟩
    simp only [WireValue.size] at hfield
    simp only [message, encodeFields, List.flatMap_cons, List.flatMap_nil, List.append_nil] at hcounts hfield ⊢
    omega
  have hfield := Field.encode_length_le ⟨6, .lengthDelimited (encodeFields m.message)⟩
  simp only [WireValue.size] at hfield
  rw [makeFragment]
  omega

end EmbeddedMetricsMessage
end Lightstep.Recorder

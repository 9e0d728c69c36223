import Lightstep.Library.Ledger
import Lightstep.Common.Characters
import Lightstep.Common.Collector
import Lightstep.Recorder.Metrics

/-! Reports as messages, and how the pending one is built. -/
namespace Lightstep.Recorder
open Common

/-- What every report of a tracer begins with: its reporter and its authentication. -/
structure Preamble where
  reporterId : UInt64
  tags : List Collector.KeyValue
  accessToken : List UInt8
  deriving DecidableEq

structure MetricsSample where
  name : List UInt8
  intValue : Nat
  deriving DecidableEq

/-- `collector.ReportRequest`. The recorders do not look at the spans. -/
structure ReportMessage (Span : Type) where
  preamble : Option Preamble
  spans : List Span
  counts : List MetricsSample
  deriving DecidableEq

/-- A command of a response, and the response; nothing else of them is read. -/
structure Command where
  disable : Bool
  deriving DecidableEq

structure ReportResponse where
  commands : List Command
  deriving DecidableEq

namespace ReportMessage
variable {Span : Type}

/-- `Clear`. -/
def empty : ReportMessage Span := ⟨none, [], []⟩

def spansDropped : List UInt8 := ascii "spans.dropped"

/-- The dropped spans a report tells of, over all its counts. -/
def numDroppedSpans (m : ReportMessage Span) : Nat :=
  ((m.counts.filter fun count => count.name = spansDropped).map MetricsSample.intValue).sum

def batch (m : ReportMessage Span) : Library.Batch Span := ⟨m.spans, m.numDroppedSpans⟩

theorem items_map_batch (reports : List (ReportMessage Span)) :
    Library.Ledger.items (↑(reports.map batch) : Multiset (Library.Batch Span)) =
      (↑(reports.flatMap spans) : Multiset Span) :=
  Library.Ledger.items_coe_map (fun _ => rfl) reports

theorem reported_map_batch (reports : List (ReportMessage Span)) :
    Library.Ledger.reported (↑(reports.map batch) : Multiset (Library.Batch Span)) =
      (reports.map numDroppedSpans).sum :=
  Library.Ledger.reported_coe_map (fun _ => rfl) reports

end ReportMessage

/-- Whether a response has a command that disables the tracer. -/
def ReportResponse.disables (r : ReportResponse) : Bool := r.commands.any Command.disable

structure ReportBuilder (Span : Type) where
  resetNext : Bool
  preamble : Preamble
  pending : ReportMessage Span

namespace ReportBuilder
variable {Span : Type}

def new (preamble : Preamble) : ReportBuilder Span := ⟨true, preamble, .empty⟩

def addSpan (b : ReportBuilder Span) (span : Span) : ReportBuilder Span :=
  let b := if b.resetNext then {b with pending := {ReportMessage.empty with preamble := some b.preamble}
                                       resetNext := false}
    else b
  {b with pending := {b.pending with spans := b.pending.spans ++ [span]}}

def numPendingSpans (b : ReportBuilder Span) : Nat := b.pending.spans.length

def setPendingClientDroppedSpans (b : ReportBuilder Span) (spans : Nat) : ReportBuilder Span :=
  {b with pending := {b.pending with counts := b.pending.counts ++ [⟨ReportMessage.spansDropped, spans⟩]}}

/-- `std::swap(builder.pending(), other)`: the builder with the other message, and the pending one. -/
def swapPending (b : ReportBuilder Span) (other : ReportMessage Span) : ReportBuilder Span × ReportMessage Span :=
  ({b with resetNext := true, pending := other}, b.pending)

/-- Between two calls: the next span begins the message anew, or the message has the preamble and
spans and no count yet. -/
structure Ready (b : ReportBuilder Span) : Prop where
  empty : b.resetNext = true → b.pending.spans = []
  counts : b.resetNext = false → b.pending.counts = []
  preamble : b.resetNext = false → b.pending.preamble = some b.preamble

theorem new_ready (preamble : Preamble) : (new preamble : ReportBuilder Span).Ready :=
  ⟨fun _ => rfl, fun h => (by cases h), fun h => (by cases h)⟩

theorem Ready.addSpan {b : ReportBuilder Span} (h : b.Ready) (span : Span) :
    (b.addSpan span).Ready ∧ (b.addSpan span).pending.spans = b.pending.spans ++ [span] := by
  unfold ReportBuilder.addSpan
  cases hreset : b.resetNext with
  | true =>
    refine ⟨⟨fun h => (by cases h), fun _ => rfl, fun _ => rfl⟩, ?_⟩
    simp only [if_true, h.empty hreset]
    rfl
  | false =>
    simp only [Bool.false_eq_true, if_false]
    refine ⟨⟨fun hr => absurd (hreset.symm.trans hr) Bool.false_ne_true, fun _ => h.counts hreset,
      fun _ => h.preamble hreset⟩, trivial⟩

/-- The pending spans in a report with one count. -/
structure Report (b : ReportBuilder Span) (numDroppedSpans : Nat) (m : ReportMessage Span) : Prop where
  spans : m.spans = b.pending.spans
  counts : m.counts = [⟨ReportMessage.spansDropped, numDroppedSpans⟩]
  preamble : m.preamble = some b.preamble

theorem Report.numDroppedSpans_eq {b : ReportBuilder Span} {k : Nat} {m : ReportMessage Span} (h : b.Report k m) :
    m.numDroppedSpans = k := by
  rw [ReportMessage.numDroppedSpans, h.counts]
  simp

theorem Report.batch_eq {b : ReportBuilder Span} {k : Nat} {m : ReportMessage Span} (h : b.Report k m) :
    m.batch = ⟨b.pending.spans, k⟩ := by
  rw [ReportMessage.batch, h.spans, h.numDroppedSpans_eq]

/-- Pending spans leave in a report of their own, and a cleared message takes their place. -/
theorem Ready.swapPending {b : ReportBuilder Span} (h : b.Ready) (hpending : b.numPendingSpans ≠ 0)
    (numDroppedSpans : Nat) {other : ReportMessage Span} (hother : other.spans = []) :
    ((b.setPendingClientDroppedSpans numDroppedSpans).swapPending other).1.Ready ∧
      ((b.setPendingClientDroppedSpans numDroppedSpans).swapPending other).1.pending = other ∧
      b.Report numDroppedSpans ((b.setPendingClientDroppedSpans numDroppedSpans).swapPending other).2 := by
  have hreset : b.resetNext = false := by
    cases hr : b.resetNext with
    | false => rfl
    | true => exact absurd (congrArg List.length (h.empty hr)) hpending
  refine ⟨⟨fun _ => hother, fun h => (by cases h), fun h => (by cases h)⟩, rfl, rfl, ?_, h.preamble hreset⟩
  show b.pending.counts ++ _ = _
  rw [h.counts hreset]
  rfl

end ReportBuilder
end Lightstep.Recorder

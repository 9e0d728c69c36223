import Lightstep.Recorder.Delivery
import Lightstep.Recorder.PartialConsumption
import Lightstep.Tracer.SpanFaithful

/-! Spans from the calls made on them to the satellite.

A span of the tracer is serialized to a stream behind the space that the stream recorder
reserves, framed there as one chunk and added to the buffer. What a satellite reports of it
is what the calls have said. -/
namespace Lightstep.Recorder
open Library Common FragmentInputStream LawfulFragmentInputStream SeekableFragmentInputStream
open Tracer Tracer.TraceContext SpanStream ConnectionStream MockSatellite

/-- The bytes of what a recorder adds. -/
theorem Frames.bytes_eq {written : ChainedStream × UInt64} {contents : List UInt8} (h : Frames written contents) :
    bytes (frameSpan written) = contents := by
  rw [← h.contents, visited_eq (Or.inl h.recorded.live)]
  rfl

section
variable [DoubleFormat]

/-- A sampled span of valid strings that has been finished, and the stream that what it has recorded was
written to, in whatever blocks, behind the space a recorder reserves for headers and before its footer. -/
structure TracedSpan (maxHeaderSize : Nat) (footer : List UInt8) where
  start : SpanStart
  directBuffer : List UInt8 → (n : Nat) → Option (Vector UInt8 n)
  calls : List SpanCall
  steadyNow : SteadyTime
  options : FinishSpanOptions
  head : Block
  outputs : List Output
  writer : StreamWriter
  length_head : head.data.length = ChainedStream.BlockSize
  headerSpace : start.recorder.headerSpace = head.data.take maxHeaderSize
  footer_eq : start.recorder.footer = footer
  finished : firstFinish calls = some (steadyNow, options)
  sampled : isTraceFlagSet sampledFlagMask (Span.atFinish start directBuffer calls).traceFlags = true
  run : StreamWriter.machine.run (reservedWriter maxHeaderSize head) outputs = some writer
  kept : ((start.span directBuffer).run start.recorder calls).recorded.map RecordedSpan.span =
    [some writer.kept]
  length_lt : writer.kept.length < 2 ^ 31
  utf8 : Collector.checkMessage Collector.Span.check
    (SpanPart.encode (finishedParts start directBuffer (beforeFinish calls) steadyNow options)) = true

namespace TracedSpan
variable {maxHeaderSize : Nat} {footer : List UInt8}

def message (span : TracedSpan maxHeaderSize footer) : Collector.Span :=
  report span.start (beforeFinish span.calls) span.steadyNow span.options

/-- Between the header space and the footer is the report of the span. -/
theorem kept_eq (span : TracedSpan maxHeaderSize footer) :
    ∃ body, span.writer.kept = span.head.data.take maxHeaderSize ++ (body ++ footer) ∧
      Collector.Span.parse body = some span.message ∧ Collector.checkMessage Collector.Span.check body = true := by
  obtain ⟨body, hrecorded, hbody⟩ := Span.records_parts span.finished span.sampled
  have hkept := span.kept
  rw [hrecorded, List.map_singleton] at hkept
  obtain ⟨written, rfl, hwhole⟩ := Option.map_eq_some_iff.mp (List.singleton_inj.mp hkept)
  rw [span.headerSpace, span.footer_eq, List.append_assoc] at hwhole
  have hshort : written.length < 2 ^ 31 := by
    have hlength := span.length_lt
    rw [← hwhole, List.length_append, List.length_append] at hlength
    omega
  have hwritten := hbody.eq_of_written hshort
  have hparse := Span.parse_finishedParts hbody (hwritten ▸ hshort)
  exact ⟨written, hwhole.symm, hparse, hwritten ▸ span.utf8⟩

end TracedSpan

namespace StreamRecorder

/-- A span as `RecordSpan` of the stream recorder is given it. -/
abbrev TracedSpan := Recorder.TracedSpan maxHeaderSize chunkedHttpFooter

/-- What `RecordSpan` adds to the buffer. -/
def recordedStream (span : TracedSpan) : ChainedStream :=
  frameSpan (writeHeaders (reserveHeaderSpace maxHeaderSize (.new span.head)).2 span.writer.stream)

/-- **What is framed is the report** of the span. -/
theorem frames_traced (span : TracedSpan) : Framed (recordedStream span) ∧
    Frames.Decodes (fun _ => span.message) (recordedStream span) := by
  obtain ⟨body, hkept, hparse, hcheck⟩ := span.kept_eq
  obtain ⟨-, hframes, -⟩ := frames_span span.length_head span.run hkept span.length_lt
  exact ⟨framed_of_recorded hframes.recorded, body, hframes.bytes_eq, hparse, hcheck⟩

end StreamRecorder

namespace ManualRecorder

/-- A span as `RecordSpan` of the manual recorder is given it. -/
abbrev TracedSpan := Recorder.TracedSpan maxHeaderSize []

/-- What `RecordSpan` adds to the buffer. -/
def recordedStream (span : TracedSpan) : ChainedStream :=
  frameSpan (writeHeaders (reserveHeaderSpace maxHeaderSize (.new span.head)).2 span.writer.stream)

theorem frames_traced (span : TracedSpan) : StreamWriter.Recorded (recordedStream span) ∧
    ∃ body, bytes (recordedStream span) = spanHeader body.length ++ body ∧
      Collector.Span.parse body = some span.message ∧ Collector.checkMessage Collector.Span.check body = true := by
  obtain ⟨body, hkept, hparse, hcheck⟩ := span.kept_eq
  rw [List.append_nil] at hkept
  obtain ⟨-, hframes, -⟩ := frames_span span.length_head span.run hkept span.length_lt
  exact ⟨hframes.recorded, body, hframes.bytes_eq, hparse, hcheck⟩

end ManualRecorder

namespace Sessions

/-- What the tracer and the streamer give the sessions, and a writer that takes no more than it is offered. -/
def Traces (tracerOptions : LightStepTracerOptions) (reporterId : UInt64) (decoded : ChainedStream → Collector.Span)
    (s : Sessions ChainedStream) : SessionEvent ChainedStream → Prop
  | .addSpan span => ∃ traced : StreamRecorder.TracedSpan, span = StreamRecorder.recordedStream traced ∧
    decoded span = traced.message
  | .construct hostHeaderFragment headerCommonFragment =>
    SetHost hostHeaderFragment ∧ headerCommonFragment = writeReportRequestHeader tracerOptions reporterId
  | .flush connection n _ => ∀ c σ, s.connections[connection]? = some (c, σ) → n ≤ (c.offered s.spanStream).length
  | _ => True

theorem Traces.streams {tracerOptions : LightStepTracerOptions} {reporterId : UInt64}
    (hvalid : ValidHeader tracerOptions reporterId) {decoded : ChainedStream → Collector.Span}
    {s : Sessions ChainedStream} {e : SessionEvent ChainedStream}
    (h : Traces tracerOptions reporterId decoded s e) : Promise s e ∧ Streams tracerOptions reporterId decoded e := by
  cases e with
  | addSpan span =>
    obtain ⟨traced, rfl, hdecoded⟩ := h
    obtain ⟨hframed, body, hbytes, hparse, hcheck⟩ := StreamRecorder.frames_traced traced
    exact ⟨hframed, body, hbytes, hdecoded ▸ hparse, hcheck⟩
  | construct host common =>
    obtain ⟨hhost, rfl⟩ := h
    exact ⟨hvalid.length_lt, hhost, rfl⟩
  | flush connection n result => exact ⟨h, trivial⟩
  | onSpansDropped numSpans => exact ⟨trivial, trivial⟩
  | shutdown connection => exact ⟨trivial, trivial⟩
  | reset connection => exact ⟨trivial, trivial⟩

end Sessions
end

/-! ### A span with a name -/

end Lightstep.Recorder

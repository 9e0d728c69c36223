import Lightstep.Library.Slots
import Lightstep.Recorder.SoundStream

/-! The recorder that streams spans to satellites, across forks.

`RecordSpan` may be called at any time, by any thread. What the streamer does with all
its connections (starting, flushing, shutting down) is one event for each of them. A
fork joins the recorder's thread and destroys the connections, in any order, and the
parent then makes a new streamer. Kept beside the recorder are, since the thread was
joined, how many spans it has refused, and the streams of the connections destroyed,
as their last write has left them. -/
namespace Lightstep.Recorder
open Library Common Network FragmentInputStream LawfulFragmentInputStream SpanStream

structure StreamRecorder (S : Type) where
  numSatelliteConnections : Nat
  hostHeaderFragment : Fragment
  /-- The recorder's buffer and metrics, and what is left in its streamer's span stream. -/
  spanStream : SpanStream S
  connections : List (SatelliteConnection S)
  joined : Bool
  refused : Nat
  abandoned : List (ConnectionStream S)

/-- `added` is what `Add` returns: it may also fail by positions that have changed since. -/
inductive RecorderEvent (S ErrorCode : Type) where
  | recordSpan (span : S) (added : Bool)
  | connection (index : Nat) (event : SatelliteEvent S ErrorCode)
  | throwAwaySpans
  | join
  | destroy (index : Nat) (socket : Socket ErrorCode)
  | onForkedParent (headerCommonFragment : Fragment)
  | onForkedChild (headerCommonFragment : Fragment)

/-- The connections a `SatelliteStreamer` constructs, and what they leave of its span stream. -/
def satelliteConnections {S : Type} (hostHeaderFragment headerCommonFragment : Fragment) :
    Nat → SpanStream S → List (SatelliteConnection S) × SpanStream S
  | 0, spanStream => ([], spanStream)
  | n + 1, spanStream =>
    let c := SatelliteConnection.new hostHeaderFragment headerCommonFragment spanStream
    let (rest, spanStream) := satelliteConnections hostHeaderFragment headerCommonFragment n c.spanStream
    (c :: rest, spanStream)

namespace SatelliteConnection
variable {S ErrorCode : Type} [FragmentInputStream S]

/-- `~SatelliteConnection`. -/
def destroy (ioVecMax : Nat) (socket : Socket ErrorCode) (c : SatelliteConnection S) : SatelliteConnection S :=
  if c.writable then ({c with connectionStream := c.connectionStream.shutdown}.flush ioVecMax socket).1 else c

/-- The stream as the last write of the destructor leaves it. -/
def abandoned (ioVecMax : Nat) (socket : Socket ErrorCode) (c : SatelliteConnection S) : ConnectionStream S :=
  if c.writable then (c.connectionStream.shutdown.flush (writer ioVecMax socket) c.spanStream).1
  else c.connectionStream

end SatelliteConnection

namespace StreamRecorder
variable {S ErrorCode : Type}

/-- A new `StreamRecorderImpl`. -/
def resume (headerCommonFragment : Fragment) (s : StreamRecorder S) : StreamRecorder S :=
  let (connections, spanStream) := satelliteConnections s.hostHeaderFragment headerCommonFragment
    s.numSatelliteConnections (.new s.spanStream.spanBuffer s.spanStream.metrics)
  {s with spanStream := spanStream, connections := connections, joined := false}

def new (maxBufferedSpans numSatelliteConnections : Nat) (hostHeaderFragment headerCommonFragment : Fragment) :
    StreamRecorder S :=
  resume headerCommonFragment
    { numSatelliteConnections, hostHeaderFragment,
      spanStream := .new (.ofMaxSize maxBufferedSpans) .new,
      connections := [], joined := true, refused := 0, abandoned := [] }

def recordSpan (span : S) (added : Bool) (s : StreamRecorder S) : Option (StreamRecorder S) :=
  if added then
    (s.spanStream.spanBuffer.add span).map fun spanBuffer =>
      {s with spanStream := {s.spanStream with spanBuffer := spanBuffer}}
  else
    some {s with spanStream := {s.spanStream with metrics := s.spanStream.metrics.onSpansDropped 1}
                 refused := s.refused + 1}

/-- The span buffer's `Clear`. -/
def clearSpans (s : StreamRecorder S) : StreamRecorder S :=
  {s with spanStream := {s.spanStream with
    spanBuffer := s.spanStream.spanBuffer.consume s.spanStream.spanBuffer.size}}

def onForkedParent (headerCommonFragment : Fragment) (s : StreamRecorder S) : StreamRecorder S :=
  s.resume headerCommonFragment

def onForkedChild (headerCommonFragment : Fragment) (s : StreamRecorder S) : StreamRecorder S :=
  let s := {s with spanStream := {s.spanStream with metrics := s.spanStream.metrics.consumeDroppedSpans.2}}
  s.clearSpans.resume headerCommonFragment

variable [FragmentInputStream S]

/-- An event of one connection, which works on the span stream that all of them share. -/
def connection (ioVecMax index : Nat) (event : SatelliteEvent S ErrorCode) (s : StreamRecorder S) :
    Option (StreamRecorder S) :=
  match event with
  | .other _ => none
  | event =>
    s.connections[index]?.bind fun c =>
      ({c with spanStream := s.spanStream}.step ioVecMax event).map fun (c : SatelliteConnection S) =>
        {s with spanStream := c.spanStream, connections := s.connections.set index c}

def destroy (ioVecMax index : Nat) (socket : Socket ErrorCode) (s : StreamRecorder S) :
    Option (StreamRecorder S) :=
  s.connections[index]?.map fun c =>
    let c := {c with spanStream := s.spanStream}
    {s with spanStream := (c.destroy ioVecMax socket).spanStream
            connections := s.connections.eraseIdx index
            abandoned := c.abandoned ioVecMax socket :: s.abandoned}

/-- `PrepareForFork` is a `join` and a `destroy` for each connection. -/
def step (ioVecMax : Nat) (s : StreamRecorder S) : RecorderEvent S ErrorCode → Option (StreamRecorder S)
  | .recordSpan span added => s.recordSpan span added
  | .connection index event => if s.joined then none else s.connection ioVecMax index event
  | .throwAwaySpans => if s.joined then none else some s.clearSpans
  | .join => if s.joined then none else some {s with joined := true, refused := 0, abandoned := []}
  | .destroy index socket => if s.joined then s.destroy ioVecMax index socket else none
  | .onForkedParent common => if s.joined && s.connections.isEmpty then some (s.onForkedParent common) else none
  | .onForkedChild common => if s.joined && s.connections.isEmpty then some (s.onForkedChild common) else none

def machine (S ErrorCode : Type) [FragmentInputStream S] (ioVecMax : Nat) :
    Machine (StreamRecorder S) (RecorderEvent S ErrorCode) := ⟨step ioVecMax⟩

variable [SeekableFragmentInputStream S]

/-- The spans recorded have bytes. -/
def Promise : RecorderEvent S ErrorCode → Prop
  | .recordSpan span _ => Framed span
  | _ => True

/-! ### Every reachable state -/

/-- What the headers of some connections say of the drops, as words. -/
def embeddedWords (connections : List (SatelliteConnection S)) : Nat :=
  (connections.map fun c => counted c.connectionStream.embeddedMetricsMessage.numDroppedSpans).sum

/-- No more drops are counted anywhere than there were. -/
structure Sound (s : StreamRecorder S) : Prop where
  spans : s.spanStream.Sound
  streams : ∀ c ∈ s.connections, c.connectionStream.Sound
  drops : counted s.spanStream.metrics.numDroppedSpans + embeddedWords s.connections ≤ s.spanStream.metrics.spansDropped

theorem Sound.of_getElem? {s : StreamRecorder S} (h : s.Sound) {index : Nat} {c : SatelliteConnection S}
    (hc : s.connections[index]? = some c) :
    {c with spanStream := s.spanStream}.Sound (embeddedWords (s.connections.eraseIdx index)) := by
  have hdrops := h.drops
  rw [embeddedWords, sum_map_eraseIdx _ hc, ← Nat.add_assoc] at hdrops
  exact ⟨h.streams c (List.mem_of_getElem? hc), h.spans, hdrops⟩

/-- A connection replaced by one that is sound beside the others, with the span stream it leaves. -/
theorem Sound.setConnection {s : StreamRecorder S} (h : s.Sound) {index : Nat} {c d : SatelliteConnection S}
    (hc : s.connections[index]? = some c) (hd : d.Sound (embeddedWords (s.connections.eraseIdx index))) :
    {s with spanStream := d.spanStream, connections := s.connections.set index d}.Sound := by
  refine ⟨hd.spans, fun b hb => ?_, ?_⟩
  · rcases List.mem_or_eq_of_mem_set hb with hb | rfl
    · exact h.streams b hb
    · exact hd.stream
  · have hdrops := hd.drops
    have hset := sum_map_set (f := fun c : SatelliteConnection S =>
      counted c.connectionStream.embeddedMetricsMessage.numDroppedSpans) (b := d) hc
    have herase := sum_map_eraseIdx
      (fun c : SatelliteConnection S => counted c.connectionStream.embeddedMetricsMessage.numDroppedSpans) hc
    simp only [embeddedWords] at hdrops ⊢
    omega

theorem satelliteConnections_sound (host common : Fragment) (n : Nat) {spanStream : SpanStream S}
    (h : spanStream.Sound) :
    (satelliteConnections host common n spanStream).2.Sound ∧
      ∀ c ∈ (satelliteConnections host common n spanStream).1, c.connectionStream.Sound := by
  induction n generalizing spanStream with
  | zero => exact ⟨h, fun c hc => absurd hc List.not_mem_nil⟩
  | succ n ih =>
    have hnew := SatelliteConnection.new_stream host common spanStream
    obtain ⟨hspans, hrest⟩ := ih (h.withMetrics _)
    simp only [satelliteConnections]
    refine ⟨hspans, fun c hc => ?_⟩
    rcases List.mem_cons.mp hc with rfl | hc
    · exact hnew
    · exact hrest c hc

omit [FragmentInputStream S] [SeekableFragmentInputStream S] in
/-- New connections take over the drops of the tracker and lose none. -/
theorem satelliteConnections_drops (host common : Fragment) (n : Nat) (sp : SpanStream S) :
    counted (satelliteConnections host common n sp).2.metrics.numDroppedSpans +
        embeddedWords (satelliteConnections host common n sp).1 = counted sp.metrics.numDroppedSpans ∧
      (satelliteConnections host common n sp).2.metrics.spansDropped = sp.metrics.spansDropped := by
  induction n generalizing sp with
  | zero => exact ⟨rfl, rfl⟩
  | succ n ih =>
    obtain ⟨hnum, hdropped⟩ := ih (SatelliteConnection.new host common sp).spanStream
    have hzero : (SatelliteConnection.new host common sp).spanStream.metrics.numDroppedSpans = 0 := rfl
    have htaken : (SatelliteConnection.new host common sp).connectionStream.embeddedMetricsMessage.numDroppedSpans =
        sp.metrics.numDroppedSpans := rfl
    rw [hzero, counted_zero] at hnum
    simp only [satelliteConnections]
    refine ⟨?_, hdropped⟩
    rw [embeddedWords, List.map_cons, List.sum_cons, htaken]
    rw [embeddedWords] at hnum
    omega

omit [FragmentInputStream S] [SeekableFragmentInputStream S] in
/-- A new streamer tells all that the tracker has. -/
theorem resume_drops (s : StreamRecorder S) (common : Fragment) :
    counted (s.resume common).spanStream.metrics.numDroppedSpans + embeddedWords (s.resume common).connections =
        counted s.spanStream.metrics.numDroppedSpans ∧
      (s.resume common).spanStream.metrics.spansDropped = s.spanStream.metrics.spansDropped :=
  satelliteConnections_drops s.hostHeaderFragment common s.numSatelliteConnections
    (.new s.spanStream.spanBuffer s.spanStream.metrics)

theorem resume_sound {s : StreamRecorder S} (h : s.spanStream.Ready)
    (hdrops : counted s.spanStream.metrics.numDroppedSpans ≤ s.spanStream.metrics.spansDropped) (common : Fragment) :
    (s.resume common).Sound := by
  have hspans : (SpanStream.new s.spanStream.spanBuffer s.spanStream.metrics).Sound :=
    ⟨⟨h.wellFormed, h.framed⟩, nofun⟩
  obtain ⟨hspans, hstreams⟩ :=
    satelliteConnections_sound s.hostHeaderFragment common s.numSatelliteConnections hspans
  obtain ⟨hnum, hdropped⟩ := s.resume_drops common
  exact ⟨hspans, hstreams, by omega⟩

theorem new_sound (maxBufferedSpans numSatelliteConnections : Nat) (host common : Fragment) :
    (new maxBufferedSpans numSatelliteConnections host common : StreamRecorder S).Sound := by
  refine resume_sound ⟨CircularBuffer.ofMaxSize_wellFormed _, ?_⟩ ?_ common
  · intro span hspan
    cases hspan
  · exact Nat.le_refl 0

theorem recordSpan_sound {s t : StreamRecorder S} (h : s.Sound) {span : S} {added : Bool} (hspan : Framed span)
    (hstep : s.recordSpan span added = some t) : t.Sound := by
  cases added with
  | false =>
    cases hstep
    have hdrops := h.drops
    have hcounted := counted_add_ofNat_le s.spanStream.metrics.numDroppedSpans 1
    refine ⟨h.spans.withMetrics _, h.streams, ?_⟩
    show counted (s.spanStream.metrics.numDroppedSpans + .ofNat 1) + embeddedWords s.connections ≤
      s.spanStream.metrics.spansDropped + 1
    omega
  | true =>
    obtain ⟨spanBuffer, hadd, rfl⟩ := Option.map_eq_some_iff.mp hstep
    obtain ⟨hw, hcontents, -⟩ := h.spans.ready.wellFormed.add hadd
    refine ⟨⟨⟨hw, fun q hq => ?_⟩, h.spans.remnant⟩, h.streams, h.drops⟩
    have hq : q ∈ spanBuffer.contents := hq
    rw [hcontents] at hq
    rcases List.mem_append.mp hq with hq | hq
    · exact h.spans.ready.framed q hq
    · exact List.mem_singleton.mp hq ▸ hspan

theorem clearSpans_ready {s : StreamRecorder S} (h : s.spanStream.Ready) : s.clearSpans.spanStream.Ready :=
  h.consume (Nat.le_of_eq h.wellFormed.length_contents.symm) _ rfl

theorem connection_sound {s t : StreamRecorder S} (h : s.Sound) {ioVecMax index : Nat}
    {event : SatelliteEvent S ErrorCode} (hstep : s.connection ioVecMax index event = some t) : t.Sound := by
  have hno : ∀ spanStream, event ≠ .other spanStream := by
    rintro spanStream rfl
    cases hstep
  have hstep : (s.connections[index]?.bind fun c =>
      ({c with spanStream := s.spanStream}.step ioVecMax event).map fun (c : SatelliteConnection S) =>
        {s with spanStream := c.spanStream, connections := s.connections.set index c}) = some t := by
    cases event with
    | other spanStream => exact absurd rfl (hno spanStream)
    | _ => exact hstep
  obtain ⟨c, hget, hmap⟩ := Option.bind_eq_some_iff.mp hstep
  obtain ⟨d, hevent, rfl⟩ := Option.map_eq_some_iff.mp hmap
  exact h.setConnection hget ((h.of_getElem? hget).step hno hevent)

theorem destroy_sound {s t : StreamRecorder S} (h : s.Sound) {ioVecMax index : Nat} {socket : Socket ErrorCode}
    (hstep : s.destroy ioVecMax index socket = some t) : t.Sound := by
  obtain ⟨c, hget, rfl⟩ := Option.map_eq_some_iff.mp hstep
  have hc := h.of_getElem? hget
  have hdestroyed : ({c with spanStream := s.spanStream}.destroy ioVecMax socket).Sound
      (embeddedWords (s.connections.eraseIdx index)) := by
    unfold SatelliteConnection.destroy
    split
    · exact hc.shutdown.flush ioVecMax socket
    · exact hc
  have hdrops := hdestroyed.drops
  exact ⟨hdestroyed.spans, fun b hb => h.streams b (List.mem_of_mem_eraseIdx hb), by dsimp only; omega⟩

theorem step_sound {s t : StreamRecorder S} {ioVecMax : Nat} {e : RecorderEvent S ErrorCode} (h : s.Sound)
    (hpromise : Promise e) (hstep : s.step ioVecMax e = some t) : t.Sound := by
  cases e with
  | recordSpan span added => exact recordSpan_sound h hpromise hstep
  | connection index event =>
    obtain ⟨-, hconnection⟩ := Option.ite_none_left_eq_some.mp hstep
    exact connection_sound h hconnection
  | throwAwaySpans =>
    obtain ⟨-, heq⟩ := Option.ite_none_left_eq_some.mp hstep
    cases heq
    exact ⟨⟨clearSpans_ready h.spans.ready, h.spans.remnant⟩, h.streams, h.drops⟩
  | join =>
    obtain ⟨-, heq⟩ := Option.ite_none_left_eq_some.mp hstep
    cases heq
    exact ⟨h.spans, h.streams, h.drops⟩
  | destroy index socket =>
    obtain ⟨-, hdestroy⟩ := Option.ite_none_right_eq_some.mp hstep
    exact destroy_sound h hdestroy
  | onForkedParent common =>
    obtain ⟨-, heq⟩ := Option.ite_none_right_eq_some.mp hstep
    cases heq
    exact resume_sound h.spans.ready (Nat.le_trans (Nat.le_add_right _ _) h.drops) common
  | onForkedChild common =>
    obtain ⟨-, heq⟩ := Option.ite_none_right_eq_some.mp hstep
    cases heq
    have hready : {s with spanStream := {s.spanStream with
        metrics := s.spanStream.metrics.consumeDroppedSpans.2}}.spanStream.Ready := (h.spans.withMetrics _).ready
    exact resume_sound (clearSpans_ready hready) (Nat.zero_le _) common

/-- **Every reachable state is sound**, after writes that threw as well. -/
theorem run_sound {ioVecMax maxBufferedSpans numSatelliteConnections : Nat} {host common : Fragment}
    {events : List (RecorderEvent S ErrorCode)} {s : StreamRecorder S} (hpromise : ∀ e ∈ events, Promise e)
    (hrun : (machine S ErrorCode ioVecMax).run (new maxBufferedSpans numSatelliteConnections host common) events =
      some s) : s.Sound := by
  have hguard := (machine S ErrorCode ioVecMax).guarded_and_mem
    ((machine S ErrorCode ioVecMax).guarded_true events (new maxBufferedSpans numSatelliteConnections host common))
    hpromise
  exact (machine S ErrorCode ioVecMax).guarded_invariant (I := Sound)
    (fun _ _ _ h hp hstep => step_sound h hp.2 hstep) events _ _ (new_sound ..) hguard hrun

end StreamRecorder
end Lightstep.Recorder

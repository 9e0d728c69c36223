import Lightstep.Recorder.SatelliteTimers
import Lightstep.Recorder.StreamRecorder

/-! What a fork keeps of the spans and the drops in the parent.

A connection that is destroyed writes what it can if it is writable, and is not reset.
What its last write leaves of a header or of a span goes with it. Where that write
throws it is reset, but then its next header takes over every drop, and is destroyed
with it. -/
namespace Lightstep.Recorder
open Library Common Network FragmentInputStream LawfulFragmentInputStream SeekableFragmentInputStream SpanStream

namespace ConnectionStream
variable {S ErrorCode : Type} [FragmentInputStream S] [SeekableFragmentInputStream S]

/-! ### The last write -/

theorem write_terminal {ioVecMax : Nat} (hmax : 0 < ioVecMax) (socket : Socket ErrorCode)
    {h t : FragmentArrayInputStream} (hh : Valid h) (ht : Valid t) {streams : List (Source S)}
    (hstreams : streams = [.inl h, .inl t]) :
    ∃ h' t', (write ioVecMax socket streams).streams = [.inl h', .inl t'] ∧
      bytes h' = (bytes h).drop (acceptedBytes (write ioVecMax socket streams).calls).length := by
  have hvalid : ∀ s ∈ streams, Valid s := by
    rw [hstreams]
    simpa using ⟨hh, ht⟩
  rcases write_streams hmax socket hvalid with heq | ⟨hnil, heq, -⟩
  · generalize (acceptedBytes (write ioVecMax socket streams).calls).length = n at heq ⊢
    have htake := congrArg Prod.fst (takeWriter_terminal (S := S) hh ht n (.ok true : Except String Bool))
    rw [hstreams] at heq ⊢
    exact ⟨_, _, heq.trans htake, bytes_advance hh n⟩
  · rw [hstreams] at hnil
    have hfragments : fragments h = [] := (List.append_eq_nil_iff.mp hnil).1
    refine ⟨h, t, heq.trans hstreams, ?_⟩
    rw [bytes, hfragments]
    exact List.drop_nil.symm

theorem write_remnant_terminal {ioVecMax : Nat} (hmax : 0 < ioVecMax) (socket : Socket ErrorCode)
    {h t : FragmentArrayInputStream} {r : S} (hh : Valid h) (hr : Steady r) (ht : Valid t)
    {streams : List (Source S)} (hstreams : streams = [.inl h, .inr (.inl r), .inl t]) :
    ∃ h' q t', (write ioVecMax socket streams).streams = [.inl h', .inr (.inl q), .inl t'] ∧
      bytes h' = (bytes h).drop (acceptedBytes (write ioVecMax socket streams).calls).length ∧
      bytes q = (bytes r).drop
        ((acceptedBytes (write ioVecMax socket streams).calls).length - (bytes h).length) ∧
      Steady q := by
  have hvalid : ∀ s ∈ streams, Valid s := by
    rw [hstreams]
    simpa using ⟨hh, hr.valid, ht⟩
  rcases write_streams hmax socket hvalid with heq | ⟨hnil, heq, -⟩
  · generalize (acceptedBytes (write ioVecMax socket streams).calls).length = n at heq ⊢
    have htake := congrArg Prod.fst (takeWriter_remnant_terminal hh hr.valid ht n (.ok true : Except String Bool))
    rw [hstreams] at heq ⊢
    refine ⟨_, _, _, heq.trans htake, bytes_advance hh n, ?_, ?_⟩
    · by_cases hlt : n < (bytes h).length
      · rw [if_pos hlt, Nat.sub_eq_zero_of_le (Nat.le_of_lt hlt), List.drop_zero]
      · rw [if_neg hlt]
        exact bytes_advance hr.valid _
    · split
      · exact hr
      · exact steady_advance hr.valid _
  · rw [hstreams] at hnil
    obtain ⟨hfragments, hrest⟩ := List.append_eq_nil_iff.mp hnil
    have hfragments : fragments h = [] := hfragments
    have hremnant : fragments r = [] := (List.append_eq_nil_iff.mp hrest).1
    refine ⟨h, r, t, heq.trans hstreams, ?_, ?_, hr⟩
    · rw [bytes, hfragments]
      exact List.drop_nil.symm
    · rw [bytes, bytes, hremnant]
      exact List.drop_nil.symm

/-- A stream that shuts down leaves of its header and its remnant what the socket has not accepted,
and the span stream as it was, up to the count of sent spans. -/
theorem Sound.flushShutdown {c : ConnectionStream S} (hc : c.Sound) (hs : c.shuttingDown = true)
    {ioVecMax : Nat} (hmax : 0 < ioVecMax) (socket : Socket ErrorCode) (sp : SpanStream S) :
    bytes (c.flush (SatelliteConnection.writer ioVecMax socket) sp).1.headerStream =
        (bytes c.headerStream).drop (acceptedBytes (write ioVecMax socket (c.streams sp)).calls).length ∧
      remnantBytes (c.flush (SatelliteConnection.writer ioVecMax socket) sp).1.spanRemnant =
        (remnantBytes c.spanRemnant).drop
          ((acceptedBytes (write ioVecMax socket (c.streams sp)).calls).length - (bytes c.headerStream).length) ∧
      (c.flush (SatelliteConnection.writer ioVecMax socket) sp).1.embeddedMetricsMessage = c.embeddedMetricsMessage ∧
      ∃ k, (c.flush (SatelliteConnection.writer ioVecMax socket) sp).2.1 =
        {sp with metrics := sp.metrics.onSpansSent k} := by
  cases hr : c.spanRemnant with
  | none =>
    have hstreams : c.streams sp = [.inl c.headerStream, .inl c.terminalStream] := by
      rw [ConnectionStream.streams, hs, hr]
    obtain ⟨h', t', hwritten, hheader⟩ :=
      write_terminal hmax socket hc.header.valid hc.terminal.valid hstreams
    rw [hstreams] at hwritten hheader ⊢
    simp only [flush, ConnectionStream.flushShutdown, hs, hr, if_true, SatelliteConnection.writer]
    generalize write ioVecMax socket ([.inl c.headerStream, .inl c.terminalStream] : List (Source S)) = result
      at hwritten hheader ⊢
    simp only [hwritten]
    exact ⟨hheader, List.drop_nil.symm, trivial, 0, rfl⟩
  | some r =>
    have hstreams : c.streams sp = [.inl c.headerStream, .inr (.inl r), .inl c.terminalStream] := by
      rw [ConnectionStream.streams, hs, hr]
    obtain ⟨h', q, t', hwritten, hheader, hremnant, hq⟩ :=
      write_remnant_terminal hmax socket hc.header.valid (hc.remnant r hr) hc.terminal.valid hstreams
    rw [hstreams] at hwritten hheader hremnant ⊢
    simp only [flush, ConnectionStream.flushShutdown, hs, hr, if_true, SatelliteConnection.writer]
    generalize write ioVecMax socket
      ([.inl c.headerStream, .inr (.inl r), .inl c.terminalStream] : List (Source S)) = result
      at hwritten hheader hremnant ⊢
    simp only [hwritten]
    cases result.outcome with
    | error message => exact ⟨hheader, hremnant, rfl, 0, rfl⟩
    | ok _ =>
      dsimp only
      by_cases he : empty q = true
      · rw [if_pos he]
        refine ⟨hheader, ?_, rfl, 1, rfl⟩
        show [] = _
        rw [← hq.empty_iff.mp he]
        exact hremnant
      · rw [if_neg he]
        exact ⟨hheader, hremnant, rfl, 0, rfl⟩

omit [FragmentInputStream S] [SeekableFragmentInputStream S] in
theorem unsentDrops_eq_zero_iff (c : ConnectionStream S) :
    c.unsentDrops = 0 ↔ bytes c.headerStream = [] ∨ c.embeddedMetricsMessage.numDroppedSpans = 0 := by
  unfold unsentDrops
  by_cases hnil : bytes c.headerStream = []
  · simp [hnil]
  · simp [hnil]

theorem unsentSpans_eq_zero_iff (c : ConnectionStream S) :
    c.unsentSpans = 0 ↔ remnantBytes c.spanRemnant = [] := by
  unfold unsentSpans
  by_cases hnil : remnantBytes c.spanRemnant = []
  · simp [hnil]
  · simp [hnil]

end ConnectionStream

namespace SatelliteConnection
variable {S ErrorCode : Type} [FragmentInputStream S] [SeekableFragmentInputStream S] {others : Nat}

/-- How many bytes the socket accepts of the header, the remnant and the terminal chunk when the
connection is destroyed. -/
def lastAccepted (ioVecMax : Nat) (socket : Socket ErrorCode) (c : SatelliteConnection S) : Nat :=
  if c.writable then
    (acceptedBytes (write ioVecMax socket (c.connectionStream.shutdown.streams c.spanStream)).calls).length
  else 0

def LastWriteThrows (ioVecMax : Nat) (socket : Socket ErrorCode) (c : SatelliteConnection S) : Prop :=
  c.writable = true ∧ c.shutdown.WriteThrows ioVecMax socket

/-- The connection is destroyed without a loss: what it holds is nothing or is accepted to its end,
and there are no drops for a doomed header to take over. -/
structure Keeps (ioVecMax : Nat) (socket : Socket ErrorCode) (c : SatelliteConnection S) : Prop where
  header : (bytes c.connectionStream.headerStream).length ≤ c.lastAccepted ioVecMax socket ∨
    c.connectionStream.embeddedMetricsMessage.numDroppedSpans = 0
  remnant : remnantBytes c.connectionStream.spanRemnant = [] ∨
    (bytes c.connectionStream.headerStream ++ remnantBytes c.connectionStream.spanRemnant).length ≤
      c.lastAccepted ioVecMax socket
  tracker : c.LastWriteThrows ioVecMax socket → c.spanStream.metrics.numDroppedSpans = 0

/-- What the last write leaves of the streams. -/
theorem Sound.abandoned {c : SatelliteConnection S} (h : c.Sound others) {ioVecMax : Nat} (hmax : 0 < ioVecMax)
    (socket : Socket ErrorCode) :
    bytes (c.abandoned ioVecMax socket).headerStream =
        (bytes c.connectionStream.headerStream).drop (c.lastAccepted ioVecMax socket) ∧
      remnantBytes (c.abandoned ioVecMax socket).spanRemnant =
        (remnantBytes c.connectionStream.spanRemnant).drop
          (c.lastAccepted ioVecMax socket - (bytes c.connectionStream.headerStream).length) ∧
      (c.abandoned ioVecMax socket).embeddedMetricsMessage = c.connectionStream.embeddedMetricsMessage := by
  unfold SatelliteConnection.abandoned lastAccepted
  cases c.writable with
  | false =>
    rw [if_neg Bool.false_ne_true, if_neg Bool.false_ne_true, Nat.zero_sub]
    exact ⟨rfl, rfl, rfl⟩
  | true =>
    obtain ⟨hheader, hremnant, hmessage, -⟩ := h.shutdown.stream.flushShutdown rfl hmax socket c.spanStream
    rw [if_pos rfl, if_pos rfl]
    exact ⟨hheader, hremnant, hmessage⟩

theorem Sound.keeps_iff {c : SatelliteConnection S} (h : c.Sound others) {ioVecMax : Nat} (hmax : 0 < ioVecMax)
    (socket : Socket ErrorCode) :
    c.Keeps ioVecMax socket ↔ (c.abandoned ioVecMax socket).unsentDrops = 0 ∧
      (c.abandoned ioVecMax socket).unsentSpans = 0 ∧
      (c.LastWriteThrows ioVecMax socket → c.spanStream.metrics.numDroppedSpans = 0) := by
  obtain ⟨hheader, hremnant, hmessage⟩ := h.abandoned hmax socket
  rw [ConnectionStream.unsentDrops_eq_zero_iff, ConnectionStream.unsentSpans_eq_zero_iff, hheader, hremnant,
    hmessage, List.drop_eq_nil_iff, List.drop_eq_nil_iff]
  have hrest : (remnantBytes c.connectionStream.spanRemnant).length ≤
        c.lastAccepted ioVecMax socket - (bytes c.connectionStream.headerStream).length ↔
      remnantBytes c.connectionStream.spanRemnant = [] ∨
        (bytes c.connectionStream.headerStream ++ remnantBytes c.connectionStream.spanRemnant).length ≤
          c.lastAccepted ioVecMax socket := by
    rw [← List.length_eq_zero_iff, List.length_append]
    omega
  rw [hrest]
  exact ⟨fun hk => ⟨hk.header, hk.remnant, hk.tracker⟩, fun ⟨hd, hs, ht⟩ => ⟨hd, hs, ht⟩⟩

/-- Unless its last write throws, the destructor leaves the span stream as it was. -/
theorem Sound.destroy_of_not_throws {c : SatelliteConnection S} (h : c.Sound others) {ioVecMax : Nat}
    (hmax : 0 < ioVecMax) {socket : Socket ErrorCode} (hno : ¬ c.LastWriteThrows ioVecMax socket) :
    ∃ k, (c.destroy ioVecMax socket).spanStream =
      {c.spanStream with metrics := c.spanStream.metrics.onSpansSent k} := by
  unfold destroy
  cases hw : c.writable with
  | false =>
    rw [if_neg Bool.false_ne_true]
    exact ⟨0, rfl⟩
  | true =>
    rw [if_pos rfl]
    have houtcome := ConnectionStream.flush_outcome (writer ioVecMax socket) c.connectionStream.shutdown c.spanStream
    obtain ⟨-, -, -, k, hspans⟩ := h.shutdown.stream.flushShutdown rfl hmax socket c.spanStream
    refine ⟨k, ?_⟩
    unfold SatelliteConnection.flush
    dsimp only [SatelliteConnection.shutdown] at hspans ⊢
    generalize c.connectionStream.shutdown.flush (writer ioVecMax socket) c.spanStream = flushed at houtcome hspans ⊢
    obtain ⟨stream, spans, message | _ | _⟩ := flushed
    · exact absurd ⟨hw, message, houtcome.symm⟩ hno
    · exact hspans
    · exact hspans

/-- A last write that throws leaves no drops in the tracker. -/
theorem Sound.destroy_of_throws {c : SatelliteConnection S} (h : c.Sound others) {ioVecMax : Nat}
    (hmax : 0 < ioVecMax) {socket : Socket ErrorCode} (hthrows : c.LastWriteThrows ioVecMax socket) :
    (c.destroy ioVecMax socket).spanStream.remnant = c.spanStream.remnant ∧
      (c.destroy ioVecMax socket).spanStream.metrics.numDroppedSpans = 0 ∧
      (c.destroy ioVecMax socket).spanStream.metrics.spansDropped =
        c.spanStream.metrics.spansDropped + (c.abandoned ioVecMax socket).unsentSpans := by
  obtain ⟨hw, message, hthrows⟩ := hthrows
  have houtcome := ConnectionStream.flush_outcome (writer ioVecMax socket) c.connectionStream.shutdown c.spanStream
  obtain ⟨-, -, -, k, hspans⟩ := h.shutdown.stream.flushShutdown rfl hmax socket c.spanStream
  have hfollows := write_follows ioVecMax socket (h.shutdown.stream.streams h.spans)
  have hsound := @ConnectionStream.flush_sound _ _ _ _ (writer ioVecMax socket) _ _ h.shutdown.stream h.spans hfollows
  unfold destroy SatelliteConnection.abandoned
  rw [if_pos hw, if_pos hw]
  unfold SatelliteConnection.flush
  dsimp only [SatelliteConnection.shutdown] at hspans hsound ⊢
  generalize c.connectionStream.shutdown.flush (writer ioVecMax socket) c.spanStream = flushed
    at houtcome hspans hsound ⊢
  obtain ⟨hstream, hspansSound, -, -⟩ := hsound
  obtain ⟨stream, spans, what | result⟩ := flushed
  · have hfailed : ∀ d : SatelliteConnection S, d.handleFailure.spanStream = (d.connectionStream.reset d.spanStream).2 := by
      intro d
      unfold SatelliteConnection.handleFailure
      dsimp only
      split <;> rfl
    obtain ⟨-, -, hnum, hdropped, -⟩ := hstream.reset hspansSound
    have hspans : spans = {c.spanStream with metrics := c.spanStream.metrics.onSpansSent k} := hspans
    rw [hfailed]
    refine ⟨?_, hnum, ?_⟩
    · show spans.remnant = _
      rw [hspans]
    · rw [hdropped, hspans]
      rfl
  · cases houtcome.trans hthrows

/-- A header that is left says no more drops than there were. -/
theorem Sound.unsentDrops_le {c : SatelliteConnection S} (h : c.Sound others) {ioVecMax : Nat} (hmax : 0 < ioVecMax)
    (socket : Socket ErrorCode) :
    counted (c.abandoned ioVecMax socket).unsentDrops ≤ c.spanStream.metrics.spansDropped := by
  obtain ⟨-, -, hmessage⟩ := h.abandoned hmax socket
  have hdrops := h.drops
  unfold ConnectionStream.unsentDrops
  split
  · exact Nat.zero_le _
  · rw [hmessage]
    omega

/-- **What destroying a connection loses**: nothing exactly if it keeps what it holds. -/
theorem Sound.destroy {c : SatelliteConnection S} (h : c.Sound others) {ioVecMax : Nat} (hmax : 0 < ioVecMax)
    (socket : Socket ErrorCode) :
    (c.destroy ioVecMax socket).spanStream.remnant = c.spanStream.remnant ∧
      c.spanStream.metrics.spansDropped ≤ (c.destroy ioVecMax socket).spanStream.metrics.spansDropped ∧
      ∃ lostDrops lostSpans,
        counted (c.destroy ioVecMax socket).spanStream.metrics.numDroppedSpans + lostDrops +
            c.spanStream.metrics.spansDropped =
          counted c.spanStream.metrics.numDroppedSpans + counted (c.abandoned ioVecMax socket).unsentDrops +
            (c.destroy ioVecMax socket).spanStream.metrics.spansDropped ∧
        (c.destroy ioVecMax socket).spanStream.metrics.spansDropped + lostSpans =
          c.spanStream.metrics.spansDropped + (c.abandoned ioVecMax socket).unsentSpans ∧
        (lostDrops = 0 ∧ lostSpans = 0 ↔ c.Keeps ioVecMax socket) := by
  rw [h.keeps_iff hmax socket, ← counted_eq_zero_iff, ← counted_eq_zero_iff]
  by_cases hthrows : c.LastWriteThrows ioVecMax socket
  · obtain ⟨hremnant, hnum, hdropped⟩ := h.destroy_of_throws hmax hthrows
    refine ⟨hremnant, by omega, counted c.spanStream.metrics.numDroppedSpans +
      counted (c.abandoned ioVecMax socket).unsentDrops + (c.abandoned ioVecMax socket).unsentSpans, 0, ?_, ?_, ?_⟩
    · rw [hnum, hdropped, counted_zero]
      omega
    · rw [hdropped, Nat.add_zero]
    · simp only [hthrows, true_imp_iff, and_true]
      omega
  · obtain ⟨k, hspans⟩ := h.destroy_of_not_throws hmax hthrows
    have hnum : (c.destroy ioVecMax socket).spanStream.metrics.numDroppedSpans =
        c.spanStream.metrics.numDroppedSpans := by
      rw [hspans]
      rfl
    have hdropped : (c.destroy ioVecMax socket).spanStream.metrics.spansDropped =
        c.spanStream.metrics.spansDropped := by
      rw [hspans]
      rfl
    refine ⟨by rw [hspans], Nat.le_of_eq hdropped.symm, counted (c.abandoned ioVecMax socket).unsentDrops,
      (c.abandoned ioVecMax socket).unsentSpans, ?_, ?_, ?_⟩
    · rw [hnum, hdropped]
    · rw [hdropped]
    · simp only [hthrows, false_imp_iff, and_true]

end SatelliteConnection

/-! ### A fork -/

namespace StreamRecorder
variable {S ErrorCode : Type}

/-- The drops that the headers of some connections have taken over. -/
def embeddedDrops (connections : List (SatelliteConnection S)) : Int :=
  (connections.map fun c => c.connectionStream.embeddedMetricsMessage.numDroppedSpans.toInt).sum

/-- The events that may happen while the thread is joined and there are connections left. -/
def DuringFork : RecorderEvent S ErrorCode → Prop
  | .recordSpan _ _ => True
  | .destroy _ _ => True
  | _ => False

variable [FragmentInputStream S] [SeekableFragmentInputStream S]

/-- Whether the span stream holds bytes of a span that a write has cut before it threw. -/
def parkedSpans (sp : SpanStream S) : Nat := if remnantBytes sp.remnant = [] then 0 else 1

/-- What a fork owes, from the state before it. The drops in the tracker and in the new headers are
those of the tracker before, those of the headers not written to their ends, and the spans
counted as dropped since. These are the spans refused and the spans not written to their ends. -/
structure ForkAccounted (s t : StreamRecorder S) : Prop where
  drops : t.spanStream.metrics.numDroppedSpans.toInt + embeddedDrops t.connections + s.spanStream.metrics.spansDropped =
    s.spanStream.metrics.numDroppedSpans.toInt + (t.abandoned.map fun c => c.unsentDrops.toInt).sum +
      t.spanStream.metrics.spansDropped
  spans : t.spanStream.metrics.spansDropped = s.spanStream.metrics.spansDropped + t.refused +
    (t.abandoned.map ConnectionStream.unsentSpans).sum + parkedSpans s.spanStream

/-- A connection that is destroyed keeps what it holds. -/
def Keeps (ioVecMax : Nat) (s : StreamRecorder S) : RecorderEvent S ErrorCode → Prop
  | .destroy index socket =>
    ∀ c, s.connections[index]? = some c → {c with spanStream := s.spanStream}.Keeps ioVecMax socket
  | _ => True

/-- No header that was left says more drops than there were. -/
def AbandonedFits (s : StreamRecorder S) : Prop :=
  ∀ c ∈ s.abandoned, counted c.unsentDrops ≤ s.spanStream.metrics.spansDropped

/-- How far a state is from what a fork owes to one before it, where no word wraps. -/
structure Behind (s t : StreamRecorder S) (lostDrops lostSpans : Nat) : Prop where
  remnant : t.spanStream.remnant = s.spanStream.remnant
  drops : counted t.spanStream.metrics.numDroppedSpans + lostDrops + s.spanStream.metrics.spansDropped +
      (s.abandoned.map fun c => counted c.unsentDrops).sum =
    counted s.spanStream.metrics.numDroppedSpans + (t.abandoned.map fun c => counted c.unsentDrops).sum +
      t.spanStream.metrics.spansDropped
  spans : t.spanStream.metrics.spansDropped + lostSpans + s.refused +
      (s.abandoned.map ConnectionStream.unsentSpans).sum =
    s.spanStream.metrics.spansDropped + t.refused + (t.abandoned.map ConnectionStream.unsentSpans).sum

theorem Behind.trans {s t u : StreamRecorder S} {a b c d : Nat} (h : Behind s t a b) (h' : Behind t u c d) :
    Behind s u (a + c) (b + d) := by
  have hdrops := h.drops
  have hdrops' := h'.drops
  have hspans := h.spans
  have hspans' := h'.spans
  exact ⟨h'.remnant.trans h.remnant, by omega, by omega⟩

theorem recordSpan_behind {s t : StreamRecorder S} (h : s.Sound) {span : S} {added : Bool}
    (hstep : s.recordSpan span added = some t) (hfew : t.spanStream.metrics.spansDropped < 2 ^ 31) :
    Behind s t 0 0 := by
  cases added with
  | false =>
    cases hstep
    have hfew : s.spanStream.metrics.spansDropped + 1 < 2 ^ 31 := hfew
    have hdrops := h.drops
    have hword : counted (s.spanStream.metrics.numDroppedSpans + .ofNat 1) =
        counted s.spanStream.metrics.numDroppedSpans + 1 := counted_add_ofNat_of_lt (by omega)
    refine ⟨rfl, ?_, ?_⟩
    · show counted (s.spanStream.metrics.numDroppedSpans + .ofNat 1) + 0 + _ + _ =
        _ + _ + (s.spanStream.metrics.spansDropped + 1)
      dsimp only
      omega
    · show s.spanStream.metrics.spansDropped + 1 + 0 + s.refused + _ = _ + (s.refused + 1) + _
      dsimp only
      omega
  | true =>
    obtain ⟨spanBuffer, -, rfl⟩ := Option.map_eq_some_iff.mp hstep
    refine ⟨rfl, ?_, ?_⟩
    · dsimp only
      omega
    · dsimp only
      omega

/-- One connection less. -/
theorem destroy_behind {s t : StreamRecorder S} (h : s.Sound) {ioVecMax : Nat} (hmax : 0 < ioVecMax) {index : Nat}
    {socket : Socket ErrorCode} (hstep : s.destroy ioVecMax index socket = some t) :
    ∃ lostDrops lostSpans, Behind s t lostDrops lostSpans ∧
      (lostDrops = 0 ∧ lostSpans = 0 ↔ s.Keeps ioVecMax (.destroy index socket)) := by
  obtain ⟨c, hget, rfl⟩ := Option.map_eq_some_iff.mp hstep
  obtain ⟨hremnant, -, lostDrops, lostSpans, hdrops, hspans, hiff⟩ := (h.of_getElem? hget).destroy hmax socket
  refine ⟨lostDrops, lostSpans, ⟨hremnant, ?_, ?_⟩, ?_⟩
  · simp only [List.map_cons, List.sum_cons] at hdrops ⊢
    omega
  · simp only [List.map_cons, List.sum_cons] at hspans ⊢
    omega
  · rw [hiff]
    constructor
    · intro hk d hd
      rw [hget] at hd
      cases hd
      exact hk
    · exact fun hk => hk c hget

theorem duringFork_behind {s t : StreamRecorder S} (h : s.Sound) {ioVecMax : Nat} (hmax : 0 < ioVecMax)
    {e : RecorderEvent S ErrorCode} (hduring : DuringFork e) (hstep : s.step ioVecMax e = some t)
    (hfew : t.spanStream.metrics.spansDropped < 2 ^ 31) :
    ∃ lostDrops lostSpans, Behind s t lostDrops lostSpans ∧ (lostDrops = 0 ∧ lostSpans = 0 ↔ s.Keeps ioVecMax e) := by
  cases e with
  | recordSpan span added => exact ⟨0, 0, recordSpan_behind h hstep hfew, by simp [Keeps]⟩
  | destroy index socket =>
    obtain ⟨-, hdestroy⟩ := Option.ite_none_right_eq_some.mp hstep
    exact destroy_behind h hmax hdestroy
  | connection index event => exact hduring.elim
  | throwAwaySpans => exact hduring.elim
  | join => exact hduring.elim
  | onForkedParent common => exact hduring.elim
  | onForkedChild common => exact hduring.elim

/-- Drops are only added, also those of the headers that are left. -/
theorem duringFork_grows {s t : StreamRecorder S} (h : s.Sound) {ioVecMax : Nat} (hmax : 0 < ioVecMax)
    {e : RecorderEvent S ErrorCode} (hduring : DuringFork e) (hstep : s.step ioVecMax e = some t) :
    s.spanStream.metrics.spansDropped ≤ t.spanStream.metrics.spansDropped ∧ (s.AbandonedFits → t.AbandonedFits) := by
  cases e with
  | recordSpan span added =>
    cases added with
    | false =>
      cases hstep
      exact ⟨Nat.le_succ _, fun hfits c hc => Nat.le_succ_of_le (hfits c hc)⟩
    | true =>
      obtain ⟨spanBuffer, -, rfl⟩ := Option.map_eq_some_iff.mp hstep
      exact ⟨Nat.le_refl _, fun hfits c hc => hfits c hc⟩
  | destroy index socket =>
    obtain ⟨-, hdestroy⟩ := Option.ite_none_right_eq_some.mp hstep
    obtain ⟨c, hget, rfl⟩ := Option.map_eq_some_iff.mp hdestroy
    have hc := h.of_getElem? hget
    obtain ⟨-, hgrows, -⟩ := hc.destroy hmax socket
    have hleft := hc.unsentDrops_le hmax socket
    refine ⟨hgrows, fun hfits d hd => ?_⟩
    rcases List.mem_cons.mp hd with rfl | hd
    · exact Nat.le_trans hleft hgrows
    · exact Nat.le_trans (hfits d hd) hgrows
  | connection index event => exact hduring.elim
  | throwAwaySpans => exact hduring.elim
  | join => exact hduring.elim
  | onForkedParent common => exact hduring.elim
  | onForkedChild common => exact hduring.elim

theorem closing_grows {ioVecMax : Nat} (hmax : 0 < ioVecMax) {closing : List (RecorderEvent S ErrorCode)}
    {s t : StreamRecorder S} (h : s.Sound) (hpromise : ∀ e ∈ closing, Promise e)
    (hduring : ∀ e ∈ closing, DuringFork e) (hrun : (machine S ErrorCode ioVecMax).run s closing = some t) :
    t.Sound ∧ s.spanStream.metrics.spansDropped ≤ t.spanStream.metrics.spansDropped ∧
      (s.AbandonedFits → t.AbandonedFits) := by
  induction closing generalizing s with
  | nil =>
    cases hrun
    exact ⟨h, Nat.le_refl _, id⟩
  | cons e rest ih =>
    obtain ⟨u, hstep, hrest⟩ := (machine S ErrorCode ioVecMax).run_cons.mp hrun
    have hu := step_sound h (hpromise e (List.mem_cons_self ..)) hstep
    obtain ⟨hgrows, hfits⟩ := duringFork_grows h hmax (hduring e (List.mem_cons_self ..)) hstep
    obtain ⟨ht, hgrows', hfits'⟩ := ih hu (fun f hf => hpromise f (List.mem_cons_of_mem e hf))
      (fun f hf => hduring f (List.mem_cons_of_mem e hf)) hrest
    exact ⟨ht, Nat.le_trans hgrows hgrows', hfits' ∘ hfits⟩

theorem closing_behind {ioVecMax : Nat} (hmax : 0 < ioVecMax) {closing : List (RecorderEvent S ErrorCode)}
    {s t : StreamRecorder S} (h : s.Sound) (hpromise : ∀ e ∈ closing, Promise e)
    (hduring : ∀ e ∈ closing, DuringFork e)
    (hrun : (machine S ErrorCode ioVecMax).run s closing = some t)
    (hfew : t.spanStream.metrics.spansDropped < 2 ^ 31) :
    ∃ lostDrops lostSpans, Behind s t lostDrops lostSpans ∧
      (lostDrops = 0 ∧ lostSpans = 0 ↔ (machine S ErrorCode ioVecMax).Guarded (Keeps ioVecMax) s closing) := by
  induction closing generalizing s with
  | nil =>
    cases hrun
    exact ⟨0, 0, ⟨rfl, by omega, by omega⟩, by simp [Machine.Guarded]⟩
  | cons e rest ih =>
    obtain ⟨u, hstep, hrest⟩ := (machine S ErrorCode ioVecMax).run_cons.mp hrun
    have hu := step_sound h (hpromise e (List.mem_cons_self ..)) hstep
    have hpromise' : ∀ f ∈ rest, Promise f := fun f hf => hpromise f (List.mem_cons_of_mem e hf)
    have hduring' : ∀ f ∈ rest, DuringFork f := fun f hf => hduring f (List.mem_cons_of_mem e hf)
    obtain ⟨-, hgrows, -⟩ := closing_grows hmax hu hpromise' hduring' hrest
    obtain ⟨a, b, hbehind, hiff⟩ := duringFork_behind h hmax (hduring e (List.mem_cons_self ..)) hstep
      (Nat.lt_of_le_of_lt hgrows hfew)
    obtain ⟨c, d, hbehind', hiff'⟩ := ih hu hpromise' hduring' hrest
    refine ⟨a + c, b + d, hbehind.trans hbehind', ?_⟩
    have hguarded : (machine S ErrorCode ioVecMax).Guarded (Keeps ioVecMax) s (e :: rest) ↔
        s.Keeps ioVecMax e ∧ (machine S ErrorCode ioVecMax).Guarded (Keeps ioVecMax) u rest := by
      refine and_congr_right' ⟨fun hall => hall u hstep, fun hg v hv => ?_⟩
      cases hstep.symm.trans hv
      exact hg
    rw [hguarded, ← hiff, ← hiff']
    omega

/-! ### The new streamer -/

theorem parkedSpans_eq_zero_iff (sp : SpanStream S) : parkedSpans sp = 0 ↔ remnantBytes sp.remnant = [] := by
  unfold parkedSpans
  split <;> simp [*]

omit [SeekableFragmentInputStream S] in
theorem step_join {ioVecMax : Nat} {s t : StreamRecorder S}
    (hstep : (machine S ErrorCode ioVecMax).step s .join = some t) :
    t = {s with joined := true, refused := 0, abandoned := []} := by
  obtain ⟨-, heq⟩ := Option.ite_none_left_eq_some.mp hstep
  exact (Option.some.inj heq).symm

omit [SeekableFragmentInputStream S] in
theorem step_onForkedParent {ioVecMax : Nat} {s t : StreamRecorder S} {common : Fragment}
    (hstep : (machine S ErrorCode ioVecMax).step s (.onForkedParent common) = some t) : t = s.resume common := by
  obtain ⟨-, heq⟩ := Option.ite_none_right_eq_some.mp hstep
  exact (Option.some.inj heq).symm

omit [SeekableFragmentInputStream S] [FragmentInputStream S] in
theorem embeddedDrops_eq {connections : List (SatelliteConnection S)} (h : embeddedWords connections < 2 ^ 31) :
    embeddedDrops connections = embeddedWords connections := by
  refine sum_map_toInt_eq fun c hc => Nat.lt_of_le_of_lt ?_ h
  exact List.le_sum_of_mem
    (List.mem_map_of_mem (f := fun c => counted c.connectionStream.embeddedMetricsMessage.numDroppedSpans) hc)

/-- **A fork loses nothing** exactly if nothing is parked and every connection keeps what it holds, as long as
the counts of drops have not wrapped. -/
theorem forkAccounted_iff {ioVecMax : Nat} (hmax : 0 < ioVecMax) {maxBufferedSpans numSatelliteConnections : Nat}
    {host common newCommon : Fragment} {events closing : List (RecorderEvent S ErrorCode)} {s t : StreamRecorder S}
    (hpromise : ∀ e ∈ events ++ closing, Promise e) (hduring : ∀ e ∈ closing, DuringFork e)
    (hrun : (machine S ErrorCode ioVecMax).run (new maxBufferedSpans numSatelliteConnections host common) events =
      some s)
    (hfork : (machine S ErrorCode ioVecMax).run s (.join :: closing ++ [.onForkedParent newCommon]) = some t)
    (hfew : t.spanStream.metrics.spansDropped < 2 ^ 31) :
    ForkAccounted s t ↔ remnantBytes s.spanStream.remnant = [] ∧
      (machine S ErrorCode ioVecMax).Guarded (Keeps ioVecMax) s (.join :: closing) := by
  have hsound := run_sound (fun e he => hpromise e (List.mem_append_left _ he)) hrun
  obtain ⟨joined, hjoin, hrest⟩ := (machine S ErrorCode ioVecMax).run_cons.mp hfork
  have hjoined := step_join hjoin
  have hjoinedSound : joined.Sound := by
    rw [hjoined]
    exact ⟨hsound.spans, hsound.streams, hsound.drops⟩
  rw [List.append_eq, Machine.run_append] at hrest
  obtain ⟨u, hclosing, hresume⟩ := Option.bind_eq_some_iff.mp hrest
  have ht : t = u.resume newCommon := by
    obtain ⟨v, hv, hnil⟩ := (machine S ErrorCode ioVecMax).run_cons.mp hresume
    cases hnil
    exact step_onForkedParent hv
  obtain ⟨hnum, hdropped⟩ := u.resume_drops newCommon
  rw [← ht] at hnum hdropped
  have hclosingPromise : ∀ e ∈ closing, Promise e := fun e he => hpromise e (List.mem_append_right _ he)
  obtain ⟨hu, hgrows, hfits⟩ := closing_grows hmax hjoinedSound hclosingPromise hduring hclosing
  obtain ⟨lostDrops, lostSpans, hbehind, hiff⟩ := closing_behind hmax hjoinedSound hclosingPromise hduring hclosing
    (hdropped ▸ hfew)
  have hguarded : (machine S ErrorCode ioVecMax).Guarded (Keeps ioVecMax) s (.join :: closing) ↔
      (machine S ErrorCode ioVecMax).Guarded (Keeps ioVecMax) joined closing := by
    refine ⟨fun h => h.2 joined hjoin, fun h => ⟨trivial, fun v hv => ?_⟩⟩
    cases hjoin.symm.trans hv
    exact h
  have hdrops := hbehind.drops
  have hspans := hbehind.spans
  subst hjoined
  simp only [List.map_nil, List.sum_nil, Nat.add_zero] at hdrops hspans hgrows
  have habandoned : t.abandoned = u.abandoned := by rw [ht]; rfl
  have hrefused : t.refused = u.refused := by rw [ht]; rfl
  have huDrops := hu.drops
  have hsDrops := hsound.drops
  -- below the bound every word is the number it is read as
  have htNum : t.spanStream.metrics.numDroppedSpans.toInt = counted t.spanStream.metrics.numDroppedSpans :=
    toInt_eq_counted (by omega)
  have hsNum : s.spanStream.metrics.numDroppedSpans.toInt = counted s.spanStream.metrics.numDroppedSpans :=
    toInt_eq_counted (by omega)
  have htEmbedded := embeddedDrops_eq (by omega : embeddedWords t.connections < 2 ^ 31)
  have huUnsent : (u.abandoned.map fun c => c.unsentDrops.toInt).sum =
      ((u.abandoned.map fun c => counted c.unsentDrops).sum : Nat) := by
    refine sum_map_toInt_eq fun c hc => ?_
    have hle := hfits (fun _ hc => absurd hc List.not_mem_nil) c hc
    omega
  rw [hguarded, ← hiff, ← parkedSpans_eq_zero_iff]
  constructor
  · intro h
    have hd := h.drops
    have hs := h.spans
    rw [htNum, hsNum, htEmbedded, hdropped, habandoned, huUnsent] at hd
    rw [hdropped, habandoned, hrefused] at hs
    omega
  · rintro ⟨hpark, hlostDrops, hlostSpans⟩
    refine ⟨?_, ?_⟩
    · rw [htNum, hsNum, htEmbedded, hdropped, habandoned, huUnsent]
      omega
    · rw [hdropped, habandoned, hrefused]
      omega

/-- A buffer of one span, a span that is dropped, and a connection attempt that fails: the next
header of the connection takes over the drop. -/
def dropping : List (RecorderEvent FragmentArrayInputStream Unit) :=
  [.recordSpan (.ofFragments [ascii "2\r\nab\r\n"]) true, .recordSpan (.ofFragments [ascii "2\r\ncd\r\n"]) false,
    .connection 0 (.start none)]

/-- The connection then comes up and sends the header. -/
def connecting : List (RecorderEvent FragmentArrayInputStream Unit) :=
  dropping ++ [.connection 0 (.retry (some 5)), .connection 0 (.writable SatelliteConnection.accepting)]

def forking : List (RecorderEvent FragmentArrayInputStream Unit) :=
  [.join, .destroy 0 SatelliteConnection.accepting, .onForkedParent []]

theorem connecting_promise : ∀ e ∈ connecting ++ [.destroy 0 SatelliteConnection.accepting], Promise e := by
  have hfirst : Framed (FragmentArrayInputStream.ofFragments [ascii "2\r\nab\r\n"]) :=
    ⟨FragmentArrayInputStream.wellFormed_ofFragments _, _, _, rfl, by decide⟩
  have hsecond : Framed (FragmentArrayInputStream.ofFragments [ascii "2\r\ncd\r\n"]) :=
    ⟨FragmentArrayInputStream.wellFormed_ofFragments _, _, _, rfl, by decide⟩
  simpa [connecting, dropping, Promise] using ⟨hfirst, hsecond⟩

/-- The counts of a fork, from the state before it. -/
def counts (s t : StreamRecorder FragmentArrayInputStream) : List Int :=
  [s.spanStream.metrics.numDroppedSpans.toInt, s.spanStream.metrics.spansDropped, parkedSpans s.spanStream,
    t.spanStream.metrics.numDroppedSpans.toInt, t.spanStream.metrics.spansDropped, t.refused,
    embeddedDrops t.connections, (t.abandoned.map fun c => c.unsentDrops.toInt).sum,
    (t.abandoned.map ConnectionStream.unsentSpans).sum]

def countsOf (events : List (RecorderEvent FragmentArrayInputStream Unit)) : Option (List Int) :=
  ((machine FragmentArrayInputStream Unit 16).run (new 1 1 [] []) events).bind fun s =>
    ((machine FragmentArrayInputStream Unit 16).run s forking).map (counts s)

theorem connecting_keeps : ∃ s, (machine FragmentArrayInputStream Unit 16).run (new 1 1 [] []) connecting = some s ∧
    remnantBytes s.spanStream.remnant = [] ∧
    (machine FragmentArrayInputStream Unit 16).Guarded (Keeps 16) s
      [.join, .destroy 0 SatelliteConnection.accepting] := by
  have hcounts : countsOf connecting = some [0, 1, 0, 0, 1, 0, 0, 0, 0] := by decide +kernel
  obtain ⟨s, hrun, hmap⟩ := Option.bind_eq_some_iff.mp hcounts
  obtain ⟨t, hfork, hcounts⟩ := Option.map_eq_some_iff.mp hmap
  simp only [counts, List.cons.injEq, and_true] at hcounts
  obtain ⟨hnum, hdropped, hparked, hnum', hdropped', hrefused, hembedded, hdrops, hspans⟩ := hcounts
  refine ⟨s, hrun, (forkAccounted_iff (by decide) connecting_promise ?_ hrun hfork ?_).mp ⟨?_, ?_⟩⟩
  · simp [DuringFork]
  · omega
  · rw [hnum, hdropped, hnum', hdropped', hembedded, hdrops]
  · omega

/-- The drop is neither in the tracker nor in the header of the new connection. -/
theorem dropping_not_accounted : ∃ s t,
    (machine FragmentArrayInputStream Unit 16).run (new 1 1 [] []) dropping = some s ∧
    (machine FragmentArrayInputStream Unit 16).run s forking = some t ∧ ¬ ForkAccounted s t := by
  have hcounts : countsOf dropping = some [0, 1, 0, 0, 1, 0, 0, 1, 0] := by decide +kernel
  obtain ⟨s, hrun, hmap⟩ := Option.bind_eq_some_iff.mp hcounts
  obtain ⟨t, hfork, hcounts⟩ := Option.map_eq_some_iff.mp hmap
  simp only [counts, List.cons.injEq, and_true] at hcounts
  obtain ⟨hnum, hdropped, -, hnum', hdropped', -, hembedded, hdrops, -⟩ := hcounts
  refine ⟨s, t, hrun, hfork, fun h => ?_⟩
  have htold := h.drops
  rw [hnum, hdropped, hnum', hdropped', hembedded, hdrops] at htold
  cases htold

end StreamRecorder
end Lightstep.Recorder

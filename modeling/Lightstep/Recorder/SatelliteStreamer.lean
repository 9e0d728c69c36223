import Lightstep.Common.RandomTraverser
import Lightstep.Recorder.SatelliteTimers
import Lightstep.Recorder.StreamRecorder
import Mathlib.Data.List.Nodup

/-! The streamer, which works on all the connections of a recorder.

A flush goes through the connections in random order, passes over those that are not ready and
stops at the first that takes everything. What the streamer does is a run of the recorder's events,
one for each connection it comes to. Other threads record spans while a flush runs; what they add
while a connection writes comes behind its allotment, as what they add right after the write. -/
namespace Lightstep.Recorder
open Library Common Network FragmentInputStream LawfulFragmentInputStream SpanStream

variable {S R ErrorCode : Type} [FragmentInputStream S]

namespace StreamRecorder

def ready (s : StreamRecorder S) (index : Nat) : Bool := s.connections[index]?.any SatelliteConnection.ready

/-- The connection of an index as it is replaced, and the span stream that it shares. -/
def setConnection (index : Nat) (c : SatelliteConnection S) (s : StreamRecorder S) : StreamRecorder S :=
  {s with spanStream := c.spanStream, connections := s.connections.set index c}

/-- The callback of a flush. -/
def flushConnection (ioVecMax : Nat) (sockets : Nat → Socket ErrorCode) : Callback (StreamRecorder S) := fun index s =>
  match s.connections[index]? with
  | none => (true, s)
  | some c =>
    if !c.ready then (true, s)
    else
      let (c, flushedEverything) := {c with spanStream := s.spanStream}.flush ioVecMax (sockets index)
      (!flushedEverything, s.setConnection index c)

/-- What other threads record, each span with what its `Add` returns where there is room. -/
def recordSpans (calls : List (S × Bool)) (s : StreamRecorder S) : StreamRecorder S :=
  calls.foldl (fun s call => ((s.recordSpan call.1 call.2).or (s.recordSpan call.1 false)).getD s) s

/-- The callback of a flush, and what is recorded until it is called again. -/
def flushBeside (ioVecMax : Nat) (sockets : Nat → Socket ErrorCode) (others : Nat → List (S × Bool)) :
    Callback (StreamRecorder S) := fun index s =>
  let (goOn, s) := flushConnection ioVecMax sockets index s
  (goOn, s.recordSpans (others index))

/-- A round of a loop over the connections. -/
def forConnection (f : Nat → SatelliteConnection S → SatelliteConnection S) (s : StreamRecorder S) (index : Nat) :
    StreamRecorder S :=
  match s.connections[index]? with
  | none => s
  | some c => s.setConnection index (f index {c with spanStream := s.spanStream})

/-- The first rounds. -/
def forConnections (f : Nat → SatelliteConnection S → SatelliteConnection S) (rounds : Nat) (s : StreamRecorder S) :
    StreamRecorder S := (List.range rounds).foldl (forConnection f) s

def forEachConnection (f : Nat → SatelliteConnection S → SatelliteConnection S) (s : StreamRecorder S) :
    StreamRecorder S := s.forConnections f s.connections.length

end StreamRecorder

structure SatelliteStreamer (S R : Type) where
  recorder : StreamRecorder S
  connectionTraverser : RandomTraverser
  randomNumberGenerator : R

namespace SatelliteStreamer

def isActive (s : SatelliteStreamer S R) : Bool := s.recorder.connections.any fun c => !c.wasShutdown

/-- The sockets answer, and other threads record, by the index of the connection. -/
def flush (distribution : UniformIntDistribution R) (ioVecMax : Nat) (sockets : Nat → Socket ErrorCode)
    (others : Nat → List (S × Bool)) (s : SatelliteStreamer S R) : Option (SatelliteStreamer S R) :=
  if s.recorder.spanStream.spanBuffer.empty then some s
  else
    (s.connectionTraverser.forEachIndex (distribution.beside (StreamRecorder S))
      (fun index st => ((StreamRecorder.flushBeside ioVecMax sockets others index st.2).1, st.1,
        (StreamRecorder.flushBeside ioVecMax sockets others index st.2).2))
      (s.randomNumberGenerator, s.recorder)).map fun (_, connectionTraverser, randomNumberGenerator, recorder) =>
        ⟨recorder, connectionTraverser, randomNumberGenerator⟩

def initiateShutdown (ioVecMax : Nat) (sockets : Nat → Socket ErrorCode) (s : SatelliteStreamer S R) :
    SatelliteStreamer S R :=
  {s with recorder := s.recorder.forEachConnection fun index c => c.initiateShutdown ioVecMax (sockets index)}

/-- `OnEndpointManagerReady`: every connection is started. -/
def onEndpointManagerReady (connected : Nat → Option Nat) (s : SatelliteStreamer S R) : SatelliteStreamer S R :=
  {s with recorder := s.recorder.forEachConnection fun index c => {c with started := true}.connect (connected index)}

end SatelliteStreamer

/-! ### A flush of one connection -/

omit [FragmentInputStream S] in
/-- Streams that are consumed to their ends are cleared. -/
theorem consume_eq_map_clear {T : Type} [FragmentInputStream T] {streams : List T} {n : Nat}
    (h : (consume streams n).2 = true) : (consume streams n).1 = streams.map clear := by
  induction streams generalizing n with
  | nil => rfl
  | cons s rest ih =>
    rw [consume] at h ⊢
    rcases hvisits : forEachFragment s consumeFragment (n, 0) with ⟨⟨left, index⟩, _ | _⟩
    · rw [hvisits] at h
      cases h
    · rw [hvisits] at h
      simp only [List.map_cons]
      rw [ih h]

omit [FragmentInputStream S] in
theorem write_eq_map_clear {T : Type} [FragmentInputStream T] {ioVecMax : Nat} {socket : Socket ErrorCode}
    {streams : List T} (h : (write ioVecMax socket streams).outcome = .ok true) :
    ((streams.map numFragments).sum = 0 ∧ (write ioVecMax socket streams).streams = streams) ∨
      (write ioVecMax socket streams).streams = streams.map clear := by
  unfold write at h ⊢
  by_cases hzero : (streams.map numFragments).sum = 0
  · simp only [if_pos hzero] at h ⊢
    exact .inl ⟨hzero, trivial⟩
  · simp only [if_neg hzero] at h ⊢
    generalize WriteState.leftover socket _ = s at h ⊢
    cases herror : s.error with
    | some code =>
      simp only [herror] at h
      cases h
    | none =>
      simp only [herror] at h ⊢
      exact .inr (consume_eq_map_clear (Except.ok.inj h))

variable [SeekableFragmentInputStream S]

/-- Nothing is left of spans that are consumed to their end. -/
theorem SpanStream.contents_clear_allot {sp : SpanStream S} (h : sp.Ready) :
    (clear sp.allot : SpanStream S).spanBuffer.contents = [] := by
  have hsize : sp.allot.allotment.size = sp.spanBuffer.size := h.wellFormed.size_peek
  show (sp.spanBuffer.consume sp.allot.allotment.size).contents = []
  rw [hsize, h.wellFormed.consume_contents (Nat.le_refl _), ← h.wellFormed.length_contents, List.drop_length]

theorem SpanStream.contents_of_numFragments {sp : SpanStream S} (h : sp.Ready) (hzero : numFragments sp.allot = 0) :
    sp.spanBuffer.contents = [] := by
  have hsum : (sp.allot.allotted.map numFragments).sum = 0 := hzero
  rw [h.allotted_allot] at hsum
  cases hcontents : sp.spanBuffer.contents with
  | nil => rfl
  | cons span rest =>
    have hframed := h.framed span (hcontents ▸ List.mem_cons_self ..)
    obtain ⟨fragment, others, hfragments, -⟩ := hframed.first
    rw [hcontents, List.map_cons, List.sum_cons, numFragments_eq hframed.valid, hfragments, List.length_cons] at hsum
    omega

/-- What a write that took everything leaves of streams that end in the spans. -/
theorem write_drains {ioVecMax : Nat} {socket : Socket ErrorCode} {sp : SpanStream S} (hsp : sp.Ready)
    {before : List (Source S)} (h : (write ioVecMax socket (before ++ [.inr (.inr sp.allot)])).outcome = .ok true) :
    ∃ after t, (write ioVecMax socket (before ++ [.inr (.inr sp.allot)])).streams = after ++ [.inr (.inr t)] ∧
      (after = before ∨ after = before.map clear) ∧ t.spanBuffer.contents = [] := by
  obtain ⟨hzero, hwritten⟩ | hwritten := write_eq_map_clear h
  · rw [List.map_append, List.sum_append] at hzero
    have hnone : numFragments sp.allot = 0 := (Nat.add_eq_zero_iff.mp (Nat.add_eq_zero_iff.mp hzero).2).1
    have hnil : sp.spanBuffer.contents = [] := contents_of_numFragments hsp hnone
    exact ⟨before, sp.allot, hwritten, .inl rfl, hnil⟩
  · refine ⟨before.map clear, clear sp.allot, ?_, .inr rfl, contents_clear_allot hsp⟩
    rw [hwritten, List.map_append]
    rfl

/-- **A flush that says it flushed everything leaves no span in the buffer.** -/
theorem ConnectionStream.flush_drains {ioVecMax : Nat} {socket : Socket ErrorCode} {c : ConnectionStream S}
    {sp : SpanStream S} (hsp : sp.Ready) (hs : c.shuttingDown = false)
    (h : (c.flush (SatelliteConnection.writer ioVecMax socket) sp).2.2 = .ok true) :
    (c.flush (SatelliteConnection.writer ioVecMax socket) sp).2.1.spanBuffer.contents = [] := by
  have houtcome := flush_outcome (SatelliteConnection.writer ioVecMax socket) c sp
  rw [h] at houtcome
  cases hr : c.spanRemnant with
  | none =>
    have hstreams : c.streams sp = [.inl c.headerStream] ++ [.inr (.inr sp.allot)] := by
      rw [ConnectionStream.streams, hs, hr]
      rfl
    rw [hstreams] at houtcome
    obtain ⟨after, t, hwritten, hafter, ht⟩ := write_drains hsp houtcome.symm
    have hwriter : SatelliteConnection.writer ioVecMax socket [.inl c.headerStream, .inr (.inr sp.allot)] =
      (after ++ [.inr (.inr t)], .ok true) := Prod.ext hwritten houtcome.symm
    simp only [flush, hs, hr, Bool.false_eq_true, if_false, hwriter]
    obtain rfl | rfl := hafter
    · exact ht
    · exact ht
  | some r =>
    have hstreams : c.streams sp = [.inl c.headerStream, .inr (.inl r)] ++ [.inr (.inr sp.allot)] := by
      rw [ConnectionStream.streams, hs, hr]
      rfl
    rw [hstreams] at houtcome
    obtain ⟨after, t, hwritten, hafter, ht⟩ := write_drains hsp houtcome.symm
    have hwriter : SatelliteConnection.writer ioVecMax socket
        [.inl c.headerStream, .inr (.inl r), .inr (.inr sp.allot)] = (after ++ [.inr (.inr t)], .ok true) :=
      Prod.ext hwritten houtcome.symm
    simp only [flush, hs, hr, Bool.false_eq_true, if_false, hwriter]
    obtain rfl | rfl := hafter
    · dsimp only [List.cons_append, List.nil_append]
      split
      · exact ht
      · exact ht
    · dsimp only [List.cons_append, List.nil_append, List.map]
      show ((if _ then _ else _ : ConnectionStream S × SpanStream S × Except String Bool)).2.1.spanBuffer.contents = []
      split
      · exact ht
      · exact ht

namespace SatelliteConnection

omit [SeekableFragmentInputStream S] in
/-- A connection that a flush has not finished with is not ready. -/
theorem flush_not_ready {ioVecMax : Nat} {socket : Socket ErrorCode} {c : SatelliteConnection S}
    (h : (c.flush ioVecMax socket).2 = false) : (c.flush ioVecMax socket).1.ready = false := by
  unfold flush at h ⊢
  generalize c.connectionStream.flush (writer ioVecMax socket) c.spanStream = flushed at h ⊢
  obtain ⟨stream, spans, message | _ | _⟩ := flushed
  · simp only [handleFailure]
    split <;> simp [freeSocket, ready]
  · rfl
  · cases h

omit [SeekableFragmentInputStream S] in
theorem flush_of_flushed {ioVecMax : Nat} {socket : Socket ErrorCode} {c : SatelliteConnection S}
    (h : (c.flush ioVecMax socket).2 = true) :
    (c.connectionStream.flush (writer ioVecMax socket) c.spanStream).2.2 = .ok true ∧
      (c.flush ioVecMax socket).1.spanStream =
        (c.connectionStream.flush (writer ioVecMax socket) c.spanStream).2.1 := by
  unfold SatelliteConnection.flush at h ⊢
  generalize c.connectionStream.flush (writer ioVecMax socket) c.spanStream = flushed at h ⊢
  obtain ⟨stream, spans, message | _ | _⟩ := flushed
  · cases h
  · cases h
  · exact ⟨rfl, rfl⟩

theorem flush_drains {ioVecMax : Nat} {socket : Socket ErrorCode} {c : SatelliteConnection S}
    (hsp : c.spanStream.Ready) (hready : c.ready = true) (h : (c.flush ioVecMax socket).2 = true) :
    (c.flush ioVecMax socket).1.spanStream.spanBuffer.contents = [] := by
  have hs : c.connectionStream.shuttingDown = false := by
    unfold ready at hready
    simpa using (Bool.and_eq_true_iff.mp hready).2
  obtain ⟨houtcome, hspans⟩ := flush_of_flushed h
  rw [hspans]
  exact ConnectionStream.flush_drains hsp hs houtcome

end SatelliteConnection

/-! ### What other threads record -/

namespace StreamRecorder

variable {ioVecMax : Nat} {s t u : StreamRecorder S} {calls : List (S × Bool)} {events : List (RecorderEvent S ErrorCode)}

/-- Some calls of `RecordSpan`, as events of the recorder. -/
structure Recording (ioVecMax : Nat) (calls : List (S × Bool)) (s t : StreamRecorder S)
    (events : List (RecorderEvent S ErrorCode)) : Prop where
  run : (machine S ErrorCode ioVecMax).run s events = some t
  spans : ∀ e ∈ events, ∃ call ∈ calls, ∃ added, e = .recordSpan call.1 added
  connections : t.connections = s.connections
  joined : t.joined = s.joined
  sound : t.Sound
  contents : ∃ added, added.Sublist (calls.map Prod.fst) ∧
    t.spanStream.spanBuffer.contents = s.spanStream.spanBuffer.contents ++ added

theorem Recording.nil (hsound : t.Sound) : Recording ioVecMax [] t t ([] : List (RecorderEvent S ErrorCode)) where
  run := rfl
  spans := nofun
  connections := rfl
  joined := rfl
  sound := hsound
  contents := ⟨[], .refl _, (List.append_nil _).symm⟩

omit [FragmentInputStream S] [SeekableFragmentInputStream S] in
/-- `RecordSpan` leaves the connections and the thread as they are. -/
theorem recordSpan_frame {span : S} {added : Bool} (hstep : t.recordSpan span added = some u) :
    u.connections = t.connections ∧ u.joined = t.joined := by
  cases added with
  | false =>
    cases hstep
    exact ⟨rfl, rfl⟩
  | true =>
    obtain ⟨spanBuffer, -, rfl⟩ := Option.map_eq_some_iff.mp hstep
    exact ⟨rfl, rfl⟩

/-- One more call, which adds its span or not. -/
theorem Recording.step (h : Recording ioVecMax calls s t events) {call : S × Bool} (hspan : Framed call.1)
    {added : Bool} (hstep : t.recordSpan call.1 added = some u) :
    Recording ioVecMax (calls ++ [call]) s u (events ++ [.recordSpan call.1 added]) where
  run := (machine S ErrorCode ioVecMax).run_snoc h.run hstep
  spans e he := by
    rcases List.mem_append.mp he with he | he
    · obtain ⟨call, hcall, hevent⟩ := h.spans e he
      exact ⟨call, List.mem_append_left _ hcall, hevent⟩
    · exact ⟨call, List.mem_append_right _ (List.mem_singleton_self call), added, List.mem_singleton.mp he⟩
  connections := (recordSpan_frame hstep).1.trans h.connections
  joined := (recordSpan_frame hstep).2.trans h.joined
  sound := recordSpan_sound h.sound hspan hstep
  contents := by
    obtain ⟨spans, hspans, hcontents⟩ := h.contents
    rw [List.map_append, List.map_singleton]
    cases added with
    | false =>
      cases hstep
      exact ⟨spans, hspans.trans (List.sublist_append_left ..), hcontents⟩
    | true =>
      obtain ⟨spanBuffer, hadd, rfl⟩ := Option.map_eq_some_iff.mp hstep
      refine ⟨spans ++ [call.1], hspans.append (.refl _), ?_⟩
      rw [← List.append_assoc, ← hcontents]
      exact (h.sound.spans.ready.wellFormed.add hadd).2.1

/-- **What other threads record are events of the recorder**, and the spans that get in come last. -/
theorem Recording.recordSpans (h : Recording ioVecMax calls s t events) {more : List (S × Bool)}
    (hspans : ∀ call ∈ more, Framed call.1) :
    ∃ events : List (RecorderEvent S ErrorCode),
      Recording ioVecMax (calls ++ more) s (t.recordSpans more) events := by
  induction more generalizing calls t events with
  | nil => exact ⟨events, by rwa [List.append_nil]⟩
  | cons call more ih =>
    have hspan := hspans call (List.mem_cons_self ..)
    have hmore := fun other hother => hspans other (List.mem_cons_of_mem call hother)
    rw [StreamRecorder.recordSpans, List.foldl_cons, ← List.singleton_append, ← List.append_assoc]
    cases hcall : t.recordSpan call.1 call.2 with
    | some u => exact ih (h.step hspan hcall) hmore
    | none =>
      have hrefused : ∃ u, t.recordSpan call.1 false = some u := ⟨_, rfl⟩
      obtain ⟨u, hu⟩ := hrefused
      rw [hu]
      exact ih (h.step hspan hu) hmore

/-! ### A flush of all the connections -/

variable {sockets : Nat → Socket ErrorCode} {others : Nat → List (S × Bool)} {index : Nat}

/-- The connection that an event flushes. -/
def flushedBy : RecorderEvent S ErrorCode → Option Nat
  | .connection index (.flush _) => some index
  | _ => none

/-- What happens while a streamer is flushed. -/
inductive DuringFlush (sockets : Nat → Socket ErrorCode) (others : Nat → List (S × Bool)) :
    RecorderEvent S ErrorCode → Prop where
  | flush (index : Nat) : DuringFlush sockets others (.connection index (.flush (sockets index)))
  | recordSpan {index : Nat} {call : S × Bool} (hcall : call ∈ others index) (added : Bool) :
      DuringFlush sockets others (.recordSpan call.1 added)

/-- Some connections are flushed, each of them once and when it was ready, and the others left as they are. -/
structure Flushed (ioVecMax : Nat) (sockets : Nat → Socket ErrorCode) (others : Nat → List (S × Bool))
    (s t : StreamRecorder S) (flushed : List Nat) : Prop where
  run : ∃ events, (machine S ErrorCode ioVecMax).run s events = some t ∧ events.filterMap flushedBy = flushed ∧
    ∀ e ∈ events, DuringFlush sockets others e
  nodup : flushed.Nodup
  ready : ∀ i ∈ flushed, s.ready i = true
  rest : ∀ i, i ∉ flushed → t.connections[i]? = s.connections[i]?

section
omit [SeekableFragmentInputStream S]

theorem Flushed.ready_eq {flushed : List Nat} (h : Flushed ioVecMax sockets others s t flushed)
    (hindex : index ∉ flushed) : t.ready index = s.ready index := by
  rw [StreamRecorder.ready, h.rest index hindex]
  rfl

theorem flushConnection_passes (h : s.ready index = false) : flushConnection ioVecMax sockets index s = (true, s) := by
  unfold flushConnection
  cases hc : s.connections[index]? with
  | none => rfl
  | some c =>
    have hready : c.ready = false := by simpa [ready, hc] using h
    simp [hready]

theorem flushConnection_flushes (ioVecMax : Nat) (sockets : Nat → Socket ErrorCode) (h : s.ready index = true) :
    ∃ c, s.connections[index]? = some c ∧ c.ready = true ∧
      flushConnection ioVecMax sockets index s =
        (!({c with spanStream := s.spanStream}.flush ioVecMax (sockets index)).2,
          s.setConnection index ({c with spanStream := s.spanStream}.flush ioVecMax (sockets index)).1) := by
  unfold flushConnection
  cases hc : s.connections[index]? with
  | none => simp [ready, hc] at h
  | some c =>
    have hready : c.ready = true := by simpa [ready, hc] using h
    refine ⟨c, rfl, hready, ?_⟩
    simp [hready]

omit [FragmentInputStream S] in
theorem ready_setConnection {c d : SatelliteConnection S} (h : s.connections[index]? = some d) :
    (s.setConnection index c).ready index = c.ready := by
  obtain ⟨hlt, -⟩ := List.getElem?_eq_some_iff.mp h
  simp [ready, setConnection, hlt]

/-- What a connection does to its streams is an event of the recorder. -/
theorem step_connection {c d : SatelliteConnection S} {event : SatelliteEvent S ErrorCode} (hjoined : s.joined = false)
    (hc : s.connections[index]? = some c) (hno : ∀ spanStream, event ≠ .other spanStream)
    (hstep : {c with spanStream := s.spanStream}.step ioVecMax event = some d) :
    (machine S ErrorCode ioVecMax).step s (.connection index event) = some (s.setConnection index d) := by
  have hbind : (s.connections[index]?.bind fun c =>
      ({c with spanStream := s.spanStream}.step ioVecMax event).map fun (c : SatelliteConnection S) =>
        s.setConnection index c) = some (s.setConnection index d) := by
    rw [hc, Option.bind_some, hstep]
    rfl
  show (if s.joined then none else s.connection ioVecMax index event) = _
  rw [if_neg (by simp [hjoined])]
  cases event with
  | other spanStream => exact absurd rfl (hno spanStream)
  | _ => exact hbind

/-- The flush of a ready connection is an event of the recorder. -/
theorem step_flush {c : SatelliteConnection S} (hjoined : s.joined = false) (hc : s.connections[index]? = some c)
    (hready : c.ready = true) (socket : Socket ErrorCode) :
    (machine S ErrorCode ioVecMax).step s (.connection index (.flush socket)) =
      some (s.setConnection index ({c with spanStream := s.spanStream}.flush ioVecMax socket).1) := by
  refine step_connection hjoined hc nofun ?_
  show some (if c.ready then _ else _) = _
  rw [if_pos hready]

theorem Flushed.snoc {flushed : List Nat} (h : Flushed ioVecMax sockets others s t flushed) (hindex : index ∉ flushed)
    (hready : s.ready index = true) {c : SatelliteConnection S}
    (hstep : (machine S ErrorCode ioVecMax).step t (.connection index (.flush (sockets index))) =
      some (t.setConnection index c)) :
    Flushed ioVecMax sockets others s (t.setConnection index c) (flushed ++ [index]) where
  run := by
    obtain ⟨events, hrun, hflushed, hevents⟩ := h.run
    refine ⟨events ++ [.connection index (.flush (sockets index))],
      (machine S ErrorCode ioVecMax).run_snoc hrun hstep, ?_, fun e he => ?_⟩
    · rw [List.filterMap_append, hflushed]
      rfl
    · rcases List.mem_append.mp he with he | he
      · exact hevents e he
      · exact List.mem_singleton.mp he ▸ .flush index
  nodup := List.Nodup.append h.nodup (List.nodup_singleton index) (List.disjoint_singleton.mpr hindex)
  ready i hi := by
    rcases List.mem_append.mp hi with hi | hi
    · exact h.ready i hi
    · exact List.mem_singleton.mp hi ▸ hready
  rest i hi := by
    rw [List.mem_append, List.mem_singleton, not_or] at hi
    rw [setConnection, List.getElem?_set_ne (Ne.symm hi.2), h.rest i hi.1]

end

/-- What other threads record flushes nothing. -/
theorem Flushed.records {flushed : List Nat} (h : Flushed ioVecMax sockets others s t flushed)
    {recorded : List (RecorderEvent S ErrorCode)} (hrecorded : Recording ioVecMax (others index) t u recorded) :
    Flushed ioVecMax sockets others s u flushed where
  run := by
    obtain ⟨events, hrun, hflushed, hevents⟩ := h.run
    have hnone : ∀ e ∈ recorded, flushedBy e = none := by
      intro e he
      obtain ⟨call, -, added, rfl⟩ := hrecorded.spans e he
      rfl
    refine ⟨events ++ recorded, ?_, ?_, fun e he => ?_⟩
    · rw [Machine.run_append, hrun]
      exact hrecorded.run
    · rw [List.filterMap_append, hflushed, List.filterMap_eq_nil_iff.mpr hnone, List.append_nil]
    · rcases List.mem_append.mp he with he | he
      · exact hevents e he
      · obtain ⟨call, hcall, added, rfl⟩ := hrecorded.spans e he
        exact .recordSpan hcall added
  nodup := h.nodup
  ready := h.ready
  rest i hi := by rw [hrecorded.connections, h.rest i hi]

/-- What holds of a flush that goes on after some connections. -/
structure FlushGoesOn (ioVecMax : Nat) (sockets : Nat → Socket ErrorCode) (others : Nat → List (S × Bool))
    (s : StreamRecorder S) (before : List Nat) (t : StreamRecorder S) : Prop where
  flushed : Flushed ioVecMax sockets others s t (before.filter s.ready)
  sound : t.Sound
  joined : t.joined = false
  notReady : ∀ i ∈ before, t.ready i = false

/-- A flush leaves no span, or what was recorded while the last connection that it flushed wrote, or it
finds no connection ready any more. -/
def FlushEnds (ioVecMax : Nat) (sockets : Nat → Socket ErrorCode) (others : Nat → List (S × Bool))
    (s t : StreamRecorder S) : Prop :=
  ∃ flushed, Flushed ioVecMax sockets others s t flushed ∧
    (t.spanStream.spanBuffer.contents = [] ∨
      (∃ last, flushed.getLast? = some last ∧
        t.spanStream.spanBuffer.contents.Sublist ((others last).map Prod.fst)) ∨
      ∀ i, t.ready i = false)

theorem FlushGoesOn.records {before : List Nat} (h : FlushGoesOn ioVecMax sockets others s before t)
    (hspans : ∀ call ∈ others index, Framed call.1) :
    FlushGoesOn ioVecMax sockets others s before (t.recordSpans (others index)) := by
  obtain ⟨recorded, hrecorded⟩ := (Recording.nil h.sound).recordSpans hspans
  refine ⟨h.flushed.records hrecorded, hrecorded.sound, hrecorded.joined.trans h.joined, fun i hi => ?_⟩
  rw [ready, hrecorded.connections]
  exact h.notReady i hi

theorem FlushGoesOn.passes {before : List Nat} (h : FlushGoesOn ioVecMax sockets others s before t)
    (hready : s.ready index = false) (hindex : index ∉ before) :
    flushConnection ioVecMax sockets index t = (true, t) ∧
      FlushGoesOn ioVecMax sockets others s (before ++ [index]) t := by
  have hnot : t.ready index = false := by
    rw [h.flushed.ready_eq fun hmem => hindex (List.mem_filter.mp hmem).1, hready]
  refine ⟨flushConnection_passes hnot, ?_, h.sound, h.joined, fun i hi => ?_⟩
  · rw [List.filter_append, List.filter_singleton, hready]
    simpa using h.flushed
  · rcases List.mem_append.mp hi with hi | hi
    · exact h.notReady i hi
    · exact List.mem_singleton.mp hi ▸ hnot

theorem FlushGoesOn.flushes {before : List Nat} (h : FlushGoesOn ioVecMax sockets others s before t)
    (hready : s.ready index = true) (hindex : index ∉ before) {answer : Bool}
    (hanswer : flushConnection ioVecMax sockets index t = (answer, u)) :
    (answer = true → FlushGoesOn ioVecMax sockets others s (before ++ [index]) u) ∧
      (answer = false → (∃ flushed, Flushed ioVecMax sockets others s u (flushed ++ [index])) ∧ u.Sound ∧
        u.spanStream.spanBuffer.contents = []) := by
  have hnot : index ∉ before.filter s.ready := fun hmem => hindex (List.mem_filter.mp hmem).1
  obtain ⟨c, hc, hcready, hcall⟩ := flushConnection_flushes ioVecMax sockets
    ((h.flushed.ready_eq hnot).trans hready)
  obtain ⟨hbool, rfl⟩ := Prod.mk.inj (hcall.symm.trans hanswer)
  have hflushed := h.flushed.snoc hnot hready (step_flush h.joined hc hcready (sockets index))
  have hsound := h.sound.setConnection hc ((h.sound.of_getElem? hc).flush ioVecMax (sockets index))
  constructor
  · intro hgo
    rw [hgo, Bool.not_eq_true'] at hbool
    refine ⟨?_, hsound, h.joined, fun i hi => ?_⟩
    · rw [List.filter_append, List.filter_cons_of_pos hready]
      exact hflushed
    · rcases List.mem_append.mp hi with hi | hi
      · have hne : i ≠ index := fun heq => hindex (heq ▸ hi)
        have hold := h.notReady i hi
        rw [ready, setConnection, List.getElem?_set_ne hne.symm]
        exact hold
      · rw [List.mem_singleton.mp hi, ready_setConnection hc]
        exact SatelliteConnection.flush_not_ready hbool
  · intro hstop
    rw [hstop, Bool.not_eq_false'] at hbool
    exact ⟨⟨_, hflushed⟩, hsound, SatelliteConnection.flush_drains h.sound.spans.ready hcready hbool⟩

/-- A flush that a connection has ended: what is in the buffer then was recorded while it wrote. -/
theorem FlushEnds.of_drained {flushed : List Nat}
    (hflushed : Flushed ioVecMax sockets others s t (flushed ++ [index])) (hsound : t.Sound)
    (hnil : t.spanStream.spanBuffer.contents = []) (hspans : ∀ call ∈ others index, Framed call.1) :
    FlushEnds ioVecMax sockets others s (t.recordSpans (others index)) := by
  obtain ⟨recorded, hrecorded⟩ := (Recording.nil hsound).recordSpans hspans
  obtain ⟨added, hadded, hcontents⟩ := hrecorded.contents
  rw [hnil, List.nil_append] at hcontents
  exact ⟨_, hflushed.records hrecorded, .inr (.inl ⟨index, List.getLast?_concat, hcontents ▸ hadded⟩)⟩

theorem FlushGoesOn.ends {before : List Nat} (h : FlushGoesOn ioVecMax sockets others s before t)
    (hall : before.Perm (List.range s.connections.length)) : FlushEnds ioVecMax sockets others s t := by
  refine ⟨_, h.flushed, .inr (.inr fun i => ?_)⟩
  by_cases hi : i ∈ before
  · exact h.notReady i hi
  · have hge : s.connections.length ≤ i := by
      rw [hall.mem_iff, List.mem_range] at hi
      omega
    rw [h.flushed.ready_eq fun hmem => hi (List.mem_filter.mp hmem).1, StreamRecorder.ready,
      List.getElem?_eq_none hge]
    rfl

end StreamRecorder

namespace SatelliteStreamer
open StreamRecorder

theorem not_mem_of_perm {before rest all : List Nat} {index : Nat} (hperm : (before ++ index :: rest).Perm all)
    (hall : all.Nodup) : index ∉ before := by
  have hdisjoint := (List.nodup_append.mp (hperm.nodup_iff.mpr hall)).2.2
  exact fun hmem => hdisjoint index hmem index (List.mem_cons_self ..) rfl

/-- The callback of a flush keeps to a rule, whatever the draws are. -/
theorem flush_rule (distribution : UniformIntDistribution R) (ioVecMax : Nat) (sockets : Nat → Socket ErrorCode)
    {others : Nat → List (S × Bool)} (hothers : ∀ index, ∀ call ∈ others index, Framed call.1) (s : StreamRecorder S)
    {all : List Nat} (hall : all.Nodup) :
    RandomTraverser.LoopRule (distribution.beside (StreamRecorder S))
      (fun index st => ((flushBeside ioVecMax sockets others index st.2).1, st.1,
        (flushBeside ioVecMax sockets others index st.2).2)) all
      (fun before st => FlushGoesOn ioVecMax sockets others s before st.2)
      (fun st => FlushEnds ioVecMax sockets others s st.2) where
  draw _ _ _ _ h := h
  visit before index rest st hperm h hgo := by
    have hindex := not_mem_of_perm hperm hall
    have hgo : (flushConnection ioVecMax sockets index st.2).1 = true := hgo
    have hnext : FlushGoesOn ioVecMax sockets others s (before ++ [index])
        (flushConnection ioVecMax sockets index st.2).2 := by
      cases hready : s.ready index with
      | false =>
        obtain ⟨hcall, hnext⟩ := h.passes hready hindex
        rw [hcall]
        exact hnext
      | true => exact (h.flushes hready hindex rfl).1 hgo
    exact hnext.records (hothers index)
  stop before index rest st hperm h hstop := by
    have hindex := not_mem_of_perm hperm hall
    have hstop : (flushConnection ioVecMax sockets index st.2).1 = false := hstop
    cases hready : s.ready index with
    | false =>
      rw [(h.passes hready hindex).1] at hstop
      cases hstop
    | true =>
      obtain ⟨⟨flushed, hflushed⟩, hsound, hnil⟩ := (h.flushes hready hindex rfl).2 hstop
      exact .of_drained hflushed hsound hnil (hothers index)

/-- **A flush of the streamer flushes ready connections**, one after the other, until one takes everything. -/
theorem flush_ends (distribution : UniformIntDistribution R) (ioVecMax : Nat) (sockets : Nat → Socket ErrorCode)
    {others : Nat → List (S × Bool)} (hothers : ∀ index, ∀ call ∈ others index, Framed call.1)
    {s : SatelliteStreamer S R} (hsound : s.recorder.Sound) (hjoined : s.recorder.joined = false)
    (hindexes : s.connectionTraverser.indexes.Perm (List.range s.recorder.connections.length)) :
    ∃ t, s.flush distribution ioVecMax sockets others = some t ∧
      FlushEnds ioVecMax sockets others s.recorder t.recorder ∧
      t.connectionTraverser.indexes.Perm s.connectionTraverser.indexes := by
  have hstart : Flushed ioVecMax sockets others s.recorder s.recorder [] :=
    ⟨⟨[], rfl, rfl, nofun⟩, List.nodup_nil, nofun, fun _ _ => rfl⟩
  unfold flush
  cases hempty : s.recorder.spanStream.spanBuffer.empty with
  | true =>
    have hw := hsound.spans.ready.wellFormed
    have hsize : s.recorder.spanStream.spanBuffer.size = 0 := by
      rw [CircularBuffer.size, eq_of_beq hempty, Nat.sub_self]
    have hnil : s.recorder.spanStream.spanBuffer.contents = [] :=
      List.length_eq_zero_iff.mp (hw.length_contents.trans hsize)
    exact ⟨s, rfl, ⟨[], hstart, .inl hnil⟩, .refl _⟩
  | false =>
    obtain ⟨result, traverser, ⟨generator, recorder⟩, hcall, hperm, hleft⟩ :=
      (flush_rule distribution ioVecMax sockets hothers s.recorder
        (hindexes.nodup_iff.mpr List.nodup_range)).forEachIndex
        (s := (s.randomNumberGenerator, s.recorder)) ⟨hstart, hsound, hjoined, nofun⟩
    refine ⟨⟨recorder, traverser, generator⟩, ?_, ?_, hperm⟩
    · rw [hcall]
      rfl
    · obtain ⟨-, before, hbefore, hgoesOn⟩ | ⟨-, hends⟩ := hleft
      · exact hgoesOn.ends (hbefore.trans hindexes)
      · exact hends

end SatelliteStreamer

/-! ### The loops over all the connections -/

namespace StreamRecorder
variable {ioVecMax : Nat} {s : StreamRecorder S}

omit [SeekableFragmentInputStream S] in
/-- **A loop over the connections is an event for each of them.** -/
theorem forConnections_run {f : Nat → SatelliteConnection S → SatelliteConnection S}
    {events : Nat → SatelliteEvent S ErrorCode} (hjoined : s.joined = false)
    (hno : ∀ index spanStream, events index ≠ .other spanStream)
    (hstep : ∀ index c spanStream, s.connections[index]? = some c →
      {c with spanStream := spanStream}.step ioVecMax (events index) = some (f index {c with spanStream := spanStream}))
    {rounds : Nat} (hrounds : rounds ≤ s.connections.length) :
    (machine S ErrorCode ioVecMax).run s ((List.range rounds).map fun index => .connection index (events index)) =
        some (s.forConnections f rounds) ∧
      (s.forConnections f rounds).joined = false ∧
      (s.forConnections f rounds).connections.length = s.connections.length ∧
      ∀ index, rounds ≤ index → (s.forConnections f rounds).connections[index]? = s.connections[index]? := by
  induction rounds with
  | zero => exact ⟨rfl, hjoined, rfl, fun _ _ => rfl⟩
  | succ rounds ih =>
    obtain ⟨hrun, hjoined', hlength, hothers⟩ := ih (Nat.le_of_succ_le hrounds)
    have hc := hothers rounds (Nat.le_refl _)
    rw [List.getElem?_eq_getElem hrounds] at hc
    have hround : s.forConnections f (rounds + 1) = (s.forConnections f rounds).setConnection rounds
        (f rounds {s.connections[rounds] with spanStream := (s.forConnections f rounds).spanStream}) := by
      rw [forConnections, List.range_succ, List.foldl_append]
      show (s.forConnections f rounds).forConnection f rounds = _
      rw [forConnection, hc]
    have hevent := step_connection hjoined' hc (hno rounds)
      (hstep rounds _ (s.forConnections f rounds).spanStream (List.getElem?_eq_getElem hrounds))
    rw [hround, List.range_succ, List.map_append]
    refine ⟨(machine S ErrorCode ioVecMax).run_snoc hrun hevent, hjoined', ?_, fun index hindex => ?_⟩
    · rw [setConnection, List.length_set, hlength]
    · rw [setConnection, List.getElem?_set_ne (by omega), hothers index (by omega)]

/-- The connections of a recorder whose thread runs. -/
structure Fits (n : Nat) (s : StreamRecorder S) : Prop where
  num : s.numSatelliteConnections = n
  length : s.joined = false → s.connections.length = n

section
omit [FragmentInputStream S] [SeekableFragmentInputStream S]

theorem satelliteConnections_length (host common : Fragment) (n : Nat) (spanStream : SpanStream S) :
    (satelliteConnections host common n spanStream).1.length = n := by
  induction n generalizing spanStream with
  | zero => rfl
  | succ n ih => simp [satelliteConnections, ih]

theorem resume_fits {n : Nat} (h : s.numSatelliteConnections = n) (common : Fragment) : (s.resume common).Fits n :=
  ⟨h, fun _ => h ▸ satelliteConnections_length ..⟩

theorem new_fits (maxBufferedSpans n : Nat) (host common : Fragment) :
    (new maxBufferedSpans n host common : StreamRecorder S).Fits n := by
  refine resume_fits ?_ common
  rfl

end

omit [SeekableFragmentInputStream S] in
theorem step_fits {n : Nat} {t : StreamRecorder S} {event : RecorderEvent S ErrorCode} (h : s.Fits n)
    (hstep : s.step ioVecMax event = some t) : t.Fits n := by
  cases event with
  | recordSpan span added =>
    cases added with
    | false =>
      cases hstep
      exact ⟨h.num, h.length⟩
    | true =>
      obtain ⟨spanBuffer, -, rfl⟩ := Option.map_eq_some_iff.mp hstep
      exact ⟨h.num, h.length⟩
  | connection index event =>
    obtain ⟨hjoined, hconnection⟩ := Option.ite_none_left_eq_some.mp hstep
    cases event with
    | other spanStream => cases hconnection
    | _ =>
      obtain ⟨c, -, hmap⟩ := Option.bind_eq_some_iff.mp hconnection
      obtain ⟨d, -, rfl⟩ := Option.map_eq_some_iff.mp hmap
      exact ⟨h.num, fun hnot => (List.length_set ..).trans (h.length hnot)⟩
  | throwAwaySpans =>
    obtain ⟨-, heq⟩ := Option.ite_none_left_eq_some.mp hstep
    cases heq
    exact ⟨h.num, h.length⟩
  | join =>
    obtain ⟨-, heq⟩ := Option.ite_none_left_eq_some.mp hstep
    cases heq
    exact ⟨h.num, nofun⟩
  | destroy index socket =>
    obtain ⟨hjoined, hdestroy⟩ := Option.ite_none_right_eq_some.mp hstep
    obtain ⟨c, -, rfl⟩ := Option.map_eq_some_iff.mp hdestroy
    exact ⟨h.num, fun hnot => absurd (hjoined.symm.trans hnot) nofun⟩
  | onForkedParent common =>
    obtain ⟨-, heq⟩ := Option.ite_none_right_eq_some.mp hstep
    cases heq
    exact resume_fits h.num common
  | onForkedChild common =>
    obtain ⟨-, heq⟩ := Option.ite_none_right_eq_some.mp hstep
    cases heq
    refine resume_fits ?_ common
    exact h.num

end StreamRecorder

/-! ### Runs -/

/-- What happens to a streamer besides what it does with all its connections is an event of its recorder. -/
inductive StreamerEvent (S ErrorCode : Type) where
  | recorder (event : RecorderEvent S ErrorCode)
  | flush (sockets : Nat → Socket ErrorCode) (others : Nat → List (S × Bool))
  | initiateShutdown (sockets : Nat → Socket ErrorCode)
  | onEndpointManagerReady (connected : Nat → Option Nat)

/-- What only the streamer calls. -/
def RecorderEvent.ofStreamer : RecorderEvent S ErrorCode → Bool
  | .connection _ (.start _) => true
  | .connection _ (.flush _) => true
  | .connection _ (.initiateShutdown _) => true
  | _ => false

/-- After a fork there is a new streamer. -/
def RecorderEvent.newStreamer : RecorderEvent S ErrorCode → Bool
  | .onForkedParent _ => true
  | .onForkedChild _ => true
  | _ => false

/-- What happens around a fork only. -/
def RecorderEvent.ofFork : RecorderEvent S ErrorCode → Bool
  | .join => true
  | .destroy _ _ => true
  | .onForkedParent _ => true
  | .onForkedChild _ => true
  | _ => false

namespace SatelliteStreamer
open StreamRecorder

def new (maxBufferedSpans numSatelliteConnections : Nat) (hostHeaderFragment headerCommonFragment : Fragment)
    (randomNumberGenerator : R) : SatelliteStreamer S R :=
  ⟨.new maxBufferedSpans numSatelliteConnections hostHeaderFragment headerCommonFragment,
    .new numSatelliteConnections, randomNumberGenerator⟩

def recorderStep (ioVecMax : Nat) (event : RecorderEvent S ErrorCode) (s : SatelliteStreamer S R) :
    Option (SatelliteStreamer S R) :=
  if event.ofStreamer then none
  else
    (s.recorder.step ioVecMax event).map fun recorder =>
      if event.newStreamer then {s with recorder := recorder, connectionTraverser := .new recorder.numSatelliteConnections}
      else {s with recorder := recorder}

/-- The endpoint manager is ready once. -/
def step (distribution : UniformIntDistribution R) (ioVecMax : Nat) (s : SatelliteStreamer S R) :
    StreamerEvent S ErrorCode → Option (SatelliteStreamer S R)
  | .recorder event => s.recorderStep ioVecMax event
  | .flush sockets others => if s.recorder.joined then none else s.flush distribution ioVecMax sockets others
  | .initiateShutdown sockets => if s.recorder.joined then none else some (s.initiateShutdown ioVecMax sockets)
  | .onEndpointManagerReady connected =>
    if s.recorder.joined || s.recorder.connections.any SatelliteConnection.started then none
    else some (s.onEndpointManagerReady connected)

def machine (S ErrorCode : Type) [FragmentInputStream S] (distribution : UniformIntDistribution R) (ioVecMax : Nat) :
    Machine (SatelliteStreamer S R) (StreamerEvent S ErrorCode) := ⟨step distribution ioVecMax⟩

/-- The spans recorded have bytes. -/
def Promise : StreamerEvent S ErrorCode → Prop
  | .recorder event => StreamRecorder.Promise event
  | .flush _ others => ∀ index, ∀ call ∈ others index, Framed call.1
  | _ => True

/-- Every state of a streamer is one that its recorder's events lead to. -/
structure Recorded (ErrorCode : Type) (ioVecMax n : Nat) (initial : StreamRecorder S) (s : SatelliteStreamer S R) :
    Prop where
  run : ∃ recorded : List (RecorderEvent S ErrorCode), (∀ e ∈ recorded, StreamRecorder.Promise e) ∧
    (StreamRecorder.machine S ErrorCode ioVecMax).run initial recorded = some s.recorder
  indexes : s.connectionTraverser.indexes.Perm (List.range n)

section
variable {distribution : UniformIntDistribution R} {ioVecMax n : Nat} {initial : StreamRecorder S}
  {s t : SatelliteStreamer S R}

theorem Recorded.after (h : Recorded ErrorCode ioVecMax n initial s) {recorded : List (RecorderEvent S ErrorCode)}
    (hpromise : ∀ e ∈ recorded, StreamRecorder.Promise e)
    (hrun : (StreamRecorder.machine S ErrorCode ioVecMax).run s.recorder recorded = some t.recorder)
    (hindexes : t.connectionTraverser.indexes.Perm (List.range n)) : Recorded ErrorCode ioVecMax n initial t := by
  obtain ⟨before, hbefore, hbeforeRun⟩ := h.run
  refine ⟨⟨before ++ recorded, fun e he => ?_, ?_⟩, hindexes⟩
  · rcases List.mem_append.mp he with he | he
    · exact hbefore e he
    · exact hpromise e he
  · rw [Machine.run_append, hbeforeRun, Option.bind_some, hrun]

theorem Recorded.fits (h : Recorded ErrorCode ioVecMax n initial s) (hinitial : initial.Fits n) : s.recorder.Fits n := by
  obtain ⟨recorded, -, hrun⟩ := h.run
  exact (StreamRecorder.machine S ErrorCode ioVecMax).run_invariant (I := StreamRecorder.Fits n)
    (fun _ _ _ hfits hstep => step_fits hfits hstep) recorded _ _ hinitial hrun

theorem Recorded.sound (h : Recorded ErrorCode ioVecMax n initial s) (hinitial : initial.Sound) : s.recorder.Sound := by
  obtain ⟨recorded, hpromise, hrun⟩ := h.run
  exact (StreamRecorder.machine S ErrorCode ioVecMax).guarded_invariant (I := StreamRecorder.Sound)
    (fun _ _ _ hsound hp hstep => step_sound hsound hp.2 hstep) recorded _ _ hinitial
    ((StreamRecorder.machine S ErrorCode ioVecMax).guarded_and_mem
      ((StreamRecorder.machine S ErrorCode ioVecMax).guarded_true recorded initial) hpromise) hrun

/-- What a flush of a reachable streamer leaves. -/
theorem Recorded.flush (distribution : UniformIntDistribution R) (h : Recorded ErrorCode ioVecMax n initial s)
    (hfits : initial.Fits n) (hsound : initial.Sound) (hjoined : s.recorder.joined = false)
    (sockets : Nat → Socket ErrorCode) {others : Nat → List (S × Bool)}
    (hothers : ∀ index, ∀ call ∈ others index, Framed call.1) :
    ∃ t, s.flush distribution ioVecMax sockets others = some t ∧
      FlushEnds ioVecMax sockets others s.recorder t.recorder ∧
      t.connectionTraverser.indexes.Perm (List.range n) := by
  have hlength := (h.fits hfits).length hjoined
  obtain ⟨t, hflush, hends, hperm⟩ := flush_ends distribution ioVecMax sockets hothers (h.sound hsound) hjoined
    (by rw [hlength]; exact h.indexes)
  exact ⟨t, hflush, hends, hperm.trans h.indexes⟩

/-- A step of the streamer is its recorder's own event, or events of the connections. -/
theorem Recorded.events (h : Recorded ErrorCode ioVecMax n initial s) (hfits : initial.Fits n) (hsound : initial.Sound)
    {event : StreamerEvent S ErrorCode} (hpromise : Promise event)
    (hstep : s.step distribution ioVecMax event = some t) :
    ∃ recorded : List (RecorderEvent S ErrorCode),
      (∀ e ∈ recorded, event = .recorder e ∨ StreamRecorder.Promise e ∧ e.ofFork = false) ∧
        (StreamRecorder.machine S ErrorCode ioVecMax).run s.recorder recorded = some t.recorder ∧
          t.connectionTraverser.indexes.Perm (List.range n) := by
  cases event with
  | recorder event =>
    obtain ⟨-, hmap⟩ := Option.ite_none_left_eq_some.mp hstep
    obtain ⟨recorder, hevent, rfl⟩ := Option.map_eq_some_iff.mp hmap
    have hrun : (StreamRecorder.machine S ErrorCode ioVecMax).run s.recorder [event] = some recorder :=
      (Machine.run_cons ..).mpr ⟨recorder, hevent, rfl⟩
    have hnum := (step_fits (h.fits hfits) hevent).num
    have hown : ∀ e ∈ [event], StreamerEvent.recorder event = .recorder e ∨
        StreamRecorder.Promise e ∧ e.ofFork = false := fun e he => .inl (by rw [List.mem_singleton.mp he])
    split
    · exact ⟨[event], hown, hrun, by rw [hnum]; exact .refl _⟩
    · exact ⟨[event], hown, hrun, h.indexes⟩
  | flush sockets others =>
    obtain ⟨hjoined, hflush⟩ := Option.ite_none_left_eq_some.mp hstep
    obtain ⟨u, hflush', hends, hindexes⟩ := h.flush distribution hfits hsound (Bool.eq_false_of_not_eq_true hjoined)
      sockets hpromise
    obtain rfl : u = t := Option.some.inj (hflush'.symm.trans hflush)
    obtain ⟨flushed, hflushed, -⟩ := hends
    obtain ⟨events, hrun, -, hevents⟩ := hflushed.run
    refine ⟨events, fun e he => .inr ?_, hrun, hindexes⟩
    cases hevents e he with
    | flush index => exact ⟨trivial, rfl⟩
    | recordSpan hcall added => exact ⟨hpromise _ _ hcall, rfl⟩
  | initiateShutdown sockets =>
    obtain ⟨hjoined, heq⟩ := Option.ite_none_left_eq_some.mp hstep
    cases heq
    have hrun : (StreamRecorder.machine S ErrorCode ioVecMax).run s.recorder
        ((List.range s.recorder.connections.length).map fun index =>
          .connection index (.initiateShutdown (sockets index))) = some (s.initiateShutdown ioVecMax sockets).recorder := by
      refine (forConnections_run (Bool.eq_false_of_not_eq_true hjoined) ?_ (fun _ _ _ _ => rfl) (Nat.le_refl _)).1
      exact nofun
    refine ⟨_, fun e he => ?_, hrun, h.indexes⟩
    obtain ⟨i, -, rfl⟩ := List.mem_map.mp he
    exact .inr ⟨trivial, rfl⟩
  | onEndpointManagerReady connected =>
    obtain ⟨hguard, heq⟩ := Option.ite_none_left_eq_some.mp hstep
    cases heq
    rw [Bool.or_eq_true, not_or] at hguard
    have hstarted : ∀ c ∈ s.recorder.connections, c.started = false := by
      simpa using hguard.2
    have hrun : (StreamRecorder.machine S ErrorCode ioVecMax).run s.recorder
        ((List.range s.recorder.connections.length).map fun index => .connection index (.start (connected index))) =
          some (s.onEndpointManagerReady connected).recorder := by
      refine (forConnections_run (Bool.eq_false_of_not_eq_true hguard.1) ?_ (fun index c spanStream hc => ?_)
        (Nat.le_refl _)).1
      · exact nofun
      have hnot : ¬c.started = true := by simp [hstarted c (List.mem_of_getElem? hc)]
      exact if_neg hnot
    refine ⟨_, fun e he => ?_, hrun, h.indexes⟩
    obtain ⟨i, -, rfl⟩ := List.mem_map.mp he
    exact .inr ⟨trivial, rfl⟩

theorem Recorded.step (h : Recorded ErrorCode ioVecMax n initial s) (hfits : initial.Fits n) (hsound : initial.Sound)
    {event : StreamerEvent S ErrorCode} (hpromise : Promise event)
    (hstep : s.step distribution ioVecMax event = some t) : Recorded ErrorCode ioVecMax n initial t := by
  obtain ⟨recorded, hevents, hrun, hindexes⟩ := h.events hfits hsound hpromise hstep
  refine h.after (fun e he => ?_) hrun hindexes
  obtain rfl | ⟨hpromised, -⟩ := hevents e he
  · exact hpromise
  · exact hpromised

end

/-- **Whatever runs, a flush leaves only spans that were recorded while its last connection wrote, or no connection
ready**, and it flushes connections that were ready, each of them once. All that a streamer does is a run of
its recorder. -/
theorem flushes_what_is_ready (distribution : UniformIntDistribution R)
    {ioVecMax maxBufferedSpans numSatelliteConnections : Nat} {host common : Fragment} {generator : R}
    {events : List (StreamerEvent S ErrorCode)} {s : SatelliteStreamer S R} (hpromise : ∀ e ∈ events, Promise e)
    (hrun : (machine S ErrorCode distribution ioVecMax).run
      (new maxBufferedSpans numSatelliteConnections host common generator) events = some s) :
    (∃ recorded : List (RecorderEvent S ErrorCode), (∀ e ∈ recorded, StreamRecorder.Promise e) ∧
      (StreamRecorder.machine S ErrorCode ioVecMax).run
        (.new maxBufferedSpans numSatelliteConnections host common) recorded = some s.recorder) ∧
      (s.recorder.joined = false → ∀ (sockets : Nat → Socket ErrorCode) (others : Nat → List (S × Bool)),
        (∀ index, ∀ call ∈ others index, Framed call.1) →
        ∃ t, s.flush distribution ioVecMax sockets others = some t ∧
          FlushEnds ioVecMax sockets others s.recorder t.recorder) := by
  have hfits := new_fits (S := S) maxBufferedSpans numSatelliteConnections host common
  have hsound := new_sound (S := S) maxBufferedSpans numSatelliteConnections host common
  have hguard := (machine S ErrorCode distribution ioVecMax).guarded_and_mem
    ((machine S ErrorCode distribution ioVecMax).guarded_true events
      (new maxBufferedSpans numSatelliteConnections host common generator)) hpromise
  have hrecorded := (machine S ErrorCode distribution ioVecMax).guarded_invariant
    (I := Recorded ErrorCode ioVecMax numSatelliteConnections
      (.new maxBufferedSpans numSatelliteConnections host common))
    (fun _ _ _ h hp hstep => h.step hfits hsound hp.2 hstep) events _ _ ⟨⟨[], nofun, rfl⟩, .refl _⟩ hguard hrun
  refine ⟨hrecorded.run, fun hjoined sockets others hothers => ?_⟩
  obtain ⟨t, hflush, hends, -⟩ := hrecorded.flush distribution hfits hsound hjoined sockets hothers
  exact ⟨t, hflush, hends⟩

/-- Two connections that are up, and a span. -/
def twoReady : List (StreamerEvent FragmentArrayInputStream Unit) :=
  [.onEndpointManagerReady some, .recorder (.connection 0 (.writable SatelliteConnection.accepting)),
    .recorder (.connection 1 (.writable SatelliteConnection.accepting)),
    .recorder (.recordSpan (.ofFragments [ascii "2\r\nab\r\n"]) true)]

theorem twoReady_flushed : ∃ s, (machine FragmentArrayInputStream Unit .counting 16).run (new 1 2 [] [] 0) twoReady =
      some s ∧ s.recorder.ready 0 = true ∧ s.recorder.ready 1 = true ∧
        ∀ sockets : Nat → Socket Unit, ∃ t,
          s.flush .counting 16 sockets (fun _ => [(.ofFragments [ascii "2\r\nab\r\n"], true)]) = some t ∧
            FlushEnds 16 sockets (fun _ => [(.ofFragments [ascii "2\r\nab\r\n"], true)]) s.recorder t.recorder := by
  have hspan : Framed (FragmentArrayInputStream.ofFragments [ascii "2\r\nab\r\n"]) :=
    ⟨FragmentArrayInputStream.wellFormed_ofFragments _, _, _, rfl, by decide⟩
  have hresult : ((machine FragmentArrayInputStream Unit .counting 16).run (new 1 2 [] [] 0) twoReady).map
      (fun s => (s.recorder.ready 0, s.recorder.ready 1, s.recorder.joined)) = some (true, true, false) := by
    decide +kernel
  obtain ⟨s, hrun, hvalues⟩ := Option.map_eq_some_iff.mp hresult
  simp only [Prod.mk.injEq] at hvalues
  have hreachable := flushes_what_is_ready .counting
    (by simpa [twoReady, Promise, StreamRecorder.Promise] using hspan) hrun
  refine ⟨s, hrun, hvalues.1, hvalues.2.1, fun sockets => hreachable.2 hvalues.2.2 sockets _ fun index call hcall => ?_⟩
  rw [List.mem_singleton.mp hcall]
  exact hspan

end SatelliteStreamer
end Lightstep.Recorder

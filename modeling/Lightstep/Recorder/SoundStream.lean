import Mathlib.Algebra.Order.Ring.Nat
import Mathlib.Algebra.Ring.Int.Defs
import Mathlib.Data.List.Forall2
import Lightstep.Recorder.SatelliteConnection

/-! What the streams of a connection keep however its writes end.

A write that throws in the middle of a span of the buffer leaves what is left of it
in the span stream, for any connection to claim. What is said here holds after that
too: the streams can be visited and consumed, and are empty at their ends. -/
namespace Lightstep.Recorder
open Library Common Network FragmentInputStream LawfulFragmentInputStream SeekableFragmentInputStream SpanStream

/-- A stream that can be visited and that is empty at its end. -/
structure Steady {T : Type} [FragmentInputStream T] [SeekableFragmentInputStream T] (s : T) : Prop where
  valid : Valid s
  empty_iff : empty s = true ↔ bytes s = []

theorem steady_none {T : Type} [FragmentInputStream T] [SeekableFragmentInputStream T] (s : T)
    (h : none = some s) : Steady s := by
  cases h

theorem steady_advance {T : Type} [FragmentInputStream T] [SeekableFragmentInputStream T] {s : T} (h : Valid s)
    (n : Nat) : Steady (advance s n) where
  valid := valid_advance h n
  empty_iff := by
    rw [empty_advance h, bytes_advance h, decide_eq_true_eq, List.drop_eq_nil_iff]

variable {S ε ErrorCode : Type} [FragmentInputStream S] [SeekableFragmentInputStream S]

/-- The drops that are counted are the same. -/
structure SpanStream.SameDrops (sp sp' : SpanStream S) : Prop where
  numDroppedSpans : sp'.metrics.numDroppedSpans = sp.metrics.numDroppedSpans
  spansDropped : sp'.metrics.spansDropped = sp.metrics.spansDropped

structure SpanStream.Sound (sp : SpanStream S) : Prop where
  ready : sp.Ready
  remnant : ∀ r, sp.remnant = some r → Steady r

structure ConnectionStream.Sound (c : ConnectionStream S) : Prop where
  header : Steady c.headerStream
  terminal : Steady c.terminalStream
  remnant : ∀ r, c.spanRemnant = some r → Steady r

namespace SpanStream

theorem Sound.allot {sp : SpanStream S} (h : sp.Sound) : sp.allot.Sound := ⟨⟨h.ready.wellFormed, h.ready.framed⟩, h.remnant⟩

theorem Sound.withMetrics {sp : SpanStream S} (h : sp.Sound) (metrics : MetricsTracker) :
    ({sp with metrics := metrics} : SpanStream S).Sound := ⟨⟨h.ready.wellFormed, h.ready.framed⟩, h.remnant⟩

theorem Sound.consumeRemnant {sp : SpanStream S} (h : sp.Sound) :
    (∀ r, sp.consumeRemnant.1 = some r → Steady r) ∧ sp.consumeRemnant.2.Sound :=
  ⟨h.remnant, ⟨⟨h.ready.wellFormed, h.ready.framed⟩, nofun⟩⟩

theorem Ready.consume {sp : SpanStream S} (h : sp.Ready) {k : Nat} (hk : k ≤ sp.spanBuffer.contents.length)
    (sp' : SpanStream S) (hbuffer : sp'.spanBuffer = sp.spanBuffer.consume k) : sp'.Ready := by
  rw [h.wellFormed.length_contents] at hk
  obtain ⟨hw, hcontents, -⟩ := h.wellFormed.consume hk
  rw [← hbuffer] at hw hcontents
  refine ⟨hw, fun span hspan => ?_⟩
  rw [hcontents] at hspan
  exact h.framed span (List.mem_of_mem_drop hspan)

/-- Consuming more than is allotted is consuming all of it. -/
theorem advance_allot_min {sp : SpanStream S} (h : sp.Ready) (n : Nat) :
    advance sp.allot n = advance sp.allot (min n sp.contentBytes.length) := by
  by_cases hn : n ≤ sp.contentBytes.length
  · rw [Nat.min_eq_left hn]
  · have hlt : ¬ n < (bytes sp.allot).length := by
      rw [h.bytes_allot]
      omega
    have hle : ¬ min n sp.contentBytes.length < (bytes sp.allot).length := by
      rw [h.bytes_allot]
      omega
    rw [advance, if_neg hlt, advance, if_neg hle]

theorem Sound.advance_allot {sp : SpanStream S} (h : sp.Sound) (n : Nat) :
    (advance sp.allot n).Sound ∧ sp.SameDrops (advance sp.allot n) := by
  rw [advance_allot_min h.ready]
  obtain ⟨k, hk, hbuffer, -, -, hdropped, hnum, hremnant⟩ :=
    ConnectionStream.advance_spans h.ready (Nat.min_le_right n sp.contentBytes.length)
  refine ⟨⟨h.ready.consume hk _ hbuffer, fun r hr => ?_⟩, hnum, hdropped⟩
  obtain ⟨hvalid, hempty, hbytes, -⟩ := hremnant r hr
  exact ⟨hvalid, by simp [hempty, hbytes]⟩

end SpanStream

/-! ### Writers -/

/-- A stream that a flush may hand to its writer. -/
def SoundSource : Source S → Prop
  | .inl a => Steady a
  | .inr (.inl r) => Steady r
  | .inr (.inr sp) => sp.Sound ∧ sp.allot = sp

/-- A stream as a writer was given it, and as the writer left it. -/
inductive Follows : Source S → Source S → Prop where
  | array {a b : FragmentArrayInputStream} (h : Steady b) : Follows (.inl a) (.inl b)
  | span {r q : S} (h : Steady q) : Follows (.inr (.inl r)) (.inr (.inl q))
  | spans {sp sp' : SpanStream S} (h : sp'.Sound) (hdrops : sp.SameDrops sp') : Follows (.inr (.inr sp)) (.inr (.inr sp'))

theorem SoundSource.follows {s : Source S} (h : SoundSource s) : Follows s s := by
  rcases s with a | r | sp
  · exact .array h
  · exact .span h
  · exact .spans h.1 ⟨rfl, rfl⟩

theorem SoundSource.advance {s : Source S} (h : SoundSource s) (n : Nat) :
    Visits s ∧ Follows s (advance s n) := by
  rcases s with a | r | sp
  · have h : Steady a := h
    rw [advance_inl]
    exact ⟨visits_inl (visits h.valid), .array (steady_advance h.valid n)⟩
  · have h : Steady r := h
    rw [advance_inr, advance_inl]
    exact ⟨visits_inr (visits_inl (visits h.valid)), .span (steady_advance h.valid n)⟩
  · obtain ⟨hsound, hallot⟩ := h
    have hvisits : Visits sp := fun st => by
      rw [← hallot]
      exact hsound.ready.forEachFragment_allot _ st
    obtain ⟨hadvance, hdrops⟩ := hsound.advance_allot n
    rw [hallot] at hadvance hdrops
    rw [advance_inr, advance_inr]
    exact ⟨visits_inr (visits_inr hvisits), .spans hadvance hdrops⟩

/-! What a writer leaves of a list of streams, by its first one. -/

theorem follows_array {a : FragmentArrayInputStream} {rest out : List (Source S)}
    (h : List.Forall₂ Follows (.inl a :: rest) out) :
    ∃ b rest', out = .inl b :: rest' ∧ Steady b ∧ List.Forall₂ Follows rest rest' := by
  obtain ⟨s, rest', hs, hrest, rfl⟩ := List.forall₂_cons_left_iff.mp h
  cases hs with
  | array hb => exact ⟨_, rest', rfl, hb, hrest⟩

theorem follows_span {r : S} {rest out : List (Source S)}
    (h : List.Forall₂ Follows (.inr (.inl r) :: rest) out) :
    ∃ q rest', out = .inr (.inl q) :: rest' ∧ Steady q ∧ List.Forall₂ Follows rest rest' := by
  obtain ⟨s, rest', hs, hrest, rfl⟩ := List.forall₂_cons_left_iff.mp h
  cases hs with
  | span hq => exact ⟨_, rest', rfl, hq, hrest⟩

theorem follows_spans {sp : SpanStream S} {rest out : List (Source S)}
    (h : List.Forall₂ Follows (.inr (.inr sp) :: rest) out) :
    ∃ sp' rest', out = .inr (.inr sp') :: rest' ∧ (sp'.Sound ∧ sp.SameDrops sp') ∧ List.Forall₂ Follows rest rest' := by
  obtain ⟨s, rest', hs, hrest, rfl⟩ := List.forall₂_cons_left_iff.mp h
  cases hs with
  | spans hsp hdrops => exact ⟨_, rest', rfl, ⟨hsp, hdrops⟩, hrest⟩

theorem forall₂_follows {streams : List (Source S)} (h : ∀ s ∈ streams, SoundSource s) :
    List.Forall₂ Follows streams streams := by
  induction streams with
  | nil => exact .nil
  | cons s rest ih =>
    exact .cons (h s (List.mem_cons_self ..)).follows (ih fun t ht => h t (List.mem_cons_of_mem s ht))

theorem consume_follows {streams : List (Source S)} (h : ∀ s ∈ streams, SoundSource s) (n : Nat) :
    List.Forall₂ Follows streams (consume streams n).1 := by
  induction streams generalizing n with
  | nil => exact .nil
  | cons s rest ih =>
    have hrest : ∀ t ∈ rest, SoundSource t := fun t ht => h t (List.mem_cons_of_mem s ht)
    obtain ⟨hvisits, hs⟩ := (h s (List.mem_cons_self ..)).advance n
    rw [consume_cons_of_forEach hvisits]
    split
    · exact .cons hs (forall₂_follows hrest)
    · exact .cons hs (ih hrest _)

/-- However the socket answers, `Write` consumes some bytes of the streams and nothing else. -/
theorem write_follows (ioVecMax : Nat) (socket : Socket ErrorCode) {streams : List (Source S)}
    (h : ∀ s ∈ streams, SoundSource s) :
    List.Forall₂ Follows streams (write ioVecMax socket streams).streams := by
  unfold write
  dsimp only
  split
  · exact forall₂_follows h
  · split
    · exact consume_follows h _
    · exact consume_follows h _

namespace ConnectionStream

theorem Sound.streams {c : ConnectionStream S} {sp : SpanStream S} (hc : c.Sound) (hsp : sp.Sound) :
    ∀ s ∈ c.streams sp, SoundSource s := by
  have hspans : SoundSource (.inr (.inr sp.allot) : Source S) := ⟨hsp.allot, rfl⟩
  unfold ConnectionStream.streams
  cases hr : c.spanRemnant with
  | none =>
    cases c.shuttingDown with
    | true => simpa using ⟨hc.header, hc.terminal⟩
    | false => simpa using ⟨hc.header, hspans⟩
  | some r =>
    cases c.shuttingDown with
    | true => simpa using ⟨hc.header, hc.remnant r hr, hc.terminal⟩
    | false => simpa using ⟨hc.header, hc.remnant r hr, hspans⟩

/-- A flush keeps its streams sound and the drops where they are counted, whether its writer returns or throws. -/
theorem flush_sound {writer : Writer ε S} {c : ConnectionStream S} {sp : SpanStream S} (hc : c.Sound)
    (hsp : sp.Sound) (hwriter : List.Forall₂ Follows (c.streams sp) (writer (c.streams sp)).1) :
    (c.flush writer sp).1.Sound ∧ (c.flush writer sp).2.1.Sound ∧ sp.SameDrops (c.flush writer sp).2.1 ∧
      (c.flush writer sp).1.embeddedMetricsMessage = c.embeddedMetricsMessage := by
  unfold streams at hwriter
  cases hs : c.shuttingDown with
  | true =>
    cases hr : c.spanRemnant with
    | none =>
      simp only [hs, hr] at hwriter
      simp only [flush, flushShutdown, hs, hr, if_true]
      generalize writer [.inl c.headerStream, .inl c.terminalStream] = written at hwriter ⊢
      obtain ⟨streams, outcome⟩ := written
      obtain ⟨h, _, rfl, hheader, hrest⟩ := follows_array hwriter
      obtain ⟨t, _, rfl, hterminal, hnil⟩ := follows_array hrest
      cases hnil
      exact ⟨⟨hheader, hterminal, steady_none⟩, hsp, ⟨rfl, rfl⟩, rfl⟩
    | some r =>
      simp only [hs, hr] at hwriter
      simp only [flush, flushShutdown, hs, hr, if_true]
      generalize writer [.inl c.headerStream, .inr (.inl r), .inl c.terminalStream] = written at hwriter ⊢
      obtain ⟨streams, outcome⟩ := written
      obtain ⟨h, _, rfl, hheader, hrest⟩ := follows_array hwriter
      obtain ⟨q, _, rfl, hremnant, hrest⟩ := follows_span hrest
      obtain ⟨t, _, rfl, hterminal, hnil⟩ := follows_array hrest
      cases hnil
      have hkept : ∀ r', some q = some r' → Steady r' := fun r' hr' => Option.some.inj hr' ▸ hremnant
      cases outcome with
      | error e => exact ⟨⟨hheader, hterminal, hkept⟩, hsp, ⟨rfl, rfl⟩, rfl⟩
      | ok result =>
        dsimp only
        split
        · exact ⟨⟨hheader, hterminal, steady_none⟩, hsp.withMetrics _, ⟨rfl, rfl⟩, rfl⟩
        · exact ⟨⟨hheader, hterminal, hkept⟩, hsp, ⟨rfl, rfl⟩, rfl⟩
  | false =>
    cases hr : c.spanRemnant with
    | none =>
      simp only [hs, hr] at hwriter
      simp only [flush, hs, hr, Bool.false_eq_true, if_false]
      generalize writer [.inl c.headerStream, .inr (.inr sp.allot)] = written at hwriter ⊢
      obtain ⟨streams, outcome⟩ := written
      obtain ⟨h, _, rfl, hheader, hrest⟩ := follows_array hwriter
      obtain ⟨sp', _, rfl, ⟨hspans, hdrops⟩, hnil⟩ := follows_spans hrest
      cases hnil
      have hdrops : sp.SameDrops sp' := ⟨hdrops.numDroppedSpans, hdrops.spansDropped⟩
      cases outcome with
      | error e => exact ⟨⟨hheader, hc.terminal, steady_none⟩, hspans, hdrops, rfl⟩
      | ok result =>
        obtain ⟨hremnant, hconsumed⟩ := hspans.consumeRemnant
        exact ⟨⟨hheader, hc.terminal, hremnant⟩, hconsumed, ⟨hdrops.numDroppedSpans, hdrops.spansDropped⟩, rfl⟩
    | some r =>
      simp only [hs, hr] at hwriter
      simp only [flush, hs, hr, Bool.false_eq_true, if_false]
      generalize writer [.inl c.headerStream, .inr (.inl r), .inr (.inr sp.allot)] = written at hwriter ⊢
      obtain ⟨streams, outcome⟩ := written
      obtain ⟨h, _, rfl, hheader, hrest⟩ := follows_array hwriter
      obtain ⟨q, _, rfl, hremnant, hrest⟩ := follows_span hrest
      obtain ⟨sp', _, rfl, ⟨hspans, hdrops⟩, hnil⟩ := follows_spans hrest
      cases hnil
      have hdrops : sp.SameDrops sp' := ⟨hdrops.numDroppedSpans, hdrops.spansDropped⟩
      have hkept : ∀ r', some q = some r' → Steady r' := fun r' hr' => Option.some.inj hr' ▸ hremnant
      cases outcome with
      | error e => exact ⟨⟨hheader, hc.terminal, hkept⟩, hspans, hdrops, rfl⟩
      | ok result =>
        dsimp only
        split
        · obtain ⟨hclaimed, hconsumed⟩ := (hspans.withMetrics _).consumeRemnant
          exact ⟨⟨hheader, hc.terminal, hclaimed⟩, hconsumed, ⟨hdrops.numDroppedSpans, hdrops.spansDropped⟩, rfl⟩
        · exact ⟨⟨hheader, hc.terminal, hkept⟩, hspans, hdrops, rfl⟩

/-! ### Resets -/

/-- The drop count of a header that is not written to its end. -/
def unsentDrops (c : ConnectionStream S) : Int32 :=
  if bytes c.headerStream = [] then 0 else c.embeddedMetricsMessage.numDroppedSpans

/-- Whether the connection holds a span that is not written to its end. -/
def unsentSpans (c : ConnectionStream S) : Nat := if remnantBytes c.spanRemnant = [] then 0 else 1

theorem Sound.any_spanRemnant {c : ConnectionStream S} (h : c.Sound) :
    (c.spanRemnant.any fun r => !empty r) = !decide (remnantBytes c.spanRemnant = []) := by
  cases hr : c.spanRemnant with
  | none => rfl
  | some r =>
    have hiff := (h.remnant r hr).empty_iff
    cases he : empty r with
    | true => simp [remnantBytes, he, hiff.mp he]
    | false =>
      have hne : bytes r ≠ [] := fun hnil => by
        rw [hiff.mpr hnil] at he
        cases he
      simp [remnantBytes, he, hne]

/-- A reset gives back the drops of a header that was not sent and counts a cut span as dropped,
and the next header takes over all of it. -/
theorem Sound.reset {c : ConnectionStream S} {sp : SpanStream S} (hc : c.Sound) (hsp : sp.Sound) :
    (c.reset sp).1.Sound ∧ (c.reset sp).2.Sound ∧
      (c.reset sp).2.metrics.numDroppedSpans = 0 ∧
      (c.reset sp).2.metrics.spansDropped = sp.metrics.spansDropped + c.unsentSpans ∧
      counted (c.reset sp).1.embeddedMetricsMessage.numDroppedSpans ≤ counted sp.metrics.numDroppedSpans +
        counted c.embeddedMetricsMessage.numDroppedSpans + c.unsentSpans := by
  have hinit (sp : SpanStream S) : (initializeStream {c with spanRemnant := none} sp).1.Inv :=
    initializeStream_inv rfl sp
  refine ⟨⟨⟨(hinit _).header_valid, (hinit _).header_empty⟩,
      ⟨(hinit _).terminal_valid, (hinit _).terminal_empty⟩, nofun⟩,
    (hsp.withMetrics _).withMetrics _, rfl, ?_⟩
  have hany := hc.any_spanRemnant
  have hgiven := counted_add_le sp.metrics.numDroppedSpans c.embeddedMetricsMessage.numDroppedSpans
  have hcut := counted_add_ofNat_le sp.metrics.numDroppedSpans 1
  have hboth := counted_add_ofNat_le
    (sp.metrics.numDroppedSpans + c.embeddedMetricsMessage.numDroppedSpans) 1
  unfold unsentSpans
  unfold ConnectionStream.reset initializeStream
  cases hr : c.spanRemnant with
  | none =>
    cases empty c.headerStream with
    | true => exact ⟨rfl, Nat.le_add_right _ _⟩
    | false => exact ⟨rfl, hgiven⟩
  | some r =>
    rw [hr] at hany
    simp only [Option.any_some] at hany
    by_cases hnil : remnantBytes (some r) = []
    · have he : empty r = true := by simpa [hnil] using hany
      simp only [he, hnil, if_true, Nat.add_zero]
      cases empty c.headerStream with
      | true => exact ⟨rfl, Nat.le_add_right _ _⟩
      | false => exact ⟨rfl, hgiven⟩
    · have he : empty r = false := by simpa [hnil] using hany
      simp only [he, hnil, Bool.false_eq_true, if_false]
      cases empty c.headerStream with
      | true => exact ⟨rfl, Nat.le_trans hcut (by omega)⟩
      | false => exact ⟨rfl, Nat.le_trans hboth (by omega)⟩

end ConnectionStream

/-! ### Every event of a connection -/

namespace SatelliteConnection

/-- The words of the tracker, of the header and of the headers of other connections say no more drops than
there were. -/
structure Sound (others : Nat) (c : SatelliteConnection S) : Prop where
  stream : c.connectionStream.Sound
  spans : c.spanStream.Sound
  drops : counted c.spanStream.metrics.numDroppedSpans +
    counted c.connectionStream.embeddedMetricsMessage.numDroppedSpans + others ≤ c.spanStream.metrics.spansDropped

variable {others : Nat}

theorem new_stream (host common : Fragment) (spanStream : SpanStream S) :
    (new host common spanStream).connectionStream.Sound := by
  have hinv := ConnectionStream.initializeStream_inv (S := S)
    (c := ⟨host, common, .new, .ofFragments [], .ofFragments [], none, false⟩) rfl spanStream
  exact ⟨⟨hinv.header_valid, hinv.header_empty⟩, ⟨hinv.terminal_valid, hinv.terminal_empty⟩, nofun⟩

theorem Sound.freeSocket {c : SatelliteConnection S} (h : c.Sound others) : c.freeSocket.Sound others := by
  obtain ⟨hstream, hspans, hnum, hdropped, hembedded⟩ := h.stream.reset h.spans
  have hdrops := h.drops
  refine ⟨hstream, hspans, ?_⟩
  show counted (c.connectionStream.reset c.spanStream).2.metrics.numDroppedSpans + _ + others ≤
    (c.connectionStream.reset c.spanStream).2.metrics.spansDropped
  rw [hnum, hdropped, counted_zero]
  exact Nat.le_trans (Nat.add_le_add_right (Nat.add_le_add_left hembedded 0) others) (by omega)

theorem Sound.handleFailure {c : SatelliteConnection S} (h : c.Sound others) : c.handleFailure.Sound others := by
  have hfree := h.freeSocket
  unfold SatelliteConnection.handleFailure
  dsimp only
  split
  · exact ⟨hfree.stream, hfree.spans, hfree.drops⟩
  · exact ⟨hfree.stream, hfree.spans, hfree.drops⟩

theorem Sound.connect {c : SatelliteConnection S} (h : c.Sound others) (connected : Option Nat) :
    (c.connect connected).Sound others := by
  cases connected with
  | none => exact h.handleFailure
  | some socket => exact ⟨h.stream, h.spans, h.drops⟩

theorem Sound.flush {c : SatelliteConnection S} (h : c.Sound others) (ioVecMax : Nat) (socket : Socket ErrorCode) :
    (c.flush ioVecMax socket).1.Sound others := by
  have hfollows := write_follows ioVecMax socket (h.stream.streams h.spans)
  have hsound := @ConnectionStream.flush_sound _ _ _ _ (writer ioVecMax socket) _ _ h.stream h.spans hfollows
  unfold SatelliteConnection.flush
  generalize c.connectionStream.flush (writer ioVecMax socket) c.spanStream = flushed at hsound ⊢
  obtain ⟨stream, spans, outcome⟩ := flushed
  obtain ⟨hstream, hspans, hsame, hmessage⟩ := hsound
  have hdrops := h.drops
  rw [← hsame.numDroppedSpans, ← hsame.spansDropped, ← hmessage] at hdrops
  rcases outcome with message | _ | _
  · exact Sound.handleFailure ⟨hstream, hspans, hdrops⟩
  · exact ⟨hstream, hspans, hdrops⟩
  · exact ⟨hstream, hspans, hdrops⟩

theorem Sound.shutdown {c : SatelliteConnection S} (h : c.Sound others) : c.shutdown.Sound others :=
  ⟨⟨h.stream.header, h.stream.terminal, h.stream.remnant⟩, h.spans, h.drops⟩

theorem Sound.initiateReconnect {c : SatelliteConnection S} (h : c.Sound others) (ioVecMax : Nat)
    (socket : Socket ErrorCode) : (c.initiateReconnect ioVecMax socket).Sound others := by
  cases hs : c.isShuttingDown with
  | true =>
    unfold SatelliteConnection.initiateReconnect
    rw [if_pos hs]
    exact h
  | false =>
    rw [initiateReconnect_eq hs]
    split
    · have hflush := h.shutdown.flush ioVecMax socket
      exact ⟨hflush.stream, hflush.spans, hflush.drops⟩
    · exact ⟨h.shutdown.stream, h.spans, h.drops⟩

theorem Sound.reconnect {c : SatelliteConnection S} (h : c.Sound others) (connected : Option Nat) :
    (c.reconnect connected).Sound others := by
  have hfree := h.freeSocket
  unfold SatelliteConnection.reconnect
  dsimp only
  split
  · exact ⟨hfree.stream, hfree.spans, hfree.drops⟩
  · exact hfree.connect connected

theorem Sound.onReadable {c : SatelliteConnection S} (h : c.Sound others) (reads : List (List UInt8)) (last : ReadEnd)
    (connected : Option Nat) : (c.onReadable reads last connected).Sound others := by
  have hparsed : (c.parsed reads).Sound others := ⟨h.stream, h.spans, h.drops⟩
  rcases onReadable_cases reads last connected c with ⟨-, heq⟩ | ⟨-, heq⟩ | ⟨-, heq⟩ | ⟨-, heq⟩
  · rw [heq]
    exact hparsed.handleFailure
  · rw [heq]
    exact hparsed.freeSocket.connect connected
  · rw [heq]
    exact hparsed.reconnect connected
  · rw [heq]
    exact ⟨hparsed.stream, hparsed.spans, hparsed.drops⟩

/-- Every event of the connection itself keeps its streams sound. -/
theorem Sound.step {c d : SatelliteConnection S} (h : c.Sound others) {ioVecMax : Nat}
    {e : SatelliteEvent S ErrorCode} (hno : ∀ spanStream, e ≠ .other spanStream)
    (hstep : c.step ioVecMax e = some d) : d.Sound others := by
  cases handles_of_step hstep with
  | start connected hstarted =>
    have hc : {c with started := true}.Sound others := ⟨h.stream, h.spans, h.drops⟩
    exact hc.connect connected
  | retry connected hpending =>
    have hc : {c with retryTimers := c.retryTimers - 1}.Sound others := ⟨h.stream, h.spans, h.drops⟩
    exact hc.connect connected
  | reconnectTimer socket hpending =>
    have hc : {c with reconnectTimer := false}.Sound others := ⟨h.stream, h.spans, h.drops⟩
    exact hc.initiateReconnect ioVecMax socket
  | gracefulShutdownTimeout connected hpending =>
    have hc : {c with gracefulShutdownTimeout := false}.Sound others := ⟨h.stream, h.spans, h.drops⟩
    exact hc.reconnect connected
  | readable reads last connected hpending =>
    have hc : {c with readEvent := false}.Sound others := ⟨h.stream, h.spans, h.drops⟩
    exact hc.onReadable reads last connected
  | writable socket hpending =>
    have hc : {c with writeEvent := false}.Sound others := ⟨h.stream, h.spans, h.drops⟩
    exact hc.flush ioVecMax socket
  | writeTimeout connected hpending =>
    have hc : {c with writeEvent := false}.Sound others := ⟨h.stream, h.spans, h.drops⟩
    exact hc.freeSocket.connect connected
  | flush socket hready => exact h.flush ioVecMax socket
  | notReady socket hready => exact h
  | initiateShutdown socket =>
    have hreconnect := h.initiateReconnect ioVecMax socket
    exact ⟨hreconnect.stream, hreconnect.spans, hreconnect.drops⟩
  | other spanStream => exact absurd rfl (hno spanStream)

end SatelliteConnection
end Lightstep.Recorder

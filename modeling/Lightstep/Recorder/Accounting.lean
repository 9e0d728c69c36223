import Lightstep.Recorder.Sessions

/-! What the metrics say about the spans and the drops.

A span a session has begun is sent once its last byte is taken. At most one span of
a session is cut, and while the session is under way that is the remnant its
connection holds. A count of drops is in the tracker or in the header of a
session, and goes back to the tracker unless the header is taken. -/
namespace Lightstep.Recorder
open Library Common FragmentInputStream LawfulFragmentInputStream SeekableFragmentInputStream SpanStream
open ConnectionStream

namespace Session
variable {S : Type} [FragmentInputStream S] [SeekableFragmentInputStream S]

def headerTaken (σ : Session) : Bool := decide (σ.header.length ≤ σ.taken.length)

/-- The contents of the spans begun. -/
def contents (added : List S) (σ : Session) : List (List UInt8) := σ.spans.map fun i => remnantBytes added[i]?

/-- How many spans the bytes taken after the header reach the end of. -/
def sentCount (added : List S) (σ : Session) : Nat :=
  (locate (σ.contents added) (σ.taken.length - σ.header.length)).1

/-- The spans whose last byte is taken. -/
def sent (added : List S) (σ : Session) : List Nat := σ.spans.take (σ.sentCount added)

/-- The spans that are begun and whose last byte is not taken. -/
def cut (added : List S) (σ : Session) : List Nat := σ.spans.drop (σ.sentCount added)

theorem sent_append_cut (added : List S) (σ : Session) : σ.sent added ++ σ.cut added = σ.spans :=
  List.take_append_drop ..

theorem flatten_contents (added : List S) (σ : Session) :
    (σ.contents added).flatten = spanBytes added σ.spans := by
  rw [contents, spanBytes, List.flatMap_def]

theorem cut_add {added : List S} {σ : Session} (h : ∀ i ∈ σ.spans, i < added.length) (span : S) :
    σ.cut (added ++ [span]) = σ.cut added := by
  have hcontents : σ.contents (added ++ [span]) = σ.contents added :=
    List.map_congr_left fun i hi => by rw [List.getElem?_append_left (h i hi)]
  rw [cut, cut, sentCount, sentCount, hcontents]

end Session

namespace Sessions
variable {S : Type} [FragmentInputStream S] [SeekableFragmentInputStream S]

/-! ### The counts of one session -/

theorem Live.headerTaken_iff {added : List S} {tail : Nat} {c : ConnectionStream S} {σ : Session}
    (h : Live added tail c σ) : bytes c.headerStream = [] ↔ σ.headerTaken = true := by
  rw [h.header, List.drop_eq_nil_iff, Session.headerTaken, decide_eq_true_eq]

theorem Live.length_rest {added : List S} {tail : Nat} {c : ConnectionStream S} {σ : Session}
    (h : Live added tail c σ) :
    σ.taken.length + c.rest.length =
      σ.header.length + (σ.contents added).flatten.length + σ.terminal.length := by
  have hlength := congrArg List.length h.stream
  rw [List.length_append, Session.stream, List.length_append, List.length_append] at hlength
  rw [Session.flatten_contents]
  exact hlength

/-- What is left of the terminal chunk. -/
theorem Live.terminal_le {added : List S} {tail : Nat} {c : ConnectionStream S} {σ : Session}
    (h : Live added tail c σ) :
    (if c.shuttingDown then bytes c.terminalStream else []).length ≤ σ.terminal.length ∧
      ((bytes c.headerStream ≠ [] ∨ c.spanRemnant ≠ none) →
        (if c.shuttingDown then bytes c.terminalStream else []).length = σ.terminal.length) := by
  rw [Session.terminal, ← h.shuttingDown]
  cases c.shuttingDown with
  | false => exact ⟨Nat.le_refl _, fun _ => rfl⟩
  | true =>
    refine ⟨h.inv.terminal_le, fun hne => ?_⟩
    by_cases heq : bytes c.terminalStream = terminalFragment
    · rw [heq]
    · obtain ⟨-, hheader, hremnant⟩ := h.inv.terminal heq
      rcases hne with hne | hne
      · exact absurd hheader hne
      · exact absurd hremnant hne

/-- **A session has at most one span that is begun and not sent**, the one its connection holds. -/
theorem Live.sentCount {added : List S} {tail : Nat} {c : ConnectionStream S} {σ : Session}
    (h : Live added tail c σ) (hframed : ∀ span ∈ added, Framed span) (htail : tail ≤ added.length) :
    σ.sentCount added + c.remnantCount = σ.spans.length := by
  have hlength := h.length_rest
  obtain ⟨hle, heq⟩ := h.terminal_le
  rw [rest, List.length_append, List.length_append] at hlength
  have hcount : (σ.contents added).length = σ.spans.length := List.length_map ..
  by_cases hheader : bytes c.headerStream = []
  · have htaken : σ.header.length ≤ σ.taken.length := of_decide_eq_true (h.headerTaken_iff.mp hheader)
    rw [hheader, List.length_nil, Nat.zero_add] at hlength
    cases hr : c.spanRemnant with
    | none =>
      rw [hr, remnantBytes, Option.elim_none, List.length_nil, Nat.zero_add] at hlength
      rw [Session.sentCount, locate_of_le (by omega), remnantCount, hr, hcount]
      rfl
    | some r =>
      obtain ⟨before, i, span, hspans, hspan, -, hremnant⟩ := h.remnant r hr
      have hpos : 0 < (bytes r).length := List.length_pos_iff.mpr (h.inv.remnant r hr).2.2.1
      have heq := heq (.inr (by rw [hr]; exact Option.some_ne_none r))
      have hcontents : σ.contents added =
          (before.map fun i => remnantBytes added[i]?) ++ [bytes span] := by
        rw [Session.contents, hspans, List.map_append, List.map_singleton, hspan]
        rfl
      rw [hr, hcontents, List.flatten_append, List.length_append] at hlength
      simp only [remnantBytes, Option.elim_some, List.flatten_singleton] at hlength
      have hat : σ.taken.length - σ.header.length =
          (before.map fun i => remnantBytes added[i]?).flatten.length +
            ((bytes span).length - (bytes r).length) := by
        simp only [remnantBytes]
        omega
      rw [Session.sentCount, hcontents, hat, locate_at (by omega), remnantCount, hr, hspans,
        List.length_append, List.length_map]
      rfl
  · have heq := heq (.inl hheader)
    have hnone : c.spanRemnant = none := by
      cases hr : c.spanRemnant with
      | none => rfl
      | some r => exact absurd (h.inv.header_eq_nil hr) hheader
    have hdrop := congrArg List.length h.header
    rw [List.length_drop] at hdrop
    have hpos : 0 < (bytes c.headerStream).length := List.length_pos_iff.mpr hheader
    rw [hnone, remnantBytes, Option.elim_none, List.length_nil] at hlength
    -- no byte of a span is left to take, and a span has some
    have hspans : σ.spans = [] := by
      cases hspans : σ.spans with
      | nil => rfl
      | cons i others =>
        have hi : i < added.length :=
          Nat.lt_of_lt_of_le (h.lt i (hspans ▸ List.mem_cons_self ..)) htail
        have hspan := (hframed added[i] (List.getElem_mem hi)).bytes_ne_nil
        rw [← List.length_pos_iff] at hspan
        rw [Session.contents, hspans, List.map_cons, List.flatten_cons, List.length_append,
          List.getElem?_eq_getElem hi, remnantBytes, Option.elim_some] at hlength
        omega
    rw [Session.sentCount, Session.contents, hspans, remnantCount, hnone]
    rfl

theorem Live.length_cut {added : List S} {tail : Nat} {c : ConnectionStream S} {σ : Session}
    (h : Live added tail c σ) (hframed : ∀ span ∈ added, Framed span) (htail : tail ≤ added.length) :
    (σ.cut added).length = c.remnantCount := by
  have hcount := h.sentCount hframed htail
  rw [Session.cut, List.length_drop]
  omega

/-! ### The counts of all sessions -/

/-- The drop counts embedded in the headers of some sessions, as words, and as the headers say them. -/
def embeddedWords (sessions : List Session) : Nat := (sessions.map fun σ => counted σ.numDroppedSpans).sum

def embedded (sessions : List Session) : Int := (sessions.map fun σ => σ.numDroppedSpans.toInt).sum

/-- The connections that hold a remnant. -/
def remnants (s : Sessions S) : Nat := (s.connections.map fun x => x.1.remnantCount).sum

structure Accounted (s : Sessions S) : Prop where
  spans : s.spanStream.metrics.spansSent + s.remnants + s.droppedByReset = s.spanStream.spanBuffer.tail
  reset : (s.finished.map fun σ => (σ.cut s.added).length).sum = s.droppedByReset
  /-- The counter has wrapped so many times. -/
  drops : ∃ wraps, s.spanStream.metrics.spansDropped = counted s.spanStream.metrics.numDroppedSpans +
    embeddedWords (s.connections.map Prod.snd) + embeddedWords (s.finished.filter Session.headerTaken) + 2 ^ 32 * wraps

theorem embeddedWords_nil : embeddedWords [] = 0 := rfl

theorem embeddedWords_append (a b : List Session) : embeddedWords (a ++ b) = embeddedWords a + embeddedWords b := by
  rw [embeddedWords, List.map_append, List.sum_append]
  rfl

theorem embeddedWords_cons (σ : Session) (rest : List Session) :
    embeddedWords (σ :: rest) = counted σ.numDroppedSpans + embeddedWords rest := by
  rw [embeddedWords, List.map_cons, List.sum_cons]
  rfl

theorem embeddedWords_filter (sessions : List Session) (p : Session → Bool) :
    embeddedWords sessions = embeddedWords (sessions.filter fun σ => !p σ) + embeddedWords (sessions.filter p) := by
  induction sessions with
  | nil => rfl
  | cons σ rest ih =>
    rw [embeddedWords_cons, ih]
    cases hp : p σ <;> simp [hp, embeddedWords_cons] <;> omega

theorem init_accounted (maxSize : Nat) : (init maxSize : Sessions S).Accounted := ⟨rfl, rfl, 0, rfl⟩

theorem addSpan_accounted {s : Sessions S} (hinv : s.Inv) (h : s.Accounted) (span : S) :
    (s.addSpan span).Accounted := by
  unfold addSpan
  cases hadd : s.spanStream.spanBuffer.add span with
  | none => exact h
  | some b =>
    obtain ⟨-, -, htail, -, -⟩ := hinv.ready.wellFormed.add hadd
    refine { spans := h.spans.trans htail.symm, reset := ?_, drops := h.drops }
    rw [← h.reset]
    refine congrArg List.sum (List.map_congr_left fun σ hmem => ?_)
    have hlt := (hinv.finished σ hmem).lt
    rw [Session.cut_add fun i hi => Nat.lt_of_lt_of_le (hlt i hi) hinv.tail_le]

theorem onSpansDropped_accounted {s : Sessions S} (h : s.Accounted) (numSpans : Nat) :
    (s.onSpansDropped numSpans).Accounted := by
  obtain ⟨wraps, hdrops⟩ := h.drops
  obtain ⟨more, hword⟩ := counted_add_ofNat s.spanStream.metrics.numDroppedSpans numSpans
  refine { spans := h.spans, reset := h.reset, drops := ⟨wraps + more, ?_⟩ }
  show s.spanStream.metrics.spansDropped + numSpans =
    counted (s.spanStream.metrics.numDroppedSpans + .ofNat numSpans) + embeddedWords (s.connections.map Prod.snd) +
      embeddedWords (s.finished.filter Session.headerTaken) + 2 ^ 32 * (wraps + more)
  omega

/-- The header of a new session takes over the drops the tracker has. -/
theorem construct_accounted {s : Sessions S} (h : s.Accounted) (host common : Fragment) :
    (s.construct host common).Accounted := by
  unfold construct ConnectionStream.new
  obtain ⟨wraps, hdrops⟩ := h.drops
  refine { spans := ?_, reset := h.reset, drops := ⟨wraps, ?_⟩ }
  · have hspans := h.spans
    simp only [remnants, List.map_append, List.sum_append, List.map_singleton, List.sum_singleton] at hspans ⊢
    exact hspans
  · simp only [List.map_append, List.map_singleton, embeddedWords_append]
    show s.spanStream.metrics.spansDropped =
      0 + (_ + embeddedWords [⟨host, common, s.spanStream.metrics.numDroppedSpans, [], [], none⟩]) + _ + _
    rw [embeddedWords_cons, embeddedWords_nil]
    dsimp only
    omega

theorem flush_accounted {s t : Sessions S} (hinv : s.Inv) (h : s.Accounted) {i n : Nat} {result : Bool}
    (hn : ∀ c σ, s.connections[i]? = some (c, σ) → n ≤ (c.offered s.spanStream).length)
    (hstep : s.flush i n result = some t) : t.Accounted := by
  obtain ⟨before, after, c, σ, c', spanStream, k, hsplit, -, -, hf, htail, rfl⟩ := flush_cases hinv hn hstep
  have hspans := h.spans
  obtain ⟨wraps, hdrops⟩ := h.drops
  have hsent := hf.spansSent
  simp only [remnants, hsplit, List.map_append, List.map_cons, List.sum_append, List.sum_cons,
    embeddedWords_append, embeddedWords_cons] at hspans hdrops
  refine { spans := ?_, reset := h.reset, drops := ⟨wraps, ?_⟩ }
  · simp only [remnants, List.map_append, List.map_cons, List.sum_append, List.sum_cons, htail]
    omega
  · simp only [List.map_append, List.map_cons, embeddedWords_append, embeddedWords_cons, hf.spansDropped,
      hf.numDroppedSpans]
    exact hdrops

theorem shutdown_accounted {s t : Sessions S} (hinv : s.Inv) (h : s.Accounted) {i : Nat}
    (hstep : s.shutdown i = some t) : t.Accounted := by
  obtain ⟨before, after, c, σ, hsplit, -, rfl⟩ := shutdown_cases hinv hstep
  have hspans := h.spans
  obtain ⟨wraps, hdrops⟩ := h.drops
  simp only [remnants, hsplit, List.map_append, List.map_cons, embeddedWords_append, embeddedWords_cons]
    at hspans hdrops
  refine { spans := ?_, reset := h.reset, drops := ⟨wraps, ?_⟩ }
  · simp only [remnants, List.map_append, List.map_cons]
    exact hspans
  · simp only [List.map_append, List.map_cons, embeddedWords_append, embeddedWords_cons]
    exact hdrops

/-- A reset drops the remnant its connection holds, and gives back the drops of a header that was
not taken. -/
theorem reset_accounted {s t : Sessions S} (hinv : s.Inv) (h : s.Accounted) {i : Nat}
    (hstep : s.reset i = some t) : t.Accounted := by
  obtain ⟨before, after, c, σ, c', metrics, hsplit, hlive, -, hnone, hembedded, hnum, hsent, hdropped, rfl⟩ :=
    reset_cases hinv hstep
  have hspans := h.spans
  have hreset := h.reset
  obtain ⟨wraps, hdrops⟩ := h.drops
  have hcut := hlive.length_cut hinv.framed hinv.tail_le
  have hzero : c'.remnantCount = 0 := by rw [remnantCount, hnone]; rfl
  simp only [remnants, hsplit, List.map_append, List.map_cons, List.sum_append, List.sum_cons,
    embeddedWords_append, embeddedWords_cons] at hspans hdrops
  refine { spans := ?_, reset := ?_, drops := ?_ }
  · simp only [remnants, List.map_append, List.map_cons, List.sum_append, List.sum_cons, hzero, hsent]
    omega
  · simp only [List.map_append, List.sum_append, List.map_singleton, List.sum_singleton, hcut, hreset]
  · have hnew : (Session.begin c').numDroppedSpans = c.resetDroppedSpans s.spanStream := hembedded
    -- the words of the counter and of a header not taken are added up, and the remnant is counted
    have hunsent : (if bytes c.headerStream = [] then (0 : Int32) else σ.numDroppedSpans) =
        if σ.headerTaken then 0 else σ.numDroppedSpans := by
      simp only [hlive.headerTaken_iff]
    obtain ⟨w₁, h₁⟩ := counted_add s.spanStream.metrics.numDroppedSpans
      (if σ.headerTaken then 0 else σ.numDroppedSpans)
    obtain ⟨w₂, h₂⟩ := counted_add_ofNat (s.spanStream.metrics.numDroppedSpans +
      if σ.headerTaken then 0 else σ.numDroppedSpans) c.remnantCount
    refine ⟨wraps + w₁ + w₂, ?_⟩
    simp only [List.map_append, List.map_cons, embeddedWords_append, embeddedWords_cons, List.filter_append, hnew,
      hdropped, hnum, resetDroppedSpans, hlive.numDroppedSpans, hunsent, counted_zero]
    cases htaken : σ.headerTaken with
    | true =>
      simp only [htaken, if_true, counted_zero, List.filter_cons_of_pos, embeddedWords_cons, List.filter_nil,
        embeddedWords_nil] at h₁ h₂ ⊢
      omega
    | false =>
      simp only [htaken, Bool.false_eq_true, if_false, List.filter_cons_of_neg, not_false_eq_true, List.filter_nil,
        embeddedWords_nil] at h₁ h₂ ⊢
      omega

/-! ### Every run -/

theorem step_accounted {s t : Sessions S} {e : SessionEvent S} (hinv : s.Inv) (h : s.Accounted)
    (hpromise : Promise s e) (hstep : s.step e = some t) : t.Accounted := by
  cases e with
  | addSpan span =>
    cases hstep
    exact addSpan_accounted hinv h span
  | onSpansDropped numSpans =>
    cases hstep
    exact onSpansDropped_accounted h numSpans
  | construct host common =>
    cases hstep
    exact construct_accounted h host common
  | flush connection n result => exact flush_accounted hinv h hpromise hstep
  | shutdown connection => exact shutdown_accounted hinv h hstep
  | reset connection => exact reset_accounted hinv h hstep

theorem run_accounted {maxSize : Nat} {events : List (SessionEvent S)} {t : Sessions S}
    (hpromise : (machine S).Guarded Promise (init maxSize) events)
    (hrun : (machine S).run (init maxSize) events = some t) : t.Inv ∧ t.Accounted :=
  (machine S).guarded_invariant (I := fun s => s.Inv ∧ s.Accounted)
    (fun _ _ _ h hp hstep => ⟨step_inv h.1 hp hstep, step_accounted h.1 h.2 hp hstep⟩) events _ _
    ⟨init_inv maxSize, init_accounted maxSize⟩ hpromise hrun

/-- The connections whose remnant has bytes. -/
def heldRemnants (s : Sessions S) : Nat := s.connections.countP fun x => x.1.spanRemnant.any fun r => !empty r

theorem Inv.heldRemnants_eq {s : Sessions S} (h : s.Inv) : s.heldRemnants = s.remnants := by
  have hlive := h.live
  unfold heldRemnants remnants
  generalize s.connections = connections at hlive ⊢
  induction connections with
  | nil => rfl
  | cons x rest ih =>
    have hrest := ih fun c σ hmem => hlive c σ (List.mem_cons_of_mem x hmem)
    have hinv := (hlive x.1 x.2 (List.mem_cons_self ..)).inv
    rw [List.countP_cons, List.map_cons, List.sum_cons, hrest, Nat.add_comm, remnantCount, hinv.any_spanRemnant]

/-- The spans begun in all: sent, dropped by a reset, or held as a remnant. -/
theorem Inv.spansSent_eq {s : Sessions S} (hinv : s.Inv) (h : s.Accounted) :
    s.spanStream.metrics.spansSent = (s.all.flatMap (Session.sent s.added)).length ∧
      s.droppedByReset = (s.finished.flatMap (Session.cut s.added)).length := by
  have hbegun := hinv.begun.length_eq
  have hcuts : (s.connections.map Prod.snd).map (fun σ => (σ.cut s.added).length) =
      s.connections.map fun x => x.1.remnantCount := by
    rw [List.map_map]
    exact List.map_congr_left fun x hmem => (hinv.live x.1 x.2 hmem).length_cut hinv.framed hinv.tail_le
  have hsplit : (s.all.flatMap Session.spans).length =
      (s.all.flatMap (Session.sent s.added)).length + (s.all.map fun σ => (σ.cut s.added).length).sum := by
    induction s.all with
    | nil => rfl
    | cons σ rest ih =>
      have hspans := congrArg List.length (σ.sent_append_cut s.added)
      simp only [List.length_append] at hspans
      simp only [List.flatMap_cons, List.length_append, List.map_cons, List.sum_cons, ih]
      omega
  have hspans := h.spans
  have hreset := h.reset
  rw [List.length_range] at hbegun
  rw [hbegun, all, List.map_append, List.sum_append, hcuts, hreset, ← remnants, ← all] at hsplit
  refine ⟨by omega, ?_⟩
  rw [List.length_flatMap, hreset]

omit [FragmentInputStream S] [SeekableFragmentInputStream S] in
/-- What the words of the counter and of two kinds of headers say of the drops. -/
theorem keptAs_embedded {s : Sessions S} {before taken : List Session} {total : Nat} (wraps : Nat)
    (h : total = counted s.spanStream.metrics.numDroppedSpans + embeddedWords before + embeddedWords taken +
      2 ^ 32 * wraps) :
    KeptAs total (s.spanStream.metrics.numDroppedSpans.toInt + embedded before + embedded taken) := by
  have hwords := @keptAs_of_counted
    (s.spanStream.metrics.numDroppedSpans :: (before ++ taken).map Session.numDroppedSpans) total 0 wraps
  simp only [List.map_cons, List.map_append, List.map_map, List.sum_cons, List.sum_append, Function.comp_def,
    ← Nat.add_assoc, ← Int.add_assoc, Nat.add_zero, Int.natCast_zero, Int.add_zero] at hwords
  exact hwords h

/-- **Spans and drops are conserved.** A span added is in the buffer or in just one session, where it
is sent, held by the connection, or dropped when that is reset. A drop is counted by the tracker or
by one header, as far as the counts have not wrapped. -/
theorem spans_conserved {maxSize : Nat} {events : List (SessionEvent S)} {t : Sessions S}
    (hpromise : (machine S).Guarded Promise (init maxSize) events)
    (hrun : (machine S).run (init maxSize) events = some t) :
    t.added.length = t.spanStream.spanBuffer.size + t.heldRemnants + t.spanStream.metrics.spansSent +
        t.droppedByReset ∧
      (t.all.flatMap Session.spans).Perm (List.range t.spanStream.spanBuffer.tail) ∧
      t.spanStream.metrics.spansSent = (t.all.flatMap (Session.sent t.added)).length ∧
      t.droppedByReset = (t.finished.flatMap (Session.cut t.added)).length ∧
      (∀ c σ, (c, σ) ∈ t.connections →
        (σ.cut t.added).length = if c.spanRemnant.any (fun r => !empty r) then 1 else 0) ∧
      KeptAs t.spanStream.metrics.spansDropped (t.spanStream.metrics.numDroppedSpans.toInt +
        embedded ((t.connections.map Prod.snd).filter fun σ => !σ.headerTaken) +
        embedded (t.all.filter Session.headerTaken)) := by
  obtain ⟨hinv, haccounted⟩ := run_accounted hpromise hrun
  obtain ⟨hsent, hdropped⟩ := hinv.spansSent_eq haccounted
  refine ⟨?_, hinv.begun, hsent, hdropped, ?_, ?_⟩
  · have hspans := haccounted.spans
    have htail := hinv.tail_le
    have hhead := hinv.head
    rw [CircularBuffer.size, hinv.heldRemnants_eq]
    omega
  · intro c σ hmem
    have hlive := hinv.live c σ hmem
    rw [hlive.length_cut hinv.framed hinv.tail_le, remnantCount, hlive.inv.any_spanRemnant]
  · obtain ⟨wraps, hdrops⟩ := haccounted.drops
    have hfilter := embeddedWords_filter (t.connections.map Prod.snd) Session.headerTaken
    refine keptAs_embedded wraps ?_
    rw [all, List.filter_append, embeddedWords_append]
    omega

theorem cutRun_conserved : ∃ t, (machine FragmentArrayInputStream).run (init 1) cutRun = some t ∧
    t.added.length = t.spanStream.spanBuffer.size + t.heldRemnants + t.spanStream.metrics.spansSent +
      t.droppedByReset := by
  have hrun : ((machine FragmentArrayInputStream).run (init 1) cutRun).isSome = true := by decide +kernel
  obtain ⟨t, hrun⟩ := Option.isSome_iff_exists.mp hrun
  exact ⟨t, hrun, (spans_conserved cutRun_promise hrun).1⟩

/-- Two calls with an `int` each, and a count of `2 ^ 31` drops that the tracker has as a negative number. -/
theorem wrappingRun_not_conserved : ∃ t : Sessions FragmentArrayInputStream,
    (machine FragmentArrayInputStream).Guarded Promise (init 1) [.onSpansDropped (2 ^ 31 - 1), .onSpansDropped 1] ∧
      (machine FragmentArrayInputStream).run (init 1) [.onSpansDropped (2 ^ 31 - 1), .onSpansDropped 1] = some t ∧
      t.spanStream.metrics.spansDropped = 2 ^ 31 ∧
      (t.spanStream.metrics.spansDropped : Int) ≠ t.spanStream.metrics.numDroppedSpans.toInt +
        embedded ((t.connections.map Prod.snd).filter fun σ => !σ.headerTaken) +
        embedded (t.all.filter Session.headerTaken) := by
  refine ⟨_, ⟨trivial, fun _ h => ?_⟩, rfl, rfl, by decide⟩
  cases h
  exact ⟨trivial, fun _ _ => trivial⟩

end Sessions
end Lightstep.Recorder

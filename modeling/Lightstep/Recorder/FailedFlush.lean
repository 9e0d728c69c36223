import Lightstep.Recorder.Accounting

/-! Flushes whose writer throws.

The streams stay as far consumed as the writer has left them, and what a flush
does after its writer is not done. The connection is then reset. Where no span of
the buffer was cut this leaves what a flush that returns and a reset would, up to
the count of sent spans. Where one was, it stays parked in the span stream, for
any connection to take. -/
namespace Lightstep.Recorder
open Library Common FragmentInputStream LawfulFragmentInputStream SeekableFragmentInputStream SpanStream

namespace ConnectionStream
variable {S ε : Type} [FragmentInputStream S]

/-- What a flush does after its writer has returned. -/
def settle (c : ConnectionStream S) (sp : SpanStream S) : ConnectionStream S × SpanStream S :=
  match c.spanRemnant with
  | none => if c.shuttingDown then (c, sp) else ({c with spanRemnant := sp.consumeRemnant.1}, sp.consumeRemnant.2)
  | some r =>
    if empty r then
      let sp := {sp with metrics := sp.metrics.onSpansSent 1}
      if c.shuttingDown then ({c with spanRemnant := none}, sp)
      else ({c with spanRemnant := sp.consumeRemnant.1}, sp.consumeRemnant.2)
    else (c, sp)

theorem settle_spanBuffer (c : ConnectionStream S) (sp : SpanStream S) :
    (settle c sp).2.spanBuffer = sp.spanBuffer := by
  unfold settle
  cases c.spanRemnant with
  | none => cases c.shuttingDown <;> rfl
  | some r => cases c.shuttingDown <;> cases he : empty r <;> simp [he, consumeRemnant]

theorem settle_spansDropped (c : ConnectionStream S) (sp : SpanStream S) :
    (settle c sp).2.metrics.spansDropped = sp.metrics.spansDropped := by
  unfold settle
  cases c.spanRemnant with
  | none => cases c.shuttingDown <;> rfl
  | some r =>
    cases c.shuttingDown <;> cases he : empty r <;>
      simp [he, consumeRemnant, MetricsTracker.onSpansSent, MetricsTracker.spansDropped]

/-- A remnant that is parked is claimed unless something is left of the connection's own. -/
theorem settle_parked {c : ConnectionStream S} {sp : SpanStream S} {q : S} (hq : sp.remnant = some q)
    (hnone : (settle c sp).2.remnant = none) :
    (settle c sp).1.spanRemnant = some q ∧ (c.spanRemnant.any fun r => !empty r) = false := by
  unfold settle at hnone ⊢
  cases hr : c.spanRemnant with
  | none =>
    cases hs : c.shuttingDown with
    | true => simp [hr, hs, hq] at hnone
    | false => simp [consumeRemnant, hq]
  | some r =>
    cases he : empty r with
    | true =>
      cases hs : c.shuttingDown with
      | true => simp [hr, hs, he, hq] at hnone
      | false => simp [consumeRemnant, hq, he]
    | false => simp [hr, he, hq] at hnone

theorem reset_spansDropped (c : ConnectionStream S) (sp : SpanStream S) :
    (c.reset sp).2.metrics.spansDropped =
      sp.metrics.spansDropped + if c.spanRemnant.any (fun r => !empty r) then 1 else 0 := by
  unfold reset initializeStream
  cases c.spanRemnant with
  | none =>
    cases empty c.headerStream <;>
      simp [MetricsTracker.consumeDroppedSpans, MetricsTracker.unconsumeDroppedSpans, MetricsTracker.spansDropped]
  | some r =>
    cases empty c.headerStream <;> cases he : empty r <;>
      simp [he, MetricsTracker.consumeDroppedSpans, MetricsTracker.unconsumeDroppedSpans,
        MetricsTracker.onSpansDropped, MetricsTracker.spansDropped]

/-- Settling changes nothing but the count of sent spans for the reset that follows it, unless there
is a remnant to claim. -/
theorem reset_settle {c : ConnectionStream S} {sp : SpanStream S} (hremnant : sp.remnant = none) :
    c.reset sp = (((settle c sp).1.reset (settle c sp).2).1,
        {((settle c sp).1.reset (settle c sp).2).2 with metrics := (c.reset sp).2.metrics}) ∧
      (c.reset sp).2.metrics.spansDropped =
        ((settle c sp).1.reset (settle c sp).2).2.metrics.spansDropped := by
  have hany : ((settle c sp).1.spanRemnant.any fun r => !empty r) = c.spanRemnant.any fun r => !empty r := by
    unfold settle
    cases hr : c.spanRemnant with
    | none => cases c.shuttingDown <;> simp [consumeRemnant, hremnant, hr]
    | some r => cases c.shuttingDown <;> cases he : empty r <;> simp [consumeRemnant, hremnant, hr, he]
  refine ⟨?_, by rw [reset_spansDropped, reset_spansDropped, settle_spansDropped, hany]⟩
  unfold settle
  cases hr : c.spanRemnant with
  | none =>
    cases c.shuttingDown <;>
      simp [reset, initializeStream, consumeRemnant, hremnant, hr]
  | some r =>
    cases he : empty r <;> cases c.shuttingDown <;> cases hh : empty c.headerStream <;>
      simp [reset, initializeStream, consumeRemnant, hremnant, hr, he, hh, MetricsTracker.onSpansSent,
        MetricsTracker.consumeDroppedSpans, MetricsTracker.unconsumeDroppedSpans]

variable [SeekableFragmentInputStream S]

/-- A flush that returns is one that throws, settled. -/
theorem flush_eq_settle {c : ConnectionStream S} {sp : SpanStream S} (h : c.Inv) (hsp : sp.Ready) (n : Nat)
    (result : Bool) (e : ε) :
    flush (takeWriter (ε := Empty) n (.ok result)) c sp =
      ((settle (flush (takeWriter n (.error e)) c sp).1 (flush (takeWriter n (.error e)) c sp).2.1).1,
        (settle (flush (takeWriter n (.error e)) c sp).1 (flush (takeWriter n (.error e)) c sp).2.1).2,
        .ok result) := by
  cases hs : c.shuttingDown with
  | false =>
    cases hr : c.spanRemnant with
    | none =>
      simp only [flush, hs, Bool.false_eq_true, if_false, hr, takeWriter_spans h.header_valid hsp, settle]
    | some r =>
      obtain ⟨hv, -, -, -⟩ := h.remnant r hr
      simp only [flush, hs, Bool.false_eq_true, if_false, hr, takeWriter_remnant_spans h.header_valid hv hsp,
        settle]
      generalize (if n < _ then r else _) = r'
      cases empty r' <;> rfl
  | true =>
    cases hr : c.spanRemnant with
    | none =>
      simp only [flush, hs, if_true, flushShutdown, hr, takeWriter_terminal h.header_valid h.terminal_valid,
        settle]
    | some r =>
      obtain ⟨hv, -, -, -⟩ := h.remnant r hr
      simp only [flush, hs, if_true, flushShutdown, hr,
        takeWriter_remnant_terminal h.header_valid hv h.terminal_valid, settle]
      generalize (if n < _ then r else _) = r'
      cases empty r' <;> rfl

/-- The number of bytes a flush offers before the spans of the buffer. -/
def before (c : ConnectionStream S) : Nat := (bytes c.headerStream ++ remnantBytes c.spanRemnant).length

/-- Whether the spans of the buffer are offered and `n` bytes end inside one of them. -/
def CutsSpan (c : ConnectionStream S) (sp : SpanStream S) (n : Nat) : Prop :=
  c.shuttingDown = false ∧ (locate (sp.spanBuffer.contents.map bytes) (n - c.before)).2 ≠ 0

instance (c : ConnectionStream S) (sp : SpanStream S) (n : Nat) : Decidable (c.CutsSpan sp n) :=
  inferInstanceAs (Decidable (_ ∧ _))

theorem takeSpans_remnant {sp : SpanStream S} (hsp : sp.Ready) (hremnant : sp.remnant = none) {before n : Nat}
    (hn : n - before ≤ sp.contentBytes.length) :
    (takeSpans sp before n).remnant.isSome = true ↔
      (locate (sp.spanBuffer.contents.map bytes) (n - before)).2 ≠ 0 := by
  unfold takeSpans
  by_cases hlt : n < before
  · rw [if_pos hlt, Nat.sub_eq_zero_of_le (Nat.le_of_lt hlt), locate_zero]
    simp [allot, hremnant]
  · have hcut := cut_locate sp.spanBuffer.contents hn
    rw [if_neg hlt, advance_allot hsp hn]
    generalize (locate (sp.spanBuffer.contents.map bytes) (n - before)).1 = full at hcut ⊢
    generalize (locate (sp.spanBuffer.contents.map bytes) (n - before)).2 = position at hcut ⊢
    cases hcut with
    | boundary => simp [cutAt]
    | inside _ span hspan hpos => simp [cutAt, Nat.ne_of_gt hpos, hspan]

/-- A writer that throws leaves a remnant parked when it cuts a span of the buffer. -/
theorem flush_error_remnant {c : ConnectionStream S} {sp : SpanStream S} (h : c.Inv) (hsp : sp.Ready)
    (hremnant : sp.remnant = none) {n : Nat} (hn : n ≤ (c.offered sp).length) (e : ε) :
    (flush (takeWriter n (.error e)) c sp).2.1.remnant.isSome = true ↔ c.CutsSpan sp n := by
  unfold CutsSpan before
  rw [offered, List.length_append] at hn
  cases hs : c.shuttingDown with
  | false =>
    rw [hs] at hn
    have hm : n - (bytes c.headerStream ++ remnantBytes c.spanRemnant).length ≤ sp.contentBytes.length := by
      simp only [Bool.false_eq_true, if_false] at hn
      omega
    have hiff := takeSpans_remnant hsp hremnant hm
    rw [eq_self, true_and, ← hiff]
    cases hr : c.spanRemnant with
    | none =>
      simp only [flush, hs, Bool.false_eq_true, if_false, hr, takeWriter_spans h.header_valid hsp,
        remnantBytes, Option.elim_none, List.append_nil]
    | some r =>
      obtain ⟨hv, -, -, -⟩ := h.remnant r hr
      simp only [flush, hs, Bool.false_eq_true, if_false, hr, takeWriter_remnant_spans h.header_valid hv hsp,
        remnantBytes, Option.elim_some, List.length_append]
  | true =>
    cases hr : c.spanRemnant with
    | none =>
      simp [flush, hs, flushShutdown, hr, takeWriter_terminal h.header_valid h.terminal_valid, hremnant]
    | some r =>
      obtain ⟨hv, -, -, -⟩ := h.remnant r hr
      simp [flush, hs, flushShutdown, hr, takeWriter_remnant_terminal h.header_valid hv h.terminal_valid,
        hremnant]

end ConnectionStream

/-! ### Spans that can be told apart -/

/-- A span with a number that nothing it does depends on. -/
structure NumberedSpan (S : Type) where
  number : Nat
  span : S

namespace NumberedSpan
variable {S : Type} [FragmentInputStream S]

instance : FragmentInputStream (NumberedSpan S) where
  numFragments s := numFragments s.span
  forEachFragment s callback st := forEachFragment s.span callback st
  clear s := {s with span := clear s.span}
  seek s fragmentIndex position := {s with span := seek s.span fragmentIndex position}

instance [SeekableFragmentInputStream S] : SeekableFragmentInputStream (NumberedSpan S) where
  Valid s := Valid s.span
  fragments s := fragments s.span
  numFragments_eq h := numFragments_eq (S := S) h
  forEachFragment_eq f st h := forEachFragment_eq (S := S) f st h
  valid_clear h := valid_clear (S := S) h
  fragments_clear h := fragments_clear (S := S) h
  valid_seek h hsplit hlt := valid_seek (S := S) h hsplit hlt
  fragments_seek h hsplit hlt := fragments_seek (S := S) h hsplit hlt

theorem number_eq {s r : NumberedSpan S} (h : RestOf s r) : r.number = s.number := by
  induction h with
  | whole => rfl
  | seek _ _ _ ih => exact ih

end NumberedSpan

/-- The events of the sessions, and flushes whose writer takes `n` bytes and throws, with the reset
of their connection. -/
inductive StreamEvent (S : Type) where
  | session (event : SessionEvent S)
  | failedFlush (connection n : Nat)

namespace Sessions
open ConnectionStream
variable {S : Type} [FragmentInputStream S] [SeekableFragmentInputStream S]

def failFlush (s : Sessions S) (connection n : Nat) : Option (Sessions S) :=
  s.connections[connection]?.map fun (c, σ) =>
    let (c', spanStream, _) := c.flush (takeWriter (ε := Unit) n (.error ())) s.spanStream
    let tail := s.spanStream.spanBuffer.tail
    let σ' := {σ with taken := σ.taken ++ (c.offered s.spanStream).take n
                      spans := σ.spans ++ List.range' tail (spanStream.spanBuffer.tail - tail)}
    {s with spanStream := spanStream, connections := s.connections.set connection (c', σ')}

def failedFlush (s : Sessions S) (connection n : Nat) : Option (Sessions S) :=
  (s.failFlush connection n).bind fun s => s.reset connection

omit [SeekableFragmentInputStream S] in
theorem reset_of_get {s : Sessions S} {i : Nat} {c : ConnectionStream S} {σ : Session}
    (hget : s.connections[i]? = some (c, σ)) :
    s.reset i = some
      { spanStream := (c.reset s.spanStream).2
        connections := s.connections.set i ((c.reset s.spanStream).1, .begin (c.reset s.spanStream).1)
        finished := s.finished ++ [σ]
        added := s.added
        droppedByReset := s.droppedByReset +
          ((c.reset s.spanStream).2.metrics.spansDropped - s.spanStream.metrics.spansDropped) } := by
  rw [Sessions.reset, hget]
  rfl

/-- A flush that fails, and the same flush when it returns and its connection is reset after it. -/
theorem failedFlush_cases {s s' : Sessions S} (h : s.Inv) {i n : Nat} {c : ConnectionStream S} {σ : Session}
    (hget : s.connections[i]? = some (c, σ)) (hn : n ≤ (c.offered s.spanStream).length)
    (hfail : s.failedFlush i n = some s') :
    ∃ t u c₁ failed, s.flush i n true = some t ∧ (c₁, failed) ∈ t.connections ∧ t.reset i = some u ∧
      s'.finished = s.finished ++ [failed] ∧
      (¬ c.CutsSpan s.spanStream n → ∃ metrics,
        s' = {u with spanStream := {u.spanStream with metrics := metrics}} ∧
        metrics.spansDropped = s.spanStream.metrics.spansDropped + c₁.remnantCount) ∧
      (c.CutsSpan s.spanStream n → c₁.remnantCount = 1 ∧
        s'.spanStream.metrics.spansDropped = s.spanStream.metrics.spansDropped) := by
  have hlive := h.live c σ (List.mem_of_getElem? hget)
  have hlt : i < s.connections.length := (List.getElem?_eq_some_iff.mp hget).1
  obtain ⟨k, hf⟩ := flush_take (ε := Empty) hlive.inv h.ready h.remnant hn true
  have hcut := flush_error_remnant hlive.inv h.ready h.remnant hn ()
  have hsettle := flush_eq_settle hlive.inv h.ready n true ()
  unfold failedFlush failFlush at hfail
  unfold flush
  rw [hsettle] at hf
  rw [hget, Option.map_some, Option.bind_some] at hfail
  rw [hget, Option.map_some]
  dsimp only at hfail hf ⊢
  rw [hsettle]
  generalize c.flush (takeWriter (ε := Unit) n (.error ())) s.spanStream = flushed at hfail hf hcut ⊢
  obtain ⟨c', sp', outcome⟩ := flushed
  dsimp only at hfail hf hcut ⊢
  rw [settle_spanBuffer]
  generalize ({σ with taken := σ.taken ++ _, spans := _} : Session) = failed at hfail ⊢
  have hset : ∀ x : ConnectionStream S × Session, (s.connections.set i x)[i]? = some x :=
    fun x => List.getElem?_set_self hlt
  rw [reset_of_get (hset (c', failed))] at hfail
  refine ⟨_, _, (settle c' sp').1, failed, rfl, List.mem_set hlt _, reset_of_get (hset _), ?_, ?_, ?_⟩
  · rw [← Option.some.inj hfail]
  · intro hnot
    have hnone : sp'.remnant = none := by
      cases hr : sp'.remnant with
      | none => rfl
      | some q => exact absurd (hcut.mp (by rw [hr]; rfl)) hnot
    obtain ⟨heq, hdropped⟩ := reset_settle (c := c') hnone
    refine ⟨(c'.reset sp').2.metrics, ?_, ?_⟩
    · rw [← Option.some.inj hfail, hdropped, ← settle_spansDropped c' sp', List.set_set, List.set_set,
        congrArg Prod.fst heq]
      simp only [Sessions.mk.injEq, and_true]
      exact congrArg Prod.snd heq
    · rw [hdropped, reset_spansDropped, hf.spansDropped, hf.inv.any_spanRemnant, remnantCount]
  · intro hcuts
    obtain ⟨q, hq⟩ := Option.isSome_iff_exists.mp (hcut.mpr hcuts)
    obtain ⟨hclaimed, hany⟩ := settle_parked hq hf.remnant
    refine ⟨by rw [remnantCount, hclaimed]; rfl, ?_⟩
    rw [← Option.some.inj hfail]
    dsimp only
    rw [reset_spansDropped, hany, ← settle_spansDropped c' sp']
    exact hf.spansDropped

def stepWithFailures (s : Sessions S) : StreamEvent S → Option (Sessions S)
  | .session event => s.step event
  | .failedFlush connection n => s.failedFlush connection n

def failingMachine (S : Type) [FragmentInputStream S] [SeekableFragmentInputStream S] :
    Machine (Sessions S) (StreamEvent S) := ⟨stepWithFailures⟩

/-- What the sessions are promised, spans numbered as they are added, and no flush that fails inside
a span of the buffer. -/
def PromiseUncut (s : Sessions (NumberedSpan S)) : StreamEvent (NumberedSpan S) → Prop
  | .session event => Promise s event ∧ ∀ span : NumberedSpan S, event = .addSpan span → span.number = s.added.length
  | .failedFlush connection n => ∀ c σ, s.connections[connection]? = some (c, σ) →
      n ≤ (c.offered s.spanStream).length ∧ ¬ c.CutsSpan s.spanStream n

def Numbered (s : Sessions (NumberedSpan S)) : Prop :=
  ∀ (i : Nat) (span : NumberedSpan S), s.added[i]? = some span → span.number = i

/-- The numbers of the spans in the streams a flush offers. -/
def offeredSpans (c : ConnectionStream (NumberedSpan S)) (sp : SpanStream (NumberedSpan S)) : List Nat :=
  (c.streams sp).flatMap fun
    | .inl _ => []
    | .inr (.inl remnant) => [remnant.number]
    | .inr (.inr sp) => sp.allotted.map NumberedSpan.number

theorem Inv.withMetrics {s : Sessions S} (h : s.Inv) (metrics : MetricsTracker) :
    Inv {s with spanStream := {s.spanStream with metrics := metrics}} :=
  ⟨⟨h.ready.wellFormed, h.ready.framed⟩, h.remnant, h.head, h.contents, h.framed, h.live, h.finished, h.begun⟩

/-- An event adds at most one span, and ends sessions after those that have ended. -/
theorem step_added {s t : Sessions S} {e : SessionEvent S} (h : s.Inv) (hpromise : Promise s e)
    (hstep : s.step e = some t) :
    (t.added = s.added ∨ ∃ span, e = .addSpan span ∧ t.added = s.added ++ [span]) ∧
      s.finished <+: t.finished := by
  cases e with
  | addSpan span =>
    cases hstep
    unfold addSpan
    cases s.spanStream.spanBuffer.add span with
    | none => exact ⟨.inl rfl, List.prefix_refl _⟩
    | some b => exact ⟨.inr ⟨span, rfl, rfl⟩, List.prefix_refl _⟩
  | onSpansDropped numSpans =>
    cases hstep
    exact ⟨.inl rfl, List.prefix_refl _⟩
  | construct host common =>
    cases hstep
    exact ⟨.inl rfl, List.prefix_refl _⟩
  | flush connection n result =>
    obtain ⟨_, _, _, _, _, _, _, -, -, -, -, -, rfl⟩ := flush_cases h hpromise hstep
    exact ⟨.inl rfl, List.prefix_refl _⟩
  | shutdown connection =>
    obtain ⟨_, _, _, _, -, -, rfl⟩ := shutdown_cases h hstep
    exact ⟨.inl rfl, List.prefix_refl _⟩
  | reset connection =>
    obtain ⟨_, _, _, σ, _, _, -, -, -, -, -, -, -, -, rfl⟩ := reset_cases h hstep
    exact ⟨.inl rfl, List.prefix_append _ _⟩

/-- **A flush that fails without cutting a span of the buffer** keeps the sessions as they should be,
and its reset drops the span that was cut in the connection's remnant. -/
theorem failedFlush_inv {s s' : Sessions S} (h : s.Inv) {i n : Nat} {c : ConnectionStream S} {σ : Session}
    (hget : s.connections[i]? = some (c, σ)) (hn : n ≤ (c.offered s.spanStream).length)
    (huncut : ¬ c.CutsSpan s.spanStream n) (hfail : s.failedFlush i n = some s') :
    s'.Inv ∧ s'.added = s.added ∧ ∃ failed, s'.finished = s.finished ++ [failed] ∧
      s'.spanStream.metrics.spansDropped = s.spanStream.metrics.spansDropped + (failed.cut s.added).length := by
  obtain ⟨t, u, c₁, failed, hflush, hmem, hreset, hfinished, hnot, -⟩ := failedFlush_cases h hget hn hfail
  obtain ⟨metrics, rfl, hdropped⟩ := hnot huncut
  have hpromise : ∀ d τ, s.connections[i]? = some (d, τ) → n ≤ (d.offered s.spanStream).length := by
    intro d τ hd
    rw [hget] at hd
    cases hd
    exact hn
  have ht := flush_inv h hpromise hflush
  have hadded : t.added = s.added := by
    obtain ⟨_, _, _, _, _, _, _, -, -, -, -, -, rfl⟩ := flush_cases h hpromise hflush
    rfl
  have hu : u.added = t.added := by
    obtain ⟨_, _, _, _, _, _, -, -, -, -, -, -, -, -, rfl⟩ := reset_cases ht hreset
    rfl
  have hcut := (ht.live c₁ failed hmem).length_cut ht.framed ht.tail_le
  rw [hadded] at hcut
  refine ⟨(reset_inv ht hreset).withMetrics metrics, hu.trans hadded, failed, hfinished, ?_⟩
  rw [hcut]
  exact hdropped

theorem failedFlush_some {s : Sessions S} {i : Nat} {c : ConnectionStream S} {σ : Session}
    (hget : s.connections[i]? = some (c, σ)) (n : Nat) : ∃ s', s.failedFlush i n = some s' := by
  have hlt : i < s.connections.length := (List.getElem?_eq_some_iff.mp hget).1
  unfold failedFlush failFlush
  rw [hget, Option.map_some, Option.bind_some]
  exact ⟨_, reset_of_get (List.getElem?_set_self hlt)⟩

/-! ### Runs -/

theorem uncut_step {s t : Sessions (NumberedSpan S)} {e : StreamEvent (NumberedSpan S)} (h : s.Inv)
    (hnumbered : s.Numbered) (hpromise : PromiseUncut s e) (hstep : s.stepWithFailures e = some t) :
    t.Inv ∧ t.Numbered ∧ s.finished <+: t.finished := by
  cases e with
  | session event =>
    obtain ⟨hpromise, hnumber⟩ := hpromise
    obtain ⟨hadded, hfinished⟩ := step_added h hpromise hstep
    refine ⟨step_inv h hpromise hstep, ?_, hfinished⟩
    intro i span hspan
    rcases hadded with hadded | ⟨new, hevent, hadded⟩
    · rw [hadded] at hspan
      exact hnumbered i span hspan
    · rw [hadded] at hspan
      by_cases hlt : i < s.added.length
      · rw [List.getElem?_append_left hlt] at hspan
        exact hnumbered i span hspan
      · rw [List.getElem?_append_right (Nat.le_of_not_lt hlt)] at hspan
        rw [List.getElem?_singleton] at hspan
        split at hspan
        · rw [← Option.some.inj hspan, hnumber _ hevent]
          omega
        · cases hspan
  | failedFlush connection n =>
    have hstep : s.failedFlush connection n = some t := hstep
    cases hget : s.connections[connection]? with
    | none =>
      rw [failedFlush, failFlush, hget] at hstep
      cases hstep
    | some x =>
      obtain ⟨hn, huncut⟩ := hpromise x.1 x.2 hget
      obtain ⟨hinv, hadded, failed, hfinished, -⟩ := failedFlush_inv h hget hn huncut hstep
      refine ⟨hinv, ?_, ⟨[failed], hfinished.symm⟩⟩
      intro i span hspan
      rw [hadded] at hspan
      exact hnumbered i span hspan

/-- What a flush offers is the remnant of its own session's last span and the spans that no session
has begun. -/
theorem offeredSpans_cases {s : Sessions (NumberedSpan S)} (h : s.Inv) (hnumbered : s.Numbered)
    {c : ConnectionStream (NumberedSpan S)} {σ : Session} (hmem : (c, σ) ∈ s.connections) {i : Nat}
    (hi : i ∈ offeredSpans c s.spanStream) : i ∈ σ.spans ∨ s.spanStream.spanBuffer.tail ≤ i := by
  have hlive := h.live c σ hmem
  have hremnant : ∀ r, c.spanRemnant = some r → r.number ∈ σ.spans := by
    intro r hr
    obtain ⟨before, j, span, hspans, hspan, hrest, -⟩ := hlive.remnant r hr
    rw [NumberedSpan.number_eq hrest, hnumbered j span hspan, hspans]
    exact List.mem_append_right _ (List.mem_singleton_self j)
  have hcontents : ∀ i ∈ s.spanStream.allot.allotted.map NumberedSpan.number,
      s.spanStream.spanBuffer.tail ≤ i := by
    intro i hi
    rw [h.ready.allotted_allot, h.contents] at hi
    obtain ⟨span, hspan, rfl⟩ := List.mem_map.mp hi
    obtain ⟨j, hj⟩ := List.mem_iff_getElem?.mp hspan
    rw [List.getElem?_drop] at hj
    rw [hnumbered _ span hj]
    exact Nat.le_add_right _ _
  unfold offeredSpans streams at hi
  cases hs : c.shuttingDown with
  | false =>
    cases hr : c.spanRemnant with
    | none =>
      simp only [hs, hr, List.flatMap_cons, List.flatMap_nil, List.nil_append, List.append_nil] at hi
      exact .inr (hcontents i hi)
    | some r =>
      simp only [hs, hr, List.flatMap_cons, List.flatMap_nil, List.nil_append, List.append_nil] at hi
      rcases List.mem_append.mp hi with hi | hi
      · exact .inl (List.mem_singleton.mp hi ▸ hremnant r hr)
      · exact .inr (hcontents i hi)
  | true =>
    cases hr : c.spanRemnant with
    | none => simp [hs, hr] at hi
    | some r =>
      simp only [hs, hr, List.flatMap_cons, List.flatMap_nil, List.nil_append, List.append_nil] at hi
      exact .inl (List.mem_singleton.mp hi ▸ hremnant r hr)

/-- What holds of the events after a flush that has failed: the span it cut is dropped once and not
offered again, and every session is a header and whole spans. -/
structure Accountable (s : Sessions (NumberedSpan S)) (failed : Session)
    (later : List (StreamEvent (NumberedSpan S))) (t : Sessions (NumberedSpan S)) : Prop where
  dropped : (∀ e ∈ later, ∃ connection n result, e = .session (.flush connection n result)) →
    t.spanStream.metrics.spansDropped = s.spanStream.metrics.spansDropped + (failed.cut s.added).length
  offered : ∀ i ∈ failed.cut s.added, ∀ c σ, (c, σ) ∈ t.connections → i ∉ offeredSpans c t.spanStream
  whole : ∀ σ ∈ t.all, σ.taken <+: σ.header ++ Session.spanBytes t.added σ.spans ++ σ.terminal

/-- A flush of a connection whose writer takes `n` bytes and throws leaves the streams accountable,
whatever comes after it. -/
def FailureAccountable (s : Sessions (NumberedSpan S)) (connection n : Nat) : Prop :=
  ∀ s' failed later t, s.failedFlush connection n = some s' → s'.finished = s.finished ++ [failed] →
    (failingMachine (NumberedSpan S)).Guarded PromiseUncut s' later →
    (failingMachine (NumberedSpan S)).run s' later = some t → Accountable s failed later t

/-- Flushes whose writers return drop nothing. -/
theorem flushes_spansDropped {s t : Sessions (NumberedSpan S)} {later : List (StreamEvent (NumberedSpan S))}
    (h : s.Inv) (hnumbered : s.Numbered)
    (hpromise : (failingMachine (NumberedSpan S)).Guarded PromiseUncut s later)
    (hrun : (failingMachine (NumberedSpan S)).run s later = some t)
    (hflushes : ∀ e ∈ later, ∃ connection n result, e = .session (.flush connection n result)) :
    t.spanStream.metrics.spansDropped = s.spanStream.metrics.spansDropped := by
  refine ((failingMachine (NumberedSpan S)).guarded_invariant (I := fun u => u.Inv ∧ u.Numbered ∧
    u.spanStream.metrics.spansDropped = s.spanStream.metrics.spansDropped) ?_ later s t ⟨h, hnumbered, rfl⟩
    ((failingMachine (NumberedSpan S)).guarded_and_mem hpromise hflushes) hrun).2.2
  rintro u e v ⟨hinv, hnum, hdropped⟩ ⟨hp, connection, n, result, rfl⟩ hstep
  obtain ⟨hinv', hnum', -⟩ := uncut_step hinv hnum hp hstep
  obtain ⟨_, _, _, _, _, _, _, -, -, -, hf, -, rfl⟩ := flush_cases hinv hp.1 hstep
  exact ⟨hinv', hnum', hf.spansDropped.trans hdropped⟩

/-- After a flush that has failed without cutting a span of the buffer. -/
theorem accountable_of_uncut {s s' t : Sessions (NumberedSpan S)} (h : s.Inv) (hnumbered : s.Numbered)
    {i n : Nat} {c : ConnectionStream (NumberedSpan S)} {σ failed : Session}
    (hget : s.connections[i]? = some (c, σ)) (hn : n ≤ (c.offered s.spanStream).length)
    (huncut : ¬ c.CutsSpan s.spanStream n) (hfail : s.failedFlush i n = some s')
    (hfinished : s'.finished = s.finished ++ [failed]) {later : List (StreamEvent (NumberedSpan S))}
    (hpromise : (failingMachine (NumberedSpan S)).Guarded PromiseUncut s' later)
    (hrun : (failingMachine (NumberedSpan S)).run s' later = some t) : Accountable s failed later t := by
  obtain ⟨hinv, hadded, failed', hfinished', hdropped⟩ := failedFlush_inv h hget hn huncut hfail
  obtain rfl : failed = failed' := by simpa using hfinished.symm.trans hfinished'
  have hnumbered' : s'.Numbered := by
    intro i span hspan
    rw [hadded] at hspan
    exact hnumbered i span hspan
  obtain ⟨ht, hnum, hended⟩ := (failingMachine (NumberedSpan S)).guarded_invariant
    (I := fun u => u.Inv ∧ u.Numbered ∧ s'.finished <+: u.finished)
    (fun u e v hu hp hstep => by
      obtain ⟨hinv, hnum, hended⟩ := uncut_step hu.1 hu.2.1 hp hstep
      exact ⟨hinv, hnum, hu.2.2.trans hended⟩)
    later s' t ⟨hinv, hnumbered', List.prefix_refl _⟩ hpromise hrun
  have hmem : failed ∈ t.finished := hended.subset (hfinished ▸ List.mem_append_right _ (List.mem_singleton_self _))
  refine { dropped := fun hflushes => ?_, offered := ?_, whole := ?_ }
  · rw [flushes_spansDropped hinv hnumbered' hpromise hrun hflushes, hdropped]
  · intro j hj d τ hd hoffered
    have hspans : j ∈ failed.spans := List.mem_of_mem_drop hj
    rcases offeredSpans_cases ht hnum hd hoffered with hown | htail
    · have hnodup := ht.begun.nodup_iff.mpr List.nodup_range
      rw [all, List.flatMap_append, List.nodup_append] at hnodup
      exact hnodup.2.2 j (List.mem_flatMap.mpr ⟨failed, hmem, hspans⟩) j
        (List.mem_flatMap.mpr ⟨τ, List.mem_map.mpr ⟨(d, τ), hd, rfl⟩, hown⟩) rfl
    · have hlt := (ht.finished failed hmem).lt j hspans
      omega
  · intro τ hτ
    exact (ht.wellFormed_of_mem hτ).isPrefix

/-- **A flush that fails leaves the streams accountable** unless it cuts a span of the buffer. -/
theorem failureAccountable_iff {maxSize : Nat} {events : List (StreamEvent (NumberedSpan S))}
    {s : Sessions (NumberedSpan S)}
    (hpromise : (failingMachine (NumberedSpan S)).Guarded PromiseUncut (init maxSize) events)
    (hrun : (failingMachine (NumberedSpan S)).run (init maxSize) events = some s) {i n : Nat}
    {c : ConnectionStream (NumberedSpan S)} {σ : Session} (hget : s.connections[i]? = some (c, σ))
    (hn : n ≤ (c.offered s.spanStream).length) :
    s.FailureAccountable i n ↔ ¬ c.CutsSpan s.spanStream n := by
  obtain ⟨hinv, hnumbered⟩ := (failingMachine (NumberedSpan S)).guarded_invariant
    (I := fun u => u.Inv ∧ u.Numbered)
    (fun u e v hu hp hstep => by
      obtain ⟨hinv, hnum, -⟩ := uncut_step hu.1 hu.2 hp hstep
      exact ⟨hinv, hnum⟩)
    events (init maxSize) s ⟨init_inv maxSize, fun i span hspan => by cases hspan⟩ hpromise hrun
  constructor
  · intro haccountable hcuts
    obtain ⟨s', hfail⟩ := failedFlush_some hget n
    obtain ⟨t, u, c₁, failed, hflush, hmem, -, hfinished, -, hcut⟩ := failedFlush_cases hinv hget hn hfail
    obtain ⟨hone, hsame⟩ := hcut hcuts
    have hdropped := (haccountable s' failed [] s' hfail hfinished trivial rfl).dropped (fun _ he => by cases he)
    have ht := flush_inv hinv (fun d τ hd => by rw [hget] at hd; cases hd; exact hn) hflush
    have hadded : t.added = s.added := by
      obtain ⟨_, _, _, _, _, _, _, -, -, -, -, -, rfl⟩ :=
        flush_cases hinv (fun d τ hd => by rw [hget] at hd; cases hd; exact hn) hflush
      rfl
    have hlength := (ht.live c₁ failed hmem).length_cut ht.framed ht.tail_le
    rw [hadded, hone] at hlength
    omega
  · intro huncut s' failed later t hfail hfinished hlater hrun'
    exact accountable_of_uncut hinv hnumbered hget hn huncut hfail hfinished hlater hrun'

/-- A connection, and a span of seven bytes that comes after the 144 of its header. -/
def numberedRun : List (StreamEvent (NumberedSpan FragmentArrayInputStream)) :=
  [.session (.addSpan ⟨0, .ofFragments [ascii "2\r\n", ascii "ab\r\n"]⟩), .session (.construct [] [])]

theorem numberedRun_promise :
    (failingMachine (NumberedSpan FragmentArrayInputStream)).Guarded PromiseUncut (init 1) numberedRun := by
  refine ⟨⟨⟨FragmentArrayInputStream.wellFormed_ofFragments _, _, _, rfl, by decide⟩, fun span hspan => ?_⟩,
    fun t ht => ?_⟩
  · cases hspan
    rfl
  cases ht
  exact ⟨⟨show 0 < 2 ^ 31 by decide, fun span hspan => by cases hspan⟩, fun t ht => trivial⟩

/-- A write that fails after the whole span has left nothing to account for. -/
theorem wholeSpan_accountable :
    ∃ s, (failingMachine (NumberedSpan FragmentArrayInputStream)).run (init 1) numberedRun = some s ∧
      s.FailureAccountable 0 151 := by
  have hrun : ((failingMachine (NumberedSpan FragmentArrayInputStream)).run (init 1) numberedRun).bind
      (fun s => s.connections[0]?.map fun x => decide (151 ≤ (x.1.offered s.spanStream).length ∧
        ¬ x.1.CutsSpan s.spanStream 151)) = some true := by
    decide +kernel
  obtain ⟨s, hs, hrun⟩ := Option.bind_eq_some_iff.mp hrun
  obtain ⟨⟨c, σ⟩, hget, hrun⟩ := Option.map_eq_some_iff.mp hrun
  obtain ⟨hn, huncut⟩ := of_decide_eq_true hrun
  exact ⟨s, hs, (failureAccountable_iff numberedRun_promise hs hget hn).mpr huncut⟩

/-- A write that fails after the first fragment of the span: the span is not dropped, and once a flush has
taken ten bytes of the next header the connection offers the rest of it. -/
theorem cutSpan_not_accountable :
    (∃ s, (failingMachine (NumberedSpan FragmentArrayInputStream)).run (init 1) numberedRun = some s ∧
      ¬ s.FailureAccountable 0 147) ∧
    ((failingMachine (NumberedSpan FragmentArrayInputStream)).run (init 1)
      (numberedRun ++ [.failedFlush 0 147, .session (.flush 0 10 true)])).map
      (fun t => (t.spanStream.metrics.spansDropped, t.connections.map fun x => offeredSpans x.1 t.spanStream)) =
      some (0, [[0]]) := by
  refine ⟨?_, by decide +kernel⟩
  have hrun : ((failingMachine (NumberedSpan FragmentArrayInputStream)).run (init 1) numberedRun).bind
      (fun s => (s.failedFlush 0 147).bind fun s' => s'.finished[0]?.map fun failed =>
        decide (s.finished.length = 0 ∧ s'.finished.length = 1 ∧ s.spanStream.metrics.spansDropped = 0 ∧
          s'.spanStream.metrics.spansDropped = 0 ∧ (failed.cut s.added).length = 1)) = some true := by
    decide +kernel
  obtain ⟨s, hs, hrun⟩ := Option.bind_eq_some_iff.mp hrun
  obtain ⟨s', hfail, hrun⟩ := Option.bind_eq_some_iff.mp hrun
  obtain ⟨failed, hfailed, hrun⟩ := Option.map_eq_some_iff.mp hrun
  obtain ⟨hnone, hone, hbefore, hafter, hcut⟩ := of_decide_eq_true hrun
  refine ⟨s, hs, fun haccountable => ?_⟩
  have hfinished : s'.finished = s.finished ++ [failed] := by
    obtain ⟨σ, hσ⟩ := List.length_eq_one_iff.mp hone
    rw [hσ, List.getElem?_cons_zero] at hfailed
    rw [hσ, List.length_eq_zero_iff.mp hnone, Option.some.inj hfailed]
    rfl
  have hdropped := (haccountable s' failed [] s' hfail hfinished trivial rfl).dropped (fun _ he => by cases he)
  omega

end Sessions
end Lightstep.Recorder

import Lightstep.Library.Hexadecimal
import Lightstep.Common.FragmentArrayInputStream
import Lightstep.Recorder.SpanStream

/-! The stream of one satellite connection.

A session is an HTTP request with a chunked body: a header that ends in a chunk
with the parts common to all reports, the chunks of the spans, and a terminal
chunk once the stream shuts down. The connection shares the span stream with the
others, and keeps the span it has begun and not finished as its remnant. -/
namespace Lightstep.Recorder
open Library Common FragmentInputStream LawfulFragmentInputStream SeekableFragmentInputStream SpanStream

def terminalFragment : Fragment := ascii "0\r\n\r\n"

def endOfLineFragment : Fragment := ascii "\r\n"

def httpRequestCommonFragment : Fragment :=
  ascii "POST /api/v2/reports HTTP/1.1\r\n" ++ ascii "Connection:close\r\n" ++
    ascii "Content-Type:application/octet-stream\r\n" ++ ascii "Transfer-Encoding:chunked\r\n"

/-- What `snprintf` prints for the format `%llX` and the end of the line. -/
def writeChunkHeader (chunkSize : Nat) : Fragment := hexDigits upperDigit 15 chunkSize ++ endOfLineFragment

/-- A stream a flush hands to its writer. -/
abbrev Source (S : Type) := FragmentArrayInputStream ⊕ S ⊕ SpanStream S

/-- A writer leaves the streams it is given consumed up to some point, and returns or throws. -/
abbrev Writer (ε S : Type) := List (Source S) → List (Source S) × Except ε Bool

structure ConnectionStream (S : Type) where
  hostHeaderFragment : Fragment
  headerCommonFragment : Fragment
  embeddedMetricsMessage : EmbeddedMetricsMessage
  headerStream : FragmentArrayInputStream
  terminalStream : FragmentArrayInputStream
  spanRemnant : Option S
  shuttingDown : Bool

namespace ConnectionStream
variable {S ε : Type}

def initializeStream (c : ConnectionStream S) (sp : SpanStream S) : ConnectionStream S × SpanStream S :=
  let (numDroppedSpans, metrics) := sp.metrics.consumeDroppedSpans
  let message := c.embeddedMetricsMessage.setNumDroppedSpans numDroppedSpans
  let metricsFragment := message.makeFragment
  let headerChunkSize := c.headerCommonFragment.length + metricsFragment.length
  ({c with shuttingDown := false
           terminalStream := .ofFragments [terminalFragment]
           embeddedMetricsMessage := message
           headerStream := .ofFragments
             [httpRequestCommonFragment, c.hostHeaderFragment, endOfLineFragment,
              writeChunkHeader headerChunkSize, c.headerCommonFragment, metricsFragment,
              endOfLineFragment]},
    {sp with metrics := metrics})

def new (hostHeaderFragment headerCommonFragment : Fragment) (sp : SpanStream S) :
    ConnectionStream S × SpanStream S :=
  initializeStream
    { hostHeaderFragment, headerCommonFragment, embeddedMetricsMessage := .new,
      headerStream := .ofFragments [], terminalStream := .ofFragments [], spanRemnant := none,
      shuttingDown := false } sp

def shutdown (c : ConnectionStream S) : ConnectionStream S := {c with shuttingDown := true}

def completed (c : ConnectionStream S) : Bool := empty c.terminalStream

def firstChunkPosition (c : ConnectionStream S) : Nat :=
  httpRequestCommonFragment.length + c.hostHeaderFragment.length + endOfLineFragment.length

variable [FragmentInputStream S]

def reset (c : ConnectionStream S) (sp : SpanStream S) : ConnectionStream S × SpanStream S :=
  let metrics :=
    if empty c.headerStream then sp.metrics
    else sp.metrics.unconsumeDroppedSpans c.embeddedMetricsMessage.numDroppedSpans
  let metrics :=
    match c.spanRemnant with
    | none => metrics
    | some remnant => if empty remnant then metrics else metrics.onSpansDropped 1
  initializeStream {c with spanRemnant := none} {sp with metrics := metrics}

/-- A writer gives back the streams it was given, in the same order; on anything else the result
of a flush is the state before it. -/
def flushShutdown (writer : Writer ε S) (c : ConnectionStream S) (sp : SpanStream S) :
    ConnectionStream S × SpanStream S × Except ε Bool :=
  match c.spanRemnant with
  | none =>
    match writer [.inl c.headerStream, .inl c.terminalStream] with
    | ([.inl headerStream, .inl terminalStream], outcome) =>
      ({c with headerStream := headerStream, terminalStream := terminalStream}, sp, outcome)
    | (_, outcome) => (c, sp, outcome)
  | some remnant =>
    match writer [.inl c.headerStream, .inr (.inl remnant), .inl c.terminalStream] with
    | ([.inl headerStream, .inr (.inl remnant), .inl terminalStream], outcome) =>
      let c := {c with headerStream := headerStream, terminalStream := terminalStream,
                       spanRemnant := some remnant}
      match outcome with
      | .error e => (c, sp, .error e)
      | .ok result =>
        if empty remnant then
          ({c with spanRemnant := none}, {sp with metrics := sp.metrics.onSpansSent 1}, .ok result)
        else (c, sp, .ok result)
    | (_, outcome) => (c, sp, outcome)

def flush (writer : Writer ε S) (c : ConnectionStream S) (sp : SpanStream S) :
    ConnectionStream S × SpanStream S × Except ε Bool :=
  if c.shuttingDown then flushShutdown writer c sp
  else
    let sp := sp.allot
    match c.spanRemnant with
    | none =>
      match writer [.inl c.headerStream, .inr (.inr sp)] with
      | ([.inl headerStream, .inr (.inr sp)], outcome) =>
        let c := {c with headerStream := headerStream}
        match outcome with
        | .error e => (c, sp, .error e)
        | .ok result =>
          let (remnant, sp) := sp.consumeRemnant
          ({c with spanRemnant := remnant}, sp, .ok result)
      | (_, outcome) => (c, sp, outcome)
    | some remnant =>
      match writer [.inl c.headerStream, .inr (.inl remnant), .inr (.inr sp)] with
      | ([.inl headerStream, .inr (.inl remnant), .inr (.inr sp)], outcome) =>
        let c := {c with headerStream := headerStream, spanRemnant := some remnant}
        match outcome with
        | .error e => (c, sp, .error e)
        | .ok result =>
          if empty remnant then
            let (remnant, sp) := {sp with metrics := sp.metrics.onSpansSent 1}.consumeRemnant
            ({c with spanRemnant := remnant}, sp, .ok result)
          else (c, sp, .ok result)
      | (_, outcome) => (c, sp, outcome)

/-! ### Writers that consume -/

/-- A writer that takes `n` bytes of the streams. -/
def takeWriter (n : Nat) (outcome : Except ε Bool) : Writer ε S :=
  fun streams => ((consume streams n).1, outcome)

variable [SeekableFragmentInputStream S]

/-- The span stream after `n` bytes have been taken of it and the `before` bytes offered first. -/
def takeSpans (sp : SpanStream S) (before n : Nat) : SpanStream S :=
  if n < before then sp.allot else advance sp.allot (n - before)

theorem takeWriter_spans {h : FragmentArrayInputStream} {sp : SpanStream S} (hh : Valid h) (hsp : sp.Ready)
    (n : Nat) (outcome : Except ε Bool) :
    takeWriter (S := S) n outcome [.inl h, .inr (.inr sp.allot)] =
      ([.inl (advance h n), .inr (.inr (takeSpans sp (bytes h).length n))], outcome) := by
  have hvisits : Visits (.inr (.inr sp.allot) : Source S) := fun st => hsp.forEachFragment_allot _ st
  rw [takeWriter, consume_two (visits_inl (visits hh)) hvisits, advance_inl, bytes_inl, takeSpans,
    advance_inr, advance_inr, apply_ite Sum.inr, apply_ite Sum.inr]

theorem takeWriter_remnant_spans {h : FragmentArrayInputStream} {r : S} {sp : SpanStream S} (hh : Valid h)
    (hr : Valid r) (hsp : sp.Ready) (n : Nat) (outcome : Except ε Bool) :
    takeWriter n outcome [.inl h, .inr (.inl r), .inr (.inr sp.allot)] =
      ([.inl (advance h n), .inr (.inl (if n < (bytes h).length then r else advance r (n - (bytes h).length))),
        .inr (.inr (takeSpans sp ((bytes h).length + (bytes r).length) n))], outcome) := by
  have hvisits : Visits (.inr (.inr sp.allot) : Source S) := fun st => hsp.forEachFragment_allot _ st
  rw [takeWriter, consume_three (visits_inl (visits hh)) (visits_inr (visits_inl (visits hr))) hvisits,
    advance_inl, bytes_inl, bytes_inr, bytes_inl, takeSpans, advance_inr, advance_inl, advance_inr,
    advance_inr, apply_ite Sum.inr, apply_ite Sum.inl, apply_ite Sum.inr, apply_ite Sum.inr, Nat.sub_sub]

theorem takeWriter_terminal {h t : FragmentArrayInputStream} (hh : Valid h) (ht : Valid t) (n : Nat)
    (outcome : Except ε Bool) :
    takeWriter (S := S) n outcome [.inl h, .inl t] =
      ([.inl (advance h n), .inl (if n < (bytes h).length then t else advance t (n - (bytes h).length))],
        outcome) := by
  rw [takeWriter, consume_two (visits_inl (visits hh)) (visits_inl (visits ht)), advance_inl, bytes_inl,
    advance_inl, apply_ite Sum.inl]

theorem takeWriter_remnant_terminal {h t : FragmentArrayInputStream} {r : S} (hh : Valid h) (hr : Valid r)
    (ht : Valid t) (n : Nat) (outcome : Except ε Bool) :
    takeWriter n outcome [.inl h, .inr (.inl r), .inl t] =
      ([.inl (advance h n), .inr (.inl (if n < (bytes h).length then r else advance r (n - (bytes h).length))),
        .inl (if n < (bytes h).length + (bytes r).length then t
          else advance t (n - (bytes h).length - (bytes r).length))], outcome) := by
  rw [takeWriter, consume_three (visits_inl (visits hh)) (visits_inr (visits_inl (visits hr)))
      (visits_inl (visits ht)), advance_inl, bytes_inl, bytes_inr, bytes_inl, advance_inr, advance_inl,
    advance_inl, apply_ite Sum.inl, apply_ite Sum.inr, apply_ite Sum.inl]

/-! ### What a connection relies on -/

/-- A stream is empty once its bytes are. -/
def EmptyAtEnd (s : FragmentArrayInputStream) : Prop := empty s = true ↔ bytes s = []

theorem emptyAtEnd_advance {s : FragmentArrayInputStream} (h : Valid s) (n : Nat) : EmptyAtEnd (advance s n) := by
  unfold EmptyAtEnd
  rw [empty_advance h, bytes_advance h, decide_eq_true_eq, List.drop_eq_nil_iff]

/-- What holds of a connection between two flushes. A remnant is what is left of one of `spans`,
and nothing of the terminal chunk is taken before everything else is. -/
structure Inv (c : ConnectionStream S) : Prop where
  header_valid : Valid c.headerStream
  header_empty : EmptyAtEnd c.headerStream
  terminal_valid : Valid c.terminalStream
  terminal_empty : EmptyAtEnd c.terminalStream
  terminal_le : (bytes c.terminalStream).length ≤ terminalFragment.length
  remnant : ∀ r, c.spanRemnant = some r →
    Valid r ∧ empty r = false ∧ bytes r ≠ [] ∧ bytes c.headerStream = []
  terminal : bytes c.terminalStream ≠ terminalFragment →
    c.shuttingDown = true ∧ bytes c.headerStream = [] ∧ c.spanRemnant = none

theorem Inv.header_eq_nil {c : ConnectionStream S} (h : c.Inv) {r : S} (hr : c.spanRemnant = some r) :
    bytes c.headerStream = [] := (h.remnant r hr).2.2.2

/-- The terminal chunk is begun after everything else. -/
theorem Inv.terminal_eq {c : ConnectionStream S} (h : c.Inv)
    (hearlier : c.shuttingDown = false ∨ c.spanRemnant.isSome = true) : bytes c.terminalStream = terminalFragment := by
  by_contra hne
  obtain ⟨hs, -, hr⟩ := h.terminal hne
  rw [hs, hr] at hearlier
  simp at hearlier

/-- The header moves on, and a remnant is left only once the header is empty. -/
theorem Inv.advanceHeader {c : ConnectionStream S} (h : c.Inv) (hterminal : bytes c.terminalStream = terminalFragment)
    {n : Nat} {remnant : Option S} {shuttingDown : Bool}
    (hremnant : ∀ r, remnant = some r →
      Valid r ∧ empty r = false ∧ bytes r ≠ [] ∧ bytes (advance c.headerStream n) = []) :
    Inv {c with headerStream := advance c.headerStream n, spanRemnant := remnant, shuttingDown := shuttingDown} :=
  ⟨valid_advance h.header_valid n, emptyAtEnd_advance h.header_valid n, h.terminal_valid, h.terminal_empty,
    h.terminal_le, hremnant, fun hne => absurd hterminal hne⟩

theorem Inv.any_spanRemnant {c : ConnectionStream S} (h : c.Inv) :
    (c.spanRemnant.any fun r => !empty r) = c.spanRemnant.isSome := by
  cases hr : c.spanRemnant with
  | none => rfl
  | some r => simp [(h.remnant r hr).2.1]

/-- Whether a connection has begun a span it has not finished. -/
def remnantCount (c : ConnectionStream S) : Nat := if c.spanRemnant.isSome then 1 else 0

/-- The bytes the session has begun and not finished, up to the end of the terminal chunk if the
stream shuts down. -/
def rest (c : ConnectionStream S) : List UInt8 :=
  bytes c.headerStream ++ remnantBytes c.spanRemnant ++ if c.shuttingDown then bytes c.terminalStream else []

/-- The bytes of the streams a flush hands to its writer. -/
def offered (c : ConnectionStream S) (sp : SpanStream S) : List UInt8 :=
  bytes c.headerStream ++ remnantBytes c.spanRemnant ++
    if c.shuttingDown then bytes c.terminalStream else sp.contentBytes

/-- What a flush whose writer takes `n` bytes and returns does: it begins `k` spans. -/
structure Flushed (n : Nat) (c : ConnectionStream S) (sp : SpanStream S) (c' : ConnectionStream S)
    (sp' : SpanStream S) (k : Nat) : Prop where
  k_le : k ≤ sp.spanBuffer.contents.length
  spanBuffer : sp'.spanBuffer = sp.spanBuffer.consume k
  taken : (c.offered sp).take n ++ c'.rest =
    c.rest ++ ((sp.spanBuffer.contents.take k).map bytes).flatten
  shutting : c.shuttingDown = true → k = 0
  spansSent : sp'.metrics.spansSent + c'.remnantCount = sp.metrics.spansSent + k + c.remnantCount
  spansDropped : sp'.metrics.spansDropped = sp.metrics.spansDropped
  numDroppedSpans : sp'.metrics.numDroppedSpans = sp.metrics.numDroppedSpans
  remnant : sp'.remnant = none
  last : ∀ r, c'.spanRemnant = some r →
    (k = 0 ∧ ∃ r₀, c.spanRemnant = some r₀ ∧ RestOf r₀ r ∧ (bytes r).length ≤ (bytes r₀).length) ∨
      (∃ span, sp.spanBuffer.contents[k - 1]? = some span ∧ 0 < k ∧ RestOf span r ∧
        (bytes r).length ≤ (bytes span).length)
  inv : c'.Inv
  header : bytes c'.headerStream = (bytes c.headerStream).drop n
  hostHeaderFragment : c'.hostHeaderFragment = c.hostHeaderFragment
  headerCommonFragment : c'.headerCommonFragment = c.headerCommonFragment
  message : c'.embeddedMetricsMessage = c.embeddedMetricsMessage
  shuttingDown : c'.shuttingDown = c.shuttingDown

/-- What is left of the spans of the buffer in the span stream after `m` of their bytes. -/
theorem advance_spans {sp : SpanStream S} (hsp : sp.Ready) {m : Nat} (hm : m ≤ sp.contentBytes.length) :
    ∃ k, k ≤ sp.spanBuffer.contents.length ∧
      (advance sp.allot m).spanBuffer = sp.spanBuffer.consume k ∧
      sp.contentBytes.take m ++ remnantBytes (advance sp.allot m).remnant =
        ((sp.spanBuffer.contents.take k).map bytes).flatten ∧
      (advance sp.allot m).metrics.spansSent + (if (advance sp.allot m).remnant.isSome then 1 else 0) =
        sp.metrics.spansSent + k ∧
      (advance sp.allot m).metrics.spansDropped = sp.metrics.spansDropped ∧
      (advance sp.allot m).metrics.numDroppedSpans = sp.metrics.numDroppedSpans ∧
      ∀ r, (advance sp.allot m).remnant = some r → Valid r ∧ empty r = false ∧ bytes r ≠ [] ∧
        ∃ span, sp.spanBuffer.contents[k - 1]? = some span ∧ 0 < k ∧ RestOf span r ∧
          (bytes r).length ≤ (bytes span).length := by
  have hvalid : ∀ span ∈ sp.spanBuffer.contents, Valid span := fun span hs => (hsp.framed span hs).valid
  have hcut := cut_locate sp.spanBuffer.contents hm
  rw [advance_allot hsp hm]
  generalize (locate (sp.spanBuffer.contents.map bytes) m).1 = full at hcut ⊢
  generalize (locate (sp.spanBuffer.contents.map bytes) m).2 = position at hcut ⊢
  refine ⟨begun full position, hcut.begun_le, rfl, hcut.bytes_eq hvalid, ?_, rfl, rfl, ?_⟩
  · cases hcut with
    | boundary => rfl
    | inside _ span hspan hpos hlt hn =>
      simp only [cutAt, if_neg (Nat.ne_of_gt hpos), hspan, Option.map_some, Option.isSome_some, if_true,
        begun_pos full hpos]
      rfl
  · intro r hr
    cases hcut with
    | boundary => cases hr
    | inside _ span hspan hpos hlt hn =>
      simp only [cutAt, if_neg (Nat.ne_of_gt hpos), hspan, Option.map_some, Option.some.injEq] at hr
      have hremnant := remnantOf_seekTo (hvalid span (List.mem_of_getElem? hspan)) hlt
      have hrest : RestOf span (seekTo span position) := .seek .whole _ _
      rw [hr] at hremnant hrest
      refine ⟨hremnant.valid, hremnant.not_empty, hremnant.bytes_ne_nil, span, ?_⟩
      rw [begun_pos full hpos, hremnant.bytes_eq, List.length_drop, Nat.add_sub_cancel]
      exact ⟨hspan, Nat.succ_pos _, hrest, Nat.sub_le _ _⟩

/-- A flush that has spans to offer and no remnant. -/
theorem flush_spans {c : ConnectionStream S} {sp : SpanStream S} (h : c.Inv) (hsp : sp.Ready)
    (hremnant : sp.remnant = none) (hs : c.shuttingDown = false) (hr : c.spanRemnant = none) {n : Nat}
    (hn : n ≤ (c.offered sp).length) (result : Bool) :
    ∃ k, Flushed n c sp (flush (takeWriter (ε := ε) n (.ok result)) c sp).1
      (flush (takeWriter (ε := ε) n (.ok result)) c sp).2.1 k := by
  have hoffered : c.offered sp = bytes c.headerStream ++ sp.contentBytes := by
    rw [offered, hr, hs]
    simp [remnantBytes]
  have hrest : c.rest = bytes c.headerStream := by
    rw [rest, hr, hs]
    simp [remnantBytes]
  have hterminal := h.terminal_eq (.inl hs)
  have hheader := bytes_advance h.header_valid n
  simp only [flush, hs, Bool.false_eq_true, if_false, hr, takeWriter_spans h.header_valid hsp,
    consumeRemnant]
  rw [hoffered, List.length_append] at hn
  by_cases hlt : n < (bytes c.headerStream).length
  · have hspans : takeSpans sp (bytes c.headerStream).length n = sp.allot := if_pos hlt
    rw [hspans]
    refine ⟨0, { k_le := Nat.zero_le _, spanBuffer := sp.spanBuffer.consume_zero.symm, taken := ?_,
                 shutting := fun _ => rfl, spansSent := ?_, spansDropped := rfl, numDroppedSpans := rfl,
                 remnant := rfl, last := ?_, inv := ?_, header := hheader, hostHeaderFragment := rfl,
                 headerCommonFragment := rfl, message := rfl, shuttingDown := hs.symm ▸ rfl }⟩
    · rw [hoffered, hrest, List.take_append_of_le_length (Nat.le_of_lt hlt)]
      simp [rest, allot, hremnant, remnantBytes, hheader]
    · simp [remnantCount, allot, hremnant, hr]
    · intro r hr'
      simp only [allot, hremnant] at hr'
      cases hr'
    · refine h.advanceHeader hterminal ?_
      intro r hr'
      simp only [allot, hremnant] at hr'
      cases hr'
  · have hspans : takeSpans sp (bytes c.headerStream).length n =
        advance sp.allot (n - (bytes c.headerStream).length) := if_neg hlt
    have hm : n - (bytes c.headerStream).length ≤ sp.contentBytes.length := by omega
    obtain ⟨k, hk, hbuffer, hbytes, hsent, hdropped, hnum, hvalid⟩ := advance_spans hsp hm
    rw [hspans]
    generalize advance sp.allot (n - (bytes c.headerStream).length) = sp' at hbuffer hbytes hsent hdropped hnum hvalid ⊢
    have hdrop : (bytes c.headerStream).drop n = [] := List.drop_eq_nil_of_le (Nat.le_of_not_lt hlt)
    refine ⟨k, { k_le := hk, spanBuffer := hbuffer, taken := ?_, shutting := ?_, spansSent := ?_,
                 spansDropped := hdropped, numDroppedSpans := hnum, remnant := rfl,
                 last := fun r hr => .inr (hvalid r hr).2.2.2, inv := ?_,
                 header := hheader, hostHeaderFragment := rfl, headerCommonFragment := rfl,
                 message := rfl, shuttingDown := hs.symm ▸ rfl }⟩
    · rw [hoffered, hrest, List.take_append, List.take_of_length_le (Nat.le_of_not_lt hlt), ← hbytes]
      simp [rest, hheader, hdrop]
    · intro hshutting
      rw [hs] at hshutting
      cases hshutting
    · rw [remnantCount, remnantCount, hr]
      exact hsent
    · refine h.advanceHeader hterminal ?_
      intro r hr'
      obtain ⟨hv, he, hb, -⟩ := hvalid r hr'
      exact ⟨hv, he, hb, by rw [hheader, hdrop]⟩

theorem advance_remnant {r : S} (hv : Valid r) {n : Nat} (hlt : n < (bytes r).length) :
    Valid (advance r n) ∧ empty (advance r n) = false ∧ bytes (advance r n) ≠ [] := by
  refine ⟨valid_advance hv n, ?_, ?_⟩
  · rw [empty_advance hv, decide_eq_false (Nat.not_le_of_lt hlt)]
  · rw [bytes_advance hv, ne_eq, List.drop_eq_nil_iff]
    exact Nat.not_le_of_lt hlt

theorem restOf_advance {r : S} {n : Nat} (hlt : n < (bytes r).length) : RestOf r (advance r n) := by
  rw [advance, if_pos hlt]
  exact .seek .whole _ _

theorem advance_length_le {r : S} (hv : Valid r) (n : Nat) : (bytes (advance r n)).length ≤ (bytes r).length := by
  rw [bytes_advance hv, List.length_drop]
  exact Nat.sub_le _ _

/-- A flush that has spans to offer after a remnant. -/
theorem flush_remnant_spans {c : ConnectionStream S} {sp : SpanStream S} (h : c.Inv) (hsp : sp.Ready)
    (hremnant : sp.remnant = none) (hs : c.shuttingDown = false) {r : S} (hr : c.spanRemnant = some r)
    {n : Nat} (hn : n ≤ (c.offered sp).length) (result : Bool) :
    ∃ k, Flushed n c sp (flush (takeWriter (ε := ε) n (.ok result)) c sp).1
      (flush (takeWriter (ε := ε) n (.ok result)) c sp).2.1 k := by
  obtain ⟨hv, he, hne, hnil⟩ := h.remnant r hr
  have hoffered : c.offered sp = bytes r ++ sp.contentBytes := by
    rw [offered, hr, hs, hnil]
    rfl
  have hrest : c.rest = bytes r := by
    rw [rest, hr, hs, hnil]
    simp [remnantBytes]
  have hterminal := h.terminal_eq (.inl hs)
  have hheader := bytes_advance h.header_valid n
  rw [hnil, List.drop_nil] at hheader
  rw [hoffered, List.length_append] at hn
  simp only [flush, hs, Bool.false_eq_true, if_false, hr, takeWriter_remnant_spans h.header_valid hv hsp,
    hnil, List.length_nil, Nat.not_lt_zero, Nat.zero_add, Nat.sub_zero, empty_advance hv, decide_eq_true_eq]
  by_cases hlt : n < (bytes r).length
  · have hspans : takeSpans sp (bytes r).length n = sp.allot := if_pos hlt
    rw [hspans, if_neg (Nat.not_le_of_lt hlt)]
    obtain ⟨hv', he', hne'⟩ := advance_remnant hv hlt
    refine ⟨0, { k_le := Nat.zero_le _, spanBuffer := sp.spanBuffer.consume_zero.symm, taken := ?_,
                 shutting := fun _ => rfl, spansSent := ?_, spansDropped := rfl, numDroppedSpans := rfl,
                 remnant := hremnant, last := ?_, inv := ?_,
                 header := by rw [hnil, List.drop_nil]; exact hheader,
                 hostHeaderFragment := rfl, headerCommonFragment := rfl, message := rfl,
                 shuttingDown := hs.symm ▸ rfl }⟩
    · rw [hoffered, hrest, List.take_append_of_le_length (Nat.le_of_lt hlt)]
      simp [rest, remnantBytes, hheader, bytes_advance hv]
    · simp [remnantCount, allot, hr]
    · intro r' hr'
      cases hr'
      exact .inl ⟨rfl, r, hr, restOf_advance hlt, advance_length_le hv n⟩
    · refine h.advanceHeader hterminal ?_
      intro r' hr'
      cases hr'
      exact ⟨hv', he', hne', hheader⟩
  · have hspans : takeSpans sp (bytes r).length n = advance sp.allot (n - (bytes r).length) := if_neg hlt
    have hm : n - (bytes r).length ≤ sp.contentBytes.length := by omega
    obtain ⟨k, hk, hbuffer, hbytes, hsent, hdropped, hnum, hvalid⟩ := advance_spans hsp hm
    rw [hspans, if_pos (Nat.le_of_not_lt hlt)]
    generalize advance sp.allot (n - (bytes r).length) = sp' at hbuffer hbytes hsent hdropped hnum hvalid ⊢
    refine ⟨k, { k_le := hk, spanBuffer := hbuffer, taken := ?_, shutting := ?_, spansSent := ?_,
                 spansDropped := hdropped, numDroppedSpans := hnum, remnant := rfl,
                 last := fun r hr => .inr (hvalid r hr).2.2.2, inv := ?_,
                 header := by rw [hnil, List.drop_nil]; exact hheader, hostHeaderFragment := rfl,
                 headerCommonFragment := rfl, message := rfl, shuttingDown := hs.symm ▸ rfl }⟩
    · rw [hoffered, hrest, List.take_append, List.take_of_length_le (Nat.le_of_not_lt hlt), ← hbytes]
      simp [rest, hheader, consumeRemnant]
    · intro hshutting
      rw [hs] at hshutting
      cases hshutting
    · have hone : c.remnantCount = 1 := by simp [remnantCount, hr]
      rw [hone]
      show sp'.metrics.spansSent + 1 + (if sp'.remnant.isSome then 1 else 0) = _
      omega
    · refine h.advanceHeader hterminal ?_
      intro r' hr'
      obtain ⟨hv', he', hb', -⟩ := hvalid r' hr'
      exact ⟨hv', he', hb', hheader⟩

/-- A flush of a stream that shuts down and has no remnant. -/
theorem flush_terminal {c : ConnectionStream S} {sp : SpanStream S} (h : c.Inv) (hremnant : sp.remnant = none)
    (hs : c.shuttingDown = true) (hr : c.spanRemnant = none) (n : Nat) (result : Bool) :
    Flushed n c sp (flush (takeWriter (ε := ε) n (.ok result)) c sp).1
      (flush (takeWriter (ε := ε) n (.ok result)) c sp).2.1 0 := by
  have hoffered : c.offered sp = bytes c.headerStream ++ bytes c.terminalStream := by
    rw [offered, hr, hs]
    simp [remnantBytes]
  have hrest : c.rest = bytes c.headerStream ++ bytes c.terminalStream := by
    rw [rest, hr, hs]
    simp [remnantBytes]
  have hheader := bytes_advance h.header_valid n
  simp only [flush, hs, if_true, flushShutdown, hr, takeWriter_terminal h.header_valid h.terminal_valid]
  refine { k_le := Nat.zero_le _, spanBuffer := sp.spanBuffer.consume_zero.symm, taken := ?_,
           shutting := fun _ => rfl, spansSent := by simp [remnantCount, hr], spansDropped := rfl,
           numDroppedSpans := rfl, remnant := hremnant, last := ?_, inv := ?_, header := hheader, hostHeaderFragment := rfl,
           headerCommonFragment := rfl, message := rfl, shuttingDown := hs.symm ▸ rfl }
  · rw [hoffered, hrest]
    by_cases hlt : n < (bytes c.headerStream).length
    · rw [List.take_append_of_le_length (Nat.le_of_lt hlt)]
      simp only [rest, hheader, if_pos hlt, remnantBytes, Option.elim_none, List.append_nil, if_true,
        List.take_zero, List.map_nil, List.flatten_nil]
      rw [← List.append_assoc, List.take_append_drop]
    · have hdrop : (bytes c.headerStream).drop n = [] := List.drop_eq_nil_of_le (Nat.le_of_not_lt hlt)
      rw [List.take_append, List.take_of_length_le (Nat.le_of_not_lt hlt)]
      simp only [rest, hheader, if_neg hlt, remnantBytes, Option.elim_none, List.append_nil, if_true,
        List.take_zero, List.map_nil, List.flatten_nil, hdrop, List.nil_append,
        bytes_advance h.terminal_valid]
      rw [List.append_assoc, List.take_append_drop]
  · intro r hr'
    cases hr'
  · refine { header_valid := valid_advance h.header_valid n,
             header_empty := emptyAtEnd_advance h.header_valid n, terminal_valid := ?_,
             terminal_empty := ?_, terminal_le := ?_, remnant := ?_, terminal := ?_ }
    · show Valid (if n < _ then c.terminalStream else _)
      split
      · exact h.terminal_valid
      · exact valid_advance h.terminal_valid _
    · show EmptyAtEnd (if n < _ then c.terminalStream else _)
      split
      · exact h.terminal_empty
      · exact emptyAtEnd_advance h.terminal_valid _
    · show (bytes (if n < _ then c.terminalStream else _)).length ≤ _
      split
      · exact h.terminal_le
      · exact Nat.le_trans (advance_length_le h.terminal_valid _) h.terminal_le
    · intro r hr'
      cases hr'
    · intro hne
      refine ⟨rfl, ?_, rfl⟩
      show bytes (advance c.headerStream n) = []
      rw [hheader]
      by_cases hlt : n < (bytes c.headerStream).length
      · have hne : bytes (if n < (bytes c.headerStream).length then c.terminalStream else _) ≠
            terminalFragment := hne
        rw [if_pos hlt] at hne
        rw [(h.terminal hne).2.1, List.drop_nil]
      · exact List.drop_eq_nil_of_le (Nat.le_of_not_lt hlt)

/-- A flush of a stream that shuts down and has a remnant to send first. -/
theorem flush_remnant_terminal {c : ConnectionStream S} {sp : SpanStream S} (h : c.Inv)
    (hremnant : sp.remnant = none) (hs : c.shuttingDown = true) {r : S} (hr : c.spanRemnant = some r)
    (n : Nat) (result : Bool) :
    Flushed n c sp (flush (takeWriter (ε := ε) n (.ok result)) c sp).1
      (flush (takeWriter (ε := ε) n (.ok result)) c sp).2.1 0 := by
  obtain ⟨hv, he, hne, hnil⟩ := h.remnant r hr
  have hoffered : c.offered sp = bytes r ++ bytes c.terminalStream := by
    rw [offered, hr, hs, hnil]
    rfl
  have hrest : c.rest = bytes r ++ bytes c.terminalStream := by
    rw [rest, hr, hs, hnil]
    rfl
  have hterminal := h.terminal_eq (.inr (Option.isSome_of_eq_some hr))
  have hheader := bytes_advance h.header_valid n
  rw [hnil, List.drop_nil] at hheader
  simp only [flush, hs, if_true, flushShutdown, hr,
    takeWriter_remnant_terminal h.header_valid hv h.terminal_valid, hnil, List.length_nil, Nat.not_lt_zero,
    if_false, Nat.zero_add, Nat.sub_zero, empty_advance hv, decide_eq_true_eq]
  by_cases hlt : n < (bytes r).length
  · rw [if_neg (Nat.not_le_of_lt hlt)]
    obtain ⟨hv', he', hne'⟩ := advance_remnant hv hlt
    refine { k_le := Nat.zero_le _, spanBuffer := sp.spanBuffer.consume_zero.symm, taken := ?_,
             shutting := fun _ => rfl, spansSent := by simp [remnantCount, hr], spansDropped := rfl,
             numDroppedSpans := rfl, remnant := hremnant, last := ?_, inv := ?_,
             header := by rw [hnil, List.drop_nil]; exact hheader, hostHeaderFragment := rfl,
             headerCommonFragment := rfl, message := rfl, shuttingDown := hs.symm ▸ rfl }
    · rw [hoffered, hrest, List.take_append_of_le_length (Nat.le_of_lt hlt)]
      simp only [rest, remnantBytes, hheader, bytes_advance hv, if_pos hlt, Option.elim_some, if_true,
        List.nil_append, List.take_zero, List.map_nil, List.flatten_nil, List.append_nil]
      rw [← List.append_assoc, List.take_append_drop]
    · intro r' hr'
      cases hr'
      exact .inl ⟨rfl, r, hr, restOf_advance hlt, advance_length_le hv n⟩
    · simp only [if_pos hlt]
      refine h.advanceHeader hterminal ?_
      intro r' hr'
      cases hr'
      exact ⟨hv', he', hne', hheader⟩
  · rw [if_pos (Nat.le_of_not_lt hlt)]
    refine { k_le := Nat.zero_le _, spanBuffer := sp.spanBuffer.consume_zero.symm, taken := ?_,
             shutting := fun _ => rfl, spansSent := ?_, spansDropped := rfl,
             numDroppedSpans := rfl, remnant := hremnant, last := ?_, inv := ?_,
             header := by rw [hnil, List.drop_nil]; exact hheader, hostHeaderFragment := rfl,
             headerCommonFragment := rfl, message := rfl, shuttingDown := hs.symm ▸ rfl }
    · rw [hoffered, hrest, List.take_append, List.take_of_length_le (Nat.le_of_not_lt hlt)]
      simp only [rest, remnantBytes, hheader, if_neg hlt, Option.elim_none, if_true, List.nil_append,
        List.take_zero, List.map_nil, List.flatten_nil, List.append_nil, bytes_advance h.terminal_valid]
      rw [List.append_assoc, List.take_append_drop]
    · simp [remnantCount, hr, MetricsTracker.onSpansSent, MetricsTracker.spansSent]
    · intro r' hr'
      cases hr'
    · simp only [if_neg hlt]
      refine ⟨valid_advance h.header_valid n, emptyAtEnd_advance h.header_valid n,
        valid_advance h.terminal_valid _, emptyAtEnd_advance h.terminal_valid _,
        Nat.le_trans (advance_length_le h.terminal_valid _) h.terminal_le, ?_,
        fun _ => ⟨rfl, hheader, rfl⟩⟩
      intro r' hr'
      cases hr'

/-- **A flush** whose writer takes `n` of the bytes it is offered and returns. -/
theorem flush_take {c : ConnectionStream S} {sp : SpanStream S} (h : c.Inv) (hsp : sp.Ready)
    (hremnant : sp.remnant = none) {n : Nat} (hn : n ≤ (c.offered sp).length) (result : Bool) :
    ∃ k, Flushed n c sp (flush (takeWriter (ε := ε) n (.ok result)) c sp).1
      (flush (takeWriter (ε := ε) n (.ok result)) c sp).2.1 k := by
  cases hs : c.shuttingDown with
  | false =>
    cases hr : c.spanRemnant with
    | none => exact flush_spans h hsp hremnant hs hr hn result
    | some r => exact flush_remnant_spans h hsp hremnant hs hr hn result
  | true =>
    cases hr : c.spanRemnant with
    | none => exact ⟨0, flush_terminal h hremnant hs hr n result⟩
    | some r => exact ⟨0, flush_remnant_terminal h hremnant hs hr n result⟩

/-! ### What a flush offers -/

/-- The streams a flush hands to its writer. -/
def streams (c : ConnectionStream S) (sp : SpanStream S) : List (Source S) :=
  match c.shuttingDown, c.spanRemnant with
  | true, none => [.inl c.headerStream, .inl c.terminalStream]
  | true, some remnant => [.inl c.headerStream, .inr (.inl remnant), .inl c.terminalStream]
  | false, none => [.inl c.headerStream, .inr (.inr sp.allot)]
  | false, some remnant => [.inl c.headerStream, .inr (.inl remnant), .inr (.inr sp.allot)]

omit [SeekableFragmentInputStream S] in
theorem flush_outcome (writer : Writer ε S) (c : ConnectionStream S) (sp : SpanStream S) :
    (c.flush writer sp).2.2 = (writer (c.streams sp)).2 := by
  unfold flush flushShutdown streams
  cases c.shuttingDown <;> cases c.spanRemnant <;> simp only [if_true, Bool.false_eq_true, if_false] <;>
    split <;> rename_i heq <;> rw [heq] <;> try split
  all_goals first | rfl | (split <;> rfl)

omit [SeekableFragmentInputStream S] in
theorem flush_shuttingDown (writer : Writer ε S) (c : ConnectionStream S) (sp : SpanStream S) :
    (c.flush writer sp).1.shuttingDown = c.shuttingDown := by
  unfold flush flushShutdown
  cases hs : c.shuttingDown <;> cases c.spanRemnant <;> simp only [if_true, Bool.false_eq_true, if_false] <;>
    split <;> try split
  all_goals first | rfl | exact hs | (split <;> rfl)

/-! ### Beginning a session -/

/-- The body of a header's chunk. -/
def headerBody (headerCommonFragment : Fragment) (numDroppedSpans : Int32) : List UInt8 :=
  headerCommonFragment ++ (EmbeddedMetricsMessage.mk numDroppedSpans).makeFragment

/-- The header of a session: request line, host, and one chunk that says the size of its body. -/
def sessionHeader (hostHeaderFragment headerCommonFragment : Fragment) (numDroppedSpans : Int32) : List UInt8 :=
  httpRequestCommonFragment ++ hostHeaderFragment ++ endOfLineFragment ++
    writeChunkHeader (headerBody headerCommonFragment numDroppedSpans).length ++
    headerBody headerCommonFragment numDroppedSpans ++ endOfLineFragment

/-- A header whose common part has a length the source's `int` holds is no longer than a chunk can be. -/
theorem headerBody_length_lt {headerCommonFragment : Fragment} (h : headerCommonFragment.length < 2 ^ 31)
    (numDroppedSpans : Int32) : (headerBody headerCommonFragment numDroppedSpans).length < 2 ^ 64 := by
  have hmetrics := (EmbeddedMetricsMessage.mk numDroppedSpans).makeFragment_length_le
  rw [headerBody, List.length_append]
  omega

/-- The size a chunk header says is the size it was written for. -/
theorem readHex_writeChunkHeader {chunkSize : Nat} (h : chunkSize < 2 ^ 64) :
    ∃ digits, writeChunkHeader chunkSize = digits ++ endOfLineFragment ∧ readHex 0 digits = some chunkSize :=
  ⟨hexDigits upperDigit 15 chunkSize, rfl,
    readHex_hexDigits upperDigit_readsBack 15 chunkSize (Nat.lt_of_lt_of_le h (by decide))⟩

omit [SeekableFragmentInputStream S] [FragmentInputStream S] in
theorem initializeStream_header (c : ConnectionStream S) (sp : SpanStream S) :
    bytes (initializeStream c sp).1.headerStream =
      sessionHeader c.hostHeaderFragment c.headerCommonFragment sp.metrics.numDroppedSpans := by
  simp only [bytes, initializeStream, MetricsTracker.consumeDroppedSpans,
    EmbeddedMetricsMessage.setNumDroppedSpans, FragmentArrayInputStream.fragments_ofFragments, sessionHeader,
    headerBody, List.length_append, List.flatten_cons, List.flatten_nil, List.append_assoc, List.append_nil]

omit [SeekableFragmentInputStream S] [FragmentInputStream S] in
theorem sessionHeader_ne_nil (host common : Fragment) (n : Int32) : sessionHeader host common n ≠ [] :=
  List.append_ne_nil_of_right_ne_nil _ (by decide)

theorem initializeStream_inv {c : ConnectionStream S} (hr : c.spanRemnant = none) (sp : SpanStream S) :
    (initializeStream c sp).1.Inv := by
  have hheader := initializeStream_header c sp
  refine { header_valid := FragmentArrayInputStream.wellFormed_ofFragments _, header_empty := ?_,
           terminal_valid := FragmentArrayInputStream.wellFormed_ofFragments _, terminal_empty := ?_,
           terminal_le := by simp [bytes, initializeStream], remnant := ?_, terminal := ?_ }
  · have hempty : empty (initializeStream c sp).1.headerStream = false := rfl
    unfold EmptyAtEnd
    rw [hempty, hheader]
    simp [sessionHeader_ne_nil]
  · show EmptyAtEnd (.ofFragments [terminalFragment])
    unfold EmptyAtEnd
    decide
  · intro r hr'
    have hr' : c.spanRemnant = some r := hr'
    rw [hr] at hr'
    cases hr'
  · intro hne
    exact absurd (show bytes (FragmentArrayInputStream.ofFragments [terminalFragment]) = terminalFragment by
      simp [bytes]) hne

theorem initializeStream_rest {c : ConnectionStream S} (hr : c.spanRemnant = none) (sp : SpanStream S) :
    (initializeStream c sp).1.rest =
      sessionHeader c.hostHeaderFragment c.headerCommonFragment sp.metrics.numDroppedSpans := by
  have hremnant : (initializeStream c sp).1.spanRemnant = none := hr
  have hshutting : (initializeStream c sp).1.shuttingDown = false := rfl
  rw [rest, initializeStream_header, hremnant, hshutting]
  simp [remnantBytes]

/-- The drop count after a reset: a header that was not sent gives its count back, and a remnant
is a dropped span. -/
def resetDroppedSpans (c : ConnectionStream S) (sp : SpanStream S) : Int32 :=
  sp.metrics.numDroppedSpans +
    (if bytes c.headerStream = [] then 0 else c.embeddedMetricsMessage.numDroppedSpans) + .ofNat c.remnantCount

/-- **A reset** begins a session whose header has taken over all the drops. -/
theorem reset_eq {c : ConnectionStream S} (h : c.Inv) (sp : SpanStream S) :
    ∃ metrics : MetricsTracker, c.reset sp = initializeStream {c with spanRemnant := none} {sp with metrics := metrics} ∧
      metrics.spansSent = sp.metrics.spansSent ∧
      metrics.spansDropped = sp.metrics.spansDropped + c.remnantCount ∧
      metrics.numDroppedSpans = c.resetDroppedSpans sp := by
  have hempty := h.header_empty
  unfold EmptyAtEnd at hempty
  refine ⟨_, rfl, ?_⟩
  unfold resetDroppedSpans remnantCount
  cases hr : c.spanRemnant with
  | none =>
    cases he : empty c.headerStream with
    | true => simp [hempty.mp he]
    | false =>
      have hne : bytes c.headerStream ≠ [] := fun hnil => by
        rw [hempty.mpr hnil] at he
        cases he
      simp [hne, MetricsTracker.unconsumeDroppedSpans, MetricsTracker.spansSent, MetricsTracker.spansDropped]
  | some r =>
    obtain ⟨-, hnot, -, hnil⟩ := h.remnant r hr
    simp [hnot, hnil, hempty.mpr hnil, MetricsTracker.onSpansDropped, MetricsTracker.spansSent,
      MetricsTracker.spansDropped]

end ConnectionStream
end Lightstep.Recorder

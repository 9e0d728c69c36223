import Lightstep.Library.Fold
import Lightstep.Tracer.Propagation.HeaderOrder

/-! Contexts of several headers, and when an extraction takes one for complete.

The two ids are told from each other by the keys of their headers, but counted together. -/
namespace Lightstep.Tracer.MultiheaderPropagator
open Common Library

variable {p : MultiheaderPropagator} {caseSensitive : Bool}

def isTraceId (p : MultiheaderPropagator) (caseSensitive : Bool) (header : Header) : Bool :=
  keyCompare caseSensitive header.1 p.traceIdKey

def isSpanId (p : MultiheaderPropagator) (caseSensitive : Bool) (header : Header) : Bool :=
  keyCompare caseSensitive header.1 p.spanIdKey

/-- A header whose id can be read, if it has one. -/
def Readable (p : MultiheaderPropagator) (caseSensitive : Bool) (header : Header) : Prop :=
  (p.isTraceId caseSensitive header = true → ∃ traceId, hexToUint128 header.2 = .ok traceId) ∧
    (p.isSpanId caseSensitive header = true → ∃ spanId, hexToUint64 header.2 = .ok spanId)

/-- No name is both that of the trace id and that of the span id. -/
theorem not_isSpanId (hkeys : keyCompare caseSensitive p.traceIdKey p.spanIdKey = false) {header : Header}
    (h : p.isTraceId caseSensitive header = true) : ¬ p.isSpanId caseSensitive header = true := by
  intro hspan
  unfold isTraceId at h
  unfold isSpanId at hspan
  apply Bool.eq_false_iff.mp hkeys
  cases caseSensitive with
  | false => exact iequals_iff.mpr ((iequals_iff.mp h).symm.trans (iequals_iff.mp hspan))
  | true => exact beq_iff_eq.mpr ((beq_iff_eq.mp h).symm.trans (beq_iff_eq.mp hspan))

/-- What going through some headers does to the ids and their count. -/
structure Scanned (p : MultiheaderPropagator) (caseSensitive : Bool) (headers : List Header) (before after : Scan) :
    Prop where
  readable : ∀ header ∈ headers, Readable p caseSensitive header
  count : after.count =
    before.count + headers.countP (p.isTraceId caseSensitive) + headers.countP (p.isSpanId caseSensitive)
  traceId : (∃ header ∈ headers, p.isTraceId caseSensitive header = true ∧
      hexToUint128 header.2 = .ok (after.traceContext.traceIdHigh, after.traceContext.traceIdLow)) ∨
    headers.countP (p.isTraceId caseSensitive) = 0 ∧ after.traceContext.traceIdHigh = before.traceContext.traceIdHigh ∧
      after.traceContext.traceIdLow = before.traceContext.traceIdLow
  spanId : (∃ header ∈ headers, p.isSpanId caseSensitive header = true ∧
      hexToUint64 header.2 = .ok after.traceContext.parentId) ∨
    headers.countP (p.isSpanId caseSensitive) = 0 ∧ after.traceContext.parentId = before.traceContext.parentId

theorem scanned_nil (scan : Scan) : Scanned p caseSensitive [] scan scan where
  readable := fun _ h => absurd h List.not_mem_nil
  count := rfl
  traceId := .inr ⟨rfl, rfl, rfl⟩
  spanId := .inr ⟨rfl, rfl⟩

/-- The headers of one scan and of another after it. -/
theorem Scanned.append {first second : List Header} {scan scan₁ scan₂ : Scan}
    (h₁ : Scanned p caseSensitive first scan scan₁) (h₂ : Scanned p caseSensitive second scan₁ scan₂) :
    Scanned p caseSensitive (first ++ second) scan scan₂ where
  readable header hheader := by
    rcases List.mem_append.mp hheader with hheader | hheader
    · exact h₁.readable header hheader
    · exact h₂.readable header hheader
  count := by
    rw [h₂.count, h₁.count, List.countP_append, List.countP_append]
    omega
  traceId := by
    rcases h₂.traceId with ⟨header, hmem, hkey, hid⟩ | ⟨hnone, hhigh, hlow⟩
    · exact .inl ⟨header, List.mem_append_right _ hmem, hkey, hid⟩
    · rw [hhigh, hlow, List.countP_append, hnone]
      rcases h₁.traceId with ⟨header, hmem, hkey, hid⟩ | hkept
      · exact .inl ⟨header, List.mem_append_left _ hmem, hkey, hid⟩
      · exact .inr hkept
  spanId := by
    rcases h₂.spanId with ⟨header, hmem, hkey, hid⟩ | ⟨hnone, hparent⟩
    · exact .inl ⟨header, List.mem_append_right _ hmem, hkey, hid⟩
    · rw [hparent, List.countP_append, hnone]
      rcases h₁.spanId with ⟨header, hmem, hkey, hid⟩ | hkept
      · exact .inl ⟨header, List.mem_append_left _ hmem, hkey, hid⟩
      · exact .inr hkept

/-- A header that is read gives the id of its key, or leaves the ids. -/
theorem readHeader_scanned (hkeys : keyCompare caseSensitive p.traceIdKey p.spanIdKey = false) {header : Header}
    {scan scan' : Scan} (h : p.readHeader (keyCompare caseSensitive) scan header = .ok scan') :
    Scanned p caseSensitive [header] scan scan' := by
  cases p.readHeader_reads (keyCompare caseSensitive) header with
  | corruptedTraceId _ _ hread | corruptedSpanId _ _ hread =>
    rw [hread] at h
    cases h
  | traceId hkey hid hread =>
    have htrace : p.isTraceId caseSensitive header = true := hkey
    have hspan := not_isSpanId hkeys htrace
    rw [hread] at h
    cases h
    exact ⟨by simpa [Readable, hspan] using fun _ => ⟨_, _, hid⟩, by simp [htrace, hspan], .inl (by simp [htrace, hid]),
      .inr (by simp [hspan])⟩
  | spanId htraceId hkey hid hread =>
    have htrace : ¬ p.isTraceId caseSensitive header = true := htraceId
    have hspan : p.isSpanId caseSensitive header = true := hkey
    rw [hread] at h
    cases h
    exact ⟨by simpa [Readable, htrace] using fun _ => ⟨_, hid⟩, by simp [htrace, hspan], .inr (by simp [htrace]),
      .inl (by simp [hspan, hid])⟩
  | sampled htraceId hspanId _ hread | baggage htraceId hspanId hread =>
    have htrace : ¬ p.isTraceId caseSensitive header = true := htraceId
    have hspan : ¬ p.isSpanId caseSensitive header = true := hspanId
    rw [hread] at h
    cases h
    exact ⟨by simp [Readable, htrace, hspan], by simp [htrace, hspan], .inr (by simp [htrace]), .inr (by simp [hspan])⟩

/-- A header whose id leaves the table of digits. -/
def LeavesTable (p : MultiheaderPropagator) (caseSensitive : Bool) (header : Header) : Prop :=
  p.isTraceId caseSensitive header = true ∧ hexToUint128 header.2 = .error .outOfTable ∨
    p.isSpanId caseSensitive header = true ∧ hexToUint64 header.2 = .error .outOfTable

/-- How the headers may fail: an id leaves the table, or one of the two keys has an id that is no number. -/
def Fails (p : MultiheaderPropagator) (caseSensitive : Bool) (headers : List Header) : ErrorCode → Prop
  | .outOfTable => ∃ header ∈ headers, LeavesTable p caseSensitive header
  | error => error = .spanContextCorrupted ∧
    ∃ header ∈ headers, p.isTraceId caseSensitive header = true ∨ p.isSpanId caseSensitive header = true

theorem fails_corrupted {headers : List Header} : Fails p caseSensitive headers .spanContextCorrupted ↔
    ∃ header ∈ headers, p.isTraceId caseSensitive header = true ∨ p.isSpanId caseSensitive header = true :=
  and_iff_right rfl

/-- A header that fails is of one of the two keys, and its id cannot be read. -/
theorem readHeader_error {headers : List Header} {header : Header} (hmem : header ∈ headers) {scan : Scan}
    {e : ErrorCode} (h : p.readHeader (keyCompare caseSensitive) scan header = .error e) :
    ¬ Readable p caseSensitive header ∧ Fails p caseSensitive headers e := by
  cases p.readHeader_reads (keyCompare caseSensitive) header with
  | @corruptedTraceId error hkey hid hread =>
    rw [hread] at h
    cases h
    refine ⟨fun hreadable => ?_, ?_⟩
    · obtain ⟨traceId, hok⟩ := hreadable.1 hkey
      rw [hid] at hok
      cases hok
    · cases error with
      | outOfTable => exact ⟨header, hmem, .inl ⟨hkey, hid⟩⟩
      | _ => exact fails_corrupted.mpr ⟨header, hmem, .inl hkey⟩
  | @corruptedSpanId error hkey hid hread =>
    rw [hread] at h
    cases h
    refine ⟨fun hreadable => ?_, ?_⟩
    · obtain ⟨spanId, hok⟩ := hreadable.2 hkey
      rw [hid] at hok
      cases hok
    · cases error with
      | outOfTable => exact ⟨header, hmem, .inr ⟨hkey, hid⟩⟩
      | _ => exact fails_corrupted.mpr ⟨header, hmem, .inr hkey⟩
  | traceId _ _ hread | spanId _ _ _ hread | sampled _ _ _ hread | baggage _ _ hread =>
    rw [hread] at h
    cases h

theorem scanned_headers (hkeys : keyCompare caseSensitive p.traceIdKey p.spanIdKey = false) {headers : List Header}
    {scan scan' : Scan} (h : headers.foldlM (p.readHeader (keyCompare caseSensitive)) scan = .ok scan') :
    Scanned p caseSensitive headers scan scan' := by
  apply foldlM_ok (P := Scanned p caseSensitive) scanned_nil _ h
  intro header rest scan scan₁ scan₂ hheader hrest
  exact (readHeader_scanned hkeys hheader).append hrest

/-- What an extraction owes: both ids from headers of their keys, or that there is none of either key,
or an error where there is one. Where an id leaves the table nothing is defined. -/
def Complete (p : MultiheaderPropagator) (caseSensitive : Bool) (headers : List Header) :
    Expected (Bool × Extraction) → Prop
  | .ok (true, out) =>
    (∃ header ∈ headers, p.isTraceId caseSensitive header = true ∧
      hexToUint128 header.2 = .ok (out.traceContext.traceIdHigh, out.traceContext.traceIdLow)) ∧
    ∃ header ∈ headers, p.isSpanId caseSensitive header = true ∧ hexToUint64 header.2 = .ok out.traceContext.parentId
  | .ok (false, _) =>
    ∀ header ∈ headers, ¬ p.isTraceId caseSensitive header = true ∧ ¬ p.isSpanId caseSensitive header = true
  | .error e => Fails p caseSensitive headers e

/-- Two headers of the one key and none of the other, with ids that can be read. -/
def OneKeyTwice (p : MultiheaderPropagator) (caseSensitive : Bool) (headers : List Header) : Prop :=
  (∀ header ∈ headers, Readable p caseSensitive header) ∧
    (headers.countP (p.isTraceId caseSensitive) = 2 ∧ headers.countP (p.isSpanId caseSensitive) = 0 ∨
      headers.countP (p.isTraceId caseSensitive) = 0 ∧ headers.countP (p.isSpanId caseSensitive) = 2)

/-- The result by the ids that were counted. -/
theorem extractSpanContext_cases {carrier : TextMapReader} {out : Extraction} {scan : Scan}
    (h : carrier.headers.foldlM (p.readHeader (keyCompare caseSensitive)) ⟨out.traceContext, out.baggage, true, 0⟩ =
      .ok scan) :
    (scan.count = 0 ∧ ∃ out', p.extractSpanContext carrier caseSensitive out = .ok (false, out')) ∨
    (scan.count = 2 ∧ ∃ out', p.extractSpanContext carrier caseSensitive out = .ok (true, out') ∧
      out'.traceContext.traceIdHigh = scan.traceContext.traceIdHigh ∧
      out'.traceContext.traceIdLow = scan.traceContext.traceIdLow ∧
      out'.traceContext.parentId = scan.traceContext.parentId) ∨
    (0 < scan.count ∧ scan.count ≠ 2 ∧
      p.extractSpanContext carrier caseSensitive out = .error .spanContextCorrupted) := by
  unfold extractSpanContext
  rw [h]
  simp only [bind, Except.bind, pure, Except.pure, fieldCount]
  by_cases hzero : scan.count = 0
  · exact .inl ⟨hzero, _, if_pos hzero⟩
  · by_cases htwo : scan.count = 2
    · exact .inr (.inl ⟨htwo, _, (if_neg hzero).trans (if_neg (not_not_intro htwo)), rfl, rfl, rfl⟩)
    · exact .inr (.inr ⟨Nat.pos_of_ne_zero hzero, htwo, (if_neg hzero).trans (if_pos htwo)⟩)

/-- **An extraction takes a context for complete that is**, exactly if there are not two headers of
one key and none of the other. -/
theorem complete_iff (hkeys : keyCompare caseSensitive p.traceIdKey p.spanIdKey = false) (carrier : TextMapReader)
    (out : Extraction) :
    Complete p caseSensitive carrier.headers (p.extractSpanContext carrier caseSensitive out) ↔
      ¬ OneKeyTwice p caseSensitive carrier.headers := by
  cases hscan : carrier.headers.foldlM (p.readHeader (keyCompare caseSensitive))
      ⟨out.traceContext, out.baggage, true, 0⟩ with
  | error e =>
    obtain ⟨header, hmem, _, hfailed⟩ := foldlM_error hscan
    obtain ⟨hunreadable, hfails⟩ := readHeader_error hmem hfailed
    have hresult : p.extractSpanContext carrier caseSensitive out = .error e := by
      unfold extractSpanContext
      rw [hscan]
      rfl
    rw [hresult]
    exact ⟨fun _ htwice => hunreadable (htwice.1 header hmem), fun _ => hfails⟩
  | ok scan =>
    have hscanned := scanned_headers hkeys hscan
    have hcount := hscanned.count
    simp only [Nat.zero_add] at hcount
    rcases extractSpanContext_cases hscan with ⟨hzero, out', hresult⟩ | ⟨htwo, out', hresult, hhigh, hlow, hparent⟩ |
      ⟨hpos, hne, hresult⟩
    · rw [hresult]
      constructor
      · rintro - ⟨-, htwice⟩
        omega
      · intro _ header hmem
        have htrace := List.countP_eq_zero.mp (Nat.eq_zero_of_add_eq_zero_right (hcount.symm.trans hzero)) header hmem
        have hspan := List.countP_eq_zero.mp (Nat.eq_zero_of_add_eq_zero_left (hcount.symm.trans hzero)) header hmem
        exact ⟨htrace, hspan⟩
    · rw [hresult]
      constructor
      · rintro ⟨⟨traceId, htrace, htraceKey, -⟩, spanId, hspan, hspanKey, -⟩ ⟨-, htwice⟩
        have htracePos := List.countP_pos_iff.mpr ⟨traceId, htrace, htraceKey⟩
        have hspanPos := List.countP_pos_iff.mpr ⟨spanId, hspan, hspanKey⟩
        omega
      · intro hnot
        have hboth : carrier.headers.countP (p.isTraceId caseSensitive) ≠ 0 ∧
            carrier.headers.countP (p.isSpanId caseSensitive) ≠ 0 := by
          constructor
          · intro hnone
            exact hnot ⟨hscanned.readable, .inr ⟨hnone, by omega⟩⟩
          · intro hnone
            exact hnot ⟨hscanned.readable, .inl ⟨by omega, hnone⟩⟩
        have htraceId := hscanned.traceId.resolve_right fun h => hboth.1 h.1
        have hspanId := hscanned.spanId.resolve_right fun h => hboth.2 h.1
        rw [← hhigh, ← hlow] at htraceId
        rw [← hparent] at hspanId
        exact ⟨htraceId, hspanId⟩
    · rw [hresult]
      constructor
      · rintro - ⟨-, htwice⟩
        omega
      · intro _
        refine fails_corrupted.mpr ?_
        by_cases htrace : carrier.headers.countP (p.isTraceId caseSensitive) = 0
        · have hspan : 0 < carrier.headers.countP (p.isSpanId caseSensitive) := by omega
          obtain ⟨header, hmem, hkey⟩ := List.countP_pos_iff.mp hspan
          exact ⟨header, hmem, .inr hkey⟩
        · obtain ⟨header, hmem, hkey⟩ := List.countP_pos_iff.mp (Nat.pos_of_ne_zero htrace)
          exact ⟨header, hmem, .inl hkey⟩

/-- Two trace ids in headers whose names differ in case, and no span id. -/
def twoTraceIds : TextMapReader :=
  ⟨[(ascii "ot-tracer-traceid", ascii "1"), (ascii "OT-Tracer-TraceId", ascii "2")],
    fun _ => .error .lookupKeyNotSupported⟩

/-- The context has the second trace id, and the span id that was there before. -/
theorem not_complete_twoTraceIds :
    (∃ out, lightStepPropagator.extractSpanContext twoTraceIds false .new = .ok (true, out) ∧
      out.traceContext.traceIdLow = 2 ∧ out.traceContext.parentId = 0) ∧
    ¬ Complete lightStepPropagator false twoTraceIds.headers
      (lightStepPropagator.extractSpanContext twoTraceIds false .new) := by
  refine ⟨⟨_, rfl, rfl, rfl⟩, fun h => ?_⟩
  obtain ⟨-, header, hmem, hkey, -⟩ := h
  revert header
  decide

/-- One header of each key. -/
theorem complete_iff_one_of_each :
    Complete b3Propagator true [(ascii "X-B3-SpanId", ascii "b"), (ascii "X-B3-TraceId", ascii "a")]
      (b3Propagator.extractSpanContext ⟨[(ascii "X-B3-SpanId", ascii "b"), (ascii "X-B3-TraceId", ascii "a")],
        fun _ => .error .lookupKeyNotSupported⟩ true .new) := by
  refine (complete_iff (by decide) ⟨_, fun _ => .error .lookupKeyNotSupported⟩ .new).mpr ?_
  rintro ⟨-, htwice⟩
  revert htwice
  decide

/-- Neither of the propagators has one name for both. -/
example (caseSensitive : Bool) : keyCompare caseSensitive lightStepPropagator.traceIdKey lightStepPropagator.spanIdKey =
    false ∧ keyCompare caseSensitive b3Propagator.traceIdKey b3Propagator.spanIdKey = false := by
  cases caseSensitive <;> decide

end Lightstep.Tracer.MultiheaderPropagator

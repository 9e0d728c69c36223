import Lightstep.Common.CircularBuffer.Sequential
import Lightstep.Common.FragmentInputStream
import Lightstep.Recorder.Metrics

/-! The stream of the spans in the circular buffer.

A stream is allotted the spans the buffer holds. Consuming bytes of it removes the
spans that are begun, reports those that are finished as sent, and parks the one
that is cut as the remnant. After that nothing is allotted any more. -/
namespace Lightstep.Recorder
open Library Common FragmentInputStream LawfulFragmentInputStream SeekableFragmentInputStream

structure SpanStream (S : Type) where
  spanBuffer : CircularBuffer S
  metrics : MetricsTracker
  allotment : CircularBufferRange
  remnant : Option S

/-- The locals of `Seek` that its first pass counts in. -/
structure SpanCount where
  fragmentIndex : Nat
  spanCount : Nat
  fullSpanCount : Nat
  deriving DecidableEq

namespace SpanStream
variable {S : Type}

def new (spanBuffer : CircularBuffer S) (metrics : MetricsTracker) : SpanStream S :=
  ⟨spanBuffer, metrics, .none, none⟩

def allot (s : SpanStream S) : SpanStream S := {s with allotment := s.spanBuffer.peek}

def consumeRemnant (s : SpanStream S) : Option S × SpanStream S := (s.remnant, {s with remnant := none})

/-- The spans of the allotment. None of its slots is null. -/
def allotted (s : SpanStream S) : List S := s.allotment.slots.filterMap s.spanBuffer.data

variable [FragmentInputStream S]

/-- The first pass of `Seek`, which counts the spans to consume and those of them to report. -/
def countSpan (position : Nat) (c : SpanCount) (span : S) : SpanCount × Bool :=
  if numFragments span ≤ c.fragmentIndex then
    ({c with fragmentIndex := c.fragmentIndex - numFragments span, spanCount := c.spanCount + 1}, true)
  else if c.fragmentIndex = 0 ∧ position = 0 then ({c with fullSpanCount := c.spanCount}, false)
  else ({c with fullSpanCount := c.spanCount, spanCount := c.spanCount + 1}, false)

/-- The second pass of `Seek`, which resets the pointers of the spans to consume and swaps that of
the cut one with the remnant. -/
def seekSpan (position : Nat) (st : Nat × Option S) (span : AtomicUniquePtr S) :
    (Nat × Option S) × AtomicUniquePtr S :=
  match span with
  | none => (st, none)
  | some span =>
    if numFragments span ≤ st.1 then ((st.1 - numFragments span, st.2), none)
    else
      let (self, remnant) := AtomicUniquePtr.swap (some (seek span st.1 position)) st.2
      ((st.1, remnant), self)

instance : FragmentInputStream (SpanStream S) where
  numFragments s := (s.allotted.map numFragments).sum
  forEachFragment s callback st := iterate (fun st span => forEachFragment span callback st) st s.allotted
  clear s :=
    {s with remnant := none
            metrics := s.metrics.onSpansSent s.allotment.size
            spanBuffer := s.spanBuffer.consume s.allotment.size
            allotment := .none}
  seek s fragmentIndex position :=
    let count := (iterate (countSpan position) ⟨fragmentIndex, 0, 0⟩ s.allotted).1
    let ((_, remnant), spanBuffer) :=
      s.spanBuffer.consumeWith count.spanCount (seekSpan position) (fragmentIndex, none)
    {s with remnant := remnant
            spanBuffer := spanBuffer
            metrics := s.metrics.onSpansSent count.fullSpanCount
            allotment := .none}

/-! ### Seeking -/

variable [SeekableFragmentInputStream S]

/-- A span of the buffer: it has bytes, and they begin in its first fragment. -/
structure Framed (span : S) : Prop where
  valid : Valid span
  first : ∃ fragment rest, fragments span = fragment :: rest ∧ fragment ≠ []

theorem Framed.bytes_ne_nil {span : S} (h : Framed span) : bytes span ≠ [] := by
  obtain ⟨fragment, rest, hfragments, hne⟩ := h.first
  rw [bytes, hfragments, List.flatten_cons]
  exact List.append_ne_nil_of_left_ne_nil hne _

/-- A position falls at the start of the first fragment only at the start of the span. -/
theorem Framed.locate_eq_zero {span : S} (h : Framed span) (p : Nat) :
    (locate (fragments span) p).1 = 0 ∧ (locate (fragments span) p).2 = 0 ↔ p = 0 := by
  obtain ⟨fragment, rest, hfragments, hne⟩ := h.first
  have hpos : 0 < fragment.length := List.length_pos_iff.mpr hne
  rw [hfragments, locate]
  by_cases hp : p < fragment.length
  · rw [if_pos hp]
    simp
  · rw [if_neg hp]
    simp only [Nat.add_one_ne_zero, false_and, false_iff]
    omega

/-- The number of fragments of some spans. -/
def fragmentCount (spans : List S) : Nat := (spans.flatMap fragments).length

theorem fragmentCount_cons (span : S) (rest : List S) :
    fragmentCount (span :: rest) = (fragments span).length + fragmentCount rest := by
  rw [fragmentCount, List.flatMap_cons, List.length_append]
  rfl

theorem iterate_countSpan {full : List S} {cut : S} (hfull : ∀ span ∈ full, Valid span) (hcut : Valid cut)
    (rest : List S) {i : Nat} (hi : i < (fragments cut).length) (position count : Nat) (reported : Nat) :
    (iterate (countSpan position) ⟨fragmentCount full + i, count, reported⟩ (full ++ cut :: rest)).1 =
      ⟨i, count + full.length + (if i = 0 ∧ position = 0 then 0 else 1), count + full.length⟩ := by
  induction full generalizing count with
  | nil =>
    have hlt : ¬ numFragments cut ≤ i := by
      rw [numFragments_eq hcut]
      omega
    have hzero : fragmentCount ([] : List S) + i = i := Nat.zero_add i
    rw [hzero, List.nil_append]
    by_cases hb : i = 0 ∧ position = 0
    · have hstep : countSpan position ⟨i, count, reported⟩ cut = (⟨i, count, count⟩, false) := by
        rw [countSpan, if_neg hlt, if_pos hb]
      rw [iterate_cons_false hstep, if_pos hb]
      rfl
    · have hstep : countSpan position ⟨i, count, reported⟩ cut = (⟨i, count + 1, count⟩, false) := by
        rw [countSpan, if_neg hlt, if_neg hb]
      rw [iterate_cons_false hstep, if_neg hb]
      rfl
  | cons span full ih =>
    have hle : numFragments span ≤ fragmentCount (span :: full) + i := by
      rw [fragmentCount_cons, numFragments_eq (hfull span (List.mem_cons_self ..))]
      omega
    have hstep : countSpan position ⟨fragmentCount (span :: full) + i, count, reported⟩ span =
        (⟨fragmentCount full + i, count + 1, reported⟩, true) := by
      have hsub : fragmentCount (span :: full) + i - numFragments span = fragmentCount full + i := by
        rw [fragmentCount_cons, numFragments_eq (hfull span (List.mem_cons_self ..))]
        omega
      simp only [countSpan, if_pos hle, hsub]
    rw [List.cons_append, iterate_cons_true hstep, ih (fun s hs => hfull s (List.mem_cons_of_mem span hs))]
    congr 1 <;> rw [List.length_cons] <;> omega

theorem visit_seekSpan_full {full : List S} (hfull : ∀ span ∈ full, Valid span) (i position : Nat) :
    CircularBuffer.visit (seekSpan position) (fragmentCount full + i, none) full =
      ((i, none), full.map fun _ => none) := by
  induction full with
  | nil =>
    have hzero : fragmentCount ([] : List S) + i = i := Nat.zero_add i
    rw [hzero]
    rfl
  | cons span full ih =>
    have hle : numFragments span ≤ fragmentCount (span :: full) + i := by
      rw [fragmentCount_cons, numFragments_eq (hfull span (List.mem_cons_self ..))]
      omega
    have hsub : fragmentCount (span :: full) + i - numFragments span = fragmentCount full + i := by
      rw [fragmentCount_cons, numFragments_eq (hfull span (List.mem_cons_self ..))]
      omega
    simp only [CircularBuffer.visit, seekSpan, if_pos hle, hsub,
      ih fun s hs => hfull s (List.mem_cons_of_mem span hs), List.map_cons]

theorem visit_seekSpan_cut {full : List S} {cut : S} (hfull : ∀ span ∈ full, Valid span) (hcut : Valid cut)
    {i : Nat} (hi : i < (fragments cut).length) (position : Nat) :
    CircularBuffer.visit (seekSpan position) (fragmentCount full + i, none) (full ++ [cut]) =
      ((i, some (seek cut i position)), (full.map fun _ => none) ++ [none]) := by
  have hlt : ¬ numFragments cut ≤ i := by
    rw [numFragments_eq hcut]
    omega
  rw [CircularBuffer.visit_append, visit_seekSpan_full hfull]
  simp only [CircularBuffer.visit, seekSpan, if_neg hlt, AtomicUniquePtr.swap]

/-! ### Consuming -/

/-- What the stream relies on between two flushes, whatever is in `remnant_`. -/
structure Ready (s : SpanStream S) : Prop where
  wellFormed : s.spanBuffer.WellFormed
  framed : ∀ span ∈ s.spanBuffer.contents, Framed span

/-- The bytes of the spans in the buffer. -/
def contentBytes (s : SpanStream S) : List UInt8 := (s.spanBuffer.contents.map bytes).flatten

/-- The first `count` spans of the buffer are allotted. More may have been added since. -/
structure AllottedFirst (s : SpanStream S) (count : Nat) : Prop where
  ready : s.Ready
  count_le : count ≤ s.spanBuffer.size
  slots : s.allotment.slots = window s.spanBuffer.capacity s.spanBuffer.tail count

theorem AllottedFirst.allotted_eq {s : SpanStream S} {count : Nat} (h : s.AllottedFirst count) :
    s.allotted = s.spanBuffer.contents.take count := by
  have hmap := congrArg (List.take count) h.ready.wellFormed.map_data
  rw [← List.map_take, take_window _ _ _ _ h.count_le, ← List.map_take] at hmap
  have hfilter := congrArg (List.filterMap id) hmap
  rw [List.filterMap_map, List.filterMap_map] at hfilter
  rw [allotted, h.slots]
  simpa using hfilter

theorem Ready.allottedFirst_allot {s : SpanStream S} (h : s.Ready) : s.allot.AllottedFirst s.spanBuffer.size where
  ready := ⟨h.wellFormed, h.framed⟩
  count_le := Nat.le_refl _
  slots := h.wellFormed.slots_peek

theorem Ready.allotted_allot {s : SpanStream S} (h : s.Ready) : s.allot.allotted = s.spanBuffer.contents := by
  rw [h.allottedFirst_allot.allotted_eq, ← h.wellFormed.length_contents]
  exact List.take_length

theorem flatMap_fragments_flatten (spans : List S) :
    (spans.flatMap fragments).flatten = (spans.map bytes).flatten := by
  rw [← allBytes_eq, allBytes, List.flatMap_def]

/-- The stream after its allotment has been consumed up to a position of the span that comes after
`full` others. -/
def cutAt (s : SpanStream S) (full position : Nat) : SpanStream S :=
  { spanBuffer := s.spanBuffer.consume (full + if position = 0 then 0 else 1)
    metrics := s.metrics.onSpansSent full
    allotment := .none
    remnant := if position = 0 then none else (s.spanBuffer.contents[full]?).map (seekTo · position) }

/-- The fragment of a position in the allotment is that of a position in its span. -/
theorem locate_fragments {full rest : List S} {cut : S} {p : Nat} (hp : p < (bytes cut).length) :
    locate ((full ++ cut :: rest).flatMap fragments) ((full.map bytes).flatten.length + p) =
      (fragmentCount full + (locate (fragments cut) p).1, (locate (fragments cut) p).2) := by
  have hle : (full.flatMap fragments).flatten.length ≤ (full.map bytes).flatten.length + p := by
    rw [flatMap_fragments_flatten]
    exact Nat.le_add_right _ _
  have hsub : (full.map bytes).flatten.length + p - (full.flatMap fragments).flatten.length = p := by
    rw [flatMap_fragments_flatten, Nat.add_sub_cancel_left]
  rw [List.flatMap_append, List.flatMap_cons, locate_append_of_le hle, hsub, locate_append_of_lt hp]
  rfl

/-- Seeking consumes the spans that are begun and parks the one that is cut. -/
theorem AllottedFirst.seek_eq {s : SpanStream S} {count : Nat} (h : s.AllottedFirst count) {full rest : List S}
    {cut : S} {p : Nat} (hsplit : s.allotted = full ++ cut :: rest) (hp : p < (bytes cut).length) :
    seek s (fragmentCount full + (locate (fragments cut) p).1) (locate (fragments cut) p).2 =
      s.cutAt full.length p := by
  have hcontents : s.spanBuffer.contents = full ++ cut :: (rest ++ s.spanBuffer.contents.drop count) := by
    rw [← List.cons_append, ← List.append_assoc, ← hsplit, h.allotted_eq, List.take_append_drop]
  have hframed : ∀ span ∈ full ++ cut :: rest, Framed span := fun span hs => by
    refine h.ready.framed span (List.mem_of_mem_take (i := count) ?_)
    rw [← h.allotted_eq, hsplit]
    exact hs
  have hfull : ∀ span ∈ full, Valid span := fun span hs => (hframed span (List.mem_append_left _ hs)).valid
  have hcut := hframed cut (by simp)
  obtain ⟨before, fragment, after, hfragments, -, hindex, -⟩ := locate_split (fragments cut) p hp
  have hi : (locate (fragments cut) p).1 < (fragments cut).length := by
    rw [hindex, hfragments, List.length_append, List.length_cons]
    omega
  have hlen := h.ready.wellFormed.length_contents
  rw [hcontents, List.length_append, List.length_cons] at hlen
  have hget : s.spanBuffer.contents[full.length]? = some cut := by
    rw [hcontents, List.getElem?_append_right (Nat.le_refl _), Nat.sub_self]
    rfl
  simp only [seek, hsplit, iterate_countSpan hfull hcut.valid rest hi, Nat.zero_add, hcut.locate_eq_zero p]
  by_cases hzero : p = 0
  · have htake : s.spanBuffer.contents.take full.length = full := by rw [hcontents, List.take_left]
    have hvisit := visit_seekSpan_full hfull (locate (fragments cut) p).1 (locate (fragments cut) p).2
    have hconsume := h.ready.wellFormed.consumeWith (n := full.length) (by omega)
      (seekSpan (locate (fragments cut) p).2) (fragmentCount full + (locate (fragments cut) p).1, none)
      (by rw [htake, hvisit]; simp)
    rw [htake, hvisit] at hconsume
    simp only [if_pos hzero, Nat.add_zero, hconsume, cutAt]
  · have htake : s.spanBuffer.contents.take (full.length + 1) = full ++ [cut] := by
      rw [hcontents, List.take_append, List.take_of_length_le (Nat.le_succ _), Nat.add_sub_cancel_left]
      rfl
    have hvisit := visit_seekSpan_cut hfull hcut.valid hi (locate (fragments cut) p).2
    have hconsume := h.ready.wellFormed.consumeWith (n := full.length + 1) (by omega)
      (seekSpan (locate (fragments cut) p).2) (fragmentCount full + (locate (fragments cut) p).1, none)
      (by rw [htake, hvisit]; simp [or_imp])
    rw [htake, hvisit] at hconsume
    simp only [if_neg hzero, hconsume, cutAt, hget, Option.map_some, seekTo]

theorem AllottedFirst.clear_eq {s : SpanStream S} {count : Nat} (h : s.AllottedFirst count) :
    clear s = s.cutAt count 0 := by
  have hsize : s.allotment.size = count := by
    rw [← CircularBufferRange.length_slots, h.slots, length_window]
  simp only [clear, cutAt, if_true, Nat.add_zero, hsize]

/-- A stream that has been allotted what the buffer holds. -/
structure Allotted (s : SpanStream S) : Prop where
  ready : s.Ready
  allotment : s.allotment = s.spanBuffer.peek
  remnant : s.remnant = none

theorem Allotted.allot_eq {s : SpanStream S} (h : s.Allotted) : s.allot = s := by
  rw [allot, ← h.allotment]

theorem Ready.valid_allotted {s : SpanStream S} (h : s.Ready) : ∀ span ∈ s.allot.allotted, Valid span := by
  rw [h.allotted_allot]
  exact fun span hs => (h.framed span hs).valid

instance : LawfulFragmentInputStream (SpanStream S) where
  Valid := Allotted
  fragments s := s.allotted.flatMap fragments
  numFragments_eq {s} h := by
    have hvalid := h.ready.valid_allotted
    rw [h.allot_eq] at hvalid
    exact sum_numFragments hvalid
  forEachFragment_eq {_ s} f st h := by
    have hvalid := h.ready.valid_allotted
    rw [h.allot_eq] at hvalid
    exact iterate_forEachFragment hvalid f st

theorem Ready.bytes_allot {s : SpanStream S} (h : s.Ready) : bytes s.allot = s.contentBytes := by
  show (s.allot.allotted.flatMap fragments).flatten = _
  rw [h.allotted_allot, contentBytes, flatMap_fragments_flatten]

/-- The allotment is visited whatever is in `remnant_`. -/
theorem Ready.forEachFragment_allot {s : SpanStream S} (h : s.Ready) {σ : Type}
    (f : σ → Fragment → σ × Bool) (st : σ) :
    forEachFragment s.allot f st = iterate f st (fragments s.allot) :=
  iterate_forEachFragment h.valid_allotted f st

/-- **Consuming bytes of the allotment** cuts it where the bytes end. -/
theorem AllottedFirst.advance_eq {s : SpanStream S} {count : Nat} (h : s.AllottedFirst count) {n : Nat}
    (hn : n ≤ (s.allotted.map bytes).flatten.length) :
    advance s n = s.cutAt (locate (s.allotted.map bytes) n).1 (locate (s.allotted.map bytes) n).2 := by
  have hbytes : bytes s = (s.allotted.map bytes).flatten := flatMap_fragments_flatten s.allotted
  unfold advance
  rw [hbytes]
  by_cases hlt : n < (s.allotted.map bytes).flatten.length
  · rw [if_pos hlt]
    obtain ⟨before, block, after, hmap, hat, hindex, hp⟩ := locate_split _ n hlt
    obtain ⟨full, tail, hallotted, rfl, htail⟩ := List.map_eq_append_iff.mp hmap
    obtain ⟨cut, rest, rfl, rfl, rfl⟩ := List.map_eq_cons_iff.mp htail
    have hfragments : fragments s = (full ++ cut :: rest).flatMap fragments := congrArg (List.flatMap fragments) hallotted
    rw [hindex, List.length_map]
    generalize (locate (s.allotted.map bytes) n).2 = p at hat hp ⊢
    have hseek := h.seek_eq hallotted hp
    rw [seekTo, hfragments, hat, locate_fragments hp, hseek]
  · have hlength : s.allotted.length = count := by
      rw [h.allotted_eq, List.length_take, h.ready.wellFormed.length_contents, Nat.min_eq_left h.count_le]
    rw [if_neg hlt, locate_of_le (Nat.le_of_not_lt hlt), List.length_map,
      show n - (s.allotted.map bytes).flatten.length = 0 by omega, hlength]
    exact h.clear_eq

theorem advance_allot {s : SpanStream S} (h : s.Ready) {n : Nat} (hn : n ≤ s.contentBytes.length) :
    advance s.allot n =
      s.cutAt (locate (s.spanBuffer.contents.map bytes) n).1 (locate (s.spanBuffer.contents.map bytes) n).2 := by
  have hadvance := h.allottedFirst_allot.advance_eq (n := n) (by rw [h.allotted_allot]; exact hn)
  rw [h.allotted_allot] at hadvance
  exact hadvance

/-- The bytes of what may be a span. -/
def remnantBytes (remnant : Option S) : List UInt8 := remnant.elim [] bytes

/-- A parked or claimed remnant: bytes of a span are left, and some are gone. -/
structure RemnantOf (remnant span : S) (position : Nat) : Prop where
  valid : Valid remnant
  not_empty : empty remnant = false
  bytes_eq : bytes remnant = (bytes span).drop position
  bytes_ne_nil : bytes remnant ≠ []

theorem remnantOf_seekTo {span : S} (h : Valid span) {p : Nat} (hp : p < (bytes span).length) :
    RemnantOf (seekTo span p) span p := by
  have hadvance : advance span p = seekTo span p := if_pos hp
  have hbytes := bytes_advance h p
  rw [hadvance] at hbytes
  refine ⟨hadvance ▸ valid_advance h p, ?_, hbytes, ?_⟩
  · rw [← hadvance, empty_advance h, decide_eq_false (Nat.not_le_of_lt hp)]
  · rw [hbytes]
    intro hnil
    have := congrArg List.length hnil
    rw [List.length_drop, List.length_nil] at this
    omega

/-- Where `n` bytes of the buffer's spans end: after `finished` spans, or in the one after them. -/
inductive Cut (spans : List S) (n : Nat) : Nat → Nat → Prop where
  | boundary (full : Nat) (hfull : full ≤ spans.length)
      (hn : n = ((spans.take full).map bytes).flatten.length) : Cut spans n full 0
  | inside (full position : Nat) (span : S) (hspan : spans[full]? = some span) (hpos : 0 < position)
      (hlt : position < (bytes span).length)
      (hn : n = ((spans.take full).map bytes).flatten.length + position) : Cut spans n full position

theorem cut_locate (spans : List S) {n : Nat} (hn : n ≤ (spans.map bytes).flatten.length) :
    Cut spans n (locate (spans.map bytes) n).1 (locate (spans.map bytes) n).2 := by
  by_cases hlt : n < (spans.map bytes).flatten.length
  · obtain ⟨before, block, after, hmap, hat, hindex, hp⟩ := locate_split _ n hlt
    obtain ⟨full, tail, hspans, rfl, htail⟩ := List.map_eq_append_iff.mp hmap
    obtain ⟨span, rest, rfl, rfl, rfl⟩ := List.map_eq_cons_iff.mp htail
    rw [hindex, List.length_map]
    have htake : spans.take full.length = full := by rw [hspans, List.take_left]
    have hget : spans[full.length]? = some span := by
      rw [hspans, List.getElem?_append_right (Nat.le_refl _), Nat.sub_self]
      rfl
    by_cases hzero : (locate (spans.map bytes) n).2 = 0
    · rw [hzero] at hat ⊢
      refine .boundary _ ?_ (by rw [htake]; exact hat)
      rw [hspans, List.length_append]
      exact Nat.le_add_right _ _
    · exact .inside _ _ span hget (Nat.pos_of_ne_zero hzero) hp (by rw [htake]; exact hat)
  · rw [locate_of_le (Nat.le_of_not_lt hlt), List.length_map,
      show n - (spans.map bytes).flatten.length = 0 by omega]
    exact .boundary _ (Nat.le_refl _) (by rw [List.take_length]; omega)

/-- The number of spans a cut takes from the buffer. -/
def begun (full position : Nat) : Nat := full + if position = 0 then 0 else 1

theorem begun_zero (full : Nat) : begun full 0 = full := rfl

theorem begun_pos {position : Nat} (full : Nat) (h : 0 < position) : begun full position = full + 1 := by
  rw [begun, if_neg (Nat.ne_of_gt h)]

theorem Cut.begun_le {spans : List S} {n full position : Nat} (h : Cut spans n full position) :
    begun full position ≤ spans.length := by
  cases h with
  | boundary hfull _ =>
    rw [begun_zero]
    exact hfull
  | inside _ span hspan hpos _ _ =>
    rw [begun_pos full hpos]
    exact (List.getElem?_eq_some_iff.mp hspan).1

/-- The bytes taken and those of the remnant are the bytes of the spans begun. -/
theorem Cut.bytes_eq {spans : List S} {n full position : Nat} (hvalid : ∀ span ∈ spans, Valid span)
    (h : Cut spans n full position) :
    (spans.map bytes).flatten.take n ++
        remnantBytes (if position = 0 then none else (spans[full]?).map (seekTo · position)) =
      ((spans.take (begun full position)).map bytes).flatten := by
  have hsplit : spans = spans.take full ++ spans.drop full := (List.take_append_drop full spans).symm
  cases h with
  | boundary hfull hn =>
    have hbytes : (spans.map bytes).flatten =
        ((spans.take full).map bytes).flatten ++ ((spans.drop full).map bytes).flatten := by
      rw [← List.flatten_append, ← List.map_append, ← hsplit]
    rw [if_pos rfl, begun_zero, hbytes, hn, List.take_left]
    exact List.append_nil _
  | inside _ span hspan hpos hlt hn =>
    have hdrop : spans.drop full = span :: spans.drop (full + 1) := by
      obtain ⟨hlen, hget⟩ := List.getElem?_eq_some_iff.mp hspan
      rw [List.drop_eq_getElem_cons hlen, hget]
    have htake : spans.take (full + 1) = spans.take full ++ [span] := by
      rw [List.take_add_one, hspan]
      rfl
    have hmem : span ∈ spans := List.mem_of_getElem? hspan
    have hremnant := remnantOf_seekTo (hvalid span hmem) hlt
    have hbytes : (spans.map bytes).flatten =
        ((spans.take full).map bytes).flatten ++ (bytes span ++ ((spans.drop (full + 1)).map bytes).flatten) := by
      rw [← List.flatten_cons, ← List.map_cons, ← hdrop, ← List.flatten_append, ← List.map_append, ← hsplit]
    rw [if_neg (Nat.ne_of_gt hpos), begun_pos full hpos, hspan, hbytes, hn, List.take_length_add_append,
      List.take_append_of_le_length (Nat.le_of_lt hlt), htake, List.map_append, List.flatten_append]
    show _ ++ bytes (seekTo span position) = _
    rw [hremnant.bytes_eq, List.append_assoc, List.take_append_drop]
    simp

/-! ### As one of the streams of a writer -/

/-- The bytes of the remnant and of the buffer's spans after it. -/
def remaining (s : SpanStream S) : List UInt8 := remnantBytes s.remnant ++ s.contentBytes

theorem remaining_cutAt {s : SpanStream S} (h : s.Ready) {n full position : Nat}
    (hcut : Cut s.spanBuffer.contents n full position) :
    (s.cutAt full position).remaining = s.contentBytes.drop n := by
  have hvalid : ∀ span ∈ s.spanBuffer.contents, Valid span := fun span hs => (h.framed span hs).valid
  have hsize : begun full position ≤ s.spanBuffer.size := by
    rw [← h.wellFormed.length_contents]
    exact hcut.begun_le
  have hcontents := (h.wellFormed.consume hsize).2.1
  have hbytes := hcut.bytes_eq hvalid
  have hrest : (s.cutAt full position).contentBytes =
      ((s.spanBuffer.contents.drop (begun full position)).map bytes).flatten := by
    show ((s.spanBuffer.consume (begun full position)).contents.map bytes).flatten = _
    rw [hcontents]
  have hsplit : s.contentBytes.take n ++ (s.cutAt full position).remaining = s.contentBytes := by
    rw [remaining, hrest, ← List.append_assoc]
    show s.contentBytes.take n ++ remnantBytes (if position = 0 then none
      else (s.spanBuffer.contents[full]?).map (seekTo · position)) ++ _ = _
    rw [contentBytes, hbytes, ← List.flatten_append, ← List.map_append, List.take_append_drop]
  exact List.append_cancel_left (hsplit.trans (List.take_append_drop n s.contentBytes).symm)

theorem remaining_allot_advance {s : SpanStream S} (h : s.Ready) {n : Nat} (hn : n ≤ s.contentBytes.length) :
    (advance s.allot n).remaining = s.contentBytes.drop n := by
  rw [advance_allot h hn]
  exact remaining_cutAt h (cut_locate _ hn)

theorem remaining_eq_flatten {s : SpanStream S} (h : Valid s) : s.remaining = (fragments s).flatten := by
  have hbytes := h.ready.bytes_allot
  rw [h.allot_eq] at hbytes
  show remnantBytes s.remnant ++ s.contentBytes = bytes s
  rw [h.remnant, hbytes]
  rfl

theorem remaining_of_clear {s : SpanStream S} (h : Valid s) : (clear s).remaining = [] := by
  have hclear := remaining_allot_advance h.ready (Nat.le_refl _)
  rw [advance, h.ready.bytes_allot, if_neg (Nat.lt_irrefl _), h.allot_eq, List.drop_length] at hclear
  exact hclear

theorem remaining_of_seek {s : SpanStream S} {before after : List Fragment} {fragment : Fragment} {position : Nat}
    (h : Valid s) (hsplit : fragments s = before ++ fragment :: after) (hlt : position < fragment.length) :
    (seek s before.length position).remaining = fragment.drop position ++ after.flatten := by
  have hbytes := h.ready.bytes_allot
  rw [h.allot_eq] at hbytes
  have hflatten : s.contentBytes = (before ++ fragment :: after).flatten := by
    rw [← hbytes, bytes, hsplit]
  have hn : before.flatten.length + position < s.contentBytes.length := by
    rw [hflatten, List.flatten_append, List.flatten_cons, List.length_append, List.length_append]
    omega
  have hseek := remaining_allot_advance h.ready (Nat.le_of_lt hn)
  rw [advance, h.ready.bytes_allot, if_pos hn, h.allot_eq, seekTo, hsplit, locate_at hlt] at hseek
  rw [hseek, hflatten, drop_flatten_of_split before after fragment position (Nat.le_of_lt hlt),
    List.flatten_cons]

instance : ConsumableFragmentInputStream (SpanStream S) where
  remaining := remaining
  remaining_eq := remaining_eq_flatten
  remaining_clear := remaining_of_clear
  remaining_seek := remaining_of_seek

end SpanStream
end Lightstep.Recorder

import Mathlib.Algebra.Order.Ring.Nat
import Mathlib.Algebra.Ring.Int.Defs
import Lightstep.Common.StreamWriter
import Lightstep.Recorder.SpanStream

/-! Consuming a part of what has been allotted.

Where the bytes end decides which spans leave the buffer, which are reported as sent and what is left
of the one they end in. -/
namespace Lightstep.Recorder.SpanStream
open Library Common FragmentInputStream LawfulFragmentInputStream SeekableFragmentInputStream

/-! ### Where the spans are -/

section
variable {S : Type} [FragmentInputStream S]

/-- Where a span begins among the bytes that the spans pass to a callback. -/
def offset (spans : List S) (j : Nat) : Nat := ((spans.take j).map fun span => (visited span).flatten.length).sum

/-- The number of spans that begin before a byte. -/
def countBegun (spans : List S) (n : Nat) : Nat := (List.range spans.length).countP fun j => offset spans j < n

/-- The number of spans that end at or before a byte. -/
def countEnded (spans : List S) (n : Nat) : Nat := (List.range spans.length).countP fun j => offset spans (j + 1) ≤ n

theorem offset_succ {spans : List S} {j : Nat} {span : S} (h : spans[j]? = some span) :
    offset spans (j + 1) = offset spans j + (visited span).flatten.length := by
  rw [offset, List.take_add_one, h, List.map_append, List.sum_append]
  simp [offset]

variable [SeekableFragmentInputStream S]

theorem offset_eq {spans : List S} (h : ∀ span ∈ spans, Valid span) (j : Nat) :
    offset spans j = ((spans.take j).map bytes).flatten.length := by
  have hmap : (spans.take j).map (fun span => (visited span).flatten.length) =
      (spans.take j).map fun span => (bytes span).length := by
    apply List.map_congr_left
    intro span hspan
    rw [visited_eq (h span (List.mem_of_mem_take hspan))]
    rfl
  rw [offset, hmap, List.length_flatten, List.map_map]
  rfl

theorem offset_lt_succ {spans : List S} (h : ∀ span ∈ spans, Framed span) {j : Nat} (hj : j < spans.length) :
    offset spans j < offset spans (j + 1) := by
  have hspan := h spans[j] (List.getElem_mem hj)
  have hpos := List.length_pos_iff.mpr hspan.bytes_ne_nil
  rw [offset_succ (List.getElem?_eq_getElem hj), visited_eq hspan.valid]
  exact Nat.lt_add_of_pos_right hpos

theorem offset_lt {spans : List S} (h : ∀ span ∈ spans, Framed span) {i j : Nat} (hij : i < j)
    (hj : j ≤ spans.length) : offset spans i < offset spans j := by
  induction j with
  | zero => exact absurd hij (Nat.not_lt_zero i)
  | succ j ih =>
    have hstep := offset_lt_succ h hj
    rcases Nat.lt_succ_iff_lt_or_eq.mp hij with hlt | rfl
    · exact Nat.lt_trans (ih hlt (Nat.le_of_succ_le hj)) hstep
    · exact hstep

theorem offset_le {spans : List S} (h : ∀ span ∈ spans, Framed span) {i j : Nat} (hij : i ≤ j)
    (hj : j ≤ spans.length) : offset spans i ≤ offset spans j := by
  rcases Nat.eq_or_lt_of_le hij with rfl | hlt
  · exact Nat.le_refl _
  · exact Nat.le_of_lt (offset_lt h hlt hj)

theorem countP_range_of_lt_iff {p : Nat → Bool} {n k : Nat} (hk : k ≤ n) (h : ∀ j < n, p j = true ↔ j < k) :
    (List.range n).countP p = k := by
  induction n generalizing k with
  | zero => exact (Nat.le_zero.mp hk).symm
  | succ n ih =>
    have hlast := h n (Nat.lt_succ_self n)
    rw [List.range_succ, List.countP_append, List.countP_singleton]
    by_cases hn : n < k
    · have hn' : k = n + 1 := by omega
      rw [if_pos (hlast.mpr hn), hn', ih (Nat.le_refl n) fun j hj => (h j (by omega)).trans (by omega)]
    · have hp : ¬ p n = true := fun hp => hn (hlast.mp hp)
      rw [if_neg hp, ih (by omega) fun j hj => h j (by omega), Nat.add_zero]

/-- Only one span has a byte inside it. -/
theorem eq_of_offset_lt {spans : List S} (h : ∀ span ∈ spans, Framed span) {i j n : Nat} (hi : i < spans.length)
    (hj : j < spans.length) (hni : offset spans i ≤ n ∧ n < offset spans (i + 1))
    (hnj : offset spans j ≤ n ∧ n < offset spans (j + 1)) : i = j := by
  rcases Nat.lt_trichotomy i j with hlt | heq | hlt
  · have : offset spans (i + 1) ≤ offset spans j := offset_le h hlt (Nat.le_of_lt hj)
    omega
  · exact heq
  · have : offset spans (j + 1) ≤ offset spans i := offset_le h hlt (Nat.le_of_lt hi)
    omega

/-- A byte inside a span is not where one begins. -/
theorem offset_ne_of_inside {spans : List S} (h : ∀ span ∈ spans, Framed span) {i j n : Nat} (hi : i < spans.length)
    (hj : j ≤ spans.length) (hlt : offset spans i < n) (hgt : n < offset spans (i + 1)) : n ≠ offset spans j := by
  intro heq
  rcases Nat.lt_or_ge i j with hij | hij
  · have : offset spans (i + 1) ≤ offset spans j := offset_le h hij hj
    omega
  · have := offset_le h hij (Nat.le_of_lt hi)
    omega

/-- A cut takes the spans that begin before it, and finishes those that end by it. -/
theorem Cut.counts {spans : List S} (h : ∀ span ∈ spans, Framed span) {n full position : Nat}
    (hcut : Cut spans n full position) :
    countBegun spans n = begun full position ∧ countEnded spans n = full := by
  have hvalid : ∀ span ∈ spans, Valid span := fun span hs => (h span hs).valid
  have hle := hcut.begun_le
  cases hcut with
  | boundary hfull hn =>
    rw [← offset_eq hvalid] at hn
    refine ⟨countP_range_of_lt_iff hle fun j hj => ?_, countP_range_of_lt_iff hfull fun j hj => ?_⟩
    · rw [decide_eq_true_eq, hn, begun_zero]
      exact ⟨fun hlt => Nat.lt_of_not_le fun hle => absurd (offset_le h hle (Nat.le_of_lt hj)) (Nat.not_le_of_lt hlt),
        fun hlt => offset_lt h hlt hfull⟩
    · rw [decide_eq_true_eq, hn]
      exact ⟨fun hle =>
          Nat.lt_of_not_le fun hge => absurd (offset_lt h (Nat.lt_succ_of_le hge) hj) (Nat.not_lt_of_le hle),
        fun hlt => offset_le h hlt hfull⟩
  | inside _ span hspan hpos hlt hn =>
    rw [← offset_eq hvalid] at hn
    obtain ⟨hlen, hget⟩ := List.getElem?_eq_some_iff.mp hspan
    have hend : n < offset spans (full + 1) := by
      rw [offset_succ hspan, visited_eq (hvalid span (List.mem_of_getElem? hspan)), hn]
      exact Nat.add_lt_add_left hlt _
    rw [begun_pos full hpos] at hle ⊢
    refine ⟨countP_range_of_lt_iff hle fun j hj => ?_, countP_range_of_lt_iff (Nat.le_of_lt hlen) fun j hj => ?_⟩
    · rw [decide_eq_true_eq]
      constructor
      · intro hj'
        refine Nat.lt_of_not_le fun hge => ?_
        have := offset_le h hge (Nat.le_of_lt hj)
        omega
      · intro hj'
        have := offset_le h (Nat.le_of_lt_succ hj') (Nat.le_of_lt hlen)
        omega
    · rw [decide_eq_true_eq]
      constructor
      · intro hj'
        refine Nat.lt_of_not_le fun hge => ?_
        have : offset spans (full + 1) ≤ offset spans (j + 1) := offset_le h (Nat.succ_le_succ hge) hj
        omega
      · intro hj'
        have : offset spans (j + 1) ≤ offset spans full := offset_le h hj' (Nat.le_of_lt hlen)
        omega

end

/-! ### Consuming the allotment -/

/-- A stream after `Allot`. Producers may have added spans since. -/
inductive AfterAllot (s : SpanStream ChainedStream) : SpanStream ChainedStream → Prop where
  | allot : AfterAllot s s.allot
  | add {t : SpanStream ChainedStream} {span : ChainedStream} {spanBuffer : CircularBuffer ChainedStream}
      (h : AfterAllot s t) (hspan : StreamWriter.Recorded span) (hadd : t.spanBuffer.add span = some spanBuffer) :
      AfterAllot s {t with spanBuffer := spanBuffer}

/-- The spans of the allotment are split at a byte. -/
structure SplitAt (s after : SpanStream ChainedStream) (spans : List ChainedStream) (n : Nat) : Prop where
  contents : after.spanBuffer.contents = s.spanBuffer.contents.drop (countBegun spans n)
  metrics : after.metrics = s.metrics.onSpansSent (countEnded spans n)
  boundary : ∀ j ≤ spans.length, n = offset spans j → after.remnant = none
  inside : ∀ (j : Nat) (span : ChainedStream), spans[j]? = some span → offset spans j < n → n < offset spans (j + 1) →
    ∃ remnant, after.remnant = some remnant ∧ RestOf span remnant ∧
      (visited remnant).flatten = (visited span).flatten.drop (n - offset spans j)
  null : ∀ slot ∈ window s.spanBuffer.capacity s.spanBuffer.tail (countBegun spans n),
    after.spanBuffer.data slot = none
  total : n = offset spans spans.length →
    after.spanBuffer.contents = s.spanBuffer.contents.drop spans.length ∧ after.remnant = none

theorem framed_of_recorded {span : ChainedStream} (h : StreamWriter.Recorded span) : Framed span where
  valid := .inl h.live
  first := h.first

theorem AfterAllot.allottedFirst {s t : SpanStream ChainedStream} (h : AfterAllot s t) (hready : s.Ready) :
    t.AllottedFirst s.spanBuffer.size := by
  induction h with
  | allot => exact hready.allottedFirst_allot
  | @add t span spanBuffer _ hspan hadd ih =>
    obtain ⟨hwell, hcontents, htail, hhead, hcapacity⟩ := ih.ready.wellFormed.add hadd
    refine ⟨⟨hwell, ?_⟩, ?_, ?_⟩
    · intro span' hmem
      have hmem : span' ∈ spanBuffer.contents := hmem
      rw [hcontents] at hmem
      rcases List.mem_append.mp hmem with hmem | hmem
      · exact ih.ready.framed span' hmem
      · rw [List.mem_singleton.mp hmem]
        exact framed_of_recorded hspan
    · have hle := ih.count_le
      have hlength := hwell.length_contents
      rw [hcontents, List.length_append, ih.ready.wellFormed.length_contents] at hlength
      show s.spanBuffer.size ≤ spanBuffer.size
      omega
    · show t.allotment.slots = window spanBuffer.capacity spanBuffer.tail s.spanBuffer.size
      rw [hcapacity, htail]
      exact ih.slots

theorem AfterAllot.allotted_eq {s t : SpanStream ChainedStream} (h : AfterAllot s t) (hready : s.Ready) :
    t.allotted = s.spanBuffer.contents := by
  have hcount : s.spanBuffer.contents.length = s.spanBuffer.size := hready.wellFormed.length_contents
  suffices hcontents : ∃ added, t.spanBuffer.contents = s.spanBuffer.contents ++ added by
    obtain ⟨added, hcontents⟩ := hcontents
    rw [(h.allottedFirst hready).allotted_eq, hcontents, List.take_left' hcount]
  induction h with
  | allot => exact ⟨[], (List.append_nil _).symm⟩
  | add h _ hadd ih =>
    obtain ⟨added, hcontents⟩ := ih
    obtain ⟨-, hadd, -⟩ := (h.allottedFirst hready).ready.wellFormed.add hadd
    exact ⟨added ++ [_], by rw [hadd, hcontents, List.append_assoc]⟩

theorem splitAt_cutAt {s : SpanStream ChainedStream} {count : Nat} (h : s.AllottedFirst count) {n full position : Nat}
    (hcut : Cut s.allotted n full position) : SplitAt s (s.cutAt full position) s.allotted n := by
  have hlength : s.allotted.length = count := by
    rw [h.allotted_eq, List.length_take, h.ready.wellFormed.length_contents, Nat.min_eq_left h.count_le]
  have hframed : ∀ span ∈ s.allotted, Framed span := fun span hs => by
    rw [h.allotted_eq] at hs
    exact h.ready.framed span (List.mem_of_mem_take hs)
  have hvalid : ∀ span ∈ s.allotted, Valid span := fun span hs => (hframed span hs).valid
  obtain ⟨hbegun, hended⟩ := hcut.counts hframed
  have hle : begun full position ≤ s.spanBuffer.size := Nat.le_trans hcut.begun_le (hlength ▸ h.count_le)
  have hcontents : (s.cutAt full position).spanBuffer.contents = s.spanBuffer.contents.drop (begun full position) :=
    h.ready.wellFormed.consume_contents hle
  have hboundary : ∀ j ≤ s.allotted.length, n = offset s.allotted j → (s.cutAt full position).remnant = none := by
    intro j hj hn
    cases hcut with
    | boundary => rfl
    | inside _ span hspan hpos hlt hat =>
      obtain ⟨hlen, -⟩ := List.getElem?_eq_some_iff.mp hspan
      rw [← offset_eq hvalid] at hat
      refine absurd hn (offset_ne_of_inside hframed hlen hj (by omega) ?_)
      rw [offset_succ hspan, visited_eq (hvalid span (List.mem_of_getElem? hspan)), hat]
      exact Nat.add_lt_add_left hlt _
  refine ⟨?_, ?_, hboundary, ?_, ?_, ?_⟩
  · rw [hcontents, hbegun]
  · rw [hended]
    rfl
  · intro j span hspan hlt hgt
    obtain ⟨hj, -⟩ := List.getElem?_eq_some_iff.mp hspan
    cases hcut with
    | boundary hfull hat =>
      rw [← offset_eq hvalid] at hat
      exact absurd hat (offset_ne_of_inside hframed hj hfull hlt hgt)
    | inside _ span' hspan' hpos hlt' hat =>
      obtain ⟨hlen, -⟩ := List.getElem?_eq_some_iff.mp hspan'
      have hmem := List.mem_of_getElem? hspan'
      rw [← offset_eq hvalid] at hat
      have hend : n < offset s.allotted (full + 1) := by
        rw [offset_succ hspan', visited_eq (hvalid span' hmem), hat]
        exact Nat.add_lt_add_left hlt' _
      obtain rfl := eq_of_offset_lt hframed hlen hj ⟨by omega, hend⟩ ⟨Nat.le_of_lt hlt, hgt⟩
      obtain rfl := Option.some.inj (hspan'.symm.trans hspan)
      have hget : s.spanBuffer.contents[full]? = some span' := by
        rw [h.allotted_eq, List.getElem?_take_of_lt (hlength ▸ hlen)] at hspan'
        exact hspan'
      have hremnant := remnantOf_seekTo (hvalid span' hmem) hlt'
      refine ⟨seekTo span' position, ?_, .seek .whole _ _, ?_⟩
      · simp only [cutAt, if_neg (Nat.ne_of_gt hpos), hget, Option.map_some]
      · rw [visited_eq hremnant.valid, visited_eq (hvalid span' hmem), hat, Nat.add_sub_cancel_left]
        exact hremnant.bytes_eq
  · intro slot hslot
    rw [hbegun] at hslot
    exact (h.ready.wellFormed.consume_data hle slot).trans (if_pos hslot)
  · intro hn
    refine ⟨?_, hboundary _ (Nat.le_refl _) hn⟩
    have hall : countBegun s.allotted n = s.allotted.length := countP_range_of_lt_iff (Nat.le_refl _) fun j hj => by
      rw [decide_eq_true_eq, hn]
      exact ⟨fun _ => hj, fun _ => offset_lt hframed hj (Nat.le_refl _)⟩
    rw [hcontents, ← hbegun, hall]

/-- **Consuming a part of the allotment** splits it at the right byte. -/
theorem consume_splitAt {s t : SpanStream ChainedStream} (hwell : s.spanBuffer.WellFormed)
    (hspans : ∀ span ∈ s.spanBuffer.contents, StreamWriter.Recorded span) (hallot : AfterAllot s t) {n : Nat}
    (hn : n ≤ offset s.spanBuffer.contents s.spanBuffer.contents.length) :
    ∃ after, (consume [t] n).1 = [after] ∧ SplitAt t after s.spanBuffer.contents n := by
  have hready : s.Ready := ⟨hwell, fun span hs => framed_of_recorded (hspans span hs)⟩
  have hvalid : ∀ span ∈ s.spanBuffer.contents, Valid span := fun span hs => (hready.framed span hs).valid
  have hfirst := hallot.allottedFirst hready
  have hallotted := hallot.allotted_eq hready
  rw [offset_eq hvalid, List.take_length] at hn
  have hvisits : Visits t := fun st => iterate_forEachFragment (by rw [hallotted]; exact hvalid) _ st
  refine ⟨advance t n, ?_, ?_⟩
  · rw [consume_cons_of_forEach hvisits]
    split <;> rfl
  · rw [hfirst.advance_eq (by rw [hallotted]; exact hn), hallotted]
    have hcut := cut_locate s.spanBuffer.contents hn
    rw [← hallotted] at hcut ⊢
    exact splitAt_cutAt hfirst hcut

/-- Two spans of four bytes, on both sides of the end of the array, of which five bytes are consumed. -/
theorem consume_splitAt_wrapped : ∃ (s : SpanStream ChainedStream) (span : ChainedStream),
    s.spanBuffer.contents = [span, span] ∧ s.allot.allotment = ⟨2, 3, 0, 1⟩ ∧ visited span = [[7, 7, 7, 7]] ∧
      ∃ after, (consume [s.allot] 5).1 = [after] ∧ SplitAt s.allot after [span, span] 5 := by
  obtain ⟨span, hspan, hvisited⟩ := StreamWriter.exists_recorded
  have hempty : (⟨fun _ => none, 3, 5, 5⟩ : CircularBuffer ChainedStream).WellFormed := {
    tail_le := Nat.le_refl 5
    size_lt := by decide
    taken := fun i hi hlt => absurd hi (Nat.not_le_of_lt hlt)
    free := fun _ _ _ => rfl }
  obtain ⟨hone, hcontents₁, -⟩ := hempty.add (rfl : CircularBuffer.add _ span = some _)
  obtain ⟨htwo, hcontents₂, -⟩ := hone.add (rfl : CircularBuffer.add _ span = some _)
  have hbuffer : ∃ b : CircularBuffer ChainedStream, b.WellFormed ∧ b.contents = [span, span] ∧
      b.peek = ⟨2, 3, 0, 1⟩ := by
    refine ⟨_, htwo, ?_, by simp [CircularBuffer.peek, peekRange]⟩
    rw [hcontents₂, hcontents₁]
    simp [CircularBuffer.contents]
  obtain ⟨b, hwell, hcontents, hpeek⟩ := hbuffer
  have hspans : ∀ span' ∈ b.contents, StreamWriter.Recorded span' := by simp [hcontents, hspan]
  have hsplit := consume_splitAt (s := ⟨b, .new, .none, none⟩) hwell hspans .allot (n := 5)
    (by simp [hcontents, offset, hvisited])
  rw [hcontents] at hsplit
  exact ⟨⟨b, .new, .none, none⟩, span, hcontents, hpeek, hvisited, hsplit⟩

end Lightstep.Recorder.SpanStream

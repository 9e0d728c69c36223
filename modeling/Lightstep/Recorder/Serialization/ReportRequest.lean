import Lightstep.Common.BufferChain
import Lightstep.Common.StreamWriter
import Lightstep.Recorder.ManualRecorder

/-! The buffers of a report.

A report request is a header, the message with the dropped spans unless there are none, and a chain of
serialized spans. Its sizes and counts are of the type `int` and are kept up as spans are added. What it
hands to a transporter is read off the chain later. -/
namespace Lightstep.Recorder.Serialization
open Library Common BufferChain LawfulBufferChain
open FragmentInputStream (visited)
open LawfulFragmentInputStream (Valid bytes visited_eq)

/-- What an `int` holds of a number, where a conversion or a sum does not fit. -/
def toInt (n : Int) : Int := n.bmod (2 ^ 32)

/-- What a `size_t` holds of an `int`. -/
def toSize (n : Int) : Nat := (n % 2 ^ 64).toNat

structure ReportRequest where
  header : List UInt8
  metrics : Option EmbeddedMetricsMessage
  metricsFragment : Fragment
  numBytes : Int
  numSpans : Nat
  numFragments : Int
  spans : Option (ComposableFragmentInputStream ChainedStream)

namespace ReportRequest

def new (header : List UInt8) (numDroppedSpans : Int32) : ReportRequest :=
  let numBytes := toInt header.length
  if numDroppedSpans = 0 then
    { header := header, metrics := none, metricsFragment := [], numBytes := numBytes, numSpans := 0,
      numFragments := 0, spans := none }
  else
    let metrics := EmbeddedMetricsMessage.new.setNumDroppedSpans numDroppedSpans
    { header := header, metrics := some metrics, metricsFragment := metrics.makeFragment,
      numBytes := toInt (numBytes + metrics.makeFragment.length), numSpans := 0, numFragments := 0, spans := none }

/-- The callback of `AddSpan`, on the number of bytes. -/
def addFragment (numBytes : Int) (fragment : Fragment) : Int × Bool := (toInt (numBytes + fragment.length), true)

def addSpan (r : ReportRequest) (span : ChainedStream) : ReportRequest :=
  let chain : ComposableFragmentInputStream ChainedStream := ⟨[span]⟩
  {r with
    numSpans := r.numSpans + 1
    numFragments := toInt (r.numFragments + FragmentInputStream.numFragments chain)
    numBytes := (FragmentInputStream.forEachFragment chain addFragment r.numBytes).1
    spans := match r.spans with
      | none => some chain
      | some spans => some (spans.append chain)}

def numDroppedSpans (r : ReportRequest) : Int32 :=
  match r.metrics with
  | none => 0
  | some metrics => metrics.numDroppedSpans

instance : BufferChain ReportRequest where
  numFragments r := toSize r.numFragments
  numBytes r := toSize r.numBytes
  forEachFragment r callback st :=
    match callback st r.header with
    | (st, false) => (st, false)
    | (st, true) =>
      match r.metrics.elim (st, true) fun _ => callback st r.metricsFragment with
      | (st, false) => (st, false)
      | (st, true) =>
        match r.spans with
        | none => (st, true)
        | some spans => FragmentInputStream.forEachFragment spans callback st

/-- The request that spans have been added to. -/
def build (header : List UInt8) (numDroppedSpans : Int32) (spans : List ChainedStream) : ReportRequest :=
  spans.foldl addSpan (new header numDroppedSpans)

/-! ### What is delivered -/

def segments (r : ReportRequest) : List ChainedStream := r.spans.elim [] (·.segments)

/-- A chained stream calls its callback with the fragments it visits, whatever has been done to it. -/
theorem forEachFragment_visited (s : ChainedStream) {σ : Type} (f : σ → Fragment → σ × Bool) (st : σ) :
    FragmentInputStream.forEachFragment s f st = iterate f st (visited s) := by
  simp only [visited, FragmentInputStream.forEachFragment]
  split
  · rfl
  · rw [LawfulFragmentInputStream.iterate_collect, List.nil_append]

theorem forEachFragment_chain (spans : ComposableFragmentInputStream ChainedStream) {σ : Type}
    (f : σ → Fragment → σ × Bool) (st : σ) :
    FragmentInputStream.forEachFragment spans f st = iterate f st (spans.segments.flatMap visited) := by
  rw [← iterate_flatMap]
  apply congrArg fun g => iterate g st spans.segments
  funext st span
  exact forEachFragment_visited span f st

theorem forEachFragment_spans (r : ReportRequest) {σ : Type} (f : σ → Fragment → σ × Bool) (st : σ) :
    (match r.spans with
      | none => (st, true)
      | some spans => FragmentInputStream.forEachFragment spans f st) = iterate f st (r.segments.flatMap visited) := by
  unfold segments
  cases r.spans with
  | none => rfl
  | some spans => exact forEachFragment_chain spans f st

instance : LawfulBufferChain ReportRequest where
  fragments r := r.header :: ((r.metrics.elim [] fun _ => [r.metricsFragment]) ++ r.segments.flatMap visited)
  forEachFragment_eq r f st := by
    simp only [forEachFragment, forEachFragment_spans]
    rcases hheader : f st r.header with ⟨st', _ | _⟩
    · exact (iterate_cons_false hheader _).symm
    · rw [iterate_cons_true hheader]
      cases r.metrics with
      | none => rfl
      | some metrics =>
        simp only [Option.elim_some, List.singleton_append]
        rcases hmetrics : f st' r.metricsFragment with ⟨st'', _ | _⟩
        · exact (iterate_cons_false hmetrics _).symm
        · exact (iterate_cons_true hmetrics _).symm

/-! ### What is counted -/

theorem toInt_add_toInt (a b : Int) : toInt (toInt a + b) = toInt (a + b) := Int.bmod_add_bmod

theorem iterate_addFragment (fragments : List Fragment) (n : Int) :
    iterate addFragment (toInt n) fragments = (toInt (n + fragments.flatten.length), true) := by
  induction fragments generalizing n with
  | nil => simp [iterate]
  | cons fragment rest ih =>
    have hadded : addFragment (toInt n) fragment = (toInt (n + fragment.length), true) := by
      rw [addFragment, toInt_add_toInt]
    rw [iterate_cons_true hadded, ih, List.flatten_cons, List.length_append, Int.natCast_add, Int.add_assoc]

/-- The metrics message that is sent with a count of dropped spans. -/
def metricsFragments (numDroppedSpans : Int32) : List Fragment :=
  if numDroppedSpans = 0 then []
  else [(EmbeddedMetricsMessage.new.setNumDroppedSpans numDroppedSpans).makeFragment]

/-- A request of so many dropped spans and these spans. -/
structure Built (r : ReportRequest) (header : List UInt8) (numDroppedSpans : Int32) (spans : List ChainedStream) :
    Prop where
  segments : r.segments = spans
  fragments : LawfulBufferChain.fragments r = header :: (metricsFragments numDroppedSpans ++ spans.flatMap visited)
  numSpans : r.numSpans = spans.length
  numFragments : r.numFragments = toInt ((spans.map FragmentInputStream.numFragments).sum : Nat)
  numBytes : r.numBytes = toInt (LawfulBufferChain.fragments r).flatten.length

theorem built_new (header : List UInt8) (numDroppedSpans : Int32) :
    Built (new header numDroppedSpans) header numDroppedSpans [] := by
  unfold new
  split
  case isTrue h =>
    refine ⟨rfl, ?_, rfl, rfl, ?_⟩
    · simp [LawfulBufferChain.fragments, metricsFragments, h, ReportRequest.segments]
    · simp [LawfulBufferChain.fragments, ReportRequest.segments]
  case isFalse h =>
    refine ⟨rfl, ?_, rfl, rfl, ?_⟩
    · simp [LawfulBufferChain.fragments, metricsFragments, h, ReportRequest.segments]
    · simp [LawfulBufferChain.fragments, ReportRequest.segments, toInt_add_toInt]

theorem segments_addSpan (r : ReportRequest) (span : ChainedStream) :
    (r.addSpan span).segments = r.segments ++ [span] := by
  unfold addSpan segments
  cases r.spans with
  | none => rfl
  | some chain => rfl

theorem Built.addSpan {r : ReportRequest} {header : List UInt8} {numDroppedSpans : Int32} {spans : List ChainedStream}
    (h : Built r header numDroppedSpans spans) (span : ChainedStream) :
    Built (r.addSpan span) header numDroppedSpans (spans ++ [span]) := by
  have hsegments : (r.addSpan span).segments = spans ++ [span] := by rw [segments_addSpan, h.segments]
  have hfragments : LawfulBufferChain.fragments (r.addSpan span) = LawfulBufferChain.fragments r ++ visited span := by
    simp only [LawfulBufferChain.fragments, hsegments, h.segments, List.flatMap_append]
    simp [ReportRequest.addSpan]
  refine ⟨hsegments, ?_, ?_, ?_, ?_⟩
  · rw [hfragments, h.fragments]
    simp
  · simp [ReportRequest.addSpan, h.numSpans]
  · simp only [ReportRequest.addSpan, h.numFragments, toInt_add_toInt]
    simp [FragmentInputStream.numFragments]
  · rw [hfragments, List.flatten_append, List.length_append]
    simp [ReportRequest.addSpan, h.numBytes, forEachFragment_chain, iterate_addFragment]

/-- What holds of a new request and of each span added holds of the request that is built. -/
theorem built_build (header : List UInt8) (numDroppedSpans : Int32) (spans : List ChainedStream) :
    Built (build header numDroppedSpans spans) header numDroppedSpans spans := by
  have hadded : ∀ (before rest : List ChainedStream) (r : ReportRequest), Built r header numDroppedSpans before →
      Built (rest.foldl ReportRequest.addSpan r) header numDroppedSpans (before ++ rest) := by
    intro before rest
    induction rest generalizing before with
    | nil =>
      intro r h
      rw [List.append_nil]
      exact h
    | cons span rest ih =>
      intro r h
      have hrest := ih (before ++ [span]) _ (h.addSpan span)
      rwa [List.append_assoc] at hrest
  exact hadded [] spans _ (built_new header numDroppedSpans)

theorem toSize_toInt {n : Nat} (h : n < 2 ^ 31) : toSize (toInt n) = n := by
  have hint : toInt n = n := (StreamWriter.bmod_eq_self_iff n (Nat.two_pow_pos 31)).mpr h
  rw [toSize, hint]
  omega

/-- What a request owes its transporter: the header, then the metrics message unless no span was dropped,
then what is left of each span. -/
structure Serializes (r : ReportRequest) (header : List UInt8) (numDroppedSpans : Int32) (spans : List ChainedStream) :
    Prop where
  delivered : (delivered r).flatten = header ++ ((metricsFragments numDroppedSpans).flatten ++ spans.flatMap bytes)
  numBytes : (BufferChain.delivered r).flatten.length < 2 ^ 31 →
    BufferChain.numBytes r = (BufferChain.delivered r).flatten.length
  copyOut : (BufferChain.delivered r).flatten.length < 2 ^ 31 →
    copyOut r (BufferChain.numBytes r) =
      some (header ++ ((metricsFragments numDroppedSpans).flatten ++ spans.flatMap bytes))
  stops : ∀ before fragment after, BufferChain.delivered r = before ++ fragment :: after →
    ∀ (σ : Type) (f : σ → Fragment → σ × Bool) (st t u : σ), iterate f st before = (t, true) →
      f t fragment = (u, false) → forEachFragment r f st = (u, false)

theorem flatten_visited {spans : List ChainedStream} (h : ∀ span ∈ spans, StreamWriter.Recorded span) :
    (spans.flatMap visited).flatten = spans.flatMap bytes := by
  induction spans with
  | nil => rfl
  | cons span rest ih =>
    have hvalid : Valid span := Or.inl (h span (List.mem_cons_self ..)).live
    rw [List.flatMap_cons, List.flatMap_cons, List.flatten_append, ih fun s hs => h s (List.mem_cons_of_mem span hs),
      visited_eq hvalid]
    rfl

/-- **A report request is its parts.** -/
theorem build_serializes (header : List UInt8) (numDroppedSpans : Int32) {spans : List ChainedStream}
    (hspans : ∀ span ∈ spans, StreamWriter.Recorded span) :
    Serializes (build header numDroppedSpans spans) header numDroppedSpans spans := by
  have h := built_build header numDroppedSpans spans
  have hdelivered : (delivered (build header numDroppedSpans spans)).flatten =
      header ++ ((metricsFragments numDroppedSpans).flatten ++ spans.flatMap bytes) := by
    rw [delivered_eq, h.fragments, List.flatten_cons, List.flatten_append, flatten_visited hspans]
  have hnumBytes (hlt : (delivered (build header numDroppedSpans spans)).flatten.length < 2 ^ 31) :
      BufferChain.numBytes (build header numDroppedSpans spans) =
        (delivered (build header numDroppedSpans spans)).flatten.length := by
    have htotal := congrArg toSize h.numBytes
    rw [← delivered_eq, toSize_toInt hlt] at htotal
    exact htotal
  refine ⟨hdelivered, hnumBytes, fun hlt => ?_, fun before fragment after hsplit σ f st t u hbefore hstop => ?_⟩
  · rw [copyOut_eq (Nat.le_refl _), hdelivered]
  · exact forEachFragment_stops hsplit hbefore hstop

/-- Eight bytes in two spans, after a header and a count of dropped spans. -/
theorem build_serializes_two : ∃ span, StreamWriter.Recorded span ∧ visited span = [[7, 7, 7, 7]] ∧
    Serializes (build [1, 2, 3] 42 [span, span]) [1, 2, 3] 42 [span, span] := by
  obtain ⟨span, hrecorded, hvisited⟩ := StreamWriter.exists_recorded
  have hspans : ∀ s ∈ [span, span], StreamWriter.Recorded s := by
    intro s hs
    simp only [List.mem_cons, List.not_mem_nil, or_false, or_self] at hs
    exact hs ▸ hrecorded
  exact ⟨span, hrecorded, hvisited, build_serializes _ _ hspans⟩

theorem copyOut_long_header {header : List UInt8} (h : header.length = 2 ^ 31) :
    (delivered (build header 0 [])).flatten.length = 2 ^ 31 ∧
      BufferChain.numBytes (build header 0 []) = 2 ^ 64 - 2 ^ 31 ∧ copyOut (build header 0 []) (2 ^ 31) = none := by
  have hbuilt := built_build header 0 []
  have hlength : (delivered (build header 0 [])).flatten.length = 2 ^ 31 := by
    rw [delivered_eq, hbuilt.fragments, ← h]
    simp [metricsFragments]
  have hnumBytes : BufferChain.numBytes (build header 0 []) = 2 ^ 64 - 2 ^ 31 := by
    have htotal := congrArg toSize hbuilt.numBytes
    rw [← delivered_eq, hlength] at htotal
    exact htotal.trans (by decide)
  refine ⟨hlength, hnumBytes, ?_⟩
  rw [copyOut, hnumBytes, if_pos (by decide)]

/-- The header is one that an `int` cannot count, and its size past any that memory has. -/
theorem not_serializes_long_header :
    (delivered (build (List.replicate (2 ^ 31) 0) 0 [])).flatten.length = 2 ^ 31 ∧
      BufferChain.numBytes (build (List.replicate (2 ^ 31) 0) 0 []) = 2 ^ 64 - 2 ^ 31 ∧
      copyOut (build (List.replicate (2 ^ 31) 0) 0 []) (2 ^ 31) = none :=
  copyOut_long_header List.length_replicate

/-! ### The number of fragments -/

/-- A stream that is closed and sought to a place of its head block, whatever is kept of it. -/
inductive Closed : ChainedStream → Prop where
  | intro {head : Block} {outputs : List Output} {w : StreamWriter} (hhead : head.data.length = ChainedStream.BlockSize)
      (hrun : StreamWriter.machine.run (.new head) outputs = some w) (passed : Nat) :
      Closed (FragmentInputStream.seek w.stream.closeOutput 0 passed)

theorem closed_of_recorded {s : ChainedStream} (h : StreamWriter.Recorded s) : Closed s := by
  obtain ⟨hhead, hrun, -, passed, -⟩ := h
  exact .intro hhead hrun passed

/-- A closed stream visits the fragments it counts, or one if it counts none. -/
theorem Closed.numFragments_le {s : ChainedStream} (h : Closed s) :
    FragmentInputStream.numFragments s ≤ (visited s).length ∧
      (visited s).length ≤ FragmentInputStream.numFragments s + 1 := by
  obtain ⟨hhead, hrun, passed⟩ := h
  rename_i w
  have hinv := StreamWriter.inv_run hhead hrun
  obtain ⟨full, last, hchain⟩ := hinv.chain
  have hblocks := congrArg List.length hchain.blocks
  rw [List.length_append, List.length_singleton] at hblocks
  have hvisited : (visited (FragmentInputStream.seek w.stream.closeOutput 0 passed)).length =
      w.stream.blocks.length := by
    have hne : ¬ w.stream.numBlocks = 0 := by
      rw [hinv.numBlocks, hblocks]
      exact Nat.succ_ne_zero _
    obtain ⟨block, rest, hcons⟩ := hinv.blocks_cons
    simp [visited, FragmentInputStream.forEachFragment, FragmentInputStream.seek, ChainedStream.closeOutput, hne,
      ChainedStream.remaining, hcons, LawfulFragmentInputStream.iterate_collect]
  have hcount : FragmentInputStream.numFragments (FragmentInputStream.seek w.stream.closeOutput 0 passed) =
      if w.kept = [] then 0 else w.stream.blocks.length := hinv.numFragments_close
  rw [hvisited, hcount, hblocks]
  split
  case isTrue hnil =>
    have hlength := hchain.length_kept
    rw [hnil, List.length_nil, ChainedStream.BlockSize] at hlength
    omega
  case isFalse => omega

/-- The header is delivered, and a metrics message, but neither is counted. -/
theorem length_fragments_build (header : List UInt8) (numDroppedSpans : Int32) {spans : List ChainedStream}
    (hspans : ∀ span ∈ spans, Closed span) :
    (spans.map FragmentInputStream.numFragments).sum < (delivered (build header numDroppedSpans spans)).length ∧
      (delivered (build header numDroppedSpans spans)).length ≤
        (spans.map FragmentInputStream.numFragments).sum + spans.length + 2 := by
  have hmetrics : (metricsFragments numDroppedSpans).length ≤ 1 := by
    unfold metricsFragments
    split
    · exact Nat.zero_le 1
    · exact Nat.le_refl 1
  have hvisited : (spans.map FragmentInputStream.numFragments).sum ≤ (spans.flatMap visited).length ∧
      (spans.flatMap visited).length ≤ (spans.map FragmentInputStream.numFragments).sum + spans.length := by
    induction spans with
    | nil => exact ⟨Nat.le_refl _, Nat.le_refl _⟩
    | cons span rest ih =>
      have hspan := (hspans span (List.mem_cons_self ..)).numFragments_le
      have hrest := ih fun s hs => hspans s (List.mem_cons_of_mem span hs)
      simp only [List.map_cons, List.sum_cons, List.flatMap_cons, List.length_append, List.length_cons]
      omega
  rw [delivered_eq, (built_build header numDroppedSpans spans).fragments, List.length_cons, List.length_append]
  omega

/-- **The number of fragments is never that of the fragments delivered.** -/
theorem numFragments_ne_delivered (header : List UInt8) (numDroppedSpans : Int32) {spans : List ChainedStream}
    (hspans : ∀ span ∈ spans, Closed span) (hcount : spans.length < 2 ^ 31) :
    BufferChain.numFragments (build header numDroppedSpans spans) ≠
      (delivered (build header numDroppedSpans spans)).length := by
  intro heq
  obtain ⟨hlt, hle⟩ := length_fragments_build header numDroppedSpans hspans
  have hfragments := (built_build header numDroppedSpans spans).numFragments
  have hsize : toSize (build header numDroppedSpans spans).numFragments =
      (delivered (build header numDroppedSpans spans)).length := heq
  -- An `int` and a `size_t` differ from the sum by multiples of 2 ^ 32, and the delivered fragments by less.
  rw [hfragments, toSize, toInt, Int.bmod_def] at hsize
  omega

/-- A header, a metrics message and a span, of which the span is counted. -/
theorem numFragments_ne_delivered_span : ∃ span, Closed span ∧ visited span = [[7, 7, 7, 7]] ∧
    BufferChain.numFragments (build [97, 98, 99] 42 [span]) ≠ (delivered (build [97, 98, 99] 42 [span])).length := by
  obtain ⟨span, hrecorded, hvisited⟩ := StreamWriter.exists_recorded
  have hclosed := closed_of_recorded hrecorded
  have hspans : ∀ s ∈ [span], Closed s := fun s hs => List.mem_singleton.mp hs ▸ hclosed
  have hcount : [span].length < 2 ^ 31 := by rw [List.length_singleton]; decide
  exact ⟨span, hclosed, hvisited, numFragments_ne_delivered _ _ hspans hcount⟩

/-- Nothing but a header, and no fragment is counted. -/
theorem numFragments_header_only : BufferChain.numFragments (build [97, 98, 99] 0 []) = 0 ∧
    delivered (build [97, 98, 99] 0 []) = [[97, 98, 99]] ∧
    BufferChain.numFragments (build [97, 98, 99] 0 []) ≠ (delivered (build [97, 98, 99] 0 [])).length :=
  ⟨rfl, rfl, by decide⟩

end ReportRequest
end Lightstep.Recorder.Serialization

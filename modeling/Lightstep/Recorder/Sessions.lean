import Lightstep.Library.Machine
import Lightstep.Recorder.ConnectionStream

/-! The sessions of the connections that share a span stream.

Spans are added to the buffer, connections are constructed, flushed with writers
that take any number of the bytes they are offered, shut down and reset, in any
order. A session is what a connection stream does between two resets. What it has
taken is kept beside it, and the spans it has begun, by their numbers in the order
in which they were added. -/
namespace Lightstep.Recorder
open Library Common FragmentInputStream LawfulFragmentInputStream SeekableFragmentInputStream SpanStream
open ConnectionStream

/-- `atShutdown` has the spans begun when the stream was first shut down. -/
structure Session where
  hostHeaderFragment : Fragment
  headerCommonFragment : Fragment
  numDroppedSpans : Int32
  spans : List Nat
  taken : List UInt8
  atShutdown : Option (List Nat)

namespace Session
variable {S : Type} [FragmentInputStream S] [SeekableFragmentInputStream S]

def begin (c : ConnectionStream S) : Session :=
  { hostHeaderFragment := c.hostHeaderFragment
    headerCommonFragment := c.headerCommonFragment
    numDroppedSpans := c.embeddedMetricsMessage.numDroppedSpans
    spans := [], taken := [], atShutdown := none }

def header (σ : Session) : List UInt8 :=
  sessionHeader σ.hostHeaderFragment σ.headerCommonFragment σ.numDroppedSpans

def terminal (σ : Session) : List UInt8 := if σ.atShutdown.isSome then terminalFragment else []

/-- The bytes of the spans with some numbers. -/
def spanBytes (added : List S) (spans : List Nat) : List UInt8 :=
  spans.flatMap fun i => remnantBytes added[i]?

/-- The request the session is a part of. -/
def stream (added : List S) (σ : Session) : List UInt8 := σ.header ++ spanBytes added σ.spans ++ σ.terminal

end Session

structure Sessions (S : Type) where
  spanStream : SpanStream S
  connections : List (ConnectionStream S × Session)
  finished : List Session
  added : List S
  droppedByReset : Nat

inductive SessionEvent (S : Type) where
  | addSpan (span : S)
  | onSpansDropped (numSpans : Nat)
  | construct (hostHeaderFragment headerCommonFragment : Fragment)
  | flush (connection n : Nat) (result : Bool)
  | shutdown (connection : Nat)
  | reset (connection : Nat)

namespace Sessions
variable {S : Type} [FragmentInputStream S] [SeekableFragmentInputStream S]

def init (maxSize : Nat) : Sessions S :=
  { spanStream := .new (.ofMaxSize maxSize) .new, connections := [], finished := [], added := [],
    droppedByReset := 0 }

def addSpan (s : Sessions S) (span : S) : Sessions S :=
  match s.spanStream.spanBuffer.add span with
  | none => s
  | some spanBuffer =>
    {s with spanStream := {s.spanStream with spanBuffer := spanBuffer}, added := s.added ++ [span]}

def onSpansDropped (s : Sessions S) (numSpans : Nat) : Sessions S :=
  {s with spanStream := {s.spanStream with metrics := s.spanStream.metrics.onSpansDropped numSpans}}

def construct (s : Sessions S) (hostHeaderFragment headerCommonFragment : Fragment) : Sessions S :=
  let (c, spanStream) := ConnectionStream.new hostHeaderFragment headerCommonFragment s.spanStream
  {s with spanStream := spanStream, connections := s.connections ++ [(c, .begin c)]}

/-- The writer takes `n` bytes. The spans begun are those the buffer has lost. -/
def flush (s : Sessions S) (connection n : Nat) (result : Bool) : Option (Sessions S) :=
  s.connections[connection]?.map fun (c, σ) =>
    let (c', spanStream, _) := c.flush (takeWriter (ε := Empty) n (.ok result)) s.spanStream
    let tail := s.spanStream.spanBuffer.tail
    let σ' := {σ with taken := σ.taken ++ (c.offered s.spanStream).take n
                      spans := σ.spans ++ List.range' tail (spanStream.spanBuffer.tail - tail)}
    {s with spanStream := spanStream, connections := s.connections.set connection (c', σ')}

def shutdown (s : Sessions S) (connection : Nat) : Option (Sessions S) :=
  s.connections[connection]?.map fun (c, σ) =>
    let σ' := {σ with atShutdown := some (σ.atShutdown.getD σ.spans)}
    {s with connections := s.connections.set connection (c.shutdown, σ')}

/-- The drops of a reset are those it reports. -/
def reset (s : Sessions S) (connection : Nat) : Option (Sessions S) :=
  s.connections[connection]?.map fun (c, σ) =>
    let (c', spanStream) := c.reset s.spanStream
    {s with spanStream := spanStream
            connections := s.connections.set connection (c', .begin c')
            finished := s.finished ++ [σ]
            droppedByReset := s.droppedByReset +
              (spanStream.metrics.spansDropped - s.spanStream.metrics.spansDropped)}

def step (s : Sessions S) : SessionEvent S → Option (Sessions S)
  | .addSpan span => some (s.addSpan span)
  | .onSpansDropped numSpans => some (s.onSpansDropped numSpans)
  | .construct host common => some (s.construct host common)
  | .flush connection n result => s.flush connection n result
  | .shutdown connection => s.shutdown connection
  | .reset connection => s.reset connection

def machine (S : Type) [FragmentInputStream S] [SeekableFragmentInputStream S] :
    Machine (Sessions S) (SessionEvent S) := ⟨step⟩

/-- The spans added have bytes, the length of a fragment fits the source's `int`, and a writer takes
no more than it is offered. -/
def Promise (s : Sessions S) : SessionEvent S → Prop
  | .addSpan span => Framed span
  | .construct _ headerCommonFragment => headerCommonFragment.length < 2 ^ 31
  | .flush connection n _ => ∀ c σ, s.connections[connection]? = some (c, σ) →
      n ≤ (c.offered s.spanStream).length
  | _ => True

/-- All sessions, those under way last. -/
def all (s : Sessions S) : List Session := s.finished ++ s.connections.map Prod.snd

/-! ### What the sessions keep -/

/-- A session by itself: what was taken is the beginning of the request. -/
structure WellFormed (added : List S) (tail : Nat) (σ : Session) : Prop where
  isPrefix : σ.taken <+: σ.stream added
  common_lt : σ.headerCommonFragment.length < 2 ^ 31
  sorted : σ.spans.Pairwise (· < ·)
  lt : ∀ i ∈ σ.spans, i < tail
  frozen : ∀ spans, σ.atShutdown = some spans → σ.spans = spans

/-- A session and the connection it is under way on. -/
structure Live (added : List S) (tail : Nat) (c : ConnectionStream S) (σ : Session) : Prop where
  inv : c.Inv
  hostHeaderFragment : c.hostHeaderFragment = σ.hostHeaderFragment
  headerCommonFragment : c.headerCommonFragment = σ.headerCommonFragment
  numDroppedSpans : c.embeddedMetricsMessage.numDroppedSpans = σ.numDroppedSpans
  shuttingDown : c.shuttingDown = σ.atShutdown.isSome
  stream : σ.taken ++ c.rest = σ.stream added
  header : bytes c.headerStream = σ.header.drop σ.taken.length
  common_lt : σ.headerCommonFragment.length < 2 ^ 31
  remnant : ∀ r, c.spanRemnant = some r → ∃ before i span, σ.spans = before ++ [i] ∧
    added[i]? = some span ∧ RestOf span r ∧ (bytes r).length ≤ (bytes span).length
  sorted : σ.spans.Pairwise (· < ·)
  lt : ∀ i ∈ σ.spans, i < tail
  frozen : ∀ spans, σ.atShutdown = some spans → σ.spans = spans

theorem Live.wellFormed {added : List S} {tail : Nat} {c : ConnectionStream S} {σ : Session}
    (h : Live added tail c σ) : WellFormed added tail σ :=
  ⟨⟨c.rest, h.stream⟩, h.common_lt, h.sorted, h.lt, h.frozen⟩

/-- The spans the buffer has had, those it still has, and the sessions they went to. -/
structure Inv (s : Sessions S) : Prop where
  ready : s.spanStream.Ready
  remnant : s.spanStream.remnant = none
  head : s.spanStream.spanBuffer.head = s.added.length
  contents : s.spanStream.spanBuffer.contents = s.added.drop s.spanStream.spanBuffer.tail
  framed : ∀ span ∈ s.added, Framed span
  live : ∀ c σ, (c, σ) ∈ s.connections → Live s.added s.spanStream.spanBuffer.tail c σ
  finished : ∀ σ ∈ s.finished, WellFormed s.added s.spanStream.spanBuffer.tail σ
  begun : (s.all.flatMap Session.spans).Perm (List.range s.spanStream.spanBuffer.tail)

theorem Inv.wellFormed_of_mem {s : Sessions S} (h : s.Inv) {σ : Session} (hmem : σ ∈ s.all) :
    WellFormed s.added s.spanStream.spanBuffer.tail σ := by
  rcases List.mem_append.mp hmem with hfinished | hlive
  · exact h.finished σ hfinished
  · obtain ⟨⟨c, _⟩, hconnection, rfl⟩ := List.mem_map.mp hlive
    exact (h.live c _ hconnection).wellFormed

/-! ### Spans and their numbers -/

theorem spanBytes_append (added : List S) (a b : List Nat) :
    Session.spanBytes added (a ++ b) = Session.spanBytes added a ++ Session.spanBytes added b :=
  List.flatMap_append

/-- Spans added later change nothing about those added before. -/
theorem spanBytes_add {added : List S} {spans : List Nat} (h : ∀ i ∈ spans, i < added.length) (span : S) :
    Session.spanBytes (added ++ [span]) spans = Session.spanBytes added spans := by
  induction spans with
  | nil => rfl
  | cons i rest ih =>
    have hi := h i (List.mem_cons_self ..)
    have hrest := ih fun j hj => h j (List.mem_cons_of_mem i hj)
    unfold Session.spanBytes at hrest ⊢
    rw [List.flatMap_cons, List.flatMap_cons, hrest, List.getElem?_append_left hi]

/-- The spans a flush begins are the next ones added. -/
theorem spanBytes_range' {added : List S} {tail k : Nat} (h : tail + k ≤ added.length) :
    Session.spanBytes added (List.range' tail k) = (((added.drop tail).take k).map bytes).flatten := by
  induction k generalizing tail with
  | zero => rfl
  | succ k ih =>
    have hlt : tail < added.length := by omega
    have hrest : Session.spanBytes added (List.range' (tail + 1) k) = _ := ih (by omega)
    unfold Session.spanBytes at hrest ⊢
    rw [List.range'_succ, List.flatMap_cons, hrest, List.drop_eq_getElem_cons hlt, List.take_succ_cons,
      List.map_cons, List.flatten_cons, List.getElem?_eq_getElem hlt]
    rfl

theorem Live.add {added : List S} {tail : Nat} {c : ConnectionStream S} {σ : Session}
    (h : Live added tail c σ) (htail : tail ≤ added.length) (span : S) : Live (added ++ [span]) tail c σ := by
  have hspans : ∀ i ∈ σ.spans, i < added.length := fun i hi => Nat.lt_of_lt_of_le (h.lt i hi) htail
  refine {h with stream := ?_, remnant := ?_}
  · rw [Session.stream, spanBytes_add hspans]
    exact h.stream
  · intro r hr
    obtain ⟨before, i, last, hbefore, hlast, hle⟩ := h.remnant r hr
    have hi : i < added.length := hspans i (hbefore ▸ by simp)
    exact ⟨before, i, last, hbefore, by rw [List.getElem?_append_left hi]; exact hlast, hle⟩

theorem WellFormed.add {added : List S} {tail : Nat} {σ : Session} (h : WellFormed added tail σ)
    (htail : tail ≤ added.length) (span : S) : WellFormed (added ++ [span]) tail σ := by
  have hspans : ∀ i ∈ σ.spans, i < added.length := fun i hi => Nat.lt_of_lt_of_le (h.lt i hi) htail
  refine {h with isPrefix := ?_}
  rw [Session.stream, spanBytes_add hspans]
  exact h.isPrefix

theorem Live.mono {added : List S} {tail tail' : Nat} {c : ConnectionStream S} {σ : Session}
    (h : Live added tail c σ) (htail : tail ≤ tail') : Live added tail' c σ :=
  {h with lt := fun i hi => Nat.lt_of_lt_of_le (h.lt i hi) htail}

theorem WellFormed.mono {added : List S} {tail tail' : Nat} {σ : Session} (h : WellFormed added tail σ)
    (htail : tail ≤ tail') : WellFormed added tail' σ :=
  {h with lt := fun i hi => Nat.lt_of_lt_of_le (h.lt i hi) htail}

theorem Inv.tail_le {s : Sessions S} (h : s.Inv) : s.spanStream.spanBuffer.tail ≤ s.added.length := by
  rw [← h.head]
  exact h.ready.wellFormed.tail_le

omit [FragmentInputStream S] [SeekableFragmentInputStream S] in
/-- A connection among the others, and what it is to change it alone. -/
theorem connections_split {s : Sessions S} {i : Nat} {c : ConnectionStream S} {σ : Session}
    (h : s.connections[i]? = some (c, σ)) : ∃ before after, s.connections = before ++ (c, σ) :: after ∧
      ∀ x, s.connections.set i x = before ++ x :: after := by
  obtain ⟨hlt, hget⟩ := List.getElem?_eq_some_iff.mp h
  refine ⟨s.connections.take i, s.connections.drop (i + 1), ?_, ?_⟩
  · rw [← hget, ← List.drop_eq_getElem_cons hlt, List.take_append_drop]
  · intro x
    exact List.set_eq_take_append_cons_drop.trans (if_pos hlt)

/-! ### Each event -/

theorem init_inv (maxSize : Nat) : (init maxSize : Sessions S).Inv where
  ready := ⟨CircularBuffer.ofMaxSize_wellFormed maxSize, fun _ h => by cases h⟩
  remnant := rfl
  head := rfl
  contents := rfl
  framed := fun _ h => by cases h
  live := fun _ _ h => by cases h
  finished := fun _ h => by cases h
  begun := List.Perm.refl _

theorem addSpan_inv {s : Sessions S} (h : s.Inv) {span : S} (hspan : Framed span) : (s.addSpan span).Inv := by
  unfold addSpan
  cases hadd : s.spanStream.spanBuffer.add span with
  | none => exact h
  | some b =>
    obtain ⟨hw, hcontents, htail, hhead, -⟩ := h.ready.wellFormed.add hadd
    refine { ready := ⟨hw, ?_⟩, remnant := h.remnant, head := ?_, contents := ?_, framed := ?_, live := ?_,
             finished := ?_, begun := ?_ }
    · intro other hother
      have hother : other ∈ b.contents := hother
      rw [hcontents] at hother
      rcases List.mem_append.mp hother with hold | hnew
      · exact h.ready.framed other hold
      · exact List.mem_singleton.mp hnew ▸ hspan
    · show b.head = (s.added ++ [span]).length
      rw [hhead, h.head, List.length_append, List.length_singleton]
    · show b.contents = (s.added ++ [span]).drop b.tail
      rw [hcontents, h.contents, htail, List.drop_append_of_le_length h.tail_le]
    · intro other hother
      rcases List.mem_append.mp hother with hold | hnew
      · exact h.framed other hold
      · exact List.mem_singleton.mp hnew ▸ hspan
    · intro c σ hmem
      show Live (s.added ++ [span]) b.tail c σ
      rw [htail]
      exact (h.live c σ hmem).add h.tail_le span
    · intro σ hmem
      show WellFormed (s.added ++ [span]) b.tail σ
      rw [htail]
      exact (h.finished σ hmem).add h.tail_le span
    · show (s.all.flatMap Session.spans).Perm (List.range b.tail)
      rw [htail]
      exact h.begun

theorem onSpansDropped_inv {s : Sessions S} (h : s.Inv) (numSpans : Nat) : (s.onSpansDropped numSpans).Inv :=
  ⟨⟨h.ready.wellFormed, h.ready.framed⟩, h.remnant, h.head, h.contents, h.framed, h.live, h.finished, h.begun⟩

/-- A session that begins on a connection without a remnant. -/
theorem begin_live {c : ConnectionStream S} (hr : c.spanRemnant = none)
    (hcommon : c.headerCommonFragment.length < 2 ^ 31) (sp : SpanStream S) (added : List S) (tail : Nat) :
    Live added tail (initializeStream c sp).1 (.begin (initializeStream c sp).1) where
  inv := initializeStream_inv hr sp
  hostHeaderFragment := rfl
  headerCommonFragment := rfl
  numDroppedSpans := rfl
  shuttingDown := rfl
  stream := by
    have hrest := initializeStream_rest hr sp
    simp only [Session.begin, Session.stream, Session.header, Session.terminal, Session.spanBytes, hrest,
      List.nil_append, List.flatMap_nil, List.append_nil, Option.isSome_none, Bool.false_eq_true, if_false]
    rfl
  header := initializeStream_header c sp
  common_lt := hcommon
  remnant := fun r hr' => by
    have hr' : c.spanRemnant = some r := hr'
    rw [hr] at hr'
    cases hr'
  sorted := List.Pairwise.nil
  lt := fun _ h => by cases h
  frozen := fun _ h => by cases h

theorem construct_inv {s : Sessions S} (h : s.Inv) (host : Fragment) {common : Fragment}
    (hcommon : common.length < 2 ^ 31) : (s.construct host common).Inv := by
  unfold construct ConnectionStream.new
  refine { ready := ⟨h.ready.wellFormed, h.ready.framed⟩, remnant := h.remnant, head := h.head,
           contents := h.contents, framed := h.framed, live := ?_, finished := h.finished, begun := ?_ }
  · intro c σ hmem
    rcases List.mem_append.mp hmem with hold | hnew
    · exact h.live c σ hold
    · obtain ⟨rfl, rfl⟩ := Prod.mk.inj (List.mem_singleton.mp hnew)
      exact begin_live rfl hcommon _ _ _
  · have hbegun := h.begun
    simp only [all, List.map_append, List.flatMap_append, List.map_singleton, List.flatMap_singleton] at hbegun ⊢
    rw [Session.begin, List.append_nil]
    exact hbegun

theorem shutdown_live {added : List S} {tail : Nat} {c : ConnectionStream S} {σ : Session}
    (h : Live added tail c σ) :
    Live added tail c.shutdown {σ with atShutdown := some (σ.atShutdown.getD σ.spans)} := by
  have hinv : c.shutdown.Inv :=
    {h.inv with terminal := fun hne => ⟨rfl, (h.inv.terminal hne).2⟩}
  have hstream : σ.taken ++ c.shutdown.rest = σ.header ++ Session.spanBytes added σ.spans ++ terminalFragment := by
    have hold := h.stream
    cases hs : c.shuttingDown with
    | true =>
      have hsome : σ.atShutdown.isSome = true := by rw [← h.shuttingDown, hs]
      rw [Session.stream, Session.terminal, hsome] at hold
      rw [← (show _ = _ ++ terminalFragment from hold)]
      simp only [rest, ConnectionStream.shutdown, hs]
    | false =>
      have hnone : σ.atShutdown.isSome = false := by rw [← h.shuttingDown, hs]
      rw [Session.stream, Session.terminal, hnone, rest, hs] at hold
      simp only [Bool.false_eq_true, if_false, List.append_nil] at hold
      simp only [rest, ConnectionStream.shutdown, if_true, h.inv.terminal_eq (.inl hs)]
      rw [← hold]
      simp only [List.append_assoc]
  refine { inv := hinv, hostHeaderFragment := h.hostHeaderFragment,
           headerCommonFragment := h.headerCommonFragment, numDroppedSpans := h.numDroppedSpans,
           shuttingDown := rfl, stream := hstream, header := h.header, common_lt := h.common_lt,
           remnant := h.remnant,
           sorted := h.sorted, lt := h.lt, frozen := ?_ }
  intro spans heq
  cases hat : σ.atShutdown with
  | none =>
    simp only [hat, Option.getD_none, Option.some.injEq] at heq
    exact heq
  | some old =>
    simp only [hat, Option.getD_some, Option.some.injEq] at heq
    rw [← heq]
    exact h.frozen old hat

/-- An event that changes one connection and its session, and nothing else of the sessions. -/
theorem set_live {s : Sessions S} (h : s.Inv) {before after : List (ConnectionStream S × Session)}
    {c : ConnectionStream S} {σ : Session} (hsplit : s.connections = before ++ (c, σ) :: after)
    {c' : ConnectionStream S} {σ' : Session} {tail : Nat}
    (htail : s.spanStream.spanBuffer.tail ≤ tail) (hlive : Live s.added tail c' σ') :
    ∀ d τ, (d, τ) ∈ before ++ (c', σ') :: after → Live s.added tail d τ := by
  intro d τ hmem
  rcases List.mem_append.mp hmem with hbefore | hafter
  · exact (h.live d τ (hsplit ▸ List.mem_append_left _ hbefore)).mono htail
  · rcases List.mem_cons.mp hafter with heq | hafter
    · obtain ⟨rfl, rfl⟩ := Prod.mk.inj heq
      exact hlive
    · exact (h.live d τ (hsplit ▸ List.mem_append_right _ (List.mem_cons_of_mem _ hafter))).mono htail

theorem shutdown_cases {s t : Sessions S} (h : s.Inv) {i : Nat} (hstep : s.shutdown i = some t) :
    ∃ before after c σ, s.connections = before ++ (c, σ) :: after ∧
      Live s.added s.spanStream.spanBuffer.tail c σ ∧
      t = {s with connections :=
        before ++ (c.shutdown, {σ with atShutdown := some (σ.atShutdown.getD σ.spans)}) :: after} := by
  unfold shutdown at hstep
  obtain ⟨⟨c, σ⟩, hget, hstep⟩ := Option.map_eq_some_iff.mp hstep
  obtain ⟨before, after, hsplit, hset⟩ := connections_split hget
  refine ⟨before, after, c, σ, hsplit, h.live c σ (List.mem_of_getElem? hget), ?_⟩
  simp only [hset] at hstep
  exact hstep.symm

theorem shutdown_inv {s t : Sessions S} (h : s.Inv) {i : Nat} (hstep : s.shutdown i = some t) : t.Inv := by
  obtain ⟨before, after, c, σ, hsplit, hlive, rfl⟩ := shutdown_cases h hstep
  refine { h with live := set_live h hsplit (Nat.le_refl _) (shutdown_live hlive), begun := ?_ }
  have hbegun := h.begun
  simp only [all, hsplit, List.map_append, List.map_cons, List.flatMap_append, List.flatMap_cons]
    at hbegun ⊢
  exact hbegun

/-- The session of a connection that is flushed. -/
theorem flush_live {s : Sessions S} (h : s.Inv) {c : ConnectionStream S} {σ : Session}
    (hlive : Live s.added s.spanStream.spanBuffer.tail c σ) {n k : Nat}
    (hn : n ≤ (c.offered s.spanStream).length) {c' : ConnectionStream S} {sp' : SpanStream S}
    (hf : Flushed n c s.spanStream c' sp' k) :
    Live s.added (s.spanStream.spanBuffer.tail + k) c'
      {σ with taken := σ.taken ++ (c.offered s.spanStream).take n
              spans := σ.spans ++ List.range' s.spanStream.spanBuffer.tail k} := by
  have hlen := h.ready.wellFormed.length_contents
  have hk := hf.k_le
  have htail := h.tail_le
  rw [h.contents, List.length_drop] at hk
  have hnew : Session.spanBytes s.added (List.range' s.spanStream.spanBuffer.tail k) =
      ((s.spanStream.spanBuffer.contents.take k).map bytes).flatten := by
    rw [h.contents]
    exact spanBytes_range' (by omega)
  refine { inv := hf.inv, hostHeaderFragment := hf.hostHeaderFragment.trans hlive.hostHeaderFragment,
           headerCommonFragment := hf.headerCommonFragment.trans hlive.headerCommonFragment,
           numDroppedSpans := ?_, shuttingDown := hf.shuttingDown.trans hlive.shuttingDown,
           stream := ?_, header := ?_, common_lt := hlive.common_lt, remnant := ?_, sorted := ?_, lt := ?_, frozen := ?_ }
  · rw [hf.message]
    exact hlive.numDroppedSpans
  · have hstream := hlive.stream
    have htaken := hf.taken
    rw [← hnew] at htaken
    show σ.taken ++ (c.offered s.spanStream).take n ++ c'.rest =
      σ.header ++ Session.spanBytes s.added (σ.spans ++ _) ++ σ.terminal
    rw [List.append_assoc, htaken, ← List.append_assoc, hstream, spanBytes_append, Session.stream]
    cases hs : c.shuttingDown with
    | true =>
      rw [hf.shutting hs]
      simp [Session.spanBytes]
    | false =>
      have hterminal : σ.terminal = [] := by
        rw [Session.terminal, ← hlive.shuttingDown, hs]
        rfl
      rw [hterminal]
      simp only [List.append_nil, List.append_assoc]
  · show bytes c'.headerStream = σ.header.drop (σ.taken ++ (c.offered s.spanStream).take n).length
    rw [hf.header, hlive.header, List.drop_drop, List.length_append, List.length_take, Nat.min_eq_left hn]
  · intro r hr
    rcases hf.last r hr with ⟨rfl, r₀, hr₀, hrest, hle⟩ | ⟨span, hspan, hpos, hrest⟩
    · obtain ⟨before, i, last, hbefore, hlast, hrest', hle'⟩ := hlive.remnant r₀ hr₀
      refine ⟨before, i, last, ?_, hlast, hrest'.trans hrest, Nat.le_trans hle hle'⟩
      rw [List.range'_zero, List.append_nil]
      exact hbefore
    · refine ⟨σ.spans ++ List.range' s.spanStream.spanBuffer.tail (k - 1),
        s.spanStream.spanBuffer.tail + (k - 1), span, ?_, ?_, hrest⟩
      · have hsucc : k = (k - 1) + 1 := by omega
        rw [List.append_assoc, hsucc, List.range'_1_concat, Nat.add_sub_cancel]
      · rw [h.contents, List.getElem?_drop] at hspan
        exact hspan
  · refine List.pairwise_append.mpr ⟨hlive.sorted, List.pairwise_lt_range', ?_⟩
    intro a ha b hb
    have hlt := hlive.lt a ha
    have := (List.mem_range'_1.mp hb).1
    omega
  · intro i hi
    rcases List.mem_append.mp hi with hold | hnew
    · exact Nat.lt_of_lt_of_le (hlive.lt i hold) (Nat.le_add_right _ _)
    · exact (List.mem_range'_1.mp hnew).2
  · intro spans heq
    have hsome : c.shuttingDown = true := by
      have heq : σ.atShutdown = some spans := heq
      rw [hlive.shuttingDown, heq]
      rfl
    show σ.spans ++ List.range' _ k = spans
    rw [hf.shutting hsome, List.range'_zero, List.append_nil]
    exact hlive.frozen spans heq

theorem flush_cases {s t : Sessions S} (h : s.Inv) {i n : Nat} {result : Bool}
    (hn : ∀ c σ, s.connections[i]? = some (c, σ) → n ≤ (c.offered s.spanStream).length)
    (hstep : s.flush i n result = some t) :
    ∃ before after c σ c' spanStream k, s.connections = before ++ (c, σ) :: after ∧
      Live s.added s.spanStream.spanBuffer.tail c σ ∧ n ≤ (c.offered s.spanStream).length ∧
      Flushed n c s.spanStream c' spanStream k ∧
      spanStream.spanBuffer.tail = s.spanStream.spanBuffer.tail + k ∧
      t = {s with spanStream := spanStream, connections := before ++
        (c', {σ with taken := σ.taken ++ (c.offered s.spanStream).take n
                     spans := σ.spans ++ List.range' s.spanStream.spanBuffer.tail k}) :: after} := by
  unfold flush at hstep
  obtain ⟨⟨c, σ⟩, hget, hstep⟩ := Option.map_eq_some_iff.mp hstep
  obtain ⟨before, after, hsplit, hset⟩ := connections_split hget
  have hlive := h.live c σ (List.mem_of_getElem? hget)
  obtain ⟨k, hf⟩ := flush_take (ε := Empty) hlive.inv h.ready h.remnant (hn c σ hget) result
  dsimp only at hstep
  generalize c.flush (takeWriter (ε := Empty) n (.ok result)) s.spanStream = flushed at hf hstep
  obtain ⟨c', spanStream, outcome⟩ := flushed
  have hf : Flushed n c s.spanStream c' spanStream k := hf
  have hk : k ≤ s.spanStream.spanBuffer.size := by
    rw [← h.ready.wellFormed.length_contents]
    exact hf.k_le
  obtain ⟨-, -, htail, -, -⟩ := h.ready.wellFormed.consume hk
  rw [← hf.spanBuffer] at htail
  refine ⟨before, after, c, σ, c', spanStream, k, hsplit, hlive, hn c σ hget, hf, htail, ?_⟩
  simp only [htail, Nat.add_sub_cancel_left, hset] at hstep
  exact hstep.symm

theorem flush_inv {s t : Sessions S} (h : s.Inv) {i n : Nat} {result : Bool}
    (hn : ∀ c σ, s.connections[i]? = some (c, σ) → n ≤ (c.offered s.spanStream).length)
    (hstep : s.flush i n result = some t) : t.Inv := by
  obtain ⟨before, after, c, σ, c', spanStream, k, hsplit, hlive, hn, hf, htail, rfl⟩ := flush_cases h hn hstep
  have hk : k ≤ s.spanStream.spanBuffer.size := by
    rw [← h.ready.wellFormed.length_contents]
    exact hf.k_le
  obtain ⟨hw, hcontents, -, hhead, -⟩ := h.ready.wellFormed.consume hk
  rw [← hf.spanBuffer] at hw hcontents hhead
  have hlive' := flush_live h hlive hn hf
  rw [← htail] at hlive'
  have hle : s.spanStream.spanBuffer.tail ≤ spanStream.spanBuffer.tail := by omega
  refine { ready := ⟨hw, ?_⟩, remnant := hf.remnant, head := hhead.trans h.head, contents := ?_,
           framed := h.framed, live := set_live h hsplit hle hlive',
           finished := fun τ hmem => (h.finished τ hmem).mono hle, begun := ?_ }
  · intro span hspan
    have hspan : span ∈ spanStream.spanBuffer.contents := hspan
    rw [hcontents] at hspan
    exact h.ready.framed span (List.mem_of_mem_drop hspan)
  · show spanStream.spanBuffer.contents = s.added.drop spanStream.spanBuffer.tail
    rw [hcontents, h.contents, htail, List.drop_drop]
  · have hbegun := h.begun
    simp only [all, hsplit, List.map_append, List.map_cons, List.flatMap_append, List.flatMap_cons]
      at hbegun ⊢
    show List.Perm _ (List.range spanStream.spanBuffer.tail)
    rw [htail, List.range_add, ← List.range'_eq_map_range]
    refine List.Perm.trans ?_ (hbegun.append_right _)
    simp only [List.append_assoc]
    exact ((List.perm_append_comm.append_left _).append_left _).append_left _

theorem reset_cases {s t : Sessions S} (h : s.Inv) {i : Nat} (hstep : s.reset i = some t) :
    ∃ before after c σ c' metrics, s.connections = before ++ (c, σ) :: after ∧
      Live s.added s.spanStream.spanBuffer.tail c σ ∧
      Live s.added s.spanStream.spanBuffer.tail c' (.begin c') ∧ c'.spanRemnant = none ∧
      c'.embeddedMetricsMessage.numDroppedSpans = c.resetDroppedSpans s.spanStream ∧
      metrics.numDroppedSpans = 0 ∧ metrics.spansSent = s.spanStream.metrics.spansSent ∧
      metrics.spansDropped = s.spanStream.metrics.spansDropped + c.remnantCount ∧
      t = {s with spanStream := {s.spanStream with metrics := metrics}
                  connections := before ++ (c', .begin c') :: after
                  finished := s.finished ++ [σ]
                  droppedByReset := s.droppedByReset + c.remnantCount} := by
  unfold reset at hstep
  obtain ⟨⟨c, σ⟩, hget, hstep⟩ := Option.map_eq_some_iff.mp hstep
  obtain ⟨before, after, hsplit, hset⟩ := connections_split hget
  have hlive := h.live c σ (List.mem_of_getElem? hget)
  have hcommon : c.headerCommonFragment.length < 2 ^ 31 := hlive.headerCommonFragment ▸ hlive.common_lt
  obtain ⟨metrics, heq, hsent, hdropped, hnum⟩ := reset_eq hlive.inv s.spanStream
  have hbegin := begin_live (c := {c with spanRemnant := none}) rfl hcommon
    {s.spanStream with metrics := metrics} s.added s.spanStream.spanBuffer.tail
  refine ⟨before, after, c, σ, _, {metrics with numDroppedSpans := 0}, hsplit, hlive, hbegin, rfl, hnum, rfl,
    hsent, hdropped, ?_⟩
  have hsub : (initializeStream {c with spanRemnant := none} {s.spanStream with metrics := metrics}).2.metrics.spansDropped -
      s.spanStream.metrics.spansDropped = c.remnantCount := Nat.sub_eq_of_eq_add' hdropped
  simp only [heq, hset, hsub] at hstep
  exact hstep.symm

theorem reset_inv {s t : Sessions S} (h : s.Inv) {i : Nat} (hstep : s.reset i = some t) : t.Inv := by
  obtain ⟨before, after, c, σ, c', metrics, hsplit, hlive, hbegin, -, -, -, -, -, rfl⟩ := reset_cases h hstep
  refine { ready := ⟨h.ready.wellFormed, h.ready.framed⟩, remnant := h.remnant, head := h.head,
           contents := h.contents, framed := h.framed,
           live := set_live h hsplit (Nat.le_refl _) hbegin, finished := ?_, begun := ?_ }
  · intro τ hmem
    rcases List.mem_append.mp hmem with hold | hnew
    · exact h.finished τ hold
    · exact List.mem_singleton.mp hnew ▸ hlive.wellFormed
  · have hbegun := h.begun
    simp only [all, hsplit, List.map_append, List.map_cons, List.flatMap_append, List.flatMap_cons,
      List.flatMap_nil, List.append_nil] at hbegun ⊢
    refine List.Perm.trans ?_ hbegun
    rw [List.append_assoc]
    refine List.Perm.append_left _ ?_
    exact List.perm_append_comm_assoc _ _ _

/-! ### Every run -/

theorem step_inv {s t : Sessions S} {e : SessionEvent S} (h : s.Inv) (hpromise : Promise s e)
    (hstep : s.step e = some t) : t.Inv := by
  cases e with
  | addSpan span =>
    cases hstep
    exact addSpan_inv h hpromise
  | onSpansDropped numSpans =>
    cases hstep
    exact onSpansDropped_inv h numSpans
  | construct host common =>
    cases hstep
    exact construct_inv h host hpromise
  | flush connection n result => exact flush_inv h hpromise hstep
  | shutdown connection => exact shutdown_inv h hstep
  | reset connection => exact reset_inv h hstep

theorem run_inv {maxSize : Nat} {events : List (SessionEvent S)} {t : Sessions S}
    (hpromise : (machine S).Guarded Promise (init maxSize) events)
    (hrun : (machine S).run (init maxSize) events = some t) : t.Inv :=
  (machine S).guarded_invariant (fun _ _ _ hinv hp hstep => step_inv hinv hp hstep) events _ _
    (init_inv maxSize) hpromise hrun

/-- The header of a session has one chunk, and says its size. -/
theorem header_eq {added : List S} {tail : Nat} {σ : Session} (h : WellFormed added tail σ) :
    ∃ digits body, σ.header = httpRequestCommonFragment ++ σ.hostHeaderFragment ++ endOfLineFragment ++
        (digits ++ endOfLineFragment) ++ body ++ endOfLineFragment ∧
      readHex 0 digits = some body.length := by
  have hlt := headerBody_length_lt h.common_lt σ.numDroppedSpans
  obtain ⟨digits, heq, hread⟩ := readHex_writeChunkHeader hlt
  exact ⟨digits, _, by rw [← heq]; rfl, hread⟩

/-- A stream is completed when its session has been taken to the end of the terminal chunk. -/
theorem Live.completed_iff {added : List S} {tail : Nat} {c : ConnectionStream S} {σ : Session}
    (h : Live added tail c σ) :
    c.completed = true ↔ σ.atShutdown.isSome = true ∧ σ.taken = σ.stream added := by
  have hempty := h.inv.terminal_empty
  unfold EmptyAtEnd at hempty
  rw [completed, hempty, ← h.stream, ← h.shuttingDown]
  constructor
  · intro hnil
    have hne : bytes c.terminalStream ≠ terminalFragment := by
      rw [hnil]
      decide
    obtain ⟨hs, hheader, hremnant⟩ := h.inv.terminal hne
    refine ⟨hs, ?_⟩
    simp [rest, hheader, hremnant, remnantBytes, hnil]
  · rintro ⟨hs, htaken⟩
    have hrest : c.rest = [] := List.self_eq_append_right.mp htaken
    rw [rest, hs, List.append_eq_nil_iff] at hrest
    exact hrest.2

/-- **Every session is a prefix of one chunked request** with spans of its own. -/
theorem session_isPrefix {maxSize : Nat} {events : List (SessionEvent S)} {t : Sessions S}
    (hpromise : (machine S).Guarded Promise (init maxSize) events)
    (hrun : (machine S).run (init maxSize) events = some t) :
    (∀ σ ∈ t.all,
      σ.taken <+: σ.header ++ Session.spanBytes t.added σ.spans ++ σ.terminal ∧
      (∃ digits body, σ.header = httpRequestCommonFragment ++ σ.hostHeaderFragment ++ endOfLineFragment ++
          (digits ++ endOfLineFragment) ++ body ++ endOfLineFragment ∧
        readHex 0 digits = some body.length) ∧
      σ.spans.Pairwise (· < ·) ∧ (∀ i ∈ σ.spans, i < t.added.length) ∧
      ∀ spans, σ.atShutdown = some spans → σ.spans = spans) ∧
    (t.all.flatMap Session.spans).Nodup ∧
    ∀ c σ, (c, σ) ∈ t.connections → c.shuttingDown = σ.atShutdown.isSome ∧
      (c.completed = true ↔ σ.atShutdown.isSome = true ∧
        σ.taken = σ.header ++ Session.spanBytes t.added σ.spans ++ terminalFragment) := by
  have hinv := run_inv hpromise hrun
  refine ⟨?_, hinv.begun.nodup_iff.mpr List.nodup_range, ?_⟩
  · intro σ hmem
    have hwell := hinv.wellFormed_of_mem hmem
    exact ⟨hwell.isPrefix, header_eq hwell, hwell.sorted,
      fun i hi => Nat.lt_of_lt_of_le (hwell.lt i hi) hinv.tail_le, hwell.frozen⟩
  · intro c σ hmem
    have hlive := hinv.live c σ hmem
    refine ⟨hlive.shuttingDown, hlive.completed_iff.trans (and_congr_right fun hs => ?_)⟩
    rw [Session.stream, Session.terminal, if_pos hs]

/-- A span cut after the first byte of its second fragment, and finished with the terminal chunk. -/
def cutRun : List (SessionEvent FragmentArrayInputStream) :=
  [.addSpan (.ofFragments [ascii "2\r\n", ascii "ab\r\n"]), .construct [] [], .flush 0 148 true,
    .shutdown 0, .flush 0 8 true]

set_option maxRecDepth 4000 in
theorem cutRun_promise : (machine FragmentArrayInputStream).Guarded Promise (init 1) cutRun := by
  refine ⟨⟨FragmentArrayInputStream.wellFormed_ofFragments _, _, _, rfl, by decide⟩, fun t ht => ?_⟩
  cases ht
  refine ⟨show 0 < 2 ^ 31 by decide, fun t ht => ?_⟩
  cases ht
  refine ⟨fun c σ hget => ?_, fun t ht => ?_⟩
  · cases hget
    decide +kernel
  cases ht
  refine ⟨trivial, fun t ht => ?_⟩
  cases ht
  refine ⟨fun c σ hget => ?_, fun t ht => trivial⟩
  cases hget
  decide +kernel

theorem cutRun_isPrefix : ∃ t, (machine FragmentArrayInputStream).run (init 1) cutRun = some t ∧
    (t.connections.map fun c => c.1.completed) = [true] ∧ (t.all.flatMap Session.spans).Nodup := by
  have hrun : (((machine FragmentArrayInputStream).run (init 1) cutRun).map fun t =>
      t.connections.map fun c => c.1.completed) = some [true] := by
    decide +kernel
  obtain ⟨t, hrun, hcompleted⟩ := Option.map_eq_some_iff.mp hrun
  exact ⟨t, hrun, hcompleted, (session_isPrefix cutRun_promise hrun).2.1⟩

end Sessions
end Lightstep.Recorder

import Mathlib.Algebra.Order.Ring.Nat
import Mathlib.Algebra.Ring.Int.Defs
import Lightstep.Common.JsonFaithful
import Lightstep.Library.Join
import Lightstep.Tracer.Legacy.LegacySpan
import Lightstep.Tracer.Propagation.Propagator

/-! The trace state of a span, from those of its references.

A separator is put in front of every state but for the first ones that are empty, so an empty state after one
that is not leaves an empty member behind. -/
namespace Lightstep.Tracer
open Common Library

def SpanContextPointer.traceState? : SpanContextPointer → Option (List UInt8)
  | lightStep context => some context.traceState
  | _ => none

/-- The trace states of the references that have a context of this library. -/
def validTraceStates (references : List SpanReference) : List (List UInt8) :=
  references.filterMap fun reference => reference.2.traceState?

def listSeparator : UInt8 := 44

/-- The nonempty states are joined in order, and an injected header has only members of theirs. -/
structure Joined (states : List (List UInt8)) (traceState : List UInt8) : Prop where
  eq : traceState = [listSeparator].intercalate (states.filter (!·.isEmpty))
  members : ∀ c headers value, TraceContextPropagator.injectSpanContext (mapWriter (· == ·)) c traceState [] = .ok headers →
    (TraceContextPropagator.traceStateHeaderKey, value) ∈ headers → ∀ m ∈ value.splitOn listSeparator,
      ∃ state ∈ states, state ≠ [] ∧ m ∈ state.splitOn listSeparator

/-- No state is empty after one that is not. -/
def NoneEmptyAfter (states : List (List UInt8)) : Prop := [] ∉ states.dropWhile List.isEmpty

/-! ### Appending states -/

theorem appendTraceState_of_ne {traceState : List UInt8} (h : traceState ≠ []) (keyValues : List UInt8) :
    appendTraceState traceState keyValues = traceState ++ listSeparator :: keyValues := by
  have hcomma : ascii "," = [listSeparator] := by decide
  rw [appendTraceState, if_neg h, hcomma, List.append_assoc]
  rfl

theorem foldl_appendTraceState_of_ne {traceState : List UInt8} (h : traceState ≠ []) (states : List (List UInt8)) :
    states.foldl appendTraceState traceState = [listSeparator].intercalate (traceState :: states) := by
  induction states generalizing traceState with
  | nil => simp
  | cons state rest ih =>
    rw [List.foldl_cons, appendTraceState_of_ne h, ih (by simp), List.append_cons, intercalate_append_cons,
      List.intercalate_cons_cons]

/-- The fold over all states: the empty ones in front leave nothing. -/
theorem foldl_appendTraceState (states : List (List UInt8)) :
    states.foldl appendTraceState [] = [listSeparator].intercalate (states.dropWhile List.isEmpty) := by
  induction states with
  | nil => rfl
  | cons state rest ih =>
    cases state with
    | nil =>
      rw [List.dropWhile_cons_of_pos (by rfl)]
      exact ih
    | cons c state =>
      rw [List.dropWhile_cons_of_neg (by simp)]
      exact foldl_appendTraceState_of_ne (List.cons_ne_nil c state) rest

theorem filter_dropWhile (states : List (List UInt8)) :
    (states.dropWhile List.isEmpty).filter (!·.isEmpty) = states.filter (!·.isEmpty) := by
  induction states with
  | nil => rfl
  | cons state rest ih =>
    cases state with
    | nil =>
      rw [List.dropWhile_cons_of_pos (by rfl), List.filter_cons_of_neg (by simp)]
      exact ih
    | cons c state => rw [List.dropWhile_cons_of_neg (by simp)]

/-! ### The header -/

/-- The header has the state as it is. -/
theorem eq_of_mem_injected {c : TraceContext} {traceState value : List UInt8} {headers : List Header}
    (h : TraceContextPropagator.injectSpanContext (mapWriter (· == ·)) c traceState [] = .ok headers)
    (hmem : (TraceContextPropagator.traceStateHeaderKey, value) ∈ headers) : traceState ≠ [] ∧ value = traceState := by
  unfold TraceContextPropagator.injectSpanContext at h
  have hset : (mapWriter (· == ·)).set TraceContextPropagator.traceParentHeaderKey c.serializeTraceContext [] =
      .ok [(TraceContextPropagator.traceParentHeaderKey, c.serializeTraceContext)] := rfl
  have hne : TraceContextPropagator.traceStateHeaderKey ≠ TraceContextPropagator.traceParentHeaderKey := by decide
  rw [hset] at h
  simp only [bind, Except.bind] at h
  split at h
  case isTrue =>
    cases h
    exact absurd (congrArg Prod.fst (List.mem_singleton.mp hmem)) hne
  case isFalse hstate =>
    have hfresh : ∀ header ∈ [(TraceContextPropagator.traceParentHeaderKey, c.serializeTraceContext)],
        ¬ (header.1 == TraceContextPropagator.traceStateHeaderKey) = true := by
      intro header hheader
      rw [List.mem_singleton.mp hheader]
      exact fun heq => hne (beq_iff_eq.mp heq).symm
    have hheaders : [(TraceContextPropagator.traceParentHeaderKey, c.serializeTraceContext)] ++
        [(TraceContextPropagator.traceStateHeaderKey, traceState)] = headers := by
      rw [← setHeader_of_fresh hfresh]
      exact Except.ok.inj h
    rw [← hheaders] at hmem
    rcases List.mem_append.mp hmem with hmem | hmem
    · exact absurd (congrArg Prod.fst (List.mem_singleton.mp hmem)) hne
    · exact ⟨hstate, congrArg Prod.snd (List.mem_singleton.mp hmem)⟩

/-! ### Joining -/

theorem joined_iff (states : List (List UInt8)) :
    Joined states (states.foldl appendTraceState []) ↔ NoneEmptyAfter states := by
  rw [foldl_appendTraceState, NoneEmptyAfter]
  cases hstates : states.dropWhile List.isEmpty with
  | nil =>
    refine iff_of_true ⟨?_, fun c headers value hheaders hvalue => ?_⟩ (by simp)
    · rw [← filter_dropWhile, hstates]
      rfl
    · exact absurd rfl (eq_of_mem_injected hheaders hvalue).1
  | cons state rest =>
    have hne : state ≠ [] := by
      have hhead := List.head?_dropWhile_not List.isEmpty states
      rw [hstates] at hhead
      simpa using hhead
    rw [← intercalate_filter_eq_iff hne rest, ← hstates, filter_dropWhile]
    refine ⟨Joined.eq, fun heq => ⟨heq, fun c headers value hheaders hvalue m hm => ?_⟩⟩
    rw [(eq_of_mem_injected hheaders hvalue).2, heq] at hm
    cases hfilter : states.filter (!·.isEmpty) with
    | nil =>
      rw [hfilter] at heq
      exact absurd heq (eq_of_mem_injected hheaders hvalue).1
    | cons first others =>
      rw [hfilter, splitOn_intercalate_cons, ← hfilter] at hm
      obtain ⟨part, hpart, hmem⟩ := List.mem_flatMap.mp hm
      obtain ⟨hpart, hnonempty⟩ := List.mem_filter.mp hpart
      exact ⟨part, hpart, by simpa using hnonempty, hmem⟩

/-! ### The spans -/

namespace Span

theorem traceState_addReference (st : Span × Nat) (reference : SpanReference) :
    (addReference st reference).1.traceState =
      reference.2.traceState?.elim st.1.traceState (appendTraceState st.1.traceState) := by
  obtain ⟨span, count⟩ := st
  obtain ⟨type, pointer⟩ := reference
  cases pointer with
  | null => rfl
  | foreign => rfl
  | lightStep context =>
    simp only [addReference, setSpanReference]
    split <;> rfl

theorem traceState_generateIds (generated : Nat → UInt64) (st : Span × Nat) :
    (generateIds generated st).traceState = st.1.traceState := by
  unfold generateIds
  split <;> rfl

variable [DoubleFormat]

theorem traceState_foldl_addTag (tags : List (List UInt8 × Value)) (span : Span) :
    (tags.foldl addTag span).traceState = span.traceState := by
  induction tags generalizing span with
  | nil => rfl
  | cons tag rest ih => exact ih (addTag span tag)

theorem traceState_new (recorder : SpanRecorder) (steadyNow : SteadyTime) (generated : Nat → UInt64)
    (directBuffer : List UInt8 → (n : Nat) → Option (Vector UInt8 n)) (operationName : List UInt8)
    (options : StartSpanOptions) :
    (new recorder steadyNow generated directBuffer operationName options).traceState =
      (validTraceStates options.references).foldl appendTraceState [] := by
  simp only [new, traceState_foldl_addTag, traceState_generateIds]
  exact foldl_view (fun st : Span × Nat => st.1.traceState) traceState_addReference options.references _

end Span

namespace LegacySpan

theorem traceState_addReference (span : LegacySpan) (reference : SpanReference) :
    (addReference span reference).traceState =
      reference.2.traceState?.elim span.traceState (appendTraceState span.traceState) := by
  obtain ⟨type, pointer⟩ := reference
  cases pointer with
  | null => rfl
  | foreign => rfl
  | lightStep context =>
    simp only [addReference, setSpanReference]
    split <;> rfl

theorem traceState_generateIds (generated : Nat → UInt64) (span : LegacySpan) :
    (generateIds generated span).traceState = span.traceState := by
  unfold generateIds
  split <;> rfl

variable [DoubleFormat]

theorem traceState_foldl_addTag (tags : List (List UInt8 × Value)) (span : LegacySpan) :
    (tags.foldl addTag span).traceState = span.traceState := by
  induction tags generalizing span with
  | nil => rfl
  | cons tag rest ih => exact ih (addTag span tag)

theorem traceState_new (recorder : SpanRecorder) (steadyNow : SteadyTime) (generated : Nat → UInt64)
    (operationName : List UInt8) (options : StartSpanOptions) :
    (new recorder steadyNow generated operationName options).traceState =
      (validTraceStates options.references).foldl appendTraceState [] := by
  simp only [new, traceState_generateIds, traceState_foldl_addTag]
  split
  all_goals exact foldl_view LegacySpan.traceState traceState_addReference options.references _

end LegacySpan

/-- **The states are joined exactly if none is empty after one that is not.** -/
theorem traceStates_joined_iff [DoubleFormat] (recorder : SpanRecorder) (steadyNow : SteadyTime)
    (generated : Nat → UInt64) (directBuffer : List UInt8 → (n : Nat) → Option (Vector UInt8 n))
    (operationName : List UInt8) (options : StartSpanOptions) :
    (Joined (validTraceStates options.references)
        (Span.new recorder steadyNow generated directBuffer operationName options).traceState ↔
      NoneEmptyAfter (validTraceStates options.references)) ∧
    (Joined (validTraceStates options.references)
        (LegacySpan.new recorder steadyNow generated operationName options).traceState ↔
      NoneEmptyAfter (validTraceStates options.references)) := by
  rw [Span.traceState_new, LegacySpan.traceState_new]
  exact ⟨joined_iff _, joined_iff _⟩

/-- A parent with a state, and one without. -/
def trailingEmpty : StartSpanOptions :=
  ⟨0, 0, [(.childOfRef, .lightStep ⟨0, 1, 2, 1, ascii "a=1", []⟩), (.followsFromRef, .lightStep ⟨0, 1, 3, 1, [], []⟩)], []⟩

def plainRecorder : SpanRecorder := ⟨[], [], 0, id⟩

theorem trailingEmpty_not_joined :
    (@Span.new zeroFormat plainRecorder 0 UInt64.ofNat (fun _ _ => none) [] trailingEmpty).traceState = ascii "a=1," ∧
    ¬ Joined (validTraceStates trailingEmpty.references)
      (@Span.new zeroFormat plainRecorder 0 UInt64.ofNat (fun _ _ => none) [] trailingEmpty).traceState ∧
    ¬ Joined (validTraceStates trailingEmpty.references)
      (@LegacySpan.new zeroFormat plainRecorder 0 UInt64.ofNat [] trailingEmpty).traceState := by
  rw [@Span.traceState_new zeroFormat, @LegacySpan.traceState_new zeroFormat]
  have hne : ¬ Joined (validTraceStates trailingEmpty.references)
      ((validTraceStates trailingEmpty.references).foldl appendTraceState []) :=
    fun hjoined => absurd hjoined.eq (by decide)
  exact ⟨by decide, hne, hne⟩

end Lightstep.Tracer

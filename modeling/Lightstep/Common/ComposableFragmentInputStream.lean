import Lightstep.Common.FragmentInputStream

/-! A chain of streams that is itself a stream.

The chain is the node and those its `next_` links lead to. A node's own interface,
the `Segment` functions of the source, has the four operations of a stream. -/
namespace Lightstep.Common
open Library FragmentInputStream LawfulFragmentInputStream SeekableFragmentInputStream

structure ComposableFragmentInputStream (S : Type) where
  segments : List S
  deriving DecidableEq

namespace ComposableFragmentInputStream
variable {S : Type} [FragmentInputStream S]

def seekSegments : List S → Nat → Nat → List S
  | [], _, _ => []
  | s :: rest, fragmentIndex, position =>
    if fragmentIndex < numFragments s then seek s fragmentIndex position :: rest
    else clear s :: seekSegments rest (fragmentIndex - numFragments s) position

instance : FragmentInputStream (ComposableFragmentInputStream S) where
  numFragments c := (c.segments.map numFragments).sum
  forEachFragment c callback st := iterate (fun st s => forEachFragment s callback st) st c.segments
  clear c := ⟨c.segments.map clear⟩
  seek c fragmentIndex position := ⟨seekSegments c.segments fragmentIndex position⟩

/-- `Append`, which leaves the nodes of the other chain after those of this one. -/
def append (c stream : ComposableFragmentInputStream S) : ComposableFragmentInputStream S :=
  ⟨c.segments ++ stream.segments⟩

/-- Where a list is split, the split of its first part or of its second part. -/
theorem append_eq_append_cons {a b before after : List Fragment} {fragment : Fragment}
    (h : a ++ b = before ++ fragment :: after) :
    (before.length < a.length ∧ ∃ after', a = before ++ fragment :: after' ∧ after = after' ++ b) ∨
      (a.length ≤ before.length ∧ ∃ before', before = a ++ before' ∧ b = before' ++ fragment :: after) := by
  rcases List.append_eq_append_iff.mp h with ⟨tail, hbefore, htail⟩ | ⟨tail, ha, htail⟩
  · refine .inr ⟨?_, tail, hbefore, htail⟩
    rw [hbefore, List.length_append]
    omega
  · cases tail with
    | nil =>
      rw [List.append_nil] at ha
      exact .inr ⟨Nat.le_of_eq (by rw [ha]), [], by rw [ha, List.append_nil], htail.symm⟩
    | cons f tail =>
      obtain ⟨rfl, hafter⟩ := List.cons.inj htail
      refine .inl ⟨?_, tail, ha, hafter⟩
      rw [ha, List.length_append, List.length_cons]
      omega

variable [SeekableFragmentInputStream S]

/-- The node a position falls in splits the chain. -/
theorem seekSegments_spec {segments : List S} (hs : ∀ s ∈ segments, Valid s) {before after : List Fragment}
    {fragment : Fragment} {position : Nat} (h : segments.flatMap fragments = before ++ fragment :: after)
    (hlt : position < fragment.length) :
    (∀ s ∈ seekSegments segments before.length position, Valid s) ∧
      (seekSegments segments before.length position).flatMap fragments = fragment.drop position :: after := by
  induction segments generalizing before with
  | nil =>
    cases before with
    | nil => cases h
    | cons b rest => cases h
  | cons s rest ih =>
    have hvalid := hs s (List.mem_cons_self ..)
    have hrest : ∀ t ∈ rest, Valid t := fun t ht => hs t (List.mem_cons_of_mem s ht)
    rw [List.flatMap_cons] at h
    rw [seekSegments, numFragments_eq hvalid]
    rcases append_eq_append_cons h with ⟨hn, after', hfragments, hafter⟩ | ⟨hn, before', hbefore, htail⟩
    · rw [if_pos hn]
      refine ⟨?_, ?_⟩
      · intro t ht
        rcases List.mem_cons.mp ht with rfl | ht
        · exact valid_seek hvalid hfragments hlt
        · exact hrest t ht
      · rw [List.flatMap_cons, fragments_seek hvalid hfragments hlt, hafter, List.cons_append]
    · rw [if_neg (Nat.not_lt_of_le hn)]
      have hlen : before.length - (fragments s).length = before'.length := by
        rw [hbefore, List.length_append, Nat.add_sub_cancel_left]
      obtain ⟨hv, hf⟩ := ih hrest htail
      rw [hlen]
      refine ⟨?_, ?_⟩
      · intro t ht
        rcases List.mem_cons.mp ht with rfl | ht
        · exact valid_clear hvalid
        · exact hv t ht
      · rw [List.flatMap_cons, fragments_clear hvalid, List.nil_append, hf]

theorem flatMap_clear {segments : List S} (hs : ∀ s ∈ segments, Valid s) :
    (segments.map clear).flatMap fragments = [] := by
  refine List.flatMap_eq_nil_iff.mpr ?_
  intro t ht
  obtain ⟨s, hmem, rfl⟩ := List.mem_map.mp ht
  exact fragments_clear (hs s hmem)

instance : SeekableFragmentInputStream (ComposableFragmentInputStream S) where
  Valid c := ∀ s ∈ c.segments, Valid s
  fragments c := c.segments.flatMap fragments
  numFragments_eq h := sum_numFragments h
  forEachFragment_eq f st h := LawfulFragmentInputStream.iterate_forEachFragment h f st
  valid_clear h := fun t ht => by
    obtain ⟨s, hmem, rfl⟩ := List.mem_map.mp ht
    exact valid_clear (h s hmem)
  fragments_clear h := flatMap_clear h
  valid_seek h hsplit hlt := (seekSegments_spec h hsplit hlt).1
  fragments_seek h hsplit hlt := (seekSegments_spec h hsplit hlt).2

end ComposableFragmentInputStream
end Lightstep.Common

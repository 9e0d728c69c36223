import Lightstep.Common.StreamWriter
import Lightstep.Common.FragmentArrayInputStream

/-! Consuming streams again and again.

A stream that has been sought is sought from where it stands, so that to consume it in two parts is to
consume it at once, and the assertions of `Seek` hold wherever `Consume` stops. -/
namespace Lightstep.Common
open Library FragmentInputStream LawfulFragmentInputStream ConsumableFragmentInputStream
open SeekableFragmentInputStream (fragments_seek valid_seek fragments_clear)

/-- The assertions that a `Seek` checks. -/
class SeekAssertions (S : Type) where
  seekAsserts : S → Nat → Nat → Bool

export SeekAssertions (seekAsserts)

instance : SeekAssertions FragmentArrayInputStream where
  seekAsserts s fragmentIndex position :=
    let t := seek s fragmentIndex position
    decide (s.fragmentIndex + fragmentIndex < s.fragments.length) &&
      decide (t.fragmentIndex < t.fragments.length) &&
      (t.fragments[t.fragmentIndex]?).any fun fragment => decide (t.position < fragment.length)

instance : SeekAssertions ChainedStream where
  seekAsserts s relativeFragmentIndex position :=
    let t := seek s relativeFragmentIndex position
    s.outputClosed && decide (s.fragmentIndex + relativeFragmentIndex ≤ s.numBlocks) &&
      (t.currentBlock.bind fun i => t.blocks[i]?).any fun block => decide (t.fragmentPosition ≤ block.size)

namespace ComposableFragmentInputStream
variable {S : Type} [FragmentInputStream S] [SeekAssertions S]

def seekAssertsSegments : List S → Nat → Nat → Bool
  | [], fragmentIndex, position => fragmentIndex == 0 && position == 0
  | s :: rest, fragmentIndex, position =>
    if fragmentIndex < numFragments s then seekAsserts s fragmentIndex position
    else seekAssertsSegments rest (fragmentIndex - numFragments s) position

instance : SeekAssertions (ComposableFragmentInputStream S) where
  seekAsserts c fragmentIndex position := seekAssertsSegments c.segments fragmentIndex position

end ComposableFragmentInputStream

instance {S T : Type} [SeekAssertions S] [SeekAssertions T] : SeekAssertions (S ⊕ T) where
  seekAsserts := Sum.elim seekAsserts seekAsserts

/-- The assertions that a `Consume` checks. -/
def consumeAsserts {S : Type} [FragmentInputStream S] [SeekAssertions S] : List S → Nat → Bool
  | [], _ => true
  | s :: rest, n =>
    match forEachFragment s consumeFragment (n, 0) with
    | ((n, fragmentIndex), false) => seekAsserts s fragmentIndex n
    | ((n, _), true) => consumeAsserts rest n

/-- A stream that `Seek` may move more than once. -/
class RepositionableFragmentInputStream (S : Type) [FragmentInputStream S] [SeekAssertions S] extends
    SeekableFragmentInputStream S where
  seekAsserts_eq {s : S} {before after : List Fragment} {fragment : Fragment} {position : Nat} :
    Valid s → fragments s = before ++ fragment :: after → position < fragment.length →
    seekAsserts s before.length position = true
  seek_seek {s : S} {before after before' after' : List Fragment} {fragment fragment' : Fragment}
    {position position' : Nat} :
    Valid s → fragments s = before ++ fragment :: after → position < fragment.length →
    fragment.drop position :: after = before' ++ fragment' :: after' → position' < fragment'.length →
    seek (seek s before.length position) before'.length position' =
      seek s (before.length + before'.length) (if before' = [] then position + position' else position')
  clear_seek {s : S} {before after : List Fragment} {fragment : Fragment} {position : Nat} :
    Valid s → fragments s = before ++ fragment :: after → position < fragment.length →
    clear (seek s before.length position) = clear s
  clear_clear {s : S} : Valid s → clear (clear s) = clear s

/-- A stream that `Consume` may be called on more than once. -/
class ReconsumableFragmentInputStream (S : Type) [FragmentInputStream S] [SeekAssertions S] extends
    ConsumableFragmentInputStream S where
  valid_advance {s : S} (n : Nat) : Valid s → Valid (advance s n)
  seekAsserts_locate {s : S} {n : Nat} : Valid s → n < (bytes s).length →
    seekAsserts s (locate (fragments s) n).1 (locate (fragments s) n).2 = true
  advance_advance {s : S} (n m : Nat) : Valid s → advance (advance s n) m = advance s (n + m)

namespace FragmentArrayInputStream

theorem seek_seek (s : FragmentArrayInputStream) (i j position position' : Nat) :
    seek (seek s i position) j position' = seek s (i + j) (if j = 0 then position + position' else position') := by
  by_cases hi : i = 0
  · by_cases hj : j = 0
    · simp [FragmentInputStream.seek, hi, hj, Nat.add_assoc]
    · simp [FragmentInputStream.seek, hi, hj]
  · by_cases hj : j = 0
    · simp [FragmentInputStream.seek, hi, hj]
    · simp [FragmentInputStream.seek, hi, hj, Nat.add_assoc]

theorem seekAsserts_eq {s : FragmentArrayInputStream} {before after : List Fragment} {fragment : Fragment}
    {position : Nat} (h : s.remaining = before ++ fragment :: after) (hlt : position < fragment.length) :
    seekAsserts s before.length position = true := by
  have hdrop := drop_of_remaining h
  by_cases hb : before = []
  · rw [if_pos hb] at hdrop
    obtain ⟨current, hcurrent, rfl⟩ := hdrop
    have hget : s.fragments[s.fragmentIndex]? = some current := by
      rw [← Nat.add_zero s.fragmentIndex, ← List.getElem?_drop, hcurrent]
      rfl
    have hindex := (List.getElem?_eq_some_iff.mp hget).1
    rw [List.length_drop] at hlt
    subst hb
    simp only [seekAsserts, FragmentInputStream.seek, List.length_nil, if_true, Nat.add_zero, hindex, hget,
      decide_true, Bool.true_and, Option.any_some, decide_eq_true_eq]
    omega
  · rw [if_neg hb] at hdrop
    have hget : s.fragments[s.fragmentIndex + before.length]? = some fragment := by
      rw [← Nat.add_zero (s.fragmentIndex + before.length), ← List.getElem?_drop, hdrop]
      rfl
    have hindex := (List.getElem?_eq_some_iff.mp hget).1
    have hlen : ¬ before.length = 0 := fun h => hb (List.length_eq_zero_iff.mp h)
    simp only [seekAsserts, FragmentInputStream.seek, if_neg hlen, hindex, hget, decide_true, Bool.true_and,
      Option.any_some, hlt]

end FragmentArrayInputStream

instance : RepositionableFragmentInputStream FragmentArrayInputStream where
  seekAsserts_eq _ hsplit hlt := FragmentArrayInputStream.seekAsserts_eq hsplit hlt
  seek_seek _ _ _ _ _ := by simp only [FragmentArrayInputStream.seek_seek, List.length_eq_zero_iff]
  clear_seek _ _ _ := rfl
  clear_clear _ := rfl

namespace ChainedStream

theorem seek_seek (s : ChainedStream) (i j position position' : Nat) :
    seek (seek s i position) j position' = seek s (i + j) (if j = 0 then position + position' else position') := by
  by_cases hi : i = 0
  · by_cases hj : j = 0
    · simp [FragmentInputStream.seek, hi, hj, Nat.add_assoc]
    · simp [FragmentInputStream.seek, hi, hj]
  · by_cases hj : j = 0
    · simp [FragmentInputStream.seek, hi, hj]
    · simp [FragmentInputStream.seek, hi, hj, Nat.add_assoc, Function.comp_def]

theorem clear_seek (s : ChainedStream) (i position : Nat) : clear (seek s i position) = clear s := by
  by_cases hi : i = 0
  · simp [FragmentInputStream.seek, FragmentInputStream.clear, hi]
  · simp [FragmentInputStream.seek, FragmentInputStream.clear, hi]

theorem fragmentIndex_seek (s : ChainedStream) (i position : Nat) :
    (seek s i position).fragmentIndex = s.fragmentIndex + i := by
  by_cases hi : i = 0
  · simp [FragmentInputStream.seek, hi]
  · simp [FragmentInputStream.seek, hi]

theorem blocks_seek (s : ChainedStream) (i position : Nat) : (seek s i position).blocks = s.blocks := by
  by_cases hi : i = 0
  · simp [FragmentInputStream.seek, hi]
  · simp [FragmentInputStream.seek, hi]

theorem Live.seekAsserts_eq {s : ChainedStream} (h : s.Live) {before after : List Fragment} {fragment : Fragment}
    {position : Nat} (hsplit : s.remaining = before ++ fragment :: after) (hlt : position < fragment.length) :
    seekAsserts s before.length position = true := by
  have hlive := (h.seek hsplit hlt).1
  have hindex := hlive.fragmentIndex_lt
  obtain ⟨block, rest, hdrop, -⟩ := hlive.drop
  have hposition := hlive.fragmentPosition_le block rest hdrop
  have hblock := congrArg (·[0]?) hdrop
  rw [fragmentIndex_seek, blocks_seek] at hindex
  simp only [List.getElem?_drop, Nat.add_zero, List.getElem?_cons_zero] at hblock
  rw [Block.fragment, List.length_take] at hposition
  simp only [seekAsserts, h.outputClosed, h.numBlocks, hlive.currentBlock, Option.bind_some, hblock, Option.any_some,
    Bool.true_and, Bool.and_eq_true, decide_eq_true_eq]
  omega

end ChainedStream

instance : RepositionableFragmentInputStream ChainedStream where
  seekAsserts_eq {_ _ _ _ _} h hsplit hlt := by
    rcases h with h | h
    · exact h.seekAsserts_eq hsplit hlt
    · exact absurd (h.remaining_eq.symm.trans hsplit).symm (List.append_ne_nil_of_right_ne_nil _ (List.cons_ne_nil _ _))
  seek_seek _ _ _ _ _ := by simp only [ChainedStream.seek_seek, List.length_eq_zero_iff]
  clear_seek _ _ _ := ChainedStream.clear_seek _ _ _
  clear_clear _ := rfl

namespace ComposableFragmentInputStream
variable {S : Type} [FragmentInputStream S] [SeekAssertions S] [RepositionableFragmentInputStream S]
open RepositionableFragmentInputStream

theorem seekAssertsSegments_eq {segments : List S} (hs : ∀ s ∈ segments, Valid s) {before after : List Fragment}
    {fragment : Fragment} {position : Nat} (h : segments.flatMap fragments = before ++ fragment :: after)
    (hlt : position < fragment.length) : seekAssertsSegments segments before.length position = true := by
  induction segments generalizing before with
  | nil =>
    cases before with
    | nil => cases h
    | cons b rest => cases h
  | cons s rest ih =>
    have hvalid := hs s (List.mem_cons_self ..)
    rw [List.flatMap_cons] at h
    rw [seekAssertsSegments, numFragments_eq hvalid]
    rcases append_eq_append_cons h with ⟨hn, after', hfragments, -⟩ | ⟨hn, before', hbefore, htail⟩
    · rw [if_pos hn]
      exact seekAsserts_eq hvalid hfragments hlt
    · rw [if_neg (Nat.not_lt_of_le hn), hbefore, List.length_append, Nat.add_sub_cancel_left]
      exact ih (fun t ht => hs t (List.mem_cons_of_mem s ht)) htail

/-- **Seeking twice** from node to node is seeking once. The second seek starts in the node that the
first one stopped in, and passes again over the nodes it cleared. -/
theorem seekSegments_seekSegments {segments : List S} (hs : ∀ s ∈ segments, Valid s)
    {before after before' after' : List Fragment} {fragment fragment' : Fragment} {position position' : Nat}
    (h : segments.flatMap fragments = before ++ fragment :: after) (hlt : position < fragment.length)
    (h' : fragment.drop position :: after = before' ++ fragment' :: after') (hlt' : position' < fragment'.length) :
    seekSegments (seekSegments segments before.length position) before'.length position' =
      seekSegments segments (before.length + before'.length)
        (if before' = [] then position + position' else position') := by
  induction segments generalizing before with
  | nil => rfl
  | cons s rest ih =>
    have hvalid := hs s (List.mem_cons_self ..)
    have hrest : ∀ t ∈ rest, Valid t := fun t ht => hs t (List.mem_cons_of_mem s ht)
    rw [List.flatMap_cons] at h
    rw [seekSegments, seekSegments, numFragments_eq hvalid]
    rcases append_eq_append_cons h with ⟨hn, middle, hfragments, hafter⟩ | ⟨hn, before₁, hbefore, htail⟩
    · have hcount : (fragments s).length = before.length + (middle.length + 1) := by
        rw [hfragments, List.length_append, List.length_cons]
      rw [if_pos hn, seekSegments, numFragments_eq (valid_seek hvalid hfragments hlt),
        fragments_seek hvalid hfragments hlt, List.length_cons]
      rw [hafter, ← List.cons_append] at h'
      rcases append_eq_append_cons h' with ⟨hn', after₂, hfragments', -⟩ | ⟨hn', before₂, hbefore', htail'⟩
      · rw [List.length_cons] at hn'
        rw [if_pos hn', if_pos (by omega), seek_seek hvalid hfragments hlt hfragments' hlt']
      · rw [List.length_cons] at hn'
        have hne : before' ≠ [] := fun hnil => by
          rw [hnil, List.length_nil] at hn'
          omega
        have hlen : before'.length - (middle.length + 1) = before.length + before'.length - (fragments s).length := by
          omega
        rw [if_neg (by omega), if_neg (by omega), if_neg hne, clear_seek hvalid hfragments hlt, hlen]
    · have hlen : before.length - (fragments s).length = before₁.length := by
        rw [hbefore, List.length_append, Nat.add_sub_cancel_left]
      have hlen' : before.length + before'.length - (fragments s).length = before₁.length + before'.length := by
        omega
      have hcleared : numFragments (clear s) = 0 := by
        rw [numFragments_eq (SeekableFragmentInputStream.valid_clear hvalid), fragments_clear hvalid, List.length_nil]
      rw [if_neg (by omega), if_neg (by omega), seekSegments, hcleared, if_neg (Nat.not_lt_zero _), Nat.sub_zero,
        clear_clear hvalid, hlen, hlen', ih hrest htail]

theorem map_clear_seekSegments {segments : List S} (hs : ∀ s ∈ segments, Valid s) {before after : List Fragment}
    {fragment : Fragment} {position : Nat} (h : segments.flatMap fragments = before ++ fragment :: after)
    (hlt : position < fragment.length) :
    (seekSegments segments before.length position).map clear = segments.map clear := by
  induction segments generalizing before with
  | nil => rfl
  | cons s rest ih =>
    have hvalid := hs s (List.mem_cons_self ..)
    rw [List.flatMap_cons] at h
    rw [seekSegments, numFragments_eq hvalid]
    rcases append_eq_append_cons h with ⟨hn, after', hfragments, -⟩ | ⟨hn, before', hbefore, htail⟩
    · rw [if_pos hn, List.map_cons, List.map_cons, clear_seek hvalid hfragments hlt]
    · have hrest := ih (fun t ht => hs t (List.mem_cons_of_mem s ht)) htail
      rw [if_neg (Nat.not_lt_of_le hn), hbefore, List.length_append, Nat.add_sub_cancel_left, List.map_cons,
        List.map_cons, clear_clear hvalid, hrest]

instance : RepositionableFragmentInputStream (ComposableFragmentInputStream S) where
  seekAsserts_eq h hsplit hlt := seekAssertsSegments_eq h hsplit hlt
  seek_seek h hsplit hlt hsplit' hlt' := congrArg mk (seekSegments_seekSegments h hsplit hlt hsplit' hlt')
  clear_seek h hsplit hlt := congrArg mk (map_clear_seekSegments h hsplit hlt)
  clear_clear {c} h := by
    apply congrArg mk
    show (c.segments.map clear).map clear = c.segments.map clear
    rw [List.map_map]
    apply List.map_congr_left
    intro s hs
    exact clear_clear (h s hs)

end ComposableFragmentInputStream

namespace RepositionableFragmentInputStream
variable {S : Type} [FragmentInputStream S] [SeekAssertions S] [RepositionableFragmentInputStream S]

/-- The split that a position and a position after it are found at. -/
theorem locate_locate {fragments before after before' after' : List Fragment} {fragment fragment' : Fragment}
    {position position' : Nat} (h : fragments = before ++ fragment :: after) (hlt : position < fragment.length)
    (h' : fragment.drop position :: after = before' ++ fragment' :: after') (hlt' : position' < fragment'.length) :
    locate fragments (before.flatten.length + position + (before'.flatten.length + position')) =
      (before.length + before'.length, if before' = [] then position + position' else position') := by
  cases before' with
  | nil =>
    obtain ⟨hfragment, -⟩ := List.cons.inj h'
    rw [← hfragment, List.length_drop] at hlt'
    have hat : before.flatten.length + position + (([] : List Fragment).flatten.length + position') =
        before.flatten.length + (position + position') := by
      rw [List.flatten_nil, List.length_nil]
      omega
    rw [h, hat, locate_at (by omega)]
    simp
  | cons f passed =>
    obtain ⟨rfl, hafter⟩ := List.cons.inj h'
    have hsplit : fragments = (before ++ fragment :: passed) ++ fragment' :: after' := by
      rw [h, hafter, List.append_assoc]
      rfl
    have hat : before.flatten.length + position + ((fragment.drop position :: passed).flatten.length + position') =
        (before ++ fragment :: passed).flatten.length + position' := by
      simp only [List.flatten_append, List.flatten_cons, List.length_append, List.length_drop]
      omega
    rw [hsplit, hat, locate_at hlt']
    simp

theorem advance_of_lt {s : S} {n : Nat} (hn : n < (bytes s).length) : advance s n = seekTo s n := if_pos hn

theorem advance_of_le {s : S} {n : Nat} (hn : (bytes s).length ≤ n) : advance s n = clear s :=
  if_neg (Nat.not_lt_of_le hn)

theorem advance_advance {s : S} (h : Valid s) (n m : Nat) : advance (advance s n) m = advance s (n + m) := by
  have hlength : (bytes (advance s n)).length = (bytes s).length - n := by
    rw [SeekableFragmentInputStream.bytes_advance h, List.length_drop]
  by_cases hn : n < (bytes s).length
  · obtain ⟨before, fragment, after, hsplit, hat, hindex, hlt⟩ := locate_split (fragments s) n hn
    have hadvance : advance s n = seek s before.length (locate (fragments s) n).2 := by
      rw [advance_of_lt hn, seekTo, hindex]
    have hfragments := fragments_seek h hsplit hlt
    rw [← hadvance] at hfragments
    by_cases hm : n + m < (bytes s).length
    · have hm' : m < (bytes (advance s n)).length := by omega
      obtain ⟨before', fragment', after', hsplit', hat', hindex', hlt'⟩ :=
        locate_split (fragments (advance s n)) m hm'
      have hboth := locate_locate hsplit hlt (hfragments.symm.trans hsplit') hlt'
      rw [← hat, ← hat'] at hboth
      calc advance (advance s n) m
          = seek (advance s n) before'.length (locate (fragments (advance s n)) m).2 := by
            rw [advance_of_lt hm', seekTo, hindex']
        _ = seek s (before.length + before'.length) (if before' = [] then (locate (fragments s) n).2 +
              (locate (fragments (advance s n)) m).2 else (locate (fragments (advance s n)) m).2) := by
            rw [← seek_seek h hsplit hlt (hfragments.symm.trans hsplit') hlt', ← hadvance]
        _ = advance s (n + m) := by rw [advance_of_lt hm, seekTo, hboth]
    · rw [advance_of_le (by omega), advance_of_le (Nat.le_of_not_lt hm), hadvance, clear_seek h hsplit hlt]
  · have hn := Nat.le_of_not_lt hn
    rw [advance_of_le (s := advance s n) (by omega), advance_of_le hn, advance_of_le (Nat.le_add_right_of_le hn),
      clear_clear h]

theorem seekAsserts_locate {s : S} (h : Valid s) {n : Nat} (hn : n < (bytes s).length) :
    seekAsserts s (locate (fragments s) n).1 (locate (fragments s) n).2 = true := by
  obtain ⟨before, fragment, after, hsplit, -, hindex, hlt⟩ := locate_split (fragments s) n hn
  rw [hindex]
  exact seekAsserts_eq h hsplit hlt

end RepositionableFragmentInputStream

instance {S : Type} [FragmentInputStream S] [SeekAssertions S] [RepositionableFragmentInputStream S] :
    ReconsumableFragmentInputStream S where
  valid_advance n h := SeekableFragmentInputStream.valid_advance h n
  seekAsserts_locate h hn := RepositionableFragmentInputStream.seekAsserts_locate h hn
  advance_advance n m h := RepositionableFragmentInputStream.advance_advance h n m

instance {S T : Type} [FragmentInputStream S] [FragmentInputStream T] [SeekAssertions S] [SeekAssertions T]
    [ReconsumableFragmentInputStream S] [ReconsumableFragmentInputStream T] :
    ReconsumableFragmentInputStream (S ⊕ T) where
  valid_advance {s} n h := by
    cases s with
    | inl s =>
      rw [advance_inl]
      exact ReconsumableFragmentInputStream.valid_advance (S := S) n h
    | inr t =>
      rw [advance_inr]
      exact ReconsumableFragmentInputStream.valid_advance (S := T) n h
  seekAsserts_locate {s} _ h hn := by
    cases s with
    | inl s => exact ReconsumableFragmentInputStream.seekAsserts_locate (S := S) h hn
    | inr t => exact ReconsumableFragmentInputStream.seekAsserts_locate (S := T) h hn
  advance_advance {s} n m h := by
    cases s with
    | inl s => rw [advance_inl, advance_inl, advance_inl, ReconsumableFragmentInputStream.advance_advance (S := S) n m h]
    | inr t => rw [advance_inr, advance_inr, advance_inr, ReconsumableFragmentInputStream.advance_advance (S := T) n m h]

namespace ReconsumableFragmentInputStream
variable {S : Type} [FragmentInputStream S] [SeekAssertions S] [ReconsumableFragmentInputStream S]

theorem bytes_advance {s : S} (h : Valid s) (n : Nat) : bytes (advance s n) = (bytes s).drop n := by
  rw [← remaining_advance h, remaining_eq (valid_advance n h)]
  rfl

theorem valid_consume {streams : List S} (h : ∀ s ∈ streams, Valid s) (n : Nat) :
    ∀ s ∈ (consume streams n).1, Valid s := by
  induction streams generalizing n with
  | nil => exact h
  | cons s rest ih =>
    have hs := h s (List.mem_cons_self ..)
    have hrest : ∀ t ∈ rest, Valid t := fun t ht => h t (List.mem_cons_of_mem s ht)
    rw [consume_cons hs]
    intro t ht
    split at ht
    · rcases List.mem_cons.mp ht with rfl | ht
      · exact valid_advance n hs
      · exact hrest t ht
    · rcases List.mem_cons.mp ht with rfl | ht
      · exact valid_advance n hs
      · exact ih hrest _ t ht

/-- No assertion fails wherever `Consume` stops. -/
theorem consumeAsserts_eq {streams : List S} (h : ∀ s ∈ streams, Valid s) (n : Nat) :
    consumeAsserts streams n = true := by
  induction streams generalizing n with
  | nil => rfl
  | cons s rest ih =>
    have hs := h s (List.mem_cons_self ..)
    rw [consumeAsserts, visits hs, iterate_consumeFragment]
    by_cases hn : n < (fragments s).flatten.length
    · rw [if_pos hn, Nat.zero_add]
      exact seekAsserts_locate hs hn
    · rw [if_neg hn]
      exact ih (fun t ht => h t (List.mem_cons_of_mem s ht)) _

/-- **Consuming twice is consuming once.** -/
theorem consume_consume {streams : List S} (h : ∀ s ∈ streams, Valid s) (n m : Nat) :
    consume (consume streams n).1 m = consume streams (n + m) := by
  induction streams generalizing n m with
  | nil => rfl
  | cons s rest ih =>
    have hs := h s (List.mem_cons_self ..)
    have hrest : ∀ t ∈ rest, Valid t := fun t ht => h t (List.mem_cons_of_mem s ht)
    have hlength : (bytes (advance s n)).length = (bytes s).length - n := by
      rw [bytes_advance hs, List.length_drop]
    rw [consume_cons hs, consume_cons hs]
    by_cases hn : n < (bytes s).length
    · rw [if_pos hn, consume_cons (valid_advance n hs), advance_advance n m hs, hlength]
      by_cases hm : n + m < (bytes s).length
      · rw [if_pos hm, if_pos (by omega)]
      · rw [if_neg hm, if_neg (by omega), Nat.sub_sub_right m (Nat.le_of_lt hn), Nat.add_comm m n]
    · have hm : m - (bytes (advance s n)).length = m := by omega
      have hnm : n - (bytes s).length + m = n + m - (bytes s).length := by omega
      rw [if_neg hn, if_neg (by omega), consume_cons (valid_advance n hs), advance_advance n m hs, hm,
        if_neg (by omega), ih hrest, hnm]

end ReconsumableFragmentInputStream

/-! ### The streams of the library -/

/-- The streams that `Consume` is given. -/
abbrev InputStream := FragmentArrayInputStream ⊕ ComposableFragmentInputStream ChainedStream

/-- An array of fragments or a chain of recorded spans, before any of it is consumed. -/
inductive Fresh : InputStream → Prop where
  | array (fragments : List Fragment) : Fresh (.inl (.ofFragments fragments))
  | chain {spans : List ChainedStream} (h : ∀ s ∈ spans, StreamWriter.Recorded s) : Fresh (.inr ⟨spans⟩)

theorem Fresh.valid {s : InputStream} (h : Fresh s) : Valid s := by
  cases h with
  | array fragments => exact FragmentArrayInputStream.wellFormed_ofFragments fragments
  | chain h => exact fun s hs => .inl (h s hs).live

section
variable {S : Type} [FragmentInputStream S]

/-- The bytes the streams pass to a callback, in order. -/
def contents (streams : List S) : List UInt8 := (streams.flatMap visited).flatten

/-- The streams after some calls of `Consume`. -/
def consumed (streams : List S) (earlier : List Nat) : List S :=
  earlier.foldl (fun streams n => (consume streams n).1) streams

/-- What a `Consume` of `n` bytes owes. -/
structure Drops [SeekAssertions S] (streams : List S) (n : Nat) : Prop where
  contents : contents (consume streams n).1 = (contents streams).drop n
  numFragments : ∀ s ∈ (consume streams n).1, numFragments s = (visited s).length
  asserts : consumeAsserts streams n = true
  result : (consume streams n).2 = true ↔ n = (Common.contents streams).length
  again : ∀ m, consume (consume streams n).1 m = consume streams (n + m)

variable [SeekAssertions S] [ReconsumableFragmentInputStream S]
open ReconsumableFragmentInputStream (valid_consume consume_consume consumeAsserts_eq)

theorem contents_eq {streams : List S} (h : ∀ s ∈ streams, Valid s) : contents streams = allBytes streams := by
  have hvisited : streams.map visited = streams.map fragments := List.map_congr_left fun s hs => visited_eq (h s hs)
  rw [contents, allBytes_eq, List.flatMap_def, List.flatMap_def, hvisited]

theorem valid_consumed {streams : List S} (h : ∀ s ∈ streams, Valid s) (earlier : List Nat) :
    ∀ s ∈ consumed streams earlier, Valid s := by
  induction earlier generalizing streams with
  | nil => exact h
  | cons n earlier ih => exact ih (valid_consume h n)

theorem drops_of_valid {streams : List S} (h : ∀ s ∈ streams, Valid s) {n : Nat}
    (hn : n ≤ (contents streams).length) : Drops streams n := by
  have hafter := valid_consume h n
  obtain ⟨hremaining, hall⟩ := consume_spec streams n h
  rw [contents_eq h] at hn
  refine ⟨?_, fun s hs => ?_, consumeAsserts_eq h n, ?_, consume_consume h n⟩
  · rw [contents_eq hafter, contents_eq h, ← allRemaining_eq hafter, hremaining]
  · rw [visited_eq (hafter s hs), numFragments_eq (hafter s hs)]
  · rw [hall, contents_eq h]
    exact ⟨Nat.le_antisymm hn, Nat.le_of_eq ∘ Eq.symm⟩

end

/-- **Consuming drops bytes**, whatever was consumed before. -/
theorem consume_drops {streams : List InputStream} (hfresh : ∀ s ∈ streams, Fresh s) (earlier : List Nat) {n : Nat}
    (hn : n ≤ (contents (consumed streams earlier)).length) : Drops (consumed streams earlier) n :=
  drops_of_valid (valid_consumed (fun s hs => (hfresh s hs).valid) earlier) hn

set_option maxRecDepth 8000 in
/-- An array with an empty fragment, and a span of six bytes of which two are passed over. -/
theorem consume_drops_boundary : ∃ span, StreamWriter.Recorded span ∧ visited span = [[7, 7, 7, 7]] ∧
    Drops (S := InputStream) (consumed [.inl (.ofFragments [[1, 2], [], [3]]), .inr ⟨[span]⟩] [1, 1]) 4 := by
  have hspan : ∃ w, StreamWriter.machine.run (.new ⟨0, List.replicate 256 0⟩)
      [.next (List.replicate 256 7), .backUp 250] = some w ∧ w.kept = List.replicate 6 7 ∧
      (∀ b ∈ w.stream.blocks.head?, 2 < b.size) ∧
      visited (seek (ChainedStream.closeOutput w.stream) 0 2) = [[7, 7, 7, 7]] ∧
      4 ≤ (contents (S := InputStream) (consumed [.inl (.ofFragments [[1, 2], [], [3]]),
        .inr ⟨[seek (ChainedStream.closeOutput w.stream) 0 2]⟩] [1, 1])).length :=
    ⟨_, rfl, rfl, by decide, rfl, by decide⟩
  obtain ⟨w, hrun, hkept, hpassed, hvisited, hlength⟩ := hspan
  have hrecorded := StreamWriter.Recorded.intro List.length_replicate hrun (by rw [hkept]; decide) 2 hpassed
  refine ⟨_, hrecorded, hvisited, consume_drops ?_ [1, 1] hlength⟩
  intro s hs
  rcases List.mem_cons.mp hs with rfl | hs
  · exact .array _
  · rw [List.mem_singleton.mp hs]
    exact .chain fun t ht => by rw [List.mem_singleton.mp ht]; exact hrecorded

end Lightstep.Common

import Mathlib.Algebra.Order.Ring.Nat
import Mathlib.Algebra.Ring.Int.Defs
import Lightstep.Library.Cursor

/-! Streams of fragments, and consuming bytes from a list of them.

A fragment is the bytes its pointer and size cover. `FragmentInputStream` is the
interface of the source, and three classes say what its implementations owe.
A lawful stream stands for the fragments it visits and counts. A consumable one
has the bytes after the position that `Clear` or `Seek` leaves it at. A seekable
one can be visited again from there. -/
namespace Lightstep.Common
open Library

abbrev Fragment := List UInt8

class FragmentInputStream (S : Type) where
  numFragments : S → Nat
  forEachFragment {σ : Type} : S → (σ → Fragment → σ × Bool) → σ → σ × Bool
  clear : S → S
  seek : S → Nat → Nat → S

namespace FragmentInputStream
variable {S : Type} [FragmentInputStream S]

def empty (s : S) : Bool := numFragments s == 0

/-- The callback of `Consume`, on the bytes still to be consumed and the fragments passed. -/
def consumeFragment (st : Nat × Nat) (fragment : Fragment) : (Nat × Nat) × Bool :=
  if st.1 < fragment.length then (st, false) else ((st.1 - fragment.length, st.2 + 1), true)

/-- The fragments that a callback which never ends the iteration is called with. -/
def visited (s : S) : List Fragment := (forEachFragment s (fun passed fragment => (passed ++ [fragment], true)) []).1

/-- Consumes `n` bytes from the streams; whether all their bytes were consumed. -/
def consume : List S → Nat → List S × Bool
  | [], _ => ([], true)
  | s :: rest, n =>
    match forEachFragment s consumeFragment (n, 0) with
    | ((n, fragmentIndex), false) => (seek s fragmentIndex n :: rest, false)
    | ((n, _), true) => (clear s :: (consume rest n).1, (consume rest n).2)

end FragmentInputStream

open FragmentInputStream

/-- What seeks have left of a stream. -/
inductive RestOf {S : Type} [FragmentInputStream S] (s : S) : S → Prop where
  | whole : RestOf s s
  | seek {r : S} (h : RestOf s r) (fragmentIndex position : Nat) : RestOf s (seek r fragmentIndex position)

theorem RestOf.trans {S : Type} [FragmentInputStream S] {s r q : S} (h : RestOf s r) (hr : RestOf r q) :
    RestOf s q := by
  induction hr with
  | whole => exact h
  | seek _ fragmentIndex position ih => exact .seek ih fragmentIndex position

/-- The streams of a list may have different implementations. -/
instance {S T : Type} [FragmentInputStream S] [FragmentInputStream T] : FragmentInputStream (S ⊕ T) where
  numFragments := Sum.elim numFragments numFragments
  forEachFragment s f st := s.elim (fun s => forEachFragment s f st) (fun t => forEachFragment t f st)
  clear := Sum.map clear clear
  seek s fragmentIndex position :=
    s.map (fun s => seek s fragmentIndex position) (fun t => seek t fragmentIndex position)

class LawfulFragmentInputStream (S : Type) [FragmentInputStream S] where
  Valid : S → Prop
  fragments : S → List Fragment
  numFragments_eq {s : S} : Valid s → numFragments s = (fragments s).length
  forEachFragment_eq {σ : Type} {s : S} (f : σ → Fragment → σ × Bool) (st : σ) : Valid s →
    forEachFragment s f st = iterate f st (fragments s)

open LawfulFragmentInputStream

class ConsumableFragmentInputStream (S : Type) [FragmentInputStream S] extends
    LawfulFragmentInputStream S where
  remaining : S → List UInt8
  remaining_eq {s : S} : Valid s → remaining s = (fragments s).flatten
  remaining_clear {s : S} : Valid s → remaining (clear s) = []
  remaining_seek {s : S} {before after : List Fragment} {fragment : Fragment} {position : Nat} :
    Valid s → fragments s = before ++ fragment :: after → position < fragment.length →
    remaining (seek s before.length position) = fragment.drop position ++ after.flatten

open ConsumableFragmentInputStream

class SeekableFragmentInputStream (S : Type) [FragmentInputStream S] extends
    LawfulFragmentInputStream S where
  valid_clear {s : S} : Valid s → Valid (clear s)
  fragments_clear {s : S} : Valid s → fragments (clear s) = []
  valid_seek {s : S} {before after : List Fragment} {fragment : Fragment} {position : Nat} :
    Valid s → fragments s = before ++ fragment :: after → position < fragment.length →
    Valid (seek s before.length position)
  fragments_seek {s : S} {before after : List Fragment} {fragment : Fragment} {position : Nat} :
    Valid s → fragments s = before ++ fragment :: after → position < fragment.length →
    fragments (seek s before.length position) = fragment.drop position :: after

open SeekableFragmentInputStream

/-- What a seekable stream has left is what it visits. -/
instance (priority := 2000) {S : Type} [FragmentInputStream S] [SeekableFragmentInputStream S] :
    ConsumableFragmentInputStream S where
  remaining s := (fragments s).flatten
  remaining_eq _ := rfl
  remaining_clear h := by rw [fragments_clear h, List.flatten_nil]
  remaining_seek h hsplit hlt := by rw [fragments_seek h hsplit hlt, List.flatten_cons]

namespace LawfulFragmentInputStream
variable {S : Type} [FragmentInputStream S] [LawfulFragmentInputStream S]

/-- The bytes a stream visits. -/
def bytes (s : S) : List UInt8 := (fragments s).flatten

theorem empty_iff {s : S} (h : Valid s) : empty s = true ↔ fragments s = [] := by
  rw [empty, numFragments_eq h, beq_iff_eq, List.length_eq_zero_iff]

theorem iterate_collect (passed fragments : List Fragment) :
    iterate (fun passed fragment => (passed ++ [fragment], true)) passed fragments = (passed ++ fragments, true) := by
  induction fragments generalizing passed with
  | nil => simp [iterate]
  | cons fragment rest ih =>
    simp only [iterate, ih, List.append_assoc, List.singleton_append]

theorem visited_eq {s : S} (h : Valid s) : visited s = fragments s := by
  rw [visited, forEachFragment_eq _ _ h, iterate_collect, List.nil_append]

/-- The callback of `Consume` over some fragments finds the position of its bytes in them. -/
theorem iterate_consumeFragment (fragments : List Fragment) (n index : Nat) :
    iterate consumeFragment (n, index) fragments =
      if n < fragments.flatten.length then
        (((locate fragments n).2, index + (locate fragments n).1), false)
      else ((n - fragments.flatten.length, index + fragments.length), true) := by
  induction fragments generalizing n index with
  | nil => rfl
  | cons fragment rest ih =>
    rw [List.flatten_cons, List.length_append]
    by_cases hn : n < fragment.length
    · have hf : consumeFragment (n, index) fragment = ((n, index), false) := if_pos hn
      rw [iterate_cons_false hf, if_pos (by omega), locate, if_pos hn]
      rfl
    · have hf : consumeFragment (n, index) fragment = ((n - fragment.length, index + 1), true) := if_neg hn
      rw [iterate_cons_true hf, ih, locate, if_neg hn, List.length_cons]
      by_cases hrest : n - fragment.length < rest.flatten.length
      · rw [if_pos hrest, if_pos (by omega)]
        congr 2
        omega
      · rw [if_neg hrest, if_neg (by omega), Nat.sub_sub]
        congr 2
        omega

/-- What `Consume` does to the stream it stops in. -/
def seekTo (s : S) (n : Nat) : S := seek s (locate (fragments s) n).1 (locate (fragments s) n).2

/-- What `Consume` does to a stream it reaches with `n` bytes. -/
def advance (s : S) (n : Nat) : S := if n < (bytes s).length then seekTo s n else clear s

/-- A stream of which `Consume` visits its fragments. -/
def Visits (s : S) : Prop :=
  ∀ st, forEachFragment s consumeFragment st = iterate consumeFragment st (fragments s)

theorem visits {s : S} (h : Valid s) : Visits s := fun st => forEachFragment_eq _ st h

/-- `Consume` stops in the first stream if it has more bytes, and else clears it and goes on. -/
theorem consume_cons_of_forEach {s : S} (h : Visits s) (rest : List S) (n : Nat) :
    consume (s :: rest) n =
      if n < (bytes s).length then (advance s n :: rest, false)
      else (advance s n :: (consume rest (n - (bytes s).length)).1,
        (consume rest (n - (bytes s).length)).2) := by
  rw [consume, h, iterate_consumeFragment]
  by_cases hn : n < (bytes s).length
  · have hn' : n < (fragments s).flatten.length := hn
    rw [if_pos hn', if_pos hn, advance, if_pos hn, seekTo, Nat.zero_add]
  · have hn' : ¬ n < (fragments s).flatten.length := hn
    rw [if_neg hn', if_neg hn, advance, if_neg hn]
    rfl

theorem consume_cons {s : S} (h : Valid s) (rest : List S) (n : Nat) :
    consume (s :: rest) n =
      if n < (bytes s).length then (advance s n :: rest, false)
      else (advance s n :: (consume rest (n - (bytes s).length)).1,
        (consume rest (n - (bytes s).length)).2) :=
  consume_cons_of_forEach (visits h) rest n

theorem consume_two {a b : S} (ha : Visits a) (hb : Visits b) (n : Nat) :
    (consume [a, b] n).1 =
      [advance a n, if n < (bytes a).length then b else advance b (n - (bytes a).length)] := by
  rw [consume_cons_of_forEach ha]
  split
  · rfl
  · rw [consume_cons_of_forEach hb]
    split
    · rfl
    · rfl

theorem consume_three {a b c : S} (ha : Visits a) (hb : Visits b) (hc : Visits c) (n : Nat) :
    (consume [a, b, c] n).1 =
      [advance a n, if n < (bytes a).length then b else advance b (n - (bytes a).length),
        if n < (bytes a).length + (bytes b).length then c
        else advance c (n - (bytes a).length - (bytes b).length)] := by
  rw [consume_cons_of_forEach ha]
  by_cases hn : n < (bytes a).length
  · rw [if_pos hn, if_pos hn, if_pos (by omega)]
  · rw [if_neg hn, if_neg hn]
    show advance a n :: (consume [b, c] (n - (bytes a).length)).1 = _
    rw [consume_two hb hc]
    by_cases hm : n - (bytes a).length < (bytes b).length
    · rw [if_pos hm, if_pos (by omega)]
    · rw [if_neg hm, if_neg (by omega)]

/-- The fragments of the streams of a list, counted and visited. -/
theorem sum_numFragments {streams : List S} (h : ∀ s ∈ streams, Valid s) :
    (streams.map numFragments).sum = (streams.flatMap fragments).length := by
  induction streams with
  | nil => rfl
  | cons s rest ih =>
    rw [List.map_cons, List.sum_cons, List.flatMap_cons, List.length_append,
      numFragments_eq (h s (List.mem_cons_self ..)), ih fun t ht => h t (List.mem_cons_of_mem s ht)]

theorem iterate_forEachFragment {σ : Type} {streams : List S} (h : ∀ s ∈ streams, Valid s)
    (f : σ → Fragment → σ × Bool) (st : σ) :
    iterate (fun st s => forEachFragment s f st) st streams = iterate f st (streams.flatMap fragments) := by
  rw [← iterate_flatMap]
  induction streams generalizing st with
  | nil => rfl
  | cons s rest ih =>
    have hrest := ih fun t ht => h t (List.mem_cons_of_mem s ht)
    simp only [iterate, forEachFragment_eq f st (h s (List.mem_cons_self ..)), hrest]

/-- The bytes of the streams of a list, in order. -/
def allBytes (streams : List S) : List UInt8 := streams.flatMap bytes

theorem allBytes_eq (streams : List S) : allBytes streams = (streams.flatMap fragments).flatten := by
  induction streams with
  | nil => rfl
  | cons s rest ih =>
    rw [allBytes, List.flatMap_cons, List.flatMap_cons, List.flatten_append, ← ih]
    rfl

end LawfulFragmentInputStream

namespace ConsumableFragmentInputStream
variable {S : Type} [FragmentInputStream S] [ConsumableFragmentInputStream S]

theorem remaining_seekTo {s : S} (h : Valid s) {n : Nat} (hn : n < (bytes s).length) :
    remaining (seekTo s n) = (bytes s).drop n := by
  obtain ⟨before, fragment, after, hsplit, hat, hindex, hlt⟩ := locate_split (fragments s) n hn
  have hdrop := drop_flatten_of_split before after fragment _ (Nat.le_of_lt hlt)
  rw [seekTo, hindex, remaining_seek h hsplit hlt, ← List.flatten_cons, ← hdrop, ← hsplit, ← hat]
  rfl

theorem remaining_advance {s : S} (h : Valid s) (n : Nat) : remaining (advance s n) = (bytes s).drop n := by
  unfold advance
  split
  case isTrue hn => exact remaining_seekTo h hn
  case isFalse hn => rw [remaining_clear h, List.drop_eq_nil_of_le (Nat.le_of_not_lt hn)]

/-- The bytes the streams of a list still have, in order. -/
def allRemaining (streams : List S) : List UInt8 := streams.flatMap remaining

theorem allRemaining_eq {streams : List S} (h : ∀ s ∈ streams, Valid s) :
    allRemaining streams = allBytes streams := by
  induction streams with
  | nil => rfl
  | cons s rest ih =>
    have hrest := ih fun t ht => h t (List.mem_cons_of_mem s ht)
    rw [allRemaining] at hrest
    rw [allRemaining, allBytes, List.flatMap_cons, List.flatMap_cons, hrest,
      remaining_eq (h s (List.mem_cons_self ..))]
    rfl

/-- **Consuming drops bytes**, and says whether none are left. -/
theorem consume_spec (streams : List S) (n : Nat) (h : ∀ s ∈ streams, Valid s) :
    allRemaining (consume streams n).1 = (allBytes streams).drop n ∧
      ((consume streams n).2 = true ↔ (allBytes streams).length ≤ n) := by
  induction streams generalizing n with
  | nil => simp [consume, allBytes, allRemaining]
  | cons s rest ih =>
    have hs := h s (List.mem_cons_self ..)
    have hrest : ∀ t ∈ rest, Valid t := fun t ht => h t (List.mem_cons_of_mem s ht)
    have heq := allRemaining_eq hrest
    simp only [allBytes, allRemaining, List.flatMap_cons, List.length_append] at ih heq ⊢
    rw [consume_cons hs]
    by_cases hn : n < (bytes s).length
    · rw [if_pos hn]
      refine ⟨?_, by simp; omega⟩
      rw [List.flatMap_cons, remaining_advance hs, heq, List.drop_append_of_le_length (Nat.le_of_lt hn)]
    · rw [if_neg hn]
      obtain ⟨hbytes, hall⟩ := ih (n - (bytes s).length) hrest
      refine ⟨?_, ?_⟩
      · rw [List.flatMap_cons, remaining_advance hs, hbytes, List.drop_append]
      · rw [hall]
        omega

end ConsumableFragmentInputStream

namespace SeekableFragmentInputStream
variable {S : Type} [FragmentInputStream S] [SeekableFragmentInputStream S]

theorem bytes_advance {s : S} (h : Valid s) (n : Nat) : bytes (advance s n) = (bytes s).drop n :=
  remaining_advance h n

theorem valid_advance {s : S} (h : Valid s) (n : Nat) : Valid (advance s n) := by
  unfold advance
  split
  case isFalse => exact valid_clear h
  case isTrue hn =>
    obtain ⟨before, fragment, after, hsplit, -, hindex, hlt⟩ := locate_split (fragments s) n hn
    rw [seekTo, hindex]
    exact valid_seek h hsplit hlt

/-- A stream is empty exactly when it has been consumed to its end. -/
theorem empty_advance {s : S} (h : Valid s) (n : Nat) :
    empty (advance s n) = decide ((bytes s).length ≤ n) := by
  have hv := valid_advance h n
  by_cases hn : n < (bytes s).length
  · rw [decide_eq_false (Nat.not_le_of_lt hn)]
    cases he : empty (advance s n) with
    | false => rfl
    | true =>
      have hbytes := bytes_advance h n
      rw [bytes, (empty_iff hv).mp he] at hbytes
      have := congrArg List.length hbytes
      rw [List.flatten_nil, List.length_nil, List.length_drop] at this
      omega
  · rw [decide_eq_true (Nat.le_of_not_lt hn), empty_iff hv, advance, if_neg hn]
    exact fragments_clear h

end SeekableFragmentInputStream

instance (priority := 2000) {S T : Type} [FragmentInputStream S] [FragmentInputStream T]
    [ConsumableFragmentInputStream S] [ConsumableFragmentInputStream T] : ConsumableFragmentInputStream (S ⊕ T) where
  Valid := Sum.elim Valid Valid
  fragments := Sum.elim fragments fragments
  numFragments_eq {s} h := by
    cases s with
    | inl s => exact numFragments_eq (S := S) h
    | inr t => exact numFragments_eq (S := T) h
  forEachFragment_eq {_ s} f st h := by
    cases s with
    | inl s => exact forEachFragment_eq (S := S) f st h
    | inr t => exact forEachFragment_eq (S := T) f st h
  remaining := Sum.elim remaining remaining
  remaining_eq {s} h := by
    cases s with
    | inl s => exact remaining_eq (S := S) h
    | inr t => exact remaining_eq (S := T) h
  remaining_clear {s} h := by
    cases s with
    | inl s => exact remaining_clear (S := S) h
    | inr t => exact remaining_clear (S := T) h
  remaining_seek {s _ _ _ _} h hsplit hlt := by
    cases s with
    | inl s => exact remaining_seek (S := S) h hsplit hlt
    | inr t => exact remaining_seek (S := T) h hsplit hlt

section
variable {S T : Type} [FragmentInputStream S] [FragmentInputStream T] [ConsumableFragmentInputStream S]
  [ConsumableFragmentInputStream T]

theorem bytes_inl (s : S) : bytes (.inl s : S ⊕ T) = bytes s := rfl

theorem bytes_inr (t : T) : bytes (.inr t : S ⊕ T) = bytes t := rfl

theorem advance_inl (s : S) (n : Nat) : advance (.inl s : S ⊕ T) n = .inl (advance s n) := by
  unfold advance
  rw [bytes_inl, apply_ite Sum.inl]
  rfl

theorem advance_inr (t : T) (n : Nat) : advance (.inr t : S ⊕ T) n = .inr (advance t n) := by
  unfold advance
  rw [bytes_inr, apply_ite Sum.inr]
  rfl

theorem visits_inl {s : S} (h : Visits s) : Visits (.inl s : S ⊕ T) := h

theorem visits_inr {t : T} (h : Visits t) : Visits (.inr t : S ⊕ T) := h

end

end Lightstep.Common

import Lightstep.Common.FragmentInputStream

/-! A stream over an array of fragments it does not own. -/
namespace Lightstep.Common
open Library

structure FragmentArrayInputStream where
  fragments : List Fragment
  fragmentIndex : Nat
  position : Nat
  deriving DecidableEq

namespace FragmentArrayInputStream

def ofFragments (fragments : List Fragment) : FragmentArrayInputStream := ⟨fragments, 0, 0⟩

def add (s : FragmentArrayInputStream) (fragment : Fragment) : FragmentArrayInputStream :=
  {s with fragments := s.fragments ++ [fragment]}

/-- The current fragment exists unless the stream is at the end, and the position is in it. -/
structure WellFormed (s : FragmentArrayInputStream) : Prop where
  fragmentIndex_le : s.fragmentIndex ≤ s.fragments.length
  position_le : ∀ current rest, s.fragments.drop s.fragmentIndex = current :: rest →
    s.position ≤ current.length

/-- The fragments from the current one on. -/
def remaining (s : FragmentArrayInputStream) : List Fragment :=
  match s.fragments.drop s.fragmentIndex with
  | [] => []
  | current :: rest => current.drop s.position :: rest

end FragmentArrayInputStream

instance : FragmentInputStream FragmentArrayInputStream where
  numFragments s := s.fragments.length - s.fragmentIndex
  forEachFragment s callback st :=
    match s.fragments.drop s.fragmentIndex with
    | [] => (st, true)
    | current :: rest =>
      match callback st (current.drop s.position) with
      | (st, true) => iterate callback st rest
      | (st, false) => (st, false)
  clear _ := ⟨[], 0, 0⟩
  seek s fragmentIndex position :=
    if fragmentIndex = 0 then {s with position := s.position + position}
    else {s with fragmentIndex := s.fragmentIndex + fragmentIndex, position := position}

namespace FragmentArrayInputStream

theorem drop_of_remaining {s : FragmentArrayInputStream} {before after : List Fragment} {fragment : Fragment}
    (h : s.remaining = before ++ fragment :: after) :
    if before = [] then ∃ current, s.fragments.drop s.fragmentIndex = current :: after ∧
        fragment = current.drop s.position
    else s.fragments.drop (s.fragmentIndex + before.length) = fragment :: after := by
  unfold remaining at h
  cases hdrop : s.fragments.drop s.fragmentIndex with
  | nil =>
    rw [hdrop] at h
    cases before with
    | nil => cases h
    | cons b rest => cases h
  | cons current rest =>
    rw [hdrop] at h
    cases before with
    | nil =>
      obtain ⟨hcurrent, hrest⟩ := List.cons.inj h
      rw [if_pos rfl]
      exact ⟨current, by rw [hrest], hcurrent.symm⟩
    | cons b before =>
      obtain ⟨-, hrest⟩ := List.cons.inj h
      rw [if_neg (List.cons_ne_nil _ _), ← List.drop_drop, hdrop, List.length_cons,
        List.drop_succ_cons, hrest]
      exact List.drop_left

/-- Where `Seek` leaves the array: at the rest of the fragment it is sent to. -/
theorem remaining_seek {s : FragmentArrayInputStream} {before after : List Fragment} {fragment : Fragment}
    (position : Nat) (h : s.remaining = before ++ fragment :: after) :
    (FragmentInputStream.seek s before.length position).remaining = fragment.drop position :: after := by
  have hdrop := drop_of_remaining h
  by_cases hb : before = []
  · rw [if_pos hb] at hdrop
    obtain ⟨current, hcurrent, rfl⟩ := hdrop
    subst hb
    simp only [FragmentInputStream.seek, List.length_nil, if_true, remaining, hcurrent, List.drop_drop]
  · rw [if_neg hb] at hdrop
    have hlen : ¬ before.length = 0 := fun h => hb (List.length_eq_zero_iff.mp h)
    simp only [FragmentInputStream.seek, if_neg hlen, remaining, hdrop]

/-- The assertions of `Seek` hold wherever there is such a position to go to. -/
theorem wellFormed_seek {s : FragmentArrayInputStream} (hs : s.WellFormed) {before after : List Fragment}
    {fragment : Fragment} {position : Nat} (h : s.remaining = before ++ fragment :: after)
    (hlt : position < fragment.length) : (FragmentInputStream.seek s before.length position).WellFormed := by
  have hdrop := drop_of_remaining h
  by_cases hb : before = []
  · rw [if_pos hb] at hdrop
    obtain ⟨current, hcurrent, rfl⟩ := hdrop
    subst hb
    refine ⟨hs.fragmentIndex_le, ?_⟩
    intro current' rest heq
    have heq : s.fragments.drop s.fragmentIndex = current' :: rest := heq
    rw [hcurrent] at heq
    cases heq
    show s.position + position ≤ current.length
    rw [List.length_drop] at hlt
    omega
  · rw [if_neg hb] at hdrop
    have hlen : ¬ before.length = 0 := fun h => hb (List.length_eq_zero_iff.mp h)
    have hne := congrArg List.length hdrop
    rw [List.length_drop, List.length_cons] at hne
    simp only [FragmentInputStream.seek, if_neg hlen]
    refine ⟨by show s.fragmentIndex + before.length ≤ s.fragments.length; omega, ?_⟩
    intro current' rest heq
    have heq : s.fragments.drop (s.fragmentIndex + before.length) = current' :: rest := heq
    rw [hdrop] at heq
    cases heq
    exact Nat.le_of_lt hlt

theorem wellFormed_ofFragments (l : List Fragment) : (ofFragments l).WellFormed :=
  ⟨Nat.zero_le _, fun _ _ _ => Nat.zero_le _⟩

end FragmentArrayInputStream

instance : SeekableFragmentInputStream FragmentArrayInputStream where
  Valid := FragmentArrayInputStream.WellFormed
  fragments := FragmentArrayInputStream.remaining
  numFragments_eq {s} _ := by
    show s.fragments.length - s.fragmentIndex = s.remaining.length
    rw [FragmentArrayInputStream.remaining, ← List.length_drop]
    cases s.fragments.drop s.fragmentIndex with
    | nil => rfl
    | cons current rest => rfl
  forEachFragment_eq {_ s} f st _ := by
    simp only [FragmentInputStream.forEachFragment, FragmentArrayInputStream.remaining]
    cases s.fragments.drop s.fragmentIndex with
    | nil => rfl
    | cons current rest => rfl
  valid_clear _ := FragmentArrayInputStream.wellFormed_ofFragments []
  fragments_clear _ := rfl
  valid_seek hs h hlt := FragmentArrayInputStream.wellFormed_seek hs h hlt
  fragments_seek {_ _ _ _ position} _ h _ := FragmentArrayInputStream.remaining_seek position h

namespace FragmentArrayInputStream
open LawfulFragmentInputStream

@[simp] theorem fragments_ofFragments (l : List Fragment) :
    LawfulFragmentInputStream.fragments (ofFragments l) = l := by
  show (ofFragments l).remaining = l
  cases l with
  | nil => rfl
  | cons f rest => rfl

end FragmentArrayInputStream
end Lightstep.Common

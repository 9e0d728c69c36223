/-! Binary search for the end of a prefix.

The elements for which a test holds come first; the search finds where they end. -/
namespace Lightstep.Library
variable {α : Type}

/-- The loop: the end is among the `count` places from `first` on, or right after them. The first
argument bounds the rounds. -/
def lowerBoundFrom (before : α → Bool) (l : List α) : Nat → Nat → Nat → Nat
  | 0, first, _ => first
  | fuel + 1, first, count =>
    if count = 0 then first
    else
      match l[first + count / 2]? with
      | none => first
      | some x =>
        if before x then lowerBoundFrom before l fuel (first + count / 2 + 1) (count - count / 2 - 1)
        else lowerBoundFrom before l fuel first (count / 2)

def lowerBound (before : α → Bool) (l : List α) : Nat := lowerBoundFrom before l l.length 0 l.length

variable {before : α → Bool} {a b : List α}

theorem lowerBoundFrom_append (ha : ∀ x ∈ a, before x = true) (hb : ∀ x ∈ b, ¬ before x = true) (fuel first count : Nat)
    (hfuel : count ≤ fuel) (hfirst : first ≤ a.length) (hend : a.length ≤ first + count)
    (hlength : first + count ≤ (a ++ b).length) : lowerBoundFrom before (a ++ b) fuel first count = a.length := by
  induction fuel generalizing first count with
  | zero =>
    have heq : first = a.length := by omega
    exact heq
  | succ fuel ih =>
    rw [lowerBoundFrom]
    by_cases hcount : count = 0
    · rw [if_pos hcount]
      omega
    · have hlt : first + count / 2 < (a ++ b).length := by omega
      rw [if_neg hcount, List.getElem?_eq_getElem hlt]
      dsimp only
      by_cases hin : first + count / 2 < a.length
      · have hbefore : before (a ++ b)[first + count / 2] = true := by
          rw [List.getElem_append_left hin]
          exact ha _ (List.getElem_mem hin)
        rw [if_pos hbefore]
        exact ih _ _ (by omega) (by omega) (by omega) (by omega)
      · have hbefore : ¬ before (a ++ b)[first + count / 2] = true := by
          rw [List.getElem_append_right (Nat.le_of_not_lt hin)]
          exact hb _ (List.getElem_mem _)
        rw [if_neg hbefore]
        exact ih _ _ (by omega) hfirst (by omega) (by omega)

/-- **The search finds the end of the prefix.** -/
theorem lowerBound_append (ha : ∀ x ∈ a, before x = true) (hb : ∀ x ∈ b, ¬ before x = true) :
    lowerBound before (a ++ b) = a.length := by
  refine lowerBoundFrom_append ha hb _ 0 _ (Nat.le_refl _) (Nat.zero_le _) ?_ (Nat.le_of_eq (Nat.zero_add _))
  rw [Nat.zero_add, List.length_append]
  exact Nat.le_add_right ..

end Lightstep.Library

import Mathlib.Algebra.BigOperators.Group.List.Basic
import Mathlib.Algebra.Order.Ring.Nat
import Mathlib.Algebra.Ring.Int.Defs

/-! A list one of whose places is given another element or taken out, or two of whose places are exchanged. -/
namespace Lightstep.Library
variable {α β : Type} {l : List α} {i : Nat} {a b : α}

/-- What the new element has in common with the old one stays. -/
theorem map_set_self {f : α → β} (ha : l[i]? = some a) (hf : f b = f a) : (l.set i b).map f = l.map f := by
  have hi : i < (l.map f).length := by
    rw [List.length_map]
    exact (List.getElem?_eq_some_iff.mp ha).1
  have hfa : (l.map f)[i] = f a := by
    rw [List.getElem_map, (List.getElem?_eq_some_iff.mp ha).2]
  rw [List.map_set, hf, ← hfa, List.set_getElem_self]

theorem sum_map_set {f : α → Nat} (ha : l[i]? = some a) : ((l.set i b).map f).sum + f a = (l.map f).sum + f b := by
  induction l generalizing i with
  | nil => simp at ha
  | cons x l ih =>
    cases i with
    | zero =>
      obtain rfl : x = a := by simpa using ha
      simp only [List.set_cons_zero, List.map_cons, List.sum_cons]
      omega
    | succ i =>
      have hrest := @ih i (by simpa using ha)
      simp only [List.set_cons_succ, List.map_cons, List.sum_cons]
      omega

theorem sum_map_eraseIdx {M : Type} [AddCommMonoid M] (f : α → M) (ha : l[i]? = some a) :
    (l.map f).sum = f a + ((l.eraseIdx i).map f).sum := by
  obtain ⟨hlt, rfl⟩ := List.getElem?_eq_some_iff.mp ha
  rw [← ((List.getElem_cons_eraseIdx_perm hlt).map f).sum_eq, List.map_cons, List.sum_cons]

/-- Two places exchanged, if the list has both. -/
def exchange (l : List α) (i j : Nat) : Option (List α) := do
  let a ← l[i]?
  let b ← l[j]?
  return (l.set i b).set j a

/-- The elements stay, and so do those before both places. -/
theorem exchange_of_le {j : Nat} (hij : i ≤ j) (hj : j < l.length) :
    ∃ l', exchange l i j = some l' ∧ l'.Perm l ∧ (l'.drop i).Perm (l.drop i) := by
  have hi : i < l.length := Nat.lt_of_le_of_lt hij hj
  have hperm : ((l.set i l[j]).set j l[i]).Perm l := List.set_set_perm hi hj
  refine ⟨(l.set i l[j]).set j l[i], ?_, hperm, hperm.drop_of_getElem? fun k hk => ?_⟩
  · rw [exchange, List.getElem?_eq_getElem hi, List.getElem?_eq_getElem hj]
    rfl
  · rw [List.getElem?_set_ne (by omega), List.getElem?_set_ne (by omega)]

end Lightstep.Library

import Mathlib.Algebra.Order.BigOperators.Group.List
import Mathlib.Algebra.Order.Group.Nat
import Mathlib.Algebra.Order.Ring.Nat
import Mathlib.Algebra.Ring.Int.Defs
import Mathlib.Data.List.Basic

/-! Lists joined by a separator.

Joining loses nothing: the members of what is joined are those of its parts, and its length tells how many parts
there are. -/
namespace Lightstep.Library
variable {α : Type} {sep : α}

theorem intercalate_append_cons (a b : List α) (rest : List (List α)) :
    [sep].intercalate ((a ++ b) :: rest) = a ++ [sep].intercalate (b :: rest) := by
  cases rest with
  | nil => simp
  | cons c rest => simp

theorem length_intercalate_cons (a : List α) (rest : List (List α)) :
    ([sep].intercalate (a :: rest)).length = a.length + (rest.map fun b => b.length + 1).sum := by
  induction rest generalizing a with
  | nil => simp
  | cons b rest ih =>
    rw [List.intercalate_cons_cons, List.length_append, List.length_append, ih, List.map_cons, List.sum_cons,
      List.length_singleton]
    omega

/-- Parts that are all nonempty differ from any that have an empty one among them. -/
theorem intercalate_filter_eq_iff {a : List α} (ha : a ≠ []) (rest : List (List α)) :
    [sep].intercalate (a :: rest) = [sep].intercalate ((a :: rest).filter (!·.isEmpty)) ↔ [] ∉ a :: rest := by
  have hhead : (a :: rest).filter (!·.isEmpty) = a :: rest.filter (!·.isEmpty) :=
    List.filter_cons_of_pos (by simpa using ha)
  rw [hhead]
  constructor
  · intro h hmem
    have hrest : [] ∈ rest := (List.mem_cons.mp hmem).resolve_left (Ne.symm ha)
    have hlength := congrArg List.length h
    rw [length_intercalate_cons, length_intercalate_cons, Nat.add_right_inj] at hlength
    have hlt : ∀ l : List (List α), ((l.filter (!·.isEmpty)).map fun b => b.length + 1).sum ≤
        (l.map fun b => b.length + 1).sum := fun l => List.Sublist.sum_le_sum (List.filter_sublist.map _) (by simp)
    obtain ⟨before, after, rfl⟩ := List.append_of_mem hrest
    have hbefore := hlt before
    have hafter := hlt after
    simp only [List.filter_append, List.map_append, List.sum_append, List.filter_cons, List.map_cons, List.sum_cons,
      List.isEmpty_nil, Bool.not_true, Bool.false_eq_true, if_false, List.length_nil] at hlength
    omega
  · intro h
    have hfilter : rest.filter (!·.isEmpty) = rest := by
      rw [List.filter_eq_self]
      intro b hb
      have hne : b ≠ [] := fun hnil => h (List.mem_cons_of_mem _ (hnil ▸ hb))
      simpa using hne
    rw [hfilter]

/-- **The members of what is joined are the members of its parts.** -/
theorem splitOn_intercalate_cons [BEq α] [ReflBEq α] (a : List α) (rest : List (List α)) :
    ([sep].intercalate (a :: rest)).splitOn sep = (a :: rest).flatMap (·.splitOn sep) := by
  induction rest generalizing a with
  | nil => simp
  | cons b rest ih =>
    have hcons : a ++ [sep] ++ [sep].intercalate (b :: rest) = a ++ sep :: [sep].intercalate (b :: rest) := by simp
    rw [List.intercalate_cons_cons, hcons, List.splitOn_append_cons_self, ih, List.flatMap_cons,
      List.flatMap_cons, List.flatMap_cons]

end Lightstep.Library

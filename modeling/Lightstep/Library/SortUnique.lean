import Mathlib.Data.List.Destutter
import Mathlib.Data.List.Sort
import Mathlib.Order.RelClasses
import Lightstep.Library.LowerBound

/-! Sorting by a key that several values may share, keeping one value of each
key, and searching for a key among the values kept.

Which of the values of one key is kept is left open: a sort need not be stable.
The keys of the values kept are those of the list without repetitions. -/
namespace Lightstep.Library

/-- A sort, for comparisons that are strict weak orders: a rearrangement in which
no value comes before one that is less. -/
structure SortAlgorithm (α : Type) where
  sort : (α → α → Bool) → List α → List α
  perm : ∀ (less : α → α → Bool) (l : List α), IsStrictWeakOrder α (less · ·) → (sort less l).Perm l
  sorted : ∀ (less : α → α → Bool) (l : List α), IsStrictWeakOrder α (less · ·) →
    (sort less l).Pairwise fun a b => ¬ less b a = true

variable {α κ : Type}

theorem not_less_trans {less : α → α → Bool} (h : IsStrictWeakOrder α (less · ·)) {a b c : α}
    (hba : ¬ less b a = true) (hcb : ¬ less c b = true) : ¬ less c a = true := by
  intro hca
  -- `b` is neither below `a` nor above `c`; were it incomparable to both, these two would be.
  by_cases hab : less a b = true
  · exact hcb (h.trans c a b hca hab)
  · by_cases hbc : less b c = true
    · exact hba (h.trans b c a hbc hca)
    · exact (h.incomp_trans a b c ⟨hab, hba⟩ ⟨hbc, hcb⟩).2 hca

/-- Insertion sort is one. -/
def SortAlgorithm.insertionSort : SortAlgorithm α where
  sort less l := l.insertionSort fun a b => ¬ less b a = true
  perm less l _ := l.perm_insertionSort _
  sorted less l h := by
    have htrans : IsTrans α fun a b => ¬ less b a = true := ⟨fun a b c => not_less_trans h⟩
    have htotal : Std.Total fun a b => ¬ less b a = true := by
      refine ⟨fun a b => ?_⟩
      by_cases hab : less a b = true
      · exact Or.inl fun hba => h.irrefl a (h.trans a b a hab hba)
      · exact Or.inr hab
    exact l.pairwise_insertionSort _

/-- Of each run of equal values the first is kept. -/
def unique (equal : α → α → Bool) (l : List α) : List α := l.destutter fun a b => ¬ equal a b = true

section
variable [LinearOrder κ] {key : α → κ} {less equal : α → α → Bool}

theorem isStrictWeakOrder_of_key (hless : ∀ a b, less a b = true ↔ key a < key b) :
    IsStrictWeakOrder α (less · ·) where
  irrefl a := by simp [hless]
  trans a b c hab hbc := by
    rw [hless] at hab hbc ⊢
    exact hab.trans hbc
  incomp_trans a b c hab hbc := by
    simp only [hless, not_lt] at hab hbc ⊢
    exact ⟨hbc.1.trans hab.1, hab.2.trans hbc.2⟩

section
variable (S : SortAlgorithm α) (hless : ∀ a b, less a b = true ↔ key a < key b)
  (hequal : ∀ a b, equal a b = true ↔ key a = key b) (l : List α)
include hless

theorem map_sort_pairwise : ((S.sort less l).map key).Pairwise (· ≤ ·) := by
  refine List.pairwise_map.mpr ((S.sorted less l (isStrictWeakOrder_of_key hless)).imp fun {a b} hab => ?_)
  exact not_lt.mp fun hlt => hab ((hless b a).mpr hlt)

theorem mem_of_mem_unique_sort {a : α} (h : a ∈ unique equal (S.sort less l)) : a ∈ l := by
  have hmem := (List.destutter_sublist _ (S.sort less l)).subset h
  exact (S.perm less l (isStrictWeakOrder_of_key hless)).mem_iff.mp hmem

include hequal

/-- **The keys of a sorted list without repetitions are the keys of the list, each once and in order.** -/
theorem map_unique_sort : (unique equal (S.sort less l)).map key = ((S.sort less l).map key).dedup := by
  have hmap : ((S.sort less l).destutter fun a b => ¬ equal a b = true).map key =
      ((S.sort less l).map key).destutter (· ≠ ·) :=
    List.map_destutter fun a _ b _ => not_congr (hequal a b)
  rw [unique, hmap, (map_sort_pairwise S hless l).destutter_eq_dedup]

theorem unique_sort_strict : (unique equal (S.sort less l)).Pairwise fun a b => key a < key b := by
  have hle := (map_sort_pairwise S hless l).sublist ((S.sort less l).map key).dedup_sublist
  have hne := List.nodup_dedup ((S.sort less l).map key)
  rw [← map_unique_sort S hless hequal] at hle hne
  have hlt := (hle.and hne).imp fun h => lt_of_le_of_ne h.1 h.2
  exact List.pairwise_map.mp hlt

theorem exists_mem_unique_sort {a : α} (h : a ∈ l) : ∃ b ∈ unique equal (S.sort less l), key b = key a := by
  have hmem := (S.perm less l (isStrictWeakOrder_of_key hless)).mem_iff.mpr h
  have hkey := List.mem_dedup.mpr (List.mem_map_of_mem (f := key) hmem)
  rw [← map_unique_sort S hless hequal] at hkey
  exact List.mem_map.mp hkey

theorem length_unique_sort : (unique equal (S.sort less l)).length = (l.map key).dedup.length := by
  have hperm := (S.perm less l (isStrictWeakOrder_of_key hless)).map key
  rw [← hperm.dedup.length_eq, ← map_unique_sort S hless hequal, List.length_map]

end

/-- **Among values with different keys in order, the search for a key finds the value that has it.** -/
theorem lowerBound_of_strict (hless : ∀ a b, less a b = true ↔ key a < key b) {l : List α}
    (hstrict : l.Pairwise fun a b => key a < key b) {a b : α} {i : Nat} (hb : l[i]? = some b) (hkey : key b = key a) :
    lowerBound (less · a) l = i := by
  obtain ⟨hi, rfl⟩ := List.getElem?_eq_some_iff.mp hb
  have hsplit : l = l.take i ++ l.drop i := (List.take_append_drop i l).symm
  have hbefore : ∀ x ∈ l.take i, less x a = true := by
    intro x hx
    obtain ⟨j, hj, rfl⟩ := List.mem_iff_getElem.mp hx
    rw [List.length_take] at hj
    rw [List.getElem_take, hless, ← hkey]
    exact List.pairwise_iff_getElem.mp hstrict j i _ hi (by omega)
  have hafter : ∀ x ∈ l.drop i, ¬ less x a = true := by
    intro x hx
    obtain ⟨j, hj, rfl⟩ := List.mem_iff_getElem.mp hx
    rw [List.length_drop] at hj
    rw [List.getElem_drop, hless, ← hkey, not_lt]
    rcases Nat.eq_zero_or_pos j with rfl | hpos
    · exact le_refl _
    · exact (List.pairwise_iff_getElem.mp hstrict i (i + j) hi _ (by omega)).le
  have hlength : (l.take i).length = i := List.length_take_of_le (Nat.le_of_lt hi)
  calc lowerBound (less · a) l = lowerBound (less · a) (l.take i ++ l.drop i) := by rw [← hsplit]
    _ = (l.take i).length := lowerBound_append hbefore hafter
    _ = i := hlength

end
end Lightstep.Library

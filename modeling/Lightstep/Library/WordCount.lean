import Mathlib.Algebra.Order.BigOperators.Group.List
import Mathlib.Algebra.Order.Ring.Nat
import Mathlib.Data.Int.ModEq

/-! Counts that are kept in a word of 32 bits.

The word is read as a signed number, and its additions wrap. What was counted is the word's bits up to the
times the count has wrapped, and the word itself for as long as it is below `2 ^ 31`. -/
namespace Lightstep.Library

/-- The bits of a word as a count. -/
def counted (c : Int32) : Nat := c.toBitVec.toNat

@[simp] theorem counted_zero : counted 0 = 0 := rfl

theorem counted_eq_zero_iff {c : Int32} : counted c = 0 ↔ c = 0 := by
  refine ⟨fun h => ?_, fun h => h ▸ rfl⟩
  exact Int32.toBitVec_inj.mp (BitVec.eq_of_toNat_eq h)

/-- Words are added up to the times the sum wraps. -/
theorem counted_add (a b : Int32) : ∃ wraps, counted a + counted b = counted (a + b) + 2 ^ 32 * wraps := by
  refine ⟨(counted a + counted b) / 2 ^ 32, ?_⟩
  have hsum : counted (a + b) = (counted a + counted b) % 2 ^ 32 := by
    rw [counted, Int32.toBitVec_add, BitVec.toNat_add, counted, counted]
  rw [hsum, Nat.mod_add_div]

theorem counted_add_le (a b : Int32) : counted (a + b) ≤ counted a + counted b := by
  obtain ⟨wraps, h⟩ := counted_add a b
  omega

theorem counted_ofNat (n : Nat) : ∃ wraps, n = counted (.ofNat n) + 2 ^ 32 * wraps := by
  refine ⟨n / 2 ^ 32, ?_⟩
  rw [counted, Int32.toBitVec_ofNat', BitVec.toNat_ofNat, Nat.mod_add_div]

/-- A count grows by what is counted, but for the times it wraps. -/
theorem counted_add_ofNat (c : Int32) (n : Nat) :
    ∃ wraps, counted c + n = counted (c + .ofNat n) + 2 ^ 32 * wraps := by
  obtain ⟨w, hw⟩ := counted_ofNat n
  obtain ⟨w', hw'⟩ := counted_add c (.ofNat n)
  exact ⟨w + w', by omega⟩

theorem counted_add_ofNat_le (c : Int32) (n : Nat) : counted (c + .ofNat n) ≤ counted c + n := by
  obtain ⟨wraps, h⟩ := counted_add_ofNat c n
  omega

/-- Below the size of the word nothing wraps. -/
theorem counted_add_ofNat_of_lt {c : Int32} {n : Nat} (h : counted c + n < 2 ^ 32) :
    counted (c + .ofNat n) = counted c + n := by
  obtain ⟨wraps, hword⟩ := counted_add_ofNat c n
  omega

/-- Read as a signed number, a word is its count modulo its size. -/
theorem toInt_modEq_counted (c : Int32) : c.toInt ≡ counted c [ZMOD 2 ^ 32] := by
  rw [← Int32.toInt_toBitVec, BitVec.toInt_eq_toNat_bmod]
  exact Int.bmod_emod

/-- Below `2 ^ 31` a word is the number that it is read as. -/
theorem toInt_eq_counted {c : Int32} (h : counted c < 2 ^ 31) : c.toInt = counted c := by
  unfold counted at h
  rw [← Int32.toInt_toBitVec, BitVec.toInt_eq_toNat_of_lt (by omega)]
  rfl

/-- A counter that is below its maximum counts one more. -/
theorem toInt_add_one {c : Int32} (h : c.toInt + 1 < 2 ^ 31) : (c + 1).toInt = c.toInt + 1 := by
  have hlow := c.le_toInt
  rw [Int32.toInt_add, show (1 : Int32).toInt = 1 from rfl]
  exact Int.bmod_eq_of_le (by omega) (by omega)

/-! ### A total that is kept in several words -/

/-- What words say of a total: all of it below `2 ^ 31`, and what it is modulo `2 ^ 32` in any case. -/
structure KeptAs (total : Nat) (kept : Int) : Prop where
  modEq : kept ≡ total [ZMOD 2 ^ 32]
  eq : total < 2 ^ 31 → kept = total

theorem sum_toInt_modEq (words : List Int32) :
    (words.map Int32.toInt).sum ≡ (words.map counted).sum [ZMOD 2 ^ 32] := by
  induction words with
  | nil => exact Int.ModEq.refl _
  | cons c rest ih =>
    rw [List.map_cons, List.map_cons, List.sum_cons, List.sum_cons, Int.natCast_add]
    exact (toInt_modEq_counted c).add ih

/-- Words that are all below `2 ^ 31` add up as they are read. -/
theorem sum_toInt_eq {words : List Int32} (h : ∀ c ∈ words, counted c < 2 ^ 31) :
    (words.map Int32.toInt).sum = (words.map counted).sum := by
  induction words with
  | nil => rfl
  | cons c rest ih =>
    rw [List.map_cons, List.map_cons, List.sum_cons, List.sum_cons, Int.natCast_add,
      toInt_eq_counted (h c (List.mem_cons_self ..)), ih fun d hd => h d (List.mem_cons_of_mem c hd)]

theorem sum_map_toInt_eq {α : Type} {f : α → Int32} {l : List α} (h : ∀ x ∈ l, counted (f x) < 2 ^ 31) :
    (l.map fun x => (f x).toInt).sum = ((l.map fun x => counted (f x)).sum : Nat) := by
  have hwords := @sum_toInt_eq (l.map f) (List.forall_mem_map.mpr h)
  rwa [List.map_map, List.map_map] at hwords

theorem counted_le_sum {words : List Int32} {c : Int32} (h : c ∈ words) : counted c ≤ (words.map counted).sum :=
  List.le_sum_of_mem (List.mem_map_of_mem h)

/-- Words whose counts have lost nothing but by wrapping, next to what is still to be counted. -/
theorem keptAs_of_counted (words : List Int32) {total owed : Nat} (wraps : Nat)
    (h : total = (words.map counted).sum + owed + 2 ^ 32 * wraps) :
    KeptAs total ((words.map Int32.toInt).sum + owed) where
  modEq := by
    have hwraps : ((words.map counted).sum : Int) + owed ≡ total [ZMOD 2 ^ 32] := by
      rw [h, Int.ModEq]
      omega
    exact ((sum_toInt_modEq words).add_right owed).trans hwraps
  eq := fun hlt => by
    have hwords : ∀ c ∈ words, counted c < 2 ^ 31 := fun c hc => by
      have hle := counted_le_sum hc
      omega
    rw [sum_toInt_eq hwords, h]
    omega

end Lightstep.Library

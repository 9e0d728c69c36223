import Mathlib.Data.List.Basic

/-! Ranges of slots of a circular buffer.

A range is two runs of slots: one up to the end of the array, one from its start.
Pointers into the array are indices; the null pointers of a missing run are two
equal ones. `window` is what the ranges stand for: the slots of consecutive
counter values. -/
namespace Lightstep.Common

/-- The slots of the `n` counter values from `start` on. -/
def window (capacity start n : Nat) : List Nat :=
  (List.range n).map fun j => (start + j) % capacity

theorem length_window (capacity start n : Nat) : (window capacity start n).length = n := by
  simp [window]

theorem window_succ (capacity start n : Nat) :
    window capacity start (n + 1) = start % capacity :: window capacity (start + 1) n := by
  simp only [window, List.range_succ_eq_map, List.map_cons, List.map_map, Nat.add_zero]
  congr 1
  apply List.map_congr_left
  intro j _
  show (start + (j + 1)) % capacity = (start + 1 + j) % capacity
  congr 1
  omega

theorem take_window (capacity start n k : Nat) (h : k ≤ n) :
    (window capacity start n).take k = window capacity start k := by
  simp only [window, ← List.map_take, List.take_range, Nat.min_eq_left h]

structure CircularBufferRange where
  first1 : Nat
  last1 : Nat
  first2 : Nat
  last2 : Nat
  deriving DecidableEq

namespace CircularBufferRange

/-- The default range: four null pointers. -/
def none : CircularBufferRange := ⟨0, 0, 0, 0⟩

def size (r : CircularBufferRange) : Nat := (r.last1 - r.first1) + (r.last2 - r.first2)

/-- The slots in the order in which `ForEach` visits them. -/
def slots (r : CircularBufferRange) : List Nat :=
  List.range' r.first1 (r.last1 - r.first1) ++ List.range' r.first2 (r.last2 - r.first2)

def take (r : CircularBufferRange) (n : Nat) : CircularBufferRange :=
  let size1 := r.last1 - r.first1
  if n ≤ size1 then ⟨r.first1, r.first1 + n, 0, 0⟩
  else ⟨r.first1, r.last1, r.first2, r.first2 + (n - size1)⟩

theorem length_slots (r : CircularBufferRange) : r.slots.length = r.size := by
  simp [slots, size]

theorem slots_take (r : CircularBufferRange) (n : Nat) (h : n ≤ r.size) :
    (r.take n).slots = r.slots.take n := by
  simp only [size] at h
  by_cases hn : n ≤ r.last1 - r.first1
  · have hsub : n - (r.last1 - r.first1) = 0 := by omega
    simp only [take, if_pos hn, slots, List.take_append, List.length_range', hsub, List.take_zero,
      List.take_range'_of_length_ge hn, Nat.add_sub_cancel_left, Nat.sub_self, List.range'_zero]
  · have hn' : r.last1 - r.first1 ≤ n := by omega
    have hk : n - (r.last1 - r.first1) ≤ r.last2 - r.first2 := by omega
    simp only [take, if_neg hn, slots, List.take_append, List.length_range',
      List.take_range'_of_length_le hn', List.take_range'_of_length_ge hk, Nat.add_sub_cancel_left]

end CircularBufferRange

/-- The range `PeekImpl` forms from the two counters it has loaded. -/
def peekRange (capacity tail head : Nat) : CircularBufferRange :=
  let tailIndex := tail % capacity
  let headIndex := head % capacity
  if headIndex = tailIndex then .none
  else if tailIndex < headIndex then ⟨tailIndex, headIndex, 0, 0⟩
  else ⟨tailIndex, capacity, 0, headIndex⟩

theorem add_mod_of_lt {capacity start j : Nat} (h : start % capacity + j < capacity) :
    (start + j) % capacity = start % capacity + j := by
  rw [Nat.add_mod, Nat.mod_eq_of_lt (show j < capacity by omega), Nat.mod_eq_of_lt h]

theorem add_mod_of_wrap {capacity start j : Nat} (hj : j < capacity)
    (h : capacity ≤ start % capacity + j) :
    (start + j) % capacity = start % capacity + j - capacity := by
  have hs : start % capacity < capacity := Nat.mod_lt _ (by omega)
  rw [Nat.add_mod, Nat.mod_eq_of_lt hj, Nat.mod_eq_sub_mod h, Nat.mod_eq_of_lt (by omega)]

/-- A window of at most `capacity` values is a run up to the end and a run from the start. -/
theorem window_split (capacity start n : Nat) (hn : n ≤ capacity) (hc : 0 < capacity) :
    window capacity start n =
      List.range' (start % capacity) (min n (capacity - start % capacity)) ++
        List.range' 0 (n - (capacity - start % capacity)) := by
  have hs : start % capacity < capacity := Nat.mod_lt _ hc
  apply List.ext_getElem
  · simp only [length_window, List.length_append, List.length_range']
    omega
  · intro j h₁ h₂
    have hj : j < n := by simpa [length_window] using h₁
    simp only [window, List.getElem_map, List.getElem_range, List.getElem_append,
      List.length_range', List.getElem_range']
    split
    · rw [add_mod_of_lt (by omega)]
      omega
    · rw [add_mod_of_wrap (by omega) (by omega)]
      omega

/-- **What is peeked is the window** from the tail to the head, as long as the
head is less than a whole array ahead. -/
theorem slots_peekRange (capacity tail n : Nat) (hn : n < capacity) :
    (peekRange capacity tail (tail + n)).slots = window capacity tail n := by
  have hc : 0 < capacity := by omega
  have ht : tail % capacity < capacity := Nat.mod_lt _ hc
  rw [window_split capacity tail n (by omega) hc]
  by_cases hw : tail % capacity + n < capacity
  · have hh := add_mod_of_lt hw
    have hmin : min n (capacity - tail % capacity) = n := by omega
    have hsub : n - (capacity - tail % capacity) = 0 := by omega
    rw [hmin, hsub, peekRange, hh]
    by_cases h0 : n = 0
    · subst h0
      rw [if_pos (by omega)]
      rfl
    · rw [if_neg (by omega), if_pos (by omega)]
      simp only [CircularBufferRange.slots, Nat.add_sub_cancel_left, Nat.sub_self]
  · have hh : (tail + n) % capacity = tail % capacity + n - capacity := add_mod_of_wrap hn (by omega)
    have hmin : min n (capacity - tail % capacity) = capacity - tail % capacity := by omega
    have hsub : n - (capacity - tail % capacity) = tail % capacity + n - capacity := by omega
    rw [hmin, hsub, peekRange, hh, if_neg (by omega), if_neg (by omega)]
    simp only [CircularBufferRange.slots, Nat.sub_zero]

/-- The first `k` of a peeked range are the window of `k` values. -/
theorem slots_take_peekRange (capacity tail n k : Nat) (hn : n < capacity) (hk : k ≤ n) :
    ((peekRange capacity tail (tail + n)).take k).slots = window capacity tail k := by
  have hslots := slots_peekRange capacity tail n hn
  have hsize : (peekRange capacity tail (tail + n)).size = n := by
    rw [← CircularBufferRange.length_slots, hslots, length_window]
  rw [CircularBufferRange.slots_take _ _ (by omega), hslots, take_window _ _ _ _ hk]

end Lightstep.Common

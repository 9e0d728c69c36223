import Lightstep.Common.CircularBuffer

/-! The circular buffer in one thread: a queue.

`contents` is the queue. Adding appends to it, consuming drops from its front, and
a consumption whose callback leaves every pointer null leaves the buffer as the
plain one does, whatever the callback did with the elements. -/
namespace Lightstep.Common.CircularBuffer

variable {α σ : Type} {b : CircularBuffer α}

theorem ofMaxSize_wellFormed (maxSize : Nat) : (ofMaxSize maxSize : CircularBuffer α).WellFormed where
  tail_le := Nat.le_refl _
  size_lt := Nat.succ_pos _
  taken := fun i _ hi => absurd hi (Nat.not_lt_zero i)
  free := fun _ _ _ => rfl

theorem WellFormed.tail_add_size (h : b.WellFormed) : b.tail + b.size = b.head := by
  have := h.tail_le
  simp only [size]
  omega

/-- The elements of `n` counter values whose slots are taken. -/
theorem map_data_filterMap (data : Nat → Option α) (slots : List Nat)
    (h : ∀ slot ∈ slots, (data slot).isSome) :
    slots.map data = (slots.filterMap data).map some := by
  induction slots with
  | nil => rfl
  | cons slot rest ih =>
    obtain ⟨e, he⟩ := Option.isSome_iff_exists.mp (h slot (List.mem_cons_self ..))
    rw [List.map_cons, List.filterMap_cons_some he, List.map_cons, he,
      ih fun s hs => h s (List.mem_cons_of_mem slot hs)]

theorem mem_window {capacity start n slot : Nat} (h : slot ∈ window capacity start n) :
    ∃ i, start ≤ i ∧ i < start + n ∧ slot = i % capacity := by
  obtain ⟨j, hj, rfl⟩ := List.mem_map.mp h
  exact ⟨start + j, Nat.le_add_right _ _, Nat.add_lt_add_left (List.mem_range.mp hj) _, rfl⟩

/-- The slots from the tail to the head hold the contents. -/
theorem WellFormed.map_data (h : b.WellFormed) :
    (window b.capacity b.tail b.size).map b.data = b.contents.map some := by
  refine map_data_filterMap _ _ ?_
  intro slot hslot
  obtain ⟨i, hi, hlt, rfl⟩ := mem_window hslot
  have := h.tail_add_size
  exact h.taken i hi (by omega)

theorem WellFormed.length_contents (h : b.WellFormed) : b.contents.length = b.size := by
  have hlen := congrArg List.length h.map_data
  rw [List.length_map, List.length_map, length_window] at hlen
  exact hlen.symm

theorem WellFormed.slots_peek (h : b.WellFormed) : b.peek.slots = window b.capacity b.tail b.size := by
  rw [peek, ← h.tail_add_size]
  exact slots_peekRange _ _ _ h.size_lt

theorem WellFormed.size_peek (h : b.WellFormed) : b.peek.size = b.size := by
  rw [← CircularBufferRange.length_slots, h.slots_peek, length_window]

theorem WellFormed.slots_take_peek (h : b.WellFormed) {n : Nat} (hn : n ≤ b.size) :
    (b.peek.take n).slots = window b.capacity b.tail n := by
  rw [peek, ← h.tail_add_size]
  exact slots_take_peekRange _ _ _ _ h.size_lt hn

/-! ### Adding -/

theorem window_add_one (capacity start n : Nat) :
    window capacity start (n + 1) = window capacity start n ++ [(start + n) % capacity] := by
  simp [window, List.range_succ]

/-- **Adding appends.** -/
theorem WellFormed.add (h : b.WellFormed) {ptr : α} {b' : CircularBuffer α}
    (hadd : b.add ptr = some b') :
    b'.WellFormed ∧ b'.contents = b.contents ++ [ptr] ∧ b'.tail = b.tail ∧ b'.head = b.head + 1 ∧
      b'.capacity = b.capacity := by
  have htail := h.tail_le
  have hsize := h.size_lt
  have hthis := h.tail_add_size
  simp only [size] at hsize
  unfold CircularBuffer.add at hadd
  split at hadd
  case isTrue => cases hadd
  case isFalse hfull =>
    cases hadd
    have hroom := isFull_eq_false.mp (Bool.eq_false_iff.mpr hfull)
    have hkeep : ∀ i, b.tail ≤ i → i < b.head → i % b.capacity ≠ b.head % b.capacity := by
      intro i hi hlt heq
      have := slot_inj (Nat.le_of_lt hlt) (show b.head < i + b.capacity by omega) heq
      omega
    have hdata : ∀ i, b.tail ≤ i → i < b.head →
        (b.setData (b.head % b.capacity) (some ptr)).data (i % b.capacity) = b.data (i % b.capacity) := by
      intro i hi hlt
      rw [setData_data, if_neg (hkeep i hi hlt)]
    refine ⟨⟨?_, ?_, ?_, ?_⟩, ?_, rfl, rfl, rfl⟩
    · show b.tail ≤ b.head + 1
      omega
    · show b.head + 1 - b.tail < b.capacity
      omega
    · intro i hi hlt
      have hi : b.tail ≤ i := hi
      have hlt : i < b.head + 1 := hlt
      show ((b.setData _ _).data (i % b.capacity)).isSome
      by_cases hlast : i = b.head
      · rw [hlast, setData_data, if_pos rfl]
        rfl
      · rw [hdata i hi (by omega)]
        exact h.taken i hi (by omega)
    · intro i hi hlt
      have hi : b.head + 1 ≤ i := hi
      have hlt : i < b.tail + b.capacity := hlt
      have hne : i % b.capacity ≠ b.head % b.capacity := by
        intro heq
        have := slot_inj (show b.head ≤ i by omega) (by omega) heq.symm
        omega
      show (b.setData _ _).data (i % b.capacity) = none
      rw [setData_data, if_neg hne]
      exact h.free i (by omega) hlt
    · show (window b.capacity b.tail (b.head + 1 - b.tail)).filterMap (b.setData _ _).data = _
      rw [show b.head + 1 - b.tail = b.size + 1 by simp only [size]; omega, window_add_one,
        List.filterMap_append, hthis]
      congr 1
      · refine List.filterMap_congr ?_
        intro slot hslot
        obtain ⟨i, hi, hlt, rfl⟩ := mem_window hslot
        exact hdata i hi (by omega)
      · rw [List.filterMap_cons_some (show (b.setData _ _).data _ = some ptr by
          rw [setData_data, if_pos rfl]), List.filterMap_nil]

/-! ### Consuming -/

/-- What a callback leaves of each element it is shown. -/
def visit (callback : σ → AtomicUniquePtr α → σ × AtomicUniquePtr α) :
    σ → List α → σ × List (AtomicUniquePtr α)
  | st, [] => (st, [])
  | st, e :: rest =>
    let (st', ptr) := callback st (some e)
    let (last, ptrs) := visit callback st' rest
    (last, ptr :: ptrs)

theorem visit_append (callback : σ → AtomicUniquePtr α → σ × AtomicUniquePtr α) (st : σ) (a b : List α) :
    visit callback st (a ++ b) =
      ((visit callback (visit callback st a).1 b).1,
        (visit callback st a).2 ++ (visit callback (visit callback st a).1 b).2) := by
  induction a generalizing st with
  | nil => rfl
  | cons e rest ih => simp only [List.cons_append, visit, ih]

theorem visit_reset (elements : List α) :
    ∀ ptr ∈ (visit (fun (_ : Unit) _ => ((), none)) () elements).2, ptr = none := by
  induction elements with
  | nil => exact fun _ h => by cases h
  | cons e rest ih =>
    intro ptr hmem
    rcases List.mem_cons.mp hmem with h | h
    · exact h
    · exact ih ptr h

theorem window_nodup {capacity start n : Nat} (hn : n ≤ capacity) : (window capacity start n).Nodup := by
  induction n generalizing start with
  | zero => exact List.nodup_nil
  | succ n ih =>
    rw [window_succ, List.nodup_cons]
    refine ⟨?_, ih (by omega)⟩
    intro hmem
    obtain ⟨i, hi, hlt, heq⟩ := mem_window hmem
    have := slot_inj (show start ≤ i by omega) (by omega) heq
    omega

theorem drop_window (capacity start n k : Nat) :
    (window capacity start n).drop k = window capacity (start + k) (n - k) := by
  induction k generalizing start n with
  | zero => rfl
  | succ k ih =>
    cases n with
    | zero => simp [window]
    | succ n =>
      rw [window_succ, List.drop_succ_cons, ih, Nat.add_sub_add_right]
      congr 1
      omega

@[simp] theorem foldl_reset_capacity (slots : List Nat) (b : CircularBuffer α) :
    (slots.foldl reset b).capacity = b.capacity := by
  induction slots generalizing b with
  | nil => rfl
  | cons slot rest ih => exact ih (b.reset slot)

@[simp] theorem foldl_reset_head (slots : List Nat) (b : CircularBuffer α) :
    (slots.foldl reset b).head = b.head := by
  induction slots generalizing b with
  | nil => rfl
  | cons slot rest ih => exact ih (b.reset slot)

@[simp] theorem foldl_reset_tail (slots : List Nat) (b : CircularBuffer α) :
    (slots.foldl reset b).tail = b.tail := by
  induction slots generalizing b with
  | nil => rfl
  | cons slot rest ih => exact ih (b.reset slot)

theorem foldl_reset_data (slots : List Nat) (b : CircularBuffer α) (i : Nat) :
    (slots.foldl reset b).data i = if i ∈ slots then none else b.data i := by
  induction slots generalizing b with
  | nil => rfl
  | cons slot rest ih =>
    rw [List.foldl_cons, ih (b.reset slot), reset, setData_data]
    by_cases hi : i = slot
    · simp [hi]
    · simp [hi]

/-- A callback that leaves null pointers resets the slots. -/
theorem forSlots_null (callback : σ → AtomicUniquePtr α → σ × AtomicUniquePtr α) (st : σ)
    (b : CircularBuffer α) (slots : List Nat) (elements : List α) (hnodup : slots.Nodup)
    (hdata : slots.map b.data = elements.map some)
    (hnull : ∀ ptr ∈ (visit callback st elements).2, ptr = none) :
    forSlots callback st b slots = ((visit callback st elements).1, slots.foldl reset b) := by
  induction slots generalizing st b elements with
  | nil =>
    cases elements with
    | nil => rfl
    | cons e rest => cases hdata
  | cons slot slots ih =>
    cases elements with
    | nil => cases hdata
    | cons e rest =>
      obtain ⟨hslot, hrest⟩ := List.cons.inj hdata
      obtain ⟨hnew, hnodup⟩ := List.nodup_cons.mp hnodup
      have hptr : (callback st (some e)).2 = none := hnull _ (List.mem_cons_self ..)
      have hdata' : slots.map (b.reset slot).data = rest.map some := by
        rw [← hrest]
        refine List.map_congr_left ?_
        intro i hi
        have hne : i ≠ slot := fun heq => hnew (heq ▸ hi)
        rw [reset, setData_data, if_neg hne]
      have htail := ih (callback st (some e)).1 (b.reset slot) rest hnodup hdata'
        fun ptr hmem => hnull ptr (List.mem_cons_of_mem _ hmem)
      simp only [forSlots, hslot, hptr, visit, List.foldl_cons]
      exact htail

/-- The contents' first elements are in the slots `Consume` takes. -/
theorem WellFormed.map_data_take (h : b.WellFormed) {n : Nat} (hn : n ≤ b.size) :
    (window b.capacity b.tail n).map (b.advance n).data = (b.contents.take n).map some := by
  rw [List.map_take, ← h.map_data, ← List.map_take, take_window _ _ _ _ hn]
  rfl

theorem WellFormed.consume_eq (h : b.WellFormed) {n : Nat} (hn : n ≤ b.size) :
    b.consume n = (window b.capacity b.tail n).foldl reset (b.advance n) := by
  have hsize := h.size_lt
  rw [CircularBuffer.consume, CircularBuffer.consumeWith, h.slots_take_peek hn,
    forSlots_null _ _ _ _ _ (window_nodup (by omega)) (h.map_data_take hn) (visit_reset _)]

/-- **A consumption that leaves null pointers** is the plain one, and its callback is shown the
contents' first elements. -/
theorem WellFormed.consumeWith (h : b.WellFormed) {n : Nat} (hn : n ≤ b.size)
    (callback : σ → AtomicUniquePtr α → σ × AtomicUniquePtr α) (st : σ)
    (hnull : ∀ ptr ∈ (visit callback st (b.contents.take n)).2, ptr = none) :
    b.consumeWith n callback st = ((visit callback st (b.contents.take n)).1, b.consume n) := by
  have hsize := h.size_lt
  rw [h.consume_eq hn, CircularBuffer.consumeWith, h.slots_take_peek hn]
  exact forSlots_null callback st _ _ _ (window_nodup (by omega)) (h.map_data_take hn) hnull

theorem consume_zero (b : CircularBuffer α) : b.consume 0 = b := by
  have hslots : (b.peek.take 0).slots = [] := by
    rw [CircularBufferRange.slots_take _ _ (Nat.zero_le _), List.take_zero]
  rw [CircularBuffer.consume, CircularBuffer.consumeWith, hslots]
  rfl

theorem WellFormed.consume_tail (h : b.WellFormed) {n : Nat} (hn : n ≤ b.size) : (b.consume n).tail = b.tail + n := by
  rw [h.consume_eq hn, foldl_reset_tail]
  rfl

theorem WellFormed.consume_head (h : b.WellFormed) {n : Nat} (hn : n ≤ b.size) : (b.consume n).head = b.head := by
  rw [h.consume_eq hn, foldl_reset_head]
  rfl

theorem WellFormed.consume_capacity (h : b.WellFormed) {n : Nat} (hn : n ≤ b.size) :
    (b.consume n).capacity = b.capacity := by
  rw [h.consume_eq hn, foldl_reset_capacity]
  rfl

/-- The slots that are consumed are reset, and no others. -/
theorem WellFormed.consume_data (h : b.WellFormed) {n : Nat} (hn : n ≤ b.size) (slot : Nat) :
    (b.consume n).data slot = if slot ∈ window b.capacity b.tail n then none else b.data slot := by
  rw [h.consume_eq hn, foldl_reset_data]
  rfl

theorem WellFormed.consume_data_of_le (h : b.WellFormed) {n : Nat} (hn : n ≤ b.size) {i : Nat} (hi : b.tail + n ≤ i)
    (hlt : i < b.head) : (b.consume n).data (i % b.capacity) = b.data (i % b.capacity) := by
  have hsize := h.size_lt
  have hhead := h.tail_add_size
  rw [h.consume_data hn, if_neg]
  intro hmem
  obtain ⟨j, hj, hjn, heq⟩ := mem_window hmem
  have := slot_inj (show j ≤ i by omega) (by omega) heq.symm
  omega

theorem WellFormed.consume_wellFormed (h : b.WellFormed) {n : Nat} (hn : n ≤ b.size) : (b.consume n).WellFormed := by
  have hsize := h.size_lt
  have hhead := h.tail_add_size
  refine ⟨?_, ?_, ?_, ?_⟩
  · rw [h.consume_tail hn, h.consume_head hn]
    omega
  · rw [h.consume_capacity hn, CircularBuffer.size, h.consume_tail hn, h.consume_head hn]
    omega
  · intro i hi hlt
    rw [h.consume_tail hn] at hi
    rw [h.consume_head hn] at hlt
    rw [h.consume_capacity hn, h.consume_data_of_le hn hi hlt]
    exact h.taken i (by omega) hlt
  · intro i hi hlt
    rw [h.consume_head hn] at hi
    rw [h.consume_tail hn, h.consume_capacity hn] at hlt
    rw [h.consume_capacity hn, h.consume_data hn]
    by_cases hold : i < b.tail + b.capacity
    · split
      · rfl
      · exact h.free i hi hold
    · -- past the old end, the slot is one of those that were consumed
      have hmod : i % b.capacity = (i - b.capacity) % b.capacity := Nat.mod_eq_sub_mod (by omega)
      have hmem : i % b.capacity ∈ window b.capacity b.tail n := by
        rw [hmod, show i - b.capacity = b.tail + (i - b.capacity - b.tail) by omega]
        exact List.mem_map.mpr ⟨i - b.capacity - b.tail, List.mem_range.mpr (by omega), rfl⟩
      rw [if_pos hmem]

theorem WellFormed.consume_contents (h : b.WellFormed) {n : Nat} (hn : n ≤ b.size) :
    (b.consume n).contents = b.contents.drop n := by
  have hhead := h.tail_add_size
  have hsub : (b.consume n).size = b.size - n := by
    rw [CircularBuffer.size, h.consume_tail hn, h.consume_head hn, CircularBuffer.size]
    omega
  have hdata : (window b.capacity (b.tail + n) (b.size - n)).filterMap (b.consume n).data =
      (window b.capacity (b.tail + n) (b.size - n)).filterMap b.data := by
    refine List.filterMap_congr ?_
    intro slot hslot
    obtain ⟨i, hi, hlt, rfl⟩ := mem_window hslot
    exact h.consume_data_of_le hn hi (by omega)
  rw [contents, hsub, h.consume_capacity hn, h.consume_tail hn]
  refine hdata.trans ?_
  refine List.map_injective_iff.mpr (fun _ _ heq => Option.some.inj heq) ?_
  rw [← map_data_filterMap, List.map_drop, ← h.map_data, ← List.map_drop, drop_window]
  intro slot hslot
  obtain ⟨i, hi, hlt, rfl⟩ := mem_window hslot
  exact h.taken i (by omega) (by omega)

/-- **Consuming drops from the front.** -/
theorem WellFormed.consume (h : b.WellFormed) {n : Nat} (hn : n ≤ b.size) :
    (b.consume n).WellFormed ∧ (b.consume n).contents = b.contents.drop n ∧
      (b.consume n).tail = b.tail + n ∧ (b.consume n).head = b.head ∧
      (b.consume n).capacity = b.capacity :=
  ⟨h.consume_wellFormed hn, h.consume_contents hn, h.consume_tail hn, h.consume_head hn, h.consume_capacity hn⟩

end Lightstep.Common.CircularBuffer

import Lightstep.Common.CircularBuffer.Interleaving

/-! What every interleaving keeps.

A slot is not null because the element in it is published, because a producer has
parked its pointer there under a head that may be stale, or because the consumer
has advanced the tail and not yet reset it. The slots of the counter values from
the number of consumed elements to the head hold published elements; a parked
element has not been published, so its slot is none of these, and the head can
reach a counter value only once its slot has been reset. -/
namespace Lightstep.Common.Interleaving
open Library

variable {P α : Type} {maxSize : Nat}

/-! ### The buffer -/

structure BufferInv (maxSize : Nat) (b : Buffer α) (published : List (Element α))
    (consumed : List (AtomicUniquePtr (Element α))) : Prop where
  capacity : b.capacity = maxSize + 1
  published_length : published.length = b.head
  consumed_le : consumed.length ≤ b.tail
  tail_le : b.tail ≤ b.head
  head_le : b.head ≤ b.tail + maxSize
  head_le_consumed : b.head ≤ consumed.length + b.capacity
  once : (published.map Element.call).Nodup
  consumed_eq : consumed = (published.take consumed.length).map some
  slots : ∀ i, consumed.length ≤ i → i < b.head → b.data (i % b.capacity) = published[i]?

variable {b : Buffer α} {published : List (Element α)}
  {consumed : List (AtomicUniquePtr (Element α))}

/-- The element in the slot of an unconsumed counter value is published. -/
theorem BufferInv.slot_published (h : BufferInv maxSize b published consumed) {i : Nat}
    (hi : consumed.length ≤ i) (hlt : i < b.head) :
    ∃ e, published[i]? = some e ∧ b.data (i % b.capacity) = some e := by
  have hlen := h.published_length
  have hget : published[i]? = some published[i] := List.getElem?_eq_getElem (by omega)
  exact ⟨published[i], hget, by rw [h.slots i hi hlt, hget]⟩

/-- A slot that holds nothing published may be written. -/
theorem BufferInv.setData (h : BufferInv maxSize b published consumed) {slot : Nat}
    (hslot : ∀ i, b.data slot = some i → i ∉ published) (ptr : AtomicUniquePtr (Element α)) :
    BufferInv maxSize (b.setData slot ptr) published consumed := by
  refine {h with slots := ?_}
  intro i hi hlt
  obtain ⟨e, he, hdata⟩ := h.slot_published hi hlt
  have hne : i % b.capacity ≠ slot := by
    intro heq
    rw [heq] at hdata
    exact hslot e hdata (List.mem_of_getElem? he)
  show (b.setData slot ptr).data (i % b.capacity) = _
  rw [CircularBuffer.setData_data, if_neg hne, h.slots i hi hlt]

/-- The head moves past a parked element. -/
theorem BufferInv.publish (h : BufferInv maxSize b published consumed) {e : Element α}
    (hdata : b.data (b.head % b.capacity) = some e) (he : ∀ e' ∈ published, e'.call ≠ e.call)
    (hlt : b.head < b.tail + maxSize) :
    BufferInv maxSize {b with head := b.head + 1} (published ++ [e]) consumed := by
  have hcap := h.capacity
  have hcons := h.consumed_le
  have htail := h.tail_le
  have hlen := h.published_length
  -- the slot a whole array ahead of the first unconsumed element is still that element's
  have hroom : b.head ≠ consumed.length + b.capacity := by
    intro heq
    obtain ⟨e', he', hdata'⟩ := h.slot_published (Nat.le_refl _) (by omega)
    rw [heq, Nat.add_mod_right, hdata'] at hdata
    cases hdata
    exact he _ (List.mem_of_getElem? he') rfl
  have hle := h.head_le_consumed
  refine { capacity := hcap, published_length := ?_, consumed_le := hcons, tail_le := ?_,
           head_le := ?_, head_le_consumed := ?_, once := ?_, consumed_eq := ?_, slots := ?_ }
  · simp [hlen]
  · show b.tail ≤ b.head + 1
    omega
  · show b.head + 1 ≤ b.tail + maxSize
    omega
  · show b.head + 1 ≤ consumed.length + b.capacity
    omega
  · rw [List.map_append, List.nodup_append]
    refine ⟨h.once, by simp, ?_⟩
    intro k hk k' hk' heq
    obtain ⟨e', he', rfl⟩ := List.mem_map.mp hk
    rw [List.map_singleton, List.mem_singleton] at hk'
    exact he e' he' (heq.trans hk')
  · rw [List.take_append_of_le_length (by omega)]
    exact h.consumed_eq
  · intro i hi hlt
    have hlt : i < b.head + 1 := hlt
    show b.data (i % b.capacity) = _
    by_cases hlast : i = b.head
    · rw [hlast, hdata, ← hlen]
      simp
    · rw [h.slots i hi (by omega), List.getElem?_append_left (by omega)]

theorem BufferInv.advance (h : BufferInv maxSize b published consumed) {n : Nat}
    (hn : b.tail + n ≤ b.head) : BufferInv maxSize (b.advance n) published consumed := by
  have hcons := h.consumed_le
  have hle := h.head_le
  refine {h with consumed_le := ?_, tail_le := hn, head_le := ?_}
  · show consumed.length ≤ b.tail + n
    omega
  · show b.head ≤ b.tail + n + maxSize
    omega

/-- The callback sees the first unconsumed element and resets its slot. -/
theorem BufferInv.reset (h : BufferInv maxSize b published consumed)
    (hlt : consumed.length < b.tail) :
    BufferInv maxSize (b.reset (consumed.length % b.capacity)) published
      (consumed ++ [b.data (consumed.length % b.capacity)]) := by
  have htail := h.tail_le
  have hle := h.head_le_consumed
  obtain ⟨e, he, hdata⟩ := h.slot_published (Nat.le_refl _) (by omega)
  have hlen : (consumed ++ [b.data (consumed.length % b.capacity)]).length = consumed.length + 1 := by
    simp
  refine { capacity := h.capacity, published_length := h.published_length, consumed_le := ?_,
           tail_le := htail, head_le := h.head_le, head_le_consumed := ?_, once := h.once,
           consumed_eq := ?_, slots := ?_ }
  · rw [hlen]
    exact hlt
  · rw [hlen]
    show b.head ≤ consumed.length + 1 + b.capacity
    omega
  · have hnext : published.take (consumed.length + 1) = published.take consumed.length ++ [e] := by
      rw [List.take_add_one, he]
      rfl
    rw [hlen, hnext, List.map_append, ← h.consumed_eq, hdata]
    rfl
  · intro i hi hi'
    rw [hlen] at hi
    have hi' : i < b.head := hi'
    have hne : i % b.capacity ≠ consumed.length % b.capacity := by
      intro heq
      have := CircularBuffer.slot_inj (show consumed.length ≤ i by omega) (by omega) heq.symm
      omega
    show (b.setData _ none).data (i % b.capacity) = _
    rw [CircularBuffer.setData_data, if_neg hne]
    exact h.slots i (by omega) hi'

/-! ### The consumer -/

def Goal.Fits (b : Buffer α) : Goal → Prop
  | .peek => True
  | .consume n => b.tail + n ≤ b.head

/-- What the consumer knows, from the buffer and the number of elements consumed. -/
def Consumer.Inv (b : Buffer α) (consumed : Nat) : Consumer → Prop
  | .idle peeked => consumed = b.tail ∧
      ∃ n, b.tail + n ≤ b.head ∧ peeked.slots = window b.capacity b.tail n
  | .sizeTail => consumed = b.tail
  | .sizeHead tail => consumed = b.tail ∧ tail = b.tail
  | .peekTail goal => consumed = b.tail ∧ goal.Fits b
  | .peekHead goal tail => consumed = b.tail ∧ tail = b.tail ∧ goal.Fits b
  | .advance n range => consumed = b.tail ∧ b.tail + n ≤ b.head ∧
      range.slots = window b.capacity b.tail n
  | .callback slots => slots = window b.capacity consumed (b.tail - consumed)

/-- A producer's step does not touch what the consumer knows. -/
theorem Consumer.Inv.mono {b' : Buffer α} {n : Nat} {c : Consumer} (h : c.Inv b n)
    (hcap : b'.capacity = b.capacity) (htail : b'.tail = b.tail) (hhead : b.head ≤ b'.head) :
    c.Inv b' n := by
  have hgoal : ∀ {goal : Goal}, goal.Fits b → goal.Fits b' := by
    intro goal hfits
    cases goal with
    | peek => trivial
    | consume k =>
      have hfits : b.tail + k ≤ b.head := hfits
      show b'.tail + k ≤ b'.head
      omega
  cases c with
  | idle peeked =>
    obtain ⟨hn, k, hk, hslots⟩ := h
    exact ⟨by omega, k, by omega, by rw [hcap, htail, hslots]⟩
  | sizeTail => exact Eq.trans h htail.symm
  | sizeHead tail => exact ⟨by rw [htail]; exact h.1, by rw [htail]; exact h.2⟩
  | peekTail goal => exact ⟨by rw [htail]; exact h.1, hgoal h.2⟩
  | peekHead goal tail =>
    exact ⟨by rw [htail]; exact h.1, by rw [htail]; exact h.2.1, hgoal h.2.2⟩
  | advance k range =>
    obtain ⟨hn, hk, hslots⟩ := h
    exact ⟨by omega, by omega, by rw [hcap, htail, hslots]⟩
  | callback slots =>
    show slots = _
    rw [hcap, htail]
    exact h

theorem idle_none_inv (b : Buffer α) (h : b.tail ≤ b.head) :
    (Consumer.idle .none).Inv b b.tail := ⟨rfl, 0, by omega, rfl⟩

/-- The consumer's steps keep the buffer's invariant and the consumer's. -/
theorem Consumer.step_inv {b' : Buffer α} {c c' : Consumer}
    {seen : List (AtomicUniquePtr (Element α))} (hb : BufferInv maxSize b published consumed)
    (hc : c.Inv b consumed.length) (hstep : c.step b = some (b', c', seen)) :
    BufferInv maxSize b' published (consumed ++ seen) ∧ c'.Inv b' (consumed ++ seen).length := by
  have hcap := hb.capacity
  have htail := hb.tail_le
  have hle := hb.head_le
  cases c with
  | idle peeked => cases hstep
  | sizeTail =>
    cases hstep
    rw [List.append_nil]
    exact ⟨hb, hc, rfl⟩
  | sizeHead tail =>
    cases hstep
    rw [List.append_nil]
    refine ⟨hb, hc.1, ?_⟩
    show b.tail + (b.head - tail) ≤ b.head
    rw [hc.2]
    omega
  | peekTail goal =>
    cases hstep
    rw [List.append_nil]
    exact ⟨hb, hc.1, rfl, hc.2⟩
  | peekHead goal tail =>
    obtain ⟨hn, ht, hfits⟩ := hc
    subst ht
    have hhead : b.tail + (b.head - b.tail) = b.head := by omega
    cases goal with
    | peek =>
      cases hstep
      rw [List.append_nil]
      have hslots := slots_peekRange b.capacity b.tail (b.head - b.tail) (by omega)
      rw [hhead] at hslots
      exact ⟨hb, hn, b.head - b.tail, by omega, hslots⟩
    | consume n =>
      cases hstep
      rw [List.append_nil]
      have hfits : b.tail + n ≤ b.head := hfits
      have hslots := slots_take_peekRange b.capacity b.tail (b.head - b.tail) n (by omega) (by omega)
      rw [hhead] at hslots
      exact ⟨hb, hn, hfits, hslots⟩
  | advance n range =>
    obtain ⟨hn, hfits, hslots⟩ := hc
    cases hstep
    rw [List.append_nil]
    refine ⟨hb.advance hfits, ?_⟩
    show range.slots = window b.capacity consumed.length (b.tail + n - consumed.length)
    rw [hslots, hn, Nat.add_sub_cancel_left]
  | callback slots =>
    have hc : slots = window b.capacity consumed.length (b.tail - consumed.length) := hc
    have hcons := hb.consumed_le
    cases slots with
    | nil =>
      cases hstep
      have hlen := congrArg List.length hc
      rw [length_window, List.length_nil] at hlen
      rw [List.append_nil, show consumed.length = b.tail by omega]
      exact ⟨hb, idle_none_inv b htail⟩
    | cons slot rest =>
      cases hstep
      have hlen := congrArg List.length hc
      rw [length_window, List.length_cons] at hlen
      have hn : b.tail - consumed.length = (b.tail - consumed.length - 1) + 1 := by omega
      rw [hn, window_succ] at hc
      obtain ⟨hslot, hrest⟩ := List.cons.inj hc
      subst hslot
      refine ⟨hb.reset (by omega), ?_⟩
      show rest = window b.capacity _ (b.tail - _)
      rw [hrest, List.length_append, List.length_singleton, Nat.sub_sub]

/-! ### The producers -/

/-- The caller has its element back, and nothing else of the call is left. -/
structure Owns (b : Buffer α) (published : List (Element α)) (a : AddCall α) : Prop where
  ptr : a.ptr = some a.element
  absent : ∀ slot e, b.data slot = some e → e.call ≠ a.element.call
  unpublished : ∀ e ∈ published, e.call ≠ a.element.call

/-- The call's element is in the slot of `head` and nowhere else. -/
structure Parked (b : Buffer α) (published : List (Element α)) (a : AddCall α) (head : Nat) : Prop where
  ptr : a.ptr = none
  parked : b.data (head % b.capacity) = some a.element
  only : ∀ slot e, b.data slot = some e → e.call = a.element.call → slot = head % b.capacity
  unpublished : ∀ e ∈ published, e.call ≠ a.element.call

/-- A head a call has loaded when there was room. -/
def Loaded (maxSize : Nat) (b : Buffer α) (head : Nat) : Prop :=
  head ≤ b.head ∧ head < b.tail + maxSize

/-- What a call of `Add` knows between its steps. -/
def AddCall.Inv (maxSize : Nat) (b : Buffer α) (published : List (Element α)) (a : AddCall α) : Prop :=
  match a.pc with
  | .loadTail => Owns b published a
  | .loadHead tail => Owns b published a ∧ tail ≤ b.tail
  | .swapIfNull head => Owns b published a ∧ Loaded maxSize b head
  | .compareExchange head => Parked b published a head ∧ Loaded maxSize b head
  | .undoSwap head => Parked b published a head ∧ Loaded maxSize b head
  | .returned false => Owns b published a
  | .returned true => a.ptr = none ∧ a.element ∈ published

/-- What a step taken for the calls in `own` may do to what the other calls know. -/
structure Rely (own : Nat → Prop) (b : Buffer α) (published : List (Element α)) (b' : Buffer α)
    (published' : List (Element α)) : Prop where
  capacity : b'.capacity = b.capacity
  tail : b.tail ≤ b'.tail
  head : b.head ≤ b'.head
  published_kept : ∀ e ∈ published, e ∈ published'
  published_own : ∀ e ∈ published', e ∈ published ∨ own e.call
  data_own : ∀ slot e, b'.data slot = some e → b.data slot = some e ∨ own e.call
  data_kept : ∀ slot e, b.data slot = some e → ¬ own e.call → (∀ e' ∈ published, e'.call ≠ e.call) →
    b'.data slot = some e

variable {b' : Buffer α} {published' : List (Element α)} {own : Nat → Prop} {a : AddCall α}

theorem Rely.owns (hr : Rely own b published b' published') (h : ¬ own a.element.call)
    (ho : Owns b published a) : Owns b' published' a := by
  refine ⟨ho.ptr, ?_, ?_⟩
  · intro slot e hdata heq
    rcases hr.data_own slot e hdata with hold | hown
    · exact ho.absent slot e hold heq
    · exact h (heq ▸ hown)
  · intro e he heq
    rcases hr.published_own e he with hold | hown
    · exact ho.unpublished e hold heq
    · exact h (heq ▸ hown)

theorem Rely.parked (hr : Rely own b published b' published') (h : ¬ own a.element.call) {head : Nat}
    (hp : Parked b published a head) : Parked b' published' a head := by
  refine ⟨hp.ptr, ?_, ?_, ?_⟩
  · rw [hr.capacity]
    exact hr.data_kept _ _ hp.parked h hp.unpublished
  · intro slot e hdata heq
    rw [hr.capacity]
    rcases hr.data_own slot e hdata with hold | hown
    · exact hp.only slot e hold heq
    · exact absurd (heq ▸ hown) h
  · intro e he heq
    rcases hr.published_own e he with hold | hown
    · exact hp.unpublished e hold heq
    · exact h (heq ▸ hown)

theorem Rely.loaded (hr : Rely own b published b' published') {head : Nat}
    (hl : Loaded maxSize b head) : Loaded maxSize b' head := by
  have htail := hr.tail
  have hhead := hr.head
  exact ⟨by have := hl.1; omega, by have := hl.2; omega⟩

/-- What a call knows survives the steps of the others. -/
theorem Rely.inv (hr : Rely own b published b' published') (h : ¬ own a.element.call)
    (ha : a.Inv maxSize b published) : a.Inv maxSize b' published' := by
  unfold AddCall.Inv at ha ⊢
  cases hpc : a.pc with
  | loadTail =>
    rw [hpc] at ha
    exact hr.owns h ha
  | loadHead tail =>
    rw [hpc] at ha
    exact ⟨hr.owns h ha.1, Nat.le_trans ha.2 hr.tail⟩
  | swapIfNull head =>
    rw [hpc] at ha
    exact ⟨hr.owns h ha.1, hr.loaded ha.2⟩
  | compareExchange head =>
    rw [hpc] at ha
    exact ⟨hr.parked h ha.1, hr.loaded ha.2⟩
  | undoSwap head =>
    rw [hpc] at ha
    exact ⟨hr.parked h ha.1, hr.loaded ha.2⟩
  | returned added =>
    rw [hpc] at ha
    cases added with
    | false => exact hr.owns h ha
    | true => exact ⟨ha.1, hr.published_kept _ ha.2⟩

theorem Rely.refl (own : Nat → Prop) (b : Buffer α) (published : List (Element α)) :
    Rely own b published b published :=
  ⟨rfl, Nat.le_refl _, Nat.le_refl _, fun _ h => h, fun _ h => .inl h, fun _ _ h => .inl h,
    fun _ _ h _ _ => h⟩

/-- Writing a slot whose old and new contents are the stepping call's, published or null. -/
theorem Rely.setData (slot : Nat) (ptr : AtomicUniquePtr (Element α))
    (hnew : ∀ e, ptr = some e → own e.call)
    (hold : ∀ e, b.data slot = some e → own e.call ∨ e ∈ published) :
    Rely own b published (b.setData slot ptr) published := by
  refine ⟨rfl, Nat.le_refl _, Nat.le_refl _, fun _ h => h, fun _ h => .inl h, ?_, ?_⟩
  · intro i e hdata
    rw [CircularBuffer.setData_data] at hdata
    by_cases hi : i = slot
    · rw [if_pos hi] at hdata
      exact .inr (hnew e hdata)
    · rw [if_neg hi] at hdata
      exact .inl hdata
  · intro i e hdata hown hpub
    rw [CircularBuffer.setData_data]
    by_cases hi : i = slot
    · subst hi
      rcases hold e hdata with h | h
      · exact absurd h hown
      · exact absurd rfl (hpub e h)
    · rw [if_neg hi]
      exact hdata

/-- The head moves past the stepping call's element. -/
theorem Rely.publish {e : Element α} (he : own e.call) :
    Rely own b published {b with head := b.head + 1} (published ++ [e]) := by
  refine ⟨rfl, Nat.le_refl _, Nat.le_succ _, fun _ h => List.mem_append_left _ h, ?_,
    fun _ _ h => .inl h, fun _ _ h _ _ => h⟩
  intro e' he'
  rcases List.mem_append.mp he' with h | h
  · exact .inl h
  · rw [List.mem_singleton.mp h]
    exact .inr he

end Lightstep.Common.Interleaving

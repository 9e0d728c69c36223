import Mathlib.Algebra.Order.Ring.Nat
import Lightstep.Common.CircularBuffer.Invariant
import Lightstep.Common.CircularBuffer.Sequential

/-! What is published is consumed: every element once, in order, by any interleaving. -/
namespace Lightstep.Common.Interleaving
open Library

variable {P α : Type} {maxSize : Nat} {b b' : Buffer α} {published : List (Element α)}
  {consumed : List (AtomicUniquePtr (Element α))} {a a' : AddCall α}

/-! ### One step of a producer -/

theorem AddCall.publish_of_head_eq (a : AddCall α) (h : b'.head = b.head) :
    a.publish b b' published = published := if_neg (by omega)

/-- A call parks its element in a free slot. -/
theorem park_inv {head : Nat} (hb : BufferInv maxSize b published consumed)
    (ho : Owns b published a) (hfree : b.data (head % b.capacity) = none) :
    BufferInv maxSize (b.setData (head % b.capacity) a.ptr) published consumed ∧
      Parked (b.setData (head % b.capacity) a.ptr) published
        {a with pc := .compareExchange head, ptr := none} head ∧
      Rely (· = a.element.call) b published (b.setData (head % b.capacity) a.ptr) published := by
  refine ⟨hb.setData ?_ _, ⟨rfl, ?_, ?_, ho.unpublished⟩, Rely.setData _ _ ?_ ?_⟩
  · intro e he
    rw [hfree] at he
    cases he
  · show (b.setData _ _).data (head % b.capacity) = _
    rw [CircularBuffer.setData_data, if_pos rfl, ho.ptr]
  · intro slot e hdata hcall
    show slot = head % b.capacity
    rw [CircularBuffer.setData_data] at hdata
    by_cases hs : slot = head % b.capacity
    · exact hs
    · rw [if_neg hs] at hdata
      exact absurd hcall (ho.absent slot e hdata)
  · intro e he
    rw [ho.ptr] at he
    cases he
    rfl
  · intro e he
    rw [hfree] at he
    cases he

/-- A call whose exchange of the head failed takes its element back. -/
theorem undo_inv {head : Nat} (hb : BufferInv maxSize b published consumed)
    (hp : Parked b published a head) :
    BufferInv maxSize (b.setData (head % b.capacity) a.ptr) published consumed ∧
      Owns (b.setData (head % b.capacity) a.ptr) published
        {a with pc := .loadTail, ptr := b.data (head % b.capacity)} ∧
      Rely (· = a.element.call) b published (b.setData (head % b.capacity) a.ptr) published := by
  refine ⟨hb.setData ?_ _, ⟨hp.parked, ?_, hp.unpublished⟩, Rely.setData _ _ ?_ ?_⟩
  · intro e he hmem
    rw [hp.parked] at he
    cases he
    exact hp.unpublished _ hmem rfl
  · intro slot e hdata hcall
    rw [CircularBuffer.setData_data] at hdata
    by_cases hs : slot = head % b.capacity
    · rw [if_pos hs, hp.ptr] at hdata
      cases hdata
    · rw [if_neg hs] at hdata
      exact hs (hp.only slot e hdata hcall)
  · intro e he
    rw [hp.ptr] at he
    cases he
  · intro e he
    rw [hp.parked] at he
    cases he
    exact .inl rfl

/-- What a step of a call of `Add` can do. -/
inductive AddCall.Steps (b : Buffer α) : AddCall α → Buffer α → AddCall α → Prop where
  | loadTail {element : Element α} {ptr : AtomicUniquePtr (Element α)} :
      Steps b ⟨.loadTail, element, ptr⟩ b ⟨.loadHead b.tail, element, ptr⟩
  | full {tail : Nat} {element : Element α} {ptr : AtomicUniquePtr (Element α)} (hfull : b.isFull tail b.head = true) :
      Steps b ⟨.loadHead tail, element, ptr⟩ b ⟨.returned false, element, ptr⟩
  | room {tail : Nat} {element : Element α} {ptr : AtomicUniquePtr (Element α)} (hroom : b.isFull tail b.head = false) :
      Steps b ⟨.loadHead tail, element, ptr⟩ b ⟨.swapIfNull b.head, element, ptr⟩
  | occupied {head : Nat} {element : Element α} {ptr : AtomicUniquePtr (Element α)} :
      Steps b ⟨.swapIfNull head, element, ptr⟩ b ⟨.loadTail, element, ptr⟩
  | park {head : Nat} {element : Element α} {ptr : AtomicUniquePtr (Element α)}
      (hfree : b.data (head % b.capacity) = none) :
      Steps b ⟨.swapIfNull head, element, ptr⟩ (b.setData (head % b.capacity) ptr)
        ⟨.compareExchange head, element, none⟩
  | stale {head : Nat} {element : Element α} {ptr : AtomicUniquePtr (Element α)} :
      Steps b ⟨.compareExchange head, element, ptr⟩ b ⟨.undoSwap head, element, ptr⟩
  | publish {element : Element α} {ptr : AtomicUniquePtr (Element α)} :
      Steps b ⟨.compareExchange b.head, element, ptr⟩ {b with head := b.head + 1} ⟨.returned true, element, none⟩
  | undo {head : Nat} {element : Element α} {ptr : AtomicUniquePtr (Element α)} :
      Steps b ⟨.undoSwap head, element, ptr⟩ (b.setData (head % b.capacity) ptr)
        ⟨.loadTail, element, b.data (head % b.capacity)⟩

theorem AddCall.step_sound {spurious : Bool} (hstep : a.step b spurious = some (b', a')) : a.Steps b b' a' := by
  obtain ⟨pc, element, ptr⟩ := a
  cases pc with
  | loadTail =>
    cases hstep
    exact .loadTail
  | loadHead tail =>
    cases hstep
    cases hfull : b.isFull tail b.head with
    | true => exact .full hfull
    | false => exact .room hfull
  | swapIfNull head =>
    simp only [step] at hstep
    rcases b.swapIfNull_cases head ptr spurious with heq | ⟨hfree, heq⟩
    · rw [heq] at hstep
      cases hstep
      exact .occupied
    · rw [heq] at hstep
      cases hstep
      exact .park hfree
  | compareExchange head =>
    simp only [step] at hstep
    rcases b.compareExchange_cases head spurious with heq | ⟨hhead, heq⟩
    · rw [heq] at hstep
      cases hstep
      exact .stale
    · subst hhead
      rw [heq] at hstep
      cases hstep
      exact .publish
  | undoSwap head =>
    cases hstep
    exact .undo
  | returned added => cases hstep

/-- **One step of a call** keeps the buffer's invariant and the call's, and does to the others no
more than they rely on. -/
theorem AddCall.step_inv (hb : BufferInv maxSize b published consumed) (ha : a.Inv maxSize b published)
    (hstep : a.Steps b b' a') :
    BufferInv maxSize b' (a.publish b b' published) consumed ∧
      a'.Inv maxSize b' (a.publish b b' published) ∧
      Rely (· = a.element.call) b published b' (a.publish b b' published) ∧
      a'.element = a.element := by
  cases hstep with
  | loadTail =>
    rw [publish_of_head_eq _ rfl]
    exact ⟨hb, ⟨⟨ha.ptr, ha.absent, ha.unpublished⟩, Nat.le_refl _⟩, Rely.refl _ _ _, rfl⟩
  | full hfull =>
    rw [publish_of_head_eq _ rfl]
    exact ⟨hb, ⟨ha.1.ptr, ha.1.absent, ha.1.unpublished⟩, Rely.refl _ _ _, rfl⟩
  | room hroom =>
    have hroom := (CircularBuffer.isFull_eq_false.mp hroom).2
    have hcap := hb.capacity
    have htail := ha.2
    rw [publish_of_head_eq _ rfl]
    exact ⟨hb, ⟨⟨ha.1.ptr, ha.1.absent, ha.1.unpublished⟩, Nat.le_refl _, by omega⟩, Rely.refl _ _ _, rfl⟩
  | occupied =>
    rw [publish_of_head_eq _ rfl]
    exact ⟨hb, ⟨ha.1.ptr, ha.1.absent, ha.1.unpublished⟩, Rely.refl _ _ _, rfl⟩
  | park hfree =>
    rw [publish_of_head_eq _ (by rfl)]
    obtain ⟨hb', hp, hr⟩ := park_inv hb ha.1 hfree
    exact ⟨hb', ⟨hp, ha.2⟩, hr, rfl⟩
  | stale =>
    obtain ⟨hp, hl⟩ := ha
    rw [publish_of_head_eq _ rfl]
    exact ⟨hb, ⟨⟨hp.ptr, hp.parked, hp.only, hp.unpublished⟩, hl⟩, Rely.refl _ _ _, rfl⟩
  | publish =>
    obtain ⟨hp, hl⟩ := ha
    rename_i element ptr
    have hpublish : AddCall.publish ⟨.compareExchange b.head, element, ptr⟩ b {b with head := b.head + 1} published =
        published ++ [element] := if_pos (Nat.lt_succ_self _)
    rw [hpublish]
    exact ⟨hb.publish hp.parked hp.unpublished hl.2, ⟨rfl, by simp⟩, Rely.publish rfl, rfl⟩
  | undo =>
    rw [publish_of_head_eq _ (by rfl)]
    obtain ⟨hb', ho, hr⟩ := undo_inv hb ha.1
    exact ⟨hb', ho, hr, rfl⟩

theorem AddCall.step_tail (hstep : a.Steps b b' a') : b'.tail = b.tail := by
  cases hstep <;> rfl

/-! ### The consumer, seen by a producer -/

/-- A reset removes only what is published. -/
theorem Consumer.step_rely {c c' : Consumer} {seen : List (AtomicUniquePtr (Element α))}
    (hb : BufferInv maxSize b published consumed) (hc : c.Inv b consumed.length)
    (hstep : c.step b = some (b', c', seen)) :
    Rely (fun _ => False) b published b' published := by
  have refl := Rely.refl (fun _ => False) b published
  cases c with
  | idle peeked => cases hstep
  | sizeTail | sizeHead tail | peekTail goal =>
    cases hstep
    exact refl
  | peekHead goal tail =>
    cases goal with
    | peek | consume n =>
      cases hstep
      exact refl
  | advance n range =>
    cases hstep
    exact {refl with tail := Nat.le_add_right _ _}
  | callback slots =>
    cases slots with
    | nil =>
      cases hstep
      exact refl
    | cons slot rest =>
      cases hstep
      have hlen := congrArg List.length hc
      rw [length_window, List.length_cons] at hlen
      have htail := hb.tail_le
      have hn : b.tail - consumed.length = (b.tail - consumed.length - 1) + 1 := by omega
      have hslots : slot :: rest = window b.capacity consumed.length (b.tail - consumed.length) := hc
      rw [hn, window_succ] at hslots
      obtain ⟨hslot, -⟩ := List.cons.inj hslots
      obtain ⟨e, he, hdata⟩ := hb.slot_published (Nat.le_refl _) (show consumed.length < b.head by omega)
      subst hslot
      refine Rely.setData _ _ (fun e he => by cases he) ?_
      intro e' he'
      rw [hdata] at he'
      cases he'
      exact .inr (List.mem_of_getElem? he)

/-! ### Every interleaving -/

structure Inv (maxSize : Nat) (s : State P α) : Prop where
  buffer : BufferInv maxSize s.buffer s.published s.consumed
  consumer : s.consumer.Inv s.buffer s.consumed.length
  producers : ∀ p a, s.producers p = some a → a.Inv maxSize s.buffer s.published
  separate : ∀ p q a a', s.producers p = some a → s.producers q = some a' →
    a.element.call = a'.element.call → p = q
  calls : ∀ p a, s.producers p = some a → a.element.call < s.calls
  data_calls : ∀ slot e, s.buffer.data slot = some e → e.call < s.calls
  published_calls : ∀ e ∈ s.published, e.call < s.calls

theorem init_inv : Inv maxSize (.init maxSize : State P α) where
  buffer :=
    { capacity := rfl, published_length := rfl, consumed_le := Nat.le_refl _,
      tail_le := Nat.le_refl _, head_le := Nat.zero_le _, head_le_consumed := Nat.zero_le _,
      once := List.nodup_nil, consumed_eq := rfl, slots := fun i _ hi => absurd hi (Nat.not_lt_zero i) }
  consumer := ⟨rfl, 0, Nat.le_refl _, rfl⟩
  producers := fun _ _ h => by cases h
  separate := fun _ _ _ _ h => by cases h
  calls := fun _ _ h => by cases h
  data_calls := fun _ _ h => by cases h
  published_calls := fun _ h => by cases h

theorem consumerStep_inv {s t : State P α} (h : Inv maxSize s) (hstep : s.consumerStep = some t) :
    Inv maxSize t := by
  unfold State.consumerStep at hstep
  obtain ⟨⟨b', c', seen⟩, hcons, hstep⟩ := Option.map_eq_some_iff.mp hstep
  cases hstep
  obtain ⟨hbuffer, hconsumer⟩ := Consumer.step_inv h.buffer h.consumer hcons
  have hrely := Consumer.step_rely h.buffer h.consumer hcons
  refine {h with buffer := hbuffer, consumer := hconsumer, producers := ?_, data_calls := ?_}
  · intro p a ha
    exact hrely.inv id (h.producers p a ha)
  · intro slot e hdata
    rcases hrely.data_own slot e hdata with hold | hfalse
    · exact h.data_calls slot e hold
    · exact hfalse.elim

theorem consumerCall_inv {s t : State P α} (c : Consumer) (h : Inv maxSize s)
    (hc : s.consumed.length = s.buffer.tail → c.Inv s.buffer s.consumed.length)
    (hstep : s.consumerCall c = some t) : Inv maxSize t := by
  unfold State.consumerCall at hstep
  cases hidle : s.consumer with
  | idle peeked =>
    rw [hidle] at hstep
    cases hstep
    have hcons := h.consumer
    rw [hidle] at hcons
    exact {h with consumer := hc hcons.1}
  | _ =>
    rw [hidle] at hstep
    cases hstep

variable [DecidableEq P]

/-- A new call has a number no element carries. -/
theorem call_inv {s t : State P α} {p : P} {value : α} (h : Inv maxSize s)
    (hstep : s.call p value = some t) : Inv maxSize t := by
  unfold State.call at hstep
  split at hstep
  case isFalse => cases hstep
  case isTrue =>
    cases hstep
    refine { h with producers := ?_, separate := ?_, calls := ?_, data_calls := ?_, published_calls := ?_ }
    · intro q a hq
      by_cases hqp : q = p
      · subst hqp
        simp only [Function.update_self, Option.some.injEq] at hq
        subst hq
        refine ⟨rfl, ?_, ?_⟩
        · intro slot e hdata
          exact Nat.ne_of_lt (h.data_calls slot e hdata)
        · intro e he
          exact Nat.ne_of_lt (h.published_calls e he)
      · simp only [Function.update_of_ne hqp] at hq
        exact h.producers q a hq
    · intro q r a a' hq hr heq
      by_cases hqp : q = p <;> by_cases hrp : r = p
      · rw [hqp, hrp]
      · subst hqp
        simp only [Function.update_self, Option.some.injEq] at hq
        simp only [Function.update_of_ne hrp] at hr
        subst hq
        have := h.calls r a' hr
        exact absurd heq (Nat.ne_of_gt this)
      · subst hrp
        simp only [Function.update_self, Option.some.injEq] at hr
        simp only [Function.update_of_ne hqp] at hq
        subst hr
        have := h.calls q a hq
        exact absurd heq (Nat.ne_of_lt this)
      · simp only [Function.update_of_ne hqp] at hq
        simp only [Function.update_of_ne hrp] at hr
        exact h.separate q r a a' hq hr heq
    · intro q a hq
      show a.element.call < s.calls + 1
      by_cases hqp : q = p
      · subst hqp
        simp only [Function.update_self, Option.some.injEq] at hq
        subst hq
        exact Nat.lt_succ_self _
      · simp only [Function.update_of_ne hqp] at hq
        exact Nat.lt_succ_of_lt (h.calls q a hq)
    · intro slot e hdata
      exact Nat.lt_succ_of_lt (h.data_calls slot e hdata)
    · intro e he
      exact Nat.lt_succ_of_lt (h.published_calls e he)

/-- A producer's step: its own call's invariant is the step's, the others' survive it. -/
theorem producerStep_inv {s t : State P α} {p : P} {spurious : Bool} (h : Inv maxSize s)
    (hstep : s.producerStep p spurious = some t) : Inv maxSize t := by
  unfold State.producerStep at hstep
  obtain ⟨a, ha, hstep⟩ := Option.bind_eq_some_iff.mp hstep
  obtain ⟨⟨b', a'⟩, hcall, hstep⟩ := Option.map_eq_some_iff.mp hstep
  cases hstep
  have hsteps := AddCall.step_sound hcall
  obtain ⟨hbuffer, hown, hrely, helement⟩ := AddCall.step_inv h.buffer (h.producers p a ha) hsteps
  have hcons : s.consumer.Inv b' s.consumed.length :=
    h.consumer.mono hrely.capacity (AddCall.step_tail hsteps) hrely.head
  have helement_of : ∀ q c, Function.update s.producers p (some a') q = some c →
      ∃ c', s.producers q = some c' ∧ c'.element = c.element := by
    intro q c hq
    by_cases hqp : q = p
    · subst hqp
      simp only [Function.update_self, Option.some.injEq] at hq
      exact ⟨a, ha, by rw [← hq, helement]⟩
    · rw [Function.update_of_ne hqp] at hq
      exact ⟨c, hq, rfl⟩
  refine { buffer := hbuffer, consumer := hcons, producers := ?_, separate := ?_, calls := ?_,
           data_calls := ?_, published_calls := ?_ }
  · intro q c hq
    by_cases hqp : q = p
    · subst hqp
      simp only [Function.update_self, Option.some.injEq] at hq
      exact hq ▸ hown
    · simp only [Function.update_of_ne hqp] at hq
      have hne : ¬ c.element.call = a.element.call := fun heq => hqp (h.separate q p c a hq ha heq)
      exact hrely.inv hne (h.producers q c hq)
  · intro q r c d hq hr heq
    obtain ⟨c', hc', hce⟩ := helement_of q c hq
    obtain ⟨d', hd', hde⟩ := helement_of r d hr
    exact h.separate q r c' d' hc' hd' (by rw [hce, hde, heq])
  · intro q c hq
    obtain ⟨c', hc', hce⟩ := helement_of q c hq
    exact hce ▸ h.calls q c' hc'
  · intro slot e hdata
    rcases hrely.data_own slot e hdata with hold | heq
    · exact h.data_calls slot e hold
    · have heq : e.call = a.element.call := heq
      exact heq ▸ h.calls p a ha
  · intro e he
    rcases hrely.published_own e he with hold | heq
    · exact h.published_calls e hold
    · have heq : e.call = a.element.call := heq
      exact heq ▸ h.calls p a ha

theorem step_inv (s : State P α) (e : Event P α) (t : State P α) (h : Inv maxSize s)
    (hstep : (machine P α).step s e = some t) : Inv maxSize t := by
  cases e with
  | call p value => exact call_inv h hstep
  | producer p spurious => exact producerStep_inv h hstep
  | peek => exact consumerCall_inv (.peekTail .peek) h (fun hn => ⟨hn, trivial⟩) hstep
  | consume n =>
    simp only [machine, State.step] at hstep
    split at hstep
    case isFalse => cases hstep
    case isTrue hn =>
      have htail := h.buffer.tail_le
      simp only [CircularBuffer.size] at hn
      refine consumerCall_inv (.peekTail (.consume n)) h (fun hr => ⟨hr, ?_⟩) hstep
      show s.buffer.tail + n ≤ s.buffer.head
      omega
  | clear => exact consumerCall_inv .sizeTail h (fun hn => hn) hstep
  | consumer => exact consumerStep_inv h hstep

theorem run_inv {events : List (Event P α)} {s : State P α}
    (hrun : (machine P α).run (.init maxSize) events = some s) : Inv maxSize s :=
  (machine P α).run_invariant step_inv events _ s init_inv hrun

/-! ### What the users of the buffer rely on -/

/-- The points of a call at which its caller's pointer holds the element: between the turns of
the loop, up to the swap, and after a return of false. -/
def AddPc.keeps : AddPc → Bool
  | .compareExchange _ | .undoSwap _ | .returned true => false
  | _ => true

/-- `published` has the element of the call that moved the head from `i` to `i + 1` at `i`. -/
structure Safe (maxSize : Nat) (s : State P α) : Prop where
  capacity : s.buffer.capacity = maxSize + 1
  tail_le : s.buffer.tail ≤ s.buffer.head
  size_le : s.buffer.head - s.buffer.tail ≤ maxSize
  production_count : s.published.length = s.buffer.head
  slots : ∀ i, s.buffer.tail ≤ i → i < s.buffer.head →
    ∃ e, s.published[i]? = some e ∧ s.buffer.data (i % s.buffer.capacity) = some e
  once : (s.published.map Element.call).Nodup
  consumed : s.consumed = (s.published.take s.consumed.length).map some
  consumed_le : s.consumed.length ≤ s.buffer.tail
  consumption_count : s.consumer.isIdle = true → s.consumed.length = s.buffer.tail
  peeked : ∀ range, s.consumer = .idle range →
    ∃ n, s.buffer.tail + n ≤ s.buffer.head ∧ range.slots = window s.buffer.capacity s.buffer.tail n
  added : ∀ p a, s.producers p = some a → a.pc = .returned true → a.element ∈ s.published
  kept : ∀ p a, s.producers p = some a → a.pc.keeps = true → Owns s.buffer s.published a

omit [DecidableEq P] in
theorem Inv.safe {s : State P α} (h : Inv maxSize s) : Safe maxSize s := by
  have hconsumer := h.consumer
  have htail := h.buffer.tail_le
  refine { capacity := h.buffer.capacity, tail_le := htail, size_le := ?_,
           production_count := h.buffer.published_length, slots := ?_, once := h.buffer.once,
           consumed := h.buffer.consumed_eq, consumed_le := h.buffer.consumed_le,
           consumption_count := ?_, peeked := ?_, added := ?_, kept := ?_ }
  · have := h.buffer.head_le
    omega
  · intro i hi hlt
    exact h.buffer.slot_published (Nat.le_trans h.buffer.consumed_le hi) hlt
  · intro hidle
    cases hc : s.consumer with
    | idle range =>
      rw [hc] at hconsumer
      exact hconsumer.1
    | _ =>
      rw [hc] at hidle
      cases hidle
  · intro range hc
    rw [hc] at hconsumer
    exact hconsumer.2
  · intro p a ha hpc
    have hcall := h.producers p a ha
    rw [AddCall.Inv, hpc] at hcall
    exact hcall.2
  · intro p a ha hkeeps
    have hcall := h.producers p a ha
    obtain ⟨pc, element, ptr⟩ := a
    cases pc with
    | loadTail => exact hcall
    | loadHead tail => exact hcall.1
    | swapIfNull head => exact hcall.1
    | compareExchange head | undoSwap head => cases hkeeps
    | returned added =>
      cases added with
      | false => exact hcall
      | true => cases hkeeps

/-- **Nothing is lost, repeated or reordered**, by any interleaving of any number of producers
with the consumer. -/
theorem interleaving_safe {events : List (Event P α)} {s : State P α}
    (hrun : (machine P α).run (.init maxSize) events = some s) : Safe maxSize s :=
  (run_inv hrun).safe

/-! ### A thread alone -/

/-- **A call that nothing comes between** and whose exchanges do not fail is `add`. -/
theorem add_alone (s : State P α) (p : P) (a : AddCall α) (hs : s.producers p = some a)
    (hpc : a.pc = .loadTail) (hptr : a.ptr = some a.element) (hw : s.buffer.WellFormed) :
    match s.buffer.add a.element with
    | none => (machine P α).run s (List.replicate 2 (.producer p false)) = some
        {s with producers := Function.update s.producers p (some {a with pc := .returned false})}
    | some b => (machine P α).run s (List.replicate 4 (.producer p false)) = some
        {s with buffer := b
                producers := Function.update s.producers p (some {a with pc := .returned true, ptr := none})
                published := s.published ++ [a.element]} := by
  obtain ⟨pc, element, ptr⟩ := a
  obtain rfl : pc = .loadTail := hpc
  obtain rfl : ptr = some element := hptr
  have hfree : s.buffer.data (s.buffer.head % s.buffer.capacity) = none := by
    have hsize := hw.size_lt
    have hhead := hw.tail_add_size
    exact hw.free _ (Nat.le_refl _) (by omega)
  cases hfull : s.buffer.isFull s.buffer.tail s.buffer.head with
  | true =>
    simp [CircularBuffer.add, hfull, machine, Machine.run, List.replicate, State.step,
      State.producerStep, hs, AddCall.step, AddCall.publish]
  | false =>
    simp [CircularBuffer.add, hfull, machine, Machine.run, List.replicate, State.step,
      State.producerStep, hs, AddCall.step, AddCall.publish, CircularBuffer.swapIfNull,
      AtomicUniquePtr.swapIfNull, hfree, CircularBuffer.compareExchange]

theorem callback_alone (slots : List Nat) (s : State P α) (hs : s.consumer = .callback slots)
    (hnodup : slots.Nodup) :
    (machine P α).run s (List.replicate (slots.length + 1) .consumer) = some
      {s with buffer := slots.foldl CircularBuffer.reset s.buffer
              consumer := .idle .none
              consumed := s.consumed ++ slots.map s.buffer.data} := by
  induction slots generalizing s with
  | nil => simp [Machine.run, machine, State.step, State.consumerStep, hs, Consumer.step]
  | cons slot rest ih =>
    obtain ⟨hnew, hnodup⟩ := List.nodup_cons.mp hnodup
    have hdata : rest.map (s.buffer.reset slot).data = rest.map s.buffer.data := by
      refine List.map_congr_left ?_
      intro i hi
      have hne : i ≠ slot := fun heq => hnew (heq ▸ hi)
      rw [CircularBuffer.reset, CircularBuffer.setData_data, if_neg hne]
    have hstep : (machine P α).step s .consumer = some
        {s with buffer := s.buffer.reset slot
                consumer := .callback rest
                consumed := s.consumed ++ [s.buffer.data slot]} := by
      simp [machine, State.step, State.consumerStep, hs, Consumer.step]
    have hrest := ih {s with buffer := s.buffer.reset slot
                             consumer := .callback rest
                             consumed := s.consumed ++ [s.buffer.data slot]} rfl hnodup
    simp only [hdata, List.append_assoc, List.singleton_append] at hrest
    rw [List.length_cons, List.replicate_succ, Machine.run, hstep]
    exact hrest

/-- **A consumption that nothing comes between** is `consume`, and its callback is shown the
contents' first elements. -/
theorem consume_alone (s : State P α) (n : Nat) (hs : s.consumer.isIdle = true)
    (hw : s.buffer.WellFormed) (hn : n ≤ s.buffer.size) :
    (machine P α).run s (.consume n :: List.replicate (n + 4) .consumer) = some
      {s with buffer := s.buffer.consume n
              consumer := .idle .none
              consumed := s.consumed ++ (s.buffer.contents.take n).map some} := by
  have hsize := hw.size_lt
  have hslots : ((peekRange s.buffer.capacity s.buffer.tail s.buffer.head).take n).slots =
      window s.buffer.capacity s.buffer.tail n := hw.slots_take_peek hn
  have hcallback := callback_alone (window s.buffer.capacity s.buffer.tail n)
    {s with buffer := s.buffer.advance n
            consumer := .callback (window s.buffer.capacity s.buffer.tail n)} rfl
    (CircularBuffer.window_nodup (by omega))
  simp only [length_window, hw.map_data_take hn] at hcallback
  rw [hw.consume_eq hn]
  rw [show n + 4 = (n + 1) + 1 + 1 + 1 by omega, List.replicate_succ, List.replicate_succ,
    List.replicate_succ]
  simp only [Machine.run, machine, State.step, if_pos hn, State.consumerCall, hs, if_true,
    State.consumerStep, Consumer.step, Option.map_some, Option.bind_some, List.append_nil, hslots]
  exact hcallback

/-- There are two producers. -/
scoped instance neZero_two : NeZero 2 := ⟨by decide⟩

/-- Producer 0 parks its element under a stale head, after 1 has published in the slot and the
consumer has reset it, takes it back and adds it in the next slot. -/
def staleHead : List (Event (Fin 2) Nat) :=
  [.call 0 10, .call 1 20, .producer 0 false, .producer 0 false] ++
    List.replicate 4 (.producer 1 false) ++ [.consume 1] ++ List.replicate 5 .consumer ++
    List.replicate 3 (.producer 0 false) ++ List.replicate 4 (.producer 0 false)

theorem staleHead_safe : ∃ s, (machine (Fin 2) Nat).run (.init 1) staleHead = some s ∧
    s.published = [⟨1, 20⟩, ⟨0, 10⟩] ∧ Safe 1 s :=
  ⟨_, rfl, rfl, interleaving_safe (show (machine (Fin 2) Nat).run (.init 1) staleHead = some _ from rfl)⟩

end Lightstep.Common.Interleaving

import Lightstep.Common.CircularBufferRange
import Mathlib.Logic.Function.Basic

/-! The circular buffer.

`head` and `tail` only grow; the slot of a counter value is its remainder by the
capacity, which is one more than the buffer may hold. The producer's three atomic
writes are here as functions of the buffer, for `Add` is what other threads may
come between. `add`, `peek` and `consume` are the operations of a thread that has
the buffer to itself. -/
namespace Lightstep.Common

/-- An owning pointer: what it points to, or null. -/
abbrev AtomicUniquePtr (α : Type) := Option α

namespace AtomicUniquePtr
variable {α : Type}

/-- The exchange from null is a weak one, so it may fail on a null pointer too. The result
is whether it succeeded, the pointer and the owner it was swapped with. -/
def swapIfNull (ptr owner : AtomicUniquePtr α) (spurious : Bool) :
    Bool × AtomicUniquePtr α × AtomicUniquePtr α :=
  if ptr.isNone && !spurious then (true, owner, none) else (false, ptr, owner)

def swap (self ptr : AtomicUniquePtr α) : AtomicUniquePtr α × AtomicUniquePtr α := (ptr, self)

end AtomicUniquePtr

structure CircularBuffer (α : Type) where
  data : Nat → AtomicUniquePtr α
  capacity : Nat
  head : Nat
  tail : Nat

namespace CircularBuffer
variable {α : Type}

def ofMaxSize (maxSize : Nat) : CircularBuffer α :=
  { data := fun _ => none, capacity := maxSize + 1, head := 0, tail := 0 }

def maxSize (b : CircularBuffer α) : Nat := b.capacity - 1

def size (b : CircularBuffer α) : Nat := b.head - b.tail

def empty (b : CircularBuffer α) : Bool := b.head == b.tail

def setData (b : CircularBuffer α) (slot : Nat) (ptr : AtomicUniquePtr α) : CircularBuffer α :=
  {b with data := Function.update b.data slot ptr}

/-- The test of `Add`, on the counters it has loaded: their difference is cast to an unsigned
type, so a negative one counts as full. -/
def isFull (b : CircularBuffer α) (tail head : Nat) : Bool :=
  decide (head < tail) || decide (b.capacity - 1 ≤ head - tail)

/-! ### The atomic writes of `Add` -/

def swapIfNull (b : CircularBuffer α) (head : Nat) (ptr : AtomicUniquePtr α) (spurious : Bool) :
    Bool × CircularBuffer α × AtomicUniquePtr α :=
  let slot := head % b.capacity
  let (swapped, self, owner) := AtomicUniquePtr.swapIfNull (b.data slot) ptr spurious
  (swapped, b.setData slot self, owner)

def compareExchange (b : CircularBuffer α) (head : Nat) (spurious : Bool) :
    Bool × CircularBuffer α :=
  if b.head == head && !spurious then (true, {b with head := head + 1}) else (false, b)

def undoSwap (b : CircularBuffer α) (head : Nat) (ptr : AtomicUniquePtr α) :
    CircularBuffer α × AtomicUniquePtr α :=
  let slot := head % b.capacity
  let (self, owner) := AtomicUniquePtr.swap (b.data slot) ptr
  (b.setData slot self, owner)

/-! ### A thread alone -/

/-- `Add` where no other thread comes between and no exchange fails; nothing if it returns
false. -/
def add (b : CircularBuffer α) (ptr : α) : Option (CircularBuffer α) :=
  if b.isFull b.tail b.head then none
  else some {b.setData (b.head % b.capacity) (some ptr) with head := b.head + 1}

def peek (b : CircularBuffer α) : CircularBufferRange := peekRange b.capacity b.tail b.head

def advance (b : CircularBuffer α) (n : Nat) : CircularBuffer α := {b with tail := b.tail + n}

def reset (b : CircularBuffer α) (slot : Nat) : CircularBuffer α := b.setData slot none

/-- A callback's state goes through the pointers of a range in turn; what the callback leaves of
a pointer stays in its slot. -/
def forSlots {σ : Type} (callback : σ → AtomicUniquePtr α → σ × AtomicUniquePtr α) :
    σ → CircularBuffer α → List Nat → σ × CircularBuffer α
  | st, b, [] => (st, b)
  | st, b, slot :: rest =>
    let (st', ptr) := callback st (b.data slot)
    forSlots callback st' (b.setData slot ptr) rest

/-- `Consume` with a callback. -/
def consumeWith {σ : Type} (b : CircularBuffer α) (n : Nat)
    (callback : σ → AtomicUniquePtr α → σ × AtomicUniquePtr α) (st : σ) : σ × CircularBuffer α :=
  forSlots callback st (b.advance n) (b.peek.take n).slots

/-- `Consume` with the callback that resets. -/
def consume (b : CircularBuffer α) (n : Nat) : CircularBuffer α :=
  (b.consumeWith n (fun _ _ => ((), none)) ()).2

def clear (b : CircularBuffer α) : CircularBuffer α := b.consume b.size

/-- The elements from the tail to the head. -/
def contents (b : CircularBuffer α) : List α :=
  (window b.capacity b.tail b.size).filterMap b.data

/-- The buffer between two operations of a thread that has it to itself: the slots from the
tail to the head are taken and the others free. -/
structure WellFormed (b : CircularBuffer α) : Prop where
  tail_le : b.tail ≤ b.head
  size_lt : b.size < b.capacity
  taken : ∀ i, b.tail ≤ i → i < b.head → (b.data (i % b.capacity)).isSome
  free : ∀ i, b.head ≤ i → i < b.tail + b.capacity → b.data (i % b.capacity) = none

@[simp] theorem setData_capacity (b : CircularBuffer α) (slot : Nat) (ptr : AtomicUniquePtr α) :
    (b.setData slot ptr).capacity = b.capacity := rfl

@[simp] theorem setData_head (b : CircularBuffer α) (slot : Nat) (ptr : AtomicUniquePtr α) :
    (b.setData slot ptr).head = b.head := rfl

@[simp] theorem setData_tail (b : CircularBuffer α) (slot : Nat) (ptr : AtomicUniquePtr α) :
    (b.setData slot ptr).tail = b.tail := rfl

theorem setData_data (b : CircularBuffer α) (slot i : Nat) (ptr : AtomicUniquePtr α) :
    (b.setData slot ptr).data i = if i = slot then ptr else b.data i := by
  simp only [setData, Function.update_apply]

theorem setData_self (b : CircularBuffer α) (slot : Nat) : b.setData slot (b.data slot) = b := by
  simp only [setData, Function.update_eq_self]

/-- Two counter values less than a whole array apart have different slots. -/
theorem slot_inj {capacity i j : Nat} (h : i ≤ j) (hlt : j < i + capacity)
    (heq : i % capacity = j % capacity) : i = j := by
  have hd : j - i < capacity := by omega
  have hj : j = i + (j - i) := by omega
  have hz : (j - i) % capacity = 0 := Nat.sub_mod_eq_zero_of_mod_eq heq.symm
  rw [Nat.mod_eq_of_lt hd] at hz
  omega

theorem isFull_eq_false {b : CircularBuffer α} {tail head : Nat} :
    b.isFull tail head = false ↔ tail ≤ head ∧ head < tail + (b.capacity - 1) := by
  simp only [isFull, Bool.or_eq_false_iff, decide_eq_false_iff_not]
  omega

theorem swapIfNull_cases (b : CircularBuffer α) (head : Nat) (ptr : AtomicUniquePtr α) (spurious : Bool) :
    b.swapIfNull head ptr spurious = (false, b, ptr) ∨
      b.data (head % b.capacity) = none ∧
        b.swapIfNull head ptr spurious = (true, b.setData (head % b.capacity) ptr, none) := by
  cases hdata : b.data (head % b.capacity) with
  | some e =>
    left
    simp only [swapIfNull, AtomicUniquePtr.swapIfNull, hdata, Option.isNone_some, Bool.false_and,
      Bool.false_eq_true, if_false]
    rw [← hdata, setData_self]
  | none =>
    cases spurious with
    | true =>
      left
      simp only [swapIfNull, AtomicUniquePtr.swapIfNull, hdata, Bool.not_true, Bool.and_false,
        Bool.false_eq_true, if_false]
      rw [← hdata, setData_self]
    | false =>
      right
      exact ⟨rfl, by simp [swapIfNull, AtomicUniquePtr.swapIfNull, hdata]⟩

theorem compareExchange_cases (b : CircularBuffer α) (head : Nat) (spurious : Bool) :
    b.compareExchange head spurious = (false, b) ∨
      b.head = head ∧ b.compareExchange head spurious = (true, {b with head := head + 1}) := by
  unfold compareExchange
  by_cases hc : (b.head == head && !spurious) = true
  · right
    rw [if_pos hc]
    simp only [Bool.and_eq_true, beq_iff_eq] at hc
    exact ⟨hc.1, rfl⟩
  · left
    rw [if_neg hc]

end CircularBuffer
end Lightstep.Common

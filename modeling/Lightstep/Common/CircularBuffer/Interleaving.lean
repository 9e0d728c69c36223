import Lightstep.Library.Machine
import Lightstep.Common.CircularBuffer

/-! Producers and the consumer of a circular buffer, one atomic step at a time.

Any number of producers call `Add`, each with a pointer that is not null, and one
consumer calls `Peek`, `Consume` and `Clear`. An event is the start of a call or
the next atomic step of a call under way, so a run is an interleaving. What the
steps never read is kept beside them: which call of `Add` an element was given
to, the elements in the order in which `head` moved past them, and what the
callbacks of `Consume` have seen. -/
namespace Lightstep.Common.Interleaving
open Library

/-- What a pointer points to, with the number of the call of `Add` it was given to. -/
structure Element (α : Type) where
  call : Nat
  value : α
  deriving DecidableEq

abbrev Buffer (α : Type) := CircularBuffer (Element α)

/-- What a call of `Add` does next. -/
inductive AddPc where
  | loadTail
  | loadHead (tail : Nat)
  | swapIfNull (head : Nat)
  | compareExchange (head : Nat)
  | undoSwap (head : Nat)
  | returned (added : Bool)
  deriving DecidableEq

/-- A call of `Add`: the element it was made with and the caller's pointer. -/
structure AddCall (α : Type) where
  pc : AddPc
  element : Element α
  ptr : AtomicUniquePtr (Element α)
  deriving DecidableEq

inductive Goal where
  | peek
  | consume (n : Nat)
  deriving DecidableEq

/-- What the consumer does next. At rest it has the range its last call returned. -/
inductive Consumer where
  | idle (peeked : CircularBufferRange)
  | sizeTail
  | sizeHead (tail : Nat)
  | peekTail (goal : Goal)
  | peekHead (goal : Goal) (tail : Nat)
  | advance (n : Nat) (range : CircularBufferRange)
  | callback (slots : List Nat)
  deriving DecidableEq

structure State (P α : Type) where
  buffer : Buffer α
  producers : P → Option (AddCall α)
  consumer : Consumer
  calls : Nat
  published : List (Element α)
  consumed : List (AtomicUniquePtr (Element α))

/-- `spurious` makes a weak exchange fail where it could succeed. -/
inductive Event (P α : Type) where
  | call (p : P) (value : α)
  | producer (p : P) (spurious : Bool)
  | peek
  | consume (n : Nat)
  | clear
  | consumer

def AddCall.start (call : Nat) (value : α) : AddCall α :=
  { pc := .loadTail, element := ⟨call, value⟩, ptr := some ⟨call, value⟩ }

def AddCall.step (b : Buffer α) (a : AddCall α) (spurious : Bool) : Option (Buffer α × AddCall α) :=
  match a.pc with
  | .loadTail => some (b, {a with pc := .loadHead b.tail})
  | .loadHead tail =>
    some (b, {a with pc := if b.isFull tail b.head then .returned false else .swapIfNull b.head})
  | .swapIfNull head =>
    let (swapped, b', ptr) := b.swapIfNull head a.ptr spurious
    some (b', {a with pc := if swapped then .compareExchange head else .loadTail, ptr := ptr})
  | .compareExchange head =>
    let (added, b') := b.compareExchange head spurious
    some (b', if added then {a with pc := .returned true, ptr := none} else {a with pc := .undoSwap head})
  | .undoSwap head =>
    let (b', ptr) := b.undoSwap head a.ptr
    some (b', {a with pc := .loadTail, ptr := ptr})
  | .returned _ => none

/-- The elements published after a step of a call: the head moves past the call's element. -/
def AddCall.publish (a : AddCall α) (b b' : Buffer α) (published : List (Element α)) :
    List (Element α) :=
  if b.head < b'.head then published ++ [a.element] else published

/-- The consumer's next step, and what it has seen if the step is one of the callback. -/
def Consumer.step (b : Buffer α) :
    Consumer → Option (Buffer α × Consumer × List (AtomicUniquePtr (Element α)))
  | .idle _ => none
  | .sizeTail => some (b, .sizeHead b.tail, [])
  | .sizeHead tail => some (b, .peekTail (.consume (b.head - tail)), [])
  | .peekTail goal => some (b, .peekHead goal b.tail, [])
  | .peekHead .peek tail => some (b, .idle (peekRange b.capacity tail b.head), [])
  | .peekHead (.consume n) tail => some (b, .advance n ((peekRange b.capacity tail b.head).take n), [])
  | .advance n range => some (b.advance n, .callback range.slots, [])
  | .callback [] => some (b, .idle .none, [])
  | .callback (slot :: rest) => some (b.reset slot, .callback rest, [b.data slot])

def Consumer.isIdle : Consumer → Bool
  | .idle _ => true
  | _ => false

def AddCall.isReturned (a : AddCall α) : Bool :=
  match a.pc with
  | .returned _ => true
  | _ => false

section
variable {P α : Type} [DecidableEq P]

def State.init (maxSize : Nat) : State P α :=
  { buffer := .ofMaxSize maxSize, producers := fun _ => none, consumer := .idle .none,
    calls := 0, published := [], consumed := [] }

def State.call (s : State P α) (p : P) (value : α) : Option (State P α) :=
  if (s.producers p).all AddCall.isReturned then
    some {s with producers := Function.update s.producers p (some (.start s.calls value)),
                 calls := s.calls + 1}
  else none

def State.producerStep (s : State P α) (p : P) (spurious : Bool) : Option (State P α) :=
  (s.producers p).bind fun a => (a.step s.buffer spurious).map fun (b, a') =>
    {s with buffer := b
            producers := Function.update s.producers p (some a')
            published := a.publish s.buffer b s.published}

def State.consumerStep (s : State P α) : Option (State P α) :=
  (s.consumer.step s.buffer).map fun (b, c, seen) =>
    {s with buffer := b, consumer := c, consumed := s.consumed ++ seen}

def State.consumerCall (s : State P α) (c : Consumer) : Option (State P α) :=
  if s.consumer.isIdle then some {s with consumer := c} else none

/-- The consumer asks for no more than the buffer holds when it calls `Consume`. -/
def State.step (s : State P α) : Event P α → Option (State P α)
  | .call p value => s.call p value
  | .producer p spurious => s.producerStep p spurious
  | .peek => s.consumerCall (.peekTail .peek)
  | .consume n => if n ≤ s.buffer.size then s.consumerCall (.peekTail (.consume n)) else none
  | .clear => s.consumerCall .sizeTail
  | .consumer => s.consumerStep

def machine (P α : Type) [DecidableEq P] : Machine (State P α) (Event P α) := ⟨State.step⟩

end
end Lightstep.Common.Interleaving

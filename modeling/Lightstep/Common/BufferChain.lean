import Lightstep.Common.FragmentInputStream

/-! Chains of memory buffers, and copying one out.

`BufferChain` is the public interface that a transporter gets a report through. Its callback is a
function and a context; here it is a function on what the context holds. -/
namespace Lightstep.Common
open Library FragmentInputStream

class BufferChain (B : Type) where
  numFragments : B → Nat
  numBytes : B → Nat
  forEachFragment {σ : Type} : B → (σ → Fragment → σ × Bool) → σ → σ × Bool

namespace BufferChain
variable {B : Type} [BufferChain B]

/-- The callback of `CopyOut`, on the bytes copied so far. -/
def copyFragment (out : List UInt8) (fragment : Fragment) : List UInt8 × Bool := (out ++ fragment, true)

/-- What `CopyOut` writes to an area of `length` bytes, from its start; `none` where it terminates. -/
def copyOut (b : B) (length : Nat) : Option (List UInt8) :=
  if length < numBytes b then none else some (forEachFragment b copyFragment []).1

/-- The fragments that a callback which always returns true is called with. -/
def delivered (b : B) : List Fragment :=
  (forEachFragment b (fun passed fragment => (passed ++ [fragment], true)) []).1

theorem iterate_copyFragment (fragments : List Fragment) (out : List UInt8) :
    iterate copyFragment out fragments = (out ++ fragments.flatten, true) := by
  induction fragments generalizing out with
  | nil => simp [iterate]
  | cons fragment rest ih =>
    have hcopied : copyFragment out fragment = (out ++ fragment, true) := rfl
    rw [iterate_cons_true hcopied, ih, List.flatten_cons, List.append_assoc]

end BufferChain

open BufferChain

/-- A chain that calls the callback with its fragments, until it returns false. -/
class LawfulBufferChain (B : Type) [BufferChain B] where
  fragments : B → List Fragment
  forEachFragment_eq {σ : Type} (b : B) (f : σ → Fragment → σ × Bool) (st : σ) :
    forEachFragment b f st = iterate f st (fragments b)

namespace LawfulBufferChain
variable {B : Type} [BufferChain B] [LawfulBufferChain B]

theorem delivered_eq (b : B) : delivered b = fragments b := by
  rw [delivered, forEachFragment_eq, LawfulFragmentInputStream.iterate_collect, List.nil_append]

/-- `CopyOut` writes the bytes of the fragments, however many they are. -/
theorem copyOut_eq {b : B} {length : Nat} (h : numBytes b ≤ length) :
    copyOut b length = some (delivered b).flatten := by
  rw [copyOut, if_neg (Nat.not_lt_of_le h), forEachFragment_eq, iterate_copyFragment, List.nil_append, delivered_eq]

/-- **A callback that returns false is the last**, and its result that of the iteration. -/
theorem forEachFragment_stops {b : B} {before after : List Fragment} {fragment : Fragment}
    (hdelivered : delivered b = before ++ fragment :: after) {σ : Type} {f : σ → Fragment → σ × Bool} {st t u : σ}
    (hbefore : iterate f st before = (t, true)) (hstop : f t fragment = (u, false)) :
    forEachFragment b f st = (u, false) := by
  rw [forEachFragment_eq, ← delivered_eq, hdelivered, iterate_append, hbefore]
  exact iterate_cons_false hstop after

end LawfulBufferChain
end Lightstep.Common

import Mathlib.Algebra.Order.Ring.Nat
import Mathlib.Algebra.Ring.Int.Defs
import Lightstep.Common.ComposableFragmentInputStream

/-! A chain of blocks that is written once and then read as a stream.

`blocks` is the chain from the head block along the `next` links, and the current
block is the number of its place in it. While the stream is written that is the
last one; after `CloseOutput` it is the one the stream has been read up to. -/
namespace Lightstep.Common
open Library FragmentInputStream LawfulFragmentInputStream

structure Block where
  size : Nat
  data : List UInt8
  deriving DecidableEq

def Block.fragment (b : Block) : Fragment := b.data.take b.size

structure ChainedStream where
  outputClosed : Bool
  numBlocks : Nat
  numBytesWritten : Nat
  currentBlockPosition : Nat
  currentBlock : Option Nat
  fragmentIndex : Nat
  fragmentPosition : Nat
  blocks : List Block
  deriving DecidableEq

namespace ChainedStream

def BlockSize : Nat := 256

/-- The head block is the one the memory of a new stream happens to hold. -/
def new (head : Block) : ChainedStream :=
  { outputClosed := false, numBlocks := 1, numBytesWritten := 0, currentBlockPosition := 0,
    currentBlock := some 0, fragmentIndex := 0, fragmentPosition := 0, blocks := [head] }

def closeOutput (s : ChainedStream) : ChainedStream :=
  {s with outputClosed := true, currentBlock := some 0}

def modifyCurrent (s : ChainedStream) (f : Block → Block) : ChainedStream :=
  match s.currentBlock with
  | none => s
  | some i => {s with blocks := s.blocks.modify i f}

/-- Hands out the rest of the current block, or a new block; the size handed out. -/
def next (s : ChainedStream) : ChainedStream × Nat :=
  if s.currentBlockPosition < BlockSize then
    let size := BlockSize - s.currentBlockPosition
    ({s.modifyCurrent (fun b => {b with size := BlockSize}) with
        numBytesWritten := s.numBytesWritten + size
        currentBlockPosition := BlockSize}, size)
  else
    ({s with blocks := s.blocks ++ [⟨BlockSize, List.replicate BlockSize 0⟩]
             currentBlock := some s.blocks.length
             currentBlockPosition := BlockSize
             numBytesWritten := s.numBytesWritten + BlockSize
             numBlocks := s.numBlocks + 1}, BlockSize)

def backUp (s : ChainedStream) (count : Nat) : ChainedStream :=
  {s.modifyCurrent (fun b => {b with size := b.size - count}) with
    numBytesWritten := s.numBytesWritten - count
    currentBlockPosition := s.currentBlockPosition - count}

/-- What the holder of the memory handed out last writes into it, from `position` of the block on. -/
def store (s : ChainedStream) (position : Nat) (bytes : List UInt8) : ChainedStream :=
  s.modifyCurrent fun b =>
    {b with data := b.data.take position ++ bytes ++ b.data.drop (position + bytes.length)}

/-- The bytes written are counted by an `int`. -/
def byteCount (s : ChainedStream) : Int := (s.numBytesWritten : Int).bmod (2 ^ 32)

/-- The fragments from the current block on. -/
def remaining (s : ChainedStream) : List Fragment :=
  match s.currentBlock with
  | none => []
  | some i =>
    match s.blocks.drop i with
    | [] => []
    | block :: rest => block.fragment.drop s.fragmentPosition :: rest.map Block.fragment

end ChainedStream

/-- The `int` that counts the bytes written holds less than `2 ^ 31` of them, and its overflow is undefined: below that
the test for 0 is the one of the source. -/
instance : FragmentInputStream ChainedStream where
  numFragments s := if s.numBytesWritten = 0 then 0 else s.numBlocks - s.fragmentIndex
  forEachFragment s callback st := if s.numBlocks = 0 then (st, true) else iterate callback st s.remaining
  clear s :=
    {s with numBlocks := 0, numBytesWritten := 0, fragmentIndex := 0, fragmentPosition := 0, currentBlock := none}
  seek s relativeFragmentIndex position :=
    if relativeFragmentIndex = 0 then {s with fragmentPosition := s.fragmentPosition + position}
    else {s with currentBlock := s.currentBlock.map (· + relativeFragmentIndex)
                 fragmentIndex := s.fragmentIndex + relativeFragmentIndex
                 fragmentPosition := position}

namespace ChainedStream

/-- A closed stream of which something was written, before it is cleared: the current block is
that of the fragment index and has the fragment position. -/
structure Live (s : ChainedStream) : Prop where
  outputClosed : s.outputClosed = true
  numBlocks : s.numBlocks = s.blocks.length
  numBytesWritten : 0 < s.numBytesWritten
  currentBlock : s.currentBlock = some s.fragmentIndex
  fragmentIndex_lt : s.fragmentIndex < s.blocks.length
  fragmentPosition_le : ∀ block rest, s.blocks.drop s.fragmentIndex = block :: rest →
    s.fragmentPosition ≤ block.fragment.length

/-- A closed stream after `SegmentClear`. -/
structure Cleared (s : ChainedStream) : Prop where
  outputClosed : s.outputClosed = true
  numBlocks : s.numBlocks = 0
  numBytesWritten : s.numBytesWritten = 0
  currentBlock : s.currentBlock = none

theorem Live.drop {s : ChainedStream} (h : s.Live) : ∃ block rest, s.blocks.drop s.fragmentIndex = block :: rest ∧
    s.remaining = block.fragment.drop s.fragmentPosition :: rest.map Block.fragment := by
  have hlt := h.fragmentIndex_lt
  cases hdrop : s.blocks.drop s.fragmentIndex with
  | nil =>
    have := congrArg List.length hdrop
    rw [List.length_drop, List.length_nil] at this
    omega
  | cons block rest => exact ⟨block, rest, rfl, by simp only [remaining, h.currentBlock, hdrop]⟩

theorem Live.numFragments_eq {s : ChainedStream} (h : s.Live) : numFragments s = s.remaining.length := by
  obtain ⟨block, rest, hdrop, hremaining⟩ := h.drop
  have hlen := congrArg List.length hdrop
  rw [List.length_drop, List.length_cons] at hlen
  have hbytes := h.numBytesWritten
  simp only [numFragments, if_neg (Nat.ne_of_gt hbytes), h.numBlocks, hremaining, List.length_cons,
    List.length_map]
  exact hlen

theorem Cleared.remaining_eq {s : ChainedStream} (h : s.Cleared) : s.remaining = [] := by
  simp only [remaining, h.currentBlock]

theorem cleared_clear {s : ChainedStream} (h : s.outputClosed = true) : (clear s).Cleared :=
  ⟨h, rfl, rfl, rfl⟩

/-- **Seeking a live stream** leaves it live, at the rest of the fragment it is sent to. -/
theorem Live.seek {s : ChainedStream} (h : s.Live) {before after : List Fragment} {fragment : Fragment}
    {position : Nat} (hsplit : s.remaining = before ++ fragment :: after) (hlt : position < fragment.length) :
    (FragmentInputStream.seek s before.length position).Live ∧
      (FragmentInputStream.seek s before.length position).remaining = fragment.drop position :: after := by
  obtain ⟨block, rest, hdrop, hremaining⟩ := h.drop
  have hfragmentIndex := h.fragmentIndex_lt
  rw [hremaining] at hsplit
  cases before with
  | nil =>
    obtain ⟨hfragment, hafter⟩ := List.cons.inj hsplit
    simp only [FragmentInputStream.seek, List.length_nil, if_true]
    refine ⟨{h with fragmentPosition_le := ?_}, ?_⟩
    · intro block' rest' heq
      have heq : s.blocks.drop s.fragmentIndex = block' :: rest' := heq
      rw [hdrop] at heq
      cases heq
      show s.fragmentPosition + position ≤ block.fragment.length
      rw [← hfragment, List.length_drop] at hlt
      omega
    · simp only [remaining, h.currentBlock, hdrop]
      rw [← hfragment, ← hafter, List.drop_drop]
  | cons b before =>
    obtain ⟨-, hrest⟩ := List.cons.inj hsplit
    have hdrop' : (s.blocks.drop (s.fragmentIndex + (before.length + 1))).map Block.fragment = fragment :: after := by
      rw [← List.drop_drop, hdrop, List.drop_succ_cons, List.map_drop, hrest]
      exact List.drop_left
    obtain ⟨block', rest', hblock, hfragment, hafter⟩ := List.map_eq_cons_iff.mp hdrop'
    have hlen := congrArg List.length hblock
    rw [List.length_drop, List.length_cons] at hlen
    simp only [FragmentInputStream.seek, List.length_cons, Nat.add_one_ne_zero, if_false, h.currentBlock,
      Option.map_some]
    refine ⟨{h with currentBlock := rfl, fragmentIndex_lt := ?_, fragmentPosition_le := ?_}, ?_⟩
    · show s.fragmentIndex + (before.length + 1) < s.blocks.length
      omega
    · intro block'' rest'' heq
      have heq : s.blocks.drop (s.fragmentIndex + (before.length + 1)) = block'' :: rest'' := heq
      rw [hblock] at heq
      cases heq
      rw [hfragment]
      exact Nat.le_of_lt hlt
    · simp only [remaining, hblock, hfragment, hafter]

end ChainedStream

instance : SeekableFragmentInputStream ChainedStream where
  Valid s := s.Live ∨ s.Cleared
  fragments := ChainedStream.remaining
  numFragments_eq {s} h := by
    rcases h with h | h
    · exact h.numFragments_eq
    · simp only [numFragments, h.numBytesWritten, if_true, h.remaining_eq, List.length_nil]
  forEachFragment_eq {_ s} f st h := by
    rcases h with h | h
    · have hne : ¬ s.numBlocks = 0 := by
        have := h.fragmentIndex_lt
        rw [h.numBlocks]
        omega
      simp only [forEachFragment, if_neg hne]
    · simp only [forEachFragment, h.numBlocks, if_true, h.remaining_eq, iterate]
  valid_clear h := .inr (ChainedStream.cleared_clear (h.elim (·.outputClosed) (·.outputClosed)))
  fragments_clear _ := rfl
  valid_seek h hsplit hlt := by
    rcases h with h | h
    · exact .inl (h.seek hsplit hlt).1
    · rw [h.remaining_eq] at hsplit
      exact absurd hsplit.symm (List.append_ne_nil_of_right_ne_nil _ (List.cons_ne_nil _ _))
  fragments_seek h hsplit hlt := by
    rcases h with h | h
    · exact (h.seek hsplit hlt).2
    · rw [h.remaining_eq] at hsplit
      exact absurd hsplit.symm (List.append_ne_nil_of_right_ne_nil _ (List.cons_ne_nil _ _))

end Lightstep.Common

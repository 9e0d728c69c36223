import Mathlib.Algebra.Order.Ring.Nat
import Mathlib.Algebra.Ring.Int.Defs
import Lightstep.Common.ChainedStream
import Lightstep.Library.Machine

/-! Writing a chained stream.

A writer calls `Next`, fills the memory it is handed, and may give back the end of it by `BackUp`
before its next call. It may write again to what it keeps of the head block. What it keeps is what the
stream presents once it is closed, unless it keeps nothing: a stream has its head block from the start,
which counts as no fragment and is visited as one. -/
namespace Lightstep.Common
open Library FragmentInputStream LawfulFragmentInputStream

/-- What a writer does. The bytes of a `Next` are those the memory it hands out is filled with. -/
inductive Output where
  | next (bytes : List UInt8)
  | backUp (count : Nat)
  | rewrite (position : Nat) (bytes : List UInt8)

/-- A stream that is written, what its writer has kept, and the size of the memory handed out if
the last call was a `Next`. -/
structure StreamWriter where
  stream : ChainedStream
  kept : List UInt8
  handedOut : Option Nat

/-- The bytes with some of them written over. -/
def overwrite (data : List UInt8) (position : Nat) (bytes : List UInt8) : List UInt8 :=
  data.take position ++ bytes ++ data.drop (position + bytes.length)

namespace ChainedStream

/-- What the holder of the head block's memory writes into it. -/
def storeHead (s : ChainedStream) (position : Nat) (bytes : List UInt8) : ChainedStream :=
  {s with blocks := s.blocks.modify 0 fun b => {b with data := overwrite b.data position bytes}}

/-- Where in its block the memory starts that `Next` hands out. -/
def nextPosition (s : ChainedStream) : Nat := if s.currentBlockPosition < BlockSize then s.currentBlockPosition else 0

end ChainedStream

namespace StreamWriter
open ChainedStream

def new (head : Block) : StreamWriter := ⟨.new head, [], none⟩

/-- `BackUp` may only follow a `Next`, and gives back no more than that handed out. -/
def step (w : StreamWriter) : Output → Option StreamWriter
  | .next bytes =>
    let (stream, size) := w.stream.next
    if bytes.length = size then some ⟨stream.store w.stream.nextPosition bytes, w.kept ++ bytes, some size⟩ else none
  | .backUp count =>
    match w.handedOut with
    | none => none
    | some size =>
      if count ≤ size then some ⟨w.stream.backUp count, w.kept.take (w.kept.length - count), none⟩ else none
  | .rewrite position bytes =>
    if position + bytes.length ≤ min BlockSize w.kept.length then
      some {w with stream := w.stream.storeHead position bytes, kept := overwrite w.kept position bytes}
    else none

def machine : Machine StreamWriter Output := ⟨step⟩

/-- A block that all of is kept. -/
def Full (b : Block) : Prop := b.size = BlockSize ∧ b.data.length = BlockSize

/-- The full blocks and the last one of a stream as it is written. The head block has the size that
its memory held until the first `Next`. -/
structure Chain (w : StreamWriter) (full : List Block) (last : Block) : Prop where
  blocks : w.stream.blocks = full ++ [last]
  currentBlock : w.stream.currentBlock = some full.length
  all_full : ∀ b ∈ full, Full b
  length_last : last.data.length = BlockSize
  position_le : w.stream.currentBlockPosition ≤ BlockSize
  kept : w.kept = full.flatMap Block.data ++ last.data.take w.stream.currentBlockPosition
  size_last : w.kept ≠ [] → last.size = w.stream.currentBlockPosition

structure Inv (w : StreamWriter) : Prop where
  outputClosed : w.stream.outputClosed = false
  numBlocks : w.stream.numBlocks = w.stream.blocks.length
  numBytesWritten : w.stream.numBytesWritten = w.kept.length
  fragmentIndex : w.stream.fragmentIndex = 0
  fragmentPosition : w.stream.fragmentPosition = 0
  chain : ∃ full last, Chain w full last
  handedOut : ∀ size, w.handedOut = some size → 0 < size ∧ size ≤ w.stream.currentBlockPosition

theorem inv_new {head : Block} (h : head.data.length = BlockSize) : (new head).Inv where
  outputClosed := rfl
  numBlocks := rfl
  numBytesWritten := rfl
  fragmentIndex := rfl
  fragmentPosition := rfl
  chain := ⟨[], head, rfl, rfl, fun _ hb => absurd hb List.not_mem_nil, h, Nat.zero_le _,
    by simp [new, ChainedStream.new], fun hne => absurd rfl hne⟩
  handedOut := fun _ hsize => by cases hsize

theorem length_flatMap_full {full : List Block} (h : ∀ b ∈ full, Full b) :
    (full.flatMap Block.data).length = BlockSize * full.length := by
  induction full with
  | nil => rfl
  | cons b rest ih =>
    have hb := (h b (List.mem_cons_self ..)).2
    rw [List.flatMap_cons, List.length_append, hb, ih fun c hc => h c (List.mem_cons_of_mem b hc), List.length_cons,
      Nat.mul_succ, Nat.add_comm]

theorem Chain.length_kept {w : StreamWriter} {full : List Block} {last : Block} (h : w.Chain full last) :
    w.kept.length = BlockSize * full.length + w.stream.currentBlockPosition := by
  rw [h.kept, List.length_append, length_flatMap_full h.all_full, List.length_take, h.length_last,
    Nat.min_eq_left h.position_le]

theorem modify_last (full : List Block) (last : Block) (f : Block → Block) :
    (full ++ [last]).modify full.length f = full ++ [f last] := by
  induction full with
  | nil => rfl
  | cons b rest ih => simp only [List.cons_append, List.length_cons, List.modify_succ_cons, ih]

/-- **Next hands out the rest of the last block**, or a new one once that is full. -/
theorem inv_next {w w' : StreamWriter} {bytes : List UInt8} (h : w.Inv) (hstep : w.step (.next bytes) = some w') :
    w'.Inv := by
  obtain ⟨full, last, hchain⟩ := h.chain
  have hposition := hchain.position_le
  by_cases hroom : w.stream.currentBlockPosition < BlockSize
  · simp only [step, next, nextPosition, if_pos hroom, modifyCurrent, hchain.currentBlock, store, hchain.blocks,
      modify_last] at hstep
    split at hstep
    case isFalse => cases hstep
    case isTrue hlength =>
      have hdata : last.data.take w.stream.currentBlockPosition ++ bytes ++
          last.data.drop (w.stream.currentBlockPosition + bytes.length) =
          last.data.take w.stream.currentBlockPosition ++ bytes := by
        rw [List.drop_eq_nil_of_le (by rw [hchain.length_last]; omega), List.append_nil]
      have hlast : (last.data.take w.stream.currentBlockPosition ++ bytes).length = BlockSize := by
        rw [List.length_append, List.length_take, hchain.length_last, hlength]
        omega
      rw [hdata] at hstep
      cases hstep
      refine ⟨h.outputClosed, ?_, ?_, h.fragmentIndex, h.fragmentPosition, ⟨full, _, ⟨rfl, rfl,
        hchain.all_full, hlast, Nat.le_refl _, ?_, fun _ => rfl⟩⟩, ?_⟩
      · simp only [h.numBlocks, hchain.blocks, List.length_append, List.length_singleton]
      · simp only [h.numBytesWritten, List.length_append, hlength]
      · simp only [hchain.kept, List.append_assoc, List.take_of_length_le (Nat.le_of_eq hlast)]
      · intro size hsize
        cases hsize
        simp only
        omega
  · have hposition : w.stream.currentBlockPosition = BlockSize := by omega
    have hsize : last.size = BlockSize := by
      refine (hchain.size_last fun hnil => ?_).trans hposition
      have hlength := hchain.length_kept
      rw [hnil, hposition, List.length_nil] at hlength
      simp only [BlockSize] at hlength
      omega
    have hblocks : w.stream.blocks ++ [(⟨BlockSize, List.replicate BlockSize 0⟩ : Block)] =
        (full ++ [last]) ++ [⟨BlockSize, List.replicate BlockSize 0⟩] := by rw [hchain.blocks]
    have hcount : w.stream.blocks.length = (full ++ [last]).length := by rw [hchain.blocks]
    simp only [step, next, nextPosition, if_neg hroom, store, modifyCurrent, hblocks, hcount, modify_last] at hstep
    split at hstep
    case isFalse => cases hstep
    case isTrue hlength =>
      have hdata : (List.replicate BlockSize 0).take 0 ++ bytes ++
          (List.replicate BlockSize (0 : UInt8)).drop (0 + bytes.length) = bytes := by
        rw [List.drop_eq_nil_of_le (by rw [List.length_replicate]; omega), List.append_nil]
        rfl
      rw [hdata] at hstep
      cases hstep
      refine ⟨h.outputClosed, ?_, ?_, h.fragmentIndex, h.fragmentPosition, ⟨full ++ [last], _, ⟨rfl, rfl, ?_, hlength,
        Nat.le_refl _, ?_, fun _ => rfl⟩⟩, ?_⟩
      · simp only [h.numBlocks, hchain.blocks, List.length_append, List.length_singleton]
      · simp only [h.numBytesWritten, List.length_append, hlength]
      · intro b hb
        rcases List.mem_append.mp hb with hb | hb
        · exact hchain.all_full b hb
        · rw [List.mem_singleton.mp hb]
          exact ⟨hsize, hchain.length_last⟩
      · have hlast : last.data.take BlockSize = last.data := List.take_of_length_le (Nat.le_of_eq hchain.length_last)
        simp only [hchain.kept, hposition, hlast, List.flatMap_append, List.flatMap_cons, List.flatMap_nil,
          List.append_nil, List.take_of_length_le (Nat.le_of_eq hlength)]
      · intro size hsize
        cases hsize
        exact ⟨by decide, Nat.le_refl _⟩

/-- **BackUp gives back the end of the last block.** -/
theorem inv_backUp {w w' : StreamWriter} {count : Nat} (h : w.Inv) (hstep : w.step (.backUp count) = some w') :
    w'.Inv := by
  obtain ⟨full, last, hchain⟩ := h.chain
  simp only [step, ChainedStream.backUp, modifyCurrent, hchain.currentBlock, hchain.blocks, modify_last] at hstep
  cases hhanded : w.handedOut with
  | none => rw [hhanded] at hstep; cases hstep
  | some size =>
    obtain ⟨hpos, hle⟩ := h.handedOut size hhanded
    have hposition := hchain.position_le
    have hlength := hchain.length_kept
    have hne : w.kept ≠ [] := fun hnil => by
      rw [hnil, List.length_nil] at hlength
      omega
    simp only [hhanded] at hstep
    split at hstep
    case isFalse => cases hstep
    case isTrue hcount =>
      cases hstep
      have hkept : w.kept.take (w.kept.length - count) =
          full.flatMap Block.data ++ last.data.take (w.stream.currentBlockPosition - count) := by
        rw [hlength, hchain.kept, Nat.add_sub_assoc (Nat.le_trans hcount hle), ← length_flatMap_full hchain.all_full,
          List.take_length_add_append, List.take_take, Nat.min_eq_left (Nat.sub_le _ _)]
      refine ⟨h.outputClosed, ?_, ?_, h.fragmentIndex, h.fragmentPosition, ⟨full, _, ⟨rfl, rfl, hchain.all_full,
        hchain.length_last, Nat.le_trans (Nat.sub_le _ _) hposition, hkept, fun _ => ?_⟩⟩, fun _ hsize => by cases hsize⟩
      · simp only [h.numBlocks, hchain.blocks, List.length_append, List.length_singleton]
      · simp only [h.numBytesWritten, List.length_take]
        omega
      · show last.size - count = w.stream.currentBlockPosition - count
        rw [hchain.size_last hne]

theorem length_overwrite {data bytes : List UInt8} {position : Nat} (h : position + bytes.length ≤ data.length) :
    (overwrite data position bytes).length = data.length := by
  simp only [overwrite, List.length_append, List.length_take, List.length_drop]
  omega

theorem overwrite_append {a bytes : List UInt8} {position : Nat} (h : position + bytes.length ≤ a.length)
    (b : List UInt8) : overwrite (a ++ b) position bytes = overwrite a position bytes ++ b := by
  rw [overwrite, overwrite, List.take_append_of_le_length (by omega), List.drop_append_of_le_length h]
  simp only [List.append_assoc]

theorem overwrite_take {data bytes : List UInt8} {position n : Nat} (h : position + bytes.length ≤ n)
    (hn : n ≤ data.length) : overwrite (data.take n) position bytes = (overwrite data position bytes).take n := by
  have hsplit : overwrite (data.take n ++ data.drop n) position bytes =
      overwrite (data.take n) position bytes ++ data.drop n :=
    overwrite_append (by rw [List.length_take, Nat.min_eq_left hn]; exact h) _
  have hlength : (overwrite (data.take n) position bytes).length = n := by
    rw [length_overwrite] <;> rw [List.length_take, Nat.min_eq_left hn]
    exact h
  rw [List.take_append_drop] at hsplit
  rw [hsplit, List.take_left' hlength]

/-- **Writing again to the head block** changes the first bytes that are kept. -/
theorem inv_rewrite {w w' : StreamWriter} {position : Nat} {bytes : List UInt8} (h : w.Inv)
    (hstep : w.step (.rewrite position bytes) = some w') : w'.Inv := by
  obtain ⟨full, last, hchain⟩ := h.chain
  simp only [step] at hstep
  split at hstep
  case isFalse => cases hstep
  case isTrue hle =>
    have hblock : position + bytes.length ≤ BlockSize := Nat.le_trans hle (Nat.min_le_left _ _)
    have hkept : position + bytes.length ≤ w.kept.length := Nat.le_trans hle (Nat.min_le_right _ _)
    have hlength := hchain.length_kept
    have hlast := hchain.length_last
    have hne : overwrite w.kept position bytes ≠ [] → w.kept ≠ [] := fun hne hnil => by
      have := length_overwrite hkept
      rw [hnil, List.length_nil] at this
      exact hne (hnil ▸ List.length_eq_zero_iff.mp this)
    cases hstep
    refine ⟨h.outputClosed, ?_, ?_, h.fragmentIndex, h.fragmentPosition, ?_, h.handedOut⟩
    · simp only [storeHead, List.length_modify, h.numBlocks]
    · rw [length_overwrite hkept]
      exact h.numBytesWritten
    · cases full with
      | nil =>
        rw [List.length_nil, Nat.mul_zero, Nat.zero_add] at hlength
        have hposition := hchain.position_le
        refine ⟨[], {last with data := overwrite last.data position bytes}, ⟨?_, hchain.currentBlock,
          hchain.all_full, ?_, hposition, ?_, fun hne' => hchain.size_last (hne hne')⟩⟩
        · simp only [storeHead, hchain.blocks, List.nil_append, List.modify_zero_cons]
        · rw [length_overwrite (by omega), hlast]
        · have hkept_eq := hchain.kept
          rw [List.flatMap_nil, List.nil_append] at hkept_eq
          rw [hkept_eq, overwrite_take (by omega) (by omega)]
          rfl
      | cons b rest =>
        obtain ⟨hsize, hb⟩ := hchain.all_full b (List.mem_cons_self ..)
        refine ⟨{b with data := overwrite b.data position bytes} :: rest, last, ⟨?_, hchain.currentBlock, ?_,
          hlast, hchain.position_le, ?_, fun hne' => hchain.size_last (hne hne')⟩⟩
        · simp only [storeHead, hchain.blocks, List.cons_append, List.modify_zero_cons]
        · intro c hc
          rcases List.mem_cons.mp hc with rfl | hc
          · exact ⟨hsize, (length_overwrite (by omega)).trans hb⟩
          · exact hchain.all_full c (List.mem_cons_of_mem b hc)
        · rw [hchain.kept, List.flatMap_cons, List.append_assoc, overwrite_append (by omega), List.flatMap_cons,
            List.append_assoc]
          rfl

theorem inv_step (w : StreamWriter) (output : Output) (w' : StreamWriter) (h : w.Inv)
    (hstep : machine.step w output = some w') : w'.Inv := by
  cases output with
  | next bytes => exact inv_next h hstep
  | backUp count => exact inv_backUp h hstep
  | rewrite position bytes => exact inv_rewrite h hstep

/-- Whatever the calls of the writer are, its stream is a chain of what it keeps. -/
theorem inv_run {head : Block} (hhead : head.data.length = BlockSize) {outputs : List Output} {w : StreamWriter}
    (hrun : machine.run (new head) outputs = some w) : w.Inv :=
  machine.run_invariant inv_step outputs _ w (inv_new hhead) hrun

theorem Inv.blocks_cons {w : StreamWriter} (h : w.Inv) : ∃ block rest, w.stream.blocks = block :: rest := by
  obtain ⟨full, last, hchain⟩ := h.chain
  rw [hchain.blocks]
  cases full with
  | nil => exact ⟨last, [], rfl⟩
  | cons b full => exact ⟨b, full ++ [last], rfl⟩

/-! ### The stream once it is closed -/

theorem Inv.remaining_close {w : StreamWriter} (h : w.Inv) :
    (closeOutput w.stream).remaining = w.stream.blocks.map Block.fragment := by
  obtain ⟨full, last, hchain⟩ := h.chain
  simp only [remaining, closeOutput, List.drop_zero, h.fragmentPosition, hchain.blocks]
  cases full with
  | nil => rfl
  | cons b rest => rfl

/-- Every block is visited, the head block too of a stream of which nothing is kept. -/
theorem Inv.visited_close {w : StreamWriter} (h : w.Inv) :
    visited (closeOutput w.stream) = w.stream.blocks.map Block.fragment := by
  obtain ⟨full, last, hchain⟩ := h.chain
  have hne : ¬ (closeOutput w.stream).numBlocks = 0 := by
    show ¬ w.stream.numBlocks = 0
    rw [h.numBlocks, hchain.blocks, List.length_append, List.length_singleton]
    omega
  simp only [visited, forEachFragment, if_neg hne]
  rw [iterate_collect, h.remaining_close, List.nil_append]

theorem Inv.numFragments_close {w : StreamWriter} (h : w.Inv) :
    numFragments (closeOutput w.stream) = if w.kept = [] then 0 else w.stream.blocks.length := by
  simp only [numFragments, closeOutput, h.numBytesWritten, h.numBlocks, h.fragmentIndex, List.length_eq_zero_iff,
    Nat.sub_zero]

theorem flatten_map_full {full : List Block} (h : ∀ b ∈ full, Full b) :
    (full.map Block.fragment).flatten = full.flatMap Block.data := by
  rw [List.flatMap_def]
  congr 1
  apply List.map_congr_left
  intro b hb
  obtain ⟨hsize, hlength⟩ := h b hb
  rw [Block.fragment, hsize]
  exact List.take_of_length_le (Nat.le_of_eq hlength)

theorem Inv.flatten_fragments {w : StreamWriter} (h : w.Inv) (hne : w.kept ≠ []) :
    (w.stream.blocks.map Block.fragment).flatten = w.kept := by
  obtain ⟨full, last, hchain⟩ := h.chain
  rw [hchain.blocks, List.map_append, List.flatten_append, flatten_map_full hchain.all_full, hchain.kept,
    List.map_singleton, List.flatten_singleton, Block.fragment, hchain.size_last hne]

theorem Inv.live_close {w : StreamWriter} (h : w.Inv) (hne : w.kept ≠ []) : (closeOutput w.stream).Live where
  outputClosed := rfl
  numBlocks := h.numBlocks
  numBytesWritten := by
    show 0 < w.stream.numBytesWritten
    rw [h.numBytesWritten]
    exact List.length_pos_iff.mpr hne
  currentBlock := by simp only [closeOutput, h.fragmentIndex]
  fragmentIndex_lt := by
    obtain ⟨full, last, hchain⟩ := h.chain
    simp only [closeOutput, h.fragmentIndex, hchain.blocks, List.length_append, List.length_singleton]
    omega
  fragmentPosition_le := by
    intro block rest _
    show w.stream.fragmentPosition ≤ _
    rw [h.fragmentPosition]
    exact Nat.zero_le _

/-- The head block is full, unless it is the last as well. -/
theorem Chain.head {w : StreamWriter} {full : List Block} {last : Block} (h : w.Chain full last) {b : Block}
    (hb : b ∈ w.stream.blocks.head?) : (full = [] ∧ b = last) ∨ Full b := by
  rw [h.blocks] at hb
  cases full with
  | nil =>
    cases hb
    exact .inl ⟨rfl, rfl⟩
  | cons c rest =>
    cases hb
    exact .inr (h.all_full b (List.mem_cons_self ..))

/-- The head block has all the bytes that are kept, or is full. -/
theorem Inv.le_size_head {w : StreamWriter} (h : w.Inv) {n : Nat} (hpos : 0 < n) (hkept : n ≤ w.kept.length)
    (hblock : n ≤ BlockSize) : ∀ b ∈ w.stream.blocks.head?, n ≤ b.size := by
  obtain ⟨full, last, hchain⟩ := h.chain
  intro b hb
  rcases hchain.head hb with ⟨rfl, rfl⟩ | hfull
  · have hne : w.kept ≠ [] := List.ne_nil_of_length_pos (Nat.lt_of_lt_of_le hpos hkept)
    have hlength := hchain.length_kept
    rw [List.length_nil, Nat.mul_zero, Nat.zero_add] at hlength
    rw [hchain.size_last hne, ← hlength]
    exact hkept
  · rw [hfull.1]
    exact hblock

/-- A closed stream with at least one byte kept, of which fewer bytes have been passed over than its
head block has. -/
inductive Recorded : ChainedStream → Prop where
  | intro {head : Block} {outputs : List Output} {w : StreamWriter} (hhead : head.data.length = BlockSize)
      (hrun : machine.run (new head) outputs = some w) (hne : w.kept ≠ []) (passed : Nat)
      (hpassed : ∀ b ∈ w.stream.blocks.head?, passed < b.size) : Recorded (seek (closeOutput w.stream) 0 passed)

theorem Inv.size_head_le {w : StreamWriter} (h : w.Inv) (hne : w.kept ≠ []) :
    ∀ b ∈ w.stream.blocks.head?, b.size ≤ b.data.length := by
  obtain ⟨full, last, hchain⟩ := h.chain
  intro b hb
  rcases hchain.head hb with ⟨rfl, rfl⟩ | hfull
  · rw [hchain.size_last hne, hchain.length_last]
    exact hchain.position_le
  · exact Nat.le_of_eq (hfull.1.trans hfull.2.symm)

/-- Passing over some bytes of the head block leaves the bytes after them. -/
theorem Inv.flatten_seek {w : StreamWriter} (h : w.Inv) (hne : w.kept ≠ []) {passed : Nat}
    (hpassed : ∀ b ∈ w.stream.blocks.head?, passed ≤ b.size) :
    (seek (closeOutput w.stream) 0 passed).remaining.flatten = w.kept.drop passed := by
  have hkept := h.flatten_fragments hne
  obtain ⟨block, rest, hblocks⟩ := h.blocks_cons
  have hblock : block ∈ w.stream.blocks.head? := by rw [hblocks]; rfl
  have hle := hpassed block hblock
  have hsize := h.size_head_le hne block hblock
  have hlength : passed ≤ block.fragment.length := by
    rw [Block.fragment, List.length_take, Nat.min_eq_left hsize]
    exact hle
  rw [hblocks, List.map_cons, List.flatten_cons] at hkept
  rw [← hkept, List.drop_append_of_le_length hlength]
  simp [remaining, closeOutput, FragmentInputStream.seek, hblocks, h.fragmentPosition]

theorem Recorded.live {s : ChainedStream} (h : Recorded s) : s.Live := by
  obtain ⟨hhead, hrun, hne, passed, hpassed⟩ := h
  have hinv := inv_run hhead hrun
  refine {hinv.live_close hne with fragmentPosition_le := ?_}
  intro block rest hdrop
  rename_i w
  have hdrop : w.stream.blocks.drop w.stream.fragmentIndex = block :: rest := hdrop
  rw [hinv.fragmentIndex, List.drop_zero] at hdrop
  have hblock : block ∈ w.stream.blocks.head? := by rw [hdrop]; rfl
  show w.stream.fragmentPosition + passed ≤ (block.data.take block.size).length
  rw [hinv.fragmentPosition, List.length_take, Nat.min_eq_left (hinv.size_head_le hne block hblock), Nat.zero_add]
  exact Nat.le_of_lt (hpassed block hblock)

/-- The first fragment of a recorded stream has bytes. -/
theorem Recorded.first {s : ChainedStream} (h : Recorded s) :
    ∃ fragment rest, s.remaining = fragment :: rest ∧ fragment ≠ [] := by
  obtain ⟨hhead, hrun, hne, passed, hpassed⟩ := h
  rename_i w
  have hinv := inv_run hhead hrun
  obtain ⟨block, rest, hblocks⟩ := hinv.blocks_cons
  have hblock : block ∈ w.stream.blocks.head? := by rw [hblocks]; rfl
  refine ⟨block.fragment.drop passed, rest.map Block.fragment, ?_, fun hnil => ?_⟩
  · simp [remaining, closeOutput, FragmentInputStream.seek, hblocks, hinv.fragmentPosition]
  · have hlength := congrArg List.length hnil
    have hlt := hpassed block hblock
    have hle := hinv.size_head_le hne block hblock
    rw [List.length_drop, Block.fragment, List.length_take, Nat.min_eq_left hle, List.length_nil] at hlength
    omega

set_option maxRecDepth 4000 in
/-- Six bytes of which two are passed over. -/
theorem exists_recorded : ∃ span, Recorded span ∧ visited span = [[7, 7, 7, 7]] := by
  have hwritten : ∃ w, machine.run (new ⟨0, List.replicate 256 0⟩)
      [.next (List.replicate 256 7), .backUp 250] = some w ∧ w.kept = List.replicate 6 7 ∧
      (∀ b ∈ w.stream.blocks.head?, 2 < b.size) ∧
      visited (seek (ChainedStream.closeOutput w.stream) 0 2) = [[7, 7, 7, 7]] := ⟨_, rfl, rfl, by decide, rfl⟩
  obtain ⟨w, hrun, hkept, hpassed, hvisited⟩ := hwritten
  exact ⟨_, .intro List.length_replicate hrun (by rw [hkept]; decide) 2 hpassed, hvisited⟩

theorem bmod_eq_self_iff (n : Nat) {k : Nat} (hk : 0 < k) : (n : Int).bmod (k * 2) = n ↔ n < k := by
  constructor
  · intro h
    have hlt : (n : Int).bmod (k * 2) < ((k * 2 : Nat) + 1) / 2 := Int.bmod_lt (by omega)
    omega
  · intro h
    apply Int.bmod_eq_of_le
    · omega
    · omega

theorem byteCount_eq_iff (s : ChainedStream) : s.byteCount = s.numBytesWritten ↔ s.numBytesWritten < 2 ^ 31 :=
  bmod_eq_self_iff s.numBytesWritten (Nat.two_pow_pos 31)

/-- What a closed stream owes its writer. -/
structure Presents (s : ChainedStream) (kept : List UInt8) : Prop where
  byteCount : s.byteCount = kept.length
  bytes : (visited s).flatten = kept
  numFragments : numFragments s = (visited s).length

/-- **A closed stream presents what was kept of it** exactly if something was, and no more than an
`int` can count. -/
theorem presents_iff {head : Block} (hhead : head.data.length = BlockSize) {outputs : List Output} {w : StreamWriter}
    (hrun : machine.run (new head) outputs = some w) :
    Presents (closeOutput w.stream) w.kept ↔ w.kept ≠ [] ∧ w.kept.length < 2 ^ 31 := by
  have h := inv_run hhead hrun
  have hcount : (closeOutput w.stream).byteCount = w.kept.length ↔ w.kept.length < 2 ^ 31 := by
    rw [← h.numBytesWritten]
    exact byteCount_eq_iff (closeOutput w.stream)
  constructor
  · intro hpresents
    refine ⟨fun hnil => ?_, hcount.mp hpresents.byteCount⟩
    obtain ⟨full, last, hchain⟩ := h.chain
    have hnum := hpresents.numFragments
    rw [h.numFragments_close, if_pos hnil, h.visited_close, List.length_map, hchain.blocks, List.length_append,
      List.length_singleton] at hnum
    omega
  · rintro ⟨hne, hlt⟩
    refine ⟨hcount.mpr hlt, ?_, ?_⟩
    · rw [h.visited_close, h.flatten_fragments hne]
    · rw [h.numFragments_close, if_neg hne, h.visited_close, List.length_map]

set_option maxRecDepth 4000 in
/-- One `Next`, of which six bytes are kept. -/
theorem presents_iff_six_bytes : ∃ w,
    machine.run (new ⟨0, List.replicate 256 0⟩) [.next (List.replicate 256 7), .backUp 250] = some w ∧
      w.kept = List.replicate 6 7 ∧
      (Presents (closeOutput w.stream) w.kept ↔ w.kept ≠ [] ∧ w.kept.length < 2 ^ 31) := by
  have hrun : ∃ w, machine.run (new ⟨0, List.replicate 256 0⟩) [.next (List.replicate 256 7), .backUp 250] = some w ∧
    w.kept = List.replicate 6 7 := ⟨_, rfl, rfl⟩
  obtain ⟨w, hrun, hkept⟩ := hrun
  exact ⟨w, hrun, hkept, presents_iff List.length_replicate hrun⟩

set_option maxRecDepth 4000 in
/-- A stream that is given back all it handed out counts no fragment, and visits one. -/
theorem not_presents_nothing : ∃ w,
    machine.run (new ⟨0, List.replicate 256 0⟩) [.next (List.replicate 256 7), .backUp 256] = some w ∧
      w.kept = [] ∧ numFragments (closeOutput w.stream) = 0 ∧ visited (closeOutput w.stream) = [[]] ∧
      ¬ Presents (closeOutput w.stream) w.kept := by
  refine ⟨_, rfl, rfl, rfl, rfl, fun h => ?_⟩
  exact absurd h.numFragments (by decide)

end StreamWriter
end Lightstep.Common

import Mathlib.Data.List.Basic

/-! Streams that hand out what they have in blocks.

A caller asks for the next block, may give back the end of the block it got last, and may skip. How the unread
are cut into blocks is up to the stream; a block may be empty, but they come to an end. -/
namespace Lightstep.Library

class ZeroCopyInputStream (α : outParam Type) (σ : Type) where
  next : σ → Option (List α × σ)
  backUp : Nat → σ → σ
  skip : Nat → σ → σ × Bool

open ZeroCopyInputStream

/-- What a stream owes: it hands out its unread in order, has again what it is given back, and says of a skip
whether there was as much to skip. -/
class LawfulZeroCopyInputStream (α : outParam Type) (σ : Type) extends ZeroCopyInputStream α σ where
  unread : σ → List α
  blocksLeft : σ → Nat
  unread_of_none {s : σ} : next s = none → unread s = []
  unread_of_some {s t : σ} {block : List α} : next s = some (block, t) → unread s = block ++ unread t
  blocksLeft_lt {s t : σ} {block : List α} : next s = some (block, t) → blocksLeft t < blocksLeft s
  unread_backUp {s t : σ} {block : List α} {count : Nat} : next s = some (block, t) → count ≤ block.length →
    unread (backUp count t) = block.drop (block.length - count) ++ unread t
  unread_skip (count : Nat) (s : σ) : unread (skip count s).1 = (unread s).drop count
  skip_eq (count : Nat) (s : σ) : (skip count s).2 = decide (count ≤ (unread s).length)

theorem LawfulZeroCopyInputStream.exists_next {α σ : Type} [LawfulZeroCopyInputStream α σ] {s : σ}
    (h : unread s ≠ []) : ∃ block t, next s = some (block, t) := by
  cases hnext : next s with
  | none => exact absurd (unread_of_none hnext) h
  | some result => exact ⟨result.1, result.2, rfl⟩

/-! ### A list of blocks -/

/-- The blocks to come, and the one that came last. -/
structure Blocks (α : Type) where
  last : List α
  blocks : List (List α)

namespace Blocks
variable {α : Type}

def ofBlocks (blocks : List (List α)) : Blocks α := ⟨[], blocks⟩

def skipBlocks : Nat → List (List α) → List (List α) × Bool
  | count, [] => ([], count == 0)
  | count, block :: rest =>
    if count ≤ block.length then (block.drop count :: rest, true) else skipBlocks (count - block.length) rest

theorem flatten_skipBlocks (count : Nat) (blocks : List (List α)) :
    (skipBlocks count blocks).1.flatten = blocks.flatten.drop count := by
  induction blocks generalizing count with
  | nil => simp [skipBlocks]
  | cons block rest ih =>
    rw [skipBlocks, List.flatten_cons, List.drop_append]
    split
    case isTrue hle => rw [Nat.sub_eq_zero_of_le hle]; rfl
    case isFalse hlt => rw [ih, List.drop_eq_nil_of_le (Nat.le_of_not_le hlt), List.nil_append]

theorem skipBlocks_eq (count : Nat) (blocks : List (List α)) :
    (skipBlocks count blocks).2 = decide (count ≤ blocks.flatten.length) := by
  induction blocks generalizing count with
  | nil => cases count <;> simp [skipBlocks]
  | cons block rest ih =>
    rw [skipBlocks, List.flatten_cons, List.length_append]
    split
    case isTrue hle => exact (decide_eq_true (Nat.le_trans hle (Nat.le_add_right ..))).symm
    case isFalse hlt =>
      rw [ih]
      congr 1
      rw [eq_iff_iff]
      omega

instance : LawfulZeroCopyInputStream α (Blocks α) where
  next s :=
    match s.blocks with
    | [] => none
    | block :: rest => some (block, ⟨block, rest⟩)
  backUp count s := ⟨[], s.last.drop (s.last.length - count) :: s.blocks⟩
  skip count s := (⟨[], (skipBlocks count s.blocks).1⟩, (skipBlocks count s.blocks).2)
  unread s := s.blocks.flatten
  blocksLeft s := s.blocks.length
  unread_of_none := by
    rintro ⟨last, _ | ⟨block, rest⟩⟩ h
    · rfl
    · cases h
  unread_of_some := by
    rintro ⟨last, _ | ⟨block, rest⟩⟩ t block' h
    · cases h
    · cases h
      rfl
  blocksLeft_lt := by
    rintro ⟨last, _ | ⟨block, rest⟩⟩ t block' h
    · cases h
    · cases h
      exact Nat.lt_succ_self _
  unread_backUp := by
    rintro ⟨last, _ | ⟨block, rest⟩⟩ t block' count h _
    · cases h
    · cases h
      rfl
  unread_skip count s := flatten_skipBlocks count s.blocks
  skip_eq count s := skipBlocks_eq count s.blocks

end Blocks
end Lightstep.Library

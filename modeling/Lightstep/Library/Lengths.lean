import Mathlib.Algebra.Order.Ring.Nat
import Mathlib.Algebra.Ring.Int.Defs
import Lightstep.Library.Message

/-! Lengths that are cut, and lengths that are not taken.

A prefix of 32 bits tells a length below `2 ^ 32`, and a size that is an `int` is below
`2 ^ 31`. `EqOrLong` says of bytes that are written piece by piece that they are the
ones that are meant, or that these are too many for a size. -/
namespace Lightstep.Library

/-- What is written is what is meant, or that is long; of `none` nothing is known. -/
def EqOrLong (bytes : Option (List UInt8)) (meant : List UInt8) : Prop :=
  bytes = some meant ∨ 2 ^ 31 ≤ meant.length ∧ ∀ written ∈ bytes, 2 ^ 31 ≤ written.length

namespace EqOrLong
variable {a c : Option (List UInt8)} {b d : List UInt8}

theorem refl (b : List UInt8) : EqOrLong (some b) b := .inl rfl

theorem none (h : 2 ^ 31 ≤ b.length) : EqOrLong Option.none b := .inr ⟨h, fun _ hwritten => nomatch hwritten⟩

theorem append (hab : EqOrLong a b) (hcd : EqOrLong c d) : EqOrLong (Option.map₂ (· ++ ·) a c) (b ++ d) := by
  have hmem : ∀ written ∈ Option.map₂ (· ++ ·) a c, ∃ x ∈ a, ∃ y ∈ c, x ++ y = written := fun written hwritten => by
    obtain ⟨x, y, hx, hy, heq⟩ := Option.mem_map₂_iff.mp hwritten
    exact ⟨x, hx, y, hy, heq⟩
  rcases hab with rfl | ⟨hb, ha⟩
  · rcases hcd with rfl | ⟨hd, hc⟩
    · exact .refl _
    · refine .inr ⟨?_, fun written hwritten => ?_⟩
      · rw [List.length_append]
        omega
      · obtain ⟨x, -, y, hy, rfl⟩ := hmem written hwritten
        have hlong := hc y hy
        rw [List.length_append]
        omega
  · refine .inr ⟨?_, fun written hwritten => ?_⟩
    · rw [List.length_append]
      omega
    · obtain ⟨x, hx, y, -, rfl⟩ := hmem written hwritten
      have hlong := ha x hx
      rw [List.length_append]
      omega

/-- What is short is written. -/
theorem eq_of_length_lt (h : EqOrLong a b) (hb : b.length < 2 ^ 31) : a = some b := by
  rcases h with rfl | ⟨hlong, -⟩
  · rfl
  · omega

/-- What is written and short is what is meant. -/
theorem eq_of_written (h : EqOrLong (some d) b) (hd : d.length < 2 ^ 31) : d = b := by
  rcases h with heq | ⟨-, hlong⟩
  · exact Option.some.inj heq
  · have := hlong d rfl
    omega

/-- A field whose prefix is cut. -/
theorem field (h : EqOrLong a b) (number : Nat) :
    EqOrLong (a.map fun bytes => fieldTag number 2 ++ (varint (b.length % 2 ^ 32) ++ bytes))
      (Field.mk number (.lengthDelimited b)).encode := by
  have hmeant : (Field.mk number (.lengthDelimited b)).encode = fieldTag number 2 ++ (varint b.length ++ b) := rfl
  have hmem : ∀ written ∈ a.map fun bytes => fieldTag number 2 ++ (varint (b.length % 2 ^ 32) ++ bytes), ∃ x ∈ a,
      x.length ≤ written.length := fun written hwritten => by
    obtain ⟨x, hx, rfl⟩ := Option.mem_map.mp hwritten
    refine ⟨x, hx, ?_⟩
    rw [List.length_append, List.length_append]
    omega
  rw [hmeant]
  rcases h with rfl | ⟨hlong, ha⟩
  · by_cases hlt : b.length < 2 ^ 32
    · rw [Nat.mod_eq_of_lt hlt]
      exact .inl rfl
    · refine .inr ⟨?_, fun written hwritten => ?_⟩
      · rw [List.length_append, List.length_append]
        omega
      · obtain ⟨x, hx, hle⟩ := hmem written hwritten
        cases hx
        omega
  · refine .inr ⟨?_, fun written hwritten => ?_⟩
    · rw [List.length_append, List.length_append]
      omega
    · obtain ⟨x, hx, hle⟩ := hmem written hwritten
      exact Nat.le_trans (ha x hx) hle

end EqOrLong

/-- What memory holds after bytes have been written from its start on; past its end is no memory. -/
def fillMemory (memory : List UInt8) (bytes : Option (List UInt8)) : Option (List UInt8) :=
  bytes.bind fun written => if written.length ≤ memory.length then some (written ++ memory.drop written.length) else none

theorem fillMemory_of_length {memory bytes : List UInt8} (h : memory.length = bytes.length) :
    fillMemory memory (some bytes) = some bytes := by
  rw [fillMemory, Option.bind_some, if_pos (Nat.le_of_eq h.symm), List.drop_of_length_le (Nat.le_of_eq h),
    List.append_nil]

/-- Memory of the size of what is meant. -/
theorem EqOrLong.fillMemory {a : Option (List UInt8)} {b memory : List UInt8} (h : EqOrLong a b)
    (hlength : memory.length = b.length) : EqOrLong (fillMemory memory a) b := by
  rcases h with rfl | ⟨hlong, ha⟩
  · exact .inl (fillMemory_of_length hlength)
  · refine .inr ⟨hlong, fun written hwritten => ?_⟩
    obtain ⟨x, hx, hwritten⟩ := Option.bind_eq_some_iff.mp hwritten
    have hfits : x.length ≤ memory.length := by
      by_contra hover
      rw [if_neg hover] at hwritten
      cases hwritten
    rw [if_pos hfits] at hwritten
    cases hwritten
    have hx := ha x hx
    rw [List.length_append]
    omega

end Lightstep.Library

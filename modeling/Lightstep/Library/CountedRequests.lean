import Lightstep.Library.WordCount

/-! Requests that any thread counts in a word and one thread polls.

A poll takes the whole count and leaves zero. If what it has taken is positive it begins what was
asked for. A request is known by how often that had begun when it was made. -/
namespace Lightstep.Library

/-- A request is pending, has been noticed by the poll, or what it asks for has begun since. -/
def Answered (begun : Nat) (counter : Int32) (noticed : Option Int32) (asked : Nat) : Prop :=
  asked < begun ∨ asked = begun ∧ (0 < counter.toInt ∨ ∃ count, noticed = some count ∧ 0 < count.toInt)

namespace Answered

variable {begun asked : Nat} {counter count : Int32} {noticed : Option Int32}

/-- A request that the counter counts is pending. -/
theorem ask (hpending : 0 ≤ counter.toInt) (hcounts : counter.toInt + 1 < 2 ^ 31) :
    Answered begun (counter + 1) noticed begun := by
  have hcounted := toInt_add_one hcounts
  exact .inr ⟨rfl, .inl (by omega)⟩

/-- A request stays one when another is counted. -/
theorem other (h : Answered begun counter noticed asked) (hpending : 0 ≤ counter.toInt)
    (hcounts : counter.toInt + 1 < 2 ^ 31) : Answered begun (counter + 1) noticed asked := by
  have hcounted := toInt_add_one hcounts
  exact h.imp_right fun hcase => ⟨hcase.1, .inl (by omega)⟩

/-- The poll notices what is pending. -/
theorem exchange (h : Answered begun counter none asked) : Answered begun 0 (some counter) asked := by
  obtain hbegun | ⟨heq, hpending | ⟨count, hcount, -⟩⟩ := h
  · exact .inl hbegun
  · exact .inr ⟨heq, .inr ⟨counter, rfl, hpending⟩⟩
  · cases hcount

/-- What begins answers every request made before. -/
theorem begin (h : Answered begun counter noticed asked) : Answered (begun + 1) counter none asked := by
  obtain hbegun | ⟨heq, -⟩ := h
  · exact .inl (Nat.lt_succ_of_lt hbegun)
  · exact .inl (heq ▸ Nat.lt_succ_self _)

/-- A poll that has noticed nothing leaves what is pending. -/
theorem pass (h : Answered begun counter (some count) asked) (hnot : ¬ count > 0) : Answered begun counter none asked := by
  obtain hbegun | ⟨heq, hpending | ⟨noticed, hnoticed, hpos⟩⟩ := h
  · exact .inl hbegun
  · exact .inr ⟨heq, .inl hpending⟩
  · cases hnoticed
    have hlt : (0 : Int32) < count := Int32.lt_iff_toInt_lt.mpr (by simpa using hpos)
    exact absurd hlt hnot

end Answered
end Lightstep.Library

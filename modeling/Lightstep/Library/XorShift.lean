import Mathlib.Data.BitVec
import Mathlib.Dynamics.PeriodicPts.Lemmas
import Mathlib.SetTheory.Cardinal.NatCard

/-! Words that are combined with themselves, shifted.

Such a step loses nothing: the bits that the shift leaves alone are there to be read, and from
them the others. If the steps of a generator lose nothing, its outputs are as frequent after any
number of them as at the start. -/
namespace Lightstep.Library

variable {w : Nat}

theorem xorShiftLeft_injective {k : Nat} (hk : 0 < k) : Function.Injective fun x : BitVec w => x ^^^ x <<< k := by
  intro x y h
  have hbit : ∀ i, x.getLsbD i = y.getLsbD i := by
    intro i
    induction i using Nat.strongRecOn with
    | ind i ih =>
      have hi := congrArg (BitVec.getLsbD · i) h
      simp only [BitVec.getLsbD_xor, BitVec.getLsbD_shiftLeft] at hi
      by_cases hlt : i < k
      · simpa [hlt] using hi
      · rw [ih (i - k) (by omega)] at hi
        simpa using hi
  exact BitVec.eq_of_getLsbD_eq fun i _ => hbit i

theorem xorShiftRight_injective {k : Nat} (hk : 0 < k) : Function.Injective fun x : BitVec w => x ^^^ x >>> k := by
  intro x y h
  -- from the highest bit down
  have hbit : ∀ j i, w ≤ i + j → x.getLsbD i = y.getLsbD i := by
    intro j
    induction j with
    | zero =>
      intro i hi
      rw [BitVec.getLsbD_of_ge x i hi, BitVec.getLsbD_of_ge y i hi]
    | succ j ih =>
      intro i hi
      have hxor := congrArg (BitVec.getLsbD · i) h
      simp only [BitVec.getLsbD_xor, BitVec.getLsbD_ushiftRight] at hxor
      rw [ih (k + i) (by omega)] at hxor
      simpa using hxor
  exact BitVec.eq_of_getLsbD_eq fun i _ => hbit w i (Nat.le_add_left w i)

instance finiteBitVec : Finite (BitVec w) := Finite.of_equiv _ BitVec.equivFin.toEquiv.symm

theorem card_bitVec : Nat.card (BitVec w) = 2 ^ w := by
  rw [Nat.card_congr BitVec.equivFin.toEquiv, Nat.card_eq_fintype_card, Fintype.card_fin]

/-- After any number of steps, all outputs are as frequent as they were. -/
theorem card_outputs {S V : Type} [Finite S] {step : S → S} (h : Function.Injective step) (output : S → V) (n : Nat)
    (v : V) : Nat.card {s // output (step^[n] s) = v} = Nat.card {s // output s = v} := by
  have hbijective : Function.Bijective step^[n] := Finite.injective_iff_bijective.mp (h.iterate n)
  exact Nat.card_congr ((Equiv.ofBijective _ hbijective).subtypeEquiv fun s => Iff.rfl)

end Lightstep.Library

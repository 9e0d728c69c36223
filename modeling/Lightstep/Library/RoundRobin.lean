import Mathlib.Data.Nat.ModEq

/-! Round robin over `n` places with a counter that wraps at `W`.

The counter is reduced to a place, so that places are skipped or repeated where it
wraps, unless `n` divides `W`. Every place is shown all the same. -/
namespace Lightstep.Library

/-- The place shown after `j` rounds. -/
def roundPlace (W n start j : Nat) : Nat := (start + j) % W % n

theorem roundPlace_zero {W start : Nat} (n : Nat) (hstart : start < W) : roundPlace W n start 0 = start % n := by
  rw [roundPlace, Nat.add_zero, Nat.mod_eq_of_lt hstart]

theorem roundPlace_succ (W n start j : Nat) : roundPlace W n ((start + 1) % W) j = roundPlace W n start (j + 1) := by
  rw [roundPlace, roundPlace, Nat.mod_add_mod, Nat.add_right_comm, Nat.add_assoc]

/-- If the counter does not wrap before, `n` rounds show every place. -/
theorem exists_round_of_le {W n start p : Nat} (hp : p < n) (hle : start + n ≤ W) :
    ∃ j < n, roundPlace W n start j = p := by
  have hn : 0 < n := Nat.zero_lt_of_lt hp
  refine ⟨(p + (n - start % n)) % n, Nat.mod_lt _ hn, ?_⟩
  have hj : (p + (n - start % n)) % n < n := Nat.mod_lt _ hn
  have hlt : start % n < n := Nat.mod_lt _ hn
  have hnowrap : start + (p + (n - start % n)) % n < W := by omega
  calc roundPlace W n start ((p + (n - start % n)) % n)
    _ = (start + (p + (n - start % n)) % n) % n := by rw [roundPlace, Nat.mod_eq_of_lt hnowrap]
    _ = (start % n + (p + (n - start % n))) % n := by rw [Nat.add_mod_mod, Nat.mod_add_mod]
    _ = (p + n) % n := congrArg (· % n) (by omega)
    _ = p := by rw [Nat.add_mod_right, Nat.mod_eq_of_lt hp]

/-- As many rounds as the counter has values show every place. -/
theorem exists_round {W n start p : Nat} (hp : p < n) (hn : n ≤ W) (hstart : start < W) :
    ∃ j < W, roundPlace W n start j = p := by
  have hpW : p < W := Nat.lt_of_lt_of_le hp hn
  by_cases hle : start ≤ p
  · refine ⟨p - start, by omega, ?_⟩
    rw [roundPlace, Nat.add_sub_cancel' hle, Nat.mod_eq_of_lt hpW, Nat.mod_eq_of_lt hp]
  · refine ⟨W - start + p, by omega, ?_⟩
    have hwrap : start + (W - start + p) = p + W := by omega
    rw [roundPlace, hwrap, Nat.add_mod_right, Nat.mod_eq_of_lt hpW, Nat.mod_eq_of_lt hp]

/-- **Every place is shown before the counter stands `n` further**, and where the counter wraps it never stands
there. -/
theorem exists_round_before {W n start p : Nat} (hp : p < n) (hn : n ≤ W) (hstart : start < W) :
    ∃ j < W, roundPlace W n start j = p ∧ ∀ i ≤ j, (start + i) % W ≠ start + n := by
  by_cases hle : start + n ≤ W
  · obtain ⟨j, hj, hplace⟩ := exists_round_of_le hp hle
    refine ⟨j, by omega, hplace, fun i hi => ?_⟩
    rw [Nat.mod_eq_of_lt (by omega)]
    omega
  · obtain ⟨j, hj, hplace⟩ := exists_round hp hn hstart
    refine ⟨j, hj, hplace, fun i _ => ?_⟩
    have hlt : (start + i) % W < W := Nat.mod_lt _ (Nat.zero_lt_of_lt hstart)
    omega

end Lightstep.Library

import Mathlib.Data.List.Lex
import Lightstep.Common.Characters

/-! Strings in the order of words, where only letters of either case count as the same. -/
namespace Lightstep.Common

/-- `strcasecmp`, of which only the sign means something. -/
def strCaseCmp : List UInt8 → List UInt8 → Int
  | [], [] => 0
  | [], _ :: _ => -1
  | _ :: _, [] => 1
  | a :: lhs, b :: rhs =>
    if lowerChar a = lowerChar b then strCaseCmp lhs rhs else (lowerChar a).toNat - (lowerChar b).toNat

/-- What a comparison without case sees of a string, ordered like words. -/
def caseless (s : List UInt8) : List Nat := (toLower s).map UInt8.toNat

theorem caseless_eq_iff {s t : List UInt8} : caseless s = caseless t ↔ toLower s = toLower t := by
  constructor
  · exact fun h => List.map_injective_iff.mpr (fun a b => UInt8.toNat_inj.mp) h
  · exact fun h => congrArg (List.map UInt8.toNat) h

/-- **The comparison is that of the words without case.** -/
theorem strCaseCmp_spec (s t : List UInt8) :
    (strCaseCmp s t < 0 ↔ caseless s < caseless t) ∧ (strCaseCmp s t = 0 ↔ caseless s = caseless t) := by
  induction s generalizing t with
  | nil => cases t <;> simp [strCaseCmp, caseless, toLower]
  | cons a s ih =>
    cases t with
    | nil => simp [strCaseCmp, caseless, toLower]
    | cons b t =>
      have hcons : ∀ (c : UInt8) (u : List UInt8), caseless (c :: u) = (lowerChar c).toNat :: caseless u :=
        fun _ _ => rfl
      rw [strCaseCmp, hcons, hcons, List.cons_lt_cons_iff, List.cons.injEq]
      by_cases hab : lowerChar a = lowerChar b
      · simpa [hab] using ih t
      · -- The first characters decide.
        have hne : (lowerChar a).toNat ≠ (lowerChar b).toNat := fun h => hab (UInt8.toNat_inj.mp h)
        rw [if_neg hab]
        constructor
        · constructor
          · intro h
            exact Or.inl (by omega)
          · rintro (h | h)
            · omega
            · exact absurd h.1 hne
        · constructor
          · intro h
            omega
          · exact fun h => absurd h.1 hne

theorem iequals_of_caseless {s t : List UInt8} : iequals s t = true ↔ caseless s = caseless t := by
  rw [iequals_iff, caseless_eq_iff]

/-- Digits have no case. -/
theorem toLower_decimal (n : Nat) : toLower (decimal n) = decimal n := by
  have hlower : ∀ c ∈ decimal n, lowerChar c = c := by
    intro c hc
    have hdigit : 48 ≤ c ∧ c ≤ 57 := by simpa [isDigit] using isDigit_of_mem_decimal hc
    have hnot : ¬ (65 ≤ c) := fun h => absurd (UInt8.le_trans h hdigit.2) (by decide)
    simp [lowerChar, hnot]
  exact (List.map_congr_left hlower).trans (List.map_id _)

end Lightstep.Common

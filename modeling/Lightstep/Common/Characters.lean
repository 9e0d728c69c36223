import Mathlib.Algebra.Order.Ring.Nat
import Mathlib.Algebra.Ring.Int.Defs
import Mathlib.Data.List.Basic
import Mathlib.Data.List.Induction

/-! Characters and byte strings.

A string of the source is a list of bytes, and the classes of characters are
those of the C locale: only ASCII letters have a case. -/
namespace Lightstep.Common

/-- The characters of a literal, one byte each. -/
def ascii (s : String) : List UInt8 := s.toList.map fun c => c.toNat.toUInt8

def isSpace (c : UInt8) : Bool := c == 32 || (9 ≤ c && c ≤ 13)

def isDigit (c : UInt8) : Bool := 48 ≤ c && c ≤ 57

/-- `std::tolower`. -/
def lowerChar (c : UInt8) : UInt8 := if 65 ≤ c && c ≤ 90 then c + 32 else c

def toLower (s : List UInt8) : List UInt8 := s.map lowerChar

/-- The comparison of names where case does not matter. -/
def iequals (lhs rhs : List UInt8) : Bool :=
  lhs.length == rhs.length && (lhs.zip rhs).all fun (a, b) => lowerChar a == lowerChar b

/-- `%llu`. -/
def decimal (n : Nat) : List UInt8 := (Nat.toDigits 10 n).map fun c => c.toNat.toUInt8

/-- The number that decimal digits stand for. -/
def decimalValue (digits : List UInt8) : Nat := digits.foldl (fun n c => n * 10 + (c.toNat - 48)) 0

theorem not_isSpace_of_isDigit {c : UInt8} (h : isDigit c = true) : isSpace c = false := by
  have htable : ∀ b, b < 256 → isDigit b.toUInt8 = true → isSpace b.toUInt8 = false := by decide +kernel
  have hc := htable c.toNat c.toNat_lt
  rw [Nat.toUInt8, UInt8.ofNat_toNat] at hc
  exact hc h

@[simp] theorem length_toLower (s : List UInt8) : (toLower s).length = s.length := List.length_map ..

theorem toLower_append (a b : List UInt8) : toLower (a ++ b) = toLower a ++ toLower b := List.map_append ..

theorem iequals_iff {lhs rhs : List UInt8} : iequals lhs rhs = true ↔ toLower lhs = toLower rhs := by
  induction lhs generalizing rhs with
  | nil => cases rhs <;> simp [iequals, toLower]
  | cons a lhs ih =>
    cases rhs with
    | nil => simp [iequals, toLower]
    | cons b rhs =>
      have ih := @ih rhs
      simp only [iequals, toLower, Bool.and_eq_true, beq_iff_eq] at ih
      simp only [iequals, toLower, List.length_cons, List.zip_cons_cons, List.all_cons, List.map_cons,
        List.cons.injEq, Bool.and_eq_true, beq_iff_eq, Nat.add_right_cancel_iff]
      rw [and_left_comm, ih]

/-- A decimal digit as a character and as a byte. -/
theorem toUInt8_of_isDigit {c : Char} (h : c.isDigit = true) :
    isDigit c.toNat.toUInt8 = true ∧ c.toNat.toUInt8.toNat = c.toNat := by
  have hbounds : 48 ≤ c.toNat ∧ c.toNat ≤ 57 := Char.isDigit_iff_toNat.mp h
  have hbyte : c.toNat.toUInt8.toNat = c.toNat := by
    rw [Nat.toUInt8, UInt8.toNat_ofNat']
    omega
  refine ⟨?_, hbyte⟩
  have hle : (48 : UInt8) ≤ c.toNat.toUInt8 ∧ c.toNat.toUInt8 ≤ 57 := by
    rw [UInt8.le_iff_toNat_le, UInt8.le_iff_toNat_le, hbyte]
    exact hbounds
  simpa [isDigit] using hle

theorem isDigit_of_mem_decimal {n : Nat} {c : UInt8} (h : c ∈ decimal n) : isDigit c = true := by
  obtain ⟨digit, hdigit, rfl⟩ := List.mem_map.mp h
  exact (toUInt8_of_isDigit (Nat.isDigit_of_mem_toDigits (by decide) (by decide) hdigit)).1

theorem length_decimal_le {n k : Nat} (hk : 0 < k) (h : n < 10 ^ k) : (decimal n).length ≤ k := by
  rw [decimal, List.length_map]
  exact (Nat.length_toDigits_le_iff (by decide) hk).mpr h

theorem decimalValue_decimal (n : Nat) : decimalValue (decimal n) = n := by
  have hvalue := Nat.ofDigitChars_ten_toDigits (n := n)
  rw [Nat.ofDigitChars_eq_foldl] at hvalue
  rw [decimalValue, decimal, List.foldl_map]
  refine Eq.trans (List.foldl_ext _ _ _ fun m c hc => ?_) hvalue
  rw [(toUInt8_of_isDigit (Nat.isDigit_of_mem_toDigits (by decide) (by decide) hc)).2, Nat.mul_comm]
  rfl

theorem decimalValue_concat (digits : List UInt8) (c : UInt8) :
    decimalValue (digits ++ [c]) = decimalValue digits * 10 + (c.toNat - 48) := by
  rw [decimalValue, List.foldl_append]
  rfl

theorem decimalValue_append (a b : List UInt8) :
    decimalValue (a ++ b) = decimalValue a * 10 ^ b.length + decimalValue b := by
  induction b using List.reverseRecOn with
  | nil => simp [decimalValue]
  | append_singleton b c ih =>
    rw [← List.append_assoc, decimalValue_concat, decimalValue_concat, ih, List.length_append, List.length_singleton,
      Nat.pow_succ, Nat.add_mul, Nat.mul_assoc, Nat.add_assoc]

/-- Only zeros stand for zero. -/
theorem decimalValue_eq_zero {digits : List UInt8} (hdigits : ∀ c ∈ digits, isDigit c = true)
    (h : decimalValue digits = 0) : ∀ c ∈ digits, c = 48 := by
  induction digits using List.reverseRecOn with
  | nil => exact nofun
  | append_singleton digits c ih =>
    rw [decimalValue_concat] at h
    have hdigit : 48 ≤ c ∧ c ≤ 57 := by simpa [isDigit] using hdigits c (by simp)
    have hlast : c = 48 := by
      have hle : 48 ≤ c.toNat := UInt8.le_iff_toNat_le.mp hdigit.1
      have heq : c.toNat = 48 := by omega
      exact UInt8.toNat_inj.mp heq
    intro b hb
    rcases List.mem_append.mp hb with hb | hb
    · exact ih (fun c hc => hdigits c (List.mem_append_left _ hc)) (by omega) b hb
    · rw [List.mem_singleton.mp hb, hlast]

theorem decimalValue_of_zeros {digits : List UInt8} (h : ∀ c ∈ digits, c = 48) : decimalValue digits = 0 := by
  rw [List.eq_replicate_of_mem h]
  induction digits.length with
  | zero => rfl
  | succ n ih =>
    rw [List.replicate_succ', decimalValue_concat, ih]
    rfl

end Lightstep.Common

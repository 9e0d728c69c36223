import Mathlib.Tactic.Ring

/-! Hexadecimal numbers in text.

Digits come with either case; a reader takes both. -/
namespace Lightstep.Library

def upperDigit (d : Nat) : UInt8 := if d < 10 then (48 + d).toUInt8 else (55 + d).toUInt8

def lowerDigit (d : Nat) : UInt8 := if d < 10 then (48 + d).toUInt8 else (87 + d).toUInt8

def digitValue (b : UInt8) : Option Nat :=
  let c := b.toNat
  if 48 ≤ c ∧ c ≤ 57 then some (c - 48)
  else if 65 ≤ c ∧ c ≤ 70 then some (c - 55)
  else if 97 ≤ c ∧ c ≤ 102 then some (c - 87)
  else none

/-- The digits of a number, most significant first and without leading zeros. -/
def hexDigits (digit : Nat → UInt8) : Nat → Nat → List UInt8
  | 0, n => [digit (n % 16)]
  | fuel + 1, n => if n < 16 then [digit n] else hexDigits digit fuel (n / 16) ++ [digit (n % 16)]

/-- The number the digits stand for after those already read. -/
def readHex : Nat → List UInt8 → Option Nat
  | n, [] => some n
  | n, b :: rest => (digitValue b).bind fun d => readHex (n * 16 + d) rest

/-- A digit is one of ten, or a letter of either case. -/
theorem digitValue_cases {b : UInt8} {d : Nat} (h : digitValue b = some d) :
    d < 10 ∧ b.toNat = 48 + d ∨ 10 ≤ d ∧ d < 16 ∧ (b.toNat = 55 + d ∨ b.toNat = 87 + d) := by
  unfold digitValue at h
  dsimp only at h
  split at h
  · cases h; omega
  · split at h
    · cases h; omega
    · split at h
      · cases h; omega
      · cases h

theorem digitValue_lt {b : UInt8} {d : Nat} (h : digitValue b = some d) : d < 16 := by
  rcases digitValue_cases h with ⟨hd, -⟩ | ⟨-, hd, -⟩
  · exact Nat.lt_trans hd (by decide)
  · exact hd

theorem digitValue_pos {b : UInt8} {d : Nat} (h : digitValue b = some d) (hb : b ≠ 48) : 0 < d := by
  have hb : b.toNat ≠ 48 := fun hb' => hb (UInt8.toNat_inj.mp hb')
  rcases digitValue_cases h with ⟨-, hdigit⟩ | ⟨hd, -⟩ <;> omega

/-- What a case owes: each digit reads back. -/
def ReadsBack (digit : Nat → UInt8) : Prop := ∀ d, d < 16 → digitValue (digit d) = some d

theorem upperDigit_readsBack : ReadsBack upperDigit := by
  unfold ReadsBack
  decide

theorem lowerDigit_readsBack : ReadsBack lowerDigit := by
  unfold ReadsBack
  decide

theorem readHex_append (n : Nat) (a b : List UInt8) :
    readHex n (a ++ b) = (readHex n a).bind fun m => readHex m b := by
  induction a generalizing n with
  | nil => rfl
  | cons c rest ih =>
    simp only [List.cons_append, readHex]
    cases digitValue c with
    | none => rfl
    | some d => exact ih _

/-- **The digits of a number read back to it.** -/
theorem readHex_hexDigits {digit : Nat → UInt8} (h : ReadsBack digit) (fuel n : Nat)
    (hn : n < 16 ^ (fuel + 1)) : readHex 0 (hexDigits digit fuel n) = some n := by
  induction fuel generalizing n with
  | zero =>
    have hlt : n < 16 := by simpa using hn
    simp only [hexDigits, readHex, Nat.mod_eq_of_lt hlt, h n hlt, Option.bind_some, Nat.zero_mul, Nat.zero_add]
  | succ fuel ih =>
    by_cases hlt : n < 16
    · simp only [hexDigits, if_pos hlt, readHex, h n hlt, Option.bind_some, Nat.zero_mul, Nat.zero_add]
    · have hdiv : n / 16 < 16 ^ (fuel + 1) := by
        rw [Nat.pow_succ] at hn
        exact Nat.div_lt_of_lt_mul (by rw [Nat.mul_comm]; exact hn)
      have hmod : n % 16 < 16 := Nat.mod_lt _ (by decide)
      simp only [hexDigits, if_neg hlt, readHex_append, ih _ hdiv, Option.bind_some, readHex, h _ hmod]
      congr 1
      omega

theorem digits_of_readHex {n v : Nat} {ds : List UInt8} (h : readHex n ds = some v) :
    ∀ c ∈ ds, (digitValue c).isSome = true := by
  induction ds generalizing n with
  | nil => exact nofun
  | cons c rest ih =>
    obtain ⟨d, hd, hrest⟩ := Option.bind_eq_some_iff.mp h
    intro b hb
    rcases List.mem_cons.mp hb with rfl | hb
    · rw [hd]
      rfl
    · exact ih hrest b hb

/-- What is read after `n` lies between `n` and `n + 1` times the weight of the digits. -/
theorem readHex_bounds {n v : Nat} {ds : List UInt8} (h : readHex n ds = some v) :
    n * 16 ^ ds.length ≤ v ∧ v < (n + 1) * 16 ^ ds.length := by
  induction ds generalizing n with
  | nil =>
    have h : n = v := Option.some.inj h
    simp [h]
  | cons c rest ih =>
    obtain ⟨d, hd, hrest⟩ := Option.bind_eq_some_iff.mp h
    have hd : d < 16 := digitValue_lt hd
    obtain ⟨hle, hlt⟩ := ih hrest
    have hpow : 16 ^ (c :: rest).length = 16 * 16 ^ rest.length := by rw [List.length_cons, Nat.pow_succ, Nat.mul_comm]
    have hlower : n * (16 * 16 ^ rest.length) ≤ (n * 16 + d) * 16 ^ rest.length := by
      rw [← Nat.mul_assoc]
      exact Nat.mul_le_mul_right _ (Nat.le_add_right _ _)
    have hupper : (n * 16 + d + 1) * 16 ^ rest.length ≤ (n + 1) * (16 * 16 ^ rest.length) := by
      rw [← Nat.mul_assoc]
      exact Nat.mul_le_mul_right _ (by omega)
    rw [hpow]
    omega

/-- Reading after `n` adds to what reading alone gives. -/
theorem readHex_eq (n : Nat) (ds : List UInt8) : readHex n ds = (readHex 0 ds).map (n * 16 ^ ds.length + ·) := by
  induction ds generalizing n with
  | nil => simp [readHex]
  | cons c rest ih =>
    simp only [readHex]
    cases digitValue c with
    | none => rfl
    | some d =>
      rw [Option.bind_some, Option.bind_some, ih (n * 16 + d), ih (0 * 16 + d), Option.map_map]
      congr 1
      funext v
      simp only [Function.comp_apply, List.length_cons, Nat.pow_succ]
      ring

/-- Leading zeros change nothing. -/
theorem readHex_dropWhile (ds : List UInt8) : readHex 0 (ds.dropWhile (· == 48)) = readHex 0 ds := by
  induction ds with
  | nil => rfl
  | cons c rest ih =>
    by_cases hc : c = 48
    · subst hc
      exact ih
    · rw [List.dropWhile_cons_of_neg (by simpa using hc)]

end Lightstep.Library

import Mathlib.Data.List.DropRight
import Mathlib.Data.Nat.Bitwise
import Lightstep.Library.Hexadecimal
import Lightstep.Common.Characters

/-! Numbers to hexadecimal text and back.

Both ways go through a table. The reader indexes its table with a `char`, so a
byte from 128 on is an access outside of it. -/
namespace Lightstep.Common
open Library

/-- The codes of errors. `outOfTable` is none: it stands for what an access outside of a table does. -/
inductive ErrorCode where
  | invalidArgument
  | valueTooLarge
  | resultOutOfRange
  | ioError
  | spanContextCorrupted
  | keyNotFound
  | lookupKeyNotSupported
  | outOfTable
  deriving DecidableEq

abbrev Expected (α : Type) := Except ErrorCode α

def num64BitHexDigits : Nat := 16
def num128BitHexDigits : Nat := 2 * num64BitHexDigits
def num32BitHexDigits : Nat := 8
def num8BitHexDigits : Nat := 2

/-! ### Writing -/

def hexDigitLookupTable : List UInt8 :=
  ascii "000102030405060708090a0b0c0d0e0f" ++
  ascii "101112131415161718191a1b1c1d1e1f" ++
  ascii "202122232425262728292a2b2c2d2e2f" ++
  ascii "303132333435363738393a3b3c3d3e3f" ++
  ascii "404142434445464748494a4b4c4d4e4f" ++
  ascii "505152535455565758595a5b5c5d5e5f" ++
  ascii "606162636465666768696a6b6c6d6e6f" ++
  ascii "707172737475767778797a7b7c7d7e7f" ++
  ascii "808182838485868788898a8b8c8d8e8f" ++
  ascii "909192939495969798999a9b9c9d9e9f" ++
  ascii "a0a1a2a3a4a5a6a7a8a9aaabacadaeaf" ++
  ascii "b0b1b2b3b4b5b6b7b8b9babbbcbdbebf" ++
  ascii "c0c1c2c3c4c5c6c7c8c9cacbcccdcecf" ++
  ascii "d0d1d2d3d4d5d6d7d8d9dadbdcdddedf" ++
  ascii "e0e1e2e3e4e5e6e7e8e9eaebecedeeef" ++
  ascii "f0f1f2f3f4f5f6f7f8f9fafbfcfdfeff"

/-- The two digits of a byte. -/
def byteToHex (b : Nat) : List UInt8 := [hexDigitLookupTable.getD (b * 2) 0, hexDigitLookupTable.getD (b * 2 + 1) 0]

/-- Writes the `k` lowest bytes of a number, the last two digits first. -/
def uintToHex : Nat → Nat → List UInt8
  | 0, _ => []
  | k + 1, x => uintToHex k (x >>> 8) ++ byteToHex (x &&& 0xff)

def uint64ToHex (x : UInt64) : List UInt8 := uintToHex 8 x.toNat

def uint32ToHex (x : UInt32) : List UInt8 := uintToHex 4 x.toNat

def uint8ToHex (x : UInt8) : List UInt8 := byteToHex x.toNat

/-- `HexSerializer::Uint128ToHex`. -/
def uint128ToHex (high low : UInt64) : List UInt8 :=
  if high = 0 then uint64ToHex low else uint64ToHex high ++ uint64ToHex low

/-! ### Reading -/

def hexNil : Nat := 255

def hexTable : List Nat :=
  [hexNil, hexNil, hexNil, hexNil, hexNil, hexNil, hexNil, hexNil, hexNil, hexNil, hexNil, hexNil, hexNil,
   hexNil, hexNil, hexNil, hexNil, hexNil, hexNil, hexNil, hexNil, hexNil, hexNil, hexNil, hexNil, hexNil,
   hexNil, hexNil, hexNil, hexNil, hexNil, hexNil, hexNil, hexNil, hexNil, hexNil, hexNil, hexNil, hexNil,
   hexNil, hexNil, hexNil, hexNil, hexNil, hexNil, hexNil, hexNil, hexNil, 0, 1, 2, 3, 4, 5, 6, 7, 8, 9,
   hexNil, hexNil, hexNil, hexNil, hexNil, hexNil, hexNil, 10, 11, 12, 13, 14, 15, hexNil, hexNil, hexNil,
   hexNil, hexNil, hexNil, hexNil, hexNil, hexNil, hexNil, hexNil, hexNil, hexNil, hexNil, hexNil, hexNil,
   hexNil, hexNil, hexNil, hexNil, hexNil, hexNil, hexNil, hexNil, hexNil, hexNil, 10, 11, 12, 13, 14, 15] ++
  List.replicate 153 hexNil

/-- The index a `char` becomes: a negative one wraps around. -/
def charIndex (c : UInt8) : Nat := if c < 128 then c.toNat else 2 ^ 64 - 256 + c.toNat

/-- Reads digits into a number of so many bits that already has `result` in it. -/
def hexToUintImpl (bits : Nat) : Nat → List UInt8 → Expected Nat
  | result, [] => .ok result
  | result, c :: rest =>
    match hexTable[charIndex c]? with
    | none => .error .outOfTable
    | some value =>
      if value = hexNil then .error .invalidArgument
      else hexToUintImpl bits ((result <<< 4 ||| value) % 2 ^ bits) rest

def removeSurroundingWhitespace (s : List UInt8) : List UInt8 := (s.dropWhile isSpace).rdropWhile isSpace

def hexToUint64 (s : List UInt8) : Expected UInt64 := do
  let s := removeSurroundingWhitespace s
  let digits := s.dropWhile (· == 48)
  if digits.length > num64BitHexDigits then throw .valueTooLarge
  else if digits.length = 0 then
    if s.length ≠ digits.length then return 0 else throw .invalidArgument
  else return (← hexToUintImpl 64 0 digits).toUInt64

/-- The high and the low half. -/
def hexToUint128 (s : List UInt8) : Expected (UInt64 × UInt64) := do
  let s := removeSurroundingWhitespace s
  let digits := s.dropWhile (· == 48)
  if digits.length > 2 * num64BitHexDigits then throw .valueTooLarge
  else if digits.length = 0 then
    if s.length ≠ digits.length then return (0, 0) else throw .invalidArgument
  else if digits.length ≤ num64BitHexDigits then
    let low ← hexToUintImpl 64 0 digits
    return (0, low.toUInt64)
  else
    let boundary := digits.length - num64BitHexDigits
    let high ← hexToUintImpl 64 0 (digits.take boundary)
    let low ← hexToUintImpl 64 0 (digits.drop boundary)
    return (high.toUInt64, low.toUInt64)

def normalizedHexToUint8 (s : List UInt8) : Expected UInt8 := do
  return (← hexToUintImpl 8 0 s).toUInt8

def normalizedHexToUint64 (s : List UInt8) : Expected UInt64 := do
  return (← hexToUintImpl 64 0 s).toUInt64

def normalizedHexToUint128 (s : List UInt8) : Expected (UInt64 × UInt64) := do
  let high ← hexToUintImpl 64 0 (s.take num64BitHexDigits)
  let low ← hexToUintImpl 64 0 ((s.drop num64BitHexDigits).take num64BitHexDigits)
  return (high.toUInt64, low.toUInt64)

/-! ### What the tables hold -/

theorem getD_pairs (f g : Nat → UInt8) {n b : Nat} (h : b < n) :
    ((List.range n).flatMap fun i => [f i, g i]).getD (b * 2) 0 = f b ∧
      ((List.range n).flatMap fun i => [f i, g i]).getD (b * 2 + 1) 0 = g b := by
  induction n with
  | zero => exact absurd h (Nat.not_lt_zero b)
  | succ n ih =>
    have hlength : ((List.range n).flatMap fun i => [f i, g i]).length = n * 2 := by
      simp [List.length_flatMap]
    rw [List.range_succ, List.flatMap_append]
    by_cases hb : b < n
    · rw [List.getD_append _ _ _ _ (by omega), List.getD_append _ _ _ _ (by omega)]
      exact ih hb
    · have hb : b = n := by omega
      subst hb
      rw [List.getD_append_right _ _ _ _ (by omega), List.getD_append_right _ _ _ _ (by omega), hlength]
      simp

/-- The table holds the two digits of every byte. -/
theorem hexDigitLookupTable_eq :
    hexDigitLookupTable = (List.range 256).flatMap fun b => [lowerDigit (b / 16), lowerDigit (b % 16)] := by
  decide +kernel

theorem byteToHex_eq {b : Nat} (h : b < 256) : byteToHex b = [lowerDigit (b / 16), lowerDigit (b % 16)] := by
  obtain ⟨hhigh, hlow⟩ := getD_pairs (fun b => lowerDigit (b / 16)) (fun b => lowerDigit (b % 16)) h
  rw [byteToHex, hexDigitLookupTable_eq, hhigh, hlow]

/-- The table has the value of each digit, and nothing for any other byte. -/
theorem hexTable_eq (c : UInt8) : hexTable[charIndex c]?.getD hexNil = (digitValue c).getD hexNil := by
  by_cases hascii : c < 128
  · have htable : ∀ b, b < 128 → hexTable[charIndex b.toUInt8]?.getD hexNil = (digitValue b.toUInt8).getD hexNil := by
      decide +kernel
    have hc := htable c.toNat (UInt8.lt_iff_toNat_lt.mp hascii)
    rwa [Nat.toUInt8, UInt8.ofNat_toNat] at hc
  · -- the index wraps around, past the end of the table
    have hlarge : 128 ≤ c.toNat := Nat.le_of_not_lt fun h => hascii (UInt8.lt_iff_toNat_lt.mpr h)
    have hlength : hexTable.length = 256 := by decide +kernel
    have hnone : hexTable[charIndex c]? = none := by
      rw [List.getElem?_eq_none_iff, hlength, charIndex, if_neg hascii]
      omega
    have hdigit : digitValue c = none := by
      unfold digitValue
      simp only
      rw [if_neg (by omega), if_neg (by omega), if_neg (by omega)]
    rw [hnone, hdigit]

/-- The table knows every digit. -/
theorem hexTable_charIndex {c : UInt8} {d : Nat} (h : digitValue c = some d) :
    hexTable[charIndex c]? = some d ∧ d ≠ hexNil := by
  have hne : d ≠ hexNil := Nat.ne_of_lt (Nat.lt_trans (digitValue_lt h) (by decide))
  have hc := hexTable_eq c
  rw [h] at hc
  cases hvalue : hexTable[charIndex c]? with
  | none =>
    rw [hvalue] at hc
    exact absurd hc.symm hne
  | some value =>
    rw [hvalue] at hc
    exact ⟨congrArg some hc, hne⟩

/-- What the table knows is a digit. -/
theorem digitValue_of_hexTable {c : UInt8} {value : Nat} (h : hexTable[charIndex c]? = some value)
    (hne : value ≠ hexNil) : digitValue c = some value := by
  have hc := hexTable_eq c
  rw [h] at hc
  cases hdigit : digitValue c with
  | none =>
    rw [hdigit] at hc
    exact absurd hc hne
  | some d =>
    rw [hdigit] at hc
    exact congrArg some hc.symm

theorem not_isSpace_of_digit {c : UInt8} (h : (digitValue c).isSome = true) : isSpace c = false := by
  have htable : ∀ b, b < 256 → (digitValue b.toUInt8).isSome = true → isSpace b.toUInt8 = false := by
    decide +kernel
  have hc := htable c.toNat c.toNat_lt
  rw [Nat.toUInt8, UInt8.ofNat_toNat] at hc
  exact hc h

/-! ### What the writers write -/

theorem readHex_byteToHex {b : Nat} (h : b < 256) (n : Nat) : readHex n (byteToHex b) = some (n * 256 + b) := by
  have hhigh : b / 16 < 16 := Nat.div_lt_of_lt_mul h
  have hlow : b % 16 < 16 := Nat.mod_lt _ (by decide)
  rw [byteToHex_eq h]
  simp only [readHex, lowerDigit_readsBack _ hhigh, lowerDigit_readsBack _ hlow, Option.bind_some]
  congr 1
  omega

/-- The digits of a number are read as the number. -/
theorem readHex_uintToHex {k x : Nat} (h : x < 256 ^ k) (n : Nat) :
    readHex n (uintToHex k x) = some (n * 256 ^ k + x) := by
  induction k generalizing x n with
  | zero =>
    have hx : x = 0 := by simpa using h
    simp [uintToHex, readHex, hx]
  | succ k ih =>
    have hhigh : x >>> 8 = x / 256 := Nat.shiftRight_eq_div_pow x 8
    have hlow : x &&& 0xff = x % 256 := Nat.and_two_pow_sub_one_eq_mod x 8
    rw [Nat.pow_succ] at h
    rw [uintToHex, readHex_append, hhigh, hlow, ih (Nat.div_lt_of_lt_mul (by rw [Nat.mul_comm]; exact h)),
      Option.bind_some, readHex_byteToHex (Nat.mod_lt _ (by decide)), Nat.pow_succ, ← Nat.mul_assoc]
    refine congrArg some ?_
    generalize n * 256 ^ k = m
    omega

@[simp] theorem length_uintToHex (k x : Nat) : (uintToHex k x).length = 2 * k := by
  induction k generalizing x with
  | zero => rfl
  | succ k ih => simp only [uintToHex, byteToHex, List.length_append, ih, List.length_cons, List.length_nil]; omega

theorem readHex_uint64ToHex (x : UInt64) (n : Nat) :
    readHex n (uint64ToHex x) = some (n * 2 ^ 64 + x.toNat) := readHex_uintToHex x.toNat_lt n

@[simp] theorem length_uint64ToHex (x : UInt64) : (uint64ToHex x).length = 16 := length_uintToHex 8 _

@[simp] theorem length_uint8ToHex (x : UInt8) : (uint8ToHex x).length = 2 := rfl

theorem readHex_uint128ToHex (high low : UInt64) :
    readHex 0 (uint128ToHex high low) = some (high.toNat * 2 ^ 64 + low.toNat) := by
  unfold uint128ToHex
  split
  · rename_i hhigh
    rw [hhigh, readHex_uint64ToHex]
    rfl
  · rw [readHex_append, readHex_uint64ToHex, Option.bind_some, readHex_uint64ToHex, Nat.zero_mul, Nat.zero_add]

/-! ### What the readers read -/

/-- The implementation reads the number the digits stand for, as long as it fits. -/
theorem hexToUintImpl_of_readHex {bits n v : Nat} {ds : List UInt8} (h : readHex n ds = some v) (hv : v < 2 ^ bits) :
    hexToUintImpl bits n ds = .ok v := by
  induction ds generalizing n with
  | nil => exact congrArg Except.ok (Option.some.inj h)
  | cons c rest ih =>
    obtain ⟨d, hd, hrest⟩ := Option.bind_eq_some_iff.mp h
    obtain ⟨htable, hne⟩ := hexTable_charIndex hd
    have hor : n <<< 4 ||| d = n * 16 + d := by
      rw [← Nat.shiftLeft_add_eq_or_of_lt (digitValue_lt hd), Nat.shiftLeft_eq]
    have hle : n * 16 + d ≤ v := by
      refine Nat.le_trans ?_ (readHex_bounds hrest).1
      exact Nat.le_mul_of_pos_right _ (Nat.pow_pos (by decide))
    simp only [hexToUintImpl, htable, if_neg hne, hor, Nat.mod_eq_of_lt (Nat.lt_of_le_of_lt hle hv)]
    exact ih hrest

/-- Digits have no whitespace around them. -/
theorem removeSurroundingWhitespace_of_readHex {v : Nat} {ds : List UInt8} (h : readHex 0 ds = some v) :
    removeSurroundingWhitespace ds = ds := by
  have hspace : ∀ c ∈ ds, ¬ isSpace c = true := fun c hc => by
    rw [not_isSpace_of_digit (digits_of_readHex h c hc)]
    decide
  have hfront : ds.dropWhile isSpace = ds := by
    cases ds with
    | nil => rfl
    | cons c rest => exact List.dropWhile_cons_of_neg (hspace c (List.mem_cons_self ..))
  rw [removeSurroundingWhitespace, hfront, List.rdropWhile_eq_self_iff]
  exact fun hne => hspace _ (List.getLast_mem hne)

/-- Without leading zeros there are no more digits than the number needs. -/
theorem length_digits_le {v k : Nat} {ds : List UInt8} (h : readHex 0 ds = some v) (hv : v < 16 ^ k) :
    (ds.dropWhile (· == 48)).length ≤ k := by
  rw [← readHex_dropWhile] at h
  have hfirst := List.head?_dropWhile_not (· == 48) ds
  cases hds : ds.dropWhile (· == 48) with
  | nil => exact Nat.zero_le k
  | cons c rest =>
    rw [hds] at h hfirst
    have hc : c ≠ 48 := by simpa using hfirst
    obtain ⟨d, hd, hrest⟩ := Option.bind_eq_some_iff.mp h
    have hle : 16 ^ rest.length ≤ v := by
      refine Nat.le_trans ?_ (readHex_bounds hrest).1
      exact Nat.le_mul_of_pos_left _ (by have := digitValue_pos hd hc; omega)
    exact (Nat.pow_lt_pow_iff_right (by decide)).mp (Nat.lt_of_le_of_lt hle hv)

/-- Nothing is left without leading zeros of the digits of zero only. -/
theorem eq_zero_of_digits_eq_nil {v : Nat} {ds : List UInt8} (h : readHex 0 ds = some v)
    (hds : ds.dropWhile (· == 48) = []) : v = 0 := by
  rw [← readHex_dropWhile, hds] at h
  exact (Option.some.inj h).symm

/-- Digits whose number fits are read. -/
theorem hexToUint64_of_readHex {v : Nat} {ds : List UInt8} (hne : ds ≠ []) (h : readHex 0 ds = some v)
    (hv : v < 2 ^ 64) : hexToUint64 ds = .ok v.toUInt64 := by
  have hlength : ¬ (ds.dropWhile (· == 48)).length > num64BitHexDigits := Nat.not_lt.mpr (length_digits_le h hv)
  unfold hexToUint64
  simp only [removeSurroundingWhitespace_of_readHex h, if_neg hlength]
  split
  · rename_i hzero
    have hdigits := List.eq_nil_of_length_eq_zero hzero
    have hpos : ds.length ≠ (ds.dropWhile (· == 48)).length := by
      rw [hzero]
      exact fun h => hne (List.eq_nil_of_length_eq_zero h)
    rw [if_pos hpos, eq_zero_of_digits_eq_nil h hdigits]
    rfl
  · rw [← readHex_dropWhile] at h
    rw [hexToUintImpl_of_readHex h hv]
    rfl

theorem hexToUint128_of_readHex {high low : Nat} {ds : List UInt8} (hne : ds ≠ [])
    (h : readHex 0 ds = some (high * 2 ^ 64 + low)) (hhigh : high < 2 ^ 64) (hlow : low < 2 ^ 64) :
    hexToUint128 ds = .ok (high.toUInt64, low.toUInt64) := by
  have hlength : ¬ (ds.dropWhile (· == 48)).length > 2 * num64BitHexDigits := by
    refine Nat.not_lt.mpr (length_digits_le h ?_)
    have hpow : (16 : Nat) ^ (2 * num64BitHexDigits) = 2 ^ 64 * 2 ^ 64 := by decide
    rw [hpow]
    omega
  unfold hexToUint128
  simp only [removeSurroundingWhitespace_of_readHex h, if_neg hlength]
  split
  · rename_i hzero
    have hdigits := List.eq_nil_of_length_eq_zero hzero
    have hpos : ds.length ≠ (ds.dropWhile (· == 48)).length := by
      rw [hzero]
      exact fun h => hne (List.eq_nil_of_length_eq_zero h)
    have hv := eq_zero_of_digits_eq_nil h hdigits
    have hhigh : high = 0 := by omega
    have hlow : low = 0 := by omega
    rw [if_pos hpos, hhigh, hlow]
    rfl
  · rw [← readHex_dropWhile] at h
    generalize ds.dropWhile (· == 48) = digits at h ⊢
    split
    · rename_i hle
      have hv := (readHex_bounds h).2
      have hpow : (0 + 1) * 16 ^ digits.length ≤ 2 ^ 64 := by
        rw [Nat.zero_add, Nat.one_mul]
        exact Nat.pow_le_pow_right (n := 16) (by decide) hle
      have hhigh : high = 0 := by omega
      subst hhigh
      rw [Nat.zero_mul, Nat.zero_add] at h
      rw [hexToUintImpl_of_readHex h hlow]
      rfl
    · rename_i hle
      have hsplit := List.take_append_drop (digits.length - num64BitHexDigits) digits
      rw [← hsplit, readHex_append] at h
      obtain ⟨high', hfront, hback⟩ := Option.bind_eq_some_iff.mp h
      have hdrop : (digits.drop (digits.length - num64BitHexDigits)).length = 16 := by
        rw [List.length_drop]
        have hsixteen : num64BitHexDigits = 16 := rfl
        omega
      have hbounds := readHex_bounds hback
      rw [readHex_eq] at hback
      obtain ⟨low', hlast, hsum⟩ := Option.map_eq_some_iff.mp hback
      have hlow' := (readHex_bounds hlast).2
      rw [hdrop] at hsum hbounds hlow'
      have hpow : (16 : Nat) ^ 16 = 2 ^ 64 := by decide
      rw [hpow] at hsum hbounds hlow'
      have hhigh' : high' = high := by omega
      have hlow' : low' = low := by omega
      subst hhigh' hlow'
      rw [hexToUintImpl_of_readHex hfront hhigh, hexToUintImpl_of_readHex hlast hlow]
      rfl

/-! ### What is written reads back -/

theorem hexToUint64_uint64ToHex (x : UInt64) : hexToUint64 (uint64ToHex x) = .ok x := by
  have hread := readHex_uint64ToHex x 0
  rw [Nat.zero_mul, Nat.zero_add] at hread
  have hne : uint64ToHex x ≠ [] := List.ne_nil_of_length_pos (by simp)
  rw [hexToUint64_of_readHex hne hread x.toNat_lt, Nat.toUInt64, UInt64.ofNat_toNat]

theorem hexToUint128_uint64ToHex (x : UInt64) : hexToUint128 (uint64ToHex x) = .ok (0, x) := by
  have hne : uint64ToHex x ≠ [] := List.ne_nil_of_length_pos (by simp)
  rw [hexToUint128_of_readHex hne (readHex_uint64ToHex x 0) (by decide) x.toNat_lt]
  simp [Nat.toUInt64]

/-- **Numbers of 128 bits come back as they were written.** -/
theorem hexToUint128_uint128ToHex (high low : UInt64) : hexToUint128 (uint128ToHex high low) = .ok (high, low) := by
  have hne : uint128ToHex high low ≠ [] := by
    refine List.ne_nil_of_length_pos ?_
    unfold uint128ToHex
    split <;> simp
  rw [hexToUint128_of_readHex hne (readHex_uint128ToHex high low) high.toNat_lt low.toNat_lt]
  simp [Nat.toUInt64]

theorem normalizedHexToUint8_uint8ToHex (x : UInt8) : normalizedHexToUint8 (uint8ToHex x) = .ok x := by
  have hread := readHex_byteToHex x.toNat_lt 0
  rw [Nat.zero_mul, Nat.zero_add] at hread
  unfold normalizedHexToUint8 uint8ToHex
  rw [hexToUintImpl_of_readHex hread x.toNat_lt]
  exact congrArg Except.ok (UInt8.ofNat_toNat)

theorem hexToUintImpl_uint64ToHex (x : UInt64) : hexToUintImpl 64 0 (uint64ToHex x) = .ok x.toNat := by
  have hread := readHex_uint64ToHex x 0
  rw [Nat.zero_mul, Nat.zero_add] at hread
  exact hexToUintImpl_of_readHex hread x.toNat_lt

theorem normalizedHexToUint64_uint64ToHex (x : UInt64) : normalizedHexToUint64 (uint64ToHex x) = .ok x := by
  unfold normalizedHexToUint64
  rw [hexToUintImpl_uint64ToHex]
  exact congrArg Except.ok (UInt64.ofNat_toNat)

theorem normalizedHexToUint128_uint64ToHex (high low : UInt64) :
    normalizedHexToUint128 (uint64ToHex high ++ uint64ToHex low) = .ok (high, low) := by
  have hfront : (uint64ToHex high ++ uint64ToHex low).take num64BitHexDigits = uint64ToHex high :=
    List.take_left' (length_uint64ToHex high)
  have hback : ((uint64ToHex high ++ uint64ToHex low).drop num64BitHexDigits).take num64BitHexDigits = uint64ToHex low := by
    rw [List.drop_left' (show (uint64ToHex high).length = num64BitHexDigits from length_uint64ToHex high)]
    exact List.take_of_length_le (Nat.le_of_eq (length_uint64ToHex low))
  unfold normalizedHexToUint128
  rw [hfront, hback, hexToUintImpl_uint64ToHex, hexToUintImpl_uint64ToHex]
  exact congrArg Except.ok (Prod.ext UInt64.ofNat_toNat UInt64.ofNat_toNat)

end Lightstep.Common

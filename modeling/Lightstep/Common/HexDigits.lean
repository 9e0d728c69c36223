import Lightstep.Common.HexGrammar

/-! What the reader of digits makes of other bytes.

It stops at the first byte that is no digit, with an error if the table says so. From 128 on a byte has no
place in the table. -/
namespace Lightstep.Common
open Library

def isHexDigit (c : UInt8) : Bool := (digitValue c).isSome

def firstNonDigit (s : List UInt8) : Option UInt8 := s.find? fun c => !isHexDigit c

/-- What comes of a byte that is no digit. -/
def nonDigitError (c : UInt8) : ErrorCode := if c < 128 then .invalidArgument else .outOfTable

theorem charIndex_lt_iff {c : UInt8} : charIndex c < 256 ↔ c < 128 := by
  have hc := c.toNat_lt
  unfold charIndex
  split
  case isTrue hascii =>
    rw [UInt8.lt_iff_toNat_lt] at hascii ⊢
    simp only [UInt8.toNat_ofNat] at hascii
    simp [hascii]
    omega
  case isFalse hwide =>
    simp only [hwide, iff_false]
    omega

@[simp] theorem nonDigitError_ne_outOfTable {c : UInt8} : nonDigitError c ≠ .outOfTable ↔ c < 128 := by
  unfold nonDigitError
  split <;> simp [*]

theorem isHexDigit_lt {c : UInt8} (h : isHexDigit c = true) : c < 128 := by
  have htable : ∀ b, b < 256 → isHexDigit b.toUInt8 = true → b.toUInt8 < 128 := by decide +kernel
  have hc := htable c.toNat c.toNat_lt
  rw [Nat.toUInt8, UInt8.ofNat_toNat] at hc
  exact hc h

theorem hexTable_of_not_digit {c : UInt8} (h : isHexDigit c = false) :
    hexTable[charIndex c]? = if c < 128 then some hexNil else none := by
  have hlength : hexTable.length = 256 := by decide +kernel
  have hdigit : digitValue c = none := by simpa [isHexDigit] using h
  have htable := hexTable_eq c
  split
  case isTrue hascii =>
    have hlt : charIndex c < hexTable.length := by rw [hlength]; exact charIndex_lt_iff.mpr hascii
    rw [hdigit, List.getElem?_eq_getElem hlt] at htable
    rw [List.getElem?_eq_getElem hlt]
    exact congrArg some htable
  case isFalse hwide =>
    rw [List.getElem?_eq_none_iff, hlength]
    exact Nat.le_of_not_lt fun hlt => hwide (charIndex_lt_iff.mp hlt)

/-- A reader finds digits only, or fails at the first byte that is none. -/
theorem hexToUintImpl_cases (bits n : Nat) (ds : List UInt8) :
    (∃ v, hexToUintImpl bits n ds = .ok v ∧ firstNonDigit ds = none) ∨
      ∃ c, hexToUintImpl bits n ds = .error (nonDigitError c) ∧ firstNonDigit ds = some c := by
  induction ds generalizing n with
  | nil => exact .inl ⟨n, rfl, rfl⟩
  | cons c rest ih =>
    rw [firstNonDigit, List.find?_cons, hexToUintImpl]
    cases hdigit : isHexDigit c with
    | true =>
      obtain ⟨d, hd⟩ := Option.isSome_iff_exists.mp hdigit
      obtain ⟨htable, hne⟩ := hexTable_charIndex hd
      simp only [htable, if_neg hne]
      exact ih _
    | false =>
      refine .inr ⟨c, ?_, rfl⟩
      rw [hexTable_of_not_digit hdigit, nonDigitError]
      by_cases hascii : c < 128
      · rw [if_pos hascii, if_pos hascii]
        rfl
      · rw [if_neg hascii, if_neg hascii]

theorem firstNonDigit_append (a b : List UInt8) :
    firstNonDigit (a ++ b) = (firstNonDigit a).or (firstNonDigit b) := List.find?_append

/-! ### Digits of either case -/

theorem lowerDigit_of_digitValue {c : UInt8} {d : Nat} (h : digitValue c = some d) : lowerDigit d = lowerChar c := by
  have htable : ∀ b, b < 256 → ∀ d, d < 16 → digitValue b.toUInt8 = some d → lowerDigit d = lowerChar b.toUInt8 := by
    decide +kernel
  have hc := htable c.toNat c.toNat_lt d (digitValue_lt h)
  rw [Nat.toUInt8, UInt8.ofNat_toNat] at hc
  exact hc h

/-- Written again, digits are the same but for their case. -/
theorem uintToHex_of_readHex {k v : Nat} {ds : List UInt8} (hlength : ds.length = 2 * k) (h : readHex 0 ds = some v) :
    uintToHex k v = toLower ds := by
  induction k generalizing v ds with
  | zero =>
    rw [List.eq_nil_of_length_eq_zero hlength]
    rfl
  | succ k ih =>
    obtain ⟨a, b, hback⟩ : ∃ a b, ds.drop (2 * k) = [a, b] :=
      List.length_eq_two.mp (by rw [List.length_drop, hlength]; omega)
    have hfront : (ds.take (2 * k)).length = 2 * k := by rw [List.length_take]; omega
    rw [← List.take_append_drop (2 * k) ds, hback] at h ⊢
    rw [readHex_append] at h
    obtain ⟨u, hu, hrest⟩ := Option.bind_eq_some_iff.mp h
    obtain ⟨high, hhigh, hrest⟩ := Option.bind_eq_some_iff.mp hrest
    obtain ⟨low, hlow, hrest⟩ := Option.bind_eq_some_iff.mp hrest
    have hv : (u * 16 + high) * 16 + low = v := Option.some.inj hrest
    have hhigh' := digitValue_lt hhigh
    have hlow' := digitValue_lt hlow
    have hshift : v >>> 8 = u := by rw [Nat.shiftRight_eq_div_pow]; omega
    have hmask : v &&& 0xff = high * 16 + low := by
      rw [show (0xff : Nat) = 2 ^ 8 - 1 from rfl, Nat.and_two_pow_sub_one_eq_mod]
      omega
    have hdiv : (high * 16 + low) / 16 = high := by omega
    have hmod : (high * 16 + low) % 16 = low := by omega
    rw [uintToHex, hshift, hmask, ih hfront hu, byteToHex_eq (by omega), hdiv, hmod, lowerDigit_of_digitValue hhigh,
      lowerDigit_of_digitValue hlow, toLower_append]
    rfl

/-! ### The access to the table -/

/-- What reading a text owes where a byte that no table has a place for may be: no access leaves the table,
and if such a byte stands where a digit is expected, the text is refused. -/
def TableSafe {α : Type} (wide : Prop) (result : Expected α) : Prop :=
  result ≠ .error .outOfTable ∧ (wide → ∃ error, error ≠ .outOfTable ∧ result = .error error)

/-- Some byte is not ASCII. -/
def Wide (s : List UInt8) : Prop := ∃ c ∈ s, ¬ c < 128

/-- The first byte that is no digit, if there is one, is ASCII. -/
def AsciiFirst (s : List UInt8) : Prop := ∀ c, firstNonDigit s = some c → c < 128

/-- An outcome that follows the first byte that is no digit. -/
theorem tableSafe_iff_asciiFirst {α : Type} {result : Expected α} {s : List UInt8}
    (h : (∃ x, result = .ok x ∧ firstNonDigit s = none) ∨
      ∃ c, result = .error (nonDigitError c) ∧ firstNonDigit s = some c) :
    TableSafe (Wide s) result ↔ AsciiFirst s := by
  rcases h with ⟨x, rfl, hnone⟩ | ⟨c, rfl, hsome⟩
  · refine ⟨fun _ c hc => ?_, fun _ => ⟨nofun, ?_⟩⟩
    · rw [hnone] at hc
      cases hc
    · rintro ⟨c, hc, hwide⟩
      have hdigit := List.find?_eq_none.mp hnone c hc
      exact absurd (isHexDigit_lt (by simpa using hdigit)) hwide
  · constructor
    · intro hsafe c' hc'
      rw [hsome] at hc'
      cases hc'
      exact nonDigitError_ne_outOfTable.mp fun heq => hsafe.1 (congrArg _ heq)
    · intro hascii
      have hne : nonDigitError c ≠ .outOfTable := nonDigitError_ne_outOfTable.mpr (hascii c hsome)
      exact ⟨fun heq => hne (Except.error.inj heq), fun _ => ⟨_, hne, rfl⟩⟩

/-- A text with nothing to read. -/
theorem asciiFirst_nil : AsciiFirst [] := nofun

/-- A text that is refused for another reason. -/
theorem tableSafe_of_error {α : Type} {error : ErrorCode} (h : error ≠ .outOfTable) (wide : Prop) :
    TableSafe wide (.error error : Expected α) :=
  ⟨fun heq => h (Except.error.inj heq), fun _ => ⟨error, h, rfl⟩⟩

theorem firstNonDigit_dropWhile (s : List UInt8) : firstNonDigit (s.dropWhile (· == 48)) = firstNonDigit s := by
  have hzeros : firstNonDigit (s.takeWhile (· == 48)) = none := by
    rw [firstNonDigit, List.find?_eq_none]
    intro c hc
    have hzero : c = 48 := by simpa using List.mem_takeWhile_imp hc
    subst hzero
    decide
  have hsplit := firstNonDigit_append (s.takeWhile (· == 48)) (s.dropWhile (· == 48))
  rw [List.takeWhile_append_dropWhile, hzeros] at hsplit
  rw [hsplit]
  rfl

/-- Digits that are read in one go. -/
theorem map_hexToUintImpl_cases {α : Type} (bits : Nat) (f : Nat → α) (ds : List UInt8) :
    (∃ x, (hexToUintImpl bits 0 ds).map f = .ok x ∧ firstNonDigit ds = none) ∨
      ∃ c, (hexToUintImpl bits 0 ds).map f = .error (nonDigitError c) ∧ firstNonDigit ds = some c := by
  rcases hexToUintImpl_cases bits 0 ds with ⟨v, hv, hnone⟩ | ⟨c, hc, hsome⟩
  · exact .inl ⟨f v, by rw [hv]; rfl, hnone⟩
  · exact .inr ⟨c, by rw [hc]; rfl, hsome⟩

/-- Digits that are read as a high and a low half. -/
theorem halves_cases {α : Type} (f : Nat → Nat → α) (a b : List UInt8) :
    (∃ x, (do let high ← hexToUintImpl 64 0 a
              let low ← hexToUintImpl 64 0 b
              return f high low) = .ok x ∧ firstNonDigit (a ++ b) = none) ∨
      ∃ c, (do let high ← hexToUintImpl 64 0 a
               let low ← hexToUintImpl 64 0 b
               return f high low) = .error (nonDigitError c) ∧ firstNonDigit (a ++ b) = some c := by
  rw [firstNonDigit_append]
  rcases hexToUintImpl_cases 64 0 a with ⟨high, hhigh, hnone⟩ | ⟨c, hc, hsome⟩
  · rw [hhigh, hnone]
    rcases hexToUintImpl_cases 64 0 b with ⟨low, hlow, hnone⟩ | ⟨c, hc, hsome⟩
    · exact .inl ⟨f high low, by rw [hlow]; rfl, hnone⟩
    · exact .inr ⟨c, by rw [hc]; rfl, hsome⟩
  · exact .inr ⟨c, by rw [hc]; rfl, by rw [hsome]; rfl⟩

/-- What is left of a text for its digits to be read from. -/
def significant (s : List UInt8) : List UInt8 := (removeSurroundingWhitespace s).dropWhile (· == 48)

/-- Zeros in front are dropped, and what is too long or empty is refused before a digit is read. -/
theorem tableSafe_significant_iff {α : Type} (t : List UInt8) (maxDigits : Nat) (zero : α) {read : Expected α}
    (hread : (∃ x, read = .ok x ∧ firstNonDigit (t.dropWhile (· == 48)) = none) ∨
      ∃ c, read = .error (nonDigitError c) ∧ firstNonDigit (t.dropWhile (· == 48)) = some c) :
    TableSafe (Wide t)
        (if (t.dropWhile (· == 48)).length > maxDigits then throw .valueTooLarge
        else if (t.dropWhile (· == 48)).length = 0 then
          if t.length ≠ (t.dropWhile (· == 48)).length then return zero else throw .invalidArgument
        else read) ↔
      ((t.dropWhile (· == 48)).length ≤ maxDigits → AsciiFirst t) := by
  have hfirst := firstNonDigit_dropWhile t
  split
  case isTrue hlong =>
    exact iff_of_true (tableSafe_of_error (by decide) _) fun hle => absurd hlong (Nat.not_lt.mpr hle)
  case isFalse hlong =>
    rw [imp_iff_right (Nat.not_lt.mp hlong)]
    split
    case isTrue hzero =>
      rw [List.eq_nil_of_length_eq_zero hzero] at hfirst ⊢
      split
      case isTrue => exact tableSafe_iff_asciiFirst (.inl ⟨zero, rfl, hfirst.symm⟩)
      case isFalse hne =>
        have ht : t = [] := List.eq_nil_of_length_eq_zero (Decidable.not_not.mp hne)
        rw [ht]
        exact iff_of_true (tableSafe_of_error (by decide) _) asciiFirst_nil
    case isFalse =>
      refine tableSafe_iff_asciiFirst ?_
      rw [← hfirst]
      exact hread

theorem hexToUint64_tableSafe_iff (s : List UInt8) :
    TableSafe (Wide (removeSurroundingWhitespace s)) (hexToUint64 s) ↔
      ((significant s).length ≤ num64BitHexDigits → AsciiFirst (removeSurroundingWhitespace s)) :=
  tableSafe_significant_iff _ num64BitHexDigits 0 (map_hexToUintImpl_cases 64 Nat.toUInt64 _)

theorem hexToUint128_tableSafe_iff (s : List UInt8) :
    TableSafe (Wide (removeSurroundingWhitespace s)) (hexToUint128 s) ↔
      ((significant s).length ≤ num128BitHexDigits → AsciiFirst (removeSurroundingWhitespace s)) := by
  refine tableSafe_significant_iff _ (2 * num64BitHexDigits) (0, 0) ?_
  generalize (removeSurroundingWhitespace s).dropWhile (· == 48) = digits
  split
  case isTrue => exact map_hexToUintImpl_cases 64 (fun low => (0, low.toUInt64)) digits
  case isFalse =>
    have hhalves := halves_cases (fun high low => (high.toUInt64, low.toUInt64))
      (digits.take (digits.length - num64BitHexDigits)) (digits.drop (digits.length - num64BitHexDigits))
    rwa [List.take_append_drop] at hhalves

theorem normalizedHexToUint8_tableSafe_iff (s : List UInt8) :
    TableSafe (Wide s) (normalizedHexToUint8 s) ↔ AsciiFirst s :=
  tableSafe_iff_asciiFirst (map_hexToUintImpl_cases 8 Nat.toUInt8 s)

theorem normalizedHexToUint64_tableSafe_iff (s : List UInt8) :
    TableSafe (Wide s) (normalizedHexToUint64 s) ↔ AsciiFirst s :=
  tableSafe_iff_asciiFirst (map_hexToUintImpl_cases 64 Nat.toUInt64 s)

/-- Of a longer text, it reads no more than the digits of a trace id. -/
theorem normalizedHexToUint128_cases (s : List UInt8) :
    (∃ x, normalizedHexToUint128 s = .ok x ∧ firstNonDigit (s.take num128BitHexDigits) = none) ∨
      ∃ c, normalizedHexToUint128 s = .error (nonDigitError c) ∧
        firstNonDigit (s.take num128BitHexDigits) = some c := by
  have hhalves := halves_cases (fun high low => (high.toUInt64, low.toUInt64)) (s.take num64BitHexDigits)
    ((s.drop num64BitHexDigits).take num64BitHexDigits)
  rwa [← List.take_add] at hhalves

/-- The two halves of what it has read. -/
theorem exists_halves_of_normalized {ds : List UInt8} {x : UInt64 × UInt64} (hlength : ds.length = num128BitHexDigits)
    (h : normalizedHexToUint128 ds = .ok x) :
    ∃ high low, hexToUintImpl 64 0 (ds.take num64BitHexDigits) = .ok high ∧
      hexToUintImpl 64 0 (ds.drop num64BitHexDigits) = .ok low ∧ x = (high.toUInt64, low.toUInt64) := by
  have htake : (ds.drop num64BitHexDigits).take num64BitHexDigits = ds.drop num64BitHexDigits := by
    refine List.take_of_length_le ?_
    rw [List.length_drop, hlength]
    decide
  rw [normalizedHexToUint128, htake] at h
  cases hhigh : hexToUintImpl 64 0 (ds.take num64BitHexDigits) with
  | error error =>
    rw [hhigh] at h
    cases h
  | ok high =>
    cases hlow : hexToUintImpl 64 0 (ds.drop num64BitHexDigits) with
    | error error =>
      rw [hhigh, hlow] at h
      cases h
    | ok low =>
      rw [hhigh, hlow] at h
      cases h
      exact ⟨high, low, rfl, rfl, rfl⟩

theorem readHex_of_normalized {ds : List UInt8} {x : UInt64 × UInt64} (hlength : ds.length = num128BitHexDigits)
    (h : normalizedHexToUint128 ds = .ok x) : readHex 0 ds = some (x.1.toNat * 2 ^ 64 + x.2.toNat) := by
  obtain ⟨high, low, hhigh, hlow, rfl⟩ := exists_halves_of_normalized hlength h
  have hfront : (ds.take num64BitHexDigits).length ≤ num64BitHexDigits := List.length_take_le ..
  have hback : (ds.drop num64BitHexDigits).length = num64BitHexDigits := by
    rw [List.length_drop, hlength]
    rfl
  have hread := readHex_of_halves hfront hback hhigh hlow
  rwa [List.take_append_drop] at hread

theorem normalizedHexToUint128_tableSafe_iff (s : List UInt8) :
    TableSafe (Wide (s.take num128BitHexDigits)) (normalizedHexToUint128 s) ↔
      AsciiFirst (s.take num128BitHexDigits) :=
  tableSafe_iff_asciiFirst (normalizedHexToUint128_cases s)

end Lightstep.Common

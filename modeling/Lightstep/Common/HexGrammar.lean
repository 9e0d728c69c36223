import Lightstep.Common.HexConversion

/-! The hexadecimal numbers that are read.

A number is one digit or more of either case, with whitespace around them. Leading zeros count for nothing,
however many there are. -/
namespace Lightstep.Common
open Library

/-- A text of a number, and the number. -/
inductive HexNumber : List UInt8 → Nat → Prop where
  | intro {before digits after : List UInt8} {v : Nat} (hbefore : ∀ c ∈ before, isSpace c = true)
      (hafter : ∀ c ∈ after, isSpace c = true) (hne : digits ≠ []) (hread : readHex 0 digits = some v) :
      HexNumber (before ++ (digits ++ after)) v

/-! ### Whitespace -/

theorem removeSurroundingWhitespace_append {before digits after : List UInt8} {v : Nat}
    (hbefore : ∀ c ∈ before, isSpace c = true) (hafter : ∀ c ∈ after, isSpace c = true) (hne : digits ≠ [])
    (hread : readHex 0 digits = some v) : removeSurroundingWhitespace (before ++ (digits ++ after)) = digits := by
  have hfront : (before ++ (digits ++ after)).dropWhile isSpace = digits ++ after := by
    rw [List.dropWhile_append_of_pos hbefore]
    cases digits with
    | nil => exact absurd rfl hne
    | cons c rest =>
      have hdigit := not_isSpace_of_digit (digits_of_readHex hread c (List.mem_cons_self ..))
      exact List.dropWhile_cons_of_neg (by rw [hdigit]; decide)
  have hback : (digits ++ after).rdropWhile isSpace = digits.rdropWhile isSpace := by
    have hreverse : ∀ c ∈ after.reverse, isSpace c = true := fun c hc => hafter c (List.mem_reverse.mp hc)
    rw [List.rdropWhile, List.reverse_append, List.dropWhile_append_of_pos hreverse]
    rfl
  rw [removeSurroundingWhitespace, hfront, hback, List.rdropWhile_eq_self_iff]
  intro hlast
  rw [not_isSpace_of_digit (digits_of_readHex hread _ (List.getLast_mem hlast))]
  decide

/-- A text is a number exactly if its whitespace surrounds digits. -/
theorem hexNumber_iff {s : List UInt8} {v : Nat} :
    HexNumber s v ↔ removeSurroundingWhitespace s ≠ [] ∧ readHex 0 (removeSurroundingWhitespace s) = some v := by
  constructor
  · rintro ⟨hbefore, hafter, hne, hread⟩
    rw [removeSurroundingWhitespace_append hbefore hafter hne hread]
    exact ⟨hne, hread⟩
  · rintro ⟨hne, hread⟩
    have hsplit : s.takeWhile isSpace ++
        (removeSurroundingWhitespace s ++ (s.dropWhile isSpace).rtakeWhile isSpace) = s := by
      rw [removeSurroundingWhitespace, List.rdropWhile_append_rtakeWhile, List.takeWhile_append_dropWhile]
    rw [← hsplit]
    exact .intro (fun c hc => List.mem_takeWhile_imp hc) (fun c hc => List.mem_rtakeWhile_imp hc) hne hread

/-! ### Digits -/

theorem readHex_of_hexToUintImpl {bits n v : Nat} {ds : List UInt8} (h : hexToUintImpl bits n ds = .ok v) (m : Nat) :
    ∃ u, readHex m ds = some u := by
  induction ds generalizing n m with
  | nil => exact ⟨m, rfl⟩
  | cons c rest ih =>
    simp only [hexToUintImpl] at h
    cases htable : hexTable[charIndex c]? with
    | none => rw [htable] at h; cases h
    | some value =>
      rw [htable] at h
      dsimp only at h
      split at h
      case isTrue => cases h
      case isFalse hne =>
        obtain ⟨u, hu⟩ := ih h (m * 16 + value)
        exact ⟨u, by rw [readHex, digitValue_of_hexTable htable hne, Option.bind_some, hu]⟩

/-- As far as any number of so many digits fits, the implementation reads what the digits stand for, and
nothing else. -/
theorem hexToUintImpl_iff_of_le {bits v : Nat} {ds : List UInt8} (hpow : 16 ^ ds.length ≤ 2 ^ bits) :
    hexToUintImpl bits 0 ds = .ok v ↔ readHex 0 ds = some v := by
  have hlt : ∀ {u}, readHex 0 ds = some u → u < 2 ^ bits := fun hu => by
    have hbound := (readHex_bounds hu).2
    rw [Nat.zero_add, Nat.one_mul] at hbound
    exact Nat.lt_of_lt_of_le hbound hpow
  constructor
  · intro h
    obtain ⟨u, hu⟩ := readHex_of_hexToUintImpl h 0
    have hv := hexToUintImpl_of_readHex hu (hlt hu)
    rw [hu, ← Except.ok.inj (hv.symm.trans h)]
  · intro h
    exact hexToUintImpl_of_readHex h (hlt h)

theorem hexToUintImpl_iff {v : Nat} {ds : List UInt8} (hlength : ds.length ≤ num64BitHexDigits) :
    hexToUintImpl 64 0 ds = .ok v ↔ readHex 0 ds = some v :=
  hexToUintImpl_iff_of_le (Nat.pow_le_pow_right (n := 16) (by decide) hlength)

/-! ### Numbers -/

theorem readHex_of_zeros {ds : List UInt8} (h : ds.dropWhile (· == 48) = []) : readHex 0 ds = some 0 := by
  rw [← readHex_dropWhile, h]
  rfl

/-- Some digits are left without the leading zeros only if there were some. -/
theorem ne_nil_of_length_dropWhile {t : List UInt8} (h : ¬ (t.dropWhile (· == 48)).length = 0) : t ≠ [] := by
  rintro rfl
  exact h rfl

theorem readHex_lt {v : Nat} {ds : List UInt8} (hlength : ds.length ≤ num64BitHexDigits) (h : readHex 0 ds = some v) :
    v < 2 ^ 64 := by
  have hbound := (readHex_bounds h).2
  rw [Nat.zero_add, Nat.one_mul] at hbound
  exact Nat.lt_of_lt_of_le hbound (Nat.pow_le_pow_right (n := 16) (by decide) hlength)

/-- As many digits as a word holds, read into a word. -/
theorem readHex_of_word {v : Nat} {ds : List UInt8} (hlength : ds.length ≤ num64BitHexDigits)
    (h : hexToUintImpl 64 0 ds = .ok v) : readHex 0 ds = some v.toUInt64.toNat := by
  have hread := (hexToUintImpl_iff hlength).mp h
  have hv : v.toUInt64.toNat = v := UInt64.toNat_ofNat_of_lt' (readHex_lt hlength hread)
  rw [hread, hv]

/-- The two halves of a number, each read by itself. -/
theorem readHex_of_halves {front back : List UInt8} {high low : Nat} (hfront : front.length ≤ num64BitHexDigits)
    (hback : back.length = num64BitHexDigits) (hhigh : hexToUintImpl 64 0 front = .ok high)
    (hlow : hexToUintImpl 64 0 back = .ok low) :
    readHex 0 (front ++ back) = some (high.toUInt64.toNat * 2 ^ 64 + low.toUInt64.toNat) := by
  rw [readHex_append, readHex_of_word hfront hhigh, Option.bind_some, readHex_eq,
    readHex_of_word (Nat.le_of_eq hback) hlow, hback]
  rfl

/-- Zeros in front are dropped, and what is too long or empty is refused: what is returned is zero where zeros
are all there is, and otherwise what the digits after them are read as. -/
theorem hexNumber_of_significant {α : Type} {s : List UInt8} {maxDigits : Nat} {zero x : α} {read : Expected α}
    (value : α → Nat) (hzero : value zero = 0)
    (hread : ((removeSurroundingWhitespace s).dropWhile (· == 48)).length ≤ maxDigits → read = .ok x →
      readHex 0 ((removeSurroundingWhitespace s).dropWhile (· == 48)) = some (value x))
    (h : (if ((removeSurroundingWhitespace s).dropWhile (· == 48)).length > maxDigits then throw .valueTooLarge
      else if ((removeSurroundingWhitespace s).dropWhile (· == 48)).length = 0 then
        if (removeSurroundingWhitespace s).length ≠ ((removeSurroundingWhitespace s).dropWhile (· == 48)).length then
          return zero
        else throw .invalidArgument
      else read) = Except.ok x) : HexNumber s (value x) := by
  rw [hexNumber_iff]
  generalize removeSurroundingWhitespace s = t at hread h ⊢
  split at h
  case isTrue => cases h
  case isFalse hlength =>
    split at h
    case isTrue hnone =>
      split at h
      case isTrue hne =>
        cases h
        rw [hzero]
        exact ⟨fun hnil => hne (by rw [hnil]; rfl), readHex_of_zeros (List.eq_nil_of_length_eq_zero hnone)⟩
      case isFalse => cases h
    case isFalse hsome =>
      refine ⟨ne_nil_of_length_dropWhile hsome, ?_⟩
      rw [← readHex_dropWhile]
      exact hread (Nat.le_of_not_lt hlength) h

theorem hexNumber_of_hexToUint64 {s : List UInt8} {x : UInt64} (h : hexToUint64 s = .ok x) : HexNumber s x.toNat := by
  refine hexNumber_of_significant UInt64.toNat rfl (fun hlength hread => ?_) h
  cases hdigits : hexToUintImpl 64 0 ((removeSurroundingWhitespace s).dropWhile (· == 48)) with
  | error e =>
    rw [hdigits] at hread
    cases hread
  | ok v =>
    rw [hdigits] at hread
    cases hread
    exact readHex_of_word hlength hdigits

/-- What is read depends on what the whitespace surrounds. -/
theorem hexToUint64_iff (s : List UInt8) (x : UInt64) : hexToUint64 s = .ok x ↔ HexNumber s x.toNat := by
  refine ⟨hexNumber_of_hexToUint64, fun h => ?_⟩
  obtain ⟨hne, hread⟩ := hexNumber_iff.mp h
  have hdigits := hexToUint64_of_readHex hne hread x.toNat_lt
  rw [Nat.toUInt64, UInt64.ofNat_toNat] at hdigits
  rw [← hdigits]
  unfold hexToUint64
  rw [removeSurroundingWhitespace_of_readHex hread]

theorem hexNumber_of_hexToUint128 {s : List UInt8} {high low : UInt64} (h : hexToUint128 s = .ok (high, low)) :
    HexNumber s (high.toNat * 2 ^ 64 + low.toNat) := by
  refine hexNumber_of_significant (fun x => x.1.toNat * 2 ^ 64 + x.2.toNat) rfl (fun hlength hread => ?_) h
  generalize (removeSurroundingWhitespace s).dropWhile (· == 48) = digits at hlength hread ⊢
  split at hread
  case isTrue hshort =>
    cases hdigits : hexToUintImpl 64 0 digits with
    | error e =>
      rw [hdigits] at hread
      cases hread
    | ok v =>
      rw [hdigits] at hread
      cases hread
      rw [readHex_of_word hshort hdigits, UInt64.toNat_zero, Nat.zero_mul, Nat.zero_add]
  case isFalse hlong =>
    have hsplit := List.take_append_drop (digits.length - num64BitHexDigits) digits
    have hfront : (digits.take (digits.length - num64BitHexDigits)).length ≤ num64BitHexDigits := by
      rw [List.length_take]
      omega
    have hback : (digits.drop (digits.length - num64BitHexDigits)).length = num64BitHexDigits := by
      rw [List.length_drop]
      omega
    dsimp only at hread
    generalize digits.take (digits.length - num64BitHexDigits) = front at hread hsplit hfront
    generalize digits.drop (digits.length - num64BitHexDigits) = back at hread hsplit hback
    cases hhigh : hexToUintImpl 64 0 front with
    | error e =>
      rw [hhigh] at hread
      cases hread
    | ok u =>
      cases hlow : hexToUintImpl 64 0 back with
      | error e =>
        rw [hhigh, hlow] at hread
        cases hread
      | ok v =>
        rw [hhigh, hlow] at hread
        cases hread
        rw [← hsplit]
        exact readHex_of_halves hfront hback hhigh hlow

theorem hexToUint128_iff (s : List UInt8) (high low : UInt64) :
    hexToUint128 s = .ok (high, low) ↔ HexNumber s (high.toNat * 2 ^ 64 + low.toNat) := by
  refine ⟨hexNumber_of_hexToUint128, fun h => ?_⟩
  obtain ⟨hne, hread⟩ := hexNumber_iff.mp h
  have hdigits := hexToUint128_of_readHex hne hread high.toNat_lt low.toNat_lt
  rw [Nat.toUInt64, UInt64.ofNat_toNat, UInt64.ofNat_toNat] at hdigits
  rw [← hdigits]
  unfold hexToUint128
  rw [removeSurroundingWhitespace_of_readHex hread]

theorem hexToUint64_uint32ToHex (x : UInt32) : hexToUint64 (uint32ToHex x) = .ok x.toUInt64 := by
  have hlt : x.toNat < 2 ^ 64 := Nat.lt_trans x.toNat_lt (by decide)
  have hread : readHex 0 (uint32ToHex x) = some x.toNat := by
    rw [uint32ToHex, readHex_uintToHex x.toNat_lt, Nat.zero_mul, Nat.zero_add]
  have hne : uint32ToHex x ≠ [] := List.ne_nil_of_length_pos (by rw [uint32ToHex, length_uintToHex]; decide)
  rw [hexToUint64_iff, UInt32.toNat_toUInt64]
  have hnumber := @HexNumber.intro [] _ [] _ nofun nofun hne hread
  rwa [List.append_nil, List.nil_append] at hnumber

/-- A text that is read, and the numbers that can be. -/
theorem exists_hexToUint64_iff (s : List UInt8) : (∃ x, hexToUint64 s = .ok x) ↔ ∃ v, v < 2 ^ 64 ∧ HexNumber s v := by
  constructor
  · rintro ⟨x, h⟩
    exact ⟨x.toNat, x.toNat_lt, (hexToUint64_iff s x).mp h⟩
  · rintro ⟨v, hv, h⟩
    refine ⟨v.toUInt64, (hexToUint64_iff s _).mpr ?_⟩
    have hvalue : v.toUInt64.toNat = v := UInt64.toNat_ofNat_of_lt' hv
    rw [hvalue]
    exact h

theorem exists_hexToUint128_iff (s : List UInt8) :
    (∃ high low, hexToUint128 s = .ok (high, low)) ↔ ∃ v, v < 2 ^ 128 ∧ HexNumber s v := by
  constructor
  · rintro ⟨high, low, h⟩
    refine ⟨_, ?_, (hexToUint128_iff s high low).mp h⟩
    have hhigh := high.toNat_lt
    have hlow := low.toNat_lt
    omega
  · rintro ⟨v, hv, h⟩
    refine ⟨(v / 2 ^ 64).toUInt64, (v % 2 ^ 64).toUInt64, (hexToUint128_iff s _ _).mpr ?_⟩
    have hlt : v / 2 ^ 64 < 2 ^ 64 := by omega
    have hhigh : (v / 2 ^ 64).toUInt64.toNat = v / 2 ^ 64 := UInt64.toNat_ofNat_of_lt' hlt
    have hlow : (v % 2 ^ 64).toUInt64.toNat = v % 2 ^ 64 := UInt64.toNat_ofNat_of_lt' (Nat.mod_lt _ (by decide))
    rw [hhigh, hlow, Nat.div_add_mod']
    exact h

/-- **The readers read the numbers of the grammar** that fit, and the writers write such. -/
theorem hexToUint_grammar (s : List UInt8) :
    ((∃ x, hexToUint64 s = .ok x) ↔ ∃ v, v < 2 ^ 64 ∧ HexNumber s v) ∧
    (∀ x, hexToUint64 s = .ok x ↔ HexNumber s x.toNat) ∧
    ((∃ high low, hexToUint128 s = .ok (high, low)) ↔ ∃ v, v < 2 ^ 128 ∧ HexNumber s v) ∧
    (∀ high low, hexToUint128 s = .ok (high, low) ↔ HexNumber s (high.toNat * 2 ^ 64 + low.toNat)) ∧
    (∀ x, hexToUint64 (uint64ToHex x) = .ok x) ∧ (∀ x, hexToUint64 (uint32ToHex x) = .ok x.toUInt64) ∧
    ∀ high low, hexToUint128 (uint128ToHex high low) = .ok (high, low) :=
  ⟨exists_hexToUint64_iff s, hexToUint64_iff s, exists_hexToUint128_iff s, hexToUint128_iff s, hexToUint64_uint64ToHex,
    hexToUint64_uint32ToHex, hexToUint128_uint128ToHex⟩

end Lightstep.Common

import Mathlib.Algebra.Order.Ring.Nat
import Mathlib.Algebra.Ring.Int.Defs
import Mathlib.Data.List.Infix
import Mathlib.Data.List.TakeWhile
import Lightstep.Common.JsonParser
import Lightstep.Common.JsonText

/-! Integers in JSON texts.

An integer that is written to the base 10 is read back. Written to the base 16 it
is read as the integer it is only if it has one digit and that is a decimal one. -/
namespace Lightstep.Common
open OStringStream

/-! ### Digits -/

def digitByte (k : Nat) : UInt8 := k.digitChar.toNat.toUInt8

/-- A number to a base, one byte for each digit. -/
def digitBytes (base n : Nat) : List UInt8 := (Nat.toDigits base n).map fun c => c.toNat.toUInt8

theorem decimal_eq (n : Nat) : decimal n = digitBytes 10 n := rfl

theorem hexadecimal_eq (n : Nat) : hexadecimal n = digitBytes 16 n := rfl

theorem digitBytes_of_lt {base n : Nat} (h : n < base) : digitBytes base n = [digitByte n] := by
  rw [digitBytes, Nat.toDigits_of_lt_base h]
  rfl

theorem digitBytes_of_le {base n : Nat} (hbase : 1 < base) (h : base ≤ n) :
    digitBytes base n = digitBytes base (n / base) ++ [digitByte (n % base)] := by
  rw [digitBytes, Nat.toDigits_of_base_le hbase h, List.map_append]
  rfl

theorem isDigit_digitByte : ∀ k, k < 16 → isDigit (digitByte k) = decide (k < 10) := by decide

theorem toNat_digitByte : ∀ k, k < 10 → (digitByte k).toNat = 48 + k := by decide

theorem digitByte_eq_zero : ∀ k, k < 16 → (digitByte k = 48 ↔ k = 0) := by decide

/-- Only 0 begins with a 0. -/
theorem digitBytes_head {base : Nat} (hbase : 1 < base) (n : Nat) :
    ∃ k rest, digitBytes base n = digitByte k :: rest ∧ k < base ∧ (k = 0 → n = 0 ∧ rest = []) := by
  induction n using Nat.strong_induction_on with
  | _ n ih =>
    by_cases hlt : n < base
    · exact ⟨n, [], digitBytes_of_lt hlt, hlt, fun hn => ⟨hn, rfl⟩⟩
    · have hle : base ≤ n := Nat.le_of_not_lt hlt
      have hpos : 0 < n / base := Nat.div_pos hle (by omega)
      obtain ⟨k, rest, hhead, hk, hzero⟩ := ih _ (Nat.div_lt_self (by omega) hbase)
      refine ⟨k, rest ++ [digitByte (n % base)], ?_, hk, fun hk0 => ?_⟩
      · rw [digitBytes_of_le hbase hle, hhead]
        rfl
      · have hn := (hzero hk0).1
        omega

/-- The decimal digits in front of a number to the base 16 stand for less than it, but for one digit. -/
theorem decimalValue_of_prefixed {n : Nat} {digits : List UInt8} (h : digits <+: digitBytes 16 n)
    (hdigits : ∀ c ∈ digits, isDigit c = true) : decimalValue digits ≤ n ∧ (10 ≤ n → decimalValue digits < n) := by
  induction n using Nat.strong_induction_on generalizing digits with
  | _ n ih =>
    by_cases hlt : n < 16
    · rw [digitBytes_of_lt hlt, ← List.nil_append [digitByte n], List.prefix_concat_iff] at h
      rcases h with rfl | h
      · have hdigit : isDigit (digitByte n) = true := hdigits _ (List.mem_cons_self ..)
        rw [isDigit_digitByte n hlt] at hdigit
        have hten : n < 10 := of_decide_eq_true hdigit
        have hvalue : decimalValue [digitByte n] = n := by
          rw [← List.nil_append [digitByte n], decimalValue_concat, toNat_digitByte n hten]
          simp [decimalValue]
        exact ⟨Nat.le_of_eq hvalue, fun hle => by omega⟩
      · rw [List.prefix_nil.mp h]
        exact ⟨Nat.zero_le _, fun hle => Nat.lt_of_lt_of_le (by decide) hle⟩
    · have hle : 16 ≤ n := Nat.le_of_not_lt hlt
      rw [digitBytes_of_le (by decide) hle, List.prefix_concat_iff] at h
      rcases h with rfl | h
      · have hlast := hdigits _ (List.mem_append_right _ (List.mem_cons_self ..))
        rw [isDigit_digitByte _ (Nat.mod_lt _ (by decide))] at hlast
        have hten : n % 16 < 10 := of_decide_eq_true hlast
        have hfront := (ih (n / 16) (Nat.div_lt_self (by omega) (by decide)) (List.prefix_refl _)
          fun c hc => hdigits c (List.mem_append_left _ hc)).1
        rw [decimalValue_concat, toNat_digitByte _ hten]
        omega
      · have hfront := (ih (n / 16) (Nat.div_lt_self (by omega) (by decide)) h hdigits).1
        omega

/-! ### Reading numbers -/

/-- What may come after a value: the end, or a character that continues no number. -/
def Delimited (rest : List UInt8) : Prop := ∀ c tail, rest = c :: tail → c = 44 ∨ c = 93 ∨ c = 125

theorem delimited_cons {c : UInt8} (h : c = 44 ∨ c = 93 ∨ c = 125) (rest : List UInt8) : Delimited (c :: rest) := by
  rintro c' tail heq
  obtain ⟨rfl, -⟩ := List.cons.inj heq
  exact h

theorem delimited_comma (rest : List UInt8) : Delimited (44 :: rest) := delimited_cons (.inl rfl) rest

theorem delimited_bracket (rest : List UInt8) : Delimited (93 :: rest) := delimited_cons (.inr (.inl rfl)) rest

theorem delimited_brace (rest : List UInt8) : Delimited (125 :: rest) := delimited_cons (.inr (.inr rfl)) rest

namespace Delimited
variable {rest : List UInt8}

theorem head?_ne (h : Delimited rest) {c : UInt8} (hc : c ≠ 44) (hc' : c ≠ 93) (hc'' : c ≠ 125) : rest.head? ≠ some c := by
  cases rest with
  | nil => exact nofun
  | cons d tail =>
    rintro heq
    obtain rfl := Option.some.inj heq
    rcases h d tail rfl with rfl | rfl | rfl
    · exact hc rfl
    · exact hc' rfl
    · exact hc'' rfl

theorem takeWhile_eq (h : Delimited rest) (digits : List UInt8) :
    (digits ++ rest).takeWhile isDigit = digits.takeWhile isDigit := by
  induction digits with
  | nil =>
    cases rest with
    | nil => rfl
    | cons c tail =>
      rcases h c tail rfl with rfl | rfl | rfl <;> rfl
  | cons d digits ih =>
    rw [List.cons_append, List.takeWhile_cons, List.takeWhile_cons, ih]

theorem skipWhitespace_eq (h : Delimited rest) : Json.skipWhitespace rest = rest := by
  cases rest with
  | nil => rfl
  | cons c tail =>
    rcases h c tail rfl with rfl | rfl | rfl <;> rfl

end Delimited

namespace Json

theorem dropWhile_isDigit {digits rest : List UInt8} (hdigits : ∀ c ∈ digits, isDigit c = true) (h : Delimited rest) :
    (digits ++ rest).takeWhile isDigit = digits ∧ (digits ++ rest).dropWhile isDigit = rest := by
  have htake : (digits ++ rest).takeWhile isDigit = digits := by
    rw [h.takeWhile_eq, List.takeWhile_eq_self_iff]
    exact hdigits
  refine ⟨htake, ?_⟩
  have hsplit := List.takeWhile_append_dropWhile (p := isDigit) (l := digits ++ rest)
  rw [htake] at hsplit
  exact List.append_cancel_left hsplit

theorem parseDigits_decimal (n : Nat) {rest : List UInt8} (h : Delimited rest) :
    parseDigits (decimal n ++ rest) = some (decimal n, rest) := by
  obtain ⟨k, digits, hhead, hk, hzero⟩ := digitBytes_head (show 1 < 10 by decide) n
  rw [← decimal_eq] at hhead
  have hdigits : ∀ c ∈ digits, isDigit c = true := fun c hc =>
    isDigit_of_mem_decimal (hhead ▸ List.mem_cons_of_mem _ hc)
  rw [hhead, List.cons_append, parseDigits]
  by_cases hk0 : k = 0
  · rw [if_pos ((digitByte_eq_zero k (by omega)).mpr hk0), (hzero hk0).2]
    rfl
  · have hdigit : isDigit (digitByte k) = true := by
      rw [isDigit_digitByte k (by omega)]
      exact decide_eq_true hk
    obtain ⟨htake, hdrop⟩ := dropWhile_isDigit hdigits h
    rw [if_neg fun heq => hk0 ((digitByte_eq_zero k (by omega)).mp heq), if_pos hdigit, htake, hdrop]

theorem parseFraction_delimited {rest : List UInt8} (h : Delimited rest) : parseFraction rest = some ([], rest) :=
  if_neg (h.head?_ne (by decide) (by decide) (by decide))

theorem parseExponent_delimited {rest : List UInt8} (h : Delimited rest) : parseExponent rest = some ([], rest) := by
  refine if_neg (not_or.mpr ⟨?_, ?_⟩)
  · exact h.head?_ne (by decide) (by decide) (by decide)
  · exact h.head?_ne (by decide) (by decide) (by decide)

theorem parseUnsigned_decimal (minus : Bool) (n : Nat) {rest : List UInt8} (h : Delimited rest) :
    parseUnsigned minus (decimal n ++ rest) = some (.integer (if minus then -(n : Int) else n), rest) := by
  simp only [parseUnsigned, parseDigits_decimal n h, Option.bind_some, parseFraction_delimited h,
    parseExponent_delimited h, Option.map_some, decimalValue_decimal, and_self, if_true]

/-- **An integer to the base 10 is read back.** -/
theorem parseNumber_decimal (n : Int) {rest : List UInt8} (h : Delimited rest) :
    parseNumber (integerText false n ++ rest) = some (.integer n, rest) := by
  have htext : integerText false n = if n < 0 then 45 :: decimal n.natAbs else decimal n.natAbs := rfl
  rw [htext]
  by_cases hneg : n < 0
  · rw [if_pos hneg, parseNumber, List.cons_append, List.head?_cons, if_pos rfl, List.tail_cons,
      parseUnsigned_decimal true _ h, if_pos rfl]
    have hn : -(n.natAbs : Int) = n := by omega
    rw [hn]
  · obtain ⟨k, digits, hhead, hk, -⟩ := digitBytes_head (show 1 < 10 by decide) n.natAbs
    have hne : (decimal n.natAbs ++ rest).head? ≠ some 45 := by
      rw [decimal_eq, hhead, List.cons_append, List.head?_cons]
      have hminus : ∀ k, k < 10 → digitByte k ≠ 45 := by decide
      exact fun heq => hminus k hk (Option.some.inj heq)
    rw [if_neg hneg, parseNumber, if_neg hne, parseUnsigned_decimal false _ h]
    have hn : (n.natAbs : Int) = n := by omega
    simp [hn]

/-! ### The base 16 -/

theorem parseFraction_eq_nil {input rest : List UInt8} (h : parseFraction input = some ([], rest)) : rest = input := by
  unfold parseFraction at h
  split_ifs at h
  · simp at h
  · exact (congrArg Prod.snd (Option.some.inj h)).symm

theorem parseExponent_eq_nil {input rest : List UInt8} (h : parseExponent input = some ([], rest)) : rest = input := by
  unfold parseExponent at h
  split_ifs at h with hhead
  · cases input with
    | nil => simp at hhead
    | cons c tail => simp at h
  · exact (congrArg Prod.snd (Option.some.inj h)).symm

/-- An integer is read from the digits in front, and nothing else. -/
theorem parseUnsigned_eq_integer {input rest : List UInt8} {n : Int}
    (h : parseUnsigned false input = some (.integer n, rest)) :
    ∃ digits, parseDigits input = some (digits, rest) ∧ n = decimalValue digits := by
  obtain ⟨⟨digits, rest₁⟩, hdigits, hafter⟩ := Option.bind_eq_some_iff.mp h
  obtain ⟨⟨fraction, rest₂⟩, hfraction, hafter⟩ := Option.bind_eq_some_iff.mp hafter
  obtain ⟨⟨exponent, rest₃⟩, hexponent, hread⟩ := Option.map_eq_some_iff.mp hafter
  simp only [Bool.false_eq_true, if_false] at hread
  split_ifs at hread with hnil
  · obtain ⟨rfl, rfl⟩ := hnil
    obtain ⟨hn, rfl⟩ := Prod.mk.inj hread
    rw [parseExponent_eq_nil hexponent, parseFraction_eq_nil hfraction]
    exact ⟨digits, hdigits, (Json.integer.inj hn).symm⟩
  · cases (Prod.mk.inj hread).1

/-- The digits in front of a number to the base 16. -/
theorem parseDigits_hexadecimal {m : Nat} {digits rest rest' : List UInt8} (hrest : Delimited rest)
    (h : parseDigits (hexadecimal m ++ rest) = some (digits, rest')) :
    digits <+: digitBytes 16 m ∧ ∀ c ∈ digits, isDigit c = true := by
  obtain ⟨k, tail, hhead, hk, -⟩ := digitBytes_head (show 1 < 16 by decide) m
  rw [hexadecimal_eq, hhead, List.cons_append, parseDigits, hrest.takeWhile_eq] at h
  rw [hhead]
  split_ifs at h with hzero hdigit
  · obtain ⟨rfl, -⟩ := Prod.mk.inj (Option.some.inj h)
    refine ⟨⟨tail, rfl⟩, fun c hc => ?_⟩
    rw [List.mem_singleton.mp hc, hzero]
    rfl
  · obtain ⟨rfl, -⟩ := Prod.mk.inj (Option.some.inj h)
    refine ⟨List.prefix_cons_inj _ |>.mpr (List.takeWhile_prefix isDigit), fun c hc => ?_⟩
    rcases List.mem_cons.mp hc with rfl | hc
    · exact hdigit
    · exact List.mem_takeWhile_imp hc

/-- **An integer to the base 16 is read as itself only if it has one decimal digit.** -/
theorem parseNumber_hexadecimal {n : Int} (hhigh : n < 2 ^ 64) {rest rest' : List UInt8} (hrest : Delimited rest)
    (h : parseNumber (integerText true n ++ rest) = some (.integer n, rest')) : 0 ≤ n ∧ n ≤ 9 := by
  have htext : integerText true n = hexadecimal (n % 2 ^ 64).toNat := rfl
  have hne : (hexadecimal (n % 2 ^ 64).toNat ++ rest).head? ≠ some 45 := by
    obtain ⟨k, tail, hhead, hk, -⟩ := digitBytes_head (show 1 < 16 by decide) (n % 2 ^ 64).toNat
    rw [hexadecimal_eq, hhead, List.cons_append, List.head?_cons]
    have hminus : ∀ k, k < 16 → digitByte k ≠ 45 := by decide
    exact fun heq => hminus k hk (Option.some.inj heq)
  rw [htext, parseNumber, if_neg hne] at h
  obtain ⟨digits, hdigits, hn⟩ := parseUnsigned_eq_integer h
  obtain ⟨hfront, hall⟩ := parseDigits_hexadecimal hrest hdigits
  have hvalue := (decimalValue_of_prefixed hfront hall).2
  omega

end Json
end Lightstep.Common

import Mathlib.Algebra.Order.Ring.Nat
import Mathlib.Algebra.Ring.Int.Defs

/-! Base-128 varints.

The digits of a number to the base 128, least significant first, each in a byte
whose top bit says that another follows. A reader takes at most ten of them. -/
namespace Lightstep.Library

def varintBytes : Nat → Nat → List UInt8
  | 0, n => [n.toUInt8]
  | fuel + 1, n => if n < 128 then [n.toUInt8] else (n % 128 + 128).toUInt8 :: varintBytes fuel (n / 128)

/-- The shortest encoding of a number below `2 ^ 64`. -/
def varint (n : Nat) : List UInt8 := varintBytes 9 n

def varintSize (n : Nat) : Nat := (varint n).length

/-- The number read and the bytes after it. -/
def readVarint : Nat → List UInt8 → Option (Nat × List UInt8)
  | 0, _ => none
  | _, [] => none
  | fuel + 1, b :: rest =>
    if b.toNat < 128 then some (b.toNat, rest)
    else (readVarint fuel rest).map fun (n, rest) => (b.toNat % 128 + 128 * n, rest)

def parseVarint (input : List UInt8) : Option (Nat × List UInt8) := readVarint 10 input

theorem toNat_toUInt8 {n : Nat} (h : n < 256) : n.toUInt8.toNat = n := by
  simp only [Nat.toUInt8, UInt8.toNat_ofNat']
  omega

theorem readVarint_varintBytes (fuel n : Nat) (rest : List UInt8) (h : n < 128 ^ (fuel + 1)) :
    readVarint (fuel + 1) (varintBytes fuel n ++ rest) = some (n, rest) := by
  induction fuel generalizing n with
  | zero =>
    have hn : n < 128 := by simpa using h
    simp only [varintBytes, List.singleton_append, readVarint, toNat_toUInt8 (show n < 256 by omega), if_pos hn]
  | succ fuel ih =>
    by_cases hn : n < 128
    · simp only [varintBytes, if_pos hn, List.singleton_append, readVarint,
        toNat_toUInt8 (show n < 256 by omega)]
    · have hdiv : n / 128 < 128 ^ (fuel + 1) := by
        rw [Nat.pow_succ] at h
        exact Nat.div_lt_of_lt_mul (by rw [Nat.mul_comm]; exact h)
      have hbyte : (n % 128 + 128).toUInt8.toNat = n % 128 + 128 := toNat_toUInt8 (by omega)
      have hge : ¬ n % 128 + 128 < 128 := by omega
      simp only [varintBytes, if_neg hn, List.cons_append, readVarint, hbyte, if_neg hge, ih _ hdiv,
        Option.map_some]
      congr 2
      omega

/-- **A reader reads what was written**, and stops where it stopped. -/
theorem parseVarint_varint {n : Nat} (h : n < 2 ^ 64) (rest : List UInt8) :
    parseVarint (varint n ++ rest) = some (n, rest) := by
  refine readVarint_varintBytes 9 n rest ?_
  have hpow : (2 : Nat) ^ 64 ≤ 128 ^ 10 := by decide
  exact Nat.lt_of_lt_of_le h hpow

theorem varintBytes_length_pos (fuel n : Nat) : 0 < (varintBytes fuel n).length := by
  cases fuel with
  | zero => exact Nat.succ_pos _
  | succ fuel =>
    unfold varintBytes
    split
    · exact Nat.succ_pos _
    · exact Nat.succ_pos _

theorem varintBytes_length_le (fuel n : Nat) : (varintBytes fuel n).length ≤ fuel + 1 := by
  induction fuel generalizing n with
  | zero => exact Nat.le_refl _
  | succ fuel ih =>
    unfold varintBytes
    split
    · exact Nat.succ_le_succ (Nat.zero_le _)
    · exact Nat.succ_le_succ (ih _)

theorem varint_ne_nil (n : Nat) : varint n ≠ [] :=
  List.ne_nil_of_length_pos (varintBytes_length_pos 9 n)

theorem varintSize_le (n : Nat) : varintSize n ≤ 10 := varintBytes_length_le 9 n

/-! ### The shortest encoding -/

def varintValue : List UInt8 → Nat
  | [] => 0
  | b :: rest => b.toNat % 128 + 128 * varintValue rest

/-- The bytes of a number: all but the last say that another follows, and the last is not needless. -/
structure IsVarint (n : Nat) (bytes : List UInt8) : Prop where
  value : varintValue bytes = n
  continues : ∀ b ∈ bytes.dropLast, 128 ≤ b.toNat
  stops : ∃ last, bytes.getLast? = some last ∧ last.toNat < 128 ∧ (1 < bytes.length → last.toNat ≠ 0)

theorem varintValue_pos {bytes : List UInt8} {b : UInt8} (h : b ∈ bytes) (hb : b.toNat % 128 ≠ 0) :
    0 < varintValue bytes := by
  induction bytes with
  | nil => cases h
  | cons c rest ih =>
    rw [varintValue]
    rcases List.mem_cons.mp h with rfl | hrest
    · omega
    · have hpos := ih hrest
      omega

namespace IsVarint

theorem single {b : UInt8} (h : b.toNat < 128) : IsVarint b.toNat [b] where
  value := Nat.mod_eq_of_lt h
  continues := by simp
  stops := ⟨b, rfl, h, fun hlength => absurd hlength (by simp)⟩

theorem cons {n : Nat} {b : UInt8} {bytes : List UInt8} (h : IsVarint n bytes) (hn : 0 < n) (hb : 128 ≤ b.toNat) :
    IsVarint (b.toNat % 128 + 128 * n) (b :: bytes) := by
  obtain ⟨last, hlast, hlt, hne⟩ := h.stops
  have hbytes : bytes ≠ [] := by
    rintro rfl
    cases hlast
  refine ⟨by rw [varintValue, h.value], fun c hc => ?_, last, ?_, hlt, fun _ hzero => ?_⟩
  · rw [List.dropLast_cons_of_ne_nil hbytes] at hc
    rcases List.mem_cons.mp hc with rfl | hc
    · exact hb
    · exact h.continues c hc
  · rw [List.getLast?_cons, hlast]
    rfl
  · -- a last byte of 0 stands alone, and then the number is 0
    have hlength : ¬ 1 < bytes.length := fun hlength => hne hlength hzero
    cases bytes with
    | nil => exact hbytes rfl
    | cons c rest =>
      cases rest with
      | nil =>
        obtain rfl : c = last := Option.some.inj hlast
        have hvalue := h.value
        rw [varintValue, varintValue] at hvalue
        omega
      | cons d rest => exact hlength (Nat.succ_lt_succ (Nat.succ_pos _))

/-- A byte is the last, or it is followed by the bytes of what is left. -/
theorem uncons {n : Nat} {b : UInt8} {rest : List UInt8} (h : IsVarint n (b :: rest)) :
    (rest = [] ∧ n = b.toNat ∧ n < 128) ∨
      ∃ m, 0 < m ∧ IsVarint m rest ∧ 128 ≤ b.toNat ∧ n = b.toNat % 128 + 128 * m := by
  obtain ⟨hvalue, hcontinues, last, hlast, hlt, hne⟩ := h
  cases rest with
  | nil =>
    obtain rfl : b = last := Option.some.inj hlast
    rw [varintValue, varintValue] at hvalue
    exact .inl ⟨rfl, by omega, by omega⟩
  | cons c rest =>
    rw [List.getLast?_cons_cons] at hlast
    have hzero : last.toNat ≠ 0 := hne (Nat.succ_lt_succ (Nat.succ_pos _))
    have hpos : 0 < varintValue (c :: rest) := varintValue_pos (List.mem_of_getLast? hlast) (by omega)
    have hcontinues' : ∀ x ∈ (c :: rest).dropLast, 128 ≤ x.toNat := fun x hx =>
      hcontinues x (List.mem_cons_of_mem b hx)
    exact .inr ⟨_, hpos, ⟨rfl, hcontinues', last, hlast, hlt, fun _ => hzero⟩, hcontinues b (List.mem_cons_self ..),
      hvalue.symm⟩

theorem ne_nil {n : Nat} {bytes : List UInt8} (h : IsVarint n bytes) : bytes ≠ [] := by
  rintro rfl
  obtain ⟨last, hlast, -⟩ := h.stops
  cases hlast

/-- **A number has one shortest encoding.** -/
theorem unique {n : Nat} {a b : List UInt8} (ha : IsVarint n a) (hb : IsVarint n b) : a = b := by
  induction a generalizing n b with
  | nil => exact absurd rfl ha.ne_nil
  | cons x a ih =>
    cases b with
    | nil => exact absurd rfl hb.ne_nil
    | cons y b =>
      have hbyte : x.toNat = y.toNat → x = y := UInt8.toNat_inj.mp
      have hx := x.toNat_lt
      have hy := y.toNat_lt
      rcases ha.uncons with ⟨rfl, hxn, hlt⟩ | ⟨m, hm, ham, hx128, hxn⟩
      · rcases hb.uncons with ⟨rfl, hyn, -⟩ | ⟨k, hk, -, -, hyn⟩
        · rw [hbyte (hxn.symm.trans hyn)]
        · omega
      · rcases hb.uncons with ⟨rfl, -, hlt⟩ | ⟨k, hk, hbk, hy128, hyn⟩
        · omega
        · obtain rfl : m = k := by omega
          rw [hbyte (by omega), ih ham hbk]

/-- **As many bytes as the number needs.** -/
theorem length_le_iff {n k : Nat} {bytes : List UInt8} (h : IsVarint n bytes) (hk : 0 < k) :
    bytes.length ≤ k ↔ n < 128 ^ k := by
  induction bytes generalizing n k with
  | nil => exact absurd rfl h.ne_nil
  | cons b rest ih =>
    obtain ⟨k, rfl⟩ := Nat.exists_eq_succ_of_ne_zero (Nat.ne_of_gt hk)
    have hpos : 0 < 128 ^ k := Nat.pow_pos (by decide)
    rw [List.length_cons, Nat.succ_le_succ_iff, Nat.pow_succ]
    rcases h.uncons with ⟨rfl, -, hlt⟩ | ⟨m, hm, hrest, -, hn⟩
    · exact iff_of_true (Nat.zero_le k) (by omega)
    · cases k with
      | zero =>
        have hlength := List.length_pos_iff.mpr hrest.ne_nil
        exact iff_of_false (by omega) (by omega)
      | succ k =>
        rw [ih hrest (Nat.succ_pos k)]
        omega

end IsVarint

theorem isVarint_toUInt8 {n : Nat} (h : n < 128) : IsVarint n [n.toUInt8] := by
  have hbyte : n.toUInt8.toNat = n := toNat_toUInt8 (by omega)
  have hsingle := IsVarint.single (b := n.toUInt8) (by omega)
  rwa [hbyte] at hsingle

theorem isVarint_varintBytes {fuel n : Nat} (h : n < 128 ^ (fuel + 1)) : IsVarint n (varintBytes fuel n) := by
  induction fuel generalizing n with
  | zero => exact isVarint_toUInt8 h
  | succ fuel ih =>
    rw [varintBytes]
    split
    case isTrue hn => exact isVarint_toUInt8 hn
    case isFalse hn =>
      rw [Nat.pow_succ] at h
      have hbyte : (n % 128 + 128).toUInt8.toNat = n % 128 + 128 := toNat_toUInt8 (by omega)
      have hcons := (ih (n := n / 128) (by omega)).cons (b := (n % 128 + 128).toUInt8) (by omega) (by omega)
      rwa [hbyte, show (n % 128 + 128) % 128 + 128 * (n / 128) = n by omega] at hcons

theorem isVarint_varint {n : Nat} (h : n < 2 ^ 64) : IsVarint n (varint n) :=
  isVarint_varintBytes (Nat.lt_of_lt_of_le h (show 2 ^ 64 ≤ 128 ^ 10 by decide))

theorem varintSize_le_iff {n k : Nat} (h : n < 2 ^ 64) (hk : 0 < k) : varintSize n ≤ k ↔ n < 128 ^ k :=
  (isVarint_varint h).length_le_iff hk

end Lightstep.Library

import Mathlib.Data.Nat.Bitwise
import Lightstep.Common.Characters

/-! Base64.

The encoder goes through the bytes with the bits left over from the one before;
the decoder through groups of four characters. -/
namespace Lightstep.Common.Base64

def charTable : List UInt8 := ascii "ABCDEFGHIJKLMNOPQRSTUVWXYZabcdefghijklmnopqrstuvwxyz0123456789+/"

/-- 64 where the character stands for nothing. -/
def reverseLookupTable : List Nat :=
  [64, 64, 64, 64, 64, 64, 64, 64, 64, 64, 64, 64, 64, 64, 64, 64, 64, 64, 64, 64, 64, 64, 64, 64,
   64, 64, 64, 64, 64, 64, 64, 64, 64, 64, 64, 64, 64, 64, 64, 64, 64, 64, 64, 62, 64, 64, 64, 63,
   52, 53, 54, 55, 56, 57, 58, 59, 60, 61, 64, 64, 64, 64, 64, 64, 64, 0,  1,  2,  3,  4,  5,  6,
   7,  8,  9,  10, 11, 12, 13, 14, 15, 16, 17, 18, 19, 20, 21, 22, 23, 24, 25, 64, 64, 64, 64, 64,
   64, 26, 27, 28, 29, 30, 31, 32, 33, 34, 35, 36, 37, 38, 39, 40, 41, 42, 43, 44, 45, 46, 47, 48,
   49, 50, 51, 64, 64, 64, 64, 64, 64, 64, 64, 64, 64, 64, 64, 64, 64, 64, 64, 64, 64, 64, 64, 64,
   64, 64, 64, 64, 64, 64, 64, 64, 64, 64, 64, 64, 64, 64, 64, 64, 64, 64, 64, 64, 64, 64, 64, 64,
   64, 64, 64, 64, 64, 64, 64, 64, 64, 64, 64, 64, 64, 64, 64, 64, 64, 64, 64, 64, 64, 64, 64, 64,
   64, 64, 64, 64, 64, 64, 64, 64, 64, 64, 64, 64, 64, 64, 64, 64, 64, 64, 64, 64, 64, 64, 64, 64,
   64, 64, 64, 64, 64, 64, 64, 64, 64, 64, 64, 64, 64, 64, 64, 64, 64, 64, 64, 64, 64, 64, 64, 64,
   64, 64, 64, 64, 64, 64, 64, 64, 64, 64, 64, 64, 64, 64, 64, 64]

/-! ### Encoding -/

def sextetChar (n : Nat) : UInt8 := charTable.getD n 0

/-- The bits left over and the text so far, after the byte at `pos`. -/
def encodeBase (curChar pos : Nat) (nextC : Nat) (ret : List UInt8) : Nat × List UInt8 :=
  match pos % 3 with
  | 0 => ((curChar &&& 0x03) <<< 4, ret ++ [sextetChar (curChar >>> 2)])
  | 1 => ((curChar &&& 0x0f) <<< 2, ret ++ [sextetChar (nextC ||| curChar >>> 4)])
  | _ => (0, ret ++ [sextetChar (nextC ||| curChar >>> 6), sextetChar (curChar &&& 0x3f)])

def encodeLast (pos lastChar : Nat) (ret : List UInt8) : List UInt8 :=
  match pos % 3 with
  | 1 => ret ++ [sextetChar lastChar, 61, 61]
  | 2 => ret ++ [sextetChar lastChar, 61]
  | _ => ret

def encodeFrom : Nat → Nat → List UInt8 → List UInt8 → List UInt8
  | pos, nextC, ret, [] => encodeLast pos nextC ret
  | pos, nextC, ret, c :: rest =>
    let (nextC, ret) := encodeBase c.toNat pos nextC ret
    encodeFrom (pos + 1) nextC ret rest

def encode (input : List UInt8) : List UInt8 := encodeFrom 0 0 [] input

/-! ### Decoding -/

/-- What the table says of a character. A negative `char` becomes an index far outside of it. -/
def lookup (c : UInt8) : Option Nat :=
  reverseLookupTable[if c < 128 then c.toNat else 2 ^ 32 - 256 + c.toNat]?

/-- Decodes the groups from `curRead` on. Nothing comes back from an access outside of the table. -/
def decodeFrom (firstPaddingIndex : Nat) : Nat → List UInt8 → List UInt8 → Option (List UInt8)
  | _, result, [] => some result
  | curRead, result, c₀ :: c₁ :: c₂ :: c₃ :: rest => do
    let a ← lookup c₀
    let b ← lookup c₁
    if a = 64 ∨ b = 64 then return []
    let result := result ++ [(a <<< 2 ||| b >>> 4).toUInt8]
    let c ← lookup c₂
    if c = 64 then
      if firstPaddingIndex ≠ curRead + 2 then return []
      else if b &&& 0x0f ≠ 0 then return []
      else return result
    else
      let result := result ++ [(b <<< 4 ||| c >>> 2).toUInt8]
      let d ← lookup c₃
      if d = 64 then
        if firstPaddingIndex ≠ curRead + 3 then return []
        else if c &&& 0x03 ≠ 0 then return []
        else return result
      else decodeFrom firstPaddingIndex (curRead + 4) (result ++ [(c <<< 6 ||| d).toUInt8]) rest
  | _, result, _ => some result

def firstPaddingIndex (input : List UInt8) : Nat :=
  if input[input.length - 1]? = some 61 then
    if input[input.length - 2]? = some 61 then input.length - 2 else input.length - 1
  else input.length

def decode (input : List UInt8) : Option (List UInt8) :=
  if input.length % 4 ≠ 0 ∨ input.length = 0 then some []
  else decodeFrom (firstPaddingIndex input) 0 [] input

/-! ### What is encoded is decoded -/

theorem lookup_sextetChar {n : Nat} (h : n < 64) : lookup (sextetChar n) = some n := by
  revert n
  decide +kernel

theorem sextetChar_ne_padding {n : Nat} (h : n < 64) : sextetChar n ≠ 61 := by
  revert n
  decide

/-- The bits a sextet takes from one byte and from the next. -/
theorem shiftLeft_or_eq {i n : Nat} (m : Nat) (h : n < 2 ^ i) : m <<< i ||| n = m * 2 ^ i + n := by
  rw [← Nat.shiftLeft_add_eq_or_of_lt h, Nat.shiftLeft_eq]

theorem sextets_of_bytes (a : Nat) {b c : Nat} (hb : b < 256) (hc : c < 256) :
    a >>> 2 = a / 4 ∧ (a &&& 0x03) <<< 4 ||| b >>> 4 = a % 4 * 16 + b / 16 ∧
      (b &&& 0x0f) <<< 2 ||| c >>> 6 = b % 16 * 4 + c / 64 ∧ c &&& 0x3f = c % 64 := by
  have hand : ∀ n, n &&& 0x03 = n % 4 := fun n => Nat.and_two_pow_sub_one_eq_mod n 2
  have hand' : ∀ n, n &&& 0x0f = n % 16 := fun n => Nat.and_two_pow_sub_one_eq_mod n 4
  have hb' : b >>> 4 < 2 ^ 4 := by rw [Nat.shiftRight_eq_div_pow]; omega
  have hc' : c >>> 6 < 2 ^ 2 := by rw [Nat.shiftRight_eq_div_pow]; omega
  refine ⟨Nat.shiftRight_eq_div_pow a 2, ?_, ?_, Nat.and_two_pow_sub_one_eq_mod c 6⟩
  · rw [shiftLeft_or_eq _ hb', hand]
    exact congrArg (a % 4 * 16 + ·) (Nat.shiftRight_eq_div_pow b 4)
  · rw [shiftLeft_or_eq _ hc', hand']
    exact congrArg (b % 16 * 4 + ·) (Nat.shiftRight_eq_div_pow c 6)

theorem byte_of_sextets {i j m n : Nat} (h : n >>> j < 2 ^ i) {byte : UInt8}
    (hbyte : (m * 2 ^ i + n / 2 ^ j) % 256 = byte.toNat) : (m <<< i ||| n >>> j).toUInt8 = byte := by
  rw [shiftLeft_or_eq _ h, Nat.shiftRight_eq_div_pow]
  apply UInt8.toNat_inj.mp
  rw [← hbyte, Nat.toUInt8, UInt8.toNat_ofNat']

/-- The text of the bytes, in groups. -/
def groups : List UInt8 → List UInt8
  | [] => []
  | [a] => [sextetChar (a.toNat / 4), sextetChar (a.toNat % 4 * 16), 61, 61]
  | [a, b] =>
    [sextetChar (a.toNat / 4), sextetChar (a.toNat % 4 * 16 + b.toNat / 16), sextetChar (b.toNat % 16 * 4), 61]
  | a :: b :: c :: rest =>
    sextetChar (a.toNat / 4) :: sextetChar (a.toNat % 4 * 16 + b.toNat / 16) ::
      sextetChar (b.toNat % 16 * 4 + c.toNat / 64) :: sextetChar (c.toNat % 64) :: groups rest

theorem encodeFrom_eq {pos : Nat} (hpos : pos % 3 = 0) (ret input : List UInt8) :
    encodeFrom pos 0 ret input = ret ++ groups input := by
  induction input using groups.induct generalizing pos ret with
  | case1 => simp [encodeFrom, encodeLast, hpos, groups]
  | case2 a =>
    have hnext : (pos + 1) % 3 = 1 := by omega
    obtain ⟨h₀, h₁, -, -⟩ := sextets_of_bytes a.toNat (show 0 < 256 by decide) (show 0 < 256 by decide)
    have h₁ : (a.toNat &&& 0x03) <<< 4 = a.toNat % 4 * 16 := by simpa using h₁
    simp only [encodeFrom, encodeBase, encodeLast, hpos, hnext, h₀, h₁, groups, List.append_assoc,
      List.singleton_append]
  | case3 a b =>
    have hnext : (pos + 1) % 3 = 1 := by omega
    have hlast : (pos + 1 + 1) % 3 = 2 := by omega
    obtain ⟨h₀, h₁, h₂, -⟩ := sextets_of_bytes a.toNat b.toNat_lt (show 0 < 256 by decide)
    have h₂ : (b.toNat &&& 0x0f) <<< 2 = b.toNat % 16 * 4 := by simpa using h₂
    simp only [encodeFrom, encodeBase, encodeLast, hpos, hnext, hlast, h₀, h₁, h₂, groups, List.append_assoc,
      List.cons_append, List.nil_append]
  | case4 a b c rest ih =>
    have hnext : (pos + 1) % 3 = 1 := by omega
    have hlast : (pos + 1 + 1) % 3 = 2 := by omega
    obtain ⟨h₀, h₁, h₂, h₃⟩ := sextets_of_bytes a.toNat b.toNat_lt c.toNat_lt
    have hrest := @ih (pos + 1 + 1 + 1) (by omega)
    simp only [encodeFrom, encodeBase, hpos, hnext, hlast, h₀, h₁, h₂, h₃, groups]
    rw [hrest]
    simp only [List.append_assoc, List.cons_append, List.nil_append]

theorem encode_eq_groups (input : List UInt8) : encode input = groups input := encodeFrom_eq rfl [] input

/-- Where the padding begins, or would. -/
def paddingAt : List UInt8 → Nat
  | [] => 0
  | [_] => 2
  | [_, _] => 3
  | _ :: _ :: _ :: rest => 4 + paddingAt rest

theorem length_groups_mod (input : List UInt8) : (groups input).length % 4 = 0 := by
  induction input using groups.induct with
  | case4 a b c rest ih => simp only [groups, List.length_cons]; omega
  | _ => simp [groups]

theorem groups_ne_nil {input : List UInt8} (h : input ≠ []) : groups input ≠ [] := by
  cases input using groups.induct <;> simp_all [groups]

theorem firstPaddingIndex_append (a : List UInt8) {b : List UInt8} (h : 2 ≤ b.length) :
    firstPaddingIndex (a ++ b) = a.length + firstPaddingIndex b := by
  have hget : ∀ k, 0 < k → k ≤ 2 → (a ++ b)[(a ++ b).length - k]? = b[b.length - k]? := by
    intro k hpos hk
    rw [List.length_append, List.getElem?_append_right (by omega)]
    congr 1
    omega
  unfold firstPaddingIndex
  rw [hget 1 (by decide) (by decide), hget 2 (by decide) (by decide), List.length_append]
  split
  · split <;> omega
  · rfl

theorem firstPaddingIndex_groups (input : List UInt8) : firstPaddingIndex (groups input) = paddingAt input := by
  induction input using groups.induct with
  | case1 => rfl
  | case2 a => rfl
  | case3 a b =>
    have hlt : b.toNat % 16 * 4 < 64 := by omega
    simp [groups, firstPaddingIndex, paddingAt, sextetChar_ne_padding hlt]
  | case4 a b c rest ih =>
    have hlt : c.toNat % 64 < 64 := Nat.mod_lt _ (by decide)
    by_cases hrest : rest = []
    · subst hrest
      simp [groups, firstPaddingIndex, paddingAt, sextetChar_ne_padding hlt]
    · have hlength : 2 ≤ (groups rest).length := by
        have hmod := length_groups_mod rest
        have hpos := List.length_pos_iff.mpr (groups_ne_nil hrest)
        omega
      exact (firstPaddingIndex_append [_, _, _, _] hlength).trans (congrArg (4 + ·) ih)

theorem bytes_of_sextets (a b c : UInt8) :
    ((a.toNat / 4) <<< 2 ||| (a.toNat % 4 * 16 + b.toNat / 16) >>> 4).toUInt8 = a ∧
      ((a.toNat % 4 * 16 + b.toNat / 16) <<< 4 ||| (b.toNat % 16 * 4 + c.toNat / 64) >>> 2).toUInt8 = b ∧
      ((b.toNat % 16 * 4 + c.toNat / 64) <<< 6 ||| c.toNat % 64).toUInt8 = c := by
  have ha := a.toNat_lt
  have hb := b.toNat_lt
  have hc := c.toNat_lt
  refine ⟨byte_of_sextets (i := 2) (j := 4) ?_ (by omega), byte_of_sextets (i := 4) (j := 2) ?_ (by omega),
    byte_of_sextets (i := 6) (j := 0) (n := c.toNat % 64) ?_ (by omega)⟩ <;> rw [Nat.shiftRight_eq_div_pow] <;> omega

theorem decodeFrom_groups (curRead : Nat) (result input : List UInt8) :
    decodeFrom (curRead + paddingAt input) curRead result (groups input) = some (result ++ input) := by
  have hpadding : lookup 61 = some 64 := by decide
  have hsextet : ∀ {n}, n < 64 → (n = 64) = False := fun h => eq_false (Nat.ne_of_lt h)
  induction input using groups.induct generalizing curRead result with
  | case1 => rw [groups, decodeFrom, List.append_nil]
  | case2 a =>
    obtain ⟨ha, -, -⟩ := bytes_of_sextets a 0 0
    have ha : ((a.toNat / 4) <<< 2 ||| (a.toNat % 4 * 16) >>> 4).toUInt8 = a := ha
    have h₀ : a.toNat / 4 < 64 := by have := a.toNat_lt; omega
    have h₁ : a.toNat % 4 * 16 < 64 := by omega
    have hunused : (a.toNat % 4 * 16) &&& 0x0f = 0 := by
      rw [Nat.and_two_pow_sub_one_eq_mod _ 4]
      omega
    simp only [groups, decodeFrom, paddingAt, Option.bind_eq_bind, Option.bind_some, lookup_sextetChar h₀,
      lookup_sextetChar h₁, hpadding, hsextet h₀, hsextet h₁, ha, hunused, or_self, ne_eq, not_true_eq_false,
      if_true, if_false]
    rfl
  | case3 a b =>
    obtain ⟨ha, hb, -⟩ := bytes_of_sextets a b 0
    have hb : ((a.toNat % 4 * 16 + b.toNat / 16) <<< 4 ||| (b.toNat % 16 * 4) >>> 2).toUInt8 = b := hb
    have h₀ : a.toNat / 4 < 64 := by have := a.toNat_lt; omega
    have h₁ : a.toNat % 4 * 16 + b.toNat / 16 < 64 := by have := b.toNat_lt; omega
    have h₂ : b.toNat % 16 * 4 < 64 := by omega
    have hunused : (b.toNat % 16 * 4) &&& 0x03 = 0 := by
      rw [Nat.and_two_pow_sub_one_eq_mod _ 2]
      omega
    simp only [groups, decodeFrom, paddingAt, Option.bind_eq_bind, Option.bind_some, lookup_sextetChar h₀,
      lookup_sextetChar h₁, lookup_sextetChar h₂, hpadding, hsextet h₀, hsextet h₁, hsextet h₂, ha, hb, hunused,
      or_self, ne_eq, not_true_eq_false, if_true, if_false, List.append_assoc, List.singleton_append]
    rfl
  | case4 a b c rest ih =>
    obtain ⟨ha, hb, hc⟩ := bytes_of_sextets a b c
    have h₀ : a.toNat / 4 < 64 := by have := a.toNat_lt; omega
    have h₁ : a.toNat % 4 * 16 + b.toNat / 16 < 64 := by have := b.toNat_lt; omega
    have h₂ : b.toNat % 16 * 4 + c.toNat / 64 < 64 := by have := c.toNat_lt; omega
    have h₃ : c.toNat % 64 < 64 := Nat.mod_lt _ (by decide)
    have hrest := ih (curRead + 4) (result ++ [a] ++ [b] ++ [c])
    simp only [groups, decodeFrom, paddingAt, Option.bind_eq_bind, Option.bind_some, lookup_sextetChar h₀,
      lookup_sextetChar h₁, lookup_sextetChar h₂, lookup_sextetChar h₃, hsextet h₀, hsextet h₁, hsextet h₂,
      hsextet h₃, ha, hb, hc, or_self, if_false]
    rw [← Nat.add_assoc, hrest]
    simp only [List.append_assoc, List.cons_append, List.nil_append]

/-- **Decoding undoes encoding.** -/
theorem decode_encode (input : List UInt8) : decode (encode input) = some input := by
  rw [encode_eq_groups, decode]
  by_cases hinput : input = []
  · subst hinput
    rfl
  · have hlength := List.length_pos_iff.mpr (groups_ne_nil hinput)
    have hmod := length_groups_mod input
    have hnot : ¬ ((groups input).length % 4 ≠ 0 ∨ (groups input).length = 0) := by omega
    have hdecode := decodeFrom_groups 0 [] input
    rw [Nat.zero_add, List.nil_append] at hdecode
    rw [if_neg hnot, firstPaddingIndex_groups, hdecode]

end Lightstep.Common.Base64

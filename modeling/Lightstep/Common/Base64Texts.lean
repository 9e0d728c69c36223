import Lightstep.Common.Base64

/-! The texts that are decoded.

No two texts stand for the same bytes: a text that is decoded to any bytes is what these are
encoded to, with the padding where it belongs and no bits left over. -/
namespace Lightstep.Common.Base64

/-- The characters that stand for sextets. -/
theorem sextetChar_of_lookup {c : UInt8} {n : Nat} (h : lookup c = some n) (hn : n ≠ 64) :
    n < 64 ∧ sextetChar n = c := by
  have htable : ∀ k < 256, (lookup (UInt8.ofNat k)).all fun n =>
      n == 64 || (decide (n < 64) && sextetChar n == UInt8.ofNat k) := by
    decide +kernel
  have hc := htable c.toNat c.toNat_lt
  rw [UInt8.ofNat_toNat, h] at hc
  simpa [hn] using hc

theorem lookup_isSome {c : UInt8} (h : c < 128) : (lookup c).isSome = true := by
  have htable : ∀ k < 128, (lookup (UInt8.ofNat k)).isSome = true := by decide +kernel
  have hc := htable c.toNat h
  rwa [UInt8.ofNat_toNat] at hc

/-- The bytes of sextets, and what these are of the bytes. -/
theorem sextets_of_decoded {a b c d : Nat} (ha : a < 64) (hb : b < 64) (hc : c < 64) (hd : d < 64) :
    (a <<< 2 ||| b >>> 4).toUInt8.toNat = a * 4 + b / 16 ∧
      (b <<< 4 ||| c >>> 2).toUInt8.toNat = b % 16 * 16 + c / 4 ∧
      (c <<< 6 ||| d).toUInt8.toNat = c % 4 * 64 + d := by
  have hshift : ∀ n k, n >>> k = n / 2 ^ k := Nat.shiftRight_eq_div_pow
  have hb' : b >>> 4 < 2 ^ 2 := by rw [hshift]; omega
  have hc' : c >>> 2 < 2 ^ 4 := by rw [hshift]; omega
  rw [shiftLeft_or_eq _ hb', shiftLeft_or_eq _ hc', shiftLeft_or_eq _ hd, hshift, hshift]
  simp only [Nat.toUInt8, UInt8.toNat_ofNat']
  omega

/-! Groups, by their sextets. -/

section
variable {a b c d : Nat} (ha : a < 64) (hb : b < 64) (hc : c < 64) (hd : d < 64)
include ha hb

theorem group_of_byte (hunused : b &&& 0x0f = 0) :
    [sextetChar a, sextetChar b, 61, 61] = groups [(a <<< 2 ||| b >>> 4).toUInt8] := by
  rw [Nat.and_two_pow_sub_one_eq_mod b 4] at hunused
  obtain ⟨hx, -, -⟩ := sextets_of_decoded ha hb hb hb
  have h₀ : (a * 4 + b / 16) / 4 = a := by omega
  have h₁ : (a * 4 + b / 16) % 4 * 16 = b := by omega
  rw [groups, hx, h₀, h₁]

include hc

theorem group_of_two_bytes (hunused : c &&& 0x03 = 0) : [sextetChar a, sextetChar b, sextetChar c, 61] =
    groups [(a <<< 2 ||| b >>> 4).toUInt8, (b <<< 4 ||| c >>> 2).toUInt8] := by
  rw [Nat.and_two_pow_sub_one_eq_mod c 2] at hunused
  obtain ⟨hx, hy, -⟩ := sextets_of_decoded ha hb hc hb
  have h₀ : (a * 4 + b / 16) / 4 = a := by omega
  have h₁ : (a * 4 + b / 16) % 4 * 16 + (b % 16 * 16 + c / 4) / 16 = b := by omega
  have h₂ : (b % 16 * 16 + c / 4) % 16 * 4 = c := by omega
  rw [groups, hx, hy, h₀, h₁, h₂]

include hd

theorem group_of_three_bytes (bytes : List UInt8) :
    sextetChar a :: sextetChar b :: sextetChar c :: sextetChar d :: groups bytes =
      groups ((a <<< 2 ||| b >>> 4).toUInt8 :: (b <<< 4 ||| c >>> 2).toUInt8 :: (c <<< 6 ||| d).toUInt8 :: bytes) := by
  obtain ⟨hx, hy, hz⟩ := sextets_of_decoded ha hb hc hd
  have h₀ : (a * 4 + b / 16) / 4 = a := by omega
  have h₁ : (a * 4 + b / 16) % 4 * 16 + (b % 16 * 16 + c / 4) / 16 = b := by omega
  have h₂ : (b % 16 * 16 + c / 4) % 16 * 4 + (c % 4 * 64 + d) / 64 = c := by omega
  have h₃ : (c % 4 * 64 + d) % 64 = d := by omega
  rw [groups, hx, hy, hz, h₀, h₁, h₂, h₃]

end

/-- Where the padding of a text begins, by its first group. -/
theorem firstPaddingIndex_cons {c₀ c₁ c₂ c₃ : UInt8} {rest : List UInt8} (hrest : rest.length % 4 = 0) :
    firstPaddingIndex (c₀ :: c₁ :: c₂ :: c₃ :: rest) =
      if rest = [] then if c₃ = 61 then if c₂ = 61 then 2 else 3 else 4 else 4 + firstPaddingIndex rest := by
  by_cases hnil : rest = []
  · subst hnil
    simp [firstPaddingIndex]
  · have hpos := List.length_pos_iff.mpr hnil
    rw [if_neg hnil]
    exact firstPaddingIndex_append [c₀, c₁, c₂, c₃] (by omega)

/-- What decoding from a group on gives, if it gives anything, is what the text from there on encodes. -/
theorem groups_of_decodeFrom {n curRead : Nat} {result text out : List UInt8} (hlength : text.length = 4 * n)
    {padding : Nat} (hpadding : text ≠ [] → padding = curRead + firstPaddingIndex text)
    (h : decodeFrom padding curRead result text = some out) :
    out = [] ∨ ∃ bytes, out = result ++ bytes ∧ text = groups bytes := by
  induction n generalizing curRead result text with
  | zero =>
    obtain rfl := List.length_eq_zero_iff.mp hlength
    cases h
    exact .inr ⟨[], (List.append_nil _).symm, rfl⟩
  | succ n ih =>
    obtain ⟨c₀, c₁, c₂, c₃, rest, rfl⟩ : ∃ c₀ c₁ c₂ c₃ rest, text = c₀ :: c₁ :: c₂ :: c₃ :: rest := by
      match text, hlength with
      | c₀ :: c₁ :: c₂ :: c₃ :: rest, _ => exact ⟨c₀, c₁, c₂, c₃, rest, rfl⟩
    have hrest : rest.length = 4 * n := by
      simp only [List.length_cons] at hlength
      omega
    have hfirst := hpadding (List.cons_ne_nil _ _)
    rw [firstPaddingIndex_cons (by omega)] at hfirst
    clear hpadding hlength
    simp only [decodeFrom, Option.bind_eq_bind] at h
    obtain ⟨a, hlookupA, hfromA⟩ := Option.bind_eq_some_iff.mp h
    obtain ⟨b, hlookupB, hfromB⟩ := Option.bind_eq_some_iff.mp hfromA
    clear h hfromA
    by_cases hab : a = 64 ∨ b = 64
    · rw [if_pos hab] at hfromB
      cases hfromB
      exact .inl rfl
    · rw [if_neg hab] at hfromB
      rw [not_or] at hab
      obtain ⟨c, hlookupC, hfromC⟩ := Option.bind_eq_some_iff.mp hfromB
      clear hfromB
      obtain ⟨ha, rfl⟩ := sextetChar_of_lookup hlookupA hab.1
      obtain ⟨hb, rfl⟩ := sextetChar_of_lookup hlookupB hab.2
      by_cases hc64 : c = 64
      · -- the second sextet is the last one
        rw [if_pos hc64] at hfromC
        split at hfromC
        · cases hfromC
          exact .inl rfl
        · rename_i hplace
          split at hfromC
          · cases hfromC
            exact .inl rfl
          · rename_i hunused
            cases hfromC
            obtain ⟨rfl, rfl, rfl⟩ : rest = [] ∧ c₂ = 61 ∧ c₃ = 61 := by
              rw [hfirst] at hplace
              grind
            refine .inr ⟨[_], rfl, ?_⟩
            rw [← group_of_byte ha hb (not_not.mp hunused)]
      · rw [if_neg hc64] at hfromC
        obtain ⟨d, hlookupD, hfromD⟩ := Option.bind_eq_some_iff.mp hfromC
        clear hfromC
        obtain ⟨hc, rfl⟩ := sextetChar_of_lookup hlookupC hc64
        by_cases hd64 : d = 64
        · -- the third sextet is the last one
          rw [if_pos hd64] at hfromD
          split at hfromD
          · cases hfromD
            exact .inl rfl
          · rename_i hplace
            split at hfromD
            · cases hfromD
              exact .inl rfl
            · rename_i hunused
              cases hfromD
              obtain ⟨rfl, rfl⟩ : rest = [] ∧ c₃ = 61 := by
                rw [hfirst] at hplace
                grind
              refine .inr ⟨[_, _], List.append_assoc .., ?_⟩
              rw [← group_of_two_bytes ha hb hc (not_not.mp hunused)]
        · rw [if_neg hd64] at hfromD
          obtain ⟨hd, rfl⟩ := sextetChar_of_lookup hlookupD hd64
          have hnext : rest ≠ [] → padding = curRead + 4 + firstPaddingIndex rest := by
            intro hnil
            rw [if_neg hnil] at hfirst
            omega
          obtain rfl | ⟨bytes, rfl, rfl⟩ := ih hrest hnext hfromD
          · exact .inl rfl
          · refine .inr ⟨_ :: _ :: _ :: bytes, ?_, group_of_three_bytes ha hb hc hd bytes⟩
            simp only [List.append_assoc, List.cons_append, List.nil_append]

/-- A text of characters that are in the table is decoded to something. -/
theorem decodeFrom_isSome {padding : Nat} : ∀ {curRead : Nat} {result : List UInt8} (text : List UInt8),
    (∀ c ∈ text, c < 128) → (decodeFrom padding curRead result text).isSome = true
  | _, _, c₀ :: c₁ :: c₂ :: c₃ :: rest, h => by
    simp only [List.mem_cons, forall_eq_or_imp] at h
    obtain ⟨h₀, h₁, h₂, h₃, hrest⟩ := h
    obtain ⟨a, ha⟩ := Option.isSome_iff_exists.mp (lookup_isSome h₀)
    obtain ⟨b, hb⟩ := Option.isSome_iff_exists.mp (lookup_isSome h₁)
    obtain ⟨c, hc⟩ := Option.isSome_iff_exists.mp (lookup_isSome h₂)
    obtain ⟨d, hd⟩ := Option.isSome_iff_exists.mp (lookup_isSome h₃)
    simp only [decodeFrom, ha, hb, hc, hd, Option.bind_eq_bind, Option.bind_some]
    split
    · rfl
    · split
      · split
        · rfl
        · split <;> rfl
      · split
        · split
          · rfl
          · split <;> rfl
        · exact decodeFrom_isSome rest hrest
  | _, _, [], _ => rfl
  | _, _, [_], _ => rfl
  | _, _, [_, _], _ => rfl
  | _, _, [_, _, _], _ => rfl

/-- **A text is decoded to bytes exactly if it is what these are encoded to**, and any other that has no characters
outside of ASCII to nothing. -/
theorem decode_iff_encode (text : List UInt8) :
    (∀ bytes, decode text = some bytes ∧ bytes ≠ [] ↔ encode bytes = text ∧ bytes ≠ []) ∧
      ((∀ c ∈ text, c < 128) → (∀ bytes, encode bytes ≠ text) → decode text = some []) := by
  have honly : ∀ bytes, decode text = some bytes → bytes ≠ [] → encode bytes = text := by
    intro bytes hdecode hbytes
    unfold decode at hdecode
    split at hdecode
    · cases hdecode
      exact absurd rfl hbytes
    · rename_i hlength
      have hdecodeFrom : decodeFrom (0 + firstPaddingIndex text) 0 [] text = some bytes := by
        rw [Nat.zero_add]
        exact hdecode
      obtain rfl | ⟨decoded, heq, rfl⟩ :=
        groups_of_decodeFrom (n := text.length / 4) (by omega) (fun _ => rfl) hdecodeFrom
      · exact absurd rfl hbytes
      · rw [heq]
        exact encode_eq_groups decoded
  refine ⟨fun bytes => ⟨fun h => ⟨honly bytes h.1 h.2, h.2⟩, ?_⟩, fun hascii hnot => ?_⟩
  · rintro ⟨rfl, hbytes⟩
    exact ⟨decode_encode bytes, hbytes⟩
  · have hsome : (decode text).isSome = true := by
      unfold decode
      split
      · rfl
      · exact decodeFrom_isSome text hascii
    obtain ⟨bytes, hdecode⟩ := Option.isSome_iff_exists.mp hsome
    by_cases hbytes : bytes = []
    · rw [hdecode, hbytes]
    · exact absurd (honly bytes hdecode hbytes) (hnot bytes)

end Lightstep.Common.Base64

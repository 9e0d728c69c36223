import Lightstep.Common.ChunkHeader
import Lightstep.Recorder.ConnectionStream
import Lightstep.Recorder.SpanFraming

/-! The two writers of chunk headers and the one reader.

One writes eight digits in lower case, the other as few as it takes in upper case. -/
namespace Lightstep.Recorder
open Library Common LawfulZeroCopyInputStream

theorem length_hexDigits_le (digit : Nat → UInt8) (fuel n : Nat) : (hexDigits digit fuel n).length ≤ fuel + 1 := by
  induction fuel generalizing n with
  | zero => exact Nat.le_refl 1
  | succ fuel ih =>
    rw [hexDigits]
    split
    · exact Nat.succ_le_succ (Nat.zero_le _)
    · rw [List.length_append]
      exact Nat.succ_le_succ (ih _)

theorem hexDigits_ne_nil (digit : Nat → UInt8) (fuel n : Nat) : hexDigits digit fuel n ≠ [] := by
  cases fuel with
  | zero => exact List.cons_ne_nil _ _
  | succ fuel =>
    rw [hexDigits]
    split
    · exact List.cons_ne_nil _ _
    · simp

/-- Digits end before a carriage return. -/
theorem not_mem_of_readHex {n v : Nat} {ds : List UInt8} (h : readHex n ds = some v) : 13 ∉ ds :=
  fun hmem => absurd (digits_of_readHex h 13 hmem) (by decide)

theorem readChunkHeader_of_readHex {σ : Type} [LawfulZeroCopyInputStream UInt8 σ] {s : σ} {digits rest : List UInt8}
    {v : Nat} (hne : digits ≠ []) (hlength : digits.length ≤ num64BitHexDigits) (hread : readHex 0 digits = some v)
    (hv : v < 2 ^ 64) (hunread : unread s = digits ++ 13 :: 10 :: rest) :
    ∃ t, readChunkHeader s = .read t v.toUInt64 ∧ unread t = rest :=
  readChunkHeaderFrom_of_unread (Nat.le_refl _) hunread (not_mem_of_readHex hread) hlength
    (hexToUint64_of_readHex hne hread hv)

theorem readChunkHeader_chunkHeader {σ : Type} [LawfulZeroCopyInputStream UInt8 σ] {s : σ} {rest : List UInt8}
    (chunkSize : UInt32) (hunread : unread s = chunkHeader chunkSize.toNat ++ rest) :
    ∃ t, readChunkHeader s = .read t chunkSize.toUInt64 ∧ unread t = rest := by
  have hread : readHex 0 (uint32ToHex chunkSize) = some chunkSize.toNat := by
    rw [uint32ToHex, readHex_uintToHex chunkSize.toNat_lt, Nat.zero_mul, Nat.zero_add]
  have hlength : (uint32ToHex chunkSize).length = 8 := length_uintToHex 4 _
  have hne : uint32ToHex chunkSize ≠ [] := List.ne_nil_of_length_pos (by rw [hlength]; decide)
  have hlt : chunkSize.toNat < 2 ^ 64 := Nat.lt_trans chunkSize.toNat_lt (by decide)
  have hvalue : chunkSize.toNat.toUInt64 = chunkSize.toUInt64 :=
    UInt64.toNat_inj.mp (UInt64.toNat_ofNat_of_lt' hlt)
  rw [chunkHeader, Nat.toUInt32, UInt32.ofNat_toNat, List.append_assoc] at hunread
  rw [← hvalue]
  exact readChunkHeader_of_readHex hne (by rw [hlength]; decide) hread hlt hunread

theorem readChunkHeader_writeChunkHeader {σ : Type} [LawfulZeroCopyInputStream UInt8 σ] {s : σ} {rest : List UInt8}
    {chunkSize : Nat} (h : chunkSize < 2 ^ 31) (hunread : unread s = writeChunkHeader chunkSize ++ rest) :
    ∃ t, readChunkHeader s = .read t chunkSize.toUInt64 ∧ unread t = rest := by
  have hread : readHex 0 (hexDigits upperDigit 15 chunkSize) = some chunkSize :=
    readHex_hexDigits upperDigit_readsBack 15 chunkSize (Nat.lt_trans h (by decide))
  have heol : endOfLineFragment = [13, 10] := by decide
  rw [writeChunkHeader, heol, List.append_assoc] at hunread
  exact readChunkHeader_of_readHex (hexDigits_ne_nil _ _ _) (length_hexDigits_le ..) hread (Nat.lt_trans h (by decide))
    hunread

/-- **The reader inverts both writers** whatever blocks the header comes in and whatever comes after it, and on no
input stores a digit outside of its buffer. -/
theorem readChunkHeader_inverts {σ : Type} [LawfulZeroCopyInputStream UInt8 σ] (s : σ) (rest : List UInt8) :
    (∀ chunkSize : UInt32, unread s = chunkHeader chunkSize.toNat ++ rest →
      ∃ t, readChunkHeader s = .read t chunkSize.toUInt64 ∧ unread t = rest) ∧
    (∀ chunkSize : Nat, chunkSize < 2 ^ 31 → unread s = writeChunkHeader chunkSize ++ rest →
      ∃ t, readChunkHeader s = .read t chunkSize.toUInt64 ∧ unread t = rest) ∧
    readChunkHeader s ≠ .overrun :=
  ⟨fun chunkSize => readChunkHeader_chunkHeader chunkSize, fun _ => readChunkHeader_writeChunkHeader,
    readChunkHeaderFrom_ne_overrun _ _ s⟩

/-- The end of the line is cut in two, and a byte follows it. -/
example : (match readChunkHeader (Blocks.ofBlocks [[49], [], [65, 13], [10, 7]]) with
    | .read t chunkSize => some (chunkSize, unread t)
    | _ => none) = some (26, [7]) := by decide

end Lightstep.Recorder

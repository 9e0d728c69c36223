import Lightstep.Library.ZeroCopyInputStream
import Lightstep.Common.HexDigits

/-! Reading the header of a chunk.

Digits are put into a buffer, block by block, up to a carriage return; the stream is then put back to it and
passes over the end of the line. -/
namespace Lightstep.Common
open Library ZeroCopyInputStream LawfulZeroCopyInputStream

/-- What becomes of the digits in a block. -/
inductive BlockScan where
  | carriageReturn (digits : List UInt8) (i : Nat)
  | tooLong
  | exhausted (digits : List UInt8)
  | overrun

/-- Stores a digit behind those in the buffer, if that has a place for it. -/
def storeDigit (digits : List UInt8) (c : UInt8) : Option (List UInt8) :=
  if digits.length < num64BitHexDigits then some (digits ++ [c]) else none

/-- The loop over a block, from a position on. -/
def scanBlock : List UInt8 → Nat → List UInt8 → BlockScan
  | digits, _, [] => .exhausted digits
  | digits, i, c :: rest =>
    if c = 13 then .carriageReturn digits i
    else if digits.length ≥ num64BitHexDigits then .tooLong
    else
      match storeDigit digits c with
      | none => .overrun
      | some digits => scanBlock digits (i + 1) rest

/-- `overrun` is none of the source's: it stands for a digit stored outside of the buffer. -/
inductive ChunkHeader (σ : Type) where
  | read (stream : σ) (chunkSize : UInt64)
  | invalid (stream : σ)
  | overrun

section
variable {σ : Type}

/-- At a carriage return: the size, and the stream put back and moved on past the end of the line. -/
def readSize [ZeroCopyInputStream UInt8 σ] (digits : List UInt8) (count : Nat) (s : σ) : ChunkHeader σ :=
  match hexToUint64 digits with
  | .error _ => .invalid s
  | .ok chunkSize =>
    match skip 2 (backUp count s) with
    | (s, true) => .read s chunkSize
    | (s, false) => .invalid s

/-- The loop over the blocks, as many as there are at most. -/
def readChunkHeaderFrom [ZeroCopyInputStream UInt8 σ] : Nat → List UInt8 → σ → ChunkHeader σ
  | 0, _, s => .invalid s
  | count + 1, digits, s =>
    match next s with
    | none => .invalid s
    | some (block, s) =>
      match scanBlock digits 0 block with
      | .overrun => .overrun
      | .tooLong => .invalid s
      | .exhausted digits => readChunkHeaderFrom count digits s
      | .carriageReturn digits i => readSize digits (block.length - i) s

def readChunkHeader [LawfulZeroCopyInputStream UInt8 σ] (s : σ) : ChunkHeader σ :=
  readChunkHeaderFrom (blocksLeft s) [] s

/-! ### The buffer -/

/-- The check in front of the store is the store's. -/
theorem scanBlock_ne_overrun (digits : List UInt8) (i : Nat) (block : List UInt8) :
    scanBlock digits i block ≠ .overrun := by
  induction block generalizing digits i with
  | nil => nofun
  | cons c rest ih =>
    rw [scanBlock]
    split
    · nofun
    · split
      · nofun
      case isFalse hlt =>
        rw [storeDigit, if_pos (Nat.lt_of_not_le hlt)]
        exact ih _ _

theorem readSize_ne_overrun [ZeroCopyInputStream UInt8 σ] (digits : List UInt8) (count : Nat) (s : σ) :
    readSize digits count s ≠ .overrun := by
  unfold readSize
  split
  · intro h
    cases h
  · split
    · intro h
      cases h
    · intro h
      cases h

theorem readChunkHeaderFrom_ne_overrun [ZeroCopyInputStream UInt8 σ] (count : Nat) (digits : List UInt8) (s : σ) :
    readChunkHeaderFrom count digits s ≠ .overrun := by
  induction count generalizing digits s with
  | zero => nofun
  | succ count ih =>
    rw [readChunkHeaderFrom]
    split
    · nofun
    · split
      case h_1 heq => exact absurd heq (scanBlock_ne_overrun _ _ _)
      case h_2 => nofun
      case h_3 => exact ih _ _
      case h_4 => exact readSize_ne_overrun _ _ _

/-! ### Headers that are read -/

/-- Digits that fit are all stored. -/
theorem scanBlock_append {digits more : List UInt8} (hreturn : 13 ∉ more)
    (hlength : (digits ++ more).length ≤ num64BitHexDigits) (i : Nat) (rest : List UInt8) :
    scanBlock digits i (more ++ rest) = scanBlock (digits ++ more) (i + more.length) rest := by
  induction more generalizing digits i with
  | nil => rw [List.append_nil]; rfl
  | cons c more ih =>
    have hc : c ≠ 13 := fun heq => hreturn (heq ▸ List.mem_cons_self ..)
    have hlt : digits.length < num64BitHexDigits := by
      rw [List.length_append, List.length_cons] at hlength
      omega
    have hassoc : digits ++ c :: more = digits ++ [c] ++ more := List.append_cons ..
    rw [hassoc] at hlength ⊢
    rw [List.cons_append, scanBlock, if_neg hc, if_neg (Nat.not_le.mpr hlt), storeDigit, if_pos hlt]
    dsimp only
    rw [ih (fun hmem => hreturn (List.mem_cons_of_mem c hmem)) hlength, List.length_cons]
    congr 1
    omega

section
variable [LawfulZeroCopyInputStream UInt8 σ] {count : Nat} {digits digits' block rest : List UInt8} {s t : σ}

theorem readChunkHeaderFrom_of_exhausted (hnext : next s = some (block, t))
    (hscan : scanBlock digits 0 block = .exhausted digits') :
    readChunkHeaderFrom (count + 1) digits s = readChunkHeaderFrom count digits' t := by
  simp only [readChunkHeaderFrom, hnext, hscan]

theorem readChunkHeaderFrom_of_carriageReturn {i : Nat} (hnext : next s = some (block, t))
    (hscan : scanBlock digits 0 block = .carriageReturn digits' i) :
    readChunkHeaderFrom (count + 1) digits s = readSize digits' (block.length - i) t := by
  simp only [readChunkHeaderFrom, hnext, hscan]

/-- Put back to the end of the line, the stream is moved on past it. -/
theorem readSize_of_unread {chunkSize : UInt64} (hsize : hexToUint64 digits = .ok chunkSize)
    (hunread : unread (backUp count s) = 13 :: 10 :: rest) :
    ∃ t, readSize digits count s = .read t chunkSize ∧ unread t = rest := by
  have hrest := unread_skip 2 (backUp count s)
  have htrue := skip_eq 2 (backUp count s)
  rw [hunread] at hrest htrue
  refine ⟨(skip 2 (backUp count s)).1, ?_, hrest⟩
  rw [readSize, hsize]
  rcases hskip : skip 2 (backUp count s) with ⟨u, ok⟩
  rw [hskip] at htrue
  cases htrue
  rfl

/-- **A header is read in whatever blocks it comes**, and the stream is left right after it. -/
theorem readChunkHeaderFrom_of_unread {more : List UInt8} {chunkSize : UInt64} (hcount : blocksLeft s ≤ count)
    (hunread : unread s = more ++ 13 :: 10 :: rest) (hreturn : 13 ∉ more)
    (hlength : (digits ++ more).length ≤ num64BitHexDigits) (hsize : hexToUint64 (digits ++ more) = .ok chunkSize) :
    ∃ t, readChunkHeaderFrom count digits s = .read t chunkSize ∧ unread t = rest := by
  have hne : ∀ more : List UInt8, more ++ 13 :: 10 :: rest ≠ [] := fun _ =>
    List.append_ne_nil_of_right_ne_nil _ (List.cons_ne_nil _ _)
  induction count generalizing digits more s with
  | zero =>
    obtain ⟨block, t, hnext⟩ := exists_next (hunread ▸ hne more)
    have hlt := blocksLeft_lt hnext
    omega
  | succ count ih =>
    obtain ⟨block, t, hnext⟩ := exists_next (hunread ▸ hne more)
    have hblock := unread_of_some hnext
    have hleft := blocksLeft_lt hnext
    rw [hunread] at hblock
    have hexhausted : ∀ tail, more = block ++ tail → unread t = tail ++ 13 :: 10 :: rest →
        ∃ u, readChunkHeaderFrom (count + 1) digits s = .read u chunkSize ∧ unread u = rest := by
      rintro tail rfl htail
      rw [← List.append_assoc] at hlength hsize
      have hle : (digits ++ block).length ≤ num64BitHexDigits := by
        rw [List.length_append] at hlength
        omega
      have hscan := scanBlock_append (fun hmem => hreturn (List.mem_append_left tail hmem)) hle 0 []
      rw [List.append_nil] at hscan
      rw [readChunkHeaderFrom_of_exhausted hnext hscan]
      exact ih (by omega) htail (fun hmem => hreturn (List.mem_append_right _ hmem)) hlength hsize
    -- either the block ends among the digits, or the carriage return is in it
    rcases List.append_eq_append_iff.mp hblock with ⟨tail, hmore, htail⟩ | ⟨tail, hmore, htail⟩
    · cases tail with
      | nil => exact hexhausted [] (by rw [hmore, List.append_nil, List.append_nil]) htail.symm
      | cons c tail =>
        obtain ⟨rfl, hrest⟩ := List.cons.inj htail
        have hscan := scanBlock_append hreturn hlength 0 (13 :: tail)
        rw [← hmore, Nat.zero_add] at hscan
        rw [readChunkHeaderFrom_of_carriageReturn hnext hscan]
        refine readSize_of_unread hsize ?_
        have hle : more.length ≤ block.length := by rw [hmore, List.length_append]; exact Nat.le_add_right ..
        rw [unread_backUp hnext (Nat.sub_le ..), Nat.sub_sub_self hle, hmore, List.drop_left]
        exact htail.symm
    · exact hexhausted tail hmore htail

end

end

end Lightstep.Common

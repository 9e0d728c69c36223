import Mathlib.Algebra.Order.Ring.Nat
import Mathlib.Algebra.Ring.Int.Defs
import Lightstep.Library.Lengths

/-! The two streams that spans are serialized into.

Protobuf's stream hands out the memory of a field where it has room for all of it;
the field is then written through a stream of its own, which checks no bounds. Both
take the sizes that they are given as `int`s. -/
namespace Lightstep.Common
open Library

structure CodedOutputStream where
  /-- Nothing once it is not defined what was written. -/
  bytes : Option (List UInt8)
  /-- What the memory holds that a request is given: whether there is room depends on the bytes
  before it and on the size. -/
  directBuffer : List UInt8 → (n : Nat) → Option (Vector UInt8 n)

/-- The bytes written from `data` on. -/
structure DirectCodedOutputStream where
  written : Option (List UInt8)

/-- A functor that writes to either stream. -/
structure Serializer where
  coded : CodedOutputStream → CodedOutputStream
  direct : DirectCodedOutputStream → DirectCodedOutputStream

class OutputStream (S : Type) where
  /-- The bytes after those that are there, if both are known. -/
  put : Option (List UInt8) → S → S
  writeBigVarint64 : UInt64 → S → S

export OutputStream (put writeBigVarint64)

section
variable {S : Type} [OutputStream S]

/-- A size that is no `int` is a negative one or one that is cut: memory is written that nobody
handed out, or bytes are left out. -/
def withSize (size : Nat) (f : S → S) (stream : S) : S := if size < 2 ^ 31 then f stream else put none stream

def writeRaw (data : List UInt8) (stream : S) : S := withSize data.length (put (some data)) stream

def writeVarint32 (x : UInt32) (stream : S) : S := put (some (varint x.toNat)) stream

def writeVarint64 (x : UInt64) (stream : S) : S := put (some (varint x.toNat)) stream

def writeTag (x : UInt32) (stream : S) : S := writeVarint32 x stream

end

instance : OutputStream CodedOutputStream where
  put data stream := {stream with bytes := Option.map₂ (· ++ ·) stream.bytes data}
  writeBigVarint64 x stream := {stream with bytes := stream.bytes.map (· ++ varint x.toNat)}

namespace DirectCodedOutputStream

def putByte (x : UInt64) (stream : DirectCodedOutputStream) : DirectCodedOutputStream :=
  ⟨stream.written.map (· ++ [x.toUInt8])⟩

/-- `count` times `DO_ITERATION`. -/
def doIterations : Nat → UInt64 → DirectCodedOutputStream → DirectCodedOutputStream × UInt64
  | 0, x, stream => (stream, x)
  | count + 1, x, stream => doIterations count (x >>> 7) (stream.putByte (x ||| 0x80))

/-- A small number is left to `WriteVarint64`; of a big one eight bytes are certain. -/
def writeBigVarint64 (x : UInt64) (stream : DirectCodedOutputStream) : DirectCodedOutputStream :=
  if x < (1 : UInt64) <<< 56 then ⟨stream.written.map (· ++ varint x.toNat)⟩
  else
    let (stream, x) := doIterations 8 x stream
    let (stream, x) := if x ≥ 0x80 then doIterations 1 x stream else (stream, x)
    stream.putByte x

end DirectCodedOutputStream

instance : OutputStream DirectCodedOutputStream where
  put data stream := ⟨Option.map₂ (· ++ ·) stream.written data⟩
  writeBigVarint64 := DirectCodedOutputStream.writeBigVarint64

/-! ### What the streams do -/

/-- All that reaches a stream is appended to it. -/
class LawfulOutputStream (S : Type) [OutputStream S] : Prop where
  put_nil (stream : S) : put (some []) stream = stream
  put_put (a b : Option (List UInt8)) (stream : S) : put b (put a stream) = put (Option.map₂ (· ++ ·) a b) stream
  writeBigVarint64_eq (x : UInt64) (stream : S) : writeBigVarint64 x stream = put (some (varint x.toNat)) stream

instance : LawfulOutputStream CodedOutputStream where
  put_nil stream := by simp [put]
  put_put a b stream := congrArg (CodedOutputStream.mk · stream.directBuffer) (Option.map₂_assoc List.append_assoc)
  writeBigVarint64_eq x stream := by simp [put, writeBigVarint64]

namespace DirectCodedOutputStream

theorem toUInt8_eq (x : UInt64) : x.toUInt8 = x.toNat.toUInt8 := by
  apply UInt8.toNat_inj.mp
  rw [UInt64.toNat_toUInt8, Nat.toUInt8, UInt8.toNat_ofNat']

theorem toUInt8_or (x : UInt64) : (x ||| 0x80).toUInt8 = (x.toNat % 128 + 128).toUInt8 := by
  have hbyte : ∀ n, n < 256 → n ||| 128 = n % 128 + 128 := by decide +kernel
  have hor : (x.toNat ||| 128) % 2 ^ 8 = x.toNat % 256 % 128 + 128 := by
    rw [Nat.or_mod_two_pow]
    exact hbyte _ (Nat.mod_lt _ (by decide))
  apply UInt8.toNat_inj.mp
  rw [UInt64.toNat_toUInt8, UInt64.toNat_or, Nat.toUInt8, UInt8.toNat_ofNat']
  refine hor.trans ?_
  omega

theorem doIterations_eq {count : Nat} {x : UInt64} (h : 128 ^ count ≤ x.toNat) (stream : DirectCodedOutputStream) :
    ∃ bytes y, doIterations count x stream = (⟨stream.written.map (· ++ bytes)⟩, y) ∧ y.toNat = x.toNat / 128 ^ count ∧
      ∀ fuel, varintBytes (count + fuel) x.toNat = bytes ++ varintBytes fuel y.toNat := by
  induction count generalizing x stream with
  | zero =>
    refine ⟨[], x, ?_, ?_, fun fuel => ?_⟩
    · simp [doIterations]
    · simp
    · simp
  | succ count ih =>
    have hshift : (x >>> 7).toNat = x.toNat / 128 := by
      rw [UInt64.toNat_shiftRight]
      exact Nat.shiftRight_eq_div_pow ..
    have hdiv : 128 ^ count ≤ (x >>> 7).toNat := by
      rw [hshift]
      exact (Nat.le_div_iff_mul_le (by decide)).mpr h
    have hbig : ¬ x.toNat < 128 := by
      have hpos := Nat.one_le_pow count 128 (by decide)
      rw [Nat.pow_succ] at h
      omega
    obtain ⟨bytes, y, hiterations, hy, hbytes⟩ := ih hdiv (stream.putByte (x ||| 0x80))
    refine ⟨(x.toNat % 128 + 128).toUInt8 :: bytes, y, ?_, ?_, fun fuel => ?_⟩
    · rw [doIterations, hiterations, putByte, toUInt8_or]
      simp [Function.comp_def]
    · rw [hy, hshift, Nat.div_div_eq_div_mul, Nat.pow_succ, Nat.mul_comm]
    · have hstep : count + 1 + fuel = count + fuel + 1 := by omega
      rw [hstep, varintBytes, if_neg hbig, ← hshift, hbytes]
      rfl

/-- **The bytes of a big number are those of its varint.** -/
theorem writeBigVarint64_eq (x : UInt64) (stream : DirectCodedOutputStream) :
    stream.writeBigVarint64 x = ⟨stream.written.map (· ++ varint x.toNat)⟩ := by
  by_cases hsmall : x < (1 : UInt64) <<< 56
  · rw [writeBigVarint64, if_pos hsmall]
  · have hbig : 128 ^ 8 ≤ x.toNat := Nat.le_of_not_lt fun hlt => hsmall (UInt64.lt_iff_toNat_lt.mpr hlt)
    obtain ⟨bytes, y, hiterations, -, hbytes⟩ := doIterations_eq hbig stream
    have hvarint : varint x.toNat = bytes ++ varintBytes 1 y.toNat := hbytes 1
    rw [writeBigVarint64, if_neg hsmall, hiterations, hvarint]
    dsimp only
    by_cases hlast : y ≥ 0x80
    · have hy : 128 ^ 1 ≤ y.toNat := UInt64.le_iff_toNat_le.mp hlast
      obtain ⟨bytes', z, hiterations', -, hbytes'⟩ := doIterations_eq hy ⟨stream.written.map (· ++ bytes)⟩
      rw [if_pos hlast, hiterations', hbytes' 0, putByte, toUInt8_eq]
      simp [varintBytes, Function.comp_def]
    · have hy : y.toNat < 128 := Nat.lt_of_not_le fun hle => hlast (UInt64.le_iff_toNat_le.mpr hle)
      rw [if_neg hlast, varintBytes, if_pos hy, putByte, toUInt8_eq]
      simp [Function.comp_def]

end DirectCodedOutputStream

instance : LawfulOutputStream DirectCodedOutputStream where
  put_nil stream := by simp [put]
  put_put a b stream := congrArg DirectCodedOutputStream.mk (Option.map₂_assoc List.append_assoc)
  writeBigVarint64_eq x stream := by simp [put, writeBigVarint64, DirectCodedOutputStream.writeBigVarint64_eq]

end Lightstep.Common

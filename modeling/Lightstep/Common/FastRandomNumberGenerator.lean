import Lightstep.Library.XorShift
import Mathlib.Algebra.Group.Basic

/-! The generator of the ids. -/
namespace Lightstep.Common
open Library

/-- The two words of `state_`. -/
@[ext]
structure FastRandomNumberGenerator where
  stateA : BitVec 64
  stateB : BitVec 64
  deriving DecidableEq

namespace FastRandomNumberGenerator

/-- A generator that is not seeded. -/
def unseeded : FastRandomNumberGenerator := ⟨0, 0⟩

/-- A call of the generator. -/
def generate (g : FastRandomNumberGenerator) : BitVec 64 × FastRandomNumberGenerator :=
  let t := g.stateA
  let s := g.stateB
  let t := t ^^^ t <<< 23
  let t := t ^^^ t >>> 17
  let t := t ^^^ (s ^^^ s >>> 26)
  (t + s, ⟨s, t⟩)

/-- The words that the seed sequence generates, the first of a pair in the lower half. -/
def seed (words : (BitVec 32 × BitVec 32) × (BitVec 32 × BitVec 32)) : FastRandomNumberGenerator :=
  ⟨words.1.2 ++ words.1.1, words.2.2 ++ words.2.1⟩

def step (g : FastRandomNumberGenerator) : FastRandomNumberGenerator := g.generate.2

/-- The `n`-th id, from 0. -/
def id (g : FastRandomNumberGenerator) (n : Nat) : BitVec 64 := (step^[n] g).generate.1

instance finiteFastRandomNumberGenerator : Finite FastRandomNumberGenerator := by
  refine Finite.of_injective (fun g => (g.stateA, g.stateB)) fun g h heq => ?_
  obtain ⟨ha, hb⟩ := Prod.mk.inj heq
  exact FastRandomNumberGenerator.ext ha hb

/-! ### What a call does to the state -/

/-- What becomes of the first word by itself. -/
def scramble (t : BitVec 64) : BitVec 64 := (t ^^^ t <<< 23) ^^^ (t ^^^ t <<< 23) >>> 17

theorem scramble_injective : Function.Injective scramble :=
  (xorShiftRight_injective (w := 64) (k := 17) (by decide)).comp (xorShiftLeft_injective (k := 23) (by decide))

theorem step_injective : Function.Injective step := by
  rintro ⟨a, b⟩ ⟨a', b'⟩ h
  have hb : b = b' := congrArg stateA h
  subst hb
  have hscramble : scramble a ^^^ (b ^^^ b >>> 26) = scramble a' ^^^ (b ^^^ b >>> 26) := congrArg stateB h
  rw [BitVec.xor_left_inj] at hscramble
  rw [scramble_injective hscramble]

/-- For every second word, the first one decides what is given, and anything may be. -/
theorem generate_bijective (b : BitVec 64) : Function.Bijective fun a => (generate ⟨a, b⟩).1 := by
  refine Finite.injective_iff_bijective.mp fun a a' h => ?_
  have hadd : (scramble a ^^^ (b ^^^ b >>> 26)) + b = (scramble a' ^^^ (b ^^^ b >>> 26)) + b := h
  rw [BitVec.add_left_inj, BitVec.xor_left_inj] at hadd
  exact scramble_injective hadd

/-! ### The words a generator is seeded with -/

/-- Two halves make a word, and every word once. -/
theorem append_bijective :
    Function.Bijective fun halves : BitVec 32 × BitVec 32 => (halves.2 ++ halves.1 : BitVec 64) := by
  constructor
  · rintro ⟨low, high⟩ ⟨low', high'⟩ h
    have h : (high ++ low : BitVec 64) = high' ++ low' := h
    have hlow : low = low' := by
      have hwidth := congrArg (BitVec.setWidth 32) h
      rwa [BitVec.setWidth_append, BitVec.setWidth_append, dif_pos (Nat.le_refl _), dif_pos (Nat.le_refl _),
        BitVec.setWidth_eq, BitVec.setWidth_eq] at hwidth
    subst hlow
    rw [(BitVec.append_left_inj low).mp h]
  · intro word
    exact ⟨(word.extractLsb' 0 32, word.extractLsb' 32 32), BitVec.extractLsb'_append_extractLsb'⟩

theorem seed_bijective : Function.Bijective seed := by
  constructor
  · rintro ⟨first, second⟩ ⟨first', second'⟩ h
    have hfirst : first = first' := append_bijective.injective (congrArg stateA h)
    have hsecond : second = second' := append_bijective.injective (congrArg stateB h)
    rw [hfirst, hsecond]
  · rintro ⟨a, b⟩
    obtain ⟨first, rfl⟩ := append_bijective.surjective a
    obtain ⟨second, rfl⟩ := append_bijective.surjective b
    exact ⟨(first, second), rfl⟩

/-- As many states give one id as another. -/
theorem card_generate (v : BitVec 64) : Nat.card {g : FastRandomNumberGenerator // g.generate.1 = v} = 2 ^ 64 := by
  rw [← card_bitVec]
  refine Nat.card_congr (Equiv.ofBijective (fun g => g.1.stateB) ⟨?_, fun b => ?_⟩)
  · rintro ⟨⟨a, b⟩, h⟩ ⟨⟨a', b'⟩, h'⟩ heq
    have hb : b = b' := heq
    subst hb
    have ha : a = a' := (generate_bijective b).injective (h.trans h'.symm)
    subst ha
    rfl
  · obtain ⟨a, ha⟩ := (generate_bijective b).surjective v
    exact ⟨⟨⟨a, b⟩, ha⟩, rfl⟩

/-- **Of the words that a seed sequence may generate, as many lead to one id as to another**, at every place of the
sequence of ids. No generator comes to the state that gives only zeros, unless it is in it, and every one comes back
to where it was. -/
theorem ids_uniform : (∀ n v, Nat.card {words // (seed words).id n = v} = 2 ^ 64) ∧
    (∀ g n, step^[n] g = unseeded ↔ g = unseeded) ∧ (∀ n, unseeded.id n = 0) ∧
    ∀ g : FastRandomNumberGenerator, ∃ n, 0 < n ∧ step^[n] g = g := by
  have hunseeded : ∀ n, step^[n] unseeded = unseeded := fun n => Function.iterate_fixed rfl n
  refine ⟨fun n v => ?_, fun g n => ⟨fun h => ?_, fun h => h ▸ hunseeded n⟩, fun n => ?_, fun g => ?_⟩
  · rw [← card_generate v, ← card_outputs step_injective (fun g => g.generate.1) n v]
    exact Nat.card_congr ((Equiv.ofBijective seed seed_bijective).subtypeEquiv fun _ => Iff.rfl)
  · exact step_injective.iterate n (h.trans (hunseeded n).symm)
  · rw [id, hunseeded]
    rfl
  · obtain ⟨n, hn, hperiod⟩ := Function.mem_periodicPts.mp (step_injective.mem_periodicPts g)
    exact ⟨n, hn, hperiod⟩

end FastRandomNumberGenerator
end Lightstep.Common

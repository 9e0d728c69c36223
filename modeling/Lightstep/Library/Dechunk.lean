import Lightstep.Library.Chunk

/-! Taking the data out of a chunked HTTP/1.1 body, byte by byte.

A body is chunks up to one without data, which ends it. The data of a chunk is taken
as it arrives, before the chunk is complete. -/
namespace Lightstep.Library

/-- What is due next: `data left` wants `left + 1` bytes of data. -/
inductive Dechunker where
  | size (n : Option Nat)
  | sizeEnd (n : Nat)
  | data (left : Nat)
  | dataReturn
  | dataEnd
  | lastReturn
  | lastEnd
  | finished
  | failed
  deriving DecidableEq

namespace Dechunker

def new : Dechunker := size none

def next : Dechunker → UInt8 → Dechunker
  | size n, b =>
    match digitValue b, n with
    | some d, n => size (some (n.getD 0 * 16 + d))
    | none, some n => if b = 13 then sizeEnd n else failed
    | none, none => failed
  | sizeEnd n, b =>
    match b, n with
    | 10, 0 => lastReturn
    | 10, left + 1 => data left
    | _, _ => failed
  | data 0, _ => dataReturn
  | data (left + 1), _ => data left
  | dataReturn, b => if b = 13 then dataEnd else failed
  | dataEnd, b => if b = 10 then new else failed
  | lastReturn, b => if b = 13 then lastEnd else failed
  | lastEnd, b => if b = 10 then finished else failed
  | finished, _ => finished
  | failed, _ => failed

def emitted : Dechunker → UInt8 → List UInt8
  | data _, b => [b]
  | _, _ => []

def run (s : Dechunker) : List UInt8 → Dechunker
  | [] => s
  | b :: rest => run (s.next b) rest

/-- The data in the input. -/
def body (s : Dechunker) : List UInt8 → List UInt8
  | [] => []
  | b :: rest => s.emitted b ++ body (s.next b) rest

theorem run_append (s : Dechunker) (a b : List UInt8) : s.run (a ++ b) = (s.run a).run b := by
  induction a generalizing s with
  | nil => rfl
  | cons x rest ih => exact ih _

theorem body_append (s : Dechunker) (a b : List UInt8) : s.body (a ++ b) = s.body a ++ (s.run a).body b := by
  induction a generalizing s with
  | nil => rfl
  | cons x rest ih => simp only [List.cons_append, body, run, ih, List.append_assoc]

/-- No byte takes back the data before it. -/
theorem body_isPrefix {a b : List UInt8} (h : a <+: b) (s : Dechunker) : s.body a <+: s.body b := by
  obtain ⟨more, rfl⟩ := h
  rw [body_append]
  exact List.prefix_append _ _

theorem run_finished (input : List UInt8) : finished.run input = finished := by
  induction input with
  | nil => rfl
  | cons b rest ih => exact ih

/-! ### One chunk -/

theorem run_digits {digits : List UInt8} {n : Option Nat} {v : Nat} (hne : digits ≠ [])
    (h : readHex (n.getD 0) digits = some v) : (size n).run digits = size (some v) ∧ (size n).body digits = [] := by
  induction digits generalizing n with
  | nil => exact absurd rfl hne
  | cons b rest ih =>
    obtain ⟨d, hd, hrest⟩ := Option.bind_eq_some_iff.mp h
    have hnext : (size n).next b = size (some (n.getD 0 * 16 + d)) := by
      simp only [next, hd]
    by_cases hnil : rest = []
    · subst hnil
      cases hrest
      exact ⟨by rw [run, hnext]; rfl, rfl⟩
    · obtain ⟨hrun, hbody⟩ := ih (n := some (n.getD 0 * 16 + d)) hnil hrest
      exact ⟨by rw [run, hnext, hrun], by rw [body, hnext, hbody]; rfl⟩

theorem run_data {bytes : List UInt8} {left : Nat} (h : bytes.length = left + 1) :
    (data left).run bytes = dataReturn ∧ (data left).body bytes = bytes := by
  induction bytes generalizing left with
  | nil => cases h
  | cons b rest ih =>
    cases left with
    | zero =>
      obtain rfl : rest = [] := List.length_eq_zero_iff.mp (Nat.succ.inj h)
      exact ⟨rfl, rfl⟩
    | succ left =>
      obtain ⟨hrun, hbody⟩ := ih (Nat.succ.inj h)
      exact ⟨hrun, by rw [body, next, hbody]; rfl⟩

/-- What is read of a chunk is where it stands. -/
theorem eq_of_readChunk {input bytes rest : List UInt8} (h : readChunk input = some (bytes, rest)) :
    ∃ digits, digits ≠ [] ∧ readHex 0 digits = some bytes.length ∧
      input = digits ++ (lineBreak ++ (bytes ++ (lineBreak ++ rest))) := by
  have hbreak : ∀ {a b : List UInt8}, readLineBreak a = some b → a = lineBreak ++ b := by
    intro a b hab
    unfold readLineBreak at hab
    split at hab
    · cases hab
      rfl
    · cases hab
  simp only [readChunk, Option.bind_eq_bind, Option.pure_def] at h
  split at h
  · cases h
  · rename_i hne
    obtain ⟨size, hsize, h⟩ := Option.bind_eq_some_iff.mp h
    obtain ⟨afterSize, hfirst, h⟩ := Option.bind_eq_some_iff.mp h
    obtain ⟨⟨data, afterData⟩, hdata, h⟩ := Option.bind_eq_some_iff.mp h
    obtain ⟨last, hlast, h⟩ := Option.bind_eq_some_iff.mp h
    obtain ⟨rfl, rfl⟩ := Prod.mk.inj (Option.some.inj h)
    obtain ⟨hle, htake⟩ := Option.ite_none_right_eq_some.mp hdata
    obtain ⟨rfl, rfl⟩ := Prod.mk.inj (Option.some.inj htake)
    refine ⟨_, hne, ?_, ?_⟩
    · rw [hsize, List.length_take, Nat.min_eq_left hle]
    · rw [← hbreak hlast, List.take_append_drop, ← hbreak hfirst]
      exact (List.prefix_iff_eq_append.mp (List.takeWhile_prefix _)).symm

/-- The size of a chunk and the line break behind it. -/
theorem run_size {digits : List UInt8} {v : Nat} (hne : digits ≠ []) (h : readHex 0 digits = some v) :
    new.run (digits ++ lineBreak) = (sizeEnd v).next 10 ∧ new.body (digits ++ lineBreak) = [] := by
  obtain ⟨hrun, hbody⟩ := run_digits (n := none) hne h
  constructor
  · rw [new, run_append, hrun]
    rfl
  · rw [new, body_append, hbody, hrun]
    rfl

/-- **A chunk that can be read** gives its data and nothing else. -/
theorem run_readChunk {input bytes rest : List UInt8} (h : readChunk input = some (bytes, rest)) (hne : bytes ≠ []) :
    new.run input = new.run rest ∧ new.body input = bytes ++ new.body rest := by
  obtain ⟨digits, hdigits, hread, rfl⟩ := eq_of_readChunk h
  obtain ⟨left, hleft⟩ : ∃ left, bytes.length = left + 1 := ⟨bytes.length - 1, by
    have := List.length_pos_iff.mpr hne
    omega⟩
  obtain ⟨hsize, hnone⟩ := run_size hdigits hread
  obtain ⟨hdata, hbytes⟩ := run_data hleft
  have hnext : (sizeEnd bytes.length).next 10 = data left := by
    rw [hleft]
    rfl
  rw [← List.append_assoc, run_append, body_append, hsize, hnone, hnext, run_append, body_append, hdata, hbytes]
  exact ⟨rfl, rfl⟩

end Dechunker
end Lightstep.Library

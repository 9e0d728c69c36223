import Lightstep.Library.Machine
import Lightstep.Library.Slots
import Lightstep.Library.Visits

/-! Iterating over indexes in random order.

The shuffle goes on from where the calls before have left it, a place at a time:
each place is exchanged with one from it on before its index is visited. -/
namespace Lightstep.Common
open Library

/-- `std::uniform_int_distribution`: a draw may give any number of its range. The generator is part of the state,
which the callbacks may use as well. -/
structure UniformIntDistribution (S : Type) where
  draw : Nat → Nat → S → Nat × S
  mem {a b : Nat} (s : S) (h : a ≤ b) : a ≤ (draw a b s).1 ∧ (draw a b s).1 ≤ b

/-- The draws of a state that has notes beside it. -/
def UniformIntDistribution.beside {S : Type} (distribution : UniformIntDistribution S) (V : Type) :
    UniformIntDistribution (S × V) where
  draw a b s := ((distribution.draw a b s.1).1, (distribution.draw a b s.1).2, s.2)
  mem s h := distribution.mem s.1 h

/-- Draws that count on from the lower end of the range. -/
def UniformIntDistribution.counting : UniformIntDistribution Nat where
  draw a b s := (a + s % (b - a + 1), s + 1)
  mem {a b} s h := by
    have hlt : s % (b - a + 1) < b - a + 1 := Nat.mod_lt s (Nat.succ_pos _)
    exact ⟨Nat.le_add_right .., by omega⟩

/-- A `FunctionRef<bool(int)>`, and what it does to the state. -/
abbrev Callback (S : Type) := Nat → S → Bool × S

structure RandomTraverser where
  indexes : List Nat
  deriving DecidableEq

namespace RandomTraverser
variable {S : Type}

def new (n : Nat) : RandomTraverser := ⟨List.range n⟩

/-- The loop from place `i` on, for the rounds that are left, and the call after it. There is no result if a
place is not one of the vector's. -/
def forEachIndexFrom (distribution : UniformIntDistribution S) (callback : Callback S) (nMinus1 : Nat) :
    Nat → Nat → List Nat → S → Option (Bool × RandomTraverser × S)
  | 0, _, indexes, s => do
    let (result, s) := callback (← indexes.getLast?) s
    return (result, ⟨indexes⟩, s)
  | rounds + 1, i, indexes, s => do
    let (drawn, s) := distribution.draw i nMinus1 s
    let indexes ← exchange indexes i drawn
    let (goOn, s) := callback (← indexes[i]?) s
    if goOn then forEachIndexFrom distribution callback nMinus1 rounds (i + 1) indexes s
    else return (false, ⟨indexes⟩, s)

def forEachIndex (distribution : UniformIntDistribution S) (callback : Callback S) (t : RandomTraverser) (s : S) :
    Option (Bool × RandomTraverser × S) :=
  if t.indexes.isEmpty then some (true, t, s)
  else
    let nMinus1 := t.indexes.length - 1
    forEachIndexFrom distribution callback nMinus1 nMinus1 0 t.indexes s

/-- Calls on one object. -/
def machine (distribution : UniformIntDistribution S) : Machine (RandomTraverser × S) (Callback S) :=
  ⟨fun (t, s) callback => (t.forEachIndex distribution callback s).map Prod.snd⟩

/-! ### What is visited -/

/-- The callback, noting what it is called with and what it answers. -/
def noting (callback : Callback S) : Callback (S × List (Nat × Bool)) := fun index s =>
  ((callback index s.1).1, (callback index s.1).2, s.2 ++ [(index, (callback index s.1).1)])

variable (distribution : UniformIntDistribution S) (callback : Callback S)

theorem noting_eq {index : Nat} {s s' : S} {answer : Bool} (h : callback index s = (answer, s'))
    (before : List (Nat × Bool)) : noting callback index (s, before) = (answer, s', before ++ [(index, answer)]) := by
  rw [noting, h]

section
variable {nMinus1 rounds i index : Nat} {indexes exchanged : List Nat} {s s' : S} {result : Bool}

theorem forEachIndexFrom_last (hlast : indexes.getLast? = some index) (hanswer : callback index s = (result, s')) :
    forEachIndexFrom distribution callback nMinus1 0 i indexes s = some (result, ⟨indexes⟩, s') := by
  simp only [forEachIndexFrom, hlast, Option.bind_eq_bind, Option.bind_some, hanswer]
  rfl

theorem forEachIndexFrom_goOn (hexchange : exchange indexes i (distribution.draw i nMinus1 s).1 = some exchanged)
    (hindex : exchanged[i]? = some index)
    (hanswer : callback index (distribution.draw i nMinus1 s).2 = (true, s')) :
    forEachIndexFrom distribution callback nMinus1 (rounds + 1) i indexes s =
      forEachIndexFrom distribution callback nMinus1 rounds (i + 1) exchanged s' := by
  simp only [forEachIndexFrom, hexchange, hindex, Option.bind_eq_bind, Option.bind_some, hanswer, if_true]

theorem forEachIndexFrom_stop (hexchange : exchange indexes i (distribution.draw i nMinus1 s).1 = some exchanged)
    (hindex : exchanged[i]? = some index)
    (hanswer : callback index (distribution.draw i nMinus1 s).2 = (false, s')) :
    forEachIndexFrom distribution callback nMinus1 (rounds + 1) i indexes s = some (false, ⟨exchanged⟩, s') := by
  simp only [forEachIndexFrom, hexchange, hindex, Option.bind_eq_bind, Option.bind_some, hanswer, Bool.false_eq_true,
    if_false]
  rfl

/-- **From a place on, the loop visits what is there**, as far as it is not told to stop. -/
theorem forEachIndexFrom_visits (hrounds : i + rounds = nMinus1) (hlength : indexes.length = nMinus1 + 1) (s : S)
    (before : List (Nat × Bool)) : ∃ result t s' visited,
      forEachIndexFrom distribution callback nMinus1 rounds i indexes s = some (result, t, s') ∧
      forEachIndexFrom (distribution.beside _) (noting callback) nMinus1 rounds i indexes (s, before) =
        some (result, t, s', before ++ visited) ∧
      t.indexes.Perm indexes ∧ Visits (indexes.drop i) visited result := by
  induction rounds generalizing i indexes s before with
  | zero =>
    have hi : i < indexes.length := by omega
    have hlast : indexes.getLast? = some indexes[i] := by
      rw [List.getLast?_eq_getElem?, ← List.getElem?_eq_getElem hi]
      congr 1
      omega
    have hdrop : indexes.drop i = [indexes[i]] := by
      rw [List.drop_eq_getElem_cons hi, List.drop_of_length_le (by omega)]
    obtain ⟨result, s', hanswer⟩ : ∃ result s', callback indexes[i] s = (result, s') := ⟨_, _, rfl⟩
    refine ⟨result, ⟨indexes⟩, s', [(indexes[i], result)], forEachIndexFrom_last _ _ hlast hanswer,
      forEachIndexFrom_last _ _ hlast (noting_eq _ hanswer before), .refl _, ?_⟩
    exact .visit (.of_eq hdrop) (fun hgo => hgo ▸ .done) fun hstop => ⟨rfl, hstop⟩
  | succ rounds ih =>
    obtain ⟨hlow, hhigh⟩ := distribution.mem s (a := i) (b := nMinus1) (by omega)
    obtain ⟨exchanged, hexchange, hperm, hrest⟩ := exchange_of_le (l := indexes) hlow (by omega)
    have hi : i < exchanged.length := by
      rw [hperm.length_eq]
      omega
    have hindex := List.getElem?_eq_getElem hi
    rw [List.drop_eq_getElem_cons hi] at hrest
    obtain ⟨answer, s₁, hanswer⟩ : ∃ answer s₁,
      callback exchanged[i] (distribution.draw i nMinus1 s).2 = (answer, s₁) := ⟨_, _, rfl⟩
    have hnoted := noting_eq callback hanswer before
    cases answer with
    | true =>
      obtain ⟨result, t, s', visited, hcall, hcallNoted, hindexes, hvisits⟩ := ih (i := i + 1) (by omega)
        (hperm.length_eq.trans hlength) s₁ (before ++ [(exchanged[i], true)])
      refine ⟨result, t, s', (exchanged[i], true) :: visited, ?_, ?_, hindexes.trans hperm, .next hrest.symm hvisits⟩
      · rw [forEachIndexFrom_goOn _ _ hexchange hindex hanswer, hcall]
      · rw [forEachIndexFrom_goOn (s := (s, before)) (distribution.beside _) _ hexchange hindex hnoted, hcallNoted,
          ← List.append_cons]
    | false =>
      exact ⟨false, ⟨exchanged⟩, s₁, [(exchanged[i], false)], forEachIndexFrom_stop _ _ hexchange hindex hanswer,
        forEachIndexFrom_stop (s := (s, before)) (distribution.beside _) _ hexchange hindex hnoted, hperm,
        .stopped hrest.symm⟩

/-- **A call visits the indexes**, in some order, as far as it is not told to stop. -/
theorem forEachIndex_visits (t : RandomTraverser) (s : S) : ∃ result t' s' visited,
    t.forEachIndex distribution callback s = some (result, t', s') ∧
    t.forEachIndex (distribution.beside _) (noting callback) (s, []) = some (result, t', s', visited) ∧
    t'.indexes.Perm t.indexes ∧ Visits t.indexes visited result := by
  unfold forEachIndex
  cases hempty : t.indexes.isEmpty with
  | true =>
    refine ⟨true, t, s, [], rfl, rfl, .refl _, ?_⟩
    rw [List.isEmpty_iff.mp hempty]
    exact .done
  | false =>
    have hlength : t.indexes.length = t.indexes.length - 1 + 1 := by
      have hpos := List.length_pos_iff.mpr (List.isEmpty_eq_false_iff.mp hempty)
      omega
    exact forEachIndexFrom_visits distribution callback (Nat.zero_add _) hlength s []

end

/-! ### A rule for the loop -/

/-- What holds when a callback has said to go on at some indexes, and what it leaves when it says to stop. -/
structure LoopRule (callback : Callback S) (all : List Nat) (goingOn : List Nat → S → Prop) (stopped : S → Prop) :
    Prop where
  draw : ∀ before a b s, goingOn before s → goingOn before (distribution.draw a b s).2
  visit : ∀ before index rest s, (before ++ index :: rest).Perm all → goingOn before s →
    (callback index s).1 = true → goingOn (before ++ [index]) (callback index s).2
  stop : ∀ before index rest s, (before ++ index :: rest).Perm all → goingOn before s →
    (callback index s).1 = false → stopped (callback index s).2

/-- What a call leaves by the rule. -/
def Left (all : List Nat) (goingOn : List Nat → S → Prop) (stopped : S → Prop) (result : Bool) (s : S) : Prop :=
  (result = true ∧ ∃ before, before.Perm all ∧ goingOn before s) ∨ (result = false ∧ stopped s)

section
variable {distribution : UniformIntDistribution S} {callback : Callback S} {all : List Nat}
  {goingOn : List Nat → S → Prop} {stopped : S → Prop}

theorem LoopRule.forEachIndexFrom (h : LoopRule distribution callback all goingOn stopped) {nMinus1 rounds i : Nat}
    {indexes before : List Nat} {s : S} (hrounds : i + rounds = nMinus1) (hlength : indexes.length = nMinus1 + 1)
    (hall : (before ++ indexes.drop i).Perm all) (hbefore : goingOn before s) : ∃ result t s',
      forEachIndexFrom distribution callback nMinus1 rounds i indexes s = some (result, t, s') ∧
        t.indexes.Perm indexes ∧ Left all goingOn stopped result s' := by
  induction rounds generalizing i indexes s before with
  | zero =>
    have hi : i < indexes.length := by omega
    have hlast : indexes.getLast? = some indexes[i] := by
      rw [List.getLast?_eq_getElem?, ← List.getElem?_eq_getElem hi]
      congr 1
      omega
    rw [List.drop_eq_getElem_cons hi, List.drop_of_length_le (by omega)] at hall
    refine ⟨(callback indexes[i] s).1, ⟨indexes⟩, (callback indexes[i] s).2,
      forEachIndexFrom_last _ _ hlast rfl, .refl _, ?_⟩
    cases hanswer : (callback indexes[i] s).1 with
    | true => exact .inl ⟨rfl, before ++ [indexes[i]], hall, h.visit before _ [] s hall hbefore hanswer⟩
    | false => exact .inr ⟨rfl, h.stop before _ [] s hall hbefore hanswer⟩
  | succ rounds ih =>
    obtain ⟨hlow, hhigh⟩ := distribution.mem s (a := i) (b := nMinus1) (by omega)
    obtain ⟨exchanged, hexchange, hperm, hrest⟩ := exchange_of_le (l := indexes) hlow (by omega)
    have hi : i < exchanged.length := by
      rw [hperm.length_eq]
      omega
    have hindex := List.getElem?_eq_getElem hi
    rw [List.drop_eq_getElem_cons hi] at hrest
    have hall' : (before ++ exchanged[i] :: exchanged.drop (i + 1)).Perm all := (hrest.append_left before).trans hall
    have hdrawn := h.draw before i nMinus1 s hbefore
    cases hanswer : (callback exchanged[i] (distribution.draw i nMinus1 s).2).1 with
    | true =>
      obtain ⟨result, t, s', hcall, hindexes, hleft⟩ := ih (i := i + 1) (by omega) (hperm.length_eq.trans hlength)
        (by rw [List.append_assoc]; exact hall') (h.visit before _ _ _ hall' hdrawn hanswer)
      refine ⟨result, t, s', ?_, hindexes.trans hperm, hleft⟩
      rw [forEachIndexFrom_goOn _ _ hexchange hindex (Prod.ext hanswer rfl), hcall]
    | false =>
      exact ⟨false, ⟨exchanged⟩, _, forEachIndexFrom_stop _ _ hexchange hindex (Prod.ext hanswer rfl), hperm,
        .inr ⟨rfl, h.stop before _ _ _ hall' hdrawn hanswer⟩⟩

/-- **A call keeps what its rule says**, in whatever order it visits the indexes. -/
theorem LoopRule.forEachIndex {t : RandomTraverser} {s : S}
    (h : LoopRule distribution callback t.indexes goingOn stopped) (hs : goingOn [] s) : ∃ result t' s',
      t.forEachIndex distribution callback s = some (result, t', s') ∧ t'.indexes.Perm t.indexes ∧
        Left t.indexes goingOn stopped result s' := by
  unfold RandomTraverser.forEachIndex
  cases hempty : t.indexes.isEmpty with
  | true => exact ⟨true, t, s, rfl, .refl _, .inl ⟨rfl, [], by rw [List.isEmpty_iff.mp hempty], hs⟩⟩
  | false =>
    have hlength : t.indexes.length = t.indexes.length - 1 + 1 := by
      have hpos := List.length_pos_iff.mpr (List.isEmpty_eq_false_iff.mp hempty)
      omega
    exact h.forEachIndexFrom (Nat.zero_add _) hlength (.refl _) hs

end

/-! ### Runs -/

/-- Every call returns, and leaves a permutation of the indexes. -/
theorem run_perm (t : RandomTraverser) (s : S) (calls : List (Callback S)) :
    ∃ t' s', (machine distribution).run (t, s) calls = some (t', s') ∧ t'.indexes.Perm t.indexes := by
  induction calls generalizing t s with
  | nil => exact ⟨t, s, rfl, .refl _⟩
  | cons callback calls ih =>
    obtain ⟨result, t₁, s₁, visited, hcall, -, hperm, -⟩ := forEachIndex_visits distribution callback t s
    obtain ⟨t', s', hrun, hperm'⟩ := ih t₁ s₁
    refine ⟨t', s', ?_, hperm'.trans hperm⟩
    rw [(machine distribution).run_cons]
    exact ⟨(t₁, s₁), congrArg (Option.map Prod.snd) hcall, hrun⟩

/-- What a call is to do with the indexes below `n`. -/
structure VisitsOnce (n : Nat) (visited : List (Nat × Bool)) (result : Bool) : Prop where
  distinct : (visited.map Prod.fst).Nodup
  below : ∀ v ∈ visited, v.1 < n
  all : (∀ v ∈ visited, v.2 = true) → (visited.map Prod.fst).Perm (List.range n)
  result : result = false ↔ ∃ v ∈ visited, v.2 = false

theorem visitsOnce_of_visits {n : Nat} {indexes : List Nat} {visited : List (Nat × Bool)} {result : Bool}
    (hperm : indexes.Perm (List.range n)) (h : Visits indexes visited result) : VisitsOnce n visited result where
  distinct := h.nodup (hperm.nodup_iff.mpr List.nodup_range)
  below v hv := List.mem_range.mp (hperm.mem_iff.mp (h.mem hv))
  all hall := (h.perm_of_all hall).trans hperm
  result := by
    rw [← Bool.not_eq_true, h.result_iff]
    simp

/-- **After any calls, a call visits every index once** unless it is told to stop, and the indexes are all there. -/
theorem forEachIndex_once (n : Nat) (calls : List (Callback S)) (s : S) :
    ∃ t s', (machine distribution).run (new n, s) calls = some (t, s') ∧ t.indexes.Perm (List.range n) ∧
      ∃ result t' s'' visited, t.forEachIndex distribution callback s' = some (result, t', s'') ∧
        t.forEachIndex (distribution.beside _) (noting callback) (s', []) = some (result, t', s'', visited) ∧
        t'.indexes.Perm (List.range n) ∧ VisitsOnce n visited result := by
  obtain ⟨t, s', hrun, hperm⟩ := run_perm distribution (new n) s calls
  obtain ⟨result, t', s'', visited, hcall, hnoted, hperm', hvisits⟩ := forEachIndex_visits distribution callback t s'
  exact ⟨t, s', hrun, hperm, result, t', s'', visited, hcall, hnoted, hperm'.trans hperm,
    visitsOnce_of_visits hperm hvisits⟩

example : (new 4).forEachIndex (UniformIntDistribution.counting.beside _)
    (noting fun index s => (index != 3, s)) (5, []) =
      some (false, ⟨[1, 0, 3, 2]⟩, 8, [(1, true), (0, true), (3, false)]) := by decide

end RandomTraverser
end Lightstep.Common

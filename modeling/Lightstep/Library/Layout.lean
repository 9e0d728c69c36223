import Mathlib.Data.List.Forall2

/-! Texts of a fixed layout.

A layout is a list of places, and a place takes some characters and not others.
A text fits as far as each place takes the character that stands there. -/
namespace Lightstep.Library
variable {π α : Type} (takes : π → α → Bool)

/-- There is one character for each place, which takes it. -/
abbrev Fits (layout : List π) (s : List α) : Prop := List.Forall₂ (fun place c => takes place c = true) layout s

/-- The first character that its place does not take, with the place. -/
def firstMisfit : List π → List α → Option (π × α)
  | place :: layout, c :: s => if takes place c then firstMisfit layout s else some (place, c)
  | _, _ => none

variable {takes}

theorem firstMisfit_append {layout rest : List π} {a b : List α} (h : a.length = layout.length) :
    firstMisfit takes (layout ++ rest) (a ++ b) = (firstMisfit takes layout a).or (firstMisfit takes rest b) := by
  induction layout generalizing a with
  | nil =>
    rw [List.eq_nil_of_length_eq_zero h]
    rfl
  | cons place layout ih =>
    cases a with
    | nil => cases h
    | cons c a =>
      simp only [List.cons_append, firstMisfit]
      split
      · exact ih (Nat.succ.inj h)
      · rfl

/-- What comes after the last place does not matter. -/
theorem firstMisfit_of_length_le {layout : List π} {s : List α} (h : layout.length ≤ s.length) :
    firstMisfit takes layout s = firstMisfit takes layout (s.take layout.length) := by
  have hlength : (s.take layout.length).length = layout.length := List.length_take_of_le h
  have happend : firstMisfit takes (layout ++ []) (s.take layout.length ++ s.drop layout.length) = _ :=
    firstMisfit_append hlength
  rw [List.append_nil, List.take_append_drop] at happend
  rw [happend]
  cases firstMisfit takes layout (s.take layout.length) <;> rfl

/-- Nothing misfits exactly if the text fits as far as the layout goes. -/
theorem firstMisfit_eq_none_iff {layout : List π} {s : List α} (h : layout.length ≤ s.length) :
    firstMisfit takes layout s = none ↔ Fits takes layout (s.take layout.length) := by
  induction layout generalizing s with
  | nil => simp [firstMisfit]
  | cons place layout ih =>
    cases s with
    | nil => cases h
    | cons c s =>
      have ih := ih (Nat.le_of_succ_le_succ h)
      simp only [firstMisfit, List.length_cons, List.take_succ_cons, List.forall₂_cons]
      split
      case isTrue hc => simp only [hc, ih, true_and]
      case isFalse hc => simp [hc]

/-- Where all places are alike, it is the first character they do not take. -/
theorem firstMisfit_replicate (place : π) (s : List α) :
    firstMisfit takes (List.replicate s.length place) s = (s.find? fun c => !takes place c).map (place, ·) := by
  induction s with
  | nil => rfl
  | cons c s ih =>
    rw [List.length_cons, List.replicate_succ, firstMisfit, List.find?_cons]
    cases takes place c with
    | true => exact ih
    | false => rfl

/-- A character that its place does not take makes a misfit, there or before. -/
theorem exists_firstMisfit {layout : List π} {s : List α} {place : π} {c : α} (hmem : (place, c) ∈ layout.zip s)
    (htakes : takes place c = false) : ∃ misfit, firstMisfit takes layout s = some misfit := by
  induction layout generalizing s with
  | nil => cases hmem
  | cons place' layout ih =>
    cases s with
    | nil => cases hmem
    | cons c' s =>
      rw [firstMisfit]
      split
      case isTrue hc =>
        rcases List.mem_cons.mp hmem with heq | hmem
        · cases heq
          rw [htakes] at hc
          cases hc
        · exact ih hmem
      case isFalse => exact ⟨_, rfl⟩

end Lightstep.Library

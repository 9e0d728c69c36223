/-! Visiting the elements of a list, in an order that is chosen on the way.

A visit answers whether to go on. However the next element is taken from those
that are left, none is visited twice, and all are unless a visit says to stop. -/
namespace Lightstep.Library
variable {α : Type}

/-- The elements visited, each with the answer, and whether every visit said to go on. -/
inductive Visits : List α → List (α × Bool) → Bool → Prop where
  | done : Visits [] [] true
  | stopped {todo rest : List α} {a : α} (h : todo.Perm (a :: rest)) : Visits todo [(a, false)] false
  | next {todo rest : List α} {a : α} {visited : List (α × Bool)} {result : Bool} (h : todo.Perm (a :: rest))
      (hrest : Visits rest visited result) : Visits todo ((a, true) :: visited) result

namespace Visits
variable {todo : List α} {visited : List (α × Bool)} {result : Bool}

/-- A visit more, whatever it answers. -/
theorem visit {rest : List α} {a : α} {answer : Bool} (h : todo.Perm (a :: rest))
    (hgo : answer = true → Visits rest visited result) (hstop : answer = false → visited = [] ∧ result = false) :
    Visits todo ((a, answer) :: visited) result := by
  cases answer with
  | true => exact .next h (hgo rfl)
  | false =>
    obtain ⟨rfl, rfl⟩ := hstop rfl
    exact .stopped h

/-- What is visited is part of what there was to visit, and all of it if no visit said to stop. -/
theorem perm (h : Visits todo visited result) :
    ∃ left, (visited.map Prod.fst ++ left).Perm todo ∧ (result = true → left = []) := by
  induction h with
  | done => exact ⟨[], .refl _, fun _ => rfl⟩
  | @stopped todo rest a h => exact ⟨rest, h.symm, nofun⟩
  | @next todo rest a visited result h hrest ih =>
    obtain ⟨left, hleft, hall⟩ := ih
    exact ⟨left, (hleft.cons a).trans h.symm, hall⟩

theorem nodup (h : Visits todo visited result) (htodo : todo.Nodup) : (visited.map Prod.fst).Nodup := by
  obtain ⟨left, hleft, -⟩ := h.perm
  exact (List.nodup_append.mp (hleft.nodup_iff.mpr htodo)).1

theorem mem (h : Visits todo visited result) {v : α × Bool} (hv : v ∈ visited) : v.1 ∈ todo := by
  obtain ⟨left, hleft, -⟩ := h.perm
  exact hleft.subset (List.mem_append_left _ (List.mem_map_of_mem hv))

/-- The result is that of the last visit. -/
theorem result_iff (h : Visits todo visited result) : result = true ↔ ∀ v ∈ visited, v.2 = true := by
  induction h with
  | done => simp
  | stopped h => simp
  | next h hrest ih => simpa using ih

theorem perm_of_all (h : Visits todo visited result) (hall : ∀ v ∈ visited, v.2 = true) :
    (visited.map Prod.fst).Perm todo := by
  obtain ⟨left, hleft, hnone⟩ := h.perm
  rw [hnone (h.result_iff.mpr hall), List.append_nil] at hleft
  exact hleft

end Visits
end Lightstep.Library

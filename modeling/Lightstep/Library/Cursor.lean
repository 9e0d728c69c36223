/-! Loops that stop early, and positions in a list of blocks.

`iterate` is a loop over a list whose body may end it. `locate` finds the block a
position falls in, skipping the blocks that end at or before it, so an empty block
is never where a position falls. -/
namespace Lightstep.Library

variable {σ α β : Type}

/-- Runs the body on each element until it answers false; the answer says whether it reached
the end. -/
def iterate (f : σ → α → σ × Bool) : σ → List α → σ × Bool
  | s, [] => (s, true)
  | s, a :: rest =>
    match f s a with
    | (t, true) => iterate f t rest
    | (t, false) => (t, false)

theorem iterate_cons_true {f : σ → α → σ × Bool} {s t : σ} {a : α} (h : f s a = (t, true))
    (rest : List α) : iterate f s (a :: rest) = iterate f t rest := by
  simp only [iterate, h]

theorem iterate_cons_false {f : σ → α → σ × Bool} {s t : σ} {a : α} (h : f s a = (t, false))
    (rest : List α) : iterate f s (a :: rest) = (t, false) := by
  simp only [iterate, h]

theorem iterate_append (f : σ → α → σ × Bool) (s : σ) (a b : List α) :
    iterate f s (a ++ b) =
      if (iterate f s a).2 then iterate f (iterate f s a).1 b else ((iterate f s a).1, false) := by
  induction a generalizing s with
  | nil => rfl
  | cons x rest ih =>
    rw [List.cons_append]
    rcases hx : f s x with ⟨t, _ | _⟩
    · rw [iterate_cons_false hx, iterate_cons_false hx]
      rfl
    · rw [iterate_cons_true hx, iterate_cons_true hx, ih]

/-- A loop of loops is a loop over everything. -/
theorem iterate_flatMap (f : σ → α → σ × Bool) (g : β → List α) (s : σ) (bs : List β) :
    iterate (fun s b => iterate f s (g b)) s bs = iterate f s (bs.flatMap g) := by
  induction bs generalizing s with
  | nil => rfl
  | cons b rest ih =>
    rw [List.flatMap_cons, iterate_append]
    rcases hb : iterate f s (g b) with ⟨t, _ | _⟩
    · rw [iterate_cons_false (f := fun s b => iterate f s (g b)) hb]
      rfl
    · rw [iterate_cons_true (f := fun s b => iterate f s (g b)) hb, ih]
      rfl

/-- The number of the block a position falls in, and the position within it. -/
def locate : List (List α) → Nat → Nat × Nat
  | [], n => (0, n)
  | block :: rest, n =>
    if n < block.length then (0, n)
    else ((locate rest (n - block.length)).1 + 1, (locate rest (n - block.length)).2)

theorem locate_zero (blocks : List (List α)) : (locate blocks 0).2 = 0 := by
  induction blocks with
  | nil => rfl
  | cons block rest ih =>
    rw [locate]
    split
    · rfl
    · rw [Nat.zero_sub]
      exact ih

theorem locate_append_of_le {a b : List (List α)} {n : Nat} (h : a.flatten.length ≤ n) :
    locate (a ++ b) n =
      (a.length + (locate b (n - a.flatten.length)).1, (locate b (n - a.flatten.length)).2) := by
  induction a generalizing n with
  | nil => simp
  | cons block rest ih =>
    rw [List.flatten_cons, List.length_append] at h ⊢
    have hn : ¬ n < block.length := by omega
    have hsub : n - block.length - rest.flatten.length = n - (block.length + rest.flatten.length) := by omega
    rw [List.cons_append, locate, if_neg hn, ih (by omega), hsub, List.length_cons]
    congr 1
    omega

theorem locate_append_of_lt {a b : List (List α)} {n : Nat} (h : n < a.flatten.length) :
    locate (a ++ b) n = locate a n := by
  induction a generalizing n with
  | nil => exact absurd h (Nat.not_lt_zero n)
  | cons block rest ih =>
    rw [List.flatten_cons, List.length_append] at h
    rw [List.cons_append, locate, locate]
    by_cases hn : n < block.length
    · rw [if_pos hn, if_pos hn]
    · rw [if_neg hn, if_neg hn, ih (by omega)]

/-- A position before the end splits the blocks around the one it falls in. -/
theorem locate_split (blocks : List (List α)) (n : Nat) (h : n < blocks.flatten.length) :
    ∃ before block after, blocks = before ++ block :: after ∧
      n = before.flatten.length + (locate blocks n).2 ∧ (locate blocks n).1 = before.length ∧
      (locate blocks n).2 < block.length := by
  induction blocks generalizing n with
  | nil => exact absurd h (Nat.not_lt_zero n)
  | cons b rest ih =>
    rw [List.flatten_cons, List.length_append] at h
    by_cases hn : n < b.length
    · refine ⟨[], b, rest, rfl, ?_⟩
      simp [locate, hn]
    · obtain ⟨before, block, after, hsplit, hat, hindex, hlt⟩ := ih (n - b.length) (by omega)
      refine ⟨b :: before, block, after, by rw [hsplit]; rfl, ?_⟩
      simp only [locate, if_neg hn, List.flatten_cons, List.length_append, List.length_cons]
      exact ⟨by omega, by omega, hlt⟩

theorem locate_of_le {blocks : List (List α)} {n : Nat} (h : blocks.flatten.length ≤ n) :
    locate blocks n = (blocks.length, n - blocks.flatten.length) := by
  have happend := locate_append_of_le (b := []) h
  rw [List.append_nil] at happend
  exact happend

theorem locate_at {before after : List (List α)} {block : List α} {p : Nat} (hp : p < block.length) :
    locate (before ++ block :: after) (before.flatten.length + p) = (before.length, p) := by
  rw [locate_append_of_le (Nat.le_add_right _ _), Nat.add_sub_cancel_left, locate, if_pos hp]
  rfl

/-- What is after a position: the rest of its block and the blocks after it. -/
theorem drop_flatten_of_split (before after : List (List α)) (block : List α) (p : Nat)
    (hp : p ≤ block.length) :
    (before ++ block :: after).flatten.drop (before.flatten.length + p) = (block.drop p :: after).flatten := by
  rw [List.flatten_append, List.drop_length_add_append, List.flatten_cons, List.flatten_cons,
    List.drop_append_of_le_length hp]

end Lightstep.Library

import Mathlib.Data.List.Perm.Subperm
import Mathlib.Logic.Function.Basic

/-! Singly linked lists in memory.

A node is a pointer, and memory says what follows a node that is allocated. The nodes that come
after one another from a head form a list, and only one. A loop over them has a bound on its
rounds, which the number of nodes allocated meets. -/
namespace Lightstep.Library

variable {P σ : Type}

/-- From the head on, the pointers lead through these nodes and end. -/
def Linked (next : P → Option (Option P)) : Option P → List P → Prop
  | head, [] => head = none
  | head, p :: rest => head = some p ∧ ∃ after, next p = some after ∧ Linked next after rest

/-- A loop over the nodes. There is no result if a node is read that is not allocated. -/
def follow (next : P → Option (Option P)) (visit : σ → P → σ) : Nat → Option P → σ → Option σ
  | _, none, s => some s
  | 0, some _, _ => none
  | rounds + 1, some p, s => (next p).bind fun after => follow next visit rounds after (visit s p)

/-- A loop that looks for the node before one. -/
def nodeBefore [DecidableEq P] (next : P → Option (Option P)) (self : P) : Nat → Option P → Option P
  | _, none => none
  | 0, some _ => none
  | rounds + 1, some p =>
    (next p).bind fun after => if after = some self then some p else nodeBefore next self rounds after

namespace Linked
variable {next : P → Option (Option P)} {head after : Option P} {p q : P} {rest before l l' : List P}

/-- The pointers decide the list. -/
theorem unique (h : Linked next head l) (h' : Linked next head l') : l = l' := by
  induction l generalizing head l' with
  | nil =>
    cases l' with
    | nil => rfl
    | cons q rest' => exact absurd (h.symm.trans h'.1) nofun
  | cons p rest ih =>
    obtain ⟨rfl, after, hafter, hrest⟩ := h
    cases l' with
    | nil => exact absurd h' nofun
    | cons q rest' =>
      obtain ⟨heq, after', hafter', hrest'⟩ := h'
      obtain rfl := Option.some.inj heq
      obtain rfl := Option.some.inj (hafter.symm.trans hafter')
      rw [ih hrest hrest']

/-- The nodes from one of them on. -/
theorem drop (h : Linked next head (before ++ p :: rest)) : Linked next (some p) (p :: rest) := by
  induction before generalizing head with
  | nil =>
    obtain ⟨rfl, hrest⟩ := h
    exact ⟨rfl, hrest⟩
  | cons q before ih =>
    obtain ⟨-, after, -, hrest⟩ := h
    exact ih hrest

/-- **A list that ends does not go through a node twice.** -/
theorem nodup (h : Linked next head l) : l.Nodup := by
  induction l generalizing head with
  | nil => exact List.nodup_nil
  | cons p rest ih =>
    have hfrom : Linked next (some p) (p :: rest) := ⟨rfl, h.2⟩
    obtain ⟨-, after, -, hrest⟩ := h
    refine List.nodup_cons.mpr ⟨fun hmem => ?_, ih hrest⟩
    obtain ⟨before, others, rfl⟩ := List.append_of_mem hmem
    have hlater : Linked next (some p) (p :: others) := hrest.drop
    have hlength := congrArg List.length (hfrom.unique hlater)
    simp only [List.length_cons, List.length_append] at hlength
    omega

theorem allocated (h : Linked next head l) (hp : p ∈ l) : (next p).isSome = true := by
  induction l generalizing head with
  | nil => cases hp
  | cons q rest ih =>
    obtain ⟨-, after, hafter, hrest⟩ := h
    rcases List.mem_cons.mp hp with rfl | hp
    · rw [hafter]
      rfl
    · exact ih hrest hp

/-- Other memory may change. -/
theorem congr {next' : P → Option (Option P)} (h : Linked next head l) (hsame : ∀ p ∈ l, next' p = next p) :
    Linked next' head l := by
  induction l generalizing head with
  | nil => exact h
  | cons q rest ih =>
    obtain ⟨hhead, after, hafter, hrest⟩ := h
    refine ⟨hhead, after, ?_, ih hrest fun p hp => hsame p (List.mem_cons_of_mem q hp)⟩
    rw [hsame q (List.mem_cons_self ..), hafter]

theorem length_le [DecidableEq P] (h : Linked next head l) {nodes : List P}
    (hnodes : ∀ p, (next p).isSome = true → p ∈ nodes) : l.length ≤ nodes.length :=
  (List.Nodup.subperm h.nodup fun _ hp => hnodes _ (h.allocated hp)).length_le

/-- **A loop visits the nodes in turn.** -/
theorem follow_eq (h : Linked next head l) (visit : σ → P → σ) {rounds : Nat} (hrounds : l.length ≤ rounds) (s : σ) :
    follow next visit rounds head s = some (l.foldl visit s) := by
  induction l generalizing head rounds s with
  | nil =>
    obtain rfl := h
    cases rounds <;> rfl
  | cons p rest ih =>
    obtain ⟨rfl, after, hafter, hrest⟩ := h
    cases rounds with
    | zero => cases hrounds
    | succ rounds =>
      rw [follow, hafter, Option.bind_some, ih hrest (Nat.le_of_succ_le_succ hrounds)]
      rfl

/-- A node that comes after another is not the first. -/
theorem head_ne (h : Linked next head (before ++ q :: p :: rest)) : head ≠ some p := by
  rintro rfl
  have hsplit : Linked next (some p) ((before ++ [q]) ++ p :: rest) := by
    rw [← List.append_cons]
    exact h
  have hlength := congrArg List.length (hsplit.unique hsplit.drop)
  simp only [List.length_append, List.length_cons] at hlength
  omega

/-- The loop that looks for the node before one finds it. -/
theorem nodeBefore_eq [DecidableEq P] (h : Linked next head (before ++ q :: p :: rest)) {rounds : Nat}
    (hrounds : before.length < rounds) : nodeBefore next p rounds head = some q := by
  induction before generalizing head rounds with
  | nil =>
    obtain ⟨rfl, after, hafter, rfl, -⟩ := h
    cases rounds with
    | zero => cases hrounds
    | succ rounds => rw [nodeBefore, hafter, Option.bind_some, if_pos rfl]
  | cons first before ih =>
    obtain ⟨rfl, after, hafter, hrest⟩ := h
    cases rounds with
    | zero => cases hrounds
    | succ rounds =>
      rw [nodeBefore, hafter, Option.bind_some, if_neg (head_ne hrest)]
      exact ih hrest (Nat.lt_of_succ_lt_succ hrounds)

/-- **A node is taken out** by leading the one before it to what follows it. -/
theorem unlink [DecidableEq P] (h : Linked next head (before ++ q :: p :: rest)) :
    ∃ after, next p = some after ∧ Linked (Function.update next q (some after)) head (before ++ q :: rest) := by
  induction before generalizing head with
  | nil =>
    have hnodup := h.nodup
    obtain ⟨rfl, _, -, rfl, after, hafter, hrest⟩ := h
    refine ⟨after, hafter, rfl, after, Function.update_self .., hrest.congr fun r hr => Function.update_of_ne ?_ ..⟩
    rintro rfl
    simp [hr] at hnodup
  | cons first before ih =>
    have hnodup := h.nodup
    obtain ⟨rfl, next', hnext, hrest⟩ := h
    obtain ⟨after, hafter, hunlinked⟩ := ih hrest
    refine ⟨after, hafter, rfl, next', ?_, hunlinked⟩
    rw [Function.update_of_ne, hnext]
    rintro rfl
    simp at hnodup

end Linked
end Lightstep.Library

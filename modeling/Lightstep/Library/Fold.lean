import Mathlib.Data.List.Perm.Basic

/-! Folds, and folds whose steps may fail. -/
namespace Lightstep.Library
variable {m : Type → Type} [Monad m] [LawfulMonad m] {σ α : Type}

/-- Steps that each add one element to what is gathered add the list of them all. -/
theorem foldl_gather {β τ : Type} {f : σ → τ → σ} {part : α → τ} {g : α → β} (gather : σ → List β → σ)
    (hnil : ∀ s, gather s [] = s) (hcons : ∀ s x ys, gather (f s (part x)) ys = gather s (g x :: ys)) (l : List α)
    (s : σ) : (l.map part).foldl f s = gather s (l.map g) := by
  induction l generalizing s with
  | nil => exact (hnil s).symm
  | cons x rest ih =>
    rw [List.map_cons, List.foldl_cons, ih, List.map_cons]
    exact hcons s x _

omit [Monad m] [LawfulMonad m] in
/-- What is seen of the accumulator is folded over what the elements have for it. -/
theorem foldl_view {β τ : Type} (view : σ → τ) {f : σ → α → σ} {part : α → Option β} {g : τ → β → τ}
    (h : ∀ s x, view (f s x) = (part x).elim (view s) (g (view s))) (l : List α) (s : σ) :
    view (l.foldl f s) = (l.filterMap part).foldl g (view s) := by
  induction l generalizing s with
  | nil => rfl
  | cons x rest ih =>
    rw [List.foldl_cons, ih, h]
    cases hpart : part x with
    | none => rw [List.filterMap_cons_none hpart]; rfl
    | some b => rw [List.filterMap_cons_some hpart]; rfl

/-- Steps that succeed fold as if they could not fail. -/
theorem foldlM_eq_foldl {f : σ → α → m σ} {g : σ → α → σ} {l : List α} (h : ∀ x ∈ l, ∀ s, f s x = pure (g s x))
    (s : σ) : l.foldlM f s = pure (l.foldl g s) := by
  induction l generalizing s with
  | nil => rfl
  | cons x rest ih =>
    have hrest := ih (fun y hy => h y (List.mem_cons_of_mem x hy)) (g s x)
    rw [List.foldlM_cons, h x (List.mem_cons_self ..), pure_bind, List.foldl_cons]
    exact hrest

/-- A fold does not depend on the order of what it goes through, if steps of related elements
commute and any two are related. -/
theorem foldlM_perm {f : σ → α → m σ} {R : α → α → Prop} (hsymm : ∀ {x y}, R x y → R y x)
    (hcomm : ∀ x y, R x y → ∀ s, (f s x >>= fun s => f s y) = (f s y >>= fun s => f s x)) {l₁ l₂ : List α}
    (hperm : l₁.Perm l₂) (hpairwise : l₁.Pairwise R) (s : σ) : l₁.foldlM f s = l₂.foldlM f s := by
  induction hperm generalizing s with
  | nil => rfl
  | cons x _ ih =>
    rw [List.foldlM_cons, List.foldlM_cons]
    congr 1
    funext s
    exact ih (List.pairwise_cons.mp hpairwise).2 s
  | swap x y l =>
    have hrelated : R y x := (List.pairwise_cons.mp hpairwise).1 x (List.mem_cons_self ..)
    simp only [List.foldlM_cons, ← bind_assoc]
    rw [hcomm y x hrelated s]
  | trans hperm₁ _ ih₁ ih₂ =>
    exact (ih₁ hpairwise s).trans (ih₂ ((hperm₁.pairwise_iff hsymm).mp hpairwise) s)

omit [Monad m] [LawfulMonad m] in
/-- What is found does not depend on the order, if there is at most one of it. -/
theorem find?_perm {p : α → Bool} {l₁ l₂ : List α} (hperm : l₁.Perm l₂)
    (hunique : ∀ x ∈ l₁, ∀ y ∈ l₁, p x = true → p y = true → x = y) : l₁.find? p = l₂.find? p := by
  cases hfind : l₁.find? p with
  | none =>
    refine (List.find?_eq_none.mpr fun x hx => ?_).symm
    exact List.find?_eq_none.mp hfind x (hperm.mem_iff.mpr hx)
  | some x =>
    have hx : x ∈ l₁ := List.mem_of_find?_eq_some hfind
    cases hfind' : l₂.find? p with
    | none => exact absurd (List.find?_some hfind) (List.find?_eq_none.mp hfind' x (hperm.mem_iff.mp hx))
    | some y =>
      have hy : y ∈ l₁ := hperm.mem_iff.mpr (List.mem_of_find?_eq_some hfind')
      rw [hunique x hx y hy (List.find?_some hfind) (List.find?_some hfind')]

/-- An image of the accumulator is folded as the accumulator is. -/
theorem foldlM_hom {τ : Type} {f : σ → α → m σ} {f' : τ → α → m τ} {g : σ → τ}
    (h : ∀ s x, f' (g s) x = g <$> f s x) (l : List α) (s : σ) : l.foldlM f' (g s) = g <$> l.foldlM f s := by
  induction l generalizing s with
  | nil => rw [List.foldlM_nil, List.foldlM_nil, map_pure]
  | cons x rest ih =>
    rw [List.foldlM_cons, List.foldlM_cons, h, map_bind, bind_map_left]
    congr 1
    funext s
    exact ih s

theorem mapError_bind {ε ε' β : Type} (g : ε → ε') (x : Except ε α) (f : α → Except ε β) :
    (x >>= f).mapError g = x.mapError g >>= fun a => (f a).mapError g := by
  cases x <;> rfl

/-- A mapped error changes no success. -/
theorem mapError_eq_ok {ε ε' : Type} {g : ε → ε'} {x : Except ε α} {a : α} : x.mapError g = .ok a ↔ x = .ok a := by
  cases x <;> simp [Except.mapError]

/-- The errors of a fold are mapped where they arise. -/
theorem foldlM_mapError {ε ε' : Type} (g : ε → ε') (f : σ → α → Except ε σ) (l : List α) (s : σ) :
    (l.foldlM f s).mapError g = l.foldlM (fun s x => (f s x).mapError g) s := by
  induction l generalizing s with
  | nil => rfl
  | cons x rest ih =>
    rw [List.foldlM_cons, List.foldlM_cons, mapError_bind]
    congr 1
    funext s
    exact ih s

/-- What holds of no steps and survives one more step at the front holds of a fold that succeeds. -/
theorem foldlM_ok {ε : Type} {f : σ → α → Except ε σ} {P : List α → σ → σ → Prop} (hnil : ∀ s, P [] s s)
    (hcons : ∀ {x rest s s₁ s₂}, f s x = .ok s₁ → P rest s₁ s₂ → P (x :: rest) s s₂) {l : List α} {s s' : σ}
    (h : l.foldlM f s = .ok s') : P l s s' := by
  induction l generalizing s with
  | nil =>
    cases h
    exact hnil _
  | cons x rest ih =>
    rw [List.foldlM_cons] at h
    cases hx : f s x with
    | error e =>
      rw [hx] at h
      cases h
    | ok s₁ =>
      rw [hx] at h
      exact hcons hx (ih h)

/-- A fold that fails fails at an element. -/
theorem foldlM_error {ε : Type} {f : σ → α → Except ε σ} {l : List α} {s : σ} {e : ε} (h : l.foldlM f s = .error e) :
    ∃ x ∈ l, ∃ s', f s' x = .error e := by
  induction l generalizing s with
  | nil => cases h
  | cons x rest ih =>
    rw [List.foldlM_cons] at h
    cases hx : f s x with
    | error e' =>
      rw [hx] at h
      cases h
      exact ⟨x, List.mem_cons_self .., s, hx⟩
    | ok s₁ =>
      rw [hx] at h
      obtain ⟨y, hy, hfailed⟩ := ih h
      exact ⟨y, List.mem_cons_of_mem x hy, hfailed⟩

end Lightstep.Library

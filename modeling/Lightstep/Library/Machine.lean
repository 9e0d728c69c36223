/-! Machines: a partial step function over events, and what holds along its runs.

An event that cannot happen in a state has no step there. What an environment
promises is a guard on pairs of a state and the event taken from it, so that one
induction serves the runs of a machine and the runs that keep a promise. -/
namespace Lightstep.Library

/-- States `S` moved by events `E`. -/
structure Machine (S E : Type) where
  step : S → E → Option S

namespace Machine
variable {S E : Type} (M : Machine S E)

/-- The state the events lead to, if every one of them can happen. -/
def run : S → List E → Option S
  | s, [] => some s
  | s, e :: rest => (M.step s e).bind fun t => run t rest

/-- Every event of the run satisfies `G` in the state it is taken from. -/
def Guarded (G : S → E → Prop) : S → List E → Prop
  | _, [] => True
  | s, e :: rest => G s e ∧ ∀ t, M.step s e = some t → Guarded G t rest

/-- A guard that can be tested can be tested along a run. -/
instance decidableGuarded {G : S → E → Prop} [∀ s e, Decidable (G s e)] :
    (s : S) → (events : List E) → Decidable (M.Guarded G s events)
  | _, [] => isTrue trivial
  | s, e :: rest =>
    match h : M.step s e with
    | none => decidable_of_iff (G s e) ⟨fun hG => ⟨hG, fun t ht => by rw [h] at ht; cases ht⟩, And.left⟩
    | some u =>
      have : Decidable (M.Guarded G u rest) := decidableGuarded u rest
      decidable_of_iff (G s e ∧ M.Guarded G u rest)
        ⟨fun hG => ⟨hG.1, fun t ht => by rw [h] at ht; cases ht; exact hG.2⟩, fun hG => ⟨hG.1, hG.2 u h⟩⟩

theorem run_cons {s t : S} {e : E} {rest : List E} :
    M.run s (e :: rest) = some t ↔ ∃ u, M.step s e = some u ∧ M.run u rest = some t := by
  simp [run, Option.bind_eq_some_iff]

theorem run_append (s : S) (a b : List E) :
    M.run s (a ++ b) = (M.run s a).bind fun t => M.run t b := by
  induction a generalizing s with
  | nil => rfl
  | cons e rest ih =>
    simp only [List.cons_append, run]
    cases M.step s e with
    | none => rfl
    | some t => exact ih t

/-- A guard speaks of each event and the state the events before it lead to. -/
theorem guarded_iff {G : S → E → Prop} {s : S} {events : List E} :
    M.Guarded G s events ↔ ∀ before e rest t, events = before ++ e :: rest → M.run s before = some t → G t e := by
  induction events generalizing s with
  | nil =>
    refine ⟨fun _ before e rest t hsplit => ?_, fun _ => trivial⟩
    exact absurd hsplit.symm (List.append_ne_nil_of_right_ne_nil _ (List.cons_ne_nil _ _))
  | cons d events ih =>
    constructor
    · rintro ⟨hd, hrest⟩ before e rest t hsplit hrun
      cases before with
      | nil =>
        obtain ⟨rfl, -⟩ := List.cons.inj hsplit
        cases hrun
        exact hd
      | cons b before =>
        obtain ⟨rfl, htail⟩ := List.cons.inj hsplit
        obtain ⟨u, hstep, hrun⟩ := M.run_cons.mp hrun
        exact ih.mp (hrest u hstep) before e rest t htail hrun
    · intro h
      refine ⟨h [] d events s rfl rfl, fun u hstep => ih.mpr ?_⟩
      intro before e rest t hsplit hrun
      exact h (d :: before) e rest t (by rw [hsplit]; rfl) (M.run_cons.mpr ⟨u, hstep, hrun⟩)

theorem guarded_append_left {G : S → E → Prop} {s : S} {a b : List E} (h : M.Guarded G s (a ++ b)) :
    M.Guarded G s a := by
  rw [guarded_iff] at h ⊢
  intro before e rest t hsplit hrun
  exact h before e (rest ++ b) t (by rw [hsplit, List.append_assoc]; rfl) hrun

theorem guarded_append_right {G : S → E → Prop} {s t : S} {a b : List E} (h : M.Guarded G s (a ++ b))
    (hrun : M.run s a = some t) : M.Guarded G t b := by
  rw [guarded_iff] at h ⊢
  intro before e rest u hsplit hbefore
  refine h (a ++ before) e rest u (by rw [hsplit, List.append_assoc]) ?_
  rw [run_append, hrun]
  exact hbefore

theorem run_snoc {s t u : S} {events : List E} {e : E} (hrun : M.run s events = some t)
    (hstep : M.step t e = some u) : M.run s (events ++ [e]) = some u := by
  rw [run_append, hrun]
  show (M.step t e).bind (fun v => some v) = some u
  rw [hstep]
  rfl

/-- What a step keeps, wherever the guard holds, a guarded run keeps. -/
theorem guarded_invariant {I : S → Prop} {G : S → E → Prop}
    (preserved : ∀ s e t, I s → G s e → M.step s e = some t → I t)
    (events : List E) (s t : S) (hI : I s) (hG : M.Guarded G s events)
    (hrun : M.run s events = some t) : I t := by
  induction events generalizing s with
  | nil =>
    cases hrun
    exact hI
  | cons e rest ih =>
    obtain ⟨u, hstep, hrest⟩ := M.run_cons.mp hrun
    exact ih u (preserved s e u hI hG.1 hstep) (hG.2 u hstep) hrest

/-- Where every event has a step that keeps what it needs, a guarded run comes to its end. -/
theorem guarded_run_exists {I : S → Prop} {G : S → E → Prop}
    (progress : ∀ s e, I s → G s e → ∃ t, M.step s e = some t ∧ I t) {events : List E} {s : S} (hI : I s)
    (hG : M.Guarded G s events) : ∃ t, M.run s events = some t ∧ I t := by
  induction events generalizing s with
  | nil => exact ⟨s, rfl, hI⟩
  | cons e rest ih =>
    obtain ⟨u, hstep, hu⟩ := progress s e hI hG.1
    obtain ⟨t, hrun, ht⟩ := ih hu (hG.2 u hstep)
    exact ⟨t, M.run_cons.mpr ⟨u, hstep, hrun⟩, ht⟩

/-- A guard may use what is known of every event. -/
theorem guarded_and_mem {G : S → E → Prop} {P : E → Prop} {s : S} {events : List E}
    (hG : M.Guarded G s events) (hP : ∀ e ∈ events, P e) : M.Guarded (fun s e => G s e ∧ P e) s events := by
  induction events generalizing s with
  | nil => trivial
  | cons e rest ih =>
    exact ⟨⟨hG.1, hP e (List.mem_cons_self ..)⟩,
      fun t hstep => ih (hG.2 t hstep) fun d hd => hP d (List.mem_cons_of_mem e hd)⟩

theorem guarded_true (events : List E) (s : S) : M.Guarded (fun _ _ => True) s events := by
  induction events generalizing s with
  | nil => trivial
  | cons e rest ih => exact ⟨trivial, fun t _ => ih t⟩

/-- What a step keeps a run keeps. -/
theorem run_invariant {I : S → Prop} (preserved : ∀ s e t, I s → M.step s e = some t → I t)
    (events : List E) (s t : S) (hI : I s) (hrun : M.run s events = some t) : I t :=
  M.guarded_invariant (G := fun _ _ => True) (fun s e t hs _ => preserved s e t hs) events s t hI
    (M.guarded_true events s) hrun

/-- Machines whose steps keep them related run alike: where one can go on, so can the other. -/
theorem run_rel {T : Type} {N : Machine T E} {R : S → T → Prop}
    (step : ∀ s t e, R s t → Option.Rel R (M.step s e) (N.step t e)) (events : List E) {s : S} {t : T} (h : R s t) :
    Option.Rel R (M.run s events) (N.run t events) := by
  induction events generalizing s t with
  | nil => exact .some h
  | cons e rest ih =>
    have hstep := step s t e h
    rw [run, run]
    cases hs : M.step s e with
    | none =>
      rw [hs] at hstep
      cases ht : N.step t e with
      | none => exact .none
      | some t' =>
        rw [ht] at hstep
        cases hstep
    | some s' =>
      rw [hs] at hstep
      cases ht : N.step t e with
      | none =>
        rw [ht] at hstep
        cases hstep
      | some t' =>
        rw [ht] at hstep
        cases hstep with
        | some h' => exact ih h'

end Machine
end Lightstep.Library

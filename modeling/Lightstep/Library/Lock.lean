import Lightstep.Library.Machine
import Mathlib.Logic.Function.Basic

/-! Objects behind a spin lock.

A call takes the lock, goes through its steps, each on the state and on what the call remembers,
and gives the lock back. Threads take their steps in any order. Kept beside the state is in which
order the calls got the lock: what the threads see is what the calls would give if they were made
one after the other in that order. -/
namespace Lightstep.Library

/-- The steps of a call, what it remembers first, and what it returns of what it remembers. -/
structure LockedObject (C σ L R : Type) where
  steps : C → List (σ × L → σ × L)
  memory : C → L
  result : L → R

/-- Where a thread is. -/
inductive LockPhase (C σ L : Type) where
  | outside
  | spinning (c : C)
  | inside (c : C) (steps : List (σ × L → σ × L)) (memory : L)

/-- The call that has not got the lock yet. -/
def LockPhase.spins {C σ L : Type} : LockPhase C σ L → List C
  | .spinning c => [c]
  | _ => []

structure Locked (T C σ L R : Type) where
  locked : Bool
  state : σ
  phase : T → LockPhase C σ L
  order : List (T × C)
  returned : T → List (C × R)

inductive LockEvent (T C : Type) where
  | call (thread : T) (c : C)
  | testAndSet (thread : T)
  | step (thread : T)
  | clear (thread : T)

namespace LockedObject
variable {T C σ L R : Type} (o : LockedObject C σ L R)

/-- What is left of a call, made in one go. -/
def finish (steps : List (σ × L → σ × L)) (s : σ) (memory : L) : σ × R :=
  let st := steps.foldl (fun st step => step st) (s, memory)
  (st.1, o.result st.2)

/-- A call, made in one go. -/
def call (c : C) (s : σ) : σ × R := o.finish (o.steps c) s (o.memory c)

variable [DecidableEq T]

/-- A call by a thread, where nobody else is. -/
def sequentialCall (st : σ × (T → List (C × R))) (call : T × C) : σ × (T → List (C × R)) :=
  ((o.call call.2 st.1).1, Function.update st.2 call.1 (st.2 call.1 ++ [(call.2, (o.call call.2 st.1).2)]))

/-- Calls one after the other. -/
def sequential (s : σ) (calls : List (T × C)) : σ × (T → List (C × R)) :=
  calls.foldl o.sequentialCall (s, fun _ => [])

/-- The state after calls. -/
def run (s : σ) (calls : List C) : σ := calls.foldl (fun s c => (o.call c s).1) s

/-- What calls return, of whatever thread. -/
def answers : σ → List (T × C) → List (T × C × R)
  | _, [] => []
  | s, (t, c) :: rest => (t, c, (o.call c s).2) :: answers (o.call c s).1 rest

def new (s : σ) : Locked T C σ L R := ⟨false, s, fun _ => .outside, [], fun _ => []⟩

/-- One atomic step of a thread. A thread that finds the lock taken goes on spinning. -/
def step (m : Locked T C σ L R) : LockEvent T C → Option (Locked T C σ L R)
  | .call t c =>
    match m.phase t with
    | .outside => some {m with phase := Function.update m.phase t (.spinning c)}
    | _ => none
  | .testAndSet t =>
    match m.phase t with
    | .spinning c =>
      if m.locked then some m
      else
        some {m with
          locked := true
          phase := Function.update m.phase t (.inside c (o.steps c) (o.memory c))
          order := m.order ++ [(t, c)]}
    | _ => none
  | .step t =>
    match m.phase t with
    | .inside c (step :: rest) memory =>
      some {m with
        state := (step (m.state, memory)).1
        phase := Function.update m.phase t (.inside c rest (step (m.state, memory)).2)}
    | _ => none
  | .clear t =>
    match m.phase t with
    | .inside c [] memory =>
      some {m with
        locked := false
        phase := Function.update m.phase t .outside
        returned := Function.update m.returned t (m.returned t ++ [(c, o.result memory)])}
    | _ => none

def machine (T : Type) [DecidableEq T] (o : LockedObject C σ L R) : Machine (Locked T C σ L R) (LockEvent T C) :=
  ⟨o.step⟩

/-! ### The order of the lock -/

/-- The calls of a thread, by the events of a run. -/
def callsOf (t : T) : LockEvent T C → List C
  | .call u c => if u = t then [c] else []
  | _ => []

/-- What is a thread's, of what is noted with threads. -/
def ofThread {A : Type} (t : T) (noted : List (T × A)) : List A := (noted.filter fun n => n.1 = t).map Prod.snd

theorem sequential_eq (s : σ) (calls : List (T × C)) :
    o.sequential s calls = (o.run s (calls.map Prod.snd), fun t => ofThread t (o.answers s calls)) := by
  suffices h : ∀ returned : T → List (C × R), calls.foldl o.sequentialCall (s, returned) =
      (o.run s (calls.map Prod.snd), fun t => returned t ++ ofThread t (o.answers s calls)) from h fun _ => []
  induction calls generalizing s with
  | nil =>
    intro returned
    simp [run, answers, ofThread]
  | cons call rest ih =>
    intro returned
    rw [List.foldl_cons, sequentialCall, ih]
    refine Prod.ext rfl (funext fun t => ?_)
    by_cases ht : call.1 = t
    · subst ht
      simp [answers, ofThread]
    · simp [answers, ofThread, ht, Ne.symm ht]

/-- One thread at most is inside, and what its call has left to do makes the state what the order says. -/
structure Inv (s : σ) (m : Locked T C σ L R) : Prop where
  locked : ∀ t c steps memory, m.phase t = .inside c steps memory → m.locked = true
  alone : ∀ t c steps memory, m.phase t = .inside c steps memory →
    o.sequential s m.order = ((o.finish steps m.state memory).1,
      Function.update m.returned t (m.returned t ++ [(c, (o.finish steps m.state memory).2)])) ∧
    ∀ u, u ≠ t → ∀ c steps memory, m.phase u ≠ .inside c steps memory
  taken : m.locked = true → ∃ t c steps memory, m.phase t = .inside c steps memory
  free : m.locked = false → o.sequential s m.order = (m.state, m.returned)

section
variable {o} {s : σ} {m m' : Locked T C σ L R} {t : T}

/-! What each step does. -/

theorem call_cases {c : C} (h : o.step m (.call t c) = some m') :
    m.phase t = .outside ∧ m' = {m with phase := Function.update m.phase t (.spinning c)} := by
  unfold LockedObject.step at h
  cases hphase : m.phase t <;> simp only [hphase] at h <;> cases h
  exact ⟨rfl, rfl⟩

theorem testAndSet_cases (h : o.step m (.testAndSet t) = some m') :
    ∃ c, m.phase t = .spinning c ∧ ((m.locked = true ∧ m' = m) ∨ (m.locked = false ∧ m' = {m with
      locked := true
      phase := Function.update m.phase t (.inside c (o.steps c) (o.memory c))
      order := m.order ++ [(t, c)]})) := by
  unfold LockedObject.step at h
  cases hphase : m.phase t <;> simp only [hphase] at h
  case spinning c =>
    cases hlocked : m.locked <;> simp only [hlocked, Bool.false_eq_true, if_false, if_true] at h <;> cases h
    · exact ⟨c, rfl, .inr ⟨rfl, rfl⟩⟩
    · exact ⟨c, rfl, .inl ⟨rfl, rfl⟩⟩
  all_goals cases h

theorem inner_cases (h : o.step m (.step t) = some m') :
    ∃ c step rest memory, m.phase t = .inside c (step :: rest) memory ∧ m' = {m with
      state := (step (m.state, memory)).1
      phase := Function.update m.phase t (.inside c rest (step (m.state, memory)).2)} := by
  unfold LockedObject.step at h
  cases hphase : m.phase t <;> simp only [hphase] at h
  case inside c steps memory =>
    cases steps <;> cases h
    exact ⟨c, _, _, memory, rfl, rfl⟩
  all_goals cases h

theorem clear_cases (h : o.step m (.clear t) = some m') :
    ∃ c memory, m.phase t = .inside c [] memory ∧ m' = {m with
      locked := false
      phase := Function.update m.phase t .outside
      returned := Function.update m.returned t (m.returned t ++ [(c, o.result memory)])} := by
  unfold LockedObject.step at h
  cases hphase : m.phase t <;> simp only [hphase] at h
  case inside c steps memory =>
    cases steps <;> cases h
    exact ⟨c, memory, rfl, rfl⟩
  all_goals cases h

/-! What each step keeps. -/

theorem new_inv : o.Inv s (new s : Locked T C σ L R) where
  locked _ _ _ _ h := by cases h
  alone _ _ _ _ h := by cases h
  taken h := by cases h
  free _ := rfl

/-- The thread that is inside has its call to finish. -/
theorem Inv.of_inside {c : C} {steps : List (σ × L → σ × L)} {memory : L}
    (hphase : m.phase t = .inside c steps memory) (hlocked : m.locked = true)
    (hothers : ∀ u, u ≠ t → ∀ c steps memory, m.phase u ≠ .inside c steps memory)
    (horder : o.sequential s m.order = ((o.finish steps m.state memory).1,
      Function.update m.returned t (m.returned t ++ [(c, (o.finish steps m.state memory).2)]))) : o.Inv s m where
  locked _ _ _ _ _ := hlocked
  alone u c' steps' memory' hu := by
    by_cases hut : u = t
    · subst hut
      rw [hphase] at hu
      cases hu
      exact ⟨horder, hothers⟩
    · exact absurd hu (hothers u hut c' steps' memory')
  taken _ := ⟨t, c, steps, memory, hphase⟩
  free hfree := by
    rw [hlocked] at hfree
    cases hfree

/-- A thread that is not inside goes on to where it is not either. -/
theorem Inv.outside (h : o.Inv s m) {phase : LockPhase C σ L}
    (hold : ∀ c steps memory, m.phase t ≠ .inside c steps memory)
    (hnew : ∀ c steps memory, phase ≠ .inside c steps memory) :
    o.Inv s {m with phase := Function.update m.phase t phase} := by
  have hinside : ∀ u c steps memory, Function.update m.phase t phase u = .inside c steps memory ↔
      m.phase u = .inside c steps memory := by
    intro u c steps memory
    by_cases hut : u = t
    · subst hut
      rw [Function.update_self]
      exact ⟨fun hu => absurd hu (hnew c steps memory), fun hu => absurd hu (hold c steps memory)⟩
    · rw [Function.update_of_ne hut]
  refine ⟨fun u c steps memory hu => h.locked u c steps memory ((hinside ..).mp hu), fun u c steps memory hu => ?_,
    fun hlocked => ?_, h.free⟩
  · obtain ⟨horder, hothers⟩ := h.alone u c steps memory ((hinside ..).mp hu)
    exact ⟨horder, fun v hv c steps memory hphase => hothers v hv c steps memory ((hinside ..).mp hphase)⟩
  · obtain ⟨u, c, steps, memory, hu⟩ := h.taken hlocked
    exact ⟨u, c, steps, memory, (hinside ..).mpr hu⟩

theorem Inv.testAndSet (h : o.Inv s m) (hstep : o.step m (.testAndSet t) = some m') : o.Inv s m' := by
  obtain ⟨c, hphase, ⟨-, rfl⟩ | ⟨hlocked, rfl⟩⟩ := testAndSet_cases hstep
  · exact h
  · refine Inv.of_inside (t := t) (Function.update_self ..) rfl (fun u hu c' steps memory hinside => ?_) ?_
    · have hinside : Function.update m.phase t _ u = .inside c' steps memory := hinside
      rw [Function.update_of_ne hu] at hinside
      have htaken := h.locked u c' steps memory hinside
      rw [hlocked] at htaken
      cases htaken
    · have horder := h.free hlocked
      unfold sequential at horder ⊢
      rw [List.foldl_append, horder]
      rfl

theorem Inv.inner (h : o.Inv s m) (hstep : o.step m (.step t) = some m') : o.Inv s m' := by
  obtain ⟨c, step, rest, memory, hphase, rfl⟩ := inner_cases hstep
  obtain ⟨horder, hothers⟩ := h.alone t c (step :: rest) memory hphase
  refine Inv.of_inside (t := t) (Function.update_self ..) (h.locked t _ _ _ hphase)
    (fun u hu c' steps memory' hinside => ?_) horder
  have hinside : Function.update m.phase t _ u = .inside c' steps memory' := hinside
  rw [Function.update_of_ne hu] at hinside
  exact hothers u hu c' steps memory' hinside

theorem Inv.clear (h : o.Inv s m) (hstep : o.step m (.clear t) = some m') : o.Inv s m' := by
  obtain ⟨c, memory, hphase, rfl⟩ := clear_cases hstep
  obtain ⟨horder, hothers⟩ := h.alone t c [] memory hphase
  have hnobody : ∀ u c steps memory, Function.update m.phase t .outside u ≠ .inside c steps memory := by
    intro u c steps memory
    by_cases hut : u = t
    · subst hut
      simp
    · rw [Function.update_of_ne hut]
      exact hothers u hut c steps memory
  exact
    { locked := fun u _ _ _ hu => absurd hu (hnobody u _ _ _)
      alone := fun u _ _ _ hu => absurd hu (hnobody u _ _ _)
      taken := fun hlocked => by cases hlocked
      free := fun _ => horder }

theorem Inv.step (h : o.Inv s m) {e : LockEvent T C} (hstep : o.step m e = some m') : o.Inv s m' := by
  cases e with
  | call t c =>
    obtain ⟨hphase, rfl⟩ := call_cases hstep
    exact h.outside (by simp [hphase]) (by simp)
  | testAndSet t => exact h.testAndSet hstep
  | step t => exact h.inner hstep
  | clear t => exact h.clear hstep

/-- What has been called is in the order of the lock, or spins for it. -/
theorem step_calls (t : T) {e : LockEvent T C} (hstep : o.step m e = some m') :
    ofThread t m'.order ++ (m'.phase t).spins = ofThread t m.order ++ (m.phase t).spins ++ callsOf t e := by
  cases e with
  | call u c =>
    obtain ⟨hphase, rfl⟩ := call_cases hstep
    by_cases hut : u = t
    · subst hut
      simp [callsOf, hphase, LockPhase.spins]
    · simp [callsOf, hut, Ne.symm hut]
  | testAndSet u =>
    obtain ⟨c, hphase, ⟨-, rfl⟩ | ⟨-, rfl⟩⟩ := testAndSet_cases hstep
    · simp [callsOf]
    · by_cases hut : u = t
      · subst hut
        simp [callsOf, hphase, LockPhase.spins, ofThread]
      · simp [callsOf, hut, Ne.symm hut, ofThread]
  | step u =>
    obtain ⟨c, step, rest, memory, hphase, rfl⟩ := inner_cases hstep
    by_cases hut : u = t
    · subst hut
      simp [callsOf, hphase, LockPhase.spins]
    · simp [callsOf, Ne.symm hut]
  | clear u =>
    obtain ⟨c, memory, hphase, rfl⟩ := clear_cases hstep
    by_cases hut : u = t
    · subst hut
      simp [callsOf, hphase, LockPhase.spins]
    · simp [callsOf, Ne.symm hut]

theorem run_inv {events : List (LockEvent T C)} (h : o.Inv s m) (hrun : (machine T o).run m events = some m') :
    o.Inv s m' :=
  (machine T o).run_invariant (fun _ _ _ h hstep => h.step hstep) events m m' h hrun

theorem run_calls (t : T) {events : List (LockEvent T C)} (hrun : (machine T o).run m events = some m') :
    ofThread t m'.order ++ (m'.phase t).spins = ofThread t m.order ++ (m.phase t).spins ++ events.flatMap (callsOf t) := by
  induction events generalizing m with
  | nil =>
    cases hrun
    simp
  | cons e rest ih =>
    obtain ⟨u, hstep, hrest⟩ := (machine T o).run_cons.mp hrun
    rw [ih hrest, step_calls t hstep, List.flatMap_cons, List.append_assoc]

/-- **Calls behind a lock are as if they were made one after the other**: every thread's in the order it makes
them, and all of them in the order in which they get the lock. -/
theorem linearizable {events : List (LockEvent T C)} (hrun : (machine T o).run (new s) events = some m)
    (hfree : m.locked = false) : m.state = o.run s (m.order.map Prod.snd) ∧
      (∀ t, m.returned t = ofThread t (o.answers s m.order)) ∧
      ∀ t, events.flatMap (callsOf t) = ofThread t m.order ++ (m.phase t).spins := by
  have horder := (run_inv new_inv hrun).free hfree
  rw [sequential_eq] at horder
  obtain ⟨hstate, hreturned⟩ := Prod.mk.inj horder
  exact ⟨hstate.symm, fun t => (congrFun hreturned t).symm, fun t => (run_calls t hrun).symm⟩

end

end LockedObject
end Lightstep.Library

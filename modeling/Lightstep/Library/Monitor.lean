/-! Monitors: a state behind a mutex, and threads that wait for it on a condition variable.

A thread waits for something of its own, `ready a`, which it tests with the mutex held and
blocks on if it does not hold. The state changes with the mutex held only, and a thread that has
changed it owes a notification, which it may give after it has let go of the mutex. Wakeups
without a notification, by a timeout or for no reason, may happen at any time. -/
namespace Lightstep.Library

/-- Where a thread is: `tested a` still holds the mutex, and `woken` does not have it again yet. -/
inductive WaitPhase (α : Type) where
  | outside
  | inside
  | tested (a : α)
  | blocked (a : α)
  | woken
  deriving DecidableEq

/-- Whether the thread has the mutex. -/
def WaitPhase.holds {α : Type} : WaitPhase α → Bool
  | inside => true
  | tested _ => true
  | _ => false

def WaitPhase.notified {α : Type} : WaitPhase α → WaitPhase α
  | blocked _ => woken
  | phase => phase

structure Monitor (T α σ : Type) where
  state : σ
  owner : Option T
  phase : T → WaitPhase α
  owing : T → Bool

namespace Monitor
variable {T α σ : Type} [DecidableEq T]

def new (state : σ) : Monitor T α σ := ⟨state, none, fun _ => .outside, fun _ => false⟩

def setPhase (t : T) (phase : WaitPhase α) (m : Monitor T α σ) : Monitor T α σ :=
  {m with phase := fun u => if u = t then phase else m.phase u}

def acquire (t : T) (m : Monitor T α σ) : Option (Monitor T α σ) :=
  match m.owner, m.phase t with
  | none, .outside => some {m.setPhase t .inside with owner := some t}
  | none, .woken => some {m.setPhase t .inside with owner := some t}
  | _, _ => none

def release (t : T) (m : Monitor T α σ) : Option (Monitor T α σ) :=
  match m.phase t with
  | .inside => some {m.setPhase t .outside with owner := none}
  | _ => none

/-- A change of the state, which is to be notified. -/
def write (t : T) (f : σ → σ) (m : Monitor T α σ) : Option (Monitor T α σ) :=
  match m.phase t with
  | .inside => some {m with state := f m.state, owing := fun u => u = t || m.owing u}
  | _ => none

/-- A test that fails, with which the thread goes on to block. -/
def test (ready : α → σ → Bool) (t : T) (a : α) (m : Monitor T α σ) : Option (Monitor T α σ) :=
  match m.phase t with
  | .inside => if ready a m.state then none else some (m.setPhase t (.tested a))
  | _ => none

def block (t : T) (m : Monitor T α σ) : Option (Monitor T α σ) :=
  match m.phase t with
  | .tested a => some {m.setPhase t (.blocked a) with owner := none}
  | _ => none

def wake (t : T) (m : Monitor T α σ) : Option (Monitor T α σ) :=
  match m.phase t with
  | .blocked _ => some (m.setPhase t .woken)
  | _ => none

def notifyAll (t : T) (m : Monitor T α σ) : Monitor T α σ :=
  {m with phase := fun u => (m.phase u).notified, owing := fun u => u ≠ t && m.owing u}

/-! ### What a step does -/

section
variable {ready : α → σ → Bool} {m m' : Monitor T α σ} {t : T}

theorem acquire_cases (h : m.acquire t = some m') :
    m.owner = none ∧ (m.phase t = .outside ∨ m.phase t = .woken) ∧ m' = {m.setPhase t .inside with owner := some t} := by
  unfold acquire at h
  split at h
  · cases h
    exact ⟨‹_›, .inl ‹_›, rfl⟩
  · cases h
    exact ⟨‹_›, .inr ‹_›, rfl⟩
  · cases h

theorem release_cases (h : m.release t = some m') :
    m.phase t = .inside ∧ m' = {m.setPhase t .outside with owner := none} := by
  unfold release at h
  split at h
  · cases h
    exact ⟨‹_›, rfl⟩
  · cases h

theorem write_cases {f : σ → σ} (h : m.write t f = some m') :
    m.phase t = .inside ∧ m' = {m with state := f m.state, owing := fun u => u = t || m.owing u} := by
  unfold write at h
  split at h
  · cases h
    exact ⟨‹_›, rfl⟩
  · cases h

theorem test_cases {a : α} (h : m.test ready t a = some m') :
    m.phase t = .inside ∧ ready a m.state = false ∧ m' = m.setPhase t (.tested a) := by
  unfold test at h
  split at h
  · obtain ⟨hready, heq⟩ := Option.ite_none_left_eq_some.mp h
    cases heq
    exact ⟨‹_›, by simpa using hready, rfl⟩
  · cases h

theorem block_cases (h : m.block t = some m') :
    ∃ a, m.phase t = .tested a ∧ m' = {m.setPhase t (.blocked a) with owner := none} := by
  unfold block at h
  split at h
  · cases h
    exact ⟨_, ‹_›, rfl⟩
  · cases h

theorem wake_cases (h : m.wake t = some m') : (∃ a, m.phase t = .blocked a) ∧ m' = m.setPhase t .woken := by
  unfold wake at h
  split at h
  · cases h
    exact ⟨⟨_, ‹_›⟩, rfl⟩
  · cases h

end

/-! ### No thread sleeps through what it waits for -/

/-- The mutex has at most one owner, and no thread sleeps through what it waits for. -/
structure Inv (ready : α → σ → Bool) (m : Monitor T α σ) : Prop where
  owner : ∀ t, m.owner = some t ↔ (m.phase t).holds = true
  tested : ∀ t a, m.phase t = .tested a → ready a m.state = false
  blocked : ∀ t a, m.phase t = .blocked a → ready a m.state = true → ∃ u, m.owing u = true

variable {ready : α → σ → Bool} {m m' : Monitor T α σ} {t : T}

omit [DecidableEq T] in
theorem new_inv (state : σ) : (new state : Monitor T α σ).Inv ready :=
  ⟨fun _ => by simp [new, WaitPhase.holds], fun _ _ h => by simp [new] at h, fun _ _ h => by simp [new] at h⟩

@[simp] theorem phase_setPhase (phase : WaitPhase α) (u : T) :
    (m.setPhase t phase).phase u = if u = t then phase else m.phase u := rfl

omit [DecidableEq T] in
/-- The thread with the mutex is the only one. -/
theorem Inv.eq_of_holds (h : m.Inv ready) {u : T} (ht : (m.phase t).holds = true) (hu : (m.phase u).holds = true) :
    u = t := by
  have howner := (h.owner t).mpr ht
  rw [(h.owner u).mpr hu] at howner
  exact Option.some.inj howner

/-- A thread without the mutex takes it or goes on without it. -/
theorem Inv.setPhase (h : m.Inv ready) {phase : WaitPhase α} (owner : Option T)
    (hothers : ∀ u, u ≠ t → (owner = some u ↔ (m.phase u).holds = true))
    (howner : owner = some t ↔ phase.holds = true)
    (htested : ∀ a, phase = .tested a → ready a m.state = false)
    (hblocked : ∀ a, phase = .blocked a → ready a m.state = true → ∃ u, m.owing u = true) :
    ({m.setPhase t phase with owner := owner} : Monitor T α σ).Inv ready := by
  refine ⟨fun u => ?_, fun u a hu => ?_, fun u a hu => ?_⟩
  · by_cases hut : u = t
    · subst hut
      simpa using howner
    · simpa [hut] using hothers u hut
  · by_cases hut : u = t
    · subst hut
      exact htested a (by simpa using hu)
    · exact h.tested u a (by simpa [hut] using hu)
  · by_cases hut : u = t
    · subst hut
      exact hblocked a (by simpa using hu)
    · exact h.blocked u a (by simpa [hut] using hu)

theorem Inv.acquire (h : m.Inv ready) (hstep : m.acquire t = some m') : m'.Inv ready := by
  obtain ⟨hnone, -, rfl⟩ := acquire_cases hstep
  refine h.setPhase (some t) (fun u hu => ?_) (by simp [WaitPhase.holds]) nofun nofun
  have hold := h.owner u
  rw [hnone] at hold
  simp [← hold, Ne.symm hu]

/-- The thread with the mutex lets go of it. -/
theorem Inv.leave (h : m.Inv ready) (ht : (m.phase t).holds = true) {phase : WaitPhase α} (hphase : phase.holds = false)
    (hblocked : ∀ a, phase = .blocked a → ready a m.state = true → ∃ u, m.owing u = true) :
    ({m.setPhase t phase with owner := none} : Monitor T α σ).Inv ready := by
  refine h.setPhase none (fun u hu => ?_) (by simp [hphase]) (fun a ha => ?_) hblocked
  · have hnot : ¬ (m.phase u).holds = true := fun hholds => hu (h.eq_of_holds ht hholds)
    simp [hnot]
  · rw [ha] at hphase
    cases hphase

theorem Inv.release (h : m.Inv ready) (hstep : m.release t = some m') : m'.Inv ready := by
  obtain ⟨hinside, rfl⟩ := release_cases hstep
  exact h.leave (by rw [hinside]; rfl) rfl nofun

theorem Inv.write (h : m.Inv ready) {f : σ → σ} (hstep : m.write t f = some m') : m'.Inv ready := by
  obtain ⟨hinside, rfl⟩ := write_cases hstep
  refine ⟨h.owner, fun u a hu => ?_, fun _ _ _ _ => ⟨t, by simp⟩⟩
  -- a thread that has tested has the mutex, so it is the one that writes
  have hut : u = t := h.eq_of_holds (by rw [hinside]; rfl) (by rw [hu]; rfl)
  rw [hut, hinside] at hu
  cases hu

theorem Inv.test (h : m.Inv ready) {a : α} (hstep : m.test ready t a = some m') : m'.Inv ready := by
  obtain ⟨hinside, hready, rfl⟩ := test_cases hstep
  have howner := (h.owner t).mpr (by rw [hinside]; rfl)
  refine h.setPhase m.owner (fun u _ => h.owner u) (by simp [howner, WaitPhase.holds]) (fun b hb => ?_) nofun
  cases hb
  exact hready

theorem Inv.block (h : m.Inv ready) (hstep : m.block t = some m') : m'.Inv ready := by
  obtain ⟨a, htested, rfl⟩ := block_cases hstep
  refine h.leave (by rw [htested]; rfl) rfl fun b hb hready => ?_
  cases hb
  rw [h.tested t a htested] at hready
  cases hready

theorem Inv.wake (h : m.Inv ready) (hstep : m.wake t = some m') : m'.Inv ready := by
  obtain ⟨⟨a, hblocked⟩, rfl⟩ := wake_cases hstep
  have hnot : ¬ m.owner = some t := fun howner => by
    have hholds := (h.owner t).mp howner
    rw [hblocked] at hholds
    cases hholds
  exact h.setPhase m.owner (fun u _ => h.owner u) (by simp [hnot, WaitPhase.holds]) nofun nofun

omit [DecidableEq T] in
theorem holds_notified (phase : WaitPhase α) : phase.notified.holds = phase.holds := by
  cases phase <;> rfl

/-- Whoever still sleeps after a notification has something to wait for. -/
theorem Inv.notifyAll (h : m.Inv ready) : (m.notifyAll t).Inv ready := by
  refine ⟨fun u => ?_, fun u a hu => ?_, fun u a hu => ?_⟩
  · simp [Monitor.notifyAll, holds_notified, h.owner u]
  · have hu : (m.phase u).notified = .tested a := hu
    cases hphase : m.phase u <;> rw [hphase] at hu <;> cases hu
    exact h.tested u a hphase
  · have hu : (m.phase u).notified = .blocked a := hu
    cases hphase : m.phase u <;> rw [hphase] at hu <;> cases hu

end Monitor
end Lightstep.Library

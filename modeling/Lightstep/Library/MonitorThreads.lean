import Lightstep.Library.Monitor

/-! Threads around a monitor.

One kind changes the state and notifies after it has let go of the mutex. The other waits in a
loop, until it finds what it waits for or its time is over. What a step of either leaves alone is
the same for all of them. -/
namespace Lightstep.Library

/-- Where a thread is that changes the state and notifies. -/
inductive NotifyPhase where
  | idle
  | locked
  | written
  | unlocked
  deriving DecidableEq

namespace NotifyPhase

def waitPhase {α : Type} : NotifyPhase → WaitPhase α
  | idle | unlocked => .outside
  | locked | written => .inside

/-- Where the thread is after its next step. -/
def next : NotifyPhase → NotifyPhase
  | idle => locked
  | locked => written
  | written => unlocked
  | unlocked => idle

/-- Whether the thread is on the way to notify. -/
def owes : NotifyPhase → Bool
  | idle | locked => false
  | written | unlocked => true

end NotifyPhase

/-- The steps of a wait; where the mutex is taken again there may be a timeout. -/
inductive WaitStep where
  | test
  | block
  | wake
  | relock
  deriving DecidableEq

namespace Monitor
variable {T α σ : Type} [DecidableEq T]

def notifyStep (t : T) (f : σ → σ) (phase : NotifyPhase) (m : Monitor T α σ) : Option (NotifyPhase × Monitor T α σ) :=
  match phase with
  | .idle => (m.acquire t).map fun m => (.locked, m)
  | .locked => (m.write t f).map fun m => (.written, m)
  | .written => (m.release t).map fun m => (.unlocked, m)
  | .unlocked => some (.idle, m.notifyAll t)

def waitStep (ready : α → σ → Bool) (t : T) (a : α) (step : WaitStep) (m : Monitor T α σ) : Option (Monitor T α σ) :=
  match step with
  | .test => m.test ready t a
  | .block => m.block t
  | .wake => m.wake t
  | .relock => m.acquire t

/-- A thread that notifies is where the monitor has it, and owes a notification only on the way to it. -/
structure Notifies (t : T) (phase : NotifyPhase) (m : Monitor T α σ) : Prop where
  waitPhase : m.phase t = phase.waitPhase
  owes : m.owing t = true → phase.owes = true

/-- The places of a thread in its wait. -/
def Waits (a : α) (phase : WaitPhase α) : Prop :=
  phase = .inside ∨ phase = .tested a ∨ phase = .blocked a ∨ phase = .woken

/-- What a step of one thread leaves alone; it may notify the others. -/
structure Moves (t : T) (m m' : Monitor T α σ) : Prop where
  phases : ∀ u, u ≠ t → m'.phase u = m.phase u ∨ m'.phase u = (m.phase u).notified
  owing : ∀ u, u ≠ t → m'.owing u = true → m.owing u = true

variable {ready : α → σ → Bool} {m m' : Monitor T α σ} {t : T} {a : α}

theorem moves_setPhase (t : T) (phase : WaitPhase α) (owner : Option T) (m : Monitor T α σ) :
    Moves t m {m.setPhase t phase with owner := owner} :=
  ⟨fun u hu => .inl (by simp [hu]), fun _ _ h => h⟩

omit [DecidableEq T] in
/-- Only who is blocked is moved by another thread's step. -/
theorem Moves.phase_eq {u : T} {phase : WaitPhase α} (hmoves : Moves t m m') (hu : u ≠ t) (h : m.phase u = phase)
    (hphase : phase.notified = phase) : m'.phase u = phase := by
  obtain hsame | hnotified := hmoves.phases u hu
  · exact hsame.trans h
  · rw [hnotified, h, hphase]

omit [DecidableEq T] in
theorem Moves.owing_eq_false {u : T} (hmoves : Moves t m m') (hu : u ≠ t) (h : m.owing u = false) :
    m'.owing u = false := by
  rw [Bool.eq_false_iff]
  intro howing
  exact absurd (h.symm.trans (hmoves.owing u hu howing)) nofun

omit [DecidableEq T] in
/-- Another thread's step leaves a thread that notifies where it is. -/
theorem Notifies.moves {u : T} {phase : NotifyPhase} (h : Notifies u phase m) (hmoves : Moves t m m') (hu : u ≠ t) :
    Notifies u phase m' := by
  refine ⟨hmoves.phase_eq hu h.waitPhase ?_, fun howing => h.owes (hmoves.owing u hu howing)⟩
  cases phase <;> rfl

omit [DecidableEq T] in
/-- Whoever waits goes on waiting when others move. -/
theorem Waits.moves {u : T} (h : Waits a (m.phase u)) (hmoves : Moves t m m') (hu : u ≠ t) : Waits a (m'.phase u) := by
  obtain hphase | hphase := hmoves.phases u hu
  · rw [hphase]
    exact h
  · rw [hphase]
    obtain h | h | h | h := h <;> rw [h] <;> simp [Waits, WaitPhase.notified]

theorem notifyStep_next {f : σ → σ} {phase phase' : NotifyPhase} (h : m.notifyStep t f phase = some (phase', m')) :
    phase' = phase.next := by
  cases phase with
  | unlocked =>
    cases h
    rfl
  | _ =>
    obtain ⟨_, -, heq⟩ := Option.map_eq_some_iff.mp h
    cases heq
    rfl

/-- A step on the way to a notification. -/
theorem Inv.notifyStep (h : m.Inv ready) {f : σ → σ} {phase phase' : NotifyPhase} (hfits : Notifies t phase m)
    (hstep : m.notifyStep t f phase = some (phase', m')) :
    m'.Inv ready ∧ Notifies t phase' m' ∧ Moves t m m' ∧
      m'.state = if phase = .locked then f m.state else m.state := by
  cases phase with
  | idle =>
    obtain ⟨_, hacquire, heq⟩ := Option.map_eq_some_iff.mp hstep
    cases heq
    have hinv := h.acquire hacquire
    obtain ⟨-, -, rfl⟩ := acquire_cases hacquire
    exact ⟨hinv, ⟨by simp [NotifyPhase.waitPhase], fun howing => absurd (hfits.owes howing) nofun⟩,
      moves_setPhase t .inside (some t) m, rfl⟩
  | locked =>
    obtain ⟨_, hwrite, heq⟩ := Option.map_eq_some_iff.mp hstep
    cases heq
    have hinv := h.write hwrite
    obtain ⟨hinside, rfl⟩ := write_cases hwrite
    exact ⟨hinv, ⟨hinside, fun _ => rfl⟩, ⟨fun _ _ => .inl rfl, fun u hu howing => by simpa [hu] using howing⟩, rfl⟩
  | written =>
    obtain ⟨_, hrelease, heq⟩ := Option.map_eq_some_iff.mp hstep
    cases heq
    have hinv := h.release hrelease
    obtain ⟨-, rfl⟩ := release_cases hrelease
    exact ⟨hinv, ⟨by simp [NotifyPhase.waitPhase], fun _ => rfl⟩, moves_setPhase t .outside none m, rfl⟩
  | unlocked =>
    cases hstep
    have houtside : m.phase t = .outside := hfits.waitPhase
    refine ⟨h.notifyAll, ⟨?_, fun howing => ?_⟩, ⟨fun u _ => .inr rfl, fun u hu howing => ?_⟩, rfl⟩
    · show (m.phase t).notified = .outside
      rw [houtside]
      rfl
    · simp [Monitor.notifyAll] at howing
    · simpa [Monitor.notifyAll, hu] using howing

/-- A step of a wait. -/
theorem Inv.waitStep (h : m.Inv ready) {step : WaitStep} (hwaits : Waits a (m.phase t))
    (hstep : m.waitStep ready t a step = some m') :
    m'.Inv ready ∧ Waits a (m'.phase t) ∧ Moves t m m' ∧ m'.owing = m.owing ∧ m'.state = m.state := by
  cases step with
  | test =>
    have hinv := h.test hstep
    obtain ⟨-, -, rfl⟩ := test_cases hstep
    exact ⟨hinv, by simp [Waits], moves_setPhase t (.tested a) m.owner m, rfl, rfl⟩
  | block =>
    have hinv := h.block hstep
    obtain ⟨b, htested, rfl⟩ := block_cases hstep
    have hab : b = a := by simpa [Waits, htested] using hwaits
    exact ⟨hinv, by simp [Waits, hab], moves_setPhase t (.blocked b) none m, rfl, rfl⟩
  | wake =>
    have hinv := h.wake hstep
    obtain ⟨-, rfl⟩ := wake_cases hstep
    exact ⟨hinv, by simp [Waits], moves_setPhase t .woken m.owner m, rfl, rfl⟩
  | relock =>
    have hinv := h.acquire hstep
    obtain ⟨-, -, rfl⟩ := acquire_cases hstep
    exact ⟨hinv, by simp [Waits], moves_setPhase t .inside (some t) m, rfl, rfl⟩

/-- A thread with the mutex goes on to its notification. -/
theorem Notifies.step_of_holds {phase : NotifyPhase} (h : Notifies t phase m) (hholds : (m.phase t).holds = true)
    (f : σ → σ) : ∃ result, m.notifyStep t f phase = some result := by
  have hphase := h.waitPhase
  rw [hphase] at hholds
  cases phase with
  | idle => cases hholds
  | locked =>
    have hinside : m.phase t = .inside := hphase
    simp only [Monitor.notifyStep, Monitor.write, hinside]
    exact ⟨_, rfl⟩
  | written =>
    have hinside : m.phase t = .inside := hphase
    simp only [Monitor.notifyStep, Monitor.release, hinside]
    exact ⟨_, rfl⟩
  | unlocked => cases hholds

omit [DecidableEq T] in
/-- A thread that waits and has the mutex is about to test, or has. -/
theorem Waits.of_holds {phase : WaitPhase α} (h : Waits a phase) (hholds : phase.holds = true) :
    phase = .inside ∨ phase = .tested a := by
  obtain rfl | rfl | rfl | rfl := h
  · exact .inl rfl
  · exact .inr rfl
  · cases hholds
  · cases hholds

end Monitor
end Lightstep.Library

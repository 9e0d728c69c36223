import Lightstep.Library.CountedRequests
import Lightstep.Library.Machine
import Lightstep.Library.MonitorThreads

/-! Waiting for a flush of the stream recorder.

Any number of threads call `FlushWithTimeout`, spans are added by any thread, and the recorder's
thread consumes spans and polls. Every access to what the threads share is a step of its own, and
the steps come in any order. The destructor takes `shutdown_mutex_` while it has `flush_mutex_`;
of the other threads only whether one has `shutdown_mutex_` matters here. Kept beside the recorder
are how many flushes its thread has begun, what the consumption count was when the last poll read
it, and what the calls have returned. -/
namespace Lightstep.Recorder
open Library

inductive FlushThread where
  | caller (i : Nat)
  | recorder
  | destroyer
  deriving DecidableEq

/-- What `flush_mutex_` guards. -/
structure FlushState where
  numSpansConsumed : Nat
  exit : Bool
  deriving DecidableEq

/-- What `FlushWithTimeout` waits for. -/
def FlushState.ready (numSpansProduced : Nat) (s : FlushState) : Bool :=
  s.exit || numSpansProduced ≤ s.numSpansConsumed

/-- Where a call of `FlushWithTimeout` is. A call that waits has asked for a flush when `flushes`
of them had begun. -/
inductive FlushCallPhase where
  | idle
  | produced (numSpansProduced : Nat)
  | locked (numSpansProduced : Nat)
  | waiting (numSpansProduced flushes : Nat)
  deriving DecidableEq

/-- Where the recorder's thread is in `Poll`. -/
inductive PollPhase where
  | idle
  | polled (pendingFlushCount : Int32)
  | flushing
  | flushed
  | read (numSpansConsumed : Nat)
  | notifying (numSpansConsumed : Nat) (phase : NotifyPhase)
  deriving DecidableEq

namespace PollPhase

def notifyPhase : PollPhase → NotifyPhase
  | notifying _ phase => phase
  | _ => .idle

/-- The pending flushes that the poll has taken, until it begins a flush or does not. -/
def pendingFlushCount : PollPhase → Option Int32
  | polled pendingFlushCount => some pendingFlushCount
  | _ => none

/-- The consumption count that the poll has read. -/
def numSpansConsumed : PollPhase → Option Nat
  | read numSpansConsumed => some numSpansConsumed
  | notifying numSpansConsumed _ => some numSpansConsumed
  | _ => none

end PollPhase

/-- Where the destructor is; it is `locked` when it has both mutexes. -/
inductive ExitPhase where
  | running
  | flushLocked
  | locked
  | written
  | shutdownUnlocked
  | unlocked
  | notified
  deriving DecidableEq

namespace ExitPhase

def notifyPhase : ExitPhase → NotifyPhase
  | running | notified => .idle
  | flushLocked | locked => .locked
  | written | shutdownUnlocked => .written
  | unlocked => .unlocked

/-- Whether the destructor has `shutdown_mutex_`. -/
def hasShutdownMutex : ExitPhase → Bool
  | locked | written => true
  | _ => false

end ExitPhase

structure FlushReturn where
  numSpansProduced : Nat
  result : Bool
  deriving DecidableEq

structure FlushRequests where
  productionCount : Nat
  consumptionCount : Nat
  earlyFlushMarker : Nat
  pendingFlushCounter : Int32
  monitor : Monitor FlushThread Nat FlushState
  /-- Whether a thread other than the destructor's has `shutdown_mutex_`. -/
  shutdownLocked : Bool
  calls : Nat → FlushCallPhase
  poll : PollPhase
  exiting : ExitPhase
  flushes : Nat
  polledCount : Nat
  results : List FlushReturn

/-- The steps of a call; a timeout may end a wait whenever the call has the mutex. -/
inductive FlushCallStep where
  | produce
  | lock
  | firstTest
  | wait (step : WaitStep)
  | return
  deriving DecidableEq

inductive FlushEvent where
  | addSpan
  | consume (numSpans : Nat)
  | flushTimer
  | call (i : Nat) (step : FlushCallStep)
  | poll
  | exit
  | lockShutdown
  | unlockShutdown
  deriving DecidableEq

/-- Whether a call asks for a flush, unless its spans are consumed by then. -/
def FlushEvent.asks : FlushEvent → Bool
  | .call _ .firstTest => true
  | _ => false

namespace FlushRequests

def new (earlyFlushMarker : Nat) : FlushRequests :=
  { productionCount := 0, consumptionCount := 0, earlyFlushMarker, pendingFlushCounter := 0,
    monitor := .new ⟨0, false⟩, shutdownLocked := false, calls := fun _ => .idle, poll := .idle, exiting := .running,
    flushes := 0, polledCount := 0, results := [] }

def setCall (i : Nat) (phase : FlushCallPhase) (s : FlushRequests) : FlushRequests :=
  {s with calls := fun j => if j = i then phase else s.calls j}

def setMonitor (monitor : Monitor FlushThread Nat FlushState) (s : FlushRequests) : FlushRequests :=
  {s with monitor := monitor}

/-- A call that returns, which lets go of the mutex. -/
def return' (i numSpansProduced : Nat) (s : FlushRequests) : Option FlushRequests :=
  (s.monitor.release (.caller i)).map fun monitor =>
    {(s.setCall i .idle).setMonitor monitor with
      results := ⟨numSpansProduced, numSpansProduced ≤ s.monitor.state.numSpansConsumed⟩ :: s.results}

/-- `FlushWithTimeout`. -/
def callStep (i : Nat) (step : FlushCallStep) (s : FlushRequests) : Option FlushRequests :=
  match step, s.calls i with
  | .produce, .idle => some (s.setCall i (.produced s.productionCount))
  | .lock, .produced numSpansProduced =>
    (s.monitor.acquire (.caller i)).map (s.setCall i (.locked numSpansProduced)).setMonitor
  | .firstTest, .locked numSpansProduced =>
    if numSpansProduced ≤ s.monitor.state.numSpansConsumed then s.return' i numSpansProduced
    else some {s.setCall i (.waiting numSpansProduced s.flushes) with pendingFlushCounter := s.pendingFlushCounter + 1}
  | .wait step, .waiting numSpansProduced _ =>
    (s.monitor.waitStep FlushState.ready (.caller i) numSpansProduced step).map s.setMonitor
  | .return, .waiting numSpansProduced _ => s.return' i numSpansProduced
  | _, _ => none

/-- `StreamRecorderImpl::Poll` and `StreamRecorder::Poll`, as far as they are about flushing. -/
def pollStep (s : FlushRequests) : Option FlushRequests :=
  match s.poll with
  | .idle => some {s with poll := .polled s.pendingFlushCounter, pendingFlushCounter := 0}
  | .polled pendingFlushCount =>
    if pendingFlushCount > 0 ∨ s.productionCount - s.consumptionCount > s.earlyFlushMarker then
      some {s with poll := .flushing, flushes := s.flushes + 1}
    else some {s with poll := .flushed}
  | .flushing => some {s with poll := .flushed}
  | .flushed => some {s with poll := .read s.consumptionCount}
  | .read numSpansConsumed =>
    if numSpansConsumed > s.monitor.state.numSpansConsumed then
      some {s with poll := .notifying numSpansConsumed .idle}
    else some {s with poll := .idle, polledCount := numSpansConsumed}
  | .notifying numSpansConsumed phase =>
    (s.monitor.notifyStep .recorder (fun state => {state with numSpansConsumed := numSpansConsumed}) phase).map
      fun (next, monitor) =>
        {s.setMonitor monitor with
          poll := if next = .idle then .idle else .notifying numSpansConsumed next
          polledCount := if phase = .locked then numSpansConsumed else s.polledCount}

/-- The destructor's next step with `flush_mutex_` and its condition variable. -/
def exitNotify (next : ExitPhase) (s : FlushRequests) : Option FlushRequests :=
  (s.monitor.notifyStep .destroyer (fun state => {state with exit := true}) s.exiting.notifyPhase).map
    fun (_, monitor) => {s.setMonitor monitor with exiting := next}

/-- The destructor, up to the notification of the calls that wait for a flush. -/
def exitStep (s : FlushRequests) : Option FlushRequests :=
  match s.exiting with
  | .running => s.exitNotify .flushLocked
  | .flushLocked => if s.shutdownLocked then none else some {s with exiting := .locked}
  | .locked => s.exitNotify .written
  | .written => some {s with exiting := .shutdownUnlocked}
  | .shutdownUnlocked => s.exitNotify .unlocked
  | .unlocked => s.exitNotify .notified
  | .notified => none

/-- Spans are consumed by the recorder's thread, between polls and in a flush. -/
def step (s : FlushRequests) : FlushEvent → Option FlushRequests
  | .addSpan => some {s with productionCount := s.productionCount + 1}
  | .consume numSpans =>
    if (s.poll = .idle ∨ s.poll = .flushing) ∧ s.consumptionCount + numSpans ≤ s.productionCount then
      some {s with consumptionCount := s.consumptionCount + numSpans}
    else none
  | .flushTimer => if s.poll = .idle then some {s with flushes := s.flushes + 1} else none
  | .call i step => s.callStep i step
  | .poll => s.pollStep
  | .exit => s.exitStep
  | .lockShutdown =>
    if s.shutdownLocked || s.exiting.hasShutdownMutex then none else some {s with shutdownLocked := true}
  | .unlockShutdown => if s.shutdownLocked then some {s with shutdownLocked := false} else none

def machine : Machine FlushRequests FlushEvent := ⟨step⟩

/-- A call that asks for a flush does not make the pending ones overflow. -/
def Promise (s : FlushRequests) (event : FlushEvent) : Prop :=
  event.asks = true → s.pendingFlushCounter.toInt + 1 < 2 ^ 31

instance (s : FlushRequests) (event : FlushEvent) : Decidable (s.Promise event) := inferInstanceAs (Decidable (_ → _))

/-! ### What every step keeps -/

def CallFits : FlushCallPhase → WaitPhase Nat → Prop
  | .idle, phase => phase = .outside
  | .produced _, phase => phase = .outside
  | .locked _, phase => phase = .inside
  | .waiting numSpansProduced _, phase => Monitor.Waits numSpansProduced phase

structure Inv (s : FlushRequests) : Prop where
  monitor : s.monitor.Inv FlushState.ready
  consumed : s.monitor.state.numSpansConsumed ≤ s.consumptionCount
  polled : s.polledCount ≤ s.monitor.state.numSpansConsumed
  call : ∀ i, CallFits (s.calls i) (s.monitor.phase (.caller i))
  caller : ∀ i, s.monitor.owing (.caller i) = false
  poll : Monitor.Notifies .recorder s.poll.notifyPhase s.monitor
  read : ∀ n, s.poll.numSpansConsumed = some n → n ≤ s.consumptionCount
  exiting : Monitor.Notifies .destroyer s.exiting.notifyPhase s.monitor
  results : ∀ r ∈ s.results, r.result = true → r.numSpansProduced ≤ s.consumptionCount

theorem new_inv (earlyFlushMarker : Nat) : (new earlyFlushMarker).Inv :=
  ⟨Monitor.new_inv _, Nat.le_refl _, Nat.le_refl _, fun _ => rfl, fun _ => rfl, ⟨rfl, nofun⟩, nofun, ⟨rfl, nofun⟩,
    fun _ h => by simp [new] at h⟩

section
variable {s s' : FlushRequests}

theorem CallFits.moves {t u : FlushThread} {m m' : Monitor FlushThread Nat FlushState} {call : FlushCallPhase}
    (h : CallFits call (m.phase u)) (hmoves : Monitor.Moves t m m') (hu : u ≠ t) : CallFits call (m'.phase u) := by
  cases call with
  | waiting numSpansProduced flushes => exact Monitor.Waits.moves h hmoves hu
  | _ => exact hmoves.phase_eq hu h rfl

theorem Inv.caller_moves (h : s.Inv) {t : FlushThread} {m' : Monitor FlushThread Nat FlushState}
    (hmoves : Monitor.Moves t s.monitor m') (ht : ∀ i, .caller i ≠ t) (i : Nat) : m'.owing (.caller i) = false :=
  hmoves.owing_eq_false (ht i) (h.caller i)

/-- What a call does keeps everything about the other threads. -/
theorem Inv.setCall (h : s.Inv) {i : Nat} (phase : FlushCallPhase) {monitor : Monitor FlushThread Nat FlushState}
    {pendingFlushCounter : Int32} {results : List FlushReturn} (hmonitor : monitor.Inv FlushState.ready)
    (hmoves : Monitor.Moves (.caller i) s.monitor monitor) (hstate : monitor.state = s.monitor.state)
    (howing : monitor.owing = s.monitor.owing) (hfits : CallFits phase (monitor.phase (.caller i)))
    (hresults : ∀ r ∈ results, r.result = true → r.numSpansProduced ≤ s.consumptionCount) :
    ({(s.setCall i phase).setMonitor monitor with
        pendingFlushCounter := pendingFlushCounter, results := results} : FlushRequests).Inv := by
  refine ⟨hmonitor, ?_, ?_, fun j => ?_, fun j => ?_, h.poll.moves hmoves nofun, h.read, h.exiting.moves hmoves nofun,
    hresults⟩
  · exact hstate ▸ h.consumed
  · exact hstate ▸ h.polled
  · show CallFits (if j = i then phase else s.calls j) (monitor.phase (.caller j))
    by_cases hji : j = i
    · subst hji
      rw [if_pos rfl]
      exact hfits
    · rw [if_neg hji]
      exact (h.call j).moves hmoves (by simpa using hji)
  · exact (congrFun howing (.caller j)).trans (h.caller j)

theorem setCall_self {i : Nat} {phase : FlushCallPhase} (h : s.calls i = phase) : s.setCall i phase = s := by
  unfold setCall
  rw [← h]
  congr
  funext j
  by_cases hji : j = i <;> simp [hji]

theorem Inv.return' (h : s.Inv) {i n : Nat} (hstep : s.return' i n = some s') : s'.Inv := by
  obtain ⟨monitor, hrelease, rfl⟩ := Option.map_eq_some_iff.mp hstep
  have hmonitor := h.monitor.release hrelease
  obtain ⟨-, rfl⟩ := Monitor.release_cases hrelease
  refine h.setCall .idle hmonitor (Monitor.moves_setPhase ..) rfl rfl (by simp [CallFits]) fun r hr hresult => ?_
  cases hr with
  | head =>
    have hle : n ≤ s.monitor.state.numSpansConsumed := by simpa using hresult
    exact Nat.le_trans hle h.consumed
  | tail _ hr => exact h.results r hr hresult

theorem Inv.callStep (h : s.Inv) {i : Nat} {step : FlushCallStep} (hstep : s.callStep i step = some s') : s'.Inv := by
  have hfits := h.call i
  have hstays : Monitor.Moves (.caller i) s.monitor s.monitor := ⟨fun _ _ => .inl rfl, fun _ _ howing => howing⟩
  unfold FlushRequests.callStep at hstep
  split at hstep <;> rename_i hcall <;> try rw [hcall] at hfits
  · cases hstep
    exact h.setCall _ h.monitor hstays rfl rfl hfits h.results
  · obtain ⟨monitor, hacquire, rfl⟩ := Option.map_eq_some_iff.mp hstep
    have hmonitor := h.monitor.acquire hacquire
    obtain ⟨-, -, rfl⟩ := Monitor.acquire_cases hacquire
    exact h.setCall _ hmonitor (Monitor.moves_setPhase ..) rfl rfl (by simp [CallFits]) h.results
  · split at hstep
    · exact h.return' hstep
    · cases hstep
      exact h.setCall (.waiting _ _) h.monitor hstays rfl rfl (.inl hfits) h.results
  · rename_i n flushes
    obtain ⟨monitor, hwait, rfl⟩ := Option.map_eq_some_iff.mp hstep
    obtain ⟨hmonitor, hwaits, hmoves, howing, hstate⟩ := h.monitor.waitStep hfits hwait
    have hinv : ((s.setCall i (.waiting n flushes)).setMonitor monitor).Inv :=
      h.setCall (.waiting n flushes) hmonitor hmoves hstate howing hwaits h.results
    rwa [setCall_self hcall] at hinv
  · exact h.return' hstep
  · cases hstep

/-- What leaves the monitor alone. -/
theorem Inv.mono (h : s.Inv) (hmonitor : s'.monitor = s.monitor) (hmore : s.consumptionCount ≤ s'.consumptionCount)
    (hpolled : s'.polledCount ≤ s.monitor.state.numSpansConsumed) (hcalls : s'.calls = s.calls)
    (hpoll : s'.poll.notifyPhase = s.poll.notifyPhase)
    (hread : ∀ n, s'.poll.numSpansConsumed = some n → n ≤ s'.consumptionCount)
    (hexiting : s'.exiting.notifyPhase = s.exiting.notifyPhase) (hresults : s'.results = s.results) : s'.Inv where
  monitor := hmonitor ▸ h.monitor
  consumed := hmonitor ▸ Nat.le_trans h.consumed hmore
  polled := hmonitor ▸ hpolled
  call := by
    rw [hcalls, hmonitor]
    exact h.call
  caller := hmonitor ▸ h.caller
  poll := by
    rw [hpoll, hmonitor]
    exact h.poll
  read := hread
  exiting := by
    rw [hexiting, hmonitor]
    exact h.exiting
  results r hr hresult := Nat.le_trans (h.results r (hresults ▸ hr) hresult) hmore

theorem Inv.pollStep (h : s.Inv) (hstep : s.pollStep = some s') : s'.Inv := by
  unfold FlushRequests.pollStep at hstep
  split at hstep <;> rename_i hpoll
  · cases hstep
    exact h.mono rfl (Nat.le_refl _) h.polled rfl (by rw [hpoll]; rfl) (fun n hn => by cases hn) rfl rfl
  · split at hstep <;> cases hstep <;>
      exact h.mono rfl (Nat.le_refl _) h.polled rfl (by rw [hpoll]; rfl) (fun n hn => by cases hn) rfl rfl
  · cases hstep
    exact h.mono rfl (Nat.le_refl _) h.polled rfl (by rw [hpoll]; rfl) (fun n hn => by cases hn) rfl rfl
  · cases hstep
    refine h.mono rfl (Nat.le_refl _) h.polled rfl (by rw [hpoll]; rfl) (fun n hn => ?_) rfl rfl
    cases hn
    exact Nat.le_refl _
  · have hread := h.read
    rw [hpoll] at hread
    split at hstep <;> rename_i hmore <;> cases hstep
    · exact h.mono rfl (Nat.le_refl _) h.polled rfl (by rw [hpoll]; rfl) hread rfl rfl
    · exact h.mono rfl (Nat.le_refl _) (Nat.le_of_not_lt hmore) rfl (by rw [hpoll]; rfl) (fun n hn => by cases hn) rfl
        rfl
  · rename_i n phase
    have hnotifies := h.poll
    have hread := h.read n (by rw [hpoll]; rfl)
    rw [hpoll] at hnotifies
    have hnotifies : Monitor.Notifies .recorder phase s.monitor := hnotifies
    obtain ⟨⟨next, monitor⟩, hnotify, rfl⟩ := Option.map_eq_some_iff.mp hstep
    obtain ⟨hmonitor, hnotifies, hmoves, hstate⟩ := h.monitor.notifyStep hnotifies hnotify
    -- the count is written in the one step in which it is noted as polled
    have hconsumed : monitor.state.numSpansConsumed ≤ s.consumptionCount ∧
        (if phase = .locked then n else s.polledCount) ≤ monitor.state.numSpansConsumed := by
      rw [hstate]
      by_cases hlocked : phase = .locked
      · rw [if_pos hlocked, if_pos hlocked]
        exact ⟨hread, Nat.le_refl _⟩
      · rw [if_neg hlocked, if_neg hlocked]
        exact ⟨h.consumed, h.polled⟩
    refine ⟨hmonitor, hconsumed.1, hconsumed.2, fun i => (h.call i).moves hmoves nofun, h.caller_moves hmoves nofun, ?_,
      fun m hm => ?_, h.exiting.moves hmoves nofun, h.results⟩
    · cases next <;> exact hnotifies
    · have hm : (if next = .idle then PollPhase.idle else .notifying n next).numSpansConsumed = some m := hm
      split at hm <;> cases hm
      exact hread

theorem Inv.exitNotify (h : s.Inv) {next : ExitPhase} (hstep : s.exitNotify next = some s')
    (hnext : ∀ result, s.monitor.notifyStep .destroyer (fun state => {state with exit := true}) s.exiting.notifyPhase =
      some result → result.1 = next.notifyPhase) : s'.Inv := by
  obtain ⟨⟨phase, monitor⟩, hnotify, rfl⟩ := Option.map_eq_some_iff.mp hstep
  obtain rfl : phase = next.notifyPhase := hnext _ hnotify
  obtain ⟨hmonitor, hnotifies, hmoves, hstate⟩ := h.monitor.notifyStep h.exiting hnotify
  have hconsumed : monitor.state.numSpansConsumed = s.monitor.state.numSpansConsumed := by
    rw [hstate]
    split <;> rfl
  refine ⟨hmonitor, ?_, ?_, fun i => (h.call i).moves hmoves nofun, h.caller_moves hmoves nofun,
    h.poll.moves hmoves nofun, h.read, hnotifies, h.results⟩
  · exact Nat.le_trans (Nat.le_of_eq hconsumed) h.consumed
  · exact Nat.le_trans h.polled (Nat.le_of_eq hconsumed.symm)

theorem Inv.exitStep (h : s.Inv) (hstep : s.exitStep = some s') : s'.Inv := by
  -- where the steps of the mutex and the condition variable lead
  have hnotify : ∀ {phase : NotifyPhase} {result : NotifyPhase × Monitor FlushThread Nat FlushState},
      s.monitor.notifyStep .destroyer (fun state => {state with exit := true}) phase = some result →
        result.1 = phase.next := fun hnotify => Monitor.notifyStep_next hnotify
  have hsame : ∀ {next : ExitPhase}, next.notifyPhase = s.exiting.notifyPhase →
      ({s with exiting := next} : FlushRequests).Inv := fun hnext =>
    h.mono rfl (Nat.le_refl _) h.polled rfl rfl h.read hnext rfl
  unfold FlushRequests.exitStep at hstep
  split at hstep <;> rename_i hexiting
  · exact h.exitNotify hstep fun result hresult => by rw [hnotify hresult, hexiting]; rfl
  · obtain ⟨-, heq⟩ := Option.ite_none_left_eq_some.mp hstep
    cases heq
    exact hsame (by rw [hexiting]; rfl)
  · exact h.exitNotify hstep fun result hresult => by rw [hnotify hresult, hexiting]; rfl
  · cases hstep
    exact hsame (by rw [hexiting]; rfl)
  · exact h.exitNotify hstep fun result hresult => by rw [hnotify hresult, hexiting]; rfl
  · exact h.exitNotify hstep fun result hresult => by rw [hnotify hresult, hexiting]; rfl
  · cases hstep

theorem step_inv {event : FlushEvent} (h : s.Inv) (hstep : s.step event = some s') : s'.Inv := by
  cases event with
  | addSpan =>
    cases hstep
    exact h.mono rfl (Nat.le_refl _) h.polled rfl rfl h.read rfl rfl
  | consume numSpans =>
    obtain ⟨-, heq⟩ := Option.ite_none_right_eq_some.mp hstep
    cases heq
    have hmore : s.consumptionCount ≤ s.consumptionCount + numSpans := Nat.le_add_right ..
    exact h.mono rfl hmore h.polled rfl rfl (fun n hn => Nat.le_trans (h.read n hn) hmore) rfl rfl
  | flushTimer =>
    obtain ⟨-, heq⟩ := Option.ite_none_right_eq_some.mp hstep
    cases heq
    exact h.mono rfl (Nat.le_refl _) h.polled rfl rfl h.read rfl rfl
  | call i step => exact h.callStep hstep
  | poll => exact h.pollStep hstep
  | exit => exact h.exitStep hstep
  | lockShutdown =>
    obtain ⟨-, heq⟩ := Option.ite_none_left_eq_some.mp hstep
    cases heq
    exact h.mono rfl (Nat.le_refl _) h.polled rfl rfl h.read rfl rfl
  | unlockShutdown =>
    obtain ⟨-, heq⟩ := Option.ite_none_right_eq_some.mp hstep
    cases heq
    exact h.mono rfl (Nat.le_refl _) h.polled rfl rfl h.read rfl rfl

theorem run_inv {earlyFlushMarker : Nat} {events : List FlushEvent}
    (hrun : machine.run (new earlyFlushMarker) events = some s) : s.Inv :=
  machine.run_invariant (fun _ _ _ h hstep => step_inv h hstep) events _ _ (new_inv earlyFlushMarker) hrun

/-! ### No request is lost -/

/-- A flush asked for when `flushes` had begun is to be noticed, has been noticed or has begun. -/
def Requested (s : FlushRequests) (flushes : Nat) : Prop :=
  Answered s.flushes s.pendingFlushCounter s.poll.pendingFlushCount flushes

structure Requests (s : FlushRequests) : Prop where
  pending : 0 ≤ s.pendingFlushCounter.toInt
  requested : ∀ i numSpansProduced flushes, s.calls i = .waiting numSpansProduced flushes → s.Requested flushes

/-- Whoever waits has waited before, and its request stays one. -/
theorem Requests.mono (h : s.Requests) (hpending : 0 ≤ s'.pendingFlushCounter.toInt)
    (hcalls : ∀ i n flushes, s'.calls i = .waiting n flushes → s.calls i = .waiting n flushes)
    (hrequested : ∀ flushes, s.Requested flushes → s'.Requested flushes) : s'.Requests :=
  ⟨hpending, fun i n flushes hwaiting => hrequested _ (h.requested i n flushes (hcalls i n flushes hwaiting))⟩

/-- What polls, flushes and calls do not touch is no part of a request. -/
theorem Requested.frame {flushes : Nat} (h : s.Requested flushes) (hflushes : s'.flushes = s.flushes)
    (hpoll : s'.poll.pendingFlushCount = s.poll.pendingFlushCount)
    (hpending : s'.pendingFlushCounter = s.pendingFlushCounter) : s'.Requested flushes := by
  unfold Requested at h ⊢
  rwa [hflushes, hpoll, hpending]

/-- A call that does not wait is no request. -/
theorem Requests.setCall (h : s.Requests) {i : Nat} {phase : FlushCallPhase}
    (hphase : ∀ n flushes, phase ≠ .waiting n flushes) (hcalls : s'.calls = (s.setCall i phase).calls)
    (hflushes : s'.flushes = s.flushes) (hpoll : s'.poll = s.poll)
    (hpending : s'.pendingFlushCounter = s.pendingFlushCounter) : s'.Requests := by
  have hpoll := congrArg PollPhase.pendingFlushCount hpoll
  refine h.mono (hpending ▸ h.pending) (fun j n flushes hwaiting => ?_) fun _ hr => hr.frame hflushes hpoll hpending
  rw [hcalls] at hwaiting
  have hwaiting : (if j = i then phase else s.calls j) = .waiting n flushes := hwaiting
  by_cases hji : j = i
  · rw [if_pos hji] at hwaiting
    exact absurd hwaiting (hphase n flushes)
  · rwa [if_neg hji] at hwaiting

theorem Requests.return' (h : s.Requests) {i n : Nat} (hstep : s.return' i n = some s') : s'.Requests := by
  obtain ⟨monitor, -, rfl⟩ := Option.map_eq_some_iff.mp hstep
  have hidle : ∀ m flushes, FlushCallPhase.idle ≠ .waiting m flushes := nofun
  exact h.setCall hidle rfl rfl rfl rfl

theorem Requests.callStep (h : s.Requests) {i : Nat} {step : FlushCallStep} (hpromise : s.Promise (.call i step))
    (hstep : s.callStep i step = some s') : s'.Requests := by
  unfold FlushRequests.callStep at hstep
  split at hstep <;> rename_i hcall
  · cases hstep
    have hproduced : ∀ m flushes, FlushCallPhase.produced s.productionCount ≠ .waiting m flushes := nofun
    exact h.setCall hproduced rfl rfl rfl rfl
  · rename_i n
    obtain ⟨monitor, -, rfl⟩ := Option.map_eq_some_iff.mp hstep
    have hlocked : ∀ m flushes, FlushCallPhase.locked n ≠ .waiting m flushes := nofun
    exact h.setCall hlocked rfl rfl rfl rfl
  · rename_i n
    split at hstep
    · exact h.return' hstep
    · cases hstep
      -- the counter counts the call, which does not make it wrap
      have hcounts := hpromise rfl
      have hcounted := toInt_add_one hcounts
      have hpending := h.pending
      refine ⟨show 0 ≤ (s.pendingFlushCounter + 1).toInt by omega, fun j m flushes hwaiting => ?_⟩
      have hwaiting : (if j = i then .waiting n s.flushes else s.calls j) = FlushCallPhase.waiting m flushes := hwaiting
      by_cases hji : j = i
      · rw [if_pos hji] at hwaiting
        cases hwaiting
        exact Answered.ask hpending hcounts
      · rw [if_neg hji] at hwaiting
        exact (h.requested j m flushes hwaiting).other hpending hcounts
  · obtain ⟨monitor, -, rfl⟩ := Option.map_eq_some_iff.mp hstep
    exact h.mono h.pending (fun _ _ _ hwaiting => hwaiting) fun _ hr => hr.frame rfl rfl rfl
  · exact h.return' hstep
  · cases hstep

theorem Requests.pollStep (h : s.Requests) (hstep : s.pollStep = some s') : s'.Requests := by
  have hcalls : s'.calls = s.calls := by
    unfold FlushRequests.pollStep at hstep
    split at hstep
    · cases hstep
      rfl
    · split at hstep <;> cases hstep <;> rfl
    · cases hstep
      rfl
    · cases hstep
      rfl
    · split at hstep <;> cases hstep <;> rfl
    · obtain ⟨⟨next, monitor⟩, -, rfl⟩ := Option.map_eq_some_iff.mp hstep
      rfl
  suffices hkeeps : 0 ≤ s'.pendingFlushCounter.toInt ∧ ∀ flushes, s.Requested flushes → s'.Requested flushes from
    h.mono hkeeps.1 (fun i n flushes hwaiting => hcalls ▸ hwaiting) hkeeps.2
  have hkeep : s.poll.pendingFlushCount = none → s'.poll.pendingFlushCount = none → s'.flushes = s.flushes →
      s'.pendingFlushCounter = s.pendingFlushCounter →
        0 ≤ s'.pendingFlushCounter.toInt ∧ ∀ flushes, s.Requested flushes → s'.Requested flushes :=
    fun hbefore hafter hflushes hpending =>
      ⟨hpending ▸ h.pending, fun _ hr => hr.frame hflushes (hafter.trans hbefore.symm) hpending⟩
  unfold FlushRequests.pollStep at hstep
  split at hstep <;> rename_i hpoll
  · cases hstep
    refine ⟨Int.le_refl 0, fun flushes hr => Answered.exchange ?_⟩
    rwa [Requested, hpoll] at hr
  · split at hstep <;> rename_i hnoticed <;> cases hstep
    · exact ⟨h.pending, fun flushes hr => Answered.begin hr⟩
    · refine ⟨h.pending, fun flushes hr => Answered.pass ?_ fun hpos => hnoticed (.inl hpos)⟩
      rwa [Requested, hpoll] at hr
  · cases hstep
    exact hkeep (by rw [hpoll]; rfl) rfl rfl rfl
  · cases hstep
    exact hkeep (by rw [hpoll]; rfl) rfl rfl rfl
  · split at hstep <;> cases hstep <;> exact hkeep (by rw [hpoll]; rfl) rfl rfl rfl
  · obtain ⟨⟨next, monitor⟩, -, rfl⟩ := Option.map_eq_some_iff.mp hstep
    refine hkeep (by rw [hpoll]; rfl) ?_ rfl rfl
    cases next <;> rfl

theorem exitStep_frame (hstep : s.exitStep = some s') : s'.calls = s.calls ∧ s'.flushes = s.flushes ∧
    s'.poll = s.poll ∧ s'.pendingFlushCounter = s.pendingFlushCounter ∧ s'.productionCount = s.productionCount ∧
      s'.consumptionCount = s.consumptionCount := by
  have hnotify : ∀ {next : ExitPhase}, s.exitNotify next = some s' → s'.calls = s.calls ∧ s'.flushes = s.flushes ∧
      s'.poll = s.poll ∧ s'.pendingFlushCounter = s.pendingFlushCounter ∧ s'.productionCount = s.productionCount ∧
        s'.consumptionCount = s.consumptionCount := by
    intro next hnotify
    obtain ⟨⟨phase, monitor⟩, -, rfl⟩ := Option.map_eq_some_iff.mp hnotify
    exact ⟨rfl, rfl, rfl, rfl, rfl, rfl⟩
  unfold FlushRequests.exitStep at hstep
  split at hstep
  · exact hnotify hstep
  · obtain ⟨-, heq⟩ := Option.ite_none_left_eq_some.mp hstep
    cases heq
    exact ⟨rfl, rfl, rfl, rfl, rfl, rfl⟩
  · exact hnotify hstep
  · cases hstep
    exact ⟨rfl, rfl, rfl, rfl, rfl, rfl⟩
  · exact hnotify hstep
  · exact hnotify hstep
  · cases hstep

theorem step_requests {event : FlushEvent} (h : s.Requests) (hpromise : s.Promise event)
    (hstep : s.step event = some s') : s'.Requests := by
  cases event with
  | addSpan =>
    cases hstep
    exact h.mono h.pending (fun _ _ _ hwaiting => hwaiting) fun _ hr => hr.frame rfl rfl rfl
  | consume numSpans =>
    obtain ⟨-, heq⟩ := Option.ite_none_right_eq_some.mp hstep
    cases heq
    exact h.mono h.pending (fun _ _ _ hwaiting => hwaiting) fun _ hr => hr.frame rfl rfl rfl
  | flushTimer =>
    obtain ⟨hidle, heq⟩ := Option.ite_none_right_eq_some.mp hstep
    cases heq
    refine h.mono h.pending (fun _ _ _ hwaiting => hwaiting) fun flushes hr => ?_
    unfold Requested
    rw [hidle]
    exact Answered.begin hr
  | call i step => exact h.callStep hpromise hstep
  | poll => exact h.pollStep hstep
  | exit =>
    obtain ⟨hcalls, hflushes, hpoll, hpending, -, -⟩ := exitStep_frame hstep
    exact h.mono (hpending ▸ h.pending) (fun _ _ _ hwaiting => hcalls ▸ hwaiting) fun _ hr =>
      hr.frame hflushes (congrArg PollPhase.pendingFlushCount hpoll) hpending
  | lockShutdown =>
    obtain ⟨-, heq⟩ := Option.ite_none_left_eq_some.mp hstep
    cases heq
    exact h.mono h.pending (fun _ _ _ hwaiting => hwaiting) fun _ hr => hr.frame rfl rfl rfl
  | unlockShutdown =>
    obtain ⟨-, heq⟩ := Option.ite_none_right_eq_some.mp hstep
    cases heq
    exact h.mono h.pending (fun _ _ _ hwaiting => hwaiting) fun _ hr => hr.frame rfl rfl rfl

theorem run_requests {earlyFlushMarker : Nat} {events : List FlushEvent}
    (hguard : machine.Guarded Promise (new earlyFlushMarker) events)
    (hrun : machine.run (new earlyFlushMarker) events = some s) : s.Requests := by
  have hnew : (new earlyFlushMarker).Requests := ⟨Int.le_refl 0, nofun⟩
  exact machine.guarded_invariant (fun _ _ _ h hpromise hstep => step_requests h hpromise hstep) events _ _ hnew
    hguard hrun

/-! ### No call sleeps through its flush -/

/-- Whether somebody is on the way to notify the callers. -/
def Notifying (s : FlushRequests) : Prop := s.poll.notifyPhase.owes = true ∨ s.exiting.notifyPhase.owes = true

theorem Inv.notifying (h : s.Inv) {i n : Nat} (hblocked : s.monitor.phase (.caller i) = .blocked n)
    (hready : s.monitor.state.ready n = true) : s.Notifying := by
  obtain ⟨t, ht⟩ := h.monitor.blocked _ n hblocked hready
  cases t with
  | caller j =>
    rw [h.caller j] at ht
    cases ht
  | recorder => exact .inl (h.poll.owes ht)
  | destroyer => exact .inr (h.exiting.owes ht)

/-- A poll wakes every call whose spans it saw consumed. -/
theorem Inv.polledCount_lt (h : s.Inv) {i n : Nat} (hblocked : s.monitor.phase (.caller i) = .blocked n)
    (hquiet : ¬ s.Notifying) : s.polledCount < n := by
  apply Nat.lt_of_not_le
  intro hle
  apply hquiet
  apply h.notifying hblocked
  have hconsumed : n ≤ s.monitor.state.numSpansConsumed := Nat.le_trans hle h.polled
  simp [FlushState.ready, hconsumed]

theorem Inv.caller_step (h : s.Inv) {i : Nat} (hholds : (s.monitor.phase (.caller i)).holds = true) :
    ∃ step s', s.callStep i step = some s' := by
  have hfits := h.call i
  cases hcall : s.calls i with
  | idle =>
    rw [hcall] at hfits
    rw [show s.monitor.phase (.caller i) = .outside from hfits] at hholds
    cases hholds
  | produced n =>
    rw [hcall] at hfits
    rw [show s.monitor.phase (.caller i) = .outside from hfits] at hholds
    cases hholds
  | locked n =>
    rw [hcall] at hfits
    have hinside : s.monitor.phase (.caller i) = .inside := hfits
    refine ⟨.firstTest, ?_⟩
    simp only [FlushRequests.callStep, hcall, FlushRequests.return', Monitor.release, hinside]
    split <;> exact ⟨_, rfl⟩
  | waiting n f =>
    rw [hcall] at hfits
    obtain hinside | htested := Monitor.Waits.of_holds hfits hholds
    · refine ⟨.return, ?_⟩
      simp only [FlushRequests.callStep, hcall, FlushRequests.return', Monitor.release, hinside]
      exact ⟨_, rfl⟩
    · refine ⟨.wait .block, ?_⟩
      simp only [FlushRequests.callStep, hcall, Monitor.waitStep, Monitor.block, htested]
      exact ⟨_, rfl⟩

theorem Inv.poll_step (h : s.Inv) (hholds : (s.monitor.phase .recorder).holds = true) : ∃ s', s.pollStep = some s' := by
  cases hpoll : s.poll with
  | notifying n phase =>
    obtain ⟨result, hresult⟩ := h.poll.step_of_holds hholds fun state => {state with numSpansConsumed := n}
    rw [hpoll] at hresult
    have hresult : s.monitor.notifyStep .recorder (fun state => {state with numSpansConsumed := n}) phase =
        some result := hresult
    simp only [FlushRequests.pollStep, hpoll, hresult]
    exact ⟨_, rfl⟩
  | _ =>
    have hphase := h.poll.waitPhase
    rw [hpoll] at hphase
    rw [show s.monitor.phase .recorder = .outside from hphase] at hholds
    cases hholds

/-- The destructor goes on, once nobody else has the other mutex. -/
theorem Inv.exit_step (h : s.Inv) (hholds : (s.monitor.phase .destroyer).holds = true) :
    (∃ s', s.exitStep = some s') ∨ s.exiting = .flushLocked ∧ s.shutdownLocked = true := by
  obtain ⟨result, hresult⟩ := h.exiting.step_of_holds hholds fun state => {state with exit := true}
  have hnotify : ∀ next, ∃ s', s.exitNotify next = some s' := by
    intro next
    rw [FlushRequests.exitNotify, hresult]
    exact ⟨_, rfl⟩
  have hnot : s.exiting ≠ .notified := by
    intro hexiting
    have hphase := h.exiting.waitPhase
    rw [hexiting] at hphase
    rw [show s.monitor.phase .destroyer = .outside from hphase] at hholds
    cases hholds
  cases hexiting : s.exiting with
  | notified => exact absurd hexiting hnot
  | flushLocked =>
    cases hlocked : s.shutdownLocked with
    | true => exact .inr ⟨rfl, rfl⟩
    | false =>
      left
      simp only [FlushRequests.exitStep, hexiting, hlocked]
      exact ⟨_, rfl⟩
  | written =>
    left
    simp only [FlushRequests.exitStep, hexiting]
    exact ⟨_, rfl⟩
  | _ =>
    left
    simp only [FlushRequests.exitStep, hexiting]
    exact hnotify _

end

/-- Whose step an event is, of those that use `flush_mutex_`. -/
def FlushEvent.thread : FlushEvent → Option FlushThread
  | .call i _ => some (.caller i)
  | .poll => some .recorder
  | .exit => some .destroyer
  | _ => none

/-- The thread with the mutex is never stuck, but for the destructor, which may have to wait until another thread lets
go of `shutdown_mutex_`. -/
theorem Inv.owner_step {s : FlushRequests} (h : s.Inv) {t : FlushThread} (howner : s.monitor.owner = some t) :
    ∃ event s', (FlushEvent.thread event = some t ∨ t = .destroyer ∧ event = .unlockShutdown) ∧
      s.step event = some s' := by
  have hholds := (h.monitor.owner t).mp howner
  cases t with
  | caller i =>
    obtain ⟨step, s', hstep⟩ := h.caller_step hholds
    exact ⟨.call i step, s', .inl rfl, hstep⟩
  | recorder =>
    obtain ⟨s', hstep⟩ := h.poll_step hholds
    exact ⟨.poll, s', .inl rfl, hstep⟩
  | destroyer =>
    obtain ⟨s', hstep⟩ | ⟨-, hlocked⟩ := h.exit_step hholds
    · exact ⟨.exit, s', .inl rfl, hstep⟩
    · exact ⟨.unlockShutdown, _, .inr ⟨rfl, rfl⟩, if_pos hlocked⟩

/-- Whatever order the steps come in, a flush that says it succeeded has consumed the spans it was
called after; no call sleeps when what it waits for has come but for somebody on the way to wake it,
so that none sleeps after a poll that saw its spans consumed; and the mutex has one owner, which can
go on. While the pending flushes do not overflow their counter, a call that waits has its request
pending, noticed or followed by a flush. -/
theorem flush_requests_kept {earlyFlushMarker : Nat} {events : List FlushEvent} {s : FlushRequests}
    (hrun : machine.run (new earlyFlushMarker) events = some s) :
    (∀ r ∈ s.results, r.result = true → r.numSpansProduced ≤ s.consumptionCount) ∧
      (machine.Guarded Promise (new earlyFlushMarker) events →
        ∀ i n flushes, s.calls i = .waiting n flushes → s.Requested flushes) ∧
      (∀ i n, s.monitor.phase (.caller i) = .blocked n →
        (s.monitor.state.ready n = true → s.Notifying) ∧ (¬ s.Notifying → s.polledCount < n)) ∧
      (∀ t u, (s.monitor.phase t).holds = true → (s.monitor.phase u).holds = true → u = t) ∧
      ∀ t, s.monitor.owner = some t → ∃ event s',
        (FlushEvent.thread event = some t ∨ t = .destroyer ∧ event = .unlockShutdown) ∧ s.step event = some s' := by
  have hinv := run_inv hrun
  refine ⟨hinv.results, fun hguard => (run_requests hguard hrun).requested, fun i n hblocked => ?_,
    fun t u => hinv.monitor.eq_of_holds, fun t => hinv.owner_step⟩
  exact ⟨hinv.notifying hblocked, hinv.polledCount_lt hblocked⟩

/-- A call whose span is consumed after it asked for it, and another whose span is not. -/
def waitingRun : List FlushEvent :=
  [.addSpan, .call 0 .produce, .call 0 .lock, .call 0 .firstTest, .call 0 (.wait .test), .addSpan, .call 1 .produce,
    .call 0 (.wait .block), .call 1 .lock, .poll, .call 1 .firstTest, .poll, .consume 1, .call 1 (.wait .test),
    .call 1 (.wait .block), .poll, .poll, .poll, .poll, .poll, .poll, .poll, .call 0 (.wait .relock), .call 0 .return,
    .call 1 (.wait .relock), .call 1 (.wait .test), .call 1 (.wait .block)]

theorem waitingRun_kept :
    ∃ s, machine.run (new 5) waitingRun = some s ∧ s.results = [⟨1, true⟩] ∧ s.monitor.phase (.caller 1) = .blocked 2 ∧
      s.polledCount < 2 ∧ s.Requested 0 := by
  refine ⟨_, rfl, rfl, rfl, ?_⟩
  have hkept := flush_requests_kept (s := (machine.run (new 5) waitingRun).get rfl) (Option.some_get _).symm
  exact ⟨(hkept.2.2.1 1 2 rfl).2 (by simp [Notifying]; decide), hkept.2.1 (by decide +kernel) 1 2 0 rfl⟩

end FlushRequests
end Lightstep.Recorder

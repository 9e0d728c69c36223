import Lightstep.Library.CountedRequests
import Lightstep.Library.MonitorThreads
import Lightstep.Recorder.SatelliteShutdown
import Lightstep.Recorder.SatelliteStreamer

/-! Waiting for the shutdown of the stream recorder.

Any number of threads call `ShutdownWithTimeout`, the recorder's thread works on the connections and
polls, and the destructor may come at any time; it takes `shutdown_mutex_` when it has the other
mutex already. A connection whose flag says that it was shut down keeps the flag, and once the
streamer has shut its connections down they all shut down. Kept beside the recorder are how
often its thread has initiated the shutdown and what the calls have returned. -/
namespace Lightstep.Recorder
open Library Common Network FragmentInputStream LawfulFragmentInputStream SpanStream

variable {S R ErrorCode : Type} [FragmentInputStream S]

/-! ### Connections on the way to their end -/

namespace SatelliteConnection

/-- No connection comes back from its shutdown, and only one that shuts down was shut down. -/
structure Onward (c d : SatelliteConnection S) : Prop where
  wasShutdown : c.wasShutdown = true → d.wasShutdown = true
  isShuttingDown : c.isShuttingDown = true → d.isShuttingDown = true
  ended : d.wasShutdown = true → c.wasShutdown = true ∨ d.isShuttingDown = true

section
omit [FragmentInputStream S]
variable {c d e : SatelliteConnection S}

theorem onward_of_eq (hwas : d.wasShutdown = c.wasShutdown) (his : d.isShuttingDown = c.isShuttingDown) : Onward c d :=
  ⟨fun h => hwas.trans h, fun h => his.trans h, fun h => .inl (hwas.symm.trans h)⟩

theorem Onward.trans (h : Onward c d) (h' : Onward d e) : Onward c e where
  wasShutdown hwas := h'.wasShutdown (h.wasShutdown hwas)
  isShuttingDown his := h'.isShuttingDown (h.isShuttingDown his)
  ended hwas := by
    obtain hwas | his := h'.ended hwas
    · exact (h.ended hwas).imp_right h'.isShuttingDown
    · exact .inr his

/-- What the shutdown is not about may change before. -/
theorem Onward.of_eq (h : Onward d e) (hwas : d.wasShutdown = c.wasShutdown)
    (his : d.isShuttingDown = c.isShuttingDown) : Onward c e := (onward_of_eq hwas his).trans h

end

variable (c : SatelliteConnection S)

theorem handleFailure_onward : Onward c c.handleFailure := by
  cases hs : c.isShuttingDown with
  | false =>
    rw [handleFailure_of_running hs]
    exact onward_of_eq rfl rfl
  | true =>
    rw [handleFailure_of_shuttingDown hs]
    exact ⟨fun _ => rfl, fun _ => hs, fun _ => .inr hs⟩

theorem connect_onward (connected : Option Nat) : Onward c (c.connect connected) := by
  cases connected with
  | none => exact c.handleFailure_onward
  | some socket => exact onward_of_eq rfl rfl

theorem freeSocket_onward : Onward c c.freeSocket := onward_of_eq rfl rfl

theorem onSocketError_onward (connected : Option Nat) : Onward c (c.onSocketError connected) :=
  c.freeSocket_onward.trans (c.freeSocket.connect_onward connected)

theorem reconnect_onward (connected : Option Nat) : Onward c (c.reconnect connected) := by
  cases hs : c.isShuttingDown with
  | false =>
    have hnot : ¬ c.freeSocket.isShuttingDown = true := by simp [hs]
    rw [reconnect, if_neg hnot]
    exact c.onSocketError_onward connected
  | true =>
    rw [reconnect_of_shuttingDown hs]
    exact ⟨fun _ => rfl, fun _ => hs, fun _ => .inr hs⟩

theorem onReadable_onward (reads : List (List UInt8)) (last : ReadEnd) (connected : Option Nat) :
    Onward c (c.onReadable reads last connected) := by
  have hparsed : Onward c (c.parsed reads) := onward_of_eq rfl rfl
  rcases onReadable_cases reads last connected c with ⟨-, heq⟩ | ⟨-, heq⟩ | ⟨-, heq⟩ | ⟨-, heq⟩
  · rw [heq]
    exact hparsed.trans (c.parsed reads).handleFailure_onward
  · rw [heq]
    exact hparsed.trans ((c.parsed reads).onSocketError_onward connected)
  · rw [heq]
    exact hparsed.trans ((c.parsed reads).reconnect_onward connected)
  · rw [heq]
    exact onward_of_eq rfl rfl

theorem flush_onward (ioVecMax : Nat) (socket : Socket ErrorCode) : Onward c (c.flush ioVecMax socket).1 := by
  by_cases hthrows : c.WriteThrows ioVecMax socket
  · obtain ⟨stream, spans, heq⟩ := flush_of_throws hthrows
    have hwritten : Onward c (c.written stream spans) := onward_of_eq rfl rfl
    rw [heq]
    exact hwritten.trans (handleFailure_onward _)
  · obtain ⟨stream, spans, -, heq | heq⟩ := flush_of_not_throws hthrows <;> rw [heq] <;> exact onward_of_eq rfl rfl

theorem initiateReconnect_onward (ioVecMax : Nat) (socket : Socket ErrorCode) :
    Onward c (c.initiateReconnect ioVecMax socket) :=
  onward_of_eq (initiateReconnect_wasShutdown ioVecMax socket c) (initiateReconnect_isShuttingDown ioVecMax socket c)

variable {c}

theorem step_onward {ioVecMax : Nat} {event : SatelliteEvent S ErrorCode} {d : SatelliteConnection S}
    (hstep : c.step ioVecMax event = some d) : Onward c d := by
  cases handles_of_step hstep with
  | start connected _ => exact (connect_onward {c with started := true} connected).of_eq rfl rfl
  | retry connected _ => exact (connect_onward {c with retryTimers := c.retryTimers - 1} connected).of_eq rfl rfl
  | reconnectTimer socket _ => exact (initiateReconnect_onward {c with reconnectTimer := false} ioVecMax socket).of_eq rfl rfl
  | gracefulShutdownTimeout connected _ =>
    exact (reconnect_onward {c with gracefulShutdownTimeout := false} connected).of_eq rfl rfl
  | readable reads last connected _ =>
    exact (onReadable_onward {c with readEvent := false} reads last connected).of_eq rfl rfl
  | writable socket _ => exact (flush_onward {c with writeEvent := false} ioVecMax socket).of_eq rfl rfl
  | writeTimeout connected _ => exact (onSocketError_onward {c with writeEvent := false} connected).of_eq rfl rfl
  | flush socket _ => exact c.flush_onward ioVecMax socket
  | notReady socket _ => exact onward_of_eq rfl rfl
  | initiateShutdown socket =>
    have honward := c.initiateReconnect_onward ioVecMax socket
    exact ⟨honward.wasShutdown, fun _ => rfl, fun _ => .inr rfl⟩
  | other spanStream => exact onward_of_eq rfl rfl

end SatelliteConnection

namespace StreamRecorder

/-- The connections have gone on, and the thread has not been joined. -/
structure Onward (s t : StreamRecorder S) : Prop where
  joined : s.joined = false → t.joined = false
  connections : ∀ d ∈ t.connections, ∃ c ∈ s.connections, c.Onward d

section
omit [FragmentInputStream S]
variable {s t u : StreamRecorder S}

theorem onward_of_connections (hjoined : t.joined = s.joined) (hconnections : t.connections = s.connections) :
    Onward s t :=
  ⟨fun h => hjoined.trans h, fun d hd => ⟨d, hconnections ▸ hd, SatelliteConnection.onward_of_eq rfl rfl⟩⟩

theorem Onward.trans (h : Onward s t) (h' : Onward t u) : Onward s u where
  joined hjoined := h'.joined (h.joined hjoined)
  connections e he := by
    obtain ⟨d, hd, hde⟩ := h'.connections e he
    obtain ⟨c, hc, hcd⟩ := h.connections d hd
    exact ⟨c, hc, hcd.trans hde⟩

end

variable {ioVecMax : Nat} {s t : StreamRecorder S}

theorem step_onward {event : RecorderEvent S ErrorCode} (hfork : event.ofFork = false)
    (hstep : s.step ioVecMax event = some t) : Onward s t := by
  cases event with
  | recordSpan span added =>
    cases added with
    | false =>
      cases hstep
      exact onward_of_connections rfl rfl
    | true =>
      obtain ⟨spanBuffer, -, rfl⟩ := Option.map_eq_some_iff.mp hstep
      exact onward_of_connections rfl rfl
  | connection index event =>
    obtain ⟨-, hconnection⟩ := Option.ite_none_left_eq_some.mp hstep
    cases event with
    | other spanStream => cases hconnection
    | _ =>
      obtain ⟨c, hc, hmap⟩ := Option.bind_eq_some_iff.mp hconnection
      obtain ⟨d, hd, rfl⟩ := Option.map_eq_some_iff.mp hmap
      have hshared : SatelliteConnection.Onward c {c with spanStream := s.spanStream} :=
        SatelliteConnection.onward_of_eq rfl rfl
      refine ⟨id, fun e he => ?_⟩
      rcases List.mem_or_eq_of_mem_set he with he | rfl
      · exact ⟨e, he, SatelliteConnection.onward_of_eq rfl rfl⟩
      · exact ⟨c, List.mem_of_getElem? hc, hshared.trans (SatelliteConnection.step_onward hd)⟩
  | throwAwaySpans =>
    obtain ⟨-, heq⟩ := Option.ite_none_left_eq_some.mp hstep
    cases heq
    exact onward_of_connections rfl rfl
  | _ => cases hfork

theorem run_onward {events : List (RecorderEvent S ErrorCode)} (hfork : ∀ e ∈ events, e.ofFork = false)
    (hrun : (machine S ErrorCode ioVecMax).run s events = some t) : Onward s t := by
  induction events generalizing s with
  | nil =>
    cases hrun
    exact onward_of_connections rfl rfl
  | cons event rest ih =>
    obtain ⟨u, hstep, hrest⟩ := (Machine.run_cons ..).mp hrun
    exact (step_onward (hfork event (List.mem_cons_self ..)) hstep).trans
      (ih (fun e he => hfork e (List.mem_cons_of_mem event he)) hrest)

omit [FragmentInputStream S] in
theorem length_forConnections (f : Nat → SatelliteConnection S → SatelliteConnection S) (rounds : Nat) :
    (s.forConnections f rounds).connections.length = s.connections.length := by
  induction rounds with
  | zero => rfl
  | succ rounds ih =>
    rw [forConnections, List.range_succ, List.foldl_append]
    show ((s.forConnections f rounds).forConnection f rounds).connections.length = _
    unfold forConnection
    split
    · exact ih
    · rw [setConnection, List.length_set, ih]

omit [FragmentInputStream S] in
/-- What a round leaves of its connection, it leaves of all. -/
theorem forEachConnection_all {f : Nat → SatelliteConnection S → SatelliteConnection S}
    {P : SatelliteConnection S → Prop} (hf : ∀ index c, P (f index c)) :
    ∀ c ∈ (s.forEachConnection f).connections, P c := by
  have hrounds : ∀ rounds index c, index < rounds →
      (s.forConnections f rounds).connections[index]? = some c → P c := by
    intro rounds
    induction rounds with
    | zero => exact fun index c hlt => absurd hlt (Nat.not_lt_zero index)
    | succ rounds ih =>
      intro index c hlt hc
      rw [forConnections, List.range_succ, List.foldl_append] at hc
      change ((s.forConnections f rounds).forConnection f rounds).connections[index]? = some c at hc
      unfold forConnection at hc
      split at hc
      · rename_i hnone
        have hne : index ≠ rounds := by
          rintro rfl
          rw [hnone] at hc
          cases hc
        exact ih index c (by omega) hc
      · rename_i d hd
        by_cases hindex : index = rounds
        · subst hindex
          obtain ⟨hlength, -⟩ := List.getElem?_eq_some_iff.mp hd
          rw [setConnection, List.getElem?_set_self hlength] at hc
          cases hc
          exact hf index _
        · rw [setConnection, List.getElem?_set_ne (Ne.symm hindex)] at hc
          exact ih index c (by omega) hc
  intro c hc
  obtain ⟨index, hindex⟩ := List.mem_iff_getElem?.mp hc
  obtain ⟨hlt, -⟩ := List.getElem?_eq_some_iff.mp hindex
  rw [forEachConnection, length_forConnections] at hlt
  exact hrounds _ index c hlt hindex

end StreamRecorder

/-! ### The calls and the polls -/

inductive ShutdownThread where
  | caller (i : Nat)
  | recorder
  | destroyer
  deriving DecidableEq

/-- What `shutdown_mutex_` guards. -/
structure ShutdownState where
  lastIsActive : Bool
  exit : Bool
  deriving DecidableEq

/-- What `ShutdownWithTimeout` waits for. -/
def ShutdownState.ready (_ : Unit) (s : ShutdownState) : Bool := s.exit || !s.lastIsActive

/-- Where a call of `ShutdownWithTimeout` is. A call that waits has asked for a shutdown when it had been
initiated so often. -/
inductive ShutdownCallPhase where
  | idle
  | locked
  | waiting (initiations : Nat)
  deriving DecidableEq

inductive ShutdownCallStep where
  | lock
  | request
  | wait (step : WaitStep)
  | return
  deriving DecidableEq

/-- Where the recorder's thread is in `Poll`. -/
inductive ShutdownPollPhase where
  | idle
  | exchanged (shutdownCount : Int32)
  | initiated
  | notifying (phase : NotifyPhase)
  deriving DecidableEq

namespace ShutdownPollPhase

def notifyPhase : ShutdownPollPhase → NotifyPhase
  | notifying phase => phase
  | _ => .idle

/-- The pending shutdowns that the poll has taken, until it initiates the shutdown or does not. -/
def shutdownCount : ShutdownPollPhase → Option Int32
  | exchanged shutdownCount => some shutdownCount
  | _ => none

end ShutdownPollPhase

/-- The destructor's place is gone when it has notified the callers. -/
structure ShutdownRequests (S R : Type) where
  streamer : SatelliteStreamer S R
  shutdownCounter : Int32
  monitor : Monitor ShutdownThread Unit ShutdownState
  calls : Nat → ShutdownCallPhase
  poll : ShutdownPollPhase
  exiting : Option NotifyPhase
  initiations : Nat
  results : List Bool

inductive ShutdownEvent (S ErrorCode : Type) where
  | streamer (event : StreamerEvent S ErrorCode)
  | call (i : Nat) (step : ShutdownCallStep)
  | poll (sockets : Nat → Socket ErrorCode)
  | exit

/-- Whether a call asks for the shutdown. -/
def ShutdownEvent.asks : ShutdownEvent S ErrorCode → Bool
  | .call _ .request => true
  | _ => false

/-- Any thread records spans. -/
def StreamerEvent.anyThread : StreamerEvent S ErrorCode → Bool
  | .recorder (.recordSpan _ _) => true
  | _ => false

/-- What happens to a streamer while there is no fork; polls initiate its shutdown. -/
def StreamerEvent.betweenForks : StreamerEvent S ErrorCode → Bool
  | .recorder event => !event.ofFork
  | .initiateShutdown _ => false
  | _ => true

namespace ShutdownRequests

def new (streamer : SatelliteStreamer S R) : ShutdownRequests S R :=
  { streamer, shutdownCounter := 0, monitor := .new ⟨true, false⟩, calls := fun _ => .idle, poll := .idle,
    exiting := some .idle, initiations := 0, results := [] }

def setCall (i : Nat) (phase : ShutdownCallPhase) (s : ShutdownRequests S R) : ShutdownRequests S R :=
  {s with calls := fun j => if j = i then phase else s.calls j}

/-- `ShutdownWithTimeout`. -/
def callStep (i : Nat) (step : ShutdownCallStep) (s : ShutdownRequests S R) : Option (ShutdownRequests S R) :=
  match step, s.calls i with
  | .lock, .idle => (s.monitor.acquire (.caller i)).map fun monitor => {s.setCall i .locked with monitor := monitor}
  | .request, .locked => some {s.setCall i (.waiting s.initiations) with shutdownCounter := s.shutdownCounter + 1}
  | .wait step, .waiting _ =>
    (s.monitor.waitStep ShutdownState.ready (.caller i) () step).map fun monitor => {s with monitor := monitor}
  | .return, .waiting _ =>
    (s.monitor.release (.caller i)).map fun monitor =>
      {s.setCall i .idle with monitor := monitor, results := (!s.monitor.state.lastIsActive) :: s.results}
  | _, _ => none

/-- `StreamRecorder::Poll`, as far as it is about the shutdown. -/
def pollStep (ioVecMax : Nat) (sockets : Nat → Socket ErrorCode) (s : ShutdownRequests S R) :
    Option (ShutdownRequests S R) :=
  match s.poll with
  | .idle => some {s with poll := .exchanged s.shutdownCounter, shutdownCounter := 0}
  | .exchanged shutdownCount =>
    if shutdownCount > 0 then
      some {s with streamer := s.streamer.initiateShutdown ioVecMax sockets, poll := .initiated
                   initiations := s.initiations + 1}
    else some {s with poll := .initiated}
  | .initiated =>
    if s.monitor.state.lastIsActive && !s.streamer.isActive then some {s with poll := .notifying .idle}
    else some {s with poll := .idle}
  | .notifying phase =>
    (s.monitor.notifyStep .recorder (fun state => {state with lastIsActive := false}) phase).map fun (phase, monitor) =>
      {s with monitor := monitor, poll := if phase = .idle then .idle else .notifying phase}

/-- `~StreamRecorder`, as far as it is about the shutdown. -/
def exitStep (s : ShutdownRequests S R) : Option (ShutdownRequests S R) :=
  match s.exiting with
  | none => none
  | some phase =>
    (s.monitor.notifyStep .destroyer (fun state => {state with exit := true}) phase).map fun (phase, monitor) =>
      {s with monitor := monitor, exiting := if phase = .idle then none else some phase}

def step (distribution : UniformIntDistribution R) (ioVecMax : Nat) (s : ShutdownRequests S R) :
    ShutdownEvent S ErrorCode → Option (ShutdownRequests S R)
  | .streamer event =>
    if event.betweenForks ∧ (s.poll = .idle ∨ event.anyThread) then
      (s.streamer.step distribution ioVecMax event).map fun streamer => {s with streamer := streamer}
    else none
  | .call i step => s.callStep i step
  | .poll sockets => s.pollStep ioVecMax sockets
  | .exit => s.exitStep

def machine (S ErrorCode : Type) [FragmentInputStream S] (distribution : UniformIntDistribution R) (ioVecMax : Nat) :
    Machine (ShutdownRequests S R) (ShutdownEvent S ErrorCode) := ⟨step distribution ioVecMax⟩

/-- The spans recorded have bytes. -/
def Promise [SeekableFragmentInputStream S] : ShutdownEvent S ErrorCode → Prop
  | .streamer event => SatelliteStreamer.Promise event
  | _ => True

/-- A call that asks for the shutdown does not make the pending requests overflow. -/
def Counts (s : ShutdownRequests S R) (event : ShutdownEvent S ErrorCode) : Prop :=
  event.asks = true → s.shutdownCounter.toInt + 1 < 2 ^ 31

instance (s : ShutdownRequests S R) (event : ShutdownEvent S ErrorCode) : Decidable (s.Counts event) :=
  inferInstanceAs (Decidable (_ → _))

/-! ### The threads -/

def CallFits : ShutdownCallPhase → WaitPhase Unit → Prop
  | .idle, phase => phase = .outside
  | .locked, phase => phase = .inside
  | .waiting _, phase => Monitor.Waits () phase

structure Threads (s : ShutdownRequests S R) : Prop where
  monitor : s.monitor.Inv ShutdownState.ready
  call : ∀ i, CallFits (s.calls i) (s.monitor.phase (.caller i))
  caller : ∀ i, s.monitor.owing (.caller i) = false
  poll : Monitor.Notifies .recorder s.poll.notifyPhase s.monitor
  exiting : Monitor.Notifies .destroyer (s.exiting.getD .idle) s.monitor

section
omit [FragmentInputStream S]

theorem new_threads (streamer : SatelliteStreamer S R) : (new streamer).Threads :=
  ⟨Monitor.new_inv _, fun _ => rfl, fun _ => rfl, ⟨rfl, nofun⟩, ⟨rfl, nofun⟩⟩

variable {s s' : ShutdownRequests S R}

theorem CallFits.moves {t u : ShutdownThread} {m m' : Monitor ShutdownThread Unit ShutdownState}
    {call : ShutdownCallPhase} (h : CallFits call (m.phase u)) (hmoves : Monitor.Moves t m m') (hu : u ≠ t) :
    CallFits call (m'.phase u) := by
  cases call with
  | waiting initiations => exact Monitor.Waits.moves h hmoves hu
  | _ => exact hmoves.phase_eq hu h rfl

theorem Threads.mono (h : s.Threads) (hmonitor : s'.monitor = s.monitor) (hcalls : s'.calls = s.calls)
    (hpoll : s'.poll.notifyPhase = s.poll.notifyPhase) (hexiting : s'.exiting = s.exiting) : s'.Threads := by
  refine ⟨hmonitor ▸ h.monitor, fun i => ?_, hmonitor ▸ h.caller, ?_, ?_⟩
  · rw [hcalls, hmonitor]
    exact h.call i
  · rw [hmonitor, hpoll]
    exact h.poll
  · rw [hmonitor, hexiting]
    exact h.exiting

/-- What a call does keeps the other threads. -/
theorem Threads.setCall (h : s.Threads) {i : Nat} (phase : ShutdownCallPhase)
    {monitor : Monitor ShutdownThread Unit ShutdownState} {shutdownCounter : Int32} {results : List Bool}
    (hmonitor : monitor.Inv ShutdownState.ready) (hmoves : Monitor.Moves (.caller i) s.monitor monitor)
    (howing : monitor.owing = s.monitor.owing) (hfits : CallFits phase (monitor.phase (.caller i))) :
    ({s.setCall i phase with monitor := monitor, shutdownCounter := shutdownCounter, results := results} :
      ShutdownRequests S R).Threads := by
  refine ⟨hmonitor, fun j => ?_, fun j => ?_, h.poll.moves hmoves nofun, h.exiting.moves hmoves nofun⟩
  · show CallFits (if j = i then phase else s.calls j) (monitor.phase (.caller j))
    by_cases hji : j = i
    · subst hji
      rw [if_pos rfl]
      exact hfits
    · rw [if_neg hji]
      exact (h.call j).moves hmoves (by simpa using hji)
  · exact (congrFun howing (.caller j)).trans (h.caller j)

theorem setCall_self {i : Nat} {phase : ShutdownCallPhase} (h : s.calls i = phase) : s.setCall i phase = s := by
  unfold setCall
  rw [← h]
  congr
  funext j
  by_cases hji : j = i <;> simp [hji]

/-- A call that goes on waiting. -/
theorem Threads.wait (h : s.Threads) {i n : Nat} (hcall : s.calls i = .waiting n)
    {monitor : Monitor ShutdownThread Unit ShutdownState} (hmonitor : monitor.Inv ShutdownState.ready)
    (hmoves : Monitor.Moves (.caller i) s.monitor monitor) (howing : monitor.owing = s.monitor.owing)
    (hwaits : Monitor.Waits () (monitor.phase (.caller i))) :
    ({s with monitor := monitor} : ShutdownRequests S R).Threads := by
  have hthreads : ({s.setCall i (.waiting n) with monitor := monitor} : ShutdownRequests S R).Threads :=
    h.setCall (.waiting n) hmonitor hmoves howing hwaits
  rwa [setCall_self hcall] at hthreads

theorem Threads.callStep (h : s.Threads) {i : Nat} {step : ShutdownCallStep} (hstep : s.callStep i step = some s') :
    s'.Threads := by
  have hfits := h.call i
  unfold ShutdownRequests.callStep at hstep
  split at hstep <;> rename_i hcall <;> try rw [hcall] at hfits
  · obtain ⟨monitor, hacquire, rfl⟩ := Option.map_eq_some_iff.mp hstep
    have hmonitor := h.monitor.acquire hacquire
    obtain ⟨-, -, rfl⟩ := Monitor.acquire_cases hacquire
    exact h.setCall .locked hmonitor (Monitor.moves_setPhase ..) rfl (by simp [CallFits])
  · cases hstep
    exact h.setCall (.waiting s.initiations) h.monitor ⟨fun _ _ => .inl rfl, fun _ _ howing => howing⟩ rfl (.inl hfits)
  · obtain ⟨monitor, hwait, rfl⟩ := Option.map_eq_some_iff.mp hstep
    obtain ⟨hmonitor, hwaits, hmoves, howing, -⟩ := h.monitor.waitStep hfits hwait
    exact h.wait hcall hmonitor hmoves howing hwaits
  · obtain ⟨monitor, hrelease, rfl⟩ := Option.map_eq_some_iff.mp hstep
    have hmonitor := h.monitor.release hrelease
    obtain ⟨-, rfl⟩ := Monitor.release_cases hrelease
    exact h.setCall .idle hmonitor (Monitor.moves_setPhase ..) rfl (by simp [CallFits])
  · cases hstep

theorem Threads.caller_moves (h : s.Threads) {t : ShutdownThread} {m' : Monitor ShutdownThread Unit ShutdownState}
    (hmoves : Monitor.Moves t s.monitor m') (ht : ∀ i, .caller i ≠ t) (i : Nat) : m'.owing (.caller i) = false :=
  hmoves.owing_eq_false (ht i) (h.caller i)

theorem Threads.exitStep (h : s.Threads) (hstep : s.exitStep = some s') : s'.Threads := by
  have hexiting := h.exiting
  unfold ShutdownRequests.exitStep at hstep
  split at hstep
  · cases hstep
  · rename_i phase hphase
    rw [hphase] at hexiting
    obtain ⟨⟨phase', monitor⟩, hnotify, rfl⟩ := Option.map_eq_some_iff.mp hstep
    obtain ⟨hmonitor, hnotifies, hmoves, -⟩ := h.monitor.notifyStep hexiting hnotify
    refine ⟨hmonitor, fun i => (h.call i).moves hmoves nofun, h.caller_moves hmoves nofun,
      h.poll.moves hmoves nofun, ?_⟩
    cases phase' <;> exact hnotifies

end

theorem Threads.pollStep {s s' : ShutdownRequests S R} (h : s.Threads) {ioVecMax : Nat}
    {sockets : Nat → Socket ErrorCode} (hstep : s.pollStep ioVecMax sockets = some s') : s'.Threads := by
  have hnotifies := h.poll
  unfold ShutdownRequests.pollStep at hstep
  split at hstep <;> rename_i hpoll
  · cases hstep
    exact h.mono rfl rfl (by rw [hpoll]; rfl) rfl
  · split at hstep <;> cases hstep <;> exact h.mono rfl rfl (by rw [hpoll]; rfl) rfl
  · split at hstep <;> cases hstep <;> exact h.mono rfl rfl (by rw [hpoll]; rfl) rfl
  · rw [hpoll] at hnotifies
    obtain ⟨⟨phase, monitor⟩, hnotify, rfl⟩ := Option.map_eq_some_iff.mp hstep
    obtain ⟨hmonitor, hnotifies, hmoves, -⟩ := h.monitor.notifyStep hnotifies hnotify
    refine ⟨hmonitor, fun i => (h.call i).moves hmoves nofun, h.caller_moves hmoves nofun, ?_,
      h.exiting.moves hmoves nofun⟩
    cases phase <;> exact hnotifies

/-! ### The requests -/

/-- A shutdown asked for when it had been initiated so often is to be noticed, has been noticed or has been
initiated since. -/
def Requested (s : ShutdownRequests S R) (initiations : Nat) : Prop :=
  Answered s.initiations s.shutdownCounter s.poll.shutdownCount initiations

structure Requests (s : ShutdownRequests S R) : Prop where
  pending : 0 ≤ s.shutdownCounter.toInt
  requested : ∀ i initiations, s.calls i = .waiting initiations → s.Requested initiations

section
omit [FragmentInputStream S]
variable {s s' : ShutdownRequests S R}

/-- Whoever waits has waited before, and nothing has happened to its request. -/
theorem Requests.frame (h : s.Requests)
    (hcalls : ∀ i initiations, s'.calls i = .waiting initiations → s.calls i = .waiting initiations)
    (hinitiations : s'.initiations = s.initiations) (hpoll : s'.poll.shutdownCount = s.poll.shutdownCount)
    (hcounter : s'.shutdownCounter = s.shutdownCounter) : s'.Requests := by
  refine ⟨hcounter ▸ h.pending, fun i initiations hwaiting => ?_⟩
  rw [Requested, hinitiations, hpoll, hcounter]
  exact h.requested i initiations (hcalls i initiations hwaiting)

/-- A call that does not wait is no request. -/
theorem calls_of_setCall {i : Nat} {phase : ShutdownCallPhase} (hphase : ∀ n, phase ≠ .waiting n) (j n : Nat)
    (hwaiting : (s.setCall i phase).calls j = .waiting n) : s.calls j = .waiting n := by
  have hwaiting : (if j = i then phase else s.calls j) = .waiting n := hwaiting
  by_cases hji : j = i
  · rw [if_pos hji] at hwaiting
    exact absurd hwaiting (hphase n)
  · rwa [if_neg hji] at hwaiting

theorem Requests.callStep (h : s.Requests) {i : Nat} {step : ShutdownCallStep}
    (hcounts : step = .request → s.shutdownCounter.toInt + 1 < 2 ^ 31) (hstep : s.callStep i step = some s') :
    s'.Requests := by
  unfold ShutdownRequests.callStep at hstep
  split at hstep
  · obtain ⟨monitor, -, rfl⟩ := Option.map_eq_some_iff.mp hstep
    have hlocked : ∀ n, ShutdownCallPhase.locked ≠ .waiting n := nofun
    exact h.frame (calls_of_setCall hlocked) rfl rfl rfl
  · cases hstep
    -- the counter counts the call, which does not make it wrap
    have hcounts := hcounts rfl
    have hcounted := toInt_add_one hcounts
    have hpending := h.pending
    refine ⟨show 0 ≤ (s.shutdownCounter + 1).toInt by omega, fun j n hwaiting => ?_⟩
    have hwaiting : (if j = i then .waiting s.initiations else s.calls j) = ShutdownCallPhase.waiting n := hwaiting
    by_cases hji : j = i
    · rw [if_pos hji] at hwaiting
      cases hwaiting
      exact Answered.ask hpending hcounts
    · rw [if_neg hji] at hwaiting
      exact (h.requested j n hwaiting).other hpending hcounts
  · obtain ⟨monitor, -, rfl⟩ := Option.map_eq_some_iff.mp hstep
    exact h.frame (fun _ _ hwaiting => hwaiting) rfl rfl rfl
  · obtain ⟨monitor, -, rfl⟩ := Option.map_eq_some_iff.mp hstep
    have hidle : ∀ n, ShutdownCallPhase.idle ≠ .waiting n := nofun
    exact h.frame (calls_of_setCall hidle) rfl rfl rfl
  · cases hstep

theorem Requests.exitStep (h : s.Requests) (hstep : s.exitStep = some s') : s'.Requests := by
  unfold ShutdownRequests.exitStep at hstep
  split at hstep
  · cases hstep
  · obtain ⟨⟨phase, monitor⟩, -, rfl⟩ := Option.map_eq_some_iff.mp hstep
    exact h.frame (fun _ _ hwaiting => hwaiting) rfl rfl rfl

end

theorem Requests.pollStep {s s' : ShutdownRequests S R} (h : s.Requests) {ioVecMax : Nat}
    {sockets : Nat → Socket ErrorCode} (hstep : s.pollStep ioVecMax sockets = some s') : s'.Requests := by
  unfold ShutdownRequests.pollStep at hstep
  split at hstep <;> rename_i hpoll
  · cases hstep
    refine ⟨Int.le_refl 0, fun i n hwaiting => Answered.exchange ?_⟩
    have hr := h.requested i n hwaiting
    rwa [Requested, hpoll] at hr
  · split at hstep <;> rename_i hnoticed <;> cases hstep
    · exact ⟨h.pending, fun i n hwaiting => Answered.begin (h.requested i n hwaiting)⟩
    · refine ⟨h.pending, fun i n hwaiting => Answered.pass ?_ hnoticed⟩
      have hr := h.requested i n hwaiting
      rwa [Requested, hpoll] at hr
  · split at hstep <;> cases hstep <;> exact h.frame (fun _ _ hwaiting => hwaiting) rfl (by rw [hpoll]; rfl) rfl
  · obtain ⟨⟨phase, monitor⟩, -, rfl⟩ := Option.map_eq_some_iff.mp hstep
    refine h.frame (fun _ _ hwaiting => hwaiting) rfl ?_ rfl
    rw [hpoll]
    cases phase <;> rfl

theorem step_requests {distribution : UniformIntDistribution R} {ioVecMax : Nat} {s s' : ShutdownRequests S R}
    {event : ShutdownEvent S ErrorCode} (h : s.Requests) (hcounts : s.Counts event)
    (hstep : s.step distribution ioVecMax event = some s') : s'.Requests := by
  cases event with
  | streamer event =>
    obtain ⟨-, hmap⟩ := Option.ite_none_right_eq_some.mp hstep
    obtain ⟨streamer, -, rfl⟩ := Option.map_eq_some_iff.mp hmap
    exact h.frame (fun _ _ hwaiting => hwaiting) rfl rfl rfl
  | call i step => exact h.callStep (fun hrequest => hcounts (by rw [hrequest]; rfl)) hstep
  | poll sockets => exact h.pollStep hstep
  | exit => exact h.exitStep hstep

/-! ### The connections -/

variable [SeekableFragmentInputStream S]

omit [SeekableFragmentInputStream S] [FragmentInputStream S] in
theorem isActive_eq_false {streamer : SatelliteStreamer S R} :
    streamer.isActive = false ↔ ∀ c ∈ streamer.recorder.connections, c.wasShutdown = true := by
  simp [SatelliteStreamer.isActive]

structure Lives (ErrorCode : Type) (ioVecMax n : Nat) (initial : StreamRecorder S) (s : ShutdownRequests S R) :
    Prop where
  recorded : SatelliteStreamer.Recorded ErrorCode ioVecMax n initial s.streamer
  joined : s.streamer.recorder.joined = false
  ended : ∀ c ∈ s.streamer.recorder.connections, c.wasShutdown = true → c.isShuttingDown = true
  inactive : (s.monitor.state.lastIsActive = false ∨ ∃ phase, s.poll = .notifying phase) →
    s.streamer.isActive = false
  initiated : 0 < s.initiations → ∀ c ∈ s.streamer.recorder.connections, c.isShuttingDown = true
  results : true ∈ s.results → s.streamer.isActive = false

section
variable {distribution : UniformIntDistribution R} {ioVecMax n : Nat} {initial : StreamRecorder S}
  {s s' : ShutdownRequests S R} {streamer : SatelliteStreamer S R}

/-- What leaves the streamer alone. -/
theorem Lives.mono (h : Lives ErrorCode ioVecMax n initial s) (hstreamer : s'.streamer = s.streamer)
    (hinitiations : s'.initiations = s.initiations)
    (hinactive : (s'.monitor.state.lastIsActive = false ∨ ∃ phase, s'.poll = .notifying phase) →
      s.streamer.isActive = false)
    (hresults : true ∈ s'.results → true ∈ s.results ∨ s.monitor.state.lastIsActive = false) :
    Lives ErrorCode ioVecMax n initial s' where
  recorded := hstreamer ▸ h.recorded
  joined := hstreamer ▸ h.joined
  ended := hstreamer ▸ h.ended
  inactive hlast := hstreamer ▸ hinactive hlast
  initiated hpos := hstreamer ▸ h.initiated (hinitiations ▸ hpos)
  results hmem := by
    rw [hstreamer]
    obtain hmem | hlast := hresults hmem
    · exact h.results hmem
    · exact h.inactive (.inl hlast)

/-- The streamer's connections go on. -/
theorem Lives.onward (h : Lives ErrorCode ioVecMax n initial s)
    (hrecorded : SatelliteStreamer.Recorded ErrorCode ioVecMax n initial streamer)
    (honward : StreamRecorder.Onward s.streamer.recorder streamer.recorder) :
    Lives ErrorCode ioVecMax n initial {s with streamer := streamer} := by
  have hinactive : s.streamer.isActive = false → streamer.isActive = false := by
    rw [isActive_eq_false, isActive_eq_false]
    intro hall d hd
    obtain ⟨c, hc, hcd⟩ := honward.connections d hd
    exact hcd.wasShutdown (hall c hc)
  refine ⟨hrecorded, honward.joined h.joined, fun d hd hwas => ?_, fun hlast => hinactive (h.inactive hlast),
    fun hpos d hd => ?_, fun hmem => hinactive (h.results hmem)⟩
  · obtain ⟨c, hc, hcd⟩ := honward.connections d hd
    obtain hwas | his := hcd.ended hwas
    · exact hcd.isShuttingDown (h.ended c hc hwas)
    · exact his
  · obtain ⟨c, hc, hcd⟩ := honward.connections d hd
    exact hcd.isShuttingDown (h.initiated hpos c hc)

/-- What the streamer does between forks. -/
theorem Lives.step (h : Lives ErrorCode ioVecMax n initial s) (hfits : initial.Fits n) (hsound : initial.Sound)
    {event : StreamerEvent S ErrorCode} (hfork : ∀ e, event = .recorder e → e.ofFork = false)
    (hpromise : SatelliteStreamer.Promise event) (hstep : s.streamer.step distribution ioVecMax event = some streamer) :
    Lives ErrorCode ioVecMax n initial {s with streamer := streamer} := by
  obtain ⟨recorded, hevents, hrun, -⟩ := h.recorded.events hfits hsound hpromise hstep
  refine h.onward (h.recorded.step hfits hsound hpromise hstep) (StreamRecorder.run_onward (fun e he => ?_) hrun)
  obtain hown | ⟨-, hnot⟩ := hevents e he
  · exact hfork e hown
  · exact hnot

omit [SeekableFragmentInputStream S] in
theorem initiateShutdown_isShuttingDown (ioVecMax : Nat) (sockets : Nat → Socket ErrorCode)
    (streamer : SatelliteStreamer S R) :
    ∀ c ∈ (streamer.initiateShutdown ioVecMax sockets).recorder.connections, c.isShuttingDown = true :=
  StreamRecorder.forEachConnection_all fun _ _ => rfl

theorem Lives.pollStep (distribution : UniformIntDistribution R) (h : Lives ErrorCode ioVecMax n initial s)
    (hfits : initial.Fits n) (hsound : initial.Sound)
    {sockets : Nat → Socket ErrorCode} (hstep : s.pollStep ioVecMax sockets = some s') :
    Lives ErrorCode ioVecMax n initial s' := by
  unfold ShutdownRequests.pollStep at hstep
  split at hstep <;> rename_i hpoll
  · cases hstep
    exact h.mono rfl rfl (fun hlast => h.inactive (hlast.imp_right nofun)) .inl
  · split at hstep <;> cases hstep
    · -- from here on all the connections shut down
      have hstreamer : s.streamer.step distribution ioVecMax (.initiateShutdown sockets) =
          some (s.streamer.initiateShutdown ioVecMax sockets) := if_neg (by simp [h.joined])
      have hfork : ∀ e, (.initiateShutdown sockets : StreamerEvent S ErrorCode) = .recorder e → e.ofFork = false :=
        nofun
      have hlives := h.step hfits hsound hfork trivial hstreamer
      exact ⟨hlives.recorded, hlives.joined, hlives.ended, fun hlast => hlives.inactive (hlast.imp_right nofun),
        fun _ => initiateShutdown_isShuttingDown ioVecMax sockets s.streamer, hlives.results⟩
    · exact h.mono rfl rfl (fun hlast => h.inactive (hlast.imp_right nofun)) .inl
  · split at hstep <;> rename_i hchecked <;> cases hstep
    · have hinactive : s.streamer.isActive = false := by
        rw [Bool.and_eq_true, Bool.not_eq_true'] at hchecked
        exact hchecked.2
      exact h.mono rfl rfl (fun _ => hinactive) .inl
    · exact h.mono rfl rfl (fun hlast => h.inactive (hlast.imp_right nofun)) .inl
  · obtain ⟨⟨phase, monitor⟩, hnotify, rfl⟩ := Option.map_eq_some_iff.mp hstep
    exact h.mono rfl rfl (fun _ => h.inactive (.inr ⟨_, hpoll⟩)) .inl

omit [SeekableFragmentInputStream S] [FragmentInputStream S] in
/-- A call leaves what the mutex guards, and returns whether the connections were active at the last poll. -/
theorem callStep_frame {i : Nat} {step : ShutdownCallStep} (hthreads : s.Threads)
    (hstep : s.callStep i step = some s') : s'.streamer = s.streamer ∧ s'.initiations = s.initiations ∧
      s'.poll = s.poll ∧ s'.monitor.state = s.monitor.state ∧
        (true ∈ s'.results → true ∈ s.results ∨ s.monitor.state.lastIsActive = false) := by
  have hfits := hthreads.call i
  unfold ShutdownRequests.callStep at hstep
  split at hstep <;> rename_i hcall <;> try rw [hcall] at hfits
  · obtain ⟨monitor, hacquire, rfl⟩ := Option.map_eq_some_iff.mp hstep
    obtain ⟨-, -, rfl⟩ := Monitor.acquire_cases hacquire
    exact ⟨rfl, rfl, rfl, rfl, .inl⟩
  · cases hstep
    exact ⟨rfl, rfl, rfl, rfl, .inl⟩
  · obtain ⟨monitor, hwait, rfl⟩ := Option.map_eq_some_iff.mp hstep
    obtain ⟨-, -, -, -, hstate⟩ := hthreads.monitor.waitStep hfits hwait
    exact ⟨rfl, rfl, rfl, hstate, .inl⟩
  · obtain ⟨monitor, hrelease, rfl⟩ := Option.map_eq_some_iff.mp hstep
    obtain ⟨-, rfl⟩ := Monitor.release_cases hrelease
    refine ⟨rfl, rfl, rfl, rfl, fun hmem => ?_⟩
    obtain hhead | hmem := List.mem_cons.mp hmem
    · exact .inr (by simpa using hhead.symm)
    · exact .inl hmem
  · cases hstep

theorem Lives.callStep (h : Lives ErrorCode ioVecMax n initial s) (hthreads : s.Threads) {i : Nat}
    {step : ShutdownCallStep} (hstep : s.callStep i step = some s') : Lives ErrorCode ioVecMax n initial s' := by
  obtain ⟨hstreamer, hinitiations, hpoll, hstate, hresults⟩ := callStep_frame hthreads hstep
  refine h.mono hstreamer hinitiations (fun hlast => ?_) hresults
  rw [hstate, hpoll] at hlast
  exact h.inactive hlast

theorem Lives.exitStep (h : Lives ErrorCode ioVecMax n initial s) (hthreads : s.Threads)
    (hstep : s.exitStep = some s') : Lives ErrorCode ioVecMax n initial s' := by
  have hexiting := hthreads.exiting
  unfold ShutdownRequests.exitStep at hstep
  split at hstep
  · cases hstep
  · rename_i phase hphase
    rw [hphase] at hexiting
    obtain ⟨⟨phase', monitor⟩, hnotify, rfl⟩ := Option.map_eq_some_iff.mp hstep
    obtain ⟨-, -, -, hstate⟩ := hthreads.monitor.notifyStep hexiting hnotify
    refine h.mono rfl rfl (fun hlast => h.inactive (hlast.imp_left fun hlast => ?_)) .inl
    have hlast : monitor.state.lastIsActive = false := hlast
    rw [hstate] at hlast
    split at hlast <;> exact hlast

/-- What holds in every state of a run. -/
structure Inv (ErrorCode : Type) (ioVecMax n : Nat) (initial : StreamRecorder S) (s : ShutdownRequests S R) : Prop where
  threads : s.Threads
  lives : Lives ErrorCode ioVecMax n initial s

theorem step_inv (hfits : initial.Fits n) (hsound : initial.Sound) {event : ShutdownEvent S ErrorCode}
    (h : Inv ErrorCode ioVecMax n initial s) (hpromise : Promise event)
    (hstep : s.step distribution ioVecMax event = some s') : Inv ErrorCode ioVecMax n initial s' := by
  cases event with
  | streamer event =>
    obtain ⟨⟨hbetween, -⟩, hmap⟩ := Option.ite_none_right_eq_some.mp hstep
    obtain ⟨streamer, hstreamer, rfl⟩ := Option.map_eq_some_iff.mp hmap
    refine ⟨h.threads.mono rfl rfl rfl rfl, h.lives.step hfits hsound ?_ hpromise hstreamer⟩
    rintro e rfl
    simpa [StreamerEvent.betweenForks] using hbetween
  | call i step => exact ⟨h.threads.callStep hstep, h.lives.callStep h.threads hstep⟩
  | poll sockets => exact ⟨h.threads.pollStep hstep, h.lives.pollStep distribution hfits hsound hstep⟩
  | exit => exact ⟨h.threads.exitStep hstep, h.lives.exitStep h.threads hstep⟩

end

/-! ### New connections -/

omit [FragmentInputStream S] [SeekableFragmentInputStream S] in
theorem satelliteConnections_running (host common : Fragment) (n : Nat) (spanStream : SpanStream S) :
    ∀ c ∈ (satelliteConnections host common n spanStream).1, c.wasShutdown = false := by
  induction n generalizing spanStream with
  | zero => exact fun c hc => absurd hc List.not_mem_nil
  | succ n ih =>
    intro c hc
    rcases List.mem_cons.mp hc with rfl | hc
    · rfl
    · exact ih _ c hc

theorem new_inv (ErrorCode : Type) (ioVecMax maxBufferedSpans n : Nat) (host common : Fragment) (generator : R) :
    Inv (S := S) ErrorCode ioVecMax n (.new maxBufferedSpans n host common)
      (new (.new maxBufferedSpans n host common generator)) := by
  have hrunning : ∀ c ∈ (SatelliteStreamer.new (S := S) maxBufferedSpans n host common generator).recorder.connections,
      c.wasShutdown = false := satelliteConnections_running _ _ _ _
  refine ⟨new_threads _, ⟨⟨[], nofun, rfl⟩, .refl _⟩, rfl, fun c hc hwas => ?_, ?_, nofun, nofun⟩
  · rw [hrunning c hc] at hwas
    cases hwas
  · rintro (hlast | ⟨phase, hpoll⟩)
    · cases hlast
    · cases hpoll

/-! ### No call sleeps through the shutdown -/

/-- Whether somebody is on the way to notify the callers. -/
def Notifying (s : ShutdownRequests S R) : Prop :=
  s.poll.notifyPhase.owes = true ∨ (s.exiting.getD .idle).owes = true

section
omit [FragmentInputStream S] [SeekableFragmentInputStream S]
variable {s : ShutdownRequests S R}

theorem Threads.notifying (h : s.Threads) {i : Nat} (hblocked : s.monitor.phase (.caller i) = .blocked ())
    (hready : s.monitor.state.ready () = true) : s.Notifying := by
  obtain ⟨t, ht⟩ := h.monitor.blocked _ () hblocked hready
  cases t with
  | caller j =>
    rw [h.caller j] at ht
    cases ht
  | recorder => exact .inl (h.poll.owes ht)
  | destroyer => exact .inr (h.exiting.owes ht)

theorem Threads.caller_step (h : s.Threads) {i : Nat} (hholds : (s.monitor.phase (.caller i)).holds = true) :
    ∃ step s', s.callStep i step = some s' := by
  have hfits := h.call i
  cases hcall : s.calls i with
  | idle =>
    rw [hcall] at hfits
    rw [show s.monitor.phase (.caller i) = .outside from hfits] at hholds
    cases hholds
  | locked =>
    refine ⟨.request, ?_⟩
    simp only [ShutdownRequests.callStep, hcall]
    exact ⟨_, rfl⟩
  | waiting n =>
    rw [hcall] at hfits
    obtain hinside | htested := Monitor.Waits.of_holds hfits hholds
    · refine ⟨.return, ?_⟩
      simp only [ShutdownRequests.callStep, hcall, Monitor.release, hinside]
      exact ⟨_, rfl⟩
    · refine ⟨.wait .block, ?_⟩
      simp only [ShutdownRequests.callStep, hcall, Monitor.waitStep, Monitor.block, htested]
      exact ⟨_, rfl⟩

end

/-- A socket that takes nothing. -/
def idleSocket (ErrorCode : Type) : Socket ErrorCode :=
  ⟨fun _ _ => .written 0, fun _ => false, fun _ => "", fun _ batch _ h => by cases h; exact Nat.zero_le _⟩

/-- Whose step an event is, of those that use the mutex. -/
def ShutdownEvent.thread : ShutdownEvent S ErrorCode → Option ShutdownThread
  | .call i _ => some (.caller i)
  | .poll _ => some .recorder
  | .exit => some .destroyer
  | _ => none

omit [SeekableFragmentInputStream S] in
/-- The thread with the mutex is never stuck. -/
theorem Threads.owner_step (ErrorCode : Type) (distribution : UniformIntDistribution R) (ioVecMax : Nat)
    {s : ShutdownRequests S R} (h : s.Threads) {t : ShutdownThread} (howner : s.monitor.owner = some t) :
    ∃ (event : ShutdownEvent S ErrorCode) (s' : ShutdownRequests S R),
      ShutdownEvent.thread event = some t ∧ s.step distribution ioVecMax event = some s' := by
  have hholds := (h.monitor.owner t).mp howner
  cases t with
  | caller i =>
    obtain ⟨step, s', hstep⟩ := h.caller_step hholds
    exact ⟨.call i step, s', rfl, hstep⟩
  | recorder =>
    obtain ⟨result, hresult⟩ := h.poll.step_of_holds hholds fun state => {state with lastIsActive := false}
    have hpoll : ∃ phase, s.poll = .notifying phase := by
      have hphase := h.poll.waitPhase
      cases hpoll : s.poll with
      | notifying phase => exact ⟨phase, rfl⟩
      | _ =>
        rw [hpoll] at hphase
        rw [show s.monitor.phase .recorder = .outside from hphase] at hholds
        cases hholds
    obtain ⟨phase, hpoll⟩ := hpoll
    rw [hpoll] at hresult
    have hresult : s.monitor.notifyStep .recorder (fun state => {state with lastIsActive := false}) phase =
        some result := hresult
    refine ⟨.poll fun _ => idleSocket ErrorCode, ?_⟩
    simp only [step, ShutdownRequests.pollStep, hpoll, hresult]
    exact ⟨_, rfl, rfl⟩
  | destroyer =>
    obtain ⟨result, hresult⟩ := h.exiting.step_of_holds hholds fun state => {state with exit := true}
    cases hexiting : s.exiting with
    | none =>
      have hphase := h.exiting.waitPhase
      rw [hexiting] at hphase
      rw [show s.monitor.phase .destroyer = .outside from hphase] at hholds
      cases hholds
    | some phase =>
      rw [hexiting] at hresult
      have hresult : s.monitor.notifyStep .destroyer (fun state => {state with exit := true}) phase = some result :=
        hresult
      refine ⟨.exit, ?_⟩
      simp only [step, ShutdownRequests.exitStep, hexiting, hresult]
      exact ⟨_, rfl, rfl⟩

/-- Whatever order the steps come in, a shutdown that says it succeeded finds the flags of every connection set, which
say that it shuts down and was shut down, and they stay so; once a shutdown has been initiated every connection's flag
says that it shuts down; and no call sleeps when the flags are known to be set, or the recorder is destroyed, but for
somebody on the way to wake it. The mutex has one owner, which can go on. While the pending requests do not overflow
their counter, a call that waits has its request pending, noticed or followed by a shutdown. -/
theorem shutdown_requests_kept (distribution : UniformIntDistribution R) {ioVecMax maxBufferedSpans n : Nat}
    {host common : Fragment} {generator : R} {events : List (ShutdownEvent S ErrorCode)} {s : ShutdownRequests S R}
    (hpromise : ∀ e ∈ events, Promise e)
    (hrun : (machine S ErrorCode distribution ioVecMax).run
      (new (.new maxBufferedSpans n host common generator)) events = some s) :
    (true ∈ s.results → ∀ c ∈ s.streamer.recorder.connections, c.wasShutdown = true ∧ c.isShuttingDown = true) ∧
      ((machine S ErrorCode distribution ioVecMax).Guarded Counts
          (new (.new maxBufferedSpans n host common generator)) events →
        ∀ i initiations, s.calls i = .waiting initiations → s.Requested initiations) ∧
      (0 < s.initiations → ∀ c ∈ s.streamer.recorder.connections, c.isShuttingDown = true) ∧
      (∀ i, s.monitor.phase (.caller i) = .blocked () → s.monitor.state.ready () = true → s.Notifying) ∧
      (∀ t u, (s.monitor.phase t).holds = true → (s.monitor.phase u).holds = true → u = t) ∧
      ∀ t, s.monitor.owner = some t → ∃ (event : ShutdownEvent S ErrorCode) (s' : ShutdownRequests S R),
        ShutdownEvent.thread event = some t ∧ s.step distribution ioVecMax event = some s' := by
  have hguard := (machine S ErrorCode distribution ioVecMax).guarded_and_mem
    ((machine S ErrorCode distribution ioVecMax).guarded_true events
      (new (.new maxBufferedSpans n host common generator))) hpromise
  have hinv := (machine S ErrorCode distribution ioVecMax).guarded_invariant
    (I := Inv ErrorCode ioVecMax n (.new maxBufferedSpans n host common))
    (fun _ _ _ h hp hstep => step_inv (StreamRecorder.new_fits ..) (StreamRecorder.new_sound ..) h hp.2 hstep)
    events _ _ (new_inv ErrorCode ioVecMax maxBufferedSpans n host common generator) hguard hrun
  obtain ⟨hthreads, hlives⟩ := hinv
  refine ⟨fun hmem c hc => ?_, fun hcounts => ?_, hlives.initiated, fun i => hthreads.notifying,
    fun t u => hthreads.monitor.eq_of_holds, fun t => hthreads.owner_step ErrorCode distribution ioVecMax⟩
  · have hwas := isActive_eq_false.mp (hlives.results hmem) c hc
    exact ⟨hwas, hlives.ended c hc hwas⟩
  · have hnew : (new (.new maxBufferedSpans n host common generator) : ShutdownRequests S R).Requests :=
      ⟨Int.le_refl 0, fun i initiations hwaiting => by cases hwaiting⟩
    exact ((machine S ErrorCode distribution ioVecMax).guarded_invariant
      (fun _ _ _ h hcounts hstep => step_requests h hcounts hstep) events _ _ hnew hcounts hrun).requested

/-- A call whose request the next poll notices, and that is woken once the connection's timeout has ended it. -/
def answeredRun : List (ShutdownEvent FragmentArrayInputStream Unit) :=
  [.streamer (.onEndpointManagerReady some), .call 0 .lock, .call 0 .request, .call 0 (.wait .test),
    .call 0 (.wait .block), .poll fun _ => SatelliteConnection.accepting, .poll fun _ => SatelliteConnection.accepting,
    .poll fun _ => SatelliteConnection.accepting, .streamer (.recorder (.connection 0 (.gracefulShutdownTimeout none))),
    .poll fun _ => SatelliteConnection.accepting, .poll fun _ => SatelliteConnection.accepting,
    .poll fun _ => SatelliteConnection.accepting, .poll fun _ => SatelliteConnection.accepting,
    .poll fun _ => SatelliteConnection.accepting, .poll fun _ => SatelliteConnection.accepting,
    .poll fun _ => SatelliteConnection.accepting, .call 0 (.wait .relock), .call 0 .return]

theorem answeredRun_kept : ∃ s, (machine FragmentArrayInputStream Unit .counting 16).run (new (.new 1 1 [] [] 0))
      answeredRun = some s ∧ s.results = [true] ∧
        ∀ c ∈ s.streamer.recorder.connections, c.wasShutdown = true ∧ c.isShuttingDown = true := by
  have hresult : ((machine FragmentArrayInputStream Unit .counting 16).run (new (.new 1 1 [] [] 0)) answeredRun).map
      (·.results) = some [true] := by
    decide +kernel
  obtain ⟨s, hrun, hresults⟩ := Option.map_eq_some_iff.mp hresult
  refine ⟨s, hrun, hresults, (shutdown_requests_kept .counting ?_ hrun).1 (by simp [hresults])⟩
  simp [answeredRun, Promise, SatelliteStreamer.Promise, StreamRecorder.Promise]

end ShutdownRequests
end Lightstep.Recorder

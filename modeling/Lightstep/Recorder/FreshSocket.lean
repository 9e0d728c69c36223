import Lightstep.Recorder.SatelliteTimers

/-! What a new socket finds.

The start finds no socket, and a socket that ends is freed before the next
connection attempt; only the retry connects without a look at what is there. It
finds no socket as long as the timers are in order. When a failed write has left
the graceful shutdown timeout pending beside a retry, the timeout may connect
first, and the retry then puts a second socket over the first, on a stream that
has already been sent from. -/
namespace Lightstep.Recorder
open Common Network LawfulFragmentInputStream

namespace ConnectionStream
variable {S : Type}

/-- The header stream as `InitializeStream` sets it up. -/
def header (c : ConnectionStream S) : FragmentArrayInputStream :=
  .ofFragments
    [httpRequestCommonFragment, c.hostHeaderFragment, endOfLineFragment,
      writeChunkHeader (c.headerCommonFragment.length + c.embeddedMetricsMessage.makeFragment.length),
      c.headerCommonFragment, c.embeddedMetricsMessage.makeFragment, endOfLineFragment]

/-- The state `InitializeStream` leaves for a new session. -/
structure Fresh (c : ConnectionStream S) : Prop where
  headerStream : c.headerStream = c.header
  terminalStream : c.terminalStream = .ofFragments [terminalFragment]
  spanRemnant : c.spanRemnant = none
  shuttingDown : c.shuttingDown = false

theorem initializeStream_fresh {c : ConnectionStream S} (h : c.spanRemnant = none) (sp : SpanStream S) :
    (c.initializeStream sp).1.Fresh := ⟨rfl, rfl, h, rfl⟩

theorem new_fresh (host common : Fragment) (sp : SpanStream S) : (new host common sp).1.Fresh :=
  initializeStream_fresh rfl sp

theorem reset_fresh [FragmentInputStream S] (c : ConnectionStream S) (sp : SpanStream S) : (c.reset sp).1.Fresh :=
  initializeStream_fresh rfl _

/-- The header comes first in every flush. -/
theorem streams_eq_header (c : ConnectionStream S) (sp : SpanStream S) :
    ∃ rest, c.streams sp = .inl c.headerStream :: rest := by
  unfold streams
  split <;> exact ⟨_, rfl⟩

theorem bytes_header (c : ConnectionStream S) : ∃ rest, bytes c.header = httpRequestCommonFragment ++ rest := by
  have hfragments := congrArg List.flatten (FragmentArrayInputStream.fragments_ofFragments
    [httpRequestCommonFragment, c.hostHeaderFragment, endOfLineFragment,
      writeChunkHeader (c.headerCommonFragment.length + c.embeddedMetricsMessage.makeFragment.length),
      c.headerCommonFragment, c.embeddedMetricsMessage.makeFragment, endOfLineFragment])
  exact ⟨_, hfragments.trans List.flatten_cons⟩

end ConnectionStream

namespace SatelliteConnection
variable {S ErrorCode : Type} [FragmentInputStream S]

/-- From a connection to the one on which an event has installed a socket: the previous socket was
freed before, and the stream begins anew. -/
structure Installed (c d : SatelliteConnection S) : Prop where
  freed : c.socket = none ∨ c.session < d.session
  writable : d.writable = false
  fresh : d.connectionStream.Fresh

/-- A flush would send the header first, from its first byte on. -/
def HeaderFirst (c : SatelliteConnection S) : Prop :=
  ∃ header rest bytesAfter, c.connectionStream.streams c.spanStream = .inl header :: rest ∧
    bytes header = httpRequestCommonFragment ++ bytesAfter

/-- Whenever a run installs a socket, it starts with a fresh stream, and the first write on it begins
with the header. -/
structure FreshSockets (ioVecMax : Nat) (init : SatelliteConnection S)
    (events : List (SatelliteEvent S ErrorCode)) : Prop where
  installed : ∀ before e rest c d, events = before ++ e :: rest →
    (machine S ErrorCode ioVecMax).run init before = some c → c.step ioVecMax e = some d →
    d.installs ≠ c.installs → Installed c d
  header : ∀ before e middle rest c d t, events = before ++ e :: (middle ++ rest) →
    (machine S ErrorCode ioVecMax).run init before = some c → c.step ioVecMax e = some d →
    d.installs ≠ c.installs → (machine S ErrorCode ioVecMax).run d middle = some t → t.writes = d.writes →
    t.HeaderFirst

/-- No retry connects while a socket is open. -/
def RetryFindsNoSocket (c : SatelliteConnection S) : SatelliteEvent S ErrorCode → Prop
  | .retry (some _) => 0 < c.retryTimers → c.socket = none
  | _ => True

/-! ### Without a socket -/

/-- Nothing of the next session has begun, and nothing waits for a socket. -/
structure Idle (c : SatelliteConnection S) : Prop where
  writable : c.writable = false
  readEvent : c.readEvent = false
  writeEvent : c.writeEvent = false
  reconnectTimer : c.reconnectTimer = false
  fresh : c.connectionStream.Fresh

def Settled (c : SatelliteConnection S) : Prop := c.socket = none → c.Idle

/-- None of the header has been taken. -/
def Unsent (c : SatelliteConnection S) : Prop := c.connectionStream.headerStream = c.connectionStream.header

omit [FragmentInputStream S] in
theorem Unsent.headerFirst {c : SatelliteConnection S} (h : c.Unsent) : c.HeaderFirst := by
  have h : c.connectionStream.headerStream = c.connectionStream.header := h
  obtain ⟨rest, hstreams⟩ := c.connectionStream.streams_eq_header c.spanStream
  obtain ⟨bytesAfter, hbytes⟩ := c.connectionStream.bytes_header
  exact ⟨_, rest, bytesAfter, hstreams, h ▸ hbytes⟩

/-- What a call may do to a connection. -/
structure Progress (c d : SatelliteConnection S) : Prop where
  settled : d.Settled
  installed : d.installs ≠ c.installs → Installed c d
  writes_le : c.writes ≤ d.writes
  unsent : d.writes = c.writes → c.Unsent → d.Unsent
  started : c.started = true → d.started = true

omit [FragmentInputStream S] in
/-- What an event clears before its call does not matter. -/
theorem Progress.of_eq {b c d : SatelliteConnection S} (h : Progress c d) (hsocket : c.socket = b.socket)
    (hsession : c.session = b.session) (hinstalls : c.installs = b.installs) (hwrites : c.writes = b.writes)
    (hstream : c.connectionStream = b.connectionStream) (hstarted : b.started = true → c.started = true) :
    Progress b d := by
  refine ⟨h.settled, fun hne => ?_, hwrites ▸ h.writes_le, fun heq hb => ?_, fun hb => h.started (hstarted hb)⟩
  · have hinstalled := h.installed (hinstalls ▸ hne)
    exact ⟨hsocket ▸ hsession ▸ hinstalled.freed, hinstalled.writable, hinstalled.fresh⟩
  · have hc : c.Unsent := by
      unfold Unsent
      rw [hstream]
      exact hb
    exact h.unsent (heq.trans hwrites.symm) hc

theorem freeSocket_idle (c : SatelliteConnection S) : c.freeSocket.Idle :=
  ⟨rfl, rfl, rfl, rfl, c.connectionStream.reset_fresh c.spanStream⟩

theorem handleFailure_progress (c : SatelliteConnection S) : Progress c c.handleFailure := by
  have hidle := c.freeSocket_idle
  cases hs : c.isShuttingDown with
  | false =>
    rw [handleFailure_of_running hs]
    exact ⟨fun _ => ⟨rfl, rfl, rfl, rfl, hidle.fresh⟩, fun hne => absurd rfl hne, Nat.le_refl _,
      fun _ _ => hidle.fresh.headerStream, fun h => h⟩
  | true =>
    rw [handleFailure_of_shuttingDown hs]
    exact ⟨fun _ => ⟨rfl, rfl, rfl, rfl, hidle.fresh⟩, fun hne => absurd rfl hne, Nat.le_refl _,
      fun _ _ => hidle.fresh.headerStream, fun h => h⟩

theorem connect_progress {c : SatelliteConnection S} (hsocket : c.socket = none) (hidle : c.Idle)
    (connected : Option Nat) : Progress c (c.connect connected) := by
  cases connected with
  | none => exact c.handleFailure_progress
  | some socket =>
    exact ⟨fun hnone => (by cases hnone), fun _ => ⟨.inl hsocket, hidle.writable, hidle.fresh⟩, Nat.le_refl _,
      fun _ hc => hc, fun h => h⟩

/-- A socket that is freed before the next is installed. -/
theorem onSocketError_progress (c : SatelliteConnection S) (connected : Option Nat) :
    Progress c (c.onSocketError connected) := by
  have hconnect := connect_progress (c := c.freeSocket) rfl c.freeSocket_idle connected
  refine ⟨hconnect.settled, fun hne => ?_, hconnect.writes_le, fun heq _ => ?_, hconnect.started⟩
  · have hinstalled := hconnect.installed hne
    refine ⟨.inr ?_, hinstalled.writable, hinstalled.fresh⟩
    cases connected with
    | none => exact absurd (by
        cases hs : c.isShuttingDown <;> simp [onSocketError, connect, handleFailure, freeSocket, hs]) hne
    | some socket => exact Nat.lt_succ_self _
  · exact hconnect.unsent heq c.freeSocket_idle.fresh.headerStream

theorem reconnect_progress (c : SatelliteConnection S) (connected : Option Nat) :
    Progress c (c.reconnect connected) := by
  by_cases hs : c.freeSocket.isShuttingDown = true
  · have hidle := c.freeSocket_idle
    rw [reconnect, if_pos hs]
    exact ⟨fun _ => ⟨rfl, rfl, rfl, rfl, hidle.fresh⟩, fun hne => absurd rfl hne, Nat.le_refl _,
      fun _ _ => hidle.fresh.headerStream, fun h => h⟩
  · rw [reconnect, if_neg hs]
    exact c.onSocketError_progress connected

/-! ### With one -/

theorem flush_progress {c : SatelliteConnection S} (hsocket : c.socket ≠ none) (ioVecMax : Nat)
    (socket : Socket ErrorCode) : Progress c (c.flush ioVecMax socket).1 ∧
      c.writes < (c.flush ioVecMax socket).1.writes := by
  by_cases hthrows : c.WriteThrows ioVecMax socket
  · obtain ⟨stream, spans, heq⟩ := flush_of_throws hthrows
    rw [heq]
    have hfailure := (c.written stream spans).handleFailure_progress
    have hlt : c.writes < (c.written stream spans).handleFailure.writes := hfailure.writes_le
    exact ⟨⟨hfailure.settled, fun hne => ⟨(hfailure.installed hne).freed, (hfailure.installed hne).writable,
      (hfailure.installed hne).fresh⟩, Nat.le_of_lt hlt, fun heq => absurd heq (Nat.ne_of_gt hlt), hfailure.started⟩, hlt⟩
  · obtain ⟨stream, spans, -, heq | heq⟩ := flush_of_not_throws hthrows
    all_goals
      rw [heq]
      exact ⟨⟨fun hnone => absurd hnone hsocket, fun hne => absurd rfl hne, Nat.le_succ _,
        fun heq => absurd heq (Nat.ne_of_gt (Nat.lt_succ_self _)), fun h => h⟩, Nat.lt_succ_self _⟩

theorem onReadable_progress {c : SatelliteConnection S} (hsocket : c.socket ≠ none) (reads : List (List UInt8))
    (last : ReadEnd) (connected : Option Nat) : Progress c (c.onReadable reads last connected) := by
  rcases onReadable_cases reads last connected c with ⟨-, heq⟩ | ⟨-, heq⟩ | ⟨-, heq⟩ | ⟨-, heq⟩
  · rw [heq]
    exact (c.parsed reads).handleFailure_progress.of_eq rfl rfl rfl rfl rfl fun h => h
  · rw [heq]
    exact ((c.parsed reads).onSocketError_progress connected).of_eq rfl rfl rfl rfl rfl fun h => h
  · rw [heq]
    exact ((c.parsed reads).reconnect_progress connected).of_eq rfl rfl rfl rfl rfl fun h => h
  · rw [heq]
    exact ⟨fun hnone => absurd hnone hsocket, fun hne => absurd rfl hne, Nat.le_refl _, fun _ hc => hc, fun h => h⟩

/-- Before the first write nothing is flushed here, and the header stays. -/
theorem initiateReconnect_progress {c : SatelliteConnection S} (hs : c.isShuttingDown = false)
    (hsocket : c.socket ≠ none) (ioVecMax : Nat) (socket : Socket ErrorCode) :
    Progress c (c.initiateReconnect ioVecMax socket) := by
  rw [initiateReconnect_eq hs]
  by_cases hw : c.writable = true
  · rw [if_pos hw]
    obtain ⟨hflush, hlt⟩ := flush_progress (c := c.shutdown) hsocket ioVecMax socket
    refine ⟨fun hnone => ?_, fun hne => ?_, hflush.writes_le, fun heq => absurd heq (Nat.ne_of_gt hlt),
      hflush.started⟩
    · have hidle := hflush.settled hnone
      exact ⟨hidle.writable, hidle.readEvent, hidle.writeEvent, hidle.reconnectTimer, hidle.fresh⟩
    · have hinstalled := hflush.installed hne
      exact ⟨hinstalled.freed, hinstalled.writable, hinstalled.fresh⟩
  · rw [if_neg hw]
    exact ⟨fun hnone => absurd hnone hsocket, fun hne => absurd rfl hne, Nat.le_refl _, fun _ hc => hc, fun h => h⟩

/-! ### Every event -/

omit [FragmentInputStream S] in
theorem Settled.socket_ne {c : SatelliteConnection S} (h : c.Settled)
    (hpending : c.writable = true ∨ c.readEvent = true ∨ c.writeEvent = true ∨ c.reconnectTimer = true) :
    c.socket ≠ none := by
  intro hnone
  have hidle := h hnone
  rw [hidle.writable, hidle.readEvent, hidle.writeEvent, hidle.reconnectTimer] at hpending
  simp at hpending

theorem step_progress {c d : SatelliteConnection S} {ioVecMax : Nat} {e : SatelliteEvent S ErrorCode}
    (hs : c.isShuttingDown = false) (h : c.Settled) (hstarted : c.started = false → c.socket = none)
    (hno : ∀ socket, e ≠ .initiateShutdown socket) (hretry : c.RetryFindsNoSocket e)
    (hstep : c.step ioVecMax e = some d) : Progress c d := by
  cases handles_of_step hstep with
  | start connected hnot =>
    have hsocket := hstarted hnot
    have hidle := h hsocket
    exact (connect_progress (c := {c with started := true}) hsocket
      ⟨hidle.writable, hidle.readEvent, hidle.writeEvent, hidle.reconnectTimer, hidle.fresh⟩
      connected).of_eq rfl rfl rfl rfl rfl fun _ => rfl
  | retry connected hpending =>
    cases connected with
    | none => exact (handleFailure_progress _).of_eq rfl rfl rfl rfl rfl fun h => h
    | some socket =>
      have hsocket := hretry hpending
      have hidle := h hsocket
      exact (connect_progress (c := {c with retryTimers := c.retryTimers - 1}) hsocket
        ⟨hidle.writable, hidle.readEvent, hidle.writeEvent, hidle.reconnectTimer, hidle.fresh⟩
        (some socket)).of_eq rfl rfl rfl rfl rfl fun h => h
  | reconnectTimer socket hpending =>
    have hsocket := h.socket_ne (.inr (.inr (.inr hpending)))
    exact (initiateReconnect_progress (c := {c with reconnectTimer := false}) hs hsocket ioVecMax socket).of_eq
      rfl rfl rfl rfl rfl fun h => h
  | gracefulShutdownTimeout connected hpending =>
    exact (reconnect_progress {c with gracefulShutdownTimeout := false} connected).of_eq rfl rfl rfl rfl rfl fun h => h
  | readable reads last connected hpending =>
    have hsocket := h.socket_ne (.inr (.inl hpending))
    exact (onReadable_progress (c := {c with readEvent := false}) hsocket reads last connected).of_eq
      rfl rfl rfl rfl rfl fun h => h
  | writable socket hpending =>
    have hsocket := h.socket_ne (.inr (.inr (.inl hpending)))
    exact (flush_progress (c := {c with writeEvent := false}) hsocket ioVecMax socket).1.of_eq rfl rfl rfl rfl rfl
      fun h => h
  | writeTimeout connected hpending =>
    exact (onSocketError_progress {c with writeEvent := false} connected).of_eq rfl rfl rfl rfl rfl fun h => h
  | flush socket hready =>
    have hsocket := h.socket_ne (.inl (Bool.and_eq_true_iff.mp hready).1)
    exact (flush_progress hsocket ioVecMax socket).1
  | notReady socket hready => exact ⟨h, fun hne => absurd rfl hne, Nat.le_refl _, fun _ hc => hc, fun h => h⟩
  | initiateShutdown socket => exact absurd rfl (hno socket)
  | other spanStream =>
    refine ⟨fun hnone => ?_, fun hne => absurd rfl hne, Nat.le_refl _, fun _ hc => hc, fun h => h⟩
    have hidle := h hnone
    exact ⟨hidle.writable, hidle.readEvent, hidle.writeEvent, hidle.reconnectTimer, hidle.fresh⟩

/-- Before the start nothing is to come but the start. -/
structure Placed (c : SatelliteConnection S) : Prop where
  isShuttingDown : c.isShuttingDown = false
  settled : c.Settled
  unstarted : c.started = false → c.socket = none ∧ c.retryTimers = 0 ∧ c.gracefulShutdownTimeout = false

omit [FragmentInputStream S] in
theorem new_placed (host common : Fragment) (spanStream : SpanStream S) : (new host common spanStream).Placed :=
  ⟨rfl, fun _ => ⟨rfl, rfl, rfl, rfl, ConnectionStream.new_fresh host common spanStream⟩, fun _ => ⟨rfl, rfl, rfl⟩⟩

theorem connect_started {c : SatelliteConnection S} (h : c.started = true) (connected : Option Nat) :
    (c.connect connected).started = true := by
  cases connected with
  | none => exact c.handleFailure_progress.started h
  | some socket => exact h

/-- What can happen before the start leaves the connection as it is, or starts it. -/
theorem Placed.step_unstarted {c d : SatelliteConnection S} (h : c.Placed) {ioVecMax : Nat}
    {e : SatelliteEvent S ErrorCode} (hno : ∀ socket, e ≠ .initiateShutdown socket) (hstarted : c.started = false)
    (hstep : c.step ioVecMax e = some d) : d.started = true ∨ ∃ spanStream, d = {c with spanStream := spanStream} := by
  obtain ⟨hsocket, hretry, hgraceful⟩ := h.unstarted hstarted
  have hidle := h.settled hsocket
  cases handles_of_step hstep with
  | start connected hnot => exact .inl (connect_started (c := {c with started := true}) rfl connected)
  | retry connected hpending => exact absurd (hretry ▸ hpending) (Nat.lt_irrefl 0)
  | reconnectTimer socket hpending => cases hidle.reconnectTimer.symm.trans hpending
  | gracefulShutdownTimeout connected hpending => cases hgraceful.symm.trans hpending
  | readable reads last connected hpending => cases hidle.readEvent.symm.trans hpending
  | writable socket hpending => cases hidle.writeEvent.symm.trans hpending
  | writeTimeout connected hpending => cases hidle.writeEvent.symm.trans hpending
  | flush socket hready => cases hidle.writable.symm.trans (Bool.and_eq_true_iff.mp hready).1
  | notReady socket hready => exact .inr ⟨c.spanStream, rfl⟩
  | initiateShutdown socket => exact absurd rfl (hno socket)
  | other spanStream => exact .inr ⟨spanStream, rfl⟩

theorem step_placed {c d : SatelliteConnection S} {ioVecMax : Nat} {e : SatelliteEvent S ErrorCode} (h : c.Placed)
    (hno : ∀ socket, e ≠ .initiateShutdown socket) (hretry : c.RetryFindsNoSocket e)
    (hstep : c.step ioVecMax e = some d) : Progress c d ∧ d.Placed := by
  have hprogress := step_progress h.isShuttingDown h.settled (fun hc => (h.unstarted hc).1) hno hretry hstep
  refine ⟨hprogress, (step_isShuttingDown hno hstep).trans h.isShuttingDown, hprogress.settled, fun hd => ?_⟩
  cases hc : c.started with
  | true => exact absurd (hprogress.started hc) (by rw [hd]; decide)
  | false =>
    rcases h.step_unstarted hno hc hstep with hstarted | ⟨spanStream, rfl⟩
    · exact absurd hstarted (by rw [hd]; decide)
    · exact h.unstarted hc

/-- Until something is written the header stays whole. -/
theorem run_unsent {ioVecMax : Nat} {c d : SatelliteConnection S} {events : List (SatelliteEvent S ErrorCode)}
    (hc : c.Placed) (hunsent : c.Unsent) (hno : ∀ e ∈ events, ∀ socket, e ≠ .initiateShutdown socket)
    (hguarded : (machine S ErrorCode ioVecMax).Guarded RetryFindsNoSocket c events)
    (hrun : (machine S ErrorCode ioVecMax).run c events = some d) :
    c.writes ≤ d.writes ∧ (d.writes = c.writes → d.Unsent) := by
  have hinvariant := (machine S ErrorCode ioVecMax).guarded_invariant
    (I := fun d => d.Placed ∧ c.writes ≤ d.writes ∧ (d.writes = c.writes → d.Unsent))
    (fun d e t hd hG hstep => by
      obtain ⟨hplaced, hle, hkept⟩ := hd
      obtain ⟨hprogress, ht⟩ := step_placed hplaced hG.2 hG.1 hstep
      refine ⟨ht, hle.trans hprogress.writes_le, fun heq => ?_⟩
      have hsame : t.writes = d.writes := Nat.le_antisymm (heq.trans_le hle) hprogress.writes_le
      exact hprogress.unsent hsame (hkept (hsame.symm.trans heq)))
    events c d ⟨hc, Nat.le_refl _, fun _ => hunsent⟩
    ((machine S ErrorCode ioVecMax).guarded_and_mem hguarded hno) hrun
  exact hinvariant.2

/-- A retry that connects while a socket is open installs one over it. -/
theorem retry_not_installed {c : SatelliteConnection S} {ioVecMax socket : Nat} (hpending : 0 < c.retryTimers)
    (hsocket : c.socket ≠ none) : ∃ d, c.step ioVecMax (.retry (some socket) : SatelliteEvent S ErrorCode) = some d ∧
      d.installs ≠ c.installs ∧ ¬ Installed c d := by
  refine ⟨_, if_pos hpending, Nat.succ_ne_self _, fun h => ?_⟩
  rcases h.freed with hnone | hlt
  · exact hsocket hnone
  · exact Nat.lt_irrefl _ hlt

section
variable {ioVecMax : Nat} {host common : Fragment} {spanStream : SpanStream S}
  {events : List (SatelliteEvent S ErrorCode)}

theorem run_placed {c : SatelliteConnection S} (hno : ∀ e ∈ events, ∀ socket, e ≠ .initiateShutdown socket)
    (hretries : (machine S ErrorCode ioVecMax).Guarded RetryFindsNoSocket (new host common spanStream) events)
    (hrun : (machine S ErrorCode ioVecMax).run (new host common spanStream) events = some c) : c.Placed :=
  (machine S ErrorCode ioVecMax).guarded_invariant (fun _ _ _ hI hG hstep => (step_placed hI hG.2 hG.1 hstep).2)
    events _ c (new_placed host common spanStream) ((machine S ErrorCode ioVecMax).guarded_and_mem hretries hno) hrun

/-- Where a retry finds a socket, it installs one that is not fresh. -/
theorem FreshSockets.guarded (h : FreshSockets ioVecMax (new host common spanStream) events) :
    (machine S ErrorCode ioVecMax).Guarded RetryFindsNoSocket (new host common spanStream) events := by
  rw [Library.Machine.guarded_iff]
  intro before e rest c hsplit hrun
  cases e with
  | retry connected =>
    cases connected with
    | none => trivial
    | some socket =>
      intro hpending
      by_contra hsocket
      obtain ⟨d, hstep, hinstalls, hnot⟩ := @retry_not_installed S ErrorCode _ c ioVecMax socket hpending hsocket
      exact hnot (h.installed before _ rest c d hsplit hrun hstep hinstalls)
  | _ => trivial

theorem freshSockets_of_guarded (hno : ∀ e ∈ events, ∀ socket, e ≠ .initiateShutdown socket)
    (h : (machine S ErrorCode ioVecMax).Guarded RetryFindsNoSocket (new host common spanStream) events) :
    FreshSockets ioVecMax (new host common spanStream) events := by
  have hplaced : ∀ before rest c, events = before ++ rest →
      (machine S ErrorCode ioVecMax).run (new host common spanStream) before = some c → c.Placed := by
    intro before rest c hsplit hrun
    subst hsplit
    exact run_placed (fun e he => hno e (List.mem_append_left _ he))
      ((machine S ErrorCode ioVecMax).guarded_append_left h) hrun
  have hstep : ∀ before e rest c d, events = before ++ e :: rest →
      (machine S ErrorCode ioVecMax).run (new host common spanStream) before = some c →
      c.step ioVecMax e = some d → Progress c d ∧ d.Placed := by
    intro before e rest c d hsplit hrun hstep
    exact step_placed (hplaced before _ c hsplit hrun)
      (hno e (hsplit ▸ List.mem_append_right before (List.mem_cons_self ..)))
      ((Library.Machine.guarded_iff _).mp h before e rest c hsplit hrun) hstep
  refine ⟨fun before e rest c d hsplit hrun hs => (hstep before e rest c d hsplit hrun hs).1.installed, ?_⟩
  intro before e middle rest c d t hsplit hrun hs hinstalls hmiddle hwrites
  obtain ⟨hprogress, hd⟩ := hstep before e (middle ++ rest) c d hsplit hrun hs
  have hinstalled := hprogress.installed hinstalls
  have hsplit' : events = (before ++ [e]) ++ (middle ++ rest) := by
    rw [hsplit, List.append_assoc]
    rfl
  subst hsplit'
  have hguarded := (machine S ErrorCode ioVecMax).guarded_append_left
    ((machine S ErrorCode ioVecMax).guarded_append_right h ((machine S ErrorCode ioVecMax).run_snoc hrun hs))
  have hmiddle_no : ∀ x ∈ middle, ∀ socket, x ≠ .initiateShutdown socket := fun x hx =>
    hno x (List.mem_append_right _ (List.mem_append_left _ hx))
  exact ((run_unsent hd hinstalled.fresh.headerStream hmiddle_no hguarded hmiddle).2 hwrites).headerFirst

/-- While the connection is in order, a retry is due only where it has no socket. -/
theorem retryFindsNoSocket_of_writeSucceeds (hno : ∀ e ∈ events, ∀ socket, e ≠ .initiateShutdown socket)
    (h : (machine S ErrorCode ioVecMax).Guarded (WriteSucceeds ioVecMax) (new host common spanStream) events) :
    (machine S ErrorCode ioVecMax).Guarded RetryFindsNoSocket (new host common spanStream) events := by
  rw [Library.Machine.guarded_iff]
  intro before e rest c hsplit hrun
  cases e with
  | retry connected =>
    cases connected with
    | none => trivial
    | some socket =>
      intro hpending
      subst hsplit
      have hin := run_inOrder (fun e he => hno e (List.mem_append_left _ he))
        ((machine S ErrorCode ioVecMax).guarded_append_left h) hrun
      exact (hin.waiting (.inl hpending)).closed.socket
  | _ => trivial

end

/-- **Every socket starts with a fresh stream**, as long as nobody shuts the connection down, exactly
if no retry connects while a socket is open; and none does if no write fails while the connection
begins to reconnect. -/
theorem freshSockets_iff {ioVecMax : Nat} {host common : Fragment} {spanStream : SpanStream S}
    {events : List (SatelliteEvent S ErrorCode)} (hno : ∀ e ∈ events, ∀ socket, e ≠ .initiateShutdown socket) :
    (FreshSockets ioVecMax (new host common spanStream) events ↔
      (machine S ErrorCode ioVecMax).Guarded RetryFindsNoSocket (new host common spanStream) events) ∧
    ((machine S ErrorCode ioVecMax).Guarded (WriteSucceeds ioVecMax) (new host common spanStream) events →
      (machine S ErrorCode ioVecMax).Guarded RetryFindsNoSocket (new host common spanStream) events) :=
  ⟨⟨FreshSockets.guarded, freshSockets_of_guarded hno⟩, retryFindsNoSocket_of_writeSucceeds hno⟩

/-- A first attempt that fails, and the retry. -/
def retrying : List (SatelliteEvent FragmentArrayInputStream Unit) :=
  [.start none, .retry (some 3), .writable accepting]

theorem retrying_freshSockets : FreshSockets 16 (new [] [] emptySpans) retrying := by
  have hno : ∀ e ∈ retrying, ∀ socket, e ≠ .initiateShutdown socket := by simp [retrying]
  refine (freshSockets_iff hno).1.mpr ⟨trivial, fun c hc => ⟨fun _ => ?_, fun _ _ => ⟨trivial, fun _ _ => trivial⟩⟩⟩
  cases hc
  rfl

/-- The timeout that was armed after the failed write connects before the retry does. -/
def overtaking : List (SatelliteEvent FragmentArrayInputStream Unit) :=
  reconnecting refusing ++ [.gracefulShutdownTimeout (some 4), .writable accepting]

/-- The retry then puts its socket over an open one, on which the header has been sent. -/
theorem overtaking_not_freshSockets :
    (∀ e ∈ overtaking ++ [.retry (some 5)], ∀ socket, e ≠ .initiateShutdown socket) ∧
    ¬ FreshSockets 16 (new [] [] emptySpans) (overtaking ++ [.retry (some 5)]) ∧
    ((machine FragmentArrayInputStream Unit 16).run (new [] [] emptySpans) (overtaking ++ [.retry (some 5)])).map
      (fun c => (c.socket, c.writable, FragmentInputStream.empty c.connectionStream.headerStream)) =
        some (some 5, true, true) := by
  refine ⟨by simp [overtaking, reconnecting], fun h => ?_, by decide +kernel⟩
  have hrun : ((machine FragmentArrayInputStream Unit 16).run (new [] [] emptySpans) overtaking).map
      (fun c => (c.retryTimers, c.socket)) = some (1, some 4) := by
    decide +kernel
  obtain ⟨c, hrun, hc⟩ := Option.map_eq_some_iff.mp hrun
  obtain ⟨hretry, hsocket⟩ := Prod.mk.inj hc
  obtain ⟨d, hstep, hinstalls, hnot⟩ := @retry_not_installed _ Unit _ c 16 5 (by rw [hretry]; decide)
    (by rw [hsocket]; exact Option.some_ne_none 4)
  exact hnot (h.installed overtaking (.retry (some 5)) [] c d rfl hrun hstep hinstalls)

end SatelliteConnection
end Lightstep.Recorder

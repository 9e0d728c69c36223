import Lightstep.Recorder.SatelliteConnection

/-! The timers and events of a satellite connection with an open socket.

As long as nobody shuts the connection down, the one thing that puts them out of
order is a write that fails inside `InitiateReconnect`: the failure frees the
socket and resets the stream, and then the graceful shutdown timeout is armed for
a session that has not begun. -/
namespace Lightstep.Recorder
open Common Network

namespace SatelliteConnection
variable {S ErrorCode : Type} [FragmentInputStream S]

/-- What a connection with an open socket waits for, and what the graceful timeout is armed for. -/
structure Scheduled (c : SatelliteConnection S) : Prop where
  readEvent : c.socket.isSome = true → c.readEvent = true
  writable : c.socket.isSome = true → c.writable = !c.writeEvent
  timers : c.socket.isSome = true → c.reconnectTimer = !c.gracefulShutdownTimeout
  graceful : c.gracefulShutdownTimeout = true →
    c.connectionStream.shuttingDown = true ∧ c.armedFor = c.session

/-- No write fails while the connection begins to reconnect. -/
def WriteSucceeds (ioVecMax : Nat) (c : SatelliteConnection S) : SatelliteEvent S ErrorCode → Prop
  | .reconnectTimer socket => c.reconnectTimer = true → c.writable = true →
      ¬ c.shutdown.WriteThrows ioVecMax socket
  | _ => True

/-- With a socket that is open and its events and timers in order. -/
structure Opened (c : SatelliteConnection S) : Prop where
  socket : c.socket.isSome = true
  readEvent : c.readEvent = true
  writable : c.writable = !c.writeEvent
  timers : c.reconnectTimer = !c.gracefulShutdownTimeout
  graceful : c.gracefulShutdownTimeout = true →
    c.connectionStream.shuttingDown = true ∧ c.armedFor = c.session
  started : c.started = true
  retryTimers : c.retryTimers = 0

/-- While no socket is open, at most one retry or the start is to come. -/
structure Waiting (c : SatelliteConnection S) : Prop where
  closed : c.Closed
  retryTimers : c.retryTimers ≤ 1
  started : c.started = false → c.retryTimers = 0

structure InOrder (c : SatelliteConnection S) : Prop where
  isShuttingDown : c.isShuttingDown = false
  state : c.Waiting ∨ c.Opened

omit [FragmentInputStream S] in
theorem InOrder.scheduled {c : SatelliteConnection S} (h : c.InOrder) : c.Scheduled := by
  rcases h.state with hw | ho
  · have hnone : ¬ c.socket.isSome = true := by rw [hw.closed.socket]; decide
    refine ⟨fun hs => absurd hs hnone, fun hs => absurd hs hnone, fun hs => absurd hs hnone, fun hg => ?_⟩
    rw [hw.closed.gracefulShutdownTimeout] at hg
    cases hg
  · exact ⟨fun _ => ho.readEvent, fun _ => ho.writable, fun _ => ho.timers, ho.graceful⟩

/-! ### The calls an event makes -/

theorem handleFailure_inOrder {c : SatelliteConnection S} (hs : c.isShuttingDown = false)
    (hstarted : c.started = true) (hretry : c.retryTimers = 0) : c.handleFailure.InOrder := by
  have heq := handleFailure_of_running hs
  refine ⟨by rw [heq]; exact hs, .inl ⟨c.handleFailure_closed, ?_, ?_⟩⟩
  · rw [heq]
    exact Nat.le_of_eq (congrArg (· + 1) hretry)
  · intro hnot
    rw [heq] at hnot
    exact absurd (hstarted.symm.trans hnot) (by decide)

theorem connect_inOrder {c : SatelliteConnection S} (hs : c.isShuttingDown = false) (hclosed : c.Closed)
    (hstarted : c.started = true) (hretry : c.retryTimers = 0) (connected : Option Nat) :
    (c.connect connected).InOrder := by
  cases connected with
  | none => exact handleFailure_inOrder hs hstarted hretry
  | some socket =>
    refine ⟨hs, .inr { socket := rfl, readEvent := rfl, writable := hclosed.writable, timers := ?_, graceful := ?_,
                       started := hstarted, retryTimers := hretry }⟩
    · show true = !c.gracefulShutdownTimeout
      rw [hclosed.gracefulShutdownTimeout]
      rfl
    · intro hg
      have hg : c.gracefulShutdownTimeout = true := hg
      rw [hclosed.gracefulShutdownTimeout] at hg
      cases hg

theorem onSocketError_inOrder {c : SatelliteConnection S} (hs : c.isShuttingDown = false)
    (hstarted : c.started = true) (hretry : c.retryTimers = 0) (connected : Option Nat) :
    (c.onSocketError connected).InOrder :=
  connect_inOrder (c := c.freeSocket) hs c.freeSocket_closed hstarted hretry connected

theorem reconnect_inOrder {c : SatelliteConnection S} (hs : c.isShuttingDown = false)
    (hstarted : c.started = true) (hretry : c.retryTimers = 0) (connected : Option Nat) :
    (c.reconnect connected).InOrder := by
  have hnot : ¬ c.freeSocket.isShuttingDown = true := by
    rw [show c.freeSocket.isShuttingDown = c.isShuttingDown from rfl, hs]
    decide
  rw [reconnect, if_neg hnot]
  exact onSocketError_inOrder hs hstarted hretry connected

theorem onReadable_inOrder {c : SatelliteConnection S} (hs : c.isShuttingDown = false)
    (h : {c with readEvent := true}.Opened) (reads : List (List UInt8)) (last : ReadEnd)
    (connected : Option Nat) : (c.onReadable reads last connected).InOrder := by
  rcases onReadable_cases reads last connected c with ⟨-, heq⟩ | ⟨-, heq⟩ | ⟨-, heq⟩ | ⟨-, heq⟩
  · rw [heq]
    exact handleFailure_inOrder hs h.started h.retryTimers
  · rw [heq]
    exact onSocketError_inOrder (c := c.parsed reads) hs h.started h.retryTimers connected
  · rw [heq]
    exact reconnect_inOrder (c := c.parsed reads) hs h.started h.retryTimers connected
  · rw [heq]
    exact ⟨hs, .inr ⟨h.socket, h.readEvent, h.writable, h.timers, h.graceful, h.started, h.retryTimers⟩⟩

/-- A flush of a connection that is writable, or whose write event has just fired. -/
theorem flush_inOrder {c : SatelliteConnection S} (hs : c.isShuttingDown = false)
    (h : {c with writable := true}.Opened) (ioVecMax : Nat) (socket : Socket ErrorCode) :
    (c.flush ioVecMax socket).1.InOrder := by
  by_cases hthrows : c.WriteThrows ioVecMax socket
  · obtain ⟨stream, spans, heq⟩ := flush_of_throws hthrows
    rw [heq]
    exact handleFailure_inOrder hs h.started h.retryTimers
  · obtain ⟨stream, spans, hshutting, heq | heq⟩ := flush_of_not_throws hthrows
    · rw [heq]
      exact ⟨hs, .inr ⟨h.socket, h.readEvent, h.writable, h.timers,
        fun hg => ⟨hshutting.trans (h.graceful hg).1, (h.graceful hg).2⟩, h.started, h.retryTimers⟩⟩
    · rw [heq]
      exact ⟨hs, .inr ⟨h.socket, h.readEvent, rfl, h.timers,
        fun hg => ⟨hshutting.trans (h.graceful hg).1, (h.graceful hg).2⟩, h.started, h.retryTimers⟩⟩

/-- The timeout is armed for the session whose stream has just been shut down. -/
theorem initiateReconnect_inOrder {c : SatelliteConnection S} (hs : c.isShuttingDown = false)
    (h : {c with reconnectTimer := true, gracefulShutdownTimeout := false}.Opened)
    (hfired : c.reconnectTimer = false) {ioVecMax : Nat} {socket : Socket ErrorCode}
    (hwrites : c.writable = true → ¬ c.shutdown.WriteThrows ioVecMax socket) :
    (c.initiateReconnect ioVecMax socket).InOrder := by
  rw [initiateReconnect_eq hs]
  by_cases hw : c.writable = true
  · rw [if_pos hw]
    obtain ⟨stream, spans, hshutting, heq | heq⟩ := flush_of_not_throws (hwrites hw)
    · rw [heq]
      exact ⟨hs, .inr ⟨h.socket, h.readEvent, hw.symm.trans h.writable, hfired, fun _ => ⟨hshutting, rfl⟩,
        h.started, h.retryTimers⟩⟩
    · rw [heq]
      exact ⟨hs, .inr ⟨h.socket, h.readEvent, rfl, hfired, fun _ => ⟨hshutting, rfl⟩, h.started, h.retryTimers⟩⟩
  · rw [if_neg hw]
    exact ⟨hs, .inr ⟨h.socket, h.readEvent, h.writable, hfired, fun _ => ⟨rfl, rfl⟩, h.started, h.retryTimers⟩⟩

/-- A write that fails there arms the timeout for a stream that is not shutting down. -/
theorem initiateReconnect_not_scheduled {c : SatelliteConnection S} (hs : c.isShuttingDown = false)
    (hw : c.writable = true) {ioVecMax : Nat} {socket : Socket ErrorCode}
    (hthrows : c.shutdown.WriteThrows ioVecMax socket) : ¬ (c.initiateReconnect ioVecMax socket).Scheduled := by
  intro h
  obtain ⟨stream, spans, heq⟩ := flush_of_throws hthrows
  have hrunning : (c.shutdown.written stream spans).isShuttingDown = false := hs
  rw [initiateReconnect_eq hs, if_pos hw, heq, handleFailure_of_running hrunning] at h
  cases (h.graceful rfl).1

/-! ### Every event -/

omit [FragmentInputStream S] in
/-- A connection that is writable, or waits for more than a retry, has a socket. -/
theorem InOrder.opened {c : SatelliteConnection S} (h : c.InOrder)
    (hpending : c.writable = true ∨ c.readEvent = true ∨ c.writeEvent = true ∨ c.reconnectTimer = true ∨
      c.gracefulShutdownTimeout = true) : c.Opened := by
  rcases h.state with hw | ho
  · rw [hw.closed.writable, hw.closed.readEvent, hw.closed.writeEvent, hw.closed.reconnectTimer,
      hw.closed.gracefulShutdownTimeout] at hpending
    simp at hpending
  · exact ho

omit [FragmentInputStream S] in
/-- One whose retry is due, or that has not begun, has none. -/
theorem InOrder.waiting {c : SatelliteConnection S} (h : c.InOrder)
    (hdue : 0 < c.retryTimers ∨ c.started = false) : c.Waiting := by
  rcases h.state with hw | ho
  · exact hw
  · rw [ho.retryTimers, ho.started] at hdue
    simp at hdue

theorem step_inOrder {c d : SatelliteConnection S} {ioVecMax : Nat} {e : SatelliteEvent S ErrorCode}
    (h : c.InOrder) (hno : ∀ socket, e ≠ .initiateShutdown socket) (hwrites : c.WriteSucceeds ioVecMax e)
    (hstep : c.step ioVecMax e = some d) : d.InOrder := by
  have hs := h.isShuttingDown
  cases handles_of_step hstep with
  | start connected hnot =>
    have hw := h.waiting (.inr hnot)
    exact connect_inOrder (c := {c with started := true}) hs
      ⟨hw.closed.socket, hw.closed.writable, hw.closed.readEvent, hw.closed.writeEvent,
        hw.closed.reconnectTimer, hw.closed.gracefulShutdownTimeout⟩ rfl (hw.started hnot) connected
  | retry connected hpending =>
    have hw := h.waiting (.inl hpending)
    have hle := hw.retryTimers
    have hstarted : c.started = true := by
      cases hc : c.started with
      | true => rfl
      | false =>
        have := hw.started hc
        omega
    exact connect_inOrder (c := {c with retryTimers := c.retryTimers - 1}) hs
      ⟨hw.closed.socket, hw.closed.writable, hw.closed.readEvent, hw.closed.writeEvent,
        hw.closed.reconnectTimer, hw.closed.gracefulShutdownTimeout⟩ hstarted
      (show c.retryTimers - 1 = 0 by omega) connected
  | reconnectTimer socket hpending =>
    have ho := h.opened (.inr (.inr (.inr (.inl hpending))))
    exact initiateReconnect_inOrder (c := {c with reconnectTimer := false}) hs
      ⟨ho.socket, ho.readEvent, ho.writable, rfl, fun hg => (by cases hg), ho.started, ho.retryTimers⟩ rfl
      (hwrites hpending)
  | gracefulShutdownTimeout connected hpending =>
    have ho := h.opened (.inr (.inr (.inr (.inr hpending))))
    exact reconnect_inOrder (c := {c with gracefulShutdownTimeout := false}) hs ho.started ho.retryTimers connected
  | readable reads last connected hpending =>
    have ho := h.opened (.inr (.inl hpending))
    exact onReadable_inOrder (c := {c with readEvent := false}) hs
      ⟨ho.socket, rfl, ho.writable, ho.timers, ho.graceful, ho.started, ho.retryTimers⟩ reads last connected
  | writable socket hpending =>
    have ho := h.opened (.inr (.inr (.inl hpending)))
    exact flush_inOrder (c := {c with writeEvent := false}) hs
      ⟨ho.socket, ho.readEvent, rfl, ho.timers, ho.graceful, ho.started, ho.retryTimers⟩ ioVecMax socket
  | writeTimeout connected hpending =>
    have ho := h.opened (.inr (.inr (.inl hpending)))
    exact onSocketError_inOrder (c := {c with writeEvent := false}) hs ho.started ho.retryTimers connected
  | flush socket hready =>
    have hwritable : c.writable = true := (Bool.and_eq_true_iff.mp hready).1
    have ho := h.opened (.inl hwritable)
    exact flush_inOrder hs
      ⟨ho.socket, ho.readEvent, hwritable ▸ ho.writable, ho.timers, ho.graceful, ho.started, ho.retryTimers⟩
      ioVecMax socket
  | notReady socket hready => exact h
  | initiateShutdown socket => exact absurd rfl (hno socket)
  | other spanStream =>
    refine ⟨hs, ?_⟩
    rcases h.state with hw | ho
    · exact .inl ⟨⟨hw.closed.socket, hw.closed.writable, hw.closed.readEvent, hw.closed.writeEvent,
        hw.closed.reconnectTimer, hw.closed.gracefulShutdownTimeout⟩, hw.retryTimers, hw.started⟩
    · exact .inr ⟨ho.socket, ho.readEvent, ho.writable, ho.timers, ho.graceful, ho.started, ho.retryTimers⟩

theorem run_inOrder {ioVecMax : Nat} {host common : Fragment} {spanStream : SpanStream S}
    {events : List (SatelliteEvent S ErrorCode)} {c : SatelliteConnection S}
    (hno : ∀ e ∈ events, ∀ socket, e ≠ .initiateShutdown socket)
    (hwrites : (machine S ErrorCode ioVecMax).Guarded (WriteSucceeds ioVecMax) (new host common spanStream) events)
    (hrun : (machine S ErrorCode ioVecMax).run (new host common spanStream) events = some c) : c.InOrder := by
  have hinit : (new host common spanStream).InOrder :=
    ⟨rfl, .inl ⟨new_closed host common spanStream, Nat.zero_le _, fun _ => rfl⟩⟩
  have hguarded := (machine S ErrorCode ioVecMax).guarded_and_mem hwrites hno
  exact (machine S ErrorCode ioVecMax).guarded_invariant
    (fun _ _ _ hI hG hstep => step_inOrder hI hG.2 hG.1 hstep) events _ c hinit hguarded hrun

/-- **The events and timers of an open socket are in order in a whole run**, as long as nobody shuts
the connection down, exactly if no write fails while it begins to reconnect. -/
theorem scheduled_iff {ioVecMax : Nat} {host common : Fragment} {spanStream : SpanStream S}
    {events : List (SatelliteEvent S ErrorCode)} (hno : ∀ e ∈ events, ∀ socket, e ≠ .initiateShutdown socket) :
    (∀ before rest c, events = before ++ rest →
      (machine S ErrorCode ioVecMax).run (new host common spanStream) before = some c → c.Scheduled) ↔
    (machine S ErrorCode ioVecMax).Guarded (WriteSucceeds ioVecMax) (new host common spanStream) events := by
  constructor
  · intro h
    rw [Library.Machine.guarded_iff]
    intro before e rest c hsplit hrun
    cases e with
    | reconnectTimer socket =>
      intro hpending hw hthrows
      have hguarded := (machine S ErrorCode ioVecMax).guarded_and_mem
        ((machine S ErrorCode ioVecMax).guarded_true before (new host common spanStream))
        fun d hd => hno d (hsplit ▸ List.mem_append_left _ hd)
      have hs : c.isShuttingDown = false := (machine S ErrorCode ioVecMax).guarded_invariant
        (I := fun c => c.isShuttingDown = false)
        (fun _ _ _ hI hG hstep => (step_isShuttingDown hG.2 hstep).trans hI) before _ c rfl hguarded hrun
      have hstep : (machine S ErrorCode ioVecMax).step c (.reconnectTimer socket) =
          some ({c with reconnectTimer := false}.initiateReconnect ioVecMax socket) := if_pos hpending
      have hscheduled := h (before ++ [.reconnectTimer socket]) rest _ (by rw [hsplit, List.append_assoc]; rfl)
        ((machine S ErrorCode ioVecMax).run_snoc hrun hstep)
      exact initiateReconnect_not_scheduled (c := {c with reconnectTimer := false}) hs hw hthrows hscheduled
    | _ => trivial
  · intro h before rest c hsplit hrun
    subst hsplit
    exact (run_inOrder (fun e he => hno e (List.mem_append_left _ he))
      ((machine S ErrorCode ioVecMax).guarded_append_left h) hrun).scheduled

/-- A socket that accepts what it is given, and one that has failed. -/
def accepting : Socket Unit where
  writeV _ batch := .written batch.flatten.length
  isBlockingErrorCode _ := false
  getErrorCodeMessage _ := ""
  written_le _ batch n h := by
    cases h
    exact Nat.le_refl _

def refusing : Socket Unit where
  writeV _ _ := .failed ()
  isBlockingErrorCode _ := false
  getErrorCodeMessage _ := "Broken pipe"
  written_le _ _ _ h := by cases h

def emptySpans : SpanStream FragmentArrayInputStream := .new (.ofMaxSize 1) .new

/-- A connection that is up, is flushed, and begins to reconnect on a socket. -/
def reconnecting (socket : Socket Unit) : List (SatelliteEvent FragmentArrayInputStream Unit) :=
  [.start (some 3), .writable accepting, .reconnectTimer socket]

theorem reconnecting_no_shutdown (socket : Socket Unit) :
    ∀ e ∈ reconnecting socket, ∀ other, e ≠ .initiateShutdown other := by
  simp [reconnecting]

set_option maxRecDepth 8000 in
theorem accepting_scheduled :
    ∃ c, (machine FragmentArrayInputStream Unit 16).run (new [] [] emptySpans) (reconnecting accepting) = some c ∧
      c.Scheduled := by
  have hguarded : (machine FragmentArrayInputStream Unit 16).Guarded (WriteSucceeds 16) (new [] [] emptySpans)
      (reconnecting accepting) := by
    refine ⟨trivial, fun c hc => ?_⟩
    cases hc
    refine ⟨trivial, fun c hc => ?_⟩
    cases hc
    exact ⟨fun _ _ => not_writeThrows_of_isOk (by decide +kernel), fun _ _ => trivial⟩
  have hrun : ((machine FragmentArrayInputStream Unit 16).run (new [] [] emptySpans)
      (reconnecting accepting)).isSome = true := by
    decide +kernel
  obtain ⟨c, hrun⟩ := Option.isSome_iff_exists.mp hrun
  exact ⟨c, hrun, (scheduled_iff (reconnecting_no_shutdown accepting)).mpr hguarded _ [] c
    (List.append_nil _).symm hrun⟩

/-- The timeout is armed though the stream has been reset, and is pending beside the reconnect timer
of the socket the retry opens. -/
theorem refusing_not_scheduled :
    (∃ c, (machine FragmentArrayInputStream Unit 16).run (new [] [] emptySpans) (reconnecting refusing) = some c ∧
      ¬ c.Scheduled) ∧
    ((machine FragmentArrayInputStream Unit 16).run (new [] [] emptySpans)
      (reconnecting refusing ++ [.retry (some 4)])).map
      (fun c => (c.socket, c.reconnectTimer, c.gracefulShutdownTimeout, c.connectionStream.shuttingDown)) =
      some (some 4, true, true, false) := by
  refine ⟨?_, by decide +kernel⟩
  have hrun : ((machine FragmentArrayInputStream Unit 16).run (new [] [] emptySpans) (reconnecting refusing)).map
      (fun c => (c.gracefulShutdownTimeout, c.connectionStream.shuttingDown)) = some (true, false) := by
    decide +kernel
  obtain ⟨c, hrun, hc⟩ := Option.map_eq_some_iff.mp hrun
  obtain ⟨hgraceful, hshutting⟩ := Prod.mk.inj hc
  refine ⟨c, hrun, fun h => ?_⟩
  exact absurd ((h.graceful hgraceful).1.symm.trans hshutting) (by decide)

end SatelliteConnection
end Lightstep.Recorder

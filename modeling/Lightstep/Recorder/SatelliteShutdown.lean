import Lightstep.Recorder.SatelliteConnection

/-! The shutdown of a satellite connection.

`HandleFailure` and `Reconnect` look at whether the connection is shutting down.
`Start`, the retry timer and `OnSocketError` connect whether it is or not, so a
shutdown is final exactly in the runs in which none of them succeeds after it. -/
namespace Lightstep.Recorder
open Common Network Library

namespace SatelliteConnection
variable {S ErrorCode : Type} [FragmentInputStream S]

/-- An event whose handler connects without asking whether the connection is shutting down, and
succeeds. -/
def Connects (c : SatelliteConnection S) : SatelliteEvent S ErrorCode → Prop
  | .start (some _) => c.started = false
  | .retry (some _) => 0 < c.retryTimers
  | .readable reads last (some _) => c.readEvent = true ∧ c.ReadFails reads last
  | .writeTimeout (some _) => c.writeEvent = true
  | _ => False

/-- No such event happens once the connection is shutting down. -/
def Quiet (c : SatelliteConnection S) (e : SatelliteEvent S ErrorCode) : Prop :=
  c.isShuttingDown = true → ¬ c.Connects e

/-- Once shut down, a connection is closed for good. -/
def Ended (c : SatelliteConnection S) : Prop := c.wasShutdown = true → c.isShuttingDown = true ∧ c.Closed

/-! ### Sockets installed -/

theorem handleFailure_installs (c : SatelliteConnection S) : c.handleFailure.installs = c.installs := by
  cases hs : c.isShuttingDown with
  | false => rw [handleFailure_of_running hs]; rfl
  | true => rw [handleFailure_of_shuttingDown hs]; rfl

theorem flush_installs (ioVecMax : Nat) (socket : Socket ErrorCode) (c : SatelliteConnection S) :
    (c.flush ioVecMax socket).1.installs = c.installs := by
  by_cases hthrows : c.WriteThrows ioVecMax socket
  · obtain ⟨stream, spans, heq⟩ := flush_of_throws hthrows
    rw [heq, handleFailure_installs]
    rfl
  · obtain ⟨stream, spans, -, heq | heq⟩ := flush_of_not_throws hthrows <;> rw [heq] <;> rfl

theorem connect_none_installs (c : SatelliteConnection S) : (c.connect none).installs = c.installs :=
  c.handleFailure_installs

theorem reconnect_of_shuttingDown {c : SatelliteConnection S} (h : c.isShuttingDown = true)
    (connected : Option Nat) : c.reconnect connected = {c.freeSocket with wasShutdown := true} :=
  if_pos h

theorem initiateReconnect_of_shuttingDown {c : SatelliteConnection S} (h : c.isShuttingDown = true) (ioVecMax : Nat)
    (socket : Socket ErrorCode) : c.initiateReconnect ioVecMax socket = c :=
  if_pos h

/-- While the connection shuts down, an event installs a socket if it is one of those. -/
theorem step_installs {c d : SatelliteConnection S} {ioVecMax : Nat} {e : SatelliteEvent S ErrorCode}
    (hs : c.isShuttingDown = true) (hquiet : ¬ c.Connects e) (hstep : c.step ioVecMax e = some d) :
    d.installs = c.installs := by
  cases handles_of_step hstep with
  | start connected hstarted =>
    cases connected with
    | none => exact connect_none_installs _
    | some socket => exact absurd hstarted hquiet
  | retry connected hpending =>
    cases connected with
    | none => exact connect_none_installs _
    | some socket => exact absurd hpending hquiet
  | reconnectTimer socket hpending =>
    rw [initiateReconnect_of_shuttingDown (c := {c with reconnectTimer := false}) hs]
  | gracefulShutdownTimeout connected hpending =>
    rw [reconnect_of_shuttingDown (c := {c with gracefulShutdownTimeout := false}) hs]
    rfl
  | readable reads last connected hpending =>
    rcases onReadable_cases reads last connected {c with readEvent := false} with
      ⟨-, heq⟩ | ⟨hfails, heq⟩ | ⟨-, heq⟩ | ⟨-, heq⟩
    · rw [heq, handleFailure_installs]
      rfl
    · cases connected with
      | none =>
        rw [heq]
        exact connect_none_installs _
      | some socket => exact absurd ⟨hpending, hfails⟩ hquiet
    · rw [heq, reconnect_of_shuttingDown (c := ({c with readEvent := false} : SatelliteConnection S).parsed reads) hs]
      rfl
    · rw [heq]
      rfl
  | writable socket hpending => exact flush_installs ioVecMax socket _
  | writeTimeout connected hpending =>
    cases connected with
    | none => exact connect_none_installs _
    | some socket => exact absurd hpending hquiet
  | flush socket hready => exact flush_installs ioVecMax socket c
  | notReady socket hready => rfl
  | initiateShutdown socket => rw [initiateShutdown, initiateReconnect_of_shuttingDown hs]
  | other spanStream => rfl

/-- Each of them does install one. -/
theorem step_of_connects {c : SatelliteConnection S} (ioVecMax : Nat) {e : SatelliteEvent S ErrorCode}
    (h : c.Connects e) : ∃ d, c.step ioVecMax e = some d ∧ d.installs = c.installs + 1 := by
  cases e with
  | start connected =>
    cases connected with
    | none => exact absurd h id
    | some socket =>
      have hnot : ¬ c.started = true := by
        rw [show c.started = false from h]
        decide
      exact ⟨_, if_neg hnot, rfl⟩
  | retry connected =>
    cases connected with
    | none => exact absurd h id
    | some socket => exact ⟨_, if_pos h, rfl⟩
  | readable reads last connected =>
    cases connected with
    | none => exact absurd h id
    | some socket =>
      obtain ⟨hpending, hfails⟩ := h
      refine ⟨_, if_pos hpending, ?_⟩
      rcases onReadable_cases reads last (some socket) {c with readEvent := false} with
        ⟨hnot, -⟩ | ⟨-, heq⟩ | ⟨hnot, -⟩ | ⟨hnot, -⟩
      · exact absurd hfails hnot
      · rw [heq]
        rfl
      · exact absurd hfails hnot
      · exact absurd hfails hnot
  | writeTimeout connected =>
    cases connected with
    | none => exact absurd h id
    | some socket => exact ⟨_, if_pos h, rfl⟩
  | _ => exact absurd h id

/-! ### A connection that was shut down -/

theorem handleFailure_ended {c : SatelliteConnection S} (h : c.wasShutdown = true → c.isShuttingDown = true) :
    c.handleFailure.Ended := by
  intro hw
  cases hs : c.isShuttingDown with
  | false =>
    rw [handleFailure_of_running hs] at hw
    rw [h hw] at hs
    cases hs
  | true => exact ⟨c.handleFailure_isShuttingDown.trans hs, c.handleFailure_closed⟩

theorem connect_ended {c : SatelliteConnection S} (h : c.wasShutdown = true → c.isShuttingDown = true)
    {connected : Option Nat} (hconnected : connected.isSome = true → c.wasShutdown = false) :
    (c.connect connected).Ended := by
  cases connected with
  | none => exact handleFailure_ended h
  | some socket =>
    intro hw
    rw [show (c.connect (some socket)).wasShutdown = c.wasShutdown from rfl, hconnected rfl] at hw
    cases hw

theorem reconnect_ended {c : SatelliteConnection S} (h : c.wasShutdown = true → c.isShuttingDown = true)
    (connected : Option Nat) : (c.reconnect connected).Ended := by
  cases hs : c.isShuttingDown with
  | false =>
    have hw : c.wasShutdown = false := by
      cases hw : c.wasShutdown with
      | false => rfl
      | true => exact absurd (h hw) (by rw [hs]; decide)
    have hnot : ¬ c.freeSocket.isShuttingDown = true := by
      rw [freeSocket_isShuttingDown, hs]
      decide
    rw [reconnect, if_neg hnot]
    exact connect_ended (c := c.freeSocket) h fun _ => hw
  | true =>
    rw [reconnect_of_shuttingDown hs]
    exact fun _ => ⟨hs, c.freeSocket_closed.socket, rfl, rfl, rfl, rfl, rfl⟩

theorem flush_ended {c : SatelliteConnection S} (h : c.wasShutdown = false) (ioVecMax : Nat)
    (socket : Socket ErrorCode) : (c.flush ioVecMax socket).1.Ended := by
  have hnot : ¬ c.wasShutdown = true := by rw [h]; decide
  by_cases hthrows : c.WriteThrows ioVecMax socket
  · obtain ⟨stream, spans, heq⟩ := flush_of_throws hthrows
    rw [heq]
    exact handleFailure_ended fun hw => absurd hw hnot
  · obtain ⟨stream, spans, -, heq | heq⟩ := flush_of_not_throws hthrows <;> rw [heq] <;>
      exact fun hw => absurd hw hnot

theorem flush_wasShutdown {c : SatelliteConnection S} (hs : c.isShuttingDown = false) (ioVecMax : Nat)
    (socket : Socket ErrorCode) : (c.flush ioVecMax socket).1.wasShutdown = c.wasShutdown := by
  by_cases hthrows : c.WriteThrows ioVecMax socket
  · obtain ⟨stream, spans, heq⟩ := flush_of_throws hthrows
    rw [heq, handleFailure_of_running (c := c.written stream spans) hs]
    rfl
  · obtain ⟨stream, spans, -, heq | heq⟩ := flush_of_not_throws hthrows <;> rw [heq] <;> rfl

theorem initiateReconnect_wasShutdown (ioVecMax : Nat) (socket : Socket ErrorCode) (c : SatelliteConnection S) :
    (c.initiateReconnect ioVecMax socket).wasShutdown = c.wasShutdown := by
  cases hs : c.isShuttingDown with
  | false =>
    rw [initiateReconnect_eq hs]
    split
    · exact flush_wasShutdown (c := c.shutdown) hs ioVecMax socket
    · rfl
  | true => rw [initiateReconnect_of_shuttingDown hs]

/-- A connection that is not shut down yet is closed by the event that shuts it down. -/
theorem step_ended {c d : SatelliteConnection S} {ioVecMax : Nat} {e : SatelliteEvent S ErrorCode}
    (h : c.wasShutdown = false) (hstep : c.step ioVecMax e = some d) : d.Ended := by
  have hnot : ¬ c.wasShutdown = true := by rw [h]; decide
  cases handles_of_step hstep with
  | start connected hstarted =>
    exact connect_ended (c := {c with started := true}) (fun hw => absurd hw hnot) fun _ => h
  | retry connected hpending =>
    exact connect_ended (c := {c with retryTimers := c.retryTimers - 1}) (fun hw => absurd hw hnot) fun _ => h
  | reconnectTimer socket hpending =>
    intro hw
    rw [initiateReconnect_wasShutdown] at hw
    exact absurd hw hnot
  | gracefulShutdownTimeout connected hpending =>
    exact reconnect_ended (c := {c with gracefulShutdownTimeout := false}) (fun hw => absurd hw hnot) connected
  | readable reads last connected hpending =>
    rcases onReadable_cases reads last connected {c with readEvent := false} with
      ⟨-, heq⟩ | ⟨-, heq⟩ | ⟨-, heq⟩ | ⟨-, heq⟩
    · rw [heq]
      exact handleFailure_ended fun hw => absurd hw hnot
    · rw [heq]
      exact connect_ended (c := (({c with readEvent := false} : SatelliteConnection S).parsed reads).freeSocket)
        (fun hw => absurd hw hnot) fun _ => h
    · rw [heq]
      exact reconnect_ended (c := ({c with readEvent := false} : SatelliteConnection S).parsed reads)
        (fun hw => absurd hw hnot) connected
    · rw [heq]
      exact fun hw => absurd hw hnot
  | writable socket hpending => exact flush_ended (c := {c with writeEvent := false}) h ioVecMax socket
  | writeTimeout connected hpending =>
    exact connect_ended (c := ({c with writeEvent := false} : SatelliteConnection S).freeSocket)
      (fun hw => absurd hw hnot) fun _ => h
  | flush socket hready => exact flush_ended h ioVecMax socket
  | notReady socket hready => exact fun hw => absurd hw hnot
  | initiateShutdown socket =>
    intro hw
    have hw : (c.initiateReconnect ioVecMax socket).wasShutdown = true := hw
    rw [initiateReconnect_wasShutdown] at hw
    exact absurd hw hnot
  | other spanStream => exact fun hw => absurd hw hnot

/-- Nothing is pending on a connection that was shut down but a start or a retry, and one that fails
leaves it shut down. -/
theorem step_wasShutdown {c d : SatelliteConnection S} {ioVecMax : Nat} {e : SatelliteEvent S ErrorCode}
    (hs : c.isShuttingDown = true) (hclosed : c.Closed) (hquiet : ¬ c.Connects e)
    (hw : c.wasShutdown = true) (hstep : c.step ioVecMax e = some d) :
    d.wasShutdown = true ∧ d.isShuttingDown = true ∧ d.Closed ∧ d.writes = c.writes := by
  cases handles_of_step hstep with
  | start connected hstarted =>
    cases connected with
    | none =>
      have heq := handleFailure_of_shuttingDown (c := {c with started := true}) hs
      rw [connect, heq]
      exact ⟨rfl, hs, ⟨rfl, rfl, rfl, rfl, rfl, rfl⟩, rfl⟩
    | some socket => exact absurd hstarted hquiet
  | retry connected hpending =>
    cases connected with
    | none =>
      have heq := handleFailure_of_shuttingDown (c := {c with retryTimers := c.retryTimers - 1}) hs
      rw [connect, heq]
      exact ⟨rfl, hs, ⟨rfl, rfl, rfl, rfl, rfl, rfl⟩, rfl⟩
    | some socket => exact absurd hpending hquiet
  | reconnectTimer socket hpending => cases hclosed.reconnectTimer.symm.trans hpending
  | gracefulShutdownTimeout connected hpending => cases hclosed.gracefulShutdownTimeout.symm.trans hpending
  | readable reads last connected hpending => cases hclosed.readEvent.symm.trans hpending
  | writable socket hpending => cases hclosed.writeEvent.symm.trans hpending
  | writeTimeout connected hpending => cases hclosed.writeEvent.symm.trans hpending
  | flush socket hready => cases hclosed.writable.symm.trans (Bool.and_eq_true_iff.mp hready).1
  | notReady socket hready => exact ⟨hw, hs, hclosed, rfl⟩
  | initiateShutdown socket =>
    rw [initiateShutdown, initiateReconnect_of_shuttingDown hs]
    exact ⟨hw, rfl, ⟨hclosed.socket, hclosed.writable, hclosed.readEvent, hclosed.writeEvent,
      hclosed.reconnectTimer, hclosed.gracefulShutdownTimeout⟩, rfl⟩
  | other spanStream =>
    exact ⟨hw, hs, ⟨hclosed.socket, hclosed.writable, hclosed.readEvent, hclosed.writeEvent,
      hclosed.reconnectTimer, hclosed.gracefulShutdownTimeout⟩, rfl⟩

theorem quiet_step {c d : SatelliteConnection S} {ioVecMax : Nat} {e : SatelliteEvent S ErrorCode}
    (h : c.Ended) (hquiet : c.Quiet e) (hstep : c.step ioVecMax e = some d) :
    d.Ended ∧ (c.isShuttingDown = true → d.isShuttingDown = true ∧ d.installs = c.installs) ∧
      (c.wasShutdown = true → d.wasShutdown = true ∧ d.writes = c.writes) := by
  refine ⟨?_, fun hs => ⟨?_, step_installs hs (hquiet hs) hstep⟩, fun hw => ?_⟩
  · cases hw : c.wasShutdown with
    | false => exact step_ended hw hstep
    | true =>
      obtain ⟨hs, hclosed⟩ := h hw
      obtain ⟨-, hs', hclosed', -⟩ := step_wasShutdown hs hclosed (hquiet hs) hw hstep
      exact fun _ => ⟨hs', hclosed'⟩
  · cases e with
    | initiateShutdown socket =>
      cases hstep
      rfl
    | _ =>
      rw [step_isShuttingDown (fun _ h => by cases h) hstep]
      exact hs
  · obtain ⟨hs, hclosed⟩ := h hw
    obtain ⟨hw', -, -, hwrites⟩ := step_wasShutdown hs hclosed (hquiet hs) hw hstep
    exact ⟨hw', hwrites⟩

/-! ### Every run -/

/-- A shutdown is final: no socket is installed after it was initiated, and once it is done none is
open and nothing is written. -/
def ShutdownIsFinal (ioVecMax : Nat) (c₀ : SatelliteConnection S) (events : List (SatelliteEvent S ErrorCode)) :
    Prop :=
  ∀ before after rest c d, events = before ++ after ++ rest →
    (machine S ErrorCode ioVecMax).run c₀ before = some c → (machine S ErrorCode ioVecMax).run c after = some d →
    (c.isShuttingDown = true → d.installs = c.installs) ∧
      (c.wasShutdown = true → d.socket = none ∧ d.writes = c.writes)

/-- **A shutdown is final in the runs in which nothing connects after it**, and in no others. -/
theorem shutdownIsFinal_iff (ioVecMax : Nat) (host common : Fragment) (spanStream : SpanStream S)
    (events : List (SatelliteEvent S ErrorCode)) :
    ShutdownIsFinal ioVecMax (new host common spanStream) events ↔
      (machine S ErrorCode ioVecMax).Guarded Quiet (new host common spanStream) events := by
  constructor
  · intro h
    rw [Machine.guarded_iff]
    intro before e rest c hsplit hrun hs hconnects
    obtain ⟨d, hstep, hinstalls⟩ := step_of_connects ioVecMax hconnects
    have hone : (machine S ErrorCode ioVecMax).run c [e] = some d :=
      (machine S ErrorCode ioVecMax).run_snoc (show (machine S ErrorCode ioVecMax).run c [] = some c from rfl) hstep
    have hfinal := (h before [e] rest c d (by rw [hsplit, List.append_assoc]; rfl) hrun hone).1 hs
    omega
  · intro h before after rest c d hsplit hrun hafter
    have hsplit : events = before ++ (after ++ rest) := hsplit.trans (List.append_assoc ..)
    subst hsplit
    have hended : c.Ended := (machine S ErrorCode ioVecMax).guarded_invariant
      (fun _ _ _ hI hG hstep => (quiet_step hI hG hstep).1) before _ c (fun hw => by cases hw)
      ((machine S ErrorCode ioVecMax).guarded_append_left h) hrun
    have hquiet := (machine S ErrorCode ioVecMax).guarded_append_left
      ((machine S ErrorCode ioVecMax).guarded_append_right h hrun)
    obtain ⟨hd, hinstalls, hwas⟩ := (machine S ErrorCode ioVecMax).guarded_invariant
      (I := fun d => d.Ended ∧ (c.isShuttingDown = true → d.isShuttingDown = true ∧ d.installs = c.installs) ∧
        (c.wasShutdown = true → d.wasShutdown = true ∧ d.writes = c.writes))
      (fun _ _ _ hI hG hstep => by
        obtain ⟨hd, hs, hw⟩ := quiet_step hI.1 hG hstep
        exact ⟨hd, fun hc => ⟨(hs (hI.2.1 hc).1).1, (hs (hI.2.1 hc).1).2.trans (hI.2.1 hc).2⟩,
          fun hc => ⟨(hw (hI.2.2 hc).1).1, (hw (hI.2.2 hc).1).2.trans (hI.2.2 hc).2⟩⟩)
      after c d ⟨hended, fun hs => ⟨hs, rfl⟩, fun hw => ⟨hw, rfl⟩⟩ hquiet hafter
    exact ⟨fun hs => (hinstalls hs).2, fun hw => ⟨(hd (hwas hw).1).2.socket, (hwas hw).2⟩⟩

/-- The first connection attempt fails, the shutdown comes before the retry, and the retry succeeds. -/
theorem retry_not_final :
    ¬ ShutdownIsFinal 16
      (new [] [] (.new (.ofMaxSize 1) .new) : SatelliteConnection FragmentArrayInputStream)
      ([.start none, .initiateShutdown ⟨fun _ _ => .failed (), fun _ => false, fun _ => "", nofun⟩,
        .retry (some 3)] : List (SatelliteEvent FragmentArrayInputStream Unit)) := by
  intro h
  obtain ⟨hinstalls, -⟩ := h [.start none, .initiateShutdown _] [.retry (some 3)] [] _ _ rfl rfl rfl
  have hone := hinstalls rfl
  revert hone
  decide +kernel

end SatelliteConnection
end Lightstep.Recorder

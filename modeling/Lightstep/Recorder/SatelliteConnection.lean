import Lightstep.Library.Machine
import Lightstep.Network.VectorWrite
import Lightstep.Recorder.ConnectionStream
import Lightstep.Recorder.StatusLineParser

/-! A connection to a satellite and the events that move it.

The connection owns a socket, its stream and parser, two events on the socket and
two timers; of an event only whether it is pending matters. A retry is a timer of
the event base that nobody can cancel. Adding and removing events is taken to
succeed. Kept beside the connection, for what is said about it, are how many
sockets it has installed, how often it has written, how often its stream was
reset, and at which of these the graceful shutdown timeout was armed. -/
namespace Lightstep.Recorder
open Common Network

structure SatelliteConnection (S : Type) where
  connectionStream : ConnectionStream S
  statusLineParser : StatusLineParser
  socket : Option Nat
  writable : Bool
  isShuttingDown : Bool
  wasShutdown : Bool
  readEvent : Bool
  writeEvent : Bool
  reconnectTimer : Bool
  gracefulShutdownTimeout : Bool
  /-- What the connection shares with its streamer and the event base. -/
  spanStream : SpanStream S
  started : Bool
  retryTimers : Nat
  installs : Nat
  writes : Nat
  session : Nat
  armedFor : Nat

/-- What ends the reads of a readable socket. -/
inductive ReadEnd where
  | endOfFile
  | blocked
  | failed
  deriving DecidableEq

/-- The outcome of a connection attempt is the file descriptor, or nothing where it throws. -/
inductive SatelliteEvent (S ErrorCode : Type) where
  | start (connected : Option Nat)
  | retry (connected : Option Nat)
  | reconnectTimer (socket : Socket ErrorCode)
  | gracefulShutdownTimeout (connected : Option Nat)
  | readable (reads : List (List UInt8)) (last : ReadEnd) (connected : Option Nat)
  | writable (socket : Socket ErrorCode)
  | writeTimeout (connected : Option Nat)
  | flush (socket : Socket ErrorCode)
  | initiateShutdown (socket : Socket ErrorCode)
  | other (spanStream : SpanStream S)

namespace SatelliteConnection
variable {S ErrorCode : Type} [FragmentInputStream S]

def new (hostHeaderFragment headerCommonFragment : Fragment) (spanStream : SpanStream S) :
    SatelliteConnection S :=
  let (connectionStream, spanStream) := ConnectionStream.new hostHeaderFragment headerCommonFragment spanStream
  { connectionStream := connectionStream, statusLineParser := .new, socket := none, writable := false,
    isShuttingDown := false, wasShutdown := false, readEvent := false, writeEvent := false,
    reconnectTimer := false, gracefulShutdownTimeout := false, spanStream := spanStream, started := false,
    retryTimers := 0, installs := 0, writes := 0, session := 0, armedFor := 0 }

def ready (c : SatelliteConnection S) : Bool := c.writable && !c.connectionStream.shuttingDown

def freeSocket (c : SatelliteConnection S) : SatelliteConnection S :=
  let (connectionStream, spanStream) := c.connectionStream.reset c.spanStream
  {c with socket := none
          readEvent := false
          writeEvent := false
          reconnectTimer := false
          gracefulShutdownTimeout := false
          writable := false
          connectionStream := connectionStream
          spanStream := spanStream
          statusLineParser := c.statusLineParser.reset
          session := c.session + 1}

def handleFailure (c : SatelliteConnection S) : SatelliteConnection S :=
  let c := c.freeSocket
  if c.isShuttingDown then {c with wasShutdown := true}
  else {c with retryTimers := c.retryTimers + 1}

def connect (connected : Option Nat) (c : SatelliteConnection S) : SatelliteConnection S :=
  match connected with
  | none => c.handleFailure
  | some socket =>
    {c with socket := some socket
            reconnectTimer := true
            readEvent := true
            writeEvent := true
            installs := c.installs + 1}

/-- The writer of a flush: `Write` on the connection's socket. -/
def writer (ioVecMax : Nat) (socket : Socket ErrorCode) : Writer String S := fun streams =>
  let result := write ioVecMax socket streams
  (result.streams, result.outcome)

def flush (ioVecMax : Nat) (socket : Socket ErrorCode) (c : SatelliteConnection S) : SatelliteConnection S × Bool :=
  let (connectionStream, spanStream, outcome) := c.connectionStream.flush (writer ioVecMax socket) c.spanStream
  let c := {c with connectionStream := connectionStream, spanStream := spanStream, writes := c.writes + 1}
  match outcome with
  | .ok true => ({c with writable := true}, true)
  | .ok false => ({c with writable := false, writeEvent := true}, false)
  | .error _ => (c.handleFailure, false)

def initiateReconnect (ioVecMax : Nat) (socket : Socket ErrorCode) (c : SatelliteConnection S) :
    SatelliteConnection S :=
  if c.isShuttingDown then c
  else
    let c := {c with connectionStream := c.connectionStream.shutdown}
    let c := if c.writable then (c.flush ioVecMax socket).1 else c
    {c with gracefulShutdownTimeout := true, armedFor := c.session}

def initiateShutdown (ioVecMax : Nat) (socket : Socket ErrorCode) (c : SatelliteConnection S) :
    SatelliteConnection S :=
  {c.initiateReconnect ioVecMax socket with isShuttingDown := true}

def reconnect (connected : Option Nat) (c : SatelliteConnection S) : SatelliteConnection S :=
  let c := c.freeSocket
  if c.isShuttingDown then {c with wasShutdown := true} else c.connect connected

def onSocketError (connected : Option Nat) (c : SatelliteConnection S) : SatelliteConnection S :=
  c.freeSocket.connect connected

def onReadable (reads : List (List UInt8)) (last : ReadEnd) (connected : Option Nat)
    (c : SatelliteConnection S) : SatelliteConnection S :=
  match c.statusLineParser.parseAll reads with
  | (statusLineParser, .error _) => {c with statusLineParser := statusLineParser}.handleFailure
  | (statusLineParser, .ok ()) =>
    let c := {c with statusLineParser := statusLineParser}
    match last with
    | .endOfFile =>
      if !c.statusLineParser.complete then c.onSocketError connected
      else if c.statusLineParser.statusCode ≠ (200 : Int) then c.onSocketError connected
      else if !c.connectionStream.completed then c.onSocketError connected
      else c.reconnect connected
    | .blocked => {c with readEvent := true}
    | .failed => c.onSocketError connected

/-- One event. A pending event that fires is pending no more, and the endpoint manager is ready
once. A flush request reaches the connection if it is ready. -/
def step (ioVecMax : Nat) (c : SatelliteConnection S) : SatelliteEvent S ErrorCode → Option (SatelliteConnection S)
  | .start connected => if c.started then none else some ({c with started := true}.connect connected)
  | .retry connected =>
    if 0 < c.retryTimers then some ({c with retryTimers := c.retryTimers - 1}.connect connected) else none
  | .reconnectTimer socket =>
    if c.reconnectTimer then some ({c with reconnectTimer := false}.initiateReconnect ioVecMax socket) else none
  | .gracefulShutdownTimeout connected =>
    if c.gracefulShutdownTimeout then some ({c with gracefulShutdownTimeout := false}.reconnect connected)
    else none
  | .readable reads last connected =>
    if c.readEvent then some ({c with readEvent := false}.onReadable reads last connected) else none
  | .writable socket =>
    if c.writeEvent then some ({c with writeEvent := false}.flush ioVecMax socket).1 else none
  | .writeTimeout connected =>
    if c.writeEvent then some ({c with writeEvent := false}.onSocketError connected) else none
  | .flush socket => some (if c.ready then (c.flush ioVecMax socket).1 else c)
  | .initiateShutdown socket => some (c.initiateShutdown ioVecMax socket)
  | .other spanStream => some {c with spanStream := spanStream}

def machine (S ErrorCode : Type) [FragmentInputStream S] (ioVecMax : Nat) :
    Library.Machine (SatelliteConnection S) (SatelliteEvent S ErrorCode) := ⟨step ioVecMax⟩

/-! ### What a call leaves -/

/-- No socket, and nothing pending but retries. -/
structure Closed (c : SatelliteConnection S) : Prop where
  socket : c.socket = none
  writable : c.writable = false
  readEvent : c.readEvent = false
  writeEvent : c.writeEvent = false
  reconnectTimer : c.reconnectTimer = false
  gracefulShutdownTimeout : c.gracefulShutdownTimeout = false

omit [FragmentInputStream S] in
theorem new_closed (host common : Fragment) (spanStream : SpanStream S) :
    (new host common spanStream).Closed := ⟨rfl, rfl, rfl, rfl, rfl, rfl⟩

theorem freeSocket_closed (c : SatelliteConnection S) : c.freeSocket.Closed := ⟨rfl, rfl, rfl, rfl, rfl, rfl⟩

theorem handleFailure_of_running {c : SatelliteConnection S} (h : c.isShuttingDown = false) :
    c.handleFailure = {c.freeSocket with retryTimers := c.retryTimers + 1} := by
  have hs : c.freeSocket.isShuttingDown = false := h
  unfold handleFailure
  simp only [hs, Bool.false_eq_true, if_false]
  rfl

theorem handleFailure_of_shuttingDown {c : SatelliteConnection S} (h : c.isShuttingDown = true) :
    c.handleFailure = {c.freeSocket with wasShutdown := true} := by
  have hs : c.freeSocket.isShuttingDown = true := h
  unfold handleFailure
  simp only [hs, if_true]

theorem handleFailure_closed (c : SatelliteConnection S) : c.handleFailure.Closed := by
  cases hs : c.isShuttingDown with
  | false =>
    rw [handleFailure_of_running hs]
    exact ⟨rfl, rfl, rfl, rfl, rfl, rfl⟩
  | true =>
    rw [handleFailure_of_shuttingDown hs]
    exact ⟨rfl, rfl, rfl, rfl, rfl, rfl⟩

/-- Whether `Write` throws on the streams a flush hands it. -/
def WriteThrows (ioVecMax : Nat) (socket : Socket ErrorCode) (c : SatelliteConnection S) : Prop :=
  ∃ message, (write ioVecMax socket (c.connectionStream.streams c.spanStream)).outcome = .error message

theorem not_writeThrows_of_isOk {ioVecMax : Nat} {socket : Socket ErrorCode} {c : SatelliteConnection S}
    (h : (write ioVecMax socket (c.connectionStream.streams c.spanStream)).outcome.isOk = true) :
    ¬ c.WriteThrows ioVecMax socket := by
  rintro ⟨message, hthrows⟩
  rw [hthrows] at h
  cases h

/-- After a call of `Write` that has left the streams so. -/
def written (c : SatelliteConnection S) (connectionStream : ConnectionStream S) (spanStream : SpanStream S) :
    SatelliteConnection S :=
  {c with connectionStream := connectionStream, spanStream := spanStream, writes := c.writes + 1}

/-- A flush whose write returns makes the connection writable or waits until it is. -/
theorem flush_of_not_throws {ioVecMax : Nat} {socket : Socket ErrorCode} {c : SatelliteConnection S}
    (h : ¬ c.WriteThrows ioVecMax socket) :
    ∃ connectionStream spanStream, connectionStream.shuttingDown = c.connectionStream.shuttingDown ∧
      ((c.flush ioVecMax socket).1 = {c.written connectionStream spanStream with writable := true} ∨
        (c.flush ioVecMax socket).1 =
          {c.written connectionStream spanStream with writable := false, writeEvent := true}) := by
  have houtcome := ConnectionStream.flush_outcome (writer ioVecMax socket) c.connectionStream c.spanStream
  have hshutting := ConnectionStream.flush_shuttingDown (writer ioVecMax socket) c.connectionStream c.spanStream
  unfold flush
  generalize c.connectionStream.flush (writer ioVecMax socket) c.spanStream = flushed at houtcome hshutting ⊢
  obtain ⟨stream, spans, message | _ | _⟩ := flushed
  · exact absurd ⟨message, houtcome.symm⟩ h
  · exact ⟨stream, spans, hshutting, .inr rfl⟩
  · exact ⟨stream, spans, hshutting, .inl rfl⟩

theorem flush_of_throws {ioVecMax : Nat} {socket : Socket ErrorCode} {c : SatelliteConnection S}
    (h : c.WriteThrows ioVecMax socket) :
    ∃ connectionStream spanStream,
      (c.flush ioVecMax socket).1 = (c.written connectionStream spanStream).handleFailure := by
  obtain ⟨message, h⟩ := h
  have houtcome := ConnectionStream.flush_outcome (writer ioVecMax socket) c.connectionStream c.spanStream
  unfold flush
  generalize c.connectionStream.flush (writer ioVecMax socket) c.spanStream = flushed at houtcome ⊢
  obtain ⟨stream, spans, message | result⟩ := flushed
  · exact ⟨stream, spans, rfl⟩
  · cases houtcome.trans h

/-- The connection whose stream `InitiateReconnect` has shut down. -/
def shutdown (c : SatelliteConnection S) : SatelliteConnection S :=
  {c with connectionStream := c.connectionStream.shutdown}

/-- The connection after `InitiateReconnect` has armed the timeout. -/
def armed (c : SatelliteConnection S) : SatelliteConnection S :=
  {c with gracefulShutdownTimeout := true, armedFor := c.session}

theorem initiateReconnect_eq {c : SatelliteConnection S} (h : c.isShuttingDown = false) (ioVecMax : Nat)
    (socket : Socket ErrorCode) : c.initiateReconnect ioVecMax socket =
      if c.writable then (c.shutdown.flush ioVecMax socket).1.armed else c.shutdown.armed := by
  have hnot : ¬ c.isShuttingDown = true := by rw [h]; decide
  unfold initiateReconnect
  rw [if_neg hnot]
  show (if c.writable then (c.shutdown.flush ioVecMax socket).1 else c.shutdown).armed = _
  split <;> rfl

/-- After the parser has taken what a socket gave. -/
def parsed (c : SatelliteConnection S) (reads : List (List UInt8)) : SatelliteConnection S :=
  {c with statusLineParser := (c.statusLineParser.parseAll reads).1}

/-- The satellite has answered with success a stream that was sent whole. -/
def Answered (c : SatelliteConnection S) : Prop :=
  c.statusLineParser.complete = true ∧ c.statusLineParser.statusCode = 200 ∧ c.connectionStream.completed = true

/-- What a readable socket gives is valid as far as it goes, and ends in an error or too early. -/
def ReadFails (c : SatelliteConnection S) (reads : List (List UInt8)) (last : ReadEnd) : Prop :=
  (c.statusLineParser.parseAll reads).2 = .ok () ∧
    (last = .failed ∨ last = .endOfFile ∧ ¬ (c.parsed reads).Answered)

theorem onReadable_cases (reads : List (List UInt8)) (last : ReadEnd) (connected : Option Nat)
    (c : SatelliteConnection S) :
    (¬ c.ReadFails reads last ∧ c.onReadable reads last connected = (c.parsed reads).handleFailure) ∨
      (c.ReadFails reads last ∧ c.onReadable reads last connected = (c.parsed reads).onSocketError connected) ∨
      (¬ c.ReadFails reads last ∧ c.onReadable reads last connected = (c.parsed reads).reconnect connected) ∨
      (¬ c.ReadFails reads last ∧
        c.onReadable reads last connected = {c.parsed reads with readEvent := true}) := by
  unfold onReadable ReadFails Answered parsed
  rcases c.statusLineParser.parseAll reads with ⟨parser, message | ⟨⟨⟩⟩⟩
  · exact .inl ⟨fun h => (by cases h.1), rfl⟩
  · cases last with
    | endOfFile =>
      cases hcomplete : parser.complete with
      | false => simp [hcomplete]
      | true =>
        by_cases hcode : parser.statusCode = 200
        · cases hcompleted : c.connectionStream.completed <;> simp [hcomplete, hcode, hcompleted]
        · simp [hcomplete, hcode]
    | blocked => simp
    | failed => simp

/-! ### Whether the connection is shutting down -/

@[simp] theorem freeSocket_isShuttingDown (c : SatelliteConnection S) :
    c.freeSocket.isShuttingDown = c.isShuttingDown := rfl

@[simp] theorem handleFailure_isShuttingDown (c : SatelliteConnection S) :
    c.handleFailure.isShuttingDown = c.isShuttingDown := by
  cases hs : c.isShuttingDown with
  | false => rw [handleFailure_of_running hs]; exact hs
  | true => rw [handleFailure_of_shuttingDown hs]; exact hs

@[simp] theorem connect_isShuttingDown (connected : Option Nat) (c : SatelliteConnection S) :
    (c.connect connected).isShuttingDown = c.isShuttingDown := by
  cases connected with
  | none => exact c.handleFailure_isShuttingDown
  | some socket => rfl

@[simp] theorem reconnect_isShuttingDown (connected : Option Nat) (c : SatelliteConnection S) :
    (c.reconnect connected).isShuttingDown = c.isShuttingDown := by
  unfold reconnect
  dsimp only
  split
  · rfl
  · rw [connect_isShuttingDown, freeSocket_isShuttingDown]

@[simp] theorem onSocketError_isShuttingDown (connected : Option Nat) (c : SatelliteConnection S) :
    (c.onSocketError connected).isShuttingDown = c.isShuttingDown := by
  rw [onSocketError, connect_isShuttingDown, freeSocket_isShuttingDown]

@[simp] theorem onReadable_isShuttingDown (reads : List (List UInt8)) (last : ReadEnd) (connected : Option Nat)
    (c : SatelliteConnection S) : (c.onReadable reads last connected).isShuttingDown = c.isShuttingDown := by
  rcases onReadable_cases reads last connected c with ⟨-, heq⟩ | ⟨-, heq⟩ | ⟨-, heq⟩ | ⟨-, heq⟩ <;>
    simp [heq, parsed]

@[simp] theorem flush_isShuttingDown (ioVecMax : Nat) (socket : Socket ErrorCode) (c : SatelliteConnection S) :
    (c.flush ioVecMax socket).1.isShuttingDown = c.isShuttingDown := by
  by_cases hthrows : c.WriteThrows ioVecMax socket
  · obtain ⟨stream, spans, heq⟩ := flush_of_throws hthrows
    simp [heq, written]
  · obtain ⟨stream, spans, -, heq | heq⟩ := flush_of_not_throws hthrows <;> simp [heq, written]

@[simp] theorem initiateReconnect_isShuttingDown (ioVecMax : Nat) (socket : Socket ErrorCode)
    (c : SatelliteConnection S) : (c.initiateReconnect ioVecMax socket).isShuttingDown = c.isShuttingDown := by
  cases hs : c.isShuttingDown with
  | false =>
    rw [initiateReconnect_eq hs]
    split <;> simp [armed, shutdown, hs]
  | true =>
    unfold initiateReconnect
    rw [if_pos hs, hs]

/-! ### What an event needs and does -/

/-- An event that happens, with what was pending for it. -/
inductive Handles (ioVecMax : Nat) (c : SatelliteConnection S) :
    SatelliteEvent S ErrorCode → SatelliteConnection S → Prop where
  | start (connected : Option Nat) (h : c.started = false) :
      Handles ioVecMax c (.start connected) ({c with started := true}.connect connected)
  | retry (connected : Option Nat) (h : 0 < c.retryTimers) :
      Handles ioVecMax c (.retry connected) ({c with retryTimers := c.retryTimers - 1}.connect connected)
  | reconnectTimer (socket : Socket ErrorCode) (h : c.reconnectTimer = true) :
      Handles ioVecMax c (.reconnectTimer socket) ({c with reconnectTimer := false}.initiateReconnect ioVecMax socket)
  | gracefulShutdownTimeout (connected : Option Nat) (h : c.gracefulShutdownTimeout = true) :
      Handles ioVecMax c (.gracefulShutdownTimeout connected)
        ({c with gracefulShutdownTimeout := false}.reconnect connected)
  | readable (reads : List (List UInt8)) (last : ReadEnd) (connected : Option Nat) (h : c.readEvent = true) :
      Handles ioVecMax c (.readable reads last connected)
        ({c with readEvent := false}.onReadable reads last connected)
  | writable (socket : Socket ErrorCode) (h : c.writeEvent = true) :
      Handles ioVecMax c (.writable socket) ({c with writeEvent := false}.flush ioVecMax socket).1
  | writeTimeout (connected : Option Nat) (h : c.writeEvent = true) :
      Handles ioVecMax c (.writeTimeout connected) ({c with writeEvent := false}.onSocketError connected)
  | flush (socket : Socket ErrorCode) (h : c.ready = true) :
      Handles ioVecMax c (.flush socket) (c.flush ioVecMax socket).1
  | notReady (socket : Socket ErrorCode) (h : c.ready = false) : Handles ioVecMax c (.flush socket) c
  | initiateShutdown (socket : Socket ErrorCode) :
      Handles ioVecMax c (.initiateShutdown socket) (c.initiateShutdown ioVecMax socket)
  | other (spanStream : SpanStream S) : Handles ioVecMax c (.other spanStream) {c with spanStream := spanStream}

theorem handles_of_step {c d : SatelliteConnection S} {ioVecMax : Nat} {e : SatelliteEvent S ErrorCode}
    (hstep : c.step ioVecMax e = some d) : Handles ioVecMax c e d := by
  cases e with
  | start connected =>
    obtain ⟨hstarted, heq⟩ := Option.ite_none_left_eq_some.mp hstep
    cases heq
    exact .start connected (Bool.eq_false_iff.mpr hstarted)
  | flush socket =>
    cases hstep
    cases hready : c.ready with
    | true => exact .flush socket hready
    | false => exact .notReady socket hready
  | initiateShutdown socket =>
    cases hstep
    exact .initiateShutdown socket
  | other spanStream =>
    cases hstep
    exact .other spanStream
  | _ =>
    obtain ⟨hpending, heq⟩ := Option.ite_none_right_eq_some.mp hstep
    cases heq
    constructor
    exact hpending

/-- Only `InitiateShutdown` begins the shutdown. -/
theorem step_isShuttingDown {c d : SatelliteConnection S} {ioVecMax : Nat} {e : SatelliteEvent S ErrorCode}
    (hno : ∀ socket, e ≠ .initiateShutdown socket) (hstep : c.step ioVecMax e = some d) :
    d.isShuttingDown = c.isShuttingDown := by
  cases handles_of_step hstep with
  | initiateShutdown socket => exact absurd rfl (hno socket)
  | notReady socket hready => rfl
  | other spanStream => rfl
  | _ => simp

end SatelliteConnection
end Lightstep.Recorder

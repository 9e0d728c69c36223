import Mathlib.Algebra.Order.Ring.Nat
import Mathlib.Algebra.Ring.Int.Defs
import Lightstep.Common.FragmentArrayInputStream

/-! Writing fragment streams to a socket in batches.

The socket answers each `WriteV` with how many bytes of the batch it accepted or
with an error code. `Write` fills batches of at most `IoVecMax` fragments, stops
at the first batch that is not accepted whole, and consumes from the streams the
bytes it has counted. The calls it made are kept with their answers. The counts are of the type
`int`, so that the streams are ones of fewer than `2 ^ 31` bytes and fragments. -/
namespace Lightstep.Network
open Library Common FragmentInputStream LawfulFragmentInputStream ConsumableFragmentInputStream

/-- A return code of `WriteV`, or the error code it left. -/
inductive WriteVResult (ErrorCode : Type) where
  | written (n : Nat)
  | failed (code : ErrorCode)
  deriving DecidableEq

/-- A socket answers the calls in turn, and accepts no more of a batch than it is given. -/
structure Socket (ErrorCode : Type) where
  writeV : Nat → List Fragment → WriteVResult ErrorCode
  isBlockingErrorCode : ErrorCode → Bool
  getErrorCodeMessage : ErrorCode → String
  written_le : ∀ call batch n, writeV call batch = .written n → n ≤ batch.flatten.length

structure WriteVCall (ErrorCode : Type) where
  batch : List Fragment
  result : WriteVResult ErrorCode

variable {ErrorCode : Type}

/-- The locals of `Write` that its lambdas capture. `error` carries the error code. -/
structure WriteState (ErrorCode : Type) where
  batch : List Fragment
  batchNumBytes : Nat
  numBytesWritten : Nat
  error : Option ErrorCode
  blocked : Bool
  calls : List (WriteVCall ErrorCode)

def WriteState.init : WriteState ErrorCode := ⟨[], 0, 0, none, false, []⟩

/-- The call `do_write` makes. -/
def WriteState.call (socket : Socket ErrorCode) (s : WriteState ErrorCode) : WriteVCall ErrorCode :=
  ⟨s.batch, socket.writeV s.calls.length s.batch⟩

def doWrite (socket : Socket ErrorCode) (s : WriteState ErrorCode) : WriteState ErrorCode :=
  let call := s.call socket
  let s := {s with calls := s.calls ++ [call]}
  match call.result with
  | .failed code =>
    if socket.isBlockingErrorCode code then {s with blocked := true} else {s with error := some code}
  | .written n =>
    {s with numBytesWritten := s.numBytesWritten + n, blocked := s.blocked || decide (n < s.batchNumBytes)}

def WriteState.push (s : WriteState ErrorCode) (fragment : Fragment) : WriteState ErrorCode :=
  {s with batch := s.batch ++ [fragment], batchNumBytes := s.batchNumBytes + fragment.length}

def doFragment (socket : Socket ErrorCode) (maxBatchSize : Nat) (s : WriteState ErrorCode)
    (fragment : Fragment) : WriteState ErrorCode × Bool :=
  let s := s.push fragment
  if s.batch.length ≠ maxBatchSize then (s, true)
  else
    let s := {doWrite socket s with batch := [], batchNumBytes := 0}
    (s, !(s.error.isSome || s.blocked))

/-- The batch that is left after the last fragment is sent, unless it has no bytes. -/
def WriteState.leftover (socket : Socket ErrorCode) (s : WriteState ErrorCode) : WriteState ErrorCode :=
  if 0 < s.batchNumBytes then doWrite socket s else s

structure WriteResult (S ErrorCode : Type) where
  streams : List S
  outcome : Except String Bool
  calls : List (WriteVCall ErrorCode)

section
variable {S : Type} [FragmentInputStream S]

/-- `Write`. What it throws is the message of a `runtime_error`. -/
def write (ioVecMax : Nat) (socket : Socket ErrorCode) (streams : List S) : WriteResult S ErrorCode :=
  let numFragments := (streams.map numFragments).sum
  if numFragments = 0 then ⟨streams, .ok true, []⟩
  else
    let maxBatchSize := min ioVecMax numFragments
    let s := (iterate (fun s stream => forEachFragment stream (doFragment socket maxBatchSize) s)
      .init streams).1.leftover socket
    let (streams, result) := consume streams s.numBytesWritten
    match s.error with
    | some code => ⟨streams, .error ("writev failed: " ++ socket.getErrorCodeMessage code), s.calls⟩
    | none => ⟨streams, .ok result, s.calls⟩

end

/-! ### What a run of calls has done -/

namespace WriteVCall

def accepted (c : WriteVCall ErrorCode) : Nat :=
  match c.result with
  | .written n => n
  | .failed _ => 0

def acceptedBytes (c : WriteVCall ErrorCode) : List UInt8 := c.batch.flatten.take c.accepted

/-- Every byte of the batch was accepted. -/
def Full (c : WriteVCall ErrorCode) : Prop := c.result = .written c.batch.flatten.length

def Throws (socket : Socket ErrorCode) (c : WriteVCall ErrorCode) (code : ErrorCode) : Prop :=
  c.result = .failed code ∧ socket.isBlockingErrorCode code = false

theorem Full.acceptedBytes {c : WriteVCall ErrorCode} (h : c.Full) : c.acceptedBytes = c.batch.flatten := by
  have h : c.result = .written c.batch.flatten.length := h
  simp only [WriteVCall.acceptedBytes, accepted, h, List.take_length]

theorem Full.not_throws {socket : Socket ErrorCode} {c : WriteVCall ErrorCode} (h : c.Full)
    (code : ErrorCode) : ¬ c.Throws socket code := by
  intro ht
  have h : c.result = .written c.batch.flatten.length := h
  rw [ht.1] at h
  cases h

end WriteVCall

/-- The bytes the calls had accepted, in order. -/
def acceptedBytes (calls : List (WriteVCall ErrorCode)) : List UInt8 :=
  calls.flatMap WriteVCall.acceptedBytes

theorem acceptedBytes_full {calls : List (WriteVCall ErrorCode)} (h : ∀ c ∈ calls, c.Full) :
    acceptedBytes calls = (calls.flatMap WriteVCall.batch).flatten := by
  induction calls with
  | nil => rfl
  | cons c rest ih =>
    have hrest := ih fun d hd => h d (List.mem_cons_of_mem c hd)
    rw [List.flatMap_cons, List.flatten_append, ← hrest, acceptedBytes, List.flatMap_cons,
      (h c (List.mem_cons_self ..)).acceptedBytes]
    rfl

/-- Before a call that is not full: every call was, and what was not sent is in the batch. -/
structure Sending (maxBatchSize : Nat) (done : List Fragment) (s : WriteState ErrorCode) : Prop where
  full : ∀ c ∈ s.calls, c.Full
  batch_le : s.batch.length ≤ maxBatchSize
  calls_le : ∀ c ∈ s.calls, c.batch.length ≤ maxBatchSize
  offered : s.calls.flatMap WriteVCall.batch ++ s.batch = done
  batchNumBytes : s.batchNumBytes = s.batch.flatten.length
  numBytesWritten : s.numBytesWritten = (acceptedBytes s.calls).length
  error : s.error = none
  blocked : s.blocked = false

/-- After a call that is not full. -/
structure Stopped (socket : Socket ErrorCode) (maxBatchSize : Nat) (done : List Fragment)
    (s : WriteState ErrorCode) : Prop where
  calls_le : ∀ c ∈ s.calls, c.batch.length ≤ maxBatchSize
  calls : ∃ earlier last, s.calls = earlier ++ [last] ∧ (∀ c ∈ earlier, c.Full) ∧ ¬ last.Full ∧
    (∀ code, s.error = some code ↔ last.Throws socket code)
  offered : s.calls.flatMap WriteVCall.batch = done
  numBytesWritten : s.numBytesWritten = (acceptedBytes s.calls).length

theorem init_sending (maxBatchSize : Nat) : Sending maxBatchSize [] (.init : WriteState ErrorCode) where
  full := fun _ h => by cases h
  batch_le := Nat.zero_le _
  calls_le := fun _ h => by cases h
  offered := rfl
  batchNumBytes := rfl
  numBytesWritten := rfl
  error := rfl
  blocked := rfl

theorem length_acceptedBytes_append (calls : List (WriteVCall ErrorCode)) (c : WriteVCall ErrorCode)
    (h : c.accepted ≤ c.batch.flatten.length) :
    (acceptedBytes (calls ++ [c])).length = (acceptedBytes calls).length + c.accepted := by
  rw [acceptedBytes, List.flatMap_append, List.length_append, List.flatMap_singleton,
    WriteVCall.acceptedBytes, List.length_take, Nat.min_eq_left h]
  rfl

/-! ### One call -/

theorem call_accepted_le (socket : Socket ErrorCode) (s : WriteState ErrorCode) :
    (s.call socket).accepted ≤ (s.call socket).batch.flatten.length := by
  cases hr : (s.call socket).result with
  | failed code => simp only [WriteVCall.accepted, hr, Nat.zero_le]
  | written n =>
    simp only [WriteVCall.accepted, hr]
    exact socket.written_le _ _ n hr

theorem doWrite_calls (socket : Socket ErrorCode) (s : WriteState ErrorCode) :
    (doWrite socket s).calls = s.calls ++ [s.call socket] := by
  cases hr : (s.call socket).result with
  | failed code => cases hb : socket.isBlockingErrorCode code <;> simp [doWrite, hr, hb]
  | written n => simp only [doWrite, hr]

theorem doWrite_numBytesWritten (socket : Socket ErrorCode) (s : WriteState ErrorCode) :
    (doWrite socket s).numBytesWritten = s.numBytesWritten + (s.call socket).accepted := by
  cases hr : (s.call socket).result with
  | failed code =>
    cases hb : socket.isBlockingErrorCode code <;> simp [doWrite, WriteVCall.accepted, hr, hb]
  | written n => simp only [doWrite, WriteVCall.accepted, hr]

theorem doWrite_error (socket : Socket ErrorCode) {s : WriteState ErrorCode} (h : s.error = none)
    (code : ErrorCode) :
    (doWrite socket s).error = some code ↔ (s.call socket).Throws socket code := by
  unfold WriteVCall.Throws
  cases hr : (s.call socket).result with
  | failed code' =>
    cases hb : socket.isBlockingErrorCode code' with
    | true =>
      simp only [doWrite, hr, hb, if_true, h, reduceCtorEq, WriteVResult.failed.injEq, false_iff, not_and]
      intro heq
      rw [← heq, hb]
      exact Bool.true_eq_false.mp
    | false =>
      simp only [doWrite, hr, hb, Bool.false_eq_true, if_false, Option.some.injEq, WriteVResult.failed.injEq]
      exact ⟨fun heq => ⟨heq, heq ▸ hb⟩, fun heq => heq.1⟩
  | written n => simp [doWrite, hr, h]

variable {maxBatchSize : Nat} {done : List Fragment} {s : WriteState ErrorCode}

/-- The writing goes on after a call exactly if the call was full. -/
theorem doWrite_goes_on (socket : Socket ErrorCode) (h : Sending maxBatchSize done s) :
    ((doWrite socket s).error.isSome || (doWrite socket s).blocked) = false ↔ (s.call socket).Full := by
  have hbatch : s.batchNumBytes = (s.call socket).batch.flatten.length := h.batchNumBytes
  have hle := call_accepted_le socket s
  unfold WriteVCall.Full
  cases hr : (s.call socket).result with
  | failed code => cases hb : socket.isBlockingErrorCode code <;> simp [doWrite, hr, hb]
  | written n =>
    simp only [WriteVCall.accepted, hr] at hle
    simp only [doWrite, hr, h.error, h.blocked, Option.isSome_none, Bool.false_or,
      decide_eq_false_iff_not, hbatch, WriteVResult.written.injEq]
    omega

theorem Sending.offered_call (socket : Socket ErrorCode) (h : Sending maxBatchSize done s) :
    (doWrite socket s).calls.flatMap WriteVCall.batch = done := by
  rw [doWrite_calls, List.flatMap_append, List.flatMap_singleton]
  exact h.offered

theorem Sending.numBytesWritten_call (socket : Socket ErrorCode) (h : Sending maxBatchSize done s) :
    (doWrite socket s).numBytesWritten = (acceptedBytes (doWrite socket s).calls).length := by
  rw [doWrite_numBytesWritten, doWrite_calls, h.numBytesWritten,
    length_acceptedBytes_append _ _ (call_accepted_le socket s)]

theorem Sending.calls_le_call (socket : Socket ErrorCode) (h : Sending maxBatchSize done s) :
    ∀ c ∈ (doWrite socket s).calls, c.batch.length ≤ maxBatchSize := by
  intro c hc
  rw [doWrite_calls] at hc
  rcases List.mem_append.mp hc with hc | hc
  · exact h.calls_le c hc
  · rw [List.mem_singleton.mp hc]
    exact h.batch_le

/-- A full call leaves an empty batch to fill. -/
theorem Sending.full_call (socket : Socket ErrorCode) (h : Sending maxBatchSize done s)
    (hfull : (s.call socket).Full) :
    Sending maxBatchSize done {doWrite socket s with batch := [], batchNumBytes := 0} := by
  have hgoes := (doWrite_goes_on socket h).mpr hfull
  rw [Bool.or_eq_false_iff, Option.isSome_eq_false_iff, Option.isNone_iff_eq_none] at hgoes
  refine { full := ?_, batch_le := Nat.zero_le _, calls_le := h.calls_le_call socket, offered := ?_,
           batchNumBytes := rfl, numBytesWritten := h.numBytesWritten_call socket, error := hgoes.1,
           blocked := hgoes.2 }
  · intro c hc
    have hc : c ∈ (doWrite socket s).calls := hc
    rw [doWrite_calls] at hc
    rcases List.mem_append.mp hc with hc | hc
    · exact h.full c hc
    · rw [List.mem_singleton.mp hc]
      exact hfull
  · rw [List.append_nil]
    exact h.offered_call socket

/-- Any other call is the last. -/
theorem Sending.last_call (socket : Socket ErrorCode) (h : Sending maxBatchSize done s)
    (hfull : ¬ (s.call socket).Full) : Stopped socket maxBatchSize done (doWrite socket s) where
  calls_le := h.calls_le_call socket
  calls := ⟨s.calls, s.call socket, doWrite_calls socket s, h.full, hfull, doWrite_error socket h.error⟩
  offered := h.offered_call socket
  numBytesWritten := h.numBytesWritten_call socket

/-! ### All of them -/

theorem Sending.push (h : Sending maxBatchSize done s) (hlt : s.batch.length < maxBatchSize)
    (fragment : Fragment) : Sending maxBatchSize (done ++ [fragment]) (s.push fragment) := by
  refine {h with batch_le := ?_, offered := ?_, batchNumBytes := ?_}
  · show (s.batch ++ [fragment]).length ≤ maxBatchSize
    rw [List.length_append, List.length_singleton]
    exact hlt
  · show s.calls.flatMap WriteVCall.batch ++ (s.batch ++ [fragment]) = _
    rw [← h.offered, List.append_assoc]
  · simp [WriteState.push, h.batchNumBytes]

/-- A fragment is put in the batch, and the batch is sent when it is filled. -/
theorem doFragment_spec (socket : Socket ErrorCode) (h : Sending maxBatchSize done s)
    (hlt : s.batch.length < maxBatchSize) (fragment : Fragment) :
    match doFragment socket maxBatchSize s fragment with
    | (s', true) => Sending maxBatchSize (done ++ [fragment]) s' ∧ s'.batch.length < maxBatchSize
    | (s', false) => Stopped socket maxBatchSize (done ++ [fragment]) s' ∧ s'.batchNumBytes = 0 := by
  have hs := h.push hlt fragment
  by_cases hlen : (s.push fragment).batch.length ≠ maxBatchSize
  · simp only [doFragment, if_pos hlen]
    exact ⟨hs, Nat.lt_of_le_of_ne hs.batch_le hlen⟩
  · simp only [doFragment, if_neg hlen]
    by_cases hfull : ((s.push fragment).call socket).Full
    · rw [(doWrite_goes_on socket hs).mpr hfull]
      exact ⟨hs.full_call socket hfull, Nat.lt_of_le_of_lt (Nat.zero_le _) hlt⟩
    · rw [Bool.of_not_eq_false (mt (doWrite_goes_on socket hs).mp hfull)]
      have hlast := hs.last_call socket hfull
      exact ⟨⟨hlast.calls_le, hlast.calls, hlast.offered, hlast.numBytesWritten⟩, rfl⟩

/-- The loop over the fragments offers a prefix of them. -/
theorem iterate_doFragment (socket : Socket ErrorCode) (fragments : List Fragment)
    (h : Sending maxBatchSize done s) (hlt : s.batch.length < maxBatchSize) :
    match iterate (doFragment socket maxBatchSize) s fragments with
    | (s', true) => Sending maxBatchSize (done ++ fragments) s'
    | (s', false) => (∃ offered, offered <+: done ++ fragments ∧ Stopped socket maxBatchSize offered s') ∧
        s'.batchNumBytes = 0 := by
  induction fragments generalizing done s with
  | nil =>
    rw [List.append_nil]
    exact h
  | cons fragment rest ih =>
    have hstep := doFragment_spec socket h hlt fragment
    rcases hf : doFragment socket maxBatchSize s fragment with ⟨s', _ | _⟩
    · rw [hf] at hstep
      rw [iterate_cons_false hf]
      refine ⟨⟨done ++ [fragment], ⟨rest, ?_⟩, hstep.1⟩, hstep.2⟩
      rw [List.append_assoc]
      rfl
    · rw [hf] at hstep
      rw [iterate_cons_true hf]
      have hrest := ih hstep.1 hstep.2
      rw [List.append_assoc] at hrest
      exact hrest

/-- What the calls of a `Write` have done when it has made the last. -/
structure Ended (socket : Socket ErrorCode) (maxBatchSize : Nat) (all : List Fragment)
    (s : WriteState ErrorCode) : Prop where
  calls_le : ∀ c ∈ s.calls, c.batch.length ≤ maxBatchSize
  in_order : s.calls.flatMap WriteVCall.batch <+: all
  stops : ∀ c ∈ s.calls.dropLast, c.Full
  numBytesWritten : s.numBytesWritten = (acceptedBytes s.calls).length
  offered : (∀ c ∈ s.calls, c.Full) → (s.calls.flatMap WriteVCall.batch).flatten = all.flatten
  accepted : acceptedBytes s.calls <+: all.flatten
  error : ∀ code, s.error = some code ↔ ∃ c ∈ s.calls, c.Throws socket code

theorem flatten_prefix {a b : List Fragment} (h : a <+: b) : a.flatten <+: b.flatten := by
  obtain ⟨rest, rfl⟩ := h
  rw [List.flatten_append]
  exact List.prefix_append _ _

/-- All is offered when no byte is left in the batch. -/
theorem Sending.ended (socket : Socket ErrorCode) {all : List Fragment} (h : Sending maxBatchSize all s)
    (hbatch : s.batch.flatten = []) : Ended socket maxBatchSize all s := by
  have hin : s.calls.flatMap WriteVCall.batch <+: all := ⟨s.batch, h.offered⟩
  refine { calls_le := h.calls_le, in_order := hin, stops := ?_, numBytesWritten := h.numBytesWritten,
           offered := fun _ => ?_, accepted := ?_, error := ?_ }
  · intro c hc
    exact h.full c (List.dropLast_subset _ hc)
  · rw [← h.offered, List.flatten_append, hbatch, List.append_nil]
  · rw [acceptedBytes_full h.full]
    exact flatten_prefix hin
  · intro code
    rw [h.error]
    constructor
    · intro heq
      cases heq
    · intro hex
      obtain ⟨c, hc, ht⟩ := hex
      exact absurd ht ((h.full c hc).not_throws code)

theorem Stopped.ended {socket : Socket ErrorCode} {all : List Fragment}
    (h : Stopped socket maxBatchSize done s) (hbegins : done <+: all) : Ended socket maxBatchSize all s := by
  obtain ⟨earlier, last, hcalls, hfull, hlast, herror⟩ := h.calls
  refine { calls_le := h.calls_le, in_order := h.offered ▸ hbegins, stops := ?_,
           numBytesWritten := h.numBytesWritten, offered := fun hall => absurd (hall last ?_) hlast,
           accepted := ?_, error := ?_ }
  · intro c hc
    rw [hcalls, List.dropLast_concat] at hc
    exact hfull c hc
  · rw [hcalls]
    exact List.mem_append_right _ (List.mem_singleton_self last)
  · have hoffered := flatten_prefix hbegins
    rw [← h.offered, hcalls, List.flatMap_append, List.flatMap_singleton, List.flatten_append] at hoffered
    rw [hcalls, acceptedBytes, List.flatMap_append, List.flatMap_singleton]
    refine List.IsPrefix.trans ?_ hoffered
    have hearlier := acceptedBytes_full hfull
    unfold acceptedBytes at hearlier
    rw [hearlier]
    exact (List.prefix_append_right_inj _).mpr (List.take_prefix _ _)
  · intro code
    rw [herror code, hcalls]
    constructor
    · intro ht
      exact ⟨last, by simp, ht⟩
    · intro hex
      obtain ⟨c, hc, ht⟩ := hex
      rcases List.mem_append.mp hc with hc | hc
      · exact absurd ht ((hfull c hc).not_throws code)
      · rw [← List.mem_singleton.mp hc]
        exact ht

theorem leftover_ended (socket : Socket ErrorCode) (all : List Fragment) (hmax : 0 < maxBatchSize) :
    Ended socket maxBatchSize all
      ((iterate (doFragment socket maxBatchSize) .init all).1.leftover socket) := by
  have hloop := iterate_doFragment socket all (init_sending maxBatchSize) hmax
  rw [List.nil_append] at hloop
  rcases hi : iterate (doFragment socket maxBatchSize) .init all with ⟨s, _ | _⟩
  · rw [hi] at hloop
    obtain ⟨⟨offered, hbegins, hstopped⟩, hzero⟩ := hloop
    simp only [WriteState.leftover, hzero, Nat.lt_irrefl, if_false]
    exact hstopped.ended hbegins
  · rw [hi] at hloop
    have hloop : Sending maxBatchSize all s := hloop
    by_cases hbytes : 0 < s.batchNumBytes
    · simp only [WriteState.leftover, if_pos hbytes]
      by_cases hfull : (s.call socket).Full
      · have hended := (hloop.full_call socket hfull).ended socket rfl
        exact ⟨hended.calls_le, hended.in_order, hended.stops, hended.numBytesWritten, hended.offered,
          hended.accepted, hended.error⟩
      · exact (hloop.last_call socket hfull).ended (List.prefix_refl all)
    · simp only [WriteState.leftover, if_neg hbytes]
      have hlength : s.batch.flatten.length = 0 := by
        rw [← hloop.batchNumBytes]
        omega
      exact hloop.ended socket (List.length_eq_zero_iff.mp hlength)

/-- What `Write` owes its caller, from the streams it was given and its result. -/
structure Accounted {S : Type} [FragmentInputStream S] [ConsumableFragmentInputStream S] (ioVecMax : Nat)
    (socket : Socket ErrorCode) (streams : List S) (r : WriteResult S ErrorCode) : Prop where
  /-- The batches, one after the other, are the streams' first fragments. -/
  in_order : r.calls.flatMap WriteVCall.batch <+: streams.flatMap fragments
  batch_le : ∀ c ∈ r.calls, c.batch.length ≤ ioVecMax
  /-- There is no call after a short one or a failed one. -/
  stops : ∀ c ∈ r.calls.dropLast, c.Full
  /-- Unless the last call was short or failed, every byte was offered. -/
  offered : (∀ c ∈ r.calls, c.Full) → (r.calls.flatMap WriteVCall.batch).flatten = allBytes streams
  remaining : acceptedBytes r.calls ++ allRemaining r.streams = allBytes streams
  throws : ∀ what, r.outcome = .error what ↔ ∃ c ∈ r.calls, ∃ code, c.Throws socket code ∧
    what = "writev failed: " ++ socket.getErrorCodeMessage code
  returns : ∀ result, r.outcome = .ok result → (result = true ↔ acceptedBytes r.calls = allBytes streams)

section
variable {S : Type} [FragmentInputStream S] [ConsumableFragmentInputStream S]

/-- `Write` has nothing to write, or consumes what its calls had accepted. -/
theorem write_cases {ioVecMax : Nat} (hmax : 0 < ioVecMax) (socket : Socket ErrorCode)
    {streams : List S} (hvalid : ∀ s ∈ streams, Valid s) :
    streams.flatMap fragments = [] ∧ write ioVecMax socket streams = ⟨streams, .ok true, []⟩ ∨
      ∃ s, Ended socket (min ioVecMax (streams.map numFragments).sum) (streams.flatMap fragments) s ∧
        (write ioVecMax socket streams).streams = (consume streams s.numBytesWritten).1 ∧
        (write ioVecMax socket streams).calls = s.calls ∧
        (write ioVecMax socket streams).outcome =
          match s.error with
          | some code => .error ("writev failed: " ++ socket.getErrorCodeMessage code)
          | none => .ok (consume streams s.numBytesWritten).2 := by
  have hcount := sum_numFragments hvalid
  unfold write
  by_cases hzero : (streams.map numFragments).sum = 0
  · refine .inl ⟨List.length_eq_zero_iff.mp (hcount.symm.trans hzero), ?_⟩
    simp only [if_pos hzero]
  · have hbatch : 0 < min ioVecMax (streams.map numFragments).sum := by omega
    have hended := leftover_ended socket (streams.flatMap fragments) hbatch
    simp only [if_neg hzero, iterate_forEachFragment hvalid]
    generalize WriteState.leftover socket _ = s at hended ⊢
    exact .inr ⟨s, hended, by cases s.error <;> exact ⟨rfl, rfl, rfl⟩⟩

namespace Ended
variable {maxBatchSize : Nat} {socket : Socket ErrorCode} {streams : List S} {s : WriteState ErrorCode}

/-- What was accepted and what is left after it are the streams' bytes. -/
theorem remaining (h : Ended socket maxBatchSize (streams.flatMap fragments) s) (hvalid : ∀ s ∈ streams, Valid s) :
    acceptedBytes s.calls ++ allRemaining (consume streams s.numBytesWritten).1 = allBytes streams := by
  obtain ⟨rest, hrest⟩ := h.accepted
  rw [← allBytes_eq] at hrest
  rw [(consume_spec streams s.numBytesWritten hvalid).1, h.numBytesWritten, ← hrest, List.drop_left]

theorem consumed_iff (h : Ended socket maxBatchSize (streams.flatMap fragments) s) (hvalid : ∀ s ∈ streams, Valid s) :
    (consume streams s.numBytesWritten).2 = true ↔ acceptedBytes s.calls = allBytes streams := by
  obtain ⟨rest, hrest⟩ := h.accepted
  rw [← allBytes_eq] at hrest
  rw [(consume_spec streams s.numBytesWritten hvalid).2, h.numBytesWritten, ← hrest, List.length_append]
  constructor
  · intro hle
    rw [List.length_eq_zero_iff.mp (show rest.length = 0 by omega), List.append_nil]
  · intro heq
    have := congrArg List.length heq
    rw [List.length_append] at this
    omega

omit [FragmentInputStream S] [ConsumableFragmentInputStream S] in
/-- The message is that of the call that failed. -/
theorem throws_iff {all : List Fragment} (h : Ended socket maxBatchSize all s) (what : String) :
    (∃ c ∈ s.calls, ∃ code, c.Throws socket code ∧ what = "writev failed: " ++ socket.getErrorCodeMessage code) ↔
      ∃ code, s.error = some code ∧ what = "writev failed: " ++ socket.getErrorCodeMessage code := by
  constructor
  · rintro ⟨c, hc, code, hthrows, hwhat⟩
    exact ⟨code, (h.error code).mpr ⟨c, hc, hthrows⟩, hwhat⟩
  · rintro ⟨code, herror, hwhat⟩
    obtain ⟨c, hc, hthrows⟩ := (h.error code).mp herror
    exact ⟨c, hc, code, hthrows, hwhat⟩

end Ended

/-- **`Write` accounts for what the socket accepted**, whatever the streams and the answers. -/
theorem write_accounted {ioVecMax : Nat} (hmax : 0 < ioVecMax) (socket : Socket ErrorCode)
    {streams : List S} (hvalid : ∀ s ∈ streams, Valid s) :
    Accounted ioVecMax socket streams (write ioVecMax socket streams) := by
  rcases write_cases hmax socket hvalid with ⟨hnil, heq⟩ | ⟨s, hended, hstreams, hcalls, houtcome⟩
  · have hempty : allBytes streams = [] := by rw [allBytes_eq, hnil, List.flatten_nil]
    rw [heq]
    refine ⟨List.nil_prefix, fun c hc => ?_, fun c hc => ?_, fun _ => hempty.symm, allRemaining_eq hvalid,
      fun what => by simp, ?_⟩
    · cases hc
    · cases hc
    · intro result hresult
      cases hresult
      rw [hempty]
      exact ⟨fun _ => rfl, fun _ => rfl⟩
  · refine ⟨hcalls ▸ hended.in_order, fun c hc => ?_, hcalls ▸ hended.stops, fun hall => ?_, ?_, fun what => ?_,
      fun result hresult => ?_⟩
    · rw [hcalls] at hc
      exact Nat.le_trans (hended.calls_le c hc) (Nat.min_le_left _ _)
    · rw [hcalls] at hall ⊢
      rw [hended.offered hall, allBytes_eq]
    · rw [hcalls, hstreams]
      exact hended.remaining hvalid
    · rw [hcalls, houtcome, hended.throws_iff what]
      cases he : s.error with
      | none => simp
      | some code => simp [eq_comm]
    · rw [houtcome] at hresult
      rw [hcalls]
      cases he : s.error with
      | none =>
        rw [he] at hresult
        cases hresult
        exact hended.consumed_iff hvalid
      | some code =>
        rw [he] at hresult
        cases hresult

/-- `Write` consumes the bytes that were accepted, unless there is nothing to write. -/
theorem write_streams {ioVecMax : Nat} (hmax : 0 < ioVecMax) (socket : Socket ErrorCode)
    {streams : List S} (hvalid : ∀ s ∈ streams, Valid s) :
    (write ioVecMax socket streams).streams =
        (consume streams (acceptedBytes (write ioVecMax socket streams).calls).length).1 ∨
      streams.flatMap fragments = [] ∧ (write ioVecMax socket streams).streams = streams ∧
        (write ioVecMax socket streams).calls = [] := by
  rcases write_cases hmax socket hvalid with ⟨hnil, heq⟩ | ⟨s, hended, hstreams, hcalls, -⟩
  · rw [heq]
    exact .inr ⟨hnil, rfl, rfl⟩
  · rw [hstreams, hcalls, hended.numBytesWritten]
    exact .inl rfl

/-- A socket that accepts its first batch whole and no more than a byte of the second. -/
def shortSocket : Socket Nat where
  writeV call batch := .written (if call = 0 then batch.flatten.length else min 1 batch.flatten.length)
  isBlockingErrorCode _ := false
  getErrorCodeMessage _ := ""
  written_le call batch n h := by
    cases h
    split
    · exact Nat.le_refl _
    · exact Nat.min_le_right _ _

end

theorem write_short_accounted :
    (write 2 shortSocket [FragmentArrayInputStream.ofFragments [[1, 2], [], [3]],
        .ofFragments [[4, 5], [6]]]).streams = [⟨[], 0, 0⟩, ⟨[[4, 5], [6]], 0, 0⟩] ∧
      Accounted 2 shortSocket [FragmentArrayInputStream.ofFragments [[1, 2], [], [3]], .ofFragments [[4, 5], [6]]]
        (write 2 shortSocket [.ofFragments [[1, 2], [], [3]], .ofFragments [[4, 5], [6]]]) := by
  refine ⟨by decide, write_accounted (by decide) _ ?_⟩
  intro s hs
  rcases List.mem_cons.mp hs with rfl | hs
  · exact FragmentArrayInputStream.wellFormed_ofFragments _
  · rw [List.mem_singleton.mp hs]
    exact FragmentArrayInputStream.wellFormed_ofFragments _

end Lightstep.Network

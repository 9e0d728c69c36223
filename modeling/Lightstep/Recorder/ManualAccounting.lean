import Lightstep.Library.Slots
import Lightstep.Recorder.ManualRecorder

/-! What the recorder without a thread keeps account of.

The recorder refines a ledger, with the calls that are under way: a call of
`RecordSpan` has an undecided span until the buffer takes it or the observer is
told that it is dropped, a flush has a batch from the moment it takes the drops,
and a call that has told the observer of drops owes the counter what it has not
yet added. The counter wraps; the ledger owes what its word says and what that has
lost by wrapping. -/
namespace Lightstep.Recorder
open Library

namespace RecordCall
variable {Span : Type}

/-- The span while it is neither in the buffer nor given up. -/
def undecided (call : RecordCall Span) : Multiset Span := if call.phase = .counting then 0 else {call.span}

/-- What the observer has been told and the counter has not. -/
def owed (call : RecordCall Span) : Nat := if call.phase = .counting then 1 else 0

end RecordCall

namespace FailureCall
variable {Span : Type}

def flying (call : FailureCall Span) : Multiset (Batch Span) :=
  if call.phase = .dropping then {call.reportRequest.batch} else 0

def owed (call : FailureCall Span) : Nat :=
  match call.phase with
  | .dropping => 0
  | .counting => call.reportRequest.numSpans + counted call.reportRequest.numDroppedSpans
  | .unconsuming => counted call.reportRequest.numDroppedSpans

end FailureCall

namespace ManualRecorder
variable {Span : Type}

/-- The counter has wrapped so many times. -/
def ledger (wraps : Nat) (r : ManualRecorder Span) : Ledger Span where
  offered := r.recorded
  undecided := (r.recordCalls.map RecordCall.undecided).sum
  pending := r.spanBuffer
  rejected := r.dropped
  flying := (r.flushCalls.map fun call => {call.reportRequest.batch}).sum +
    (r.unanswered.map fun message => {message.batch}).sum + (r.failureCalls.map FailureCall.flying).sum
  delivered := r.succeeded.map ReportRequest.batch
  lost := r.failed.map ReportRequest.batch
  debt := counted r.metrics.numDroppedSpans + 2 ^ 32 * wraps + (r.recordCalls.map RecordCall.owed).sum +
    (r.failureCalls.map FailureCall.owed).sum

/-- The observer has been told of what was delivered and of what was given up, and a flush that has
not looked into the buffer has no spans. -/
structure Orderly (r : ManualRecorder Span) : Prop where
  spansSent : r.metrics.spansSent = (r.succeeded.map ReportRequest.numSpans).sum
  spansDropped : r.metrics.spansDropped = r.dropped.length + (r.failed.map ReportRequest.numSpans).sum
  begun : ∀ call ∈ r.flushCalls, call.phase = .locking ∨ call.phase = .sizing → call.reportRequest.spans = []

theorem new_orderly (reportRequestHeader : List UInt8) : (new reportRequestHeader : ManualRecorder Span).Orderly :=
  ⟨rfl, rfl, fun _ h => by cases h⟩

/-! ### The actions of a call -/

/-- A recorder next to which a call of `RecordSpan` is under way. -/
def withRecord (wraps : Nat) (call : RecordCall Span) (r : ManualRecorder Span) : Ledger Span :=
  {r.ledger wraps with
    undecided := call.undecided + (r.ledger wraps).undecided
    debt := (r.ledger wraps).debt + call.owed}

/-- The recorder in which a call of `RecordSpan` has not been taken out. -/
theorem ledger_eraseIdx_record {r : ManualRecorder Span} {index : Nat} {call : RecordCall Span}
    (h : r.recordCalls[index]? = some call) (wraps : Nat) :
    r.ledger wraps = withRecord wraps call {r with recordCalls := r.recordCalls.eraseIdx index} := by
  unfold withRecord ledger
  rw [sum_map_eraseIdx RecordCall.undecided h, sum_map_eraseIdx RecordCall.owed h]
  congr 1
  dsimp only
  omega

theorem coe_append_singleton (l : List Span) (x : Span) : (↑(l ++ [x]) : Multiset Span) = x ::ₘ ↑l := by
  rw [← Multiset.coe_add, Multiset.add_comm]
  rfl

theorem accept_steps (wraps : Nat) (r : ManualRecorder Span) {call : RecordCall Span}
    (hphase : call.phase ≠ .counting) :
    Ledger.Steps (r.withRecord wraps call) (ledger wraps {r with spanBuffer := r.spanBuffer ++ [call.span]}) := by
  have hundecided : (r.withRecord wraps call).undecided = call.span ::ₘ (r.ledger wraps).undecided := by
    show call.undecided + _ = _
    rw [RecordCall.undecided, if_neg hphase, Multiset.singleton_add]
  have howed : call.owed = 0 := if_neg hphase
  refine .single_eq (.accept _ hundecided) (Ledger.ext rfl rfl ?_ rfl rfl rfl rfl ?_)
  · exact (coe_append_singleton r.spanBuffer call.span).symm
  · show (r.ledger wraps).debt + call.owed = _
    rw [howed]
    rfl

/-- A call that goes on to another point before the observer is told. -/
theorem wait_steps (wraps : Nat) (r : ManualRecorder Span) {call : RecordCall Span} (hphase : call.phase ≠ .counting)
    {phase : RecordPhase} (hnext : phase ≠ .counting) : Ledger.Steps (r.withRecord wraps call)
      (ledger wraps {r with recordCalls := {call with phase := phase} :: r.recordCalls}) := by
  have howed : call.owed = ({call with phase := phase} : RecordCall Span).owed :=
    (if_neg hphase).trans (if_neg hnext).symm
  refine .of_eq (Ledger.ext rfl ?_ rfl rfl rfl rfl rfl ?_)
  · show call.undecided + _ = ({call with phase := phase} : RecordCall Span).undecided + _
    rw [RecordCall.undecided, RecordCall.undecided, if_neg hphase, if_neg hnext]
    rfl
  · simp only [withRecord, ledger, List.map_cons, List.sum_cons, howed]
    omega

theorem record_steps (wraps : Nat) (r : ManualRecorder Span) (call : RecordCall Span) (added : Bool) :
    ∃ wraps', Ledger.Steps (r.withRecord wraps call) ((r.record call added).ledger wraps') := by
  obtain ⟨span, phase⟩ := call
  cases phase with
  | adding =>
    have hphase : (⟨span, .adding⟩ : RecordCall Span).phase ≠ .counting := nofun
    cases added with
    | true => exact ⟨wraps, accept_steps wraps r hphase⟩
    | false => exact ⟨wraps, wait_steps wraps r hphase (by decide)⟩
  | bufferFull =>
    have hphase : (⟨span, .bufferFull⟩ : RecordCall Span).phase ≠ .counting := nofun
    exact ⟨wraps, wait_steps wraps r hphase (by decide)⟩
  | addingAgain =>
    have hphase : (⟨span, .addingAgain⟩ : RecordCall Span).phase ≠ .counting := nofun
    cases added with
    | true => exact ⟨wraps, accept_steps wraps r hphase⟩
    | false => exact ⟨wraps, wait_steps wraps r hphase (by decide)⟩
  | dropping =>
    have hundecided : (r.withRecord wraps ⟨span, .dropping⟩).undecided = span ::ₘ (r.ledger wraps).undecided :=
      Multiset.singleton_add _ _
    refine ⟨wraps, .single_eq (.reject _ hundecided) (Ledger.ext rfl ?_ rfl rfl rfl rfl rfl ?_)⟩
    · exact (zero_add _).symm
    · simp only [withRecord, ledger, record, RecordCall.owed, tellDropped, List.map_cons, List.sum_cons, if_true,
        reduceCtorEq, if_false]
      omega
  | counting =>
    obtain ⟨more, hword⟩ := counted_add_ofNat r.metrics.numDroppedSpans 1
    refine ⟨wraps + more, .of_eq (Ledger.ext rfl (zero_add _) rfl rfl rfl rfl rfl ?_)⟩
    simp only [withRecord, ledger, record, RecordCall.owed, countDropped, if_true]
    omega

theorem record_orderly {r : ManualRecorder Span} (h : r.Orderly) (call : RecordCall Span) (added : Bool) :
    (r.record call added).Orderly := by
  obtain ⟨span, phase⟩ := call
  cases phase with
  | adding => cases added <;> exact ⟨h.spansSent, h.spansDropped, h.begun⟩
  | bufferFull => exact ⟨h.spansSent, h.spansDropped, h.begun⟩
  | addingAgain => cases added <;> exact ⟨h.spansSent, h.spansDropped, h.begun⟩
  | dropping =>
    refine ⟨h.spansSent, ?_, h.begun⟩
    show r.metrics.spansDropped + 1 = r.dropped.length + 1 + (r.failed.map ReportRequest.numSpans).sum
    rw [h.spansDropped]
    omega
  | counting => exact ⟨h.spansSent, h.spansDropped, h.begun⟩

/-! ### A flush -/

/-- A recorder next to which a flush is under way. -/
def withFlush (wraps : Nat) (call : FlushCall Span) (r : ManualRecorder Span) : Ledger Span :=
  {r.ledger wraps with flying := call.reportRequest.batch ::ₘ (r.ledger wraps).flying}

theorem ledger_eraseIdx_flush {r : ManualRecorder Span} {index : Nat} {call : FlushCall Span}
    (h : r.flushCalls[index]? = some call) (wraps : Nat) :
    r.ledger wraps = withFlush wraps call {r with flushCalls := r.flushCalls.eraseIdx index} := by
  unfold withFlush ledger
  rw [sum_map_eraseIdx (fun call : FlushCall Span => ({call.reportRequest.batch} : Multiset (Batch Span))) h]
  congr 1
  dsimp only
  rw [← Multiset.singleton_add, add_assoc, add_assoc, add_assoc]

/-- A flush that goes on to another point. -/
theorem ledger_cons_flush (wraps : Nat) (r : ManualRecorder Span) (call : FlushCall Span) (flushMutex : Bool) :
    ledger wraps {r with flushMutex := flushMutex, flushCalls := call :: r.flushCalls} = r.withFlush wraps call := by
  refine Ledger.ext rfl rfl rfl rfl ?_ rfl rfl rfl
  simp only [withFlush, ledger, List.map_cons, List.sum_cons]
  rw [← Multiset.singleton_add, add_assoc, add_assoc, add_assoc]

/-- What an action of a call of `FlushWithTimeout` finds, and what it does. -/
inductive Flushes (r : ManualRecorder Span) : FlushCall Span → ManualRecorder Span → Prop where
  | lock (reportRequest : ReportRequest Span) (h : r.flushMutex = false) :
      Flushes r ⟨reportRequest, .locking⟩
        {r with flushMutex := true, flushCalls := ⟨reportRequest, .sizing⟩ :: r.flushCalls}
  | nothing (reportRequest : ReportRequest Span) (h : reportRequest.numDroppedSpans = 0) :
      Flushes r ⟨reportRequest, .sizing⟩ {r with flushMutex := false}
  | size (reportRequest : ReportRequest Span) :
      Flushes r ⟨reportRequest, .sizing⟩
        {r with flushCalls := ⟨reportRequest, .consuming r.spanBuffer.length⟩ :: r.flushCalls}
  | consume (reportRequest : ReportRequest Span) (numSpans : Nat) {span : Span} {rest : List Span}
      (h : r.spanBuffer = span :: rest) :
      Flushes r ⟨reportRequest, .consuming (numSpans + 1)⟩
        {r with spanBuffer := rest, flushCalls := ⟨reportRequest.addSpan span, .consuming numSpans⟩ :: r.flushCalls}
  | unlock (reportRequest : ReportRequest Span) :
      Flushes r ⟨reportRequest, .consuming 0⟩
        {r with flushMutex := false, flushCalls := ⟨reportRequest, .sending⟩ :: r.flushCalls}
  | send (reportRequest : ReportRequest Span) :
      Flushes r ⟨reportRequest, .sending⟩
        {r with unanswered := reportRequest :: r.unanswered, flushed := r.flushed + 1}

theorem flushes_of_flush {r r' : ManualRecorder Span} {call : FlushCall Span} (hflush : r.flush call = some r') :
    Flushes r call r' := by
  obtain ⟨reportRequest, phase⟩ := call
  cases phase with
  | locking =>
    obtain ⟨hfree, heq⟩ := Option.ite_none_left_eq_some.mp hflush
    cases heq
    exact .lock reportRequest (Bool.eq_false_iff.mpr hfree)
  | sizing =>
    simp only [flush] at hflush
    split at hflush
    · rename_i hnothing
      cases hflush
      exact .nothing reportRequest hnothing.2
    · cases hflush
      exact .size reportRequest
  | consuming numSpans =>
    cases numSpans with
    | zero =>
      cases hflush
      exact .unlock reportRequest
    | succ numSpans =>
      simp only [flush] at hflush
      split at hflush
      · cases hflush
      · rename_i span rest hbuffer
        cases hflush
        exact .consume reportRequest numSpans hbuffer
  | sending =>
    cases hflush
    exact .send reportRequest

theorem flush_steps (wraps : Nat) {r r' : ManualRecorder Span} {call : FlushCall Span}
    (hbegun : call.phase = .locking ∨ call.phase = .sizing → call.reportRequest.spans = [])
    (hflush : r.flush call = some r') : Ledger.Steps (r.withFlush wraps call) (r'.ledger wraps) := by
  cases flushes_of_flush hflush with
  | lock reportRequest hfree => exact .of_eq (ledger_cons_flush wraps r ⟨reportRequest, .sizing⟩ true).symm
  | nothing reportRequest hdropped =>
    have hspans : reportRequest.spans = [] := hbegun (.inr rfl)
    have hbatch : reportRequest.batch = ⟨0, 0⟩ := by
      rw [ReportRequest.batch, hspans, hdropped]
      rfl
    exact .single (.discard (r.withFlush wraps ⟨reportRequest, .sizing⟩)
      (congrArg (· ::ₘ (r.ledger wraps).flying) hbatch))
  | size reportRequest => exact .of_eq (ledger_cons_flush wraps r ⟨reportRequest, .consuming _⟩ r.flushMutex).symm
  | @consume reportRequest numSpans span rest hbuffer =>
    have hpending : (r.withFlush wraps ⟨reportRequest, .consuming (numSpans + 1)⟩).pending = {span} + ↑rest := by
      show (↑r.spanBuffer : Multiset Span) = _
      rw [hbuffer, Multiset.singleton_add]
      rfl
    have hbatch : (reportRequest.addSpan span).batch =
        ⟨reportRequest.batch.items + {span}, reportRequest.batch.reported⟩ := by
      show (⟨↑(reportRequest.spans ++ [span]), _⟩ : Batch Span) = _
      rw [coe_append_singleton, ← Multiset.singleton_add, Multiset.add_comm]
      rfl
    have hledger := ledger_cons_flush wraps {r with spanBuffer := rest}
      ⟨reportRequest.addSpan span, .consuming numSpans⟩ r.flushMutex
    refine .single_eq (.load _ hpending rfl) (Eq.trans ?_ hledger.symm)
    unfold withFlush
    rw [hbatch]
    rfl
  | unlock reportRequest => exact .of_eq (ledger_cons_flush wraps r ⟨reportRequest, .sending⟩ false).symm
  | send reportRequest =>
    refine .of_eq (Ledger.ext rfl rfl rfl rfl ?_ rfl rfl rfl)
    simp only [withFlush, ledger, List.map_cons, List.sum_cons]
    rw [← Multiset.singleton_add, add_assoc, add_assoc, add_left_comm, add_assoc]

theorem flush_orderly {r r' : ManualRecorder Span} (h : r.Orderly) {call : FlushCall Span}
    (hbegun : call.phase = .locking ∨ call.phase = .sizing → call.reportRequest.spans = [])
    (hflush : r.flush call = some r') : r'.Orderly := by
  have hcons : ∀ {call : FlushCall Span}, (call.phase = .locking ∨ call.phase = .sizing → call.reportRequest.spans = []) →
      ∀ c ∈ call :: r.flushCalls, c.phase = .locking ∨ c.phase = .sizing → c.reportRequest.spans = [] :=
    fun hcall => List.forall_mem_cons.mpr ⟨hcall, h.begun⟩
  cases flushes_of_flush hflush with
  | lock reportRequest hfree => exact ⟨h.spansSent, h.spansDropped, hcons fun _ => hbegun (.inl rfl)⟩
  | nothing reportRequest hdropped => exact ⟨h.spansSent, h.spansDropped, h.begun⟩
  | size reportRequest => exact ⟨h.spansSent, h.spansDropped, hcons nofun⟩
  | consume reportRequest numSpans hbuffer => exact ⟨h.spansSent, h.spansDropped, hcons nofun⟩
  | unlock reportRequest => exact ⟨h.spansSent, h.spansDropped, hcons nofun⟩
  | send reportRequest => exact ⟨h.spansSent, h.spansDropped, h.begun⟩

/-! ### A failure -/

/-- A recorder next to which a call of `OnFailure` is under way. -/
def withFailure (wraps : Nat) (call : FailureCall Span) (r : ManualRecorder Span) : Ledger Span :=
  {r.ledger wraps with
    flying := call.flying + (r.ledger wraps).flying
    debt := (r.ledger wraps).debt + call.owed}

theorem ledger_eraseIdx_failure {r : ManualRecorder Span} {index : Nat} {call : FailureCall Span}
    (h : r.failureCalls[index]? = some call) (wraps : Nat) :
    r.ledger wraps = withFailure wraps call {r with failureCalls := r.failureCalls.eraseIdx index} := by
  unfold withFailure ledger
  rw [sum_map_eraseIdx FailureCall.flying h, sum_map_eraseIdx FailureCall.owed h]
  congr 1
  · exact add_left_comm _ _ _
  · dsimp only
    omega

theorem failure_steps (wraps : Nat) (r : ManualRecorder Span) (call : FailureCall Span) :
    ∃ wraps', Ledger.Steps (r.withFailure wraps call) ((r.failure call).ledger wraps') := by
  obtain ⟨reportRequest, phase⟩ := call
  cases phase with
  | dropping =>
    have hflying : (r.withFailure wraps ⟨reportRequest, .dropping⟩).flying =
        reportRequest.batch ::ₘ (r.ledger wraps).flying := Multiset.singleton_add _ _
    have hcard : (↑reportRequest.spans : Multiset Span).card = reportRequest.numSpans := reportRequest.numSpans_eq.symm
    refine ⟨wraps, .single_eq (.lose _ hflying) (Ledger.ext rfl rfl rfl rfl ?_ rfl rfl ?_)⟩
    · simp only [ledger, failure, List.map_cons, List.sum_cons]
      exact congrArg _ (zero_add _).symm
    · simp only [withFailure, ledger, failure, FailureCall.owed, tellDropped, List.map_cons, List.sum_cons,
        ReportRequest.batch, hcard]
      omega
  | counting =>
    obtain ⟨more, hword⟩ := counted_add_ofNat r.metrics.numDroppedSpans reportRequest.numSpans
    refine ⟨wraps + more, .of_eq (Ledger.ext rfl rfl rfl rfl ?_ rfl rfl ?_)⟩
    · simp only [withFailure, ledger, failure, List.map_cons, List.sum_cons]
      exact add_left_comm _ _ _
    · simp only [withFailure, ledger, failure, FailureCall.owed, countDropped, List.map_cons, List.sum_cons]
      omega
  | unconsuming =>
    obtain ⟨more, hword⟩ := counted_add r.metrics.numDroppedSpans reportRequest.numDroppedSpans
    refine ⟨wraps + more, .of_eq (Ledger.ext rfl rfl rfl rfl ?_ rfl rfl ?_)⟩
    · exact zero_add _
    · simp only [withFailure, ledger, failure, FailureCall.owed, MetricsTracker.unconsumeDroppedSpans]
      omega

theorem failure_orderly {r : ManualRecorder Span} (h : r.Orderly) (call : FailureCall Span) :
    (r.failure call).Orderly := by
  obtain ⟨reportRequest, phase⟩ := call
  cases phase with
  | dropping =>
    refine ⟨h.spansSent, ?_, h.begun⟩
    show r.metrics.spansDropped + reportRequest.numSpans =
      r.dropped.length + (reportRequest.numSpans + (r.failed.map ReportRequest.numSpans).sum)
    rw [h.spansDropped]
    omega
  | counting => exact ⟨h.spansSent, h.spansDropped, h.begun⟩
  | unconsuming => exact ⟨h.spansSent, h.spansDropped, h.begun⟩

/-! ### An answer -/

theorem ledger_eraseIdx_unanswered {r : ManualRecorder Span} {index : Nat} {message : ReportRequest Span}
    (h : r.unanswered[index]? = some message) (wraps : Nat) :
    r.ledger wraps = {ledger wraps {r with unanswered := r.unanswered.eraseIdx index} with
      flying := message.batch ::ₘ (ledger wraps {r with unanswered := r.unanswered.eraseIdx index}).flying} := by
  unfold ledger
  rw [sum_map_eraseIdx (fun message : ReportRequest Span => ({message.batch} : Multiset (Batch Span))) h]
  congr 1
  dsimp only
  rw [← Multiset.singleton_add]
  abel

/-! ### Every step -/

theorem step_steps (wraps : Nat) {r r' : ManualRecorder Span} {e : ManualEvent Span} (h : r.Orderly)
    (hstep : r.step e = some r') : r'.Orderly ∧ ∃ wraps', Ledger.Steps (r.ledger wraps) (r'.ledger wraps') := by
  cases e with
  | recordSpan span =>
    cases hstep
    refine ⟨⟨h.spansSent, h.spansDropped, h.begun⟩, wraps, .single_eq (.offer (r.ledger wraps) span)
      (Ledger.ext rfl (Multiset.singleton_add _ _).symm rfl rfl rfl rfl rfl ?_)⟩
    simp only [ledger, List.map_cons, List.sum_cons, RecordCall.owed, reduceCtorEq, if_false]
    omega
  | record index added =>
    obtain ⟨call, hcall, rfl⟩ := Option.map_eq_some_iff.mp hstep
    have hothers : ({r with recordCalls := r.recordCalls.eraseIdx index} : ManualRecorder Span).Orderly :=
      ⟨h.spansSent, h.spansDropped, h.begun⟩
    refine ⟨record_orderly hothers call added, ?_⟩
    rw [ledger_eraseIdx_record hcall]
    exact record_steps wraps _ call added
  | flushWithTimeout =>
    cases hstep
    refine ⟨⟨h.spansSent, h.spansDropped, List.forall_mem_cons.mpr ⟨fun _ => rfl, h.begun⟩⟩, ?_⟩
    have hdebt : (r.ledger wraps).debt = counted r.metrics.numDroppedSpans + (2 ^ 32 * wraps +
        (r.recordCalls.map RecordCall.owed).sum + (r.failureCalls.map FailureCall.owed).sum) := by
      simp only [ledger, Nat.add_assoc]
    refine ⟨wraps, .single_eq (.open (r.ledger wraps) hdebt) (Ledger.ext rfl rfl rfl rfl ?_ rfl rfl ?_)⟩
    · have hbatch : (⟨0, counted r.metrics.numDroppedSpans⟩ : Batch Span) =
          (ReportRequest.new r.reportRequestHeader r.metrics.numDroppedSpans : ReportRequest Span).batch := by
        rw [ReportRequest.batch, ReportRequest.numDroppedSpans_new]
        rfl
      rw [hbatch]
      simp only [ledger, List.map_cons, List.sum_cons]
      rw [← Multiset.singleton_add, add_assoc, add_assoc, add_assoc]
    · simp only [ledger, counted_zero]
      omega
  | flush index =>
    obtain ⟨call, hcall, hflush⟩ := Option.bind_eq_some_iff.mp hstep
    have hmem : call ∈ r.flushCalls := List.mem_of_getElem? hcall
    have hothers : ({r with flushCalls := r.flushCalls.eraseIdx index} : ManualRecorder Span).Orderly :=
      ⟨h.spansSent, h.spansDropped, fun c hc => h.begun c (List.mem_of_mem_eraseIdx hc)⟩
    refine ⟨flush_orderly hothers (h.begun call hmem) hflush, ?_⟩
    rw [ledger_eraseIdx_flush hcall]
    exact ⟨wraps, flush_steps wraps (h.begun call hmem) hflush⟩
  | onFlush =>
    obtain ⟨-, heq⟩ := Option.ite_none_right_eq_some.mp hstep
    cases heq
    exact ⟨⟨h.spansSent, h.spansDropped, h.begun⟩, wraps, .refl⟩
  | onSuccess index =>
    obtain ⟨message, hmessage, rfl⟩ := Option.map_eq_some_iff.mp hstep
    refine ⟨⟨?_, h.spansDropped, h.begun⟩, ?_⟩
    · show r.metrics.spansSent + message.numSpans = message.numSpans + (r.succeeded.map ReportRequest.numSpans).sum
      rw [h.spansSent]
      omega
    · rw [ledger_eraseIdx_unanswered hmessage]
      exact ⟨wraps, .single_eq (.deliver _ rfl) (Ledger.ext rfl rfl rfl rfl rfl rfl rfl rfl)⟩
  | onFailure index =>
    obtain ⟨message, hmessage, rfl⟩ := Option.map_eq_some_iff.mp hstep
    refine ⟨⟨h.spansSent, h.spansDropped, h.begun⟩, ?_⟩
    rw [ledger_eraseIdx_unanswered hmessage]
    refine ⟨wraps, .of_eq (Ledger.ext rfl rfl rfl rfl ?_ rfl rfl ?_)⟩
    · simp only [ledger, List.map_cons, List.sum_cons, FailureCall.flying, if_true]
      rw [← Multiset.singleton_add]
      abel
    · simp only [ledger, List.map_cons, List.sum_cons, FailureCall.owed]
      omega
  | failure index =>
    obtain ⟨call, hcall, rfl⟩ := Option.map_eq_some_iff.mp hstep
    have hothers : ({r with failureCalls := r.failureCalls.eraseIdx index} : ManualRecorder Span).Orderly :=
      ⟨h.spansSent, h.spansDropped, h.begun⟩
    refine ⟨failure_orderly hothers call, ?_⟩
    rw [ledger_eraseIdx_failure hcall]
    exact failure_steps wraps _ call

theorem run_orderly {reportRequestHeader : List UInt8} {events : List (ManualEvent Span)} {r : ManualRecorder Span}
    (hrun : (machine Span).run (new reportRequestHeader) events = some r) :
    r.Orderly ∧ ∃ wraps, (r.ledger wraps).Balanced :=
  (machine Span).run_invariant (I := fun r => r.Orderly ∧ ∃ wraps, (r.ledger wraps).Balanced)
    (fun _ _ _ hI hstep => by
      obtain ⟨horderly, wraps, hbalanced⟩ := hI
      obtain ⟨hr, wraps', hsteps⟩ := step_steps wraps horderly hstep
      exact ⟨hr, wraps', hsteps.balanced hbalanced⟩)
    events (new reportRequestHeader) r ⟨new_orderly reportRequestHeader, 0, Ledger.empty_balanced⟩ hrun

/-! ### The law -/

/-- The spans of the calls that are neither in the buffer nor given up. -/
def undecidedSpans (r : ManualRecorder Span) : List Span :=
  (r.recordCalls.filter fun call => decide (call.phase ≠ .counting)).map RecordCall.span

/-- The messages whose failure the observer has not been told of. -/
def failing (r : ManualRecorder Span) : List (ReportRequest Span) :=
  (r.failureCalls.filter fun call => decide (call.phase = .dropping)).map FailureCall.reportRequest

/-- The requests that are made or sent, and not answered. -/
def underWay (r : ManualRecorder Span) : List (ReportRequest Span) :=
  r.flushCalls.map FlushCall.reportRequest ++ r.unanswered ++ r.failing

/-- What the calls that are under way have told the observer and not yet counted. -/
def owed (r : ManualRecorder Span) : Nat :=
  (r.recordCalls.map RecordCall.owed).sum + (r.failureCalls.map FailureCall.owed).sum

/-- The drops that some requests tell of. -/
def reportedDrops (requests : List (ReportRequest Span)) : Int :=
  (requests.map fun request => request.numDroppedSpans.toInt).sum

/-- Every span recorded is in one place, of which at most one is a request, and every drop the
observer was told of is counted, owed, under way or delivered, where the counts do not wrap. -/
structure Accounted (r : ManualRecorder Span) : Prop where
  placed : r.recorded.Perm (r.undecidedSpans ++ r.spanBuffer ++ r.underWay.flatMap ReportRequest.spans ++
    r.succeeded.flatMap ReportRequest.spans ++ r.failed.flatMap ReportRequest.spans ++ r.dropped)
  numSpans : r.recorded.length = r.undecidedSpans.length + r.spanBuffer.length +
    (r.underWay.map ReportRequest.numSpans).sum + r.metrics.spansSent + r.metrics.spansDropped
  droppedSpans : KeptAs r.metrics.spansDropped
    (r.metrics.numDroppedSpans.toInt + reportedDrops r.underWay + reportedDrops r.succeeded + r.owed)
  /-- When no call is under way. -/
  quiet : r.recordCalls = [] → r.flushCalls = [] → r.failureCalls = [] →
    r.recorded.length = r.spanBuffer.length + (r.unanswered.map ReportRequest.numSpans).sum +
        r.metrics.spansSent + r.metrics.spansDropped ∧
      KeptAs r.metrics.spansDropped
        (r.metrics.numDroppedSpans.toInt + reportedDrops r.unanswered + reportedDrops r.succeeded)

theorem ledger_undecided (wraps : Nat) (r : ManualRecorder Span) :
    (r.ledger wraps).undecided = ↑r.undecidedSpans := by
  show (r.recordCalls.map RecordCall.undecided).sum = _
  unfold undecidedSpans
  induction r.recordCalls with
  | nil => rfl
  | cons call rest ih =>
    rw [List.map_cons, List.sum_cons, ih, RecordCall.undecided, List.filter_cons]
    by_cases hphase : call.phase = .counting
    · simp [hphase]
    · simp [hphase]

theorem ledger_flying (wraps : Nat) (r : ManualRecorder Span) :
    (r.ledger wraps).flying = ↑(r.underWay.map ReportRequest.batch) := by
  have hsingletons : ∀ {A : Type} (f : A → ReportRequest Span) (l : List A),
      (l.map fun x => ({(f x).batch} : Multiset (Batch Span))).sum = ↑((l.map f).map ReportRequest.batch) := by
    intro A f l
    induction l with
    | nil => rfl
    | cons x rest ih =>
      rw [List.map_cons, List.sum_cons, ih]
      rfl
  have hfailing : (r.failureCalls.map FailureCall.flying).sum = ↑(r.failing.map ReportRequest.batch) := by
    unfold failing
    induction r.failureCalls with
    | nil => rfl
    | cons call rest ih =>
      rw [List.map_cons, List.sum_cons, ih, FailureCall.flying, List.filter_cons]
      by_cases hphase : call.phase = .dropping
      · simp [hphase]
      · simp [hphase]
  have hunanswered := hsingletons id r.unanswered
  rw [List.map_id] at hunanswered
  unfold underWay
  rw [List.map_append, List.map_append, ← Multiset.coe_add, ← Multiset.coe_add, ← hfailing, ← hunanswered,
    ← hsingletons FlushCall.reportRequest r.flushCalls]
  rfl

theorem items_map_batch (requests : List (ReportRequest Span)) :
    Ledger.items (↑(requests.map ReportRequest.batch) : Multiset (Batch Span)) =
      (↑(requests.flatMap ReportRequest.spans) : Multiset Span) :=
  Ledger.items_coe_map (fun _ => rfl) requests

theorem reported_map_batch (requests : List (ReportRequest Span)) :
    Ledger.reported (↑(requests.map ReportRequest.batch) : Multiset (Batch Span)) =
      (requests.map fun request => counted request.numDroppedSpans).sum :=
  Ledger.reported_coe_map (fun _ => rfl) requests

theorem length_flatMap_spans (requests : List (ReportRequest Span)) :
    (requests.flatMap ReportRequest.spans).length = (requests.map ReportRequest.numSpans).sum := by
  rw [List.length_flatMap]
  exact congrArg List.sum (List.map_congr_left fun request _ => request.numSpans_eq.symm)

/-- What the words of the recorder say of the drops. -/
theorem keptAs_reportedDrops {r : ManualRecorder Span} (requests : List (ReportRequest Span)) {total owed : Nat}
    (wraps : Nat) (h : total = counted r.metrics.numDroppedSpans +
      (requests.map fun request => counted request.numDroppedSpans).sum +
      (r.succeeded.map fun request => counted request.numDroppedSpans).sum + owed + 2 ^ 32 * wraps) :
    KeptAs total
      (r.metrics.numDroppedSpans.toInt + reportedDrops requests + reportedDrops r.succeeded + owed) := by
  have hwords := @keptAs_of_counted
    (r.metrics.numDroppedSpans :: (requests ++ r.succeeded).map ReportRequest.numDroppedSpans) total owed wraps
  simp only [List.map_cons, List.map_append, List.map_map, List.sum_cons, List.sum_append, Function.comp_def,
    ← Nat.add_assoc, ← Int.add_assoc] at hwords
  exact hwords h

theorem Orderly.accounted {r : ManualRecorder Span} (h : r.Orderly) {wraps : Nat}
    (hbalanced : (r.ledger wraps).Balanced) : r.Accounted := by
  have hplaced : r.recorded.Perm (r.undecidedSpans ++ r.spanBuffer ++ r.underWay.flatMap ReportRequest.spans ++
      r.succeeded.flatMap ReportRequest.spans ++ r.failed.flatMap ReportRequest.spans ++ r.dropped) := by
    have hitems := hbalanced.items
    rw [ledger_undecided, ledger_flying] at hitems
    simp only [ledger, items_map_batch, Multiset.coe_add] at hitems
    exact Multiset.coe_eq_coe.mp hitems
  have hspans := hplaced.length_eq
  have hlosses := hbalanced.losses
  rw [ledger_flying] at hlosses
  simp only [ledger, items_map_batch, reported_map_batch, Multiset.coe_card] at hlosses
  simp only [List.length_append, length_flatMap_spans] at hspans hlosses
  have hsent := h.spansSent
  have hdropped := h.spansDropped
  refine ⟨hplaced, by omega, keptAs_reportedDrops r.underWay wraps ?_, fun hrecord hflush hfailure => ?_⟩
  · unfold owed
    omega
  · have hunderWay : r.underWay = r.unanswered := by
      rw [underWay, failing, hflush, hfailure]
      exact List.append_nil _
    have hundecided : r.undecidedSpans = [] := by
      rw [undecidedSpans, hrecord]
      rfl
    rw [hunderWay, hundecided] at hspans
    rw [hunderWay, hrecord, hfailure] at hlosses
    simp only [List.length_nil, List.map_nil, List.sum_nil] at hspans hlosses
    have hkept : KeptAs r.metrics.spansDropped
        (r.metrics.numDroppedSpans.toInt + reportedDrops r.unanswered + reportedDrops r.succeeded + (0 : Nat)) :=
      keptAs_reportedDrops r.unanswered wraps (by omega)
    rw [Int.natCast_zero, Int.add_zero] at hkept
    exact ⟨by omega, hkept⟩

/-- **Accounting**, in any interleaving of the calls. -/
theorem manualRun_accounted {reportRequestHeader : List UInt8} {events : List (ManualEvent Span)}
    {r : ManualRecorder Span}
    (hrun : (machine Span).run (new reportRequestHeader) events = some r) : r.Accounted := by
  obtain ⟨horderly, wraps, hbalanced⟩ := run_orderly hrun
  exact horderly.accounted hbalanced

/-- A full buffer that a flush from `OnSpanBufferFull` empties, a message that fails between the two
halves of another call's drop, and the next flush. -/
def crossing : List (ManualEvent Nat) :=
  [.recordSpan 7, .record 0 true, .recordSpan 8, .record 0 false, .flushWithTimeout, .flush 0, .flush 0, .flush 0,
    .flush 0, .flush 0, .recordSpan 9, .record 0 false, .record 0 false, .record 0 false, .record 0 false,
    .onFailure 0, .failure 0, .flushWithTimeout, .record 0 false, .failure 0, .failure 0, .record 0 true]

theorem crossing_accounted : ∃ r, (machine Nat).run (new []) crossing = some r ∧
    (r.recorded, r.dropped, r.metrics.spansDropped) = ([9, 8, 7], [9], 2) ∧ r.Accounted := by
  have hsome : ((machine Nat).run (new []) crossing).map
      (fun r => (r.recorded, r.dropped, r.metrics.spansDropped)) = some ([9, 8, 7], [9], 2) := by
    decide +kernel
  obtain ⟨r, hrun, hr⟩ := Option.map_eq_some_iff.mp hsome
  exact ⟨r, hrun, hr, manualRun_accounted hrun⟩

/-- A call of `RecordSpan` that finds the buffer full. -/
def droppedCall : List (ManualEvent Nat) := .recordSpan 7 :: List.replicate 5 (.record 0 false)

/-- A buffer for one span, and so many dropped calls. -/
def droppingRun (n : Nat) : List (ManualEvent Nat) :=
  [.recordSpan 7, .record 0 true] ++ (List.replicate n droppedCall).flatten

/-- What they leave. -/
def afterDrops (n : Nat) : ManualRecorder Nat :=
  {new [] with
    metrics := ⟨⟨0, n, 0⟩, .ofNat n⟩
    spanBuffer := [7]
    recorded := List.replicate (n + 1) 7
    dropped := List.replicate n 7}

theorem run_droppedCall (n : Nat) : (machine Nat).run (afterDrops n) droppedCall = some (afterDrops (n + 1)) := by
  have hcount : (Int32.ofNat n + .ofNat 1 : Int32) = .ofNat (n + 1) := (Int32.ofNat_add n 1).symm
  have hrun : (machine Nat).run (afterDrops n) droppedCall =
      some {afterDrops (n + 1) with metrics := ⟨⟨0, n + 1, 0⟩, .ofNat n + .ofNat 1⟩} := rfl
  rw [hrun, hcount]
  rfl

theorem run_droppingRun (n : Nat) : (machine Nat).run (new []) (droppingRun n) = some (afterDrops n) := by
  have hdrops : ∀ k, (machine Nat).run (afterDrops k) (List.replicate n droppedCall).flatten =
      some (afterDrops (k + n)) := by
    induction n with
    | zero => exact fun k => rfl
    | succ n ih =>
      intro k
      rw [List.replicate_succ, List.flatten_cons, Machine.run_append, run_droppedCall, Option.bind_some, ih,
        Nat.add_right_comm]
      rfl
  have hfilled : (machine Nat).run (new []) [.recordSpan 7, .record 0 true] = some (afterDrops 0) := rfl
  rw [droppingRun, Machine.run_append, hfilled, Option.bind_some, hdrops, Nat.zero_add]

/-- After `2 ^ 31` drops the counter is a negative number. -/
theorem droppingRun_not_accounted : ∃ r, (machine Nat).run (new []) (droppingRun (2 ^ 31)) = some r ∧
    r.metrics.spansDropped = 2 ^ 31 ∧ (r.metrics.spansDropped : Int) ≠
      r.metrics.numDroppedSpans.toInt + reportedDrops r.underWay + reportedDrops r.succeeded + r.owed := by
  have hword : ((2 ^ 31 : Nat) : Int) ≠ (Int32.ofNat (2 ^ 31)).toInt + 0 + 0 + (0 : Nat) := by decide
  exact ⟨_, run_droppingRun (2 ^ 31), rfl, hword⟩

end ManualRecorder
end Lightstep.Recorder

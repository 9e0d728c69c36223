import Lightstep.Recorder.AutoRecorder

/-! What the recorder with a writer thread keeps account of, and what a flush promises.

The recorder refines a ledger: the first critical section of `FlushOne` hands the
pending spans over in a batch, and the second delivers the batch or loses it. The
spans accepted are those of the reports in the order of their numbers, with the
pending ones last, and a flush waits for a number by which all it knew of is in a
report. -/
namespace Lightstep.Recorder
open Library

namespace AutoRecorder
variable {Span : Type}

/-- Where the one report that has been begun and not completed is. -/
inductive Writing (r : AutoRecorder Span) : Prop where
  | none (hflying : r.flying = []) (hinflight : r.inflight.spans = []) (hreturned : r.returned = r.completed)
    (hwriter : r.writer = .looping ∨ r.writer = .waiting ∨ r.writer = .flushing ∨ r.writer = .exiting ∨
      r.writer = .exited)
  | sending (savePending saveDropped : Nat) (hflying : r.flying = [r.inflight]) (hreturned : r.returned = r.completed)
    (hpending : savePending = r.inflight.spans.length) (hdropped : saveDropped = r.inflight.numDroppedSpans)
    (hwriter : r.writer = .writing savePending saveDropped ∨
      ∃ commands, r.writer = .disabling commands savePending saveDropped)
  | sent (success : Bool) (savePending saveDropped : Nat) (hflying : r.flying = [r.inflight])
    (hreturned : r.returned = r.completed ++ [r.inflight]) (hpending : savePending = r.inflight.spans.length)
    (hdropped : saveDropped = r.inflight.numDroppedSpans)
    (hwriter : r.writer = .completing success savePending saveDropped)
  | abandoned (hflying : r.flying = [r.inflight]) (hreturned : r.returned = r.completed)
    (hwriter : r.writer = .exiting ∨ r.writer = .exited)

/-- The spans in groups, one for each report and the last for the pending ones. -/
def groups (r : AutoRecorder Span) : List (List Span) :=
  (r.completed ++ r.flying).map ReportMessage.spans ++ [r.builder.pending.spans]

/-- All that a flush knew of is in the groups up to the number it waits for. -/
def Covered (r : AutoRecorder Span) (wait : FlushWait Span) : Prop :=
  wait.accepted <+: (r.groups.take wait.waitSeq).flatten

/-- One count of dropped spans. -/
def Counted (m : ReportMessage Span) : Prop := ∃ k, m.counts = [⟨ReportMessage.spansDropped, k⟩]

structure Orderly (r : AutoRecorder Span) : Prop where
  ready : r.builder.Ready
  writing : r.Writing
  encodingSeqno : r.encodingSeqno = r.flushedSeqno + 1 + r.flying.length
  flushedSeqno : r.completed.length = r.flushedSeqno
  accepted : r.accepted = r.groups.flatten
  counted : ∀ m ∈ r.flying ++ r.succeeded ++ r.failed, Counted m
  waits : ∀ wait ∈ r.waits, r.Covered wait
  finished : ∀ f ∈ r.finished, f.result = true → f.accepted <+: r.returned.flatMap ReportMessage.spans

theorem new_orderly (preamble : Preamble) (maxBufferedSpans : Nat) :
    (new preamble maxBufferedSpans : AutoRecorder Span).Orderly where
  ready := ReportBuilder.new_ready preamble
  writing := .none rfl rfl rfl (.inl rfl)
  encodingSeqno := rfl
  flushedSeqno := rfl
  accepted := rfl
  counted := fun _ h => by cases h
  waits := fun _ h => by cases h
  finished := fun _ h => by cases h

def ledger (r : AutoRecorder Span) : Ledger Span where
  offered := r.recorded
  undecided := 0
  pending := r.builder.pending.spans
  rejected := r.rejected
  flying := r.flying.map ReportMessage.batch
  delivered := r.succeeded.map ReportMessage.batch
  lost := r.failed.map ReportMessage.batch
  debt := r.droppedSpans

/-! ### The groups -/

theorem flatten_isPrefix {α : Type} {a b : List (List α)} (h : a <+: b) : a.flatten <+: b.flatten := by
  obtain ⟨rest, rfl⟩ := h
  rw [List.flatten_append]
  exact List.prefix_append _ _

/-- A span that is added to the last group. -/
theorem take_last_isPrefix {α : Type} (front : List (List α)) (last : List α) (x : α) (n : Nat) :
    ((front ++ [last]).take n).flatten <+: ((front ++ [last ++ [x]]).take n).flatten := by
  by_cases hn : n ≤ front.length
  · rw [List.take_append_of_le_length hn, List.take_append_of_le_length hn]
  · have hle : (front ++ [last]).length ≤ n := by
      rw [List.length_append, List.length_singleton]
      omega
    have hle' : (front ++ [last ++ [x]]).length ≤ n := by
      rw [List.length_append, List.length_singleton]
      omega
    rw [List.take_of_length_le hle, List.take_of_length_le hle', List.flatten_append, List.flatten_append]
    refine (List.prefix_append_right_inj _).mpr ?_
    rw [List.flatten_singleton, List.flatten_singleton]
    exact List.prefix_append _ _

/-- A group that is begun after the last. -/
theorem take_append_isPrefix {α : Type} (l l' : List (List α)) (n : Nat) :
    (l.take n).flatten <+: ((l ++ l').take n).flatten :=
  flatten_isPrefix ((List.prefix_append l l').take n)

theorem Writing.completed_isPrefix {r : AutoRecorder Span} (h : r.Writing) : r.completed <+: r.returned := by
  cases h with
  | none _ _ hreturned => rw [hreturned]
  | sending _ _ _ hreturned => rw [hreturned]
  | sent _ _ _ _ hreturned =>
    rw [hreturned]
    exact List.prefix_append _ _
  | abandoned _ hreturned => rw [hreturned]

theorem Writing.of_eq {r r' : AutoRecorder Span} (h : r.Writing) (hflying : r'.flying = r.flying)
    (hinflight : r'.inflight = r.inflight) (hreturned : r'.returned = r.returned)
    (hcompleted : r'.completed = r.completed) (hwriter : r'.writer = r.writer) : r'.Writing := by
  cases h with
  | none hnone hempty hall hphase =>
    exact .none (hflying.trans hnone) (hinflight ▸ hempty) (by rw [hreturned, hcompleted]; exact hall)
      (hwriter ▸ hphase)
  | sending savePending saveDropped hone hall hpending hdropped hphase =>
    exact .sending savePending saveDropped (by rw [hflying, hinflight]; exact hone)
      (by rw [hreturned, hcompleted]; exact hall) (hinflight ▸ hpending) (hinflight ▸ hdropped) (hwriter ▸ hphase)
  | sent success savePending saveDropped hone hall hpending hdropped hphase =>
    exact .sent success savePending saveDropped (by rw [hflying, hinflight]; exact hone)
      (by rw [hreturned, hcompleted, hinflight]; exact hall) (hinflight ▸ hpending) (hinflight ▸ hdropped)
      (hwriter ▸ hphase)
  | abandoned hone hall hphase =>
    exact .abandoned (by rw [hflying, hinflight]; exact hone) (by rw [hreturned, hcompleted]; exact hall)
      (hwriter ▸ hphase)

/-- What is known of the report under way from where the writer is. -/
def AtPhase (r : AutoRecorder Span) : WriterPhase → Prop
  | .looping | .waiting | .flushing => r.flying = [] ∧ r.inflight.spans = [] ∧ r.returned = r.completed
  | .writing savePending saveDropped | .disabling _ savePending saveDropped =>
    r.flying = [r.inflight] ∧ r.returned = r.completed ∧ savePending = r.inflight.spans.length ∧
      saveDropped = r.inflight.numDroppedSpans
  | .completing _ savePending saveDropped =>
    r.flying = [r.inflight] ∧ r.returned = r.completed ++ [r.inflight] ∧ savePending = r.inflight.spans.length ∧
      saveDropped = r.inflight.numDroppedSpans
  | .exiting | .exited =>
    r.flying = [] ∧ r.inflight.spans = [] ∧ r.returned = r.completed ∨
      r.flying = [r.inflight] ∧ r.returned = r.completed

theorem Writing.atPhase {r : AutoRecorder Span} (h : r.Writing) {phase : WriterPhase} (hwriter : r.writer = phase) :
    r.AtPhase phase := by
  subst hwriter
  cases h with
  | none hflying hinflight hreturned hphase =>
    rcases hphase with hphase | hphase | hphase | hphase | hphase <;> rw [hphase]
    · exact ⟨hflying, hinflight, hreturned⟩
    · exact ⟨hflying, hinflight, hreturned⟩
    · exact ⟨hflying, hinflight, hreturned⟩
    · exact .inl ⟨hflying, hinflight, hreturned⟩
    · exact .inl ⟨hflying, hinflight, hreturned⟩
  | sending savePending saveDropped hflying hreturned hpending hdropped hphase =>
    rcases hphase with hphase | ⟨commands, hphase⟩ <;> rw [hphase] <;>
      exact ⟨hflying, hreturned, hpending, hdropped⟩
  | sent success savePending saveDropped hflying hreturned hpending hdropped hphase =>
    rw [hphase]
    exact ⟨hflying, hreturned, hpending, hdropped⟩
  | abandoned hflying hreturned hphase =>
    rcases hphase with hphase | hphase <;> rw [hphase] <;> exact .inr ⟨hflying, hreturned⟩

/-- Steps that move the writer and leave reports and spans alone. -/
theorem Orderly.of_eq {r r' : AutoRecorder Span} (h : r.Orderly) (hwriting : r'.Writing)
    (hbuilder : r'.builder = r.builder) (hencoding : r'.encodingSeqno = r.encodingSeqno)
    (hflushed : r'.flushedSeqno = r.flushedSeqno) (hflying : r'.flying = r.flying)
    (hcompleted : r'.completed = r.completed) (haccepted : r'.accepted = r.accepted)
    (hsucceeded : r'.succeeded = r.succeeded) (hfailed : r'.failed = r.failed) (hwaits : r'.waits = r.waits)
    (hfinished : r'.finished = r.finished) (hreturned : r.returned <+: r'.returned) : r'.Orderly := by
  have hgroups : r'.groups = r.groups := by rw [groups, groups, hcompleted, hflying, hbuilder]
  refine ⟨hbuilder ▸ h.ready, hwriting, ?_, ?_, ?_, ?_, ?_, ?_⟩
  · rw [hencoding, hflushed, hflying]
    exact h.encodingSeqno
  · rw [hcompleted, hflushed]
    exact h.flushedSeqno
  · rw [haccepted, hgroups]
    exact h.accepted
  · rw [hflying, hsucceeded, hfailed]
    exact h.counted
  · rw [hwaits]
    intro wait hwait
    rw [Covered, hgroups]
    exact h.waits wait hwait
  · rw [hfinished]
    intro f hf htrue
    obtain ⟨rest, heq⟩ := hreturned
    rw [← heq, List.flatMap_append]
    exact (h.finished f hf htrue).trans (List.prefix_append _ _)

/-- All that the reports and spans depend on. -/
def shared (r : AutoRecorder Span) : AutoRecorder Span :=
  {r with writer := .looping, writeExit := false, maxBufferedSpansSnapshot := 0}

theorem Orderly.of_shared {r r' : AutoRecorder Span} (h : r.Orderly) (hshared : r'.shared = r.shared)
    (hwriting : r'.Writing) : r'.Orderly := by
  have heq : ∀ {α : Type} (f : AutoRecorder Span → α), f r'.shared = f r.shared := fun f => congrArg f hshared
  have hreturned : r'.returned = r.returned := heq returned
  exact h.of_eq hwriting (heq builder) (heq AutoRecorder.encodingSeqno) (heq AutoRecorder.flushedSeqno) (heq flying)
    (heq completed) (heq AutoRecorder.accepted) (heq succeeded) (heq failed) (heq AutoRecorder.waits)
    (heq AutoRecorder.finished) (hreturned ▸ List.prefix_refl _)

/-! ### The critical sections -/

theorem recordSpan_orderly {r : AutoRecorder Span} (h : r.Orderly) (span : Span) :
    ({r with recorded := span :: r.recorded}.recordSpan span).Orderly ∧
      Ledger.Steps r.ledger ({r with recorded := span :: r.recorded}.recordSpan span).ledger := by
  unfold recordSpan
  dsimp only
  split
  · exact ⟨h.of_eq (h.writing.of_eq rfl rfl rfl rfl rfl) rfl rfl rfl rfl rfl rfl rfl rfl rfl rfl
      (List.prefix_refl _), .refuse r.ledger span⟩
  · obtain ⟨hready, hspans⟩ := h.ready.addSpan span
    refine ⟨⟨hready, h.writing.of_eq rfl rfl rfl rfl rfl, h.encodingSeqno, h.flushedSeqno, ?_, h.counted, ?_,
      h.finished⟩, ?_⟩
    · show r.accepted ++ [span] = (_ ++ [(r.builder.addSpan span).pending.spans]).flatten
      rw [h.accepted, hspans, groups, List.flatten_append, List.flatten_append, List.flatten_singleton,
        List.flatten_singleton, List.append_assoc]
    · intro wait hwait
      have hgroups : wait.accepted <+: (r.groups.take wait.waitSeq).flatten := h.waits wait hwait
      show wait.accepted <+: ((_ ++ [(r.builder.addSpan span).pending.spans]).take wait.waitSeq).flatten
      rw [hspans]
      exact hgroups.trans (take_last_isPrefix _ _ span _)
    · have hledger : ({r with recorded := span :: r.recorded, builder := r.builder.addSpan span,
                              accepted := r.accepted ++ [span]} : AutoRecorder Span).ledger =
          {r.ledger with offered := span ::ₘ r.ledger.offered, pending := span ::ₘ r.ledger.pending} := by
        unfold ledger
        rw [hspans]
        congr 1
        rw [← Multiset.coe_add, Multiset.add_comm]
        rfl
      rw [hledger]
      exact .enter r.ledger span

/-- With nothing pending and nothing begun, every span accepted is in a report that has returned. -/
theorem flushWithTimeout_orderly {r : AutoRecorder Span} (h : r.Orderly) : r.flushWithTimeout.Orderly := by
  have hlast : r.groups.length = r.encodingSeqno := by
    rw [groups, List.length_append, List.length_map, List.length_append, List.length_singleton, h.flushedSeqno,
      h.encodingSeqno]
    omega
  have hsame : ∀ {waits : List (FlushWait Span)}, (∀ wait ∈ waits, r.Covered wait) →
      ({r with waits := waits} : AutoRecorder Span).Orderly := fun hwaits =>
    ⟨h.ready, h.writing.of_eq rfl rfl rfl rfl rfl, h.encodingSeqno, h.flushedSeqno, h.accepted, h.counted, hwaits,
      h.finished⟩
  by_cases hpending : r.builder.numPendingSpans = 0
  · have hnil : r.builder.pending.spans = [] := List.eq_nil_of_length_eq_zero hpending
    have haccepted : r.accepted = ((r.completed ++ r.flying).map ReportMessage.spans).flatten := by
      rw [h.accepted, groups, hnil, List.flatten_append, List.flatten_singleton, List.append_nil]
    by_cases hidle : r.encodingSeqno = 1 + r.flushedSeqno
    · have hflush : r.flushWithTimeout = {r with finished := ⟨true, r.accepted⟩ :: r.finished} :=
        if_pos ⟨not_not.mpr hpending, hidle⟩
      have hflying : r.flying = [] := List.eq_nil_of_length_eq_zero (by
        have := h.encodingSeqno
        omega)
      rw [hflush]
      refine ⟨h.ready, h.writing.of_eq rfl rfl rfl rfl rfl, h.encodingSeqno, h.flushedSeqno, h.accepted, h.counted,
        h.waits, ?_⟩
      intro f hf htrue
      rcases List.mem_cons.mp hf with rfl | hf
      · have hreturned : r.completed.flatMap ReportMessage.spans <+: r.returned.flatMap ReportMessage.spans := by
          obtain ⟨rest, heq⟩ := h.writing.completed_isPrefix
          rw [← heq, List.flatMap_append]
          exact List.prefix_append _ _
        rw [hflying, List.append_nil] at haccepted
        show r.accepted <+: _
        rw [haccepted]
        exact hreturned
      · exact h.finished f hf htrue
    · have hflush : r.flushWithTimeout = {r with waits := r.waits ++ [⟨r.encodingSeqno - 1, r.accepted⟩]} := by
        unfold flushWithTimeout
        simp only [hpending, ne_eq, not_true_eq_false, not_false_eq_true, true_and, hidle, if_false]
      rw [hflush]
      refine hsame fun wait hwait => ?_
      rcases List.mem_append.mp hwait with hwait | hwait
      · exact h.waits wait hwait
      · rw [List.mem_singleton.mp hwait]
        have hfront : ((r.completed ++ r.flying).map ReportMessage.spans).length = r.encodingSeqno - 1 := by
          rw [groups, List.length_append, List.length_singleton] at hlast
          omega
        show r.accepted <+: (r.groups.take (r.encodingSeqno - 1)).flatten
        rw [haccepted, groups, List.take_left' hfront]
  · have hflush : r.flushWithTimeout = {r with waits := r.waits ++ [⟨r.encodingSeqno - 0, r.accepted⟩]} := by
      unfold flushWithTimeout
      simp only [hpending, ne_eq, not_false_eq_true, not_true_eq_false, false_and, if_false, if_true]
    rw [hflush]
    refine hsame fun wait hwait => ?_
    rcases List.mem_append.mp hwait with hwait | hwait
    · exact h.waits wait hwait
    · rw [List.mem_singleton.mp hwait]
      show r.accepted <+: (r.groups.take (r.encodingSeqno - 0)).flatten
      rw [Nat.sub_zero, ← hlast, List.take_length, h.accepted]

/-- When the number a flush waits for has been completed, all it knew of has returned. -/
theorem flushReturns_accepted {r : AutoRecorder Span} (h : r.Orderly) {wait : FlushWait Span}
    (hcovered : r.Covered wait) (htrue : r.flushReturns wait = true) :
    wait.accepted <+: r.returned.flatMap ReportMessage.spans := by
  have hle : wait.waitSeq ≤ r.completed.length := by
    unfold flushReturns at htrue
    rw [h.flushedSeqno]
    by_contra hlt
    simp [hlt] at htrue
  have hgroups : r.groups.take wait.waitSeq = (r.completed.map ReportMessage.spans).take wait.waitSeq := by
    rw [groups, List.map_append, List.append_assoc, List.take_append_of_le_length]
    rw [List.length_map]
    exact hle
  have hcovered : wait.accepted <+: (r.groups.take wait.waitSeq).flatten := hcovered
  rw [hgroups] at hcovered
  have hreturned : r.completed.map ReportMessage.spans <+: r.returned.map ReportMessage.spans :=
    h.writing.completed_isPrefix.map _
  exact hcovered.trans (flatten_isPrefix ((List.take_prefix _ _).trans hreturned))

theorem beginReport_orderly {r : AutoRecorder Span} (h : r.Orderly) (hwriter : r.writer = .flushing) :
    r.beginReport.Orderly ∧ Ledger.Steps r.ledger r.beginReport.ledger := by
  obtain ⟨hflying, hinflight, hreturned⟩ := h.writing.atPhase hwriter
  unfold beginReport
  dsimp only
  split
  · exact ⟨h.of_eq (.none hflying hinflight hreturned (.inl rfl)) rfl rfl rfl rfl rfl rfl rfl rfl rfl rfl
      (List.prefix_refl _), .refl⟩
  · rename_i hpending
    obtain ⟨hready, hpending', hreport⟩ := h.ready.swapPending hpending r.droppedSpans hinflight
    generalize (r.builder.setPendingClientDroppedSpans r.droppedSpans).swapPending r.inflight = swapped
      at hready hpending' hreport
    obtain ⟨builder, report⟩ := swapped
    have hempty : builder.pending.spans = [] := (congrArg ReportMessage.spans hpending').trans hinflight
    have hspans : report.spans = r.builder.pending.spans := hreport.spans
    -- the pending group becomes the group of the report, and an empty one follows
    have hgroups : (r.completed ++ (r.flying ++ [report])).map ReportMessage.spans ++ [builder.pending.spans] =
        r.groups ++ [[]] := by
      rw [groups, hempty, ← List.append_assoc, List.map_append, List.map_singleton, hspans]
    refine ⟨⟨hready, ?_, ?_, h.flushedSeqno, ?_, ?_, ?_, h.finished⟩, ?_⟩
    · refine .sending _ _ ?_ hreturned (congrArg List.length hspans.symm) hreport.numDroppedSpans_eq.symm (.inl rfl)
      show r.flying ++ [report] = [report]
      rw [hflying]
      rfl
    · show r.encodingSeqno + 1 = r.flushedSeqno + 1 + (r.flying ++ [report]).length
      rw [h.encodingSeqno, List.length_append, List.length_singleton]
      rfl
    · show r.accepted = (_ ++ [builder.pending.spans]).flatten
      rw [hgroups, List.flatten_append, h.accepted]
      exact (List.append_nil _).symm
    · intro m hm
      have hm : m ∈ (r.flying ++ [report]) ++ r.succeeded ++ r.failed := hm
      rw [List.append_assoc, List.append_assoc, List.mem_append, List.mem_append] at hm
      rcases hm with hm | hm | hm
      · exact h.counted m (by rw [List.append_assoc]; exact List.mem_append_left _ hm)
      · rw [List.mem_singleton.mp hm]
        exact ⟨_, hreport.counts⟩
      · exact h.counted m (by rw [List.append_assoc]; exact List.mem_append_right _ hm)
    · intro wait hwait
      show wait.accepted <+: ((_ ++ [builder.pending.spans]).take wait.waitSeq).flatten
      rw [hgroups]
      exact (h.waits wait hwait).trans (take_append_isPrefix _ _ _)
    · have hledger : ∀ r' : AutoRecorder Span, r'.builder = builder → r'.flying = r.flying ++ [report] →
          r'.recorded = r.recorded → r'.rejected = r.rejected → r'.succeeded = r.succeeded → r'.failed = r.failed →
          r'.droppedSpans = 0 → r'.ledger = {r.ledger with
            pending := 0
            flying := ⟨r.builder.pending.spans, r.droppedSpans⟩ ::ₘ r.ledger.flying
            debt := 0} := by
        intro r' hbuilder hflying' hrecorded hrejected hsucceeded hfailed hdropped
        unfold ledger
        rw [hbuilder, hflying', hrecorded, hrejected, hsucceeded, hfailed, hdropped, hempty, hflying, List.nil_append,
          List.map_singleton, hreport.batch_eq]
        rfl
      refine Eq.mpr (congrArg (Ledger.Steps r.ledger) (hledger _ ?_ ?_ ?_ ?_ ?_ ?_ ?_)) (.hand r.ledger)
      all_goals rfl

/-- The recorder whose report has ended, before it is told how. -/
def ended (r : AutoRecorder Span) : AutoRecorder Span :=
  {r with flushedSeqno := r.flushedSeqno + 1, inflight := .empty, writer := .looping,
          flying := r.flying.dropLast, completed := r.completed ++ [r.inflight]}

/-- The group of the report that ends is completed, however it ends. -/
theorem ended_groups {r : AutoRecorder Span} (hflying : r.flying = [r.inflight]) : r.ended.groups = r.groups := by
  show ((r.completed ++ [r.inflight]) ++ r.flying.dropLast).map ReportMessage.spans ++ [r.builder.pending.spans] = _
  rw [groups, hflying]
  simp only [List.dropLast_singleton, List.append_nil]

theorem Orderly.ended {r : AutoRecorder Span} (h : r.Orderly) (hflying : r.flying = [r.inflight])
    (hreturned : r.returned = r.completed ++ [r.inflight]) {succeeded failed : List (ReportMessage Span)}
    (hreports : ∀ m ∈ succeeded ++ failed, m = r.inflight ∨ m ∈ r.succeeded ++ r.failed)
    (metricsObserver : MetricsObserver) (droppedSpans : Nat) :
    Orderly {r.ended with succeeded := succeeded, failed := failed, metricsObserver := metricsObserver,
                          droppedSpans := droppedSpans} := by
  have hnone : r.flying.dropLast = [] := by
    rw [hflying]
    rfl
  have hinflight : Counted r.inflight := h.counted _ (by
    rw [hflying, List.append_assoc]
    exact List.mem_cons_self ..)
  refine ⟨h.ready, .none hnone rfl hreturned (.inl rfl), ?_, ?_, ?_, ?_, ?_, h.finished⟩
  · show r.encodingSeqno = r.flushedSeqno + 1 + 1 + r.flying.dropLast.length
    rw [h.encodingSeqno, hflying]
    rfl
  · show (r.completed ++ [r.inflight]).length = r.flushedSeqno + 1
    rw [List.length_append, h.flushedSeqno]
    rfl
  · show r.accepted = r.ended.groups.flatten
    rw [ended_groups hflying]
    exact h.accepted
  · intro m hm
    have hm : m ∈ r.flying.dropLast ++ succeeded ++ failed := hm
    rw [hnone, List.append_assoc] at hm
    rcases hreports m hm with rfl | hm
    · exact hinflight
    · exact h.counted m (by rw [List.append_assoc]; exact List.mem_append_right _ hm)
  · intro wait hwait
    show wait.accepted <+: (r.ended.groups.take wait.waitSeq).flatten
    rw [ended_groups hflying]
    exact h.waits wait hwait

theorem completeReport_orderly {r : AutoRecorder Span} (h : r.Orderly) {success : Bool} {savePending saveDropped : Nat}
    (hwriter : r.writer = .completing success savePending saveDropped) :
    (r.completeReport success savePending saveDropped).Orderly ∧
      Ledger.Steps r.ledger (r.completeReport success savePending saveDropped).ledger := by
  obtain ⟨hflying, hreturned, hpending, hdropped⟩ := h.writing.atPhase hwriter
  have hledger : r.ledger.flying = r.inflight.batch ::ₘ 0 := by
    unfold ledger
    rw [hflying]
    rfl
  have hnone : r.flying.dropLast = [] := by
    rw [hflying]
    rfl
  cases success with
  | true =>
    have hreports : ∀ m ∈ (r.inflight :: r.succeeded) ++ r.failed, m = r.inflight ∨ m ∈ r.succeeded ++ r.failed :=
      fun m hm => List.mem_cons.mp hm
    refine ⟨h.ended hflying hreturned hreports _ _, ?_⟩
    have hdeliver := Ledger.Step.deliver r.ledger hledger
    unfold completeReport
    simp only [if_true]
    unfold ledger at hdeliver ⊢
    rw [hnone]
    exact .single hdeliver
  | false =>
    have hreports : ∀ m ∈ r.succeeded ++ r.inflight :: r.failed, m = r.inflight ∨ m ∈ r.succeeded ++ r.failed := by
      intro m hm
      rcases List.mem_append.mp hm with hm | hm
      · exact .inr (List.mem_append_left _ hm)
      · exact (List.mem_cons.mp hm).imp_right (List.mem_append_right _)
    refine ⟨h.ended hflying hreturned hreports _ _, ?_⟩
    have hdebt : r.droppedSpans + (saveDropped + savePending) =
        r.droppedSpans + r.inflight.batch.reported + r.inflight.batch.items.card := by
      rw [hpending, hdropped, ← Nat.add_assoc]
      rfl
    have hlose := Ledger.Step.lose r.ledger hledger
    unfold completeReport
    simp only [Bool.false_eq_true, if_false]
    unfold ledger at hlose ⊢
    rw [hnone, hdebt]
    exact .single hlose

/-! ### Every step -/

theorem Writing.exit {r : AutoRecorder Span} (h : r.Writing) (hwriter : r.writer = .exiting) :
    ({r.makeWriterExit with writer := .exited} : AutoRecorder Span).Writing := by
  rcases h.atPhase hwriter with ⟨hflying, hinflight, hreturned⟩ | ⟨hflying, hreturned⟩
  · exact .none hflying hinflight hreturned (.inr (.inr (.inr (.inr rfl))))
  · exact .abandoned hflying hreturned (.inr rfl)

theorem writeReturns_orderly {r : AutoRecorder Span} (h : r.Orderly) {savePending saveDropped : Nat}
    (hphase : r.AtPhase (.writing savePending saveDropped)) (success : Bool) :
    (r.writeReturns success savePending saveDropped).Orderly := by
  obtain ⟨hflying, hreturned, hpending, hdropped⟩ := hphase
  have hreturned' : (r.writeReturns success savePending saveDropped).returned = r.completed ++ [r.inflight] := by
    show r.returned ++ [r.inflight] = _
    rw [hreturned]
  exact h.of_eq (.sent success savePending saveDropped hflying hreturned' hpending hdropped rfl) rfl rfl rfl rfl rfl rfl
    rfl rfl rfl rfl (List.prefix_append _ _)

/-- `Send` returns, with an error or with commands to go through. -/
theorem sendReturns_orderly {r r' : AutoRecorder Span} (h : r.Orderly) {response : Option ReportResponse}
    (hstep : r.step (.sendReturns response) = some r') : r'.Orderly ∧ r'.ledger = r.ledger := by
  simp only [step] at hstep
  split at hstep
  · rename_i savePending saveDropped hwriter
    have hphase := h.writing.atPhase hwriter
    split at hstep <;> cases hstep
    · exact ⟨writeReturns_orderly h hphase false, rfl⟩
    · obtain ⟨hflying, hreturned, hpending, hdropped⟩ := hphase
      exact ⟨h.of_shared rfl (.sending savePending saveDropped hflying hreturned hpending hdropped (.inr ⟨_, rfl⟩)), rfl⟩
  · cases hstep

/-- One command of a response; after the last one the report has succeeded. -/
theorem command_orderly {r r' : AutoRecorder Span} (h : r.Orderly) (hstep : r.step .command = some r') :
    r'.Orderly ∧ r'.ledger = r.ledger := by
  simp only [step] at hstep
  split at hstep
  · rename_i savePending saveDropped hwriter
    cases hstep
    have hphase : r.AtPhase (.disabling [] savePending saveDropped) := h.writing.atPhase hwriter
    exact ⟨writeReturns_orderly h hphase true, rfl⟩
  · rename_i command commands savePending saveDropped hwriter
    cases hstep
    obtain ⟨hflying, hreturned, hpending, hdropped⟩ := h.writing.atPhase hwriter
    cases hdisable : command.disable with
    | true =>
      exact ⟨h.of_shared rfl (.sending savePending saveDropped hflying hreturned hpending hdropped (.inr ⟨_, rfl⟩)), rfl⟩
    | false =>
      exact ⟨h.of_shared rfl (.sending savePending saveDropped hflying hreturned hpending hdropped (.inr ⟨_, rfl⟩)), rfl⟩
  · cases hstep

theorem step_orderly {r r' : AutoRecorder Span} {e : AutoEvent Span} (h : r.Orderly) (hstep : r.step e = some r') :
    r'.Orderly ∧ Ledger.Steps r.ledger r'.ledger := by
  cases e with
  | recordSpan span =>
    cases hstep
    exact recordSpan_orderly h span
  | flushWithTimeout =>
    cases hstep
    refine ⟨flushWithTimeout_orderly h, ?_⟩
    unfold flushWithTimeout
    dsimp only
    split <;> exact .refl
  | flushReturns index =>
    obtain ⟨wait, hwait, rfl⟩ := Option.map_eq_some_iff.mp hstep
    refine ⟨⟨h.ready, h.writing.of_eq rfl rfl rfl rfl rfl, h.encodingSeqno, h.flushedSeqno, h.accepted, h.counted,
      fun w hw => h.waits w (List.mem_of_mem_eraseIdx hw), ?_⟩, .refl⟩
    intro f hf htrue
    rcases List.mem_cons.mp hf with rfl | hf
    · exact flushReturns_accepted h (h.waits wait (List.mem_of_getElem? hwait)) htrue
    · exact h.finished f hf htrue
  | waitForNextWrite maxBufferedSpans =>
    obtain ⟨hwriter, heq⟩ := Option.ite_none_right_eq_some.mp hstep
    cases heq
    obtain ⟨hflying, hinflight, hreturned⟩ := h.writing.atPhase hwriter
    exact ⟨h.of_shared rfl (.none hflying hinflight hreturned (.inr (.inl rfl))), .refl⟩
  | wake =>
    obtain ⟨hwriter, heq⟩ := Option.ite_none_right_eq_some.mp hstep
    cases heq
    obtain ⟨hflying, hinflight, hreturned⟩ := h.writing.atPhase hwriter
    refine ⟨h.of_shared rfl (.none hflying hinflight hreturned ?_), .refl⟩
    show (if r.writeExit = true then WriterPhase.exited else .flushing) = .looping ∨ _
    cases r.writeExit <;> simp
  | beginReport =>
    obtain ⟨hwriter, heq⟩ := Option.ite_none_right_eq_some.mp hstep
    cases heq
    exact beginReport_orderly h hwriter
  | sendReturns response =>
    obtain ⟨horderly, hledger⟩ := sendReturns_orderly h hstep
    exact ⟨horderly, hledger ▸ .refl⟩
  | sendThrows =>
    simp only [step] at hstep
    split at hstep <;> cases hstep
    rename_i savePending saveDropped hwriter
    obtain ⟨hflying, hreturned, -, -⟩ := h.writing.atPhase hwriter
    exact ⟨h.of_shared rfl (.abandoned hflying hreturned (.inl rfl)), .refl⟩
  | command =>
    obtain ⟨horderly, hledger⟩ := command_orderly h hstep
    exact ⟨horderly, hledger ▸ .refl⟩
  | completeReport =>
    simp only [step] at hstep
    split at hstep <;> cases hstep
    rename_i success savePending saveDropped hwriter
    exact completeReport_orderly h hwriter
  | writeThrows =>
    obtain ⟨hwriter, heq⟩ := Option.ite_none_right_eq_some.mp hstep
    cases heq
    obtain ⟨hflying, hinflight, hreturned⟩ : r.AtPhase .looping := hwriter.elim h.writing.atPhase h.writing.atPhase
    exact ⟨h.of_shared rfl (.none hflying hinflight hreturned (.inr (.inr (.inr (.inl rfl))))), .refl⟩
  | exit =>
    obtain ⟨hwriter, heq⟩ := Option.ite_none_right_eq_some.mp hstep
    cases heq
    exact ⟨h.of_shared rfl (h.writing.exit hwriter), .refl⟩
  | destroy =>
    cases hstep
    exact ⟨h.of_shared rfl (h.writing.of_eq rfl rfl rfl rfl rfl), .refl⟩

theorem run_orderly {preamble : Preamble} {maxBufferedSpans : Nat} {events : List (AutoEvent Span)}
    {r : AutoRecorder Span} (hrun : (machine Span).run (new preamble maxBufferedSpans) events = some r) :
    r.Orderly ∧ r.ledger.Balanced :=
  (machine Span).run_invariant (I := fun r => r.Orderly ∧ r.ledger.Balanced)
    (fun _ _ _ hI hstep => by
      obtain ⟨hr, hsteps⟩ := step_orderly hI.1 hstep
      exact ⟨hr, hsteps.balanced hI.2⟩)
    events (new preamble maxBufferedSpans) r ⟨new_orderly preamble maxBufferedSpans, Ledger.empty_balanced⟩ hrun

theorem Writing.flying_length_le {r : AutoRecorder Span} (h : r.Writing) : r.flying.length ≤ 1 := by
  cases h with
  | none hflying => rw [hflying]; exact Nat.zero_le 1
  | sending _ _ hflying => rw [hflying]; exact Nat.le_refl 1
  | sent _ _ _ hflying => rw [hflying]; exact Nat.le_refl 1
  | abandoned hflying => rw [hflying]; exact Nat.le_refl 1

/-! ### Accounting -/

/-- Every span recorded is in one place, every drop is counted, under way or reported once, and every
report tells of the drops in one count. -/
structure Accounted (r : AutoRecorder Span) : Prop where
  single : r.flying.length ≤ 1
  spans : r.recorded.Perm (r.builder.pending.spans ++ r.flying.flatMap ReportMessage.spans ++
    r.succeeded.flatMap ReportMessage.spans ++ r.failed.flatMap ReportMessage.spans ++ r.rejected)
  numSpans : r.recorded.length = r.builder.numPendingSpans + (r.flying.flatMap ReportMessage.spans).length +
    (r.succeeded.flatMap ReportMessage.spans).length + (r.failed.flatMap ReportMessage.spans).length +
    r.rejected.length
  droppedSpans : r.droppedSpans + (r.flying.map ReportMessage.numDroppedSpans).sum +
    (r.succeeded.map ReportMessage.numDroppedSpans).sum =
      r.rejected.length + (r.failed.flatMap ReportMessage.spans).length
  counted : ∀ m ∈ r.flying ++ r.succeeded ++ r.failed, ∃ k, m.counts = [⟨ReportMessage.spansDropped, k⟩]

theorem Orderly.accounted {r : AutoRecorder Span} (h : r.Orderly) (hbalanced : r.ledger.Balanced) :
    r.Accounted := by
  have hspans : r.recorded.Perm (r.builder.pending.spans ++ r.flying.flatMap ReportMessage.spans ++
      r.succeeded.flatMap ReportMessage.spans ++ r.failed.flatMap ReportMessage.spans ++ r.rejected) := by
    have hitems := hbalanced.items
    simp only [ledger, ReportMessage.items_map_batch, zero_add, Multiset.coe_add] at hitems
    exact Multiset.coe_eq_coe.mp hitems
  refine ⟨h.writing.flying_length_le, hspans, ?_, ?_, h.counted⟩
  · have hlength := hspans.length_eq
    simp only [List.length_append] at hlength
    exact hlength
  · have hlosses := hbalanced.losses
    simp only [ledger, ReportMessage.items_map_batch, ReportMessage.reported_map_batch, Multiset.coe_card] at hlosses
    exact hlosses

/-- **Accounting**, in any interleaving and however `Send` ends. -/
theorem autoRun_accounted {preamble : Preamble} {maxBufferedSpans : Nat} {events : List (AutoEvent Span)}
    {r : AutoRecorder Span}
    (hrun : (machine Span).run (new preamble maxBufferedSpans) events = some r) : r.Accounted := by
  obtain ⟨horderly, hbalanced⟩ := run_orderly hrun
  exact horderly.accounted hbalanced

/-- A limit of one span: while the first report is sent one span is accepted and one dropped, the
report fails, and the next one begins. -/
def failing : List (AutoEvent Nat) :=
  [.recordSpan 7, .waitForNextWrite 1, .wake, .beginReport, .recordSpan 8, .recordSpan 9, .sendReturns none,
    .completeReport, .waitForNextWrite 1, .wake, .beginReport]

theorem autoFailing_accounted : ∃ r, (machine Nat).run (new ⟨1, [], []⟩ 1) failing = some r ∧
    (r.recorded, r.rejected, r.droppedSpans) = ([9, 8, 7], [9], 0) ∧ r.Accounted := by
  have hsome : ((machine Nat).run (new ⟨1, [], []⟩ 1) failing).map
      (fun r => (r.recorded, r.rejected, r.droppedSpans)) = some ([9, 8, 7], [9], 0) := by
    decide +kernel
  obtain ⟨r, hrun, hr⟩ := Option.map_eq_some_iff.mp hsome
  exact ⟨r, hrun, hr, autoRun_accounted hrun⟩

/-! ### The promise of a flush -/

/-- **A flush that returns true** has found every span accepted before it took the lock in a report
whose `WriteReport` returned; and the numbers tell whether a report is in flight. -/
theorem flush_promise {preamble : Preamble} {maxBufferedSpans : Nat} {events : List (AutoEvent Span)}
    {r : AutoRecorder Span} (hrun : (machine Span).run (new preamble maxBufferedSpans) events = some r) :
    (∀ f ∈ r.finished, f.result = true → f.accepted <+: r.returned.flatMap ReportMessage.spans) ∧
      r.encodingSeqno = r.flushedSeqno + if r.flying = [] then 1 else 2 := by
  obtain ⟨horderly, -⟩ := run_orderly hrun
  refine ⟨horderly.finished, ?_⟩
  have hencoding := horderly.encodingSeqno
  have hle := horderly.writing.flying_length_le
  split
  · rename_i hnone
    rw [hnone] at hencoding
    exact hencoding
  · rename_i hsome
    have hpos := List.length_pos_of_ne_nil hsome
    omega

/-- A flush that waits for a span that is in flight and one that is pending. -/
def flushing : List (AutoEvent Nat) :=
  [.recordSpan 7, .waitForNextWrite 1, .wake, .beginReport, .recordSpan 8, .flushWithTimeout, .sendReturns none,
    .completeReport, .waitForNextWrite 1, .wake, .beginReport, .sendReturns (some ⟨[]⟩), .command, .completeReport,
    .flushReturns 0]

theorem flushing_promise : ∃ r, (machine Nat).run (new ⟨1, [], []⟩ 1) flushing = some r ∧
    r.finished.map (fun f => (f.result, f.accepted)) = [(true, [7, 8])] ∧
    (∀ f ∈ r.finished, f.result = true → f.accepted <+: r.returned.flatMap ReportMessage.spans) ∧
    r.encodingSeqno = r.flushedSeqno + if r.flying = [] then 1 else 2 := by
  have hsome : ((machine Nat).run (new ⟨1, [], []⟩ 1) flushing).map
      (fun r => r.finished.map fun f => (f.result, f.accepted)) = some [(true, [7, 8])] := by
    decide +kernel
  obtain ⟨r, hrun, hr⟩ := Option.map_eq_some_iff.mp hsome
  exact ⟨r, hrun, hr, flush_promise hrun⟩

end AutoRecorder
end Lightstep.Recorder

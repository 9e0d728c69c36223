import Lightstep.Recorder.LegacyManualRecorder

/-! What the legacy recorder keeps account of.

The recorder refines a ledger: a report that is sent opens a batch with the spans
and the drops it tells of, and its answer delivers the batch or loses it. As long
as `Send` does not throw, at most one report is under way and the ledger's debt
is what the recorder counts as dropped. A `Send` that throws leaves the report in
progress for good. -/
namespace Lightstep.Recorder
open Library

namespace LegacyManualRecorder
variable {Span : Type}

/-! ### The calls -/

/-- The recorder that has made a report of the pending spans. -/
def handed (m : MetricsObserver) (r : LegacyManualRecorder Span) : LegacyManualRecorder Span :=
  let swapped := (r.builder.setPendingClientDroppedSpans r.droppedSpans).swapPending r.activeRequest
  {r with metricsObserver := m, savedPendingSpans := r.builder.numPendingSpans, savedDroppedSpans := r.droppedSpans,
          droppedSpans := 0, builder := swapped.1, activeRequest := swapped.2, encodingSeqno := r.encodingSeqno + 1}

/-- `Send` has the report and has not answered. -/
def sent (m : MetricsObserver) (outcome : SendOutcome) (r : LegacyManualRecorder Span) : LegacyManualRecorder Span :=
  {r.handed m with unanswered := (r.handed m).activeRequest :: r.unanswered
                   sends := ⟨(r.handed m).activeRequest, outcome⟩ :: r.sends}

/-- What the handler of an exception makes of it. -/
def thrown (r : LegacyManualRecorder Span) : LegacyManualRecorder Span :=
  {r with metricsObserver := {r.metricsObserver with
            spansDropped := r.metricsObserver.spansDropped + r.savedPendingSpans}
          droppedSpans := r.droppedSpans + r.savedPendingSpans
          activeRequest := .empty}

/-- A flush does nothing, or sends one report. -/
theorem flushOne_cases (outcome : SendOutcome) (r : LegacyManualRecorder Span) : ∃ m,
    (r.isReportInProgress = true ∧ (r.flushOne outcome).1 = {r with metricsObserver := m}) ∨
    (r.isReportInProgress = false ∧ r.builder.numPendingSpans = 0 ∧
      (r.flushOne outcome).1 = {r with metricsObserver := m, savedPendingSpans := 0}) ∨
    (r.isReportInProgress = false ∧ r.builder.numPendingSpans ≠ 0 ∧
      (r.flushOne outcome).1 =
        if outcome.throws then ((r.handed m).send outcome).thrown else (r.handed m).send outcome) := by
  cases hprogress : r.isReportInProgress with
  | true =>
    refine ⟨{r.metricsObserver with flushes := r.metricsObserver.flushes + 1}, .inl ⟨rfl, ?_⟩⟩
    unfold flushOne
    exact congrArg Prod.fst (if_pos hprogress)
  | false =>
    have hnot : ¬ r.isReportInProgress = true := by rw [hprogress]; decide
    by_cases hpending : r.builder.numPendingSpans = 0
    · refine ⟨{r.metricsObserver with flushes := r.metricsObserver.flushes + 1}, .inr (.inl ⟨rfl, hpending, ?_⟩)⟩
      unfold flushOne
      refine (congrArg Prod.fst ((if_neg hnot).trans (if_pos hpending))).trans ?_
      rw [hpending]
    · refine ⟨{r.metricsObserver with
          flushes := r.metricsObserver.flushes + 1
          spansSent := r.metricsObserver.spansSent + r.builder.numPendingSpans}, .inr (.inr ⟨rfl, hpending, ?_⟩)⟩
      unfold flushOne
      refine (congrArg Prod.fst ((if_neg hnot).trans (if_neg hpending))).trans ?_
      cases outcome.throws <;> rfl

theorem send_eq (m : MetricsObserver) (outcome : SendOutcome) (r : LegacyManualRecorder Span) :
    (r.handed m).send outcome =
      match outcome.answer with
      | none => r.sent m outcome
      | some answer => {r.sent m outcome with unanswered := r.unanswered}.answered (r.handed m).activeRequest answer := by
  unfold send
  cases outcome.answer <;> rfl

/-! ### Keeping account -/

/-- The recorder's ledger; a span whose call is under way may be undecided. -/
def ledger (undecided : Multiset Span) (r : LegacyManualRecorder Span) : Ledger Span where
  offered := r.recorded
  undecided := undecided
  pending := r.builder.pending.spans
  rejected := r.rejected
  flying := r.unanswered.map ReportMessage.batch
  delivered := r.succeeded.map ReportMessage.batch
  lost := r.failed.map ReportMessage.batch
  debt := r.droppedSpans

/-- Between two calls: at most one report is under way, the active request, and what it tells of is saved. -/
structure Orderly (r : LegacyManualRecorder Span) : Prop where
  ready : r.builder.Ready
  seqno : r.encodingSeqno = r.flushedSeqno + 1 + r.unanswered.length
  single : r.unanswered = [] ∨ r.unanswered = [r.activeRequest] ∧
    r.savedPendingSpans = r.activeRequest.spans.length ∧ r.savedDroppedSpans = r.activeRequest.numDroppedSpans
  cleared : r.unanswered = [] → r.activeRequest.spans = []

theorem new_orderly (preamble : Preamble) : (new preamble : LegacyManualRecorder Span).Orderly :=
  ⟨ReportBuilder.new_ready preamble, rfl, .inl rfl, fun _ => rfl⟩

theorem Orderly.isReportInProgress {r : LegacyManualRecorder Span} (h : r.Orderly) :
    r.isReportInProgress = true ↔ r.unanswered ≠ [] := by
  rw [LegacyManualRecorder.isReportInProgress, decide_eq_true_eq, h.seqno, ne_eq, ← List.length_eq_zero_iff]
  omega

theorem Orderly.unanswered_eq_nil {r : LegacyManualRecorder Span} (h : r.Orderly)
    (hprogress : r.isReportInProgress = false) : r.unanswered = [] := by
  by_contra hne
  rw [h.isReportInProgress.mpr hne] at hprogress
  cases hprogress

theorem sent_orderly {r : LegacyManualRecorder Span} (h : r.Orderly) (hnone : r.unanswered = [])
    (hpending : r.builder.numPendingSpans ≠ 0) (m : MetricsObserver) (outcome : SendOutcome) :
    (r.sent m outcome).Orderly ∧ ∀ undecided, Ledger.Steps (r.ledger undecided) ((r.sent m outcome).ledger undecided) := by
  obtain ⟨hready, hspans, hreport⟩ := h.ready.swapPending hpending r.droppedSpans (h.cleared hnone)
  refine ⟨⟨hready, ?_, .inr ⟨?_, ?_, hreport.numDroppedSpans_eq.symm⟩, nofun⟩, fun undecided => ?_⟩
  · show r.encodingSeqno + 1 = r.flushedSeqno + 1 + (r.unanswered.length + 1)
    rw [h.seqno, hnone]
    rfl
  · show _ :: r.unanswered = _
    rw [hnone]
    rfl
  · exact congrArg List.length hreport.spans.symm
  · have hledger : (r.sent m outcome).ledger undecided = {r.ledger undecided with
        pending := 0
        flying := ⟨r.builder.pending.spans, r.droppedSpans⟩ ::ₘ (r.ledger undecided).flying
        debt := 0} := by
      have hpending : (r.sent m outcome).builder.pending.spans = [] :=
        (congrArg ReportMessage.spans hspans).trans (h.cleared hnone)
      have hbatch : (r.handed m).activeRequest.batch = ⟨r.builder.pending.spans, r.droppedSpans⟩ := hreport.batch_eq
      unfold ledger
      rw [hpending]
      simp only [sent, List.map_cons, hbatch]
      rfl
    rw [hledger]
    exact .hand _

/-- The one report that is under way is answered. -/
theorem answered_orderly {r : LegacyManualRecorder Span} (h : r.Orderly) {report : ReportMessage Span}
    (hone : r.unanswered = [report]) (answer : Answer) :
    ({r with unanswered := []}.answered report answer).Orderly ∧
      ∀ undecided,
        Ledger.Steps (r.ledger undecided) (({r with unanswered := []}.answered report answer).ledger undecided) := by
  obtain ⟨hactive, hspans, hdropped⟩ : [report] = [r.activeRequest] ∧
      r.savedPendingSpans = r.activeRequest.spans.length ∧ r.savedDroppedSpans = r.activeRequest.numDroppedSpans := by
    rcases h.single with hnone | hsingle
    · rw [hnone] at hone
      cases hone
    · exact hone ▸ hsingle
  obtain ⟨rfl, -⟩ := List.cons.inj hactive
  have hseqno := h.seqno
  rw [hone] at hseqno
  have hflying : ∀ undecided, (r.ledger undecided).flying = r.activeRequest.batch ::ₘ 0 := by
    intro undecided
    unfold ledger
    rw [hone]
    rfl
  cases answer with
  | success response =>
    exact ⟨⟨h.ready, hseqno, .inl rfl, fun _ => rfl⟩, fun undecided => .single (.deliver _ (hflying undecided))⟩
  | failure =>
    refine ⟨⟨h.ready, hseqno, .inl rfl, fun _ => rfl⟩, fun undecided => ?_⟩
    have hledger : ({r with unanswered := []}.answered r.activeRequest .failure).ledger undecided =
        {r.ledger undecided with
          flying := 0
          lost := r.activeRequest.batch ::ₘ (r.ledger undecided).lost
          debt := r.droppedSpans + (r.savedDroppedSpans + r.savedPendingSpans)} := rfl
    have hdebt : r.droppedSpans + (r.savedDroppedSpans + r.savedPendingSpans) =
        r.droppedSpans + r.activeRequest.batch.reported + r.activeRequest.batch.items.card := by
      rw [hspans, hdropped, ← Nat.add_assoc]
      rfl
    rw [hledger, hdebt]
    exact .single (.lose _ (hflying undecided))

/-- A flush whose `Send` returns keeps account. -/
theorem flushOne_orderly {r : LegacyManualRecorder Span} (h : r.Orderly) {outcome : SendOutcome}
    (hreturns : outcome.throws = false) : (r.flushOne outcome).1.Orderly ∧
      ∀ undecided, Ledger.Steps (r.ledger undecided) ((r.flushOne outcome).1.ledger undecided) := by
  obtain ⟨m, ⟨hprogress, heq⟩ | ⟨hprogress, hpending, heq⟩ | ⟨hprogress, hpending, heq⟩⟩ := r.flushOne_cases outcome
  · rw [heq]
    exact ⟨⟨h.ready, h.seqno, h.single, h.cleared⟩, fun _ => .refl⟩
  · rw [heq]
    have hnone := h.unanswered_eq_nil hprogress
    exact ⟨⟨h.ready, h.seqno, .inl hnone, h.cleared⟩, fun _ => .refl⟩
  · have hnone := h.unanswered_eq_nil hprogress
    obtain ⟨hsent, hsteps⟩ := sent_orderly h hnone hpending m outcome
    rw [heq, hreturns, send_eq]
    simp only [Bool.false_eq_true, if_false]
    cases outcome.answer with
    | none => exact ⟨hsent, hsteps⟩
    | some answer =>
      have hone : (r.sent m outcome).unanswered = [(r.handed m).activeRequest] := by
        show _ :: r.unanswered = _
        rw [hnone]
      obtain ⟨hanswered, hanswers⟩ := answered_orderly hsent hone answer
      have hnil : r.unanswered = [] := hnone
      simp only [hnil]
      exact ⟨hanswered, fun undecided => (hsteps undecided).trans (hanswers undecided)⟩

theorem drop_orderly {r : LegacyManualRecorder Span} (h : r.Orderly) (span : Span) :
    (r.drop span).Orderly := ⟨h.ready, h.seqno, h.single, h.cleared⟩

/-- The span is accepted before a flush that its addition leads to. -/
theorem addSpan_orderly {r : LegacyManualRecorder Span} (h : r.Orderly) (span : Span) (maxBufferedSpans : Nat)
    {outcome : SendOutcome} (hreturns : outcome.throws = false) :
    (r.addSpan span maxBufferedSpans outcome).Orderly ∧
      Ledger.Steps (r.ledger {span}) ((r.addSpan span maxBufferedSpans outcome).ledger 0) := by
  obtain ⟨hready, hspans⟩ := h.ready.addSpan span
  have hadded : {r with builder := r.builder.addSpan span}.Orderly := ⟨hready, h.seqno, h.single, h.cleared⟩
  have hledger : {r with builder := r.builder.addSpan span}.ledger 0 =
      {r.ledger {span} with undecided := 0, pending := span ::ₘ (r.ledger {span}).pending} := by
    unfold ledger
    rw [hspans]
    congr 1
    rw [← Multiset.coe_add, Multiset.add_comm]
    rfl
  have haccept : Ledger.Steps (r.ledger {span}) ({r with builder := r.builder.addSpan span}.ledger 0) := by
    rw [hledger]
    exact .single (.accept _ rfl)
  unfold addSpan
  dsimp only
  split
  · obtain ⟨hflushed, hsteps⟩ := flushOne_orderly hadded hreturns
    exact ⟨hflushed, haccept.trans (hsteps 0)⟩
  · exact ⟨hadded, haccept⟩

/-- The call decides what becomes of a span that has been offered. -/
theorem recordSpan_orderly {r : LegacyManualRecorder Span} (h : r.Orderly) (span : Span) (maxBufferedSpans : Nat)
    {first second : SendOutcome} (hfirst : first.throws = false) (hsecond : second.throws = false) :
    (r.recordSpan span maxBufferedSpans first second).Orderly ∧
      Ledger.Steps (r.ledger {span}) ((r.recordSpan span maxBufferedSpans first second).ledger 0) := by
  have hreject : Ledger.Steps (r.ledger {span}) ((r.drop span).ledger 0) := .single (.reject _ rfl)
  unfold recordSpan
  split
  · exact ⟨drop_orderly h span, hreject⟩
  · split
    · split
      · obtain ⟨hflushed, hflush⟩ := flushOne_orderly h hfirst
        obtain ⟨hadded, hadd⟩ := addSpan_orderly hflushed span maxBufferedSpans hsecond
        exact ⟨hadded, (hflush {span}).trans hadd⟩
      · exact ⟨drop_orderly h span, hreject⟩
    · exact addSpan_orderly h span maxBufferedSpans hsecond

/-- No `Send` of the call throws. -/
def SendsReturn : LegacyCall Span → Prop
  | .recordSpan _ _ first second => first.throws = false ∧ second.throws = false
  | .flushWithTimeout outcome => outcome.throws = false
  | .answer _ _ => True

theorem step_orderly {r r' : LegacyManualRecorder Span} {call : LegacyCall Span} (h : r.Orderly)
    (hreturns : SendsReturn call) (hstep : r.step call = some r') :
    r'.Orderly ∧ Ledger.Steps (r.ledger 0) (r'.ledger 0) := by
  cases call with
  | recordSpan span maxBufferedSpans first second =>
    cases hstep
    have hoffered : {r with recorded := span :: r.recorded}.Orderly := ⟨h.ready, h.seqno, h.single, h.cleared⟩
    have hoffer : Ledger.Steps (r.ledger 0) ({r with recorded := span :: r.recorded}.ledger {span}) :=
      .single (.offer _ span)
    obtain ⟨hrecorded, hsteps⟩ := recordSpan_orderly hoffered span maxBufferedSpans hreturns.1 hreturns.2
    exact ⟨hrecorded, hoffer.trans hsteps⟩
  | flushWithTimeout outcome =>
    cases hstep
    unfold flushWithTimeout
    split
    · exact ⟨h, .refl⟩
    · obtain ⟨hflushed, hsteps⟩ := flushOne_orderly h hreturns
      exact ⟨hflushed, hsteps 0⟩
  | answer index answer =>
    obtain ⟨report, hreport, rfl⟩ := Option.map_eq_some_iff.mp hstep
    rcases h.single with hnone | ⟨hone, -⟩
    · rw [hnone] at hreport
      cases hreport
    · rw [hone] at hreport
      have hindex : index = 0 ∧ r.activeRequest = report := by
        cases index with
        | zero => exact ⟨rfl, Option.some.inj hreport⟩
        | succ n => cases hreport
      obtain ⟨rfl, rfl⟩ := hindex
      have herase : r.unanswered.eraseIdx 0 = [] := by
        rw [hone]
        rfl
      rw [herase]
      obtain ⟨hanswered, hsteps⟩ := answered_orderly h hone answer
      exact ⟨hanswered, hsteps 0⟩

theorem run_orderly {preamble : Preamble} {calls : List (LegacyCall Span)} {r : LegacyManualRecorder Span}
    (hreturns : ∀ call ∈ calls, SendsReturn call) (hrun : (machine Span).run (new preamble) calls = some r) :
    r.Orderly ∧ (r.ledger 0).Balanced := by
  have hguarded := (machine Span).guarded_and_mem ((machine Span).guarded_true calls (new preamble)) hreturns
  exact (machine Span).guarded_invariant (I := fun r => r.Orderly ∧ (r.ledger 0).Balanced)
    (fun r call r' hI hG hstep => by
      obtain ⟨hr, hsteps⟩ := step_orderly hI.1 hG.2 hstep
      exact ⟨hr, hsteps.balanced hI.2⟩)
    calls (new preamble) r ⟨new_orderly preamble, Ledger.empty_balanced⟩ hguarded hrun

/-! ### The law -/

/-- Every span recorded is in one place, and every drop is counted, under way or reported once. -/
structure Accounted (r : LegacyManualRecorder Span) : Prop where
  single : r.unanswered.length ≤ 1
  inProgress : r.isReportInProgress = true ↔ r.unanswered ≠ []
  spans : r.recorded.Perm (r.builder.pending.spans ++ r.unanswered.flatMap ReportMessage.spans ++
    r.succeeded.flatMap ReportMessage.spans ++ r.failed.flatMap ReportMessage.spans ++ r.rejected)
  numSpans : r.recorded.length = r.builder.numPendingSpans + (r.unanswered.flatMap ReportMessage.spans).length +
    (r.succeeded.flatMap ReportMessage.spans).length + (r.failed.flatMap ReportMessage.spans).length +
    r.rejected.length
  droppedSpans : r.droppedSpans + (if r.isReportInProgress then r.savedDroppedSpans else 0) +
    (r.succeeded.map ReportMessage.numDroppedSpans).sum =
      r.rejected.length + (r.failed.flatMap ReportMessage.spans).length

theorem Orderly.accounted {r : LegacyManualRecorder Span} (h : r.Orderly) (hbalanced : (r.ledger 0).Balanced) :
    r.Accounted := by
  have hspans : r.recorded.Perm (r.builder.pending.spans ++ r.unanswered.flatMap ReportMessage.spans ++
      r.succeeded.flatMap ReportMessage.spans ++ r.failed.flatMap ReportMessage.spans ++ r.rejected) := by
    have hitems := hbalanced.items
    simp only [ledger, ReportMessage.items_map_batch, zero_add, Multiset.coe_add] at hitems
    exact Multiset.coe_eq_coe.mp hitems
  have hflying : (r.unanswered.map ReportMessage.numDroppedSpans).sum =
      if r.isReportInProgress then r.savedDroppedSpans else 0 := by
    rcases h.single with hnone | ⟨hone, -, hdropped⟩
    · rw [if_neg (mt h.isReportInProgress.mp (not_not.mpr hnone)), hnone]
      rfl
    · rw [if_pos (h.isReportInProgress.mpr (by rw [hone]; exact List.cons_ne_nil _ _)), hone, hdropped]
      exact List.sum_singleton
  refine ⟨?_, h.isReportInProgress, hspans, ?_, ?_⟩
  · rcases h.single with hnone | ⟨hone, -⟩
    · rw [hnone]
      exact Nat.zero_le 1
    · rw [hone]
      exact Nat.le_refl 1
  · have hlength := hspans.length_eq
    simp only [List.length_append] at hlength
    exact hlength
  · have hlosses := hbalanced.losses
    simp only [ledger, ReportMessage.items_map_batch, ReportMessage.reported_map_batch, Multiset.coe_card] at hlosses
    rw [hflying] at hlosses
    exact hlosses

/-- **Accounting.** After any calls, answers and limits, as long as no `Send` throws. -/
theorem legacyRun_accounted {preamble : Preamble} {calls : List (LegacyCall Span)} {r : LegacyManualRecorder Span}
    (hreturns : ∀ call ∈ calls, SendsReturn call) (hrun : (machine Span).run (new preamble) calls = some r) :
    r.Accounted := by
  obtain ⟨horderly, hbalanced⟩ := run_orderly hreturns hrun
  exact horderly.accounted hbalanced

def somePreamble : Preamble := ⟨1, [], []⟩

/-- A limit of one span: a report that fails, one that is not answered, and a span that is dropped. -/
def failing : List (LegacyCall Nat) :=
  [.recordSpan 7 1 ⟨none, false⟩ ⟨some .failure, false⟩, .recordSpan 8 1 ⟨none, false⟩ ⟨none, false⟩,
    .recordSpan 9 1 ⟨none, false⟩ ⟨none, false⟩, .recordSpan 10 1 ⟨none, false⟩ ⟨none, false⟩]

theorem legacyFailing_accounted : ∃ r, (machine Nat).run (new somePreamble) failing = some r ∧
    (r.recorded, r.rejected, r.droppedSpans) = ([10, 9, 8, 7], [10], 1) ∧ r.Accounted := by
  have hreturns : ∀ call ∈ failing, SendsReturn call := by simp [failing, SendsReturn]
  exact ⟨_, rfl, rfl, legacyRun_accounted hreturns rfl⟩

/-! ### A `Send` that throws -/

/-- The transporter has thrown without a callback. -/
def Threw (t : Transmission Span) : Prop := t.outcome = ⟨none, true⟩

/-- What a failed report leaves: no report in progress, and its spans and its drops counted. -/
structure Recovered (t : Transmission Span) (r : LegacyManualRecorder Span) : Prop where
  isReportInProgress : r.isReportInProgress = false
  droppedSpans : r.droppedSpans = t.report.spans.length + t.report.numDroppedSpans

/-- The numbers count the reports that are under way, whatever the transporter does. -/
def Sequenced (r : LegacyManualRecorder Span) : Prop := r.encodingSeqno = r.flushedSeqno + 1 + r.unanswered.length

theorem Sequenced.isReportInProgress {r : LegacyManualRecorder Span} (h : r.Sequenced) :
    r.isReportInProgress = true ↔ r.unanswered ≠ [] := by
  have h : r.encodingSeqno = r.flushedSeqno + 1 + r.unanswered.length := h
  rw [LegacyManualRecorder.isReportInProgress, decide_eq_true_eq, h, ne_eq, ← List.length_eq_zero_iff]
  omega

/-- From a recorder to what calls other than answers make of it: a report whose `Send` threw is in
progress, and stays so. -/
structure Stuck (r r' : LegacyManualRecorder Span) : Prop where
  sequenced : r'.Sequenced
  sends : ∃ sends, r'.sends = sends ++ r.sends ∧ ∀ t ∈ sends, Threw t → r'.isReportInProgress = true
  stays : r.isReportInProgress = true → r'.isReportInProgress = true

theorem Stuck.of_eq {r r' : LegacyManualRecorder Span} (h : r.Sequenced) (hencoding : r'.encodingSeqno = r.encodingSeqno)
    (hflushed : r'.flushedSeqno = r.flushedSeqno) (hunanswered : r'.unanswered = r.unanswered)
    (hsends : r'.sends = r.sends) : Stuck r r' := by
  refine ⟨?_, ⟨[], hsends, fun t ht => by cases ht⟩, fun hprogress => ?_⟩
  · rw [Sequenced, hencoding, hflushed, hunanswered]
    exact h
  · rw [isReportInProgress, hencoding, hflushed]
    exact hprogress

theorem Stuck.trans {r r' r'' : LegacyManualRecorder Span} (h : Stuck r r') (h' : Stuck r' r'') : Stuck r r'' := by
  obtain ⟨sends, heq, hthrew⟩ := h.sends
  obtain ⟨sends', heq', hthrew'⟩ := h'.sends
  refine ⟨h'.sequenced, ⟨sends' ++ sends, ?_, ?_⟩, fun hprogress => h'.stays (h.stays hprogress)⟩
  · rw [heq', heq, List.append_assoc]
  · intro t ht hthrow
    rcases List.mem_append.mp ht with ht | ht
    · exact hthrew' t ht hthrow
    · exact h'.stays (hthrew t ht hthrow)

/-- The handler of the exception touches neither the numbers nor the reports. -/
theorem thrown_stuck {r r' : LegacyManualRecorder Span} (h : Stuck r r') : Stuck r r'.thrown :=
  h.trans (.of_eq h.sequenced rfl rfl rfl rfl)

theorem send_stuck {r : LegacyManualRecorder Span} (h : r.Sequenced) (hprogress : r.isReportInProgress = false)
    (m : MetricsObserver) (outcome : SendOutcome) : Stuck r ((r.handed m).send outcome) := by
  have h : r.encodingSeqno = r.flushedSeqno + 1 + r.unanswered.length := h
  have hstays : r.isReportInProgress = true → ((r.handed m).send outcome).isReportInProgress = true := by
    intro htrue
    rw [hprogress] at htrue
    cases htrue
  rw [send_eq] at hstays ⊢
  cases hanswer : outcome.answer with
  | none =>
    rw [hanswer] at hstays
    have hsequenced : (r.sent m outcome).Sequenced := by
      show r.encodingSeqno + 1 = r.flushedSeqno + 1 + (r.unanswered.length + 1)
      omega
    exact ⟨hsequenced, ⟨[_], rfl, fun _ _ _ => hsequenced.isReportInProgress.mpr (List.cons_ne_nil _ _)⟩, hstays⟩
  | some answer =>
    rw [hanswer] at hstays
    have hthrew : ∀ t ∈ [(⟨(r.handed m).activeRequest, outcome⟩ : Transmission Span)], ¬ Threw t := by
      intro t ht hthrow
      rw [List.mem_singleton.mp ht] at hthrow
      have hnone := congrArg SendOutcome.answer hthrow
      cases hanswer.symm.trans hnone
    have hsequenced : r.encodingSeqno + 1 = r.flushedSeqno + 1 + 1 + r.unanswered.length := by omega
    cases answer with
    | success response =>
      exact ⟨hsequenced, ⟨[_], rfl, fun t ht hthrow => absurd hthrow (hthrew t ht)⟩, hstays⟩
    | failure => exact ⟨hsequenced, ⟨[_], rfl, fun t ht hthrow => absurd hthrow (hthrew t ht)⟩, hstays⟩

theorem flushOne_stuck {r : LegacyManualRecorder Span} (h : r.Sequenced) (outcome : SendOutcome) :
    Stuck r (r.flushOne outcome).1 := by
  obtain ⟨m, ⟨-, heq⟩ | ⟨-, -, heq⟩ | ⟨hprogress, -, heq⟩⟩ := r.flushOne_cases outcome
  · rw [heq]
    exact .of_eq h rfl rfl rfl rfl
  · rw [heq]
    exact .of_eq h rfl rfl rfl rfl
  · rw [heq]
    have hsend := send_stuck h hprogress m outcome
    split
    · exact thrown_stuck hsend
    · exact hsend

theorem addSpan_stuck {r : LegacyManualRecorder Span} (h : r.Sequenced) (span : Span) (maxBufferedSpans : Nat)
    (outcome : SendOutcome) : Stuck r (r.addSpan span maxBufferedSpans outcome) := by
  have hadded : Stuck r {r with builder := r.builder.addSpan span} := .of_eq h rfl rfl rfl rfl
  unfold addSpan
  dsimp only
  split
  · exact hadded.trans (flushOne_stuck hadded.sequenced outcome)
  · exact hadded

theorem recordSpan_stuck {r : LegacyManualRecorder Span} (h : r.Sequenced) (span : Span) (maxBufferedSpans : Nat)
    (first second : SendOutcome) : Stuck r (r.recordSpan span maxBufferedSpans first second) := by
  have hdropped : Stuck r (r.drop span) := .of_eq h rfl rfl rfl rfl
  unfold recordSpan
  split
  · exact hdropped
  · split
    · split
      · have hflushed := flushOne_stuck h first
        exact hflushed.trans (addSpan_stuck hflushed.sequenced span maxBufferedSpans second)
      · exact hdropped
    · exact addSpan_stuck h span maxBufferedSpans second

/-- What a call sends; an answer sends nothing. -/
theorem step_stuck {r r' : LegacyManualRecorder Span} {call : LegacyCall Span} (h : r.Sequenced)
    (hstep : r.step call = some r') : r'.Sequenced ∧
      ∃ sends, r'.sends = sends ++ r.sends ∧ ∀ t ∈ sends, Threw t → r'.isReportInProgress = true := by
  cases call with
  | recordSpan span maxBufferedSpans first second =>
    cases hstep
    have hoffered : Stuck r {r with recorded := span :: r.recorded} := .of_eq h rfl rfl rfl rfl
    have hstuck := hoffered.trans (recordSpan_stuck hoffered.sequenced span maxBufferedSpans first second)
    exact ⟨hstuck.sequenced, hstuck.sends⟩
  | flushWithTimeout outcome =>
    cases hstep
    unfold flushWithTimeout
    split
    · exact ⟨h, [], rfl, fun t ht => by cases ht⟩
    · have hstuck := flushOne_stuck h outcome
      exact ⟨hstuck.sequenced, hstuck.sends⟩
  | answer index answer =>
    obtain ⟨report, hreport, rfl⟩ := Option.map_eq_some_iff.mp hstep
    obtain ⟨hlt, -⟩ := List.getElem?_eq_some_iff.mp hreport
    have h : r.encodingSeqno = r.flushedSeqno + 1 + r.unanswered.length := h
    have hsequenced : r.encodingSeqno = r.flushedSeqno + 1 + 1 + (r.unanswered.eraseIdx index).length := by
      rw [List.length_eraseIdx, if_pos hlt, h]
      omega
    cases answer with
    | success response => exact ⟨hsequenced, [], rfl, fun t ht => by cases ht⟩
    | failure => exact ⟨hsequenced, [], rfl, fun t ht => by cases ht⟩

/-- **No recovery.** Whatever came before, a `Send` that throws without a callback leaves its report in
progress. -/
theorem threw_not_recovered {preamble : Preamble} {calls : List (LegacyCall Span)} {call : LegacyCall Span}
    {r r' : LegacyManualRecorder Span} (hrun : (machine Span).run (new preamble) calls = some r)
    (hstep : r.step call = some r') {sends : List (Transmission Span)} (hsends : r'.sends = sends ++ r.sends)
    {t : Transmission Span} (ht : t ∈ sends) (hthrew : Threw t) : ¬ Recovered t r' := by
  intro hrecovered
  have hsequenced : r.Sequenced := (machine Span).run_invariant (I := Sequenced)
    (fun _ _ _ hI hstep => (step_stuck hI hstep).1) calls (new preamble) r rfl hrun
  obtain ⟨-, sends', heq, hprogress⟩ := step_stuck hsequenced hstep
  have hsame : sends' = sends := List.append_cancel_right (heq.symm.trans hsends)
  have hstuck := hprogress t (hsame ▸ ht) hthrew
  rw [hrecovered.isReportInProgress] at hstuck
  cases hstuck

/-- A report that fails and makes the next one tell of a drop, and the flush that sends that one. -/
def beforeThrow : List (LegacyCall Nat) :=
  [.recordSpan 7 5 ⟨none, false⟩ ⟨none, false⟩, .flushWithTimeout ⟨some .failure, false⟩,
    .recordSpan 8 5 ⟨none, false⟩ ⟨none, false⟩]

def throwing : SendOutcome := ⟨none, true⟩

def droppedReport : ReportMessage Nat := ⟨some somePreamble, [8], [⟨ReportMessage.spansDropped, 1⟩]⟩

theorem throwing_stuck : ∃ r r', (machine Nat).run (new somePreamble) beforeThrow = some r ∧
    r.step (.flushWithTimeout throwing) = some r' ∧ ¬ Recovered ⟨droppedReport, throwing⟩ r' := by
  have hstep : ∀ r : LegacyManualRecorder Nat,
      r.step (.flushWithTimeout throwing) = some (r.flushWithTimeout throwing).1 := fun _ => rfl
  have hrun : (machine Nat).run (new somePreamble) beforeThrow = some _ := rfl
  refine ⟨_, _, hrun, hstep _, ?_⟩
  have hmem : (⟨droppedReport, throwing⟩ : Transmission Nat) ∈ [(⟨droppedReport, throwing⟩ : Transmission Nat)] :=
    List.mem_singleton.mpr rfl
  exact threw_not_recovered hrun (hstep _) (by decide +kernel) hmem rfl

/-- A flush with pending spans is refused, and the drop that the report told of is forgotten. -/
theorem throwing_not_recovered : ∃ r r', (machine Nat).run (new somePreamble) beforeThrow = some r ∧
    r.step (.flushWithTimeout throwing) = some r' ∧ r'.sends = [⟨droppedReport, throwing⟩] ++ r.sends ∧
    r'.isReportInProgress = true ∧ r'.droppedSpans = 1 ∧
    ((r'.recordSpan 9 5 throwing throwing).flushWithTimeout throwing).2 = false ∧
    ¬ Recovered ⟨droppedReport, throwing⟩ r' := by
  refine ⟨_, _, rfl, rfl, by decide +kernel, by decide +kernel, by decide +kernel, by decide +kernel, fun h => ?_⟩
  exact absurd h.isReportInProgress (by decide +kernel)

end LegacyManualRecorder
end Lightstep.Recorder

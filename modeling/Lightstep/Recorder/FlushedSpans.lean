import Lightstep.Recorder.FlushRequests
import Lightstep.Recorder.TracedSpans

/-! What a flush that succeeds says of the spans.

The calls of `FlushWithTimeout` read how many spans have been added to the buffer that the
sessions take their spans from, and the polls how many have been taken. A span that was added
before such a call is in a session when the call returns with success, and its satellite has
reported it unless it is the last that session has begun. -/
namespace Lightstep.Recorder
open Library Common FragmentInputStream LawfulFragmentInputStream SeekableFragmentInputStream SpanStream
open MockSatellite ConnectionStream

variable {S : Type} [FragmentInputStream S] [SeekableFragmentInputStream S]

/-! ### All but the last span of a session -/

/-- Of the spans a session has begun, all but the last have been taken. -/
def Session.SentButLast (added : List S) (σ : Session) : Prop :=
  σ.spans.dropLast = [] ∨ σ.header ++ spanBytes added σ.spans.dropLast <+: σ.taken

namespace Sessions

theorem spanBytes_eq_nil {added : List S} {spans : List Nat} (hframed : ∀ span ∈ added, Framed span)
    (hlt : ∀ i ∈ spans, i < added.length) (h : Session.spanBytes added spans = []) : spans = [] := by
  cases spans with
  | nil => rfl
  | cons i rest =>
    have hi := hlt i (List.mem_cons_self ..)
    have hbytes : bytes added[i] ++ Session.spanBytes added rest = [] := by
      rw [← h, Session.spanBytes, Session.spanBytes, List.flatMap_cons, List.getElem?_eq_getElem hi]
      rfl
    exact absurd (List.append_eq_nil_iff.mp hbytes).1 (hframed _ (List.getElem_mem hi)).bytes_ne_nil

theorem spanBytes_dropLast {added : List S} {spans sent : List Nat} (h : spans.dropLast <+: sent) :
    Session.spanBytes added spans.dropLast <+: Session.spanBytes added sent := by
  obtain ⟨more, rfl⟩ := h
  exact ⟨_, (spanBytes_append added _ _).symm⟩

/-- No span but one is begun before the header has been taken. -/
theorem Live.dropLast_of_header {added : List S} {tail : Nat} {c : ConnectionStream S} {σ : Session}
    (h : Live added tail c σ) (htail : tail ≤ added.length) (hframed : ∀ span ∈ added, Framed span)
    (hheader : bytes c.headerStream ≠ []) : σ.spans.dropLast = [] := by
  have hlt : σ.taken.length < σ.header.length := by
    rw [h.header] at hheader
    exact Nat.lt_of_not_le fun hle => hheader (List.drop_eq_nil_of_le hle)
  have hterminal : (if c.shuttingDown then bytes c.terminalStream else []).length ≤ σ.terminal.length := by
    rw [Session.terminal, ← h.shuttingDown]
    split
    · exact h.inv.terminal_le
    · exact Nat.le_refl 0
  have hlength := congrArg List.length h.stream
  rw [rest, h.header, Session.stream] at hlength
  simp only [List.length_append, List.length_drop] at hlength
  cases hr : c.spanRemnant with
  | none =>
    rw [hr] at hlength
    have hnil : Session.spanBytes added σ.spans = [] := by
      apply List.eq_nil_of_length_eq_zero
      simp only [remnantBytes, Option.elim_none, List.length_nil] at hlength
      omega
    rw [spanBytes_eq_nil hframed (fun i hi => Nat.lt_of_lt_of_le (h.lt i hi) htail) hnil]
    rfl
  | some r =>
    obtain ⟨before, i, span, hspans, hget, -, hle⟩ := h.remnant r hr
    rw [hr, hspans, spanBytes_append, List.length_append] at hlength
    have hspan : (Session.spanBytes added [i]).length = (bytes span).length := by
      rw [Session.spanBytes, List.flatMap_singleton, hget]
      rfl
    have hremnant : (remnantBytes (some r)).length = (bytes r).length := rfl
    have hnil : Session.spanBytes added before = [] := by
      apply List.eq_nil_of_length_eq_zero
      omega
    have hbefore : before = [] := by
      refine spanBytes_eq_nil hframed (fun j hj => Nat.lt_of_lt_of_le (h.lt j ?_) htail) hnil
      rw [hspans]
      exact List.mem_append_left _ hj
    rw [hspans, List.dropLast_concat, hbefore]

/-- **All but the last span a session has begun has been taken**, whatever its writers took. -/
theorem Live.sentButLast {added : List S} {tail : Nat} {c : ConnectionStream S} {σ : Session}
    (h : Live added tail c σ) (htail : tail ≤ added.length) (hframed : ∀ span ∈ added, Framed span) :
    σ.SentButLast added := by
  by_cases hheader : bytes c.headerStream = []
  · obtain ⟨spans, hbegun, hlength, hsent⟩ := h.sent hheader
    have hcount : c.remnantCount ≤ 1 := by
      unfold remnantCount
      split <;> decide
    have hdropLast : σ.spans.dropLast <+: spans := by
      refine List.prefix_of_prefix_length_le (List.dropLast_prefix _) hbegun ?_
      rw [List.length_dropLast]
      omega
    exact .inr (((List.prefix_append_right_inj _).mpr (spanBytes_dropLast hdropLast)).trans hsent)
  · exact .inl (h.dropLast_of_header htail hframed hheader)

/-- Spans added later change nothing about those a session has begun. -/
theorem SentButLast.add {added : List S} {tail : Nat} {σ : Session} (h : σ.SentButLast added)
    (hσ : WellFormed added tail σ) (htail : tail ≤ added.length) (span : S) : σ.SentButLast (added ++ [span]) := by
  refine h.imp_right fun hsent => ?_
  rwa [spanBytes_add fun i hi => Nat.lt_of_lt_of_le (hσ.lt i (List.mem_of_mem_dropLast hi)) htail]

/-- A session that has ended stays as it was under way. -/
theorem step_sentButLast {s t : Sessions S} {e : SessionEvent S} (hinv : s.Inv) (hpromise : Promise s e)
    (h : ∀ σ ∈ s.finished, σ.SentButLast s.added) (hstep : s.step e = some t) :
    ∀ σ ∈ t.finished, σ.SentButLast t.added := by
  cases e with
  | addSpan span =>
    cases hstep
    unfold addSpan
    split
    · exact h
    · exact fun σ hσ => SentButLast.add (h σ hσ) (hinv.finished σ hσ) hinv.tail_le span
  | onSpansDropped numSpans =>
    cases hstep
    exact h
  | construct host common =>
    cases hstep
    exact h
  | flush connection n result =>
    obtain ⟨before, after, c, σ, c', spanStream, k, -, -, -, -, -, rfl⟩ := flush_cases hinv hpromise hstep
    exact h
  | shutdown connection =>
    obtain ⟨before, after, c, σ, -, -, rfl⟩ := shutdown_cases hinv hstep
    exact h
  | reset connection =>
    obtain ⟨before, after, c, σ, c', metrics, -, hlive, -, -, -, -, -, -, rfl⟩ := reset_cases hinv hstep
    intro τ hτ
    rcases List.mem_append.mp hτ with hold | hnew
    · exact h τ hold
    · rw [List.mem_singleton.mp hnew]
      exact hlive.sentButLast hinv.tail_le hinv.framed

/-! ### The reports of those spans -/

omit [FragmentInputStream S] [SeekableFragmentInputStream S] in
/-- The spans of a session stand where their numbers do. -/
theorem getElem?_begunSpans {added : List S} {σ : Session} (h : ∀ i ∈ σ.spans, i < added.length) {p i : Nat}
    (hp : σ.spans[p]? = some i) : (begunSpans added σ)[p]? = added[i]? := by
  unfold begunSpans
  generalize σ.spans = spans at h hp ⊢
  induction spans generalizing p with
  | nil => cases hp
  | cons j rest ih =>
    have hj := List.getElem?_eq_getElem (h j (List.mem_cons_self ..))
    rw [List.filterMap_cons, hj]
    cases p with
    | zero =>
      obtain rfl : j = i := by simpa using hp
      exact hj.symm
    | succ p => exact ih (fun k hk => h k (List.mem_cons_of_mem j hk)) hp

section
variable [DoubleFormat] {tracerOptions : LightStepTracerOptions} {reporterId : UInt64} {decoded : S → Collector.Span}

/-- What makes a satellite report the spans of all sessions. -/
structure Reporting (tracerOptions : LightStepTracerOptions) (reporterId : UInt64) (decoded : S → Collector.Span)
    (s : Sessions S) : Prop where
  inv : s.Inv
  provided : s.Provided (Frames.Decodes decoded) fun hostHeaderFragment headerCommonFragment =>
    SetHost hostHeaderFragment ∧ headerCommonFragment = writeReportRequestHeader tracerOptions reporterId
  finished : ∀ σ ∈ s.finished, σ.SentButLast s.added

theorem init_reporting (maxSize : Nat) : (init maxSize : Sessions S).Reporting tracerOptions reporterId decoded :=
  ⟨init_inv maxSize, ⟨nofun, nofun⟩, nofun⟩

theorem step_reporting {s t : Sessions S} {e : SessionEvent S} (h : s.Reporting tracerOptions reporterId decoded)
    (hpromise : Promise s e) (hstreams : Streams tracerOptions reporterId decoded e) (hstep : s.step e = some t) :
    t.Reporting tracerOptions reporterId decoded :=
  ⟨step_inv h.inv hpromise hstep, step_provided h.inv h.provided hpromise hstreams hstep,
    step_sentButLast h.inv hpromise h.finished hstep⟩

variable {s : Sessions S} {σ : Session}

theorem Reporting.sentButLast (h : s.Reporting tracerOptions reporterId decoded) (hσ : σ ∈ s.all) :
    σ.SentButLast s.added := by
  rcases List.mem_append.mp hσ with hfinished | hlive
  · exact h.finished σ hfinished
  · obtain ⟨⟨c, _⟩, hconnection, rfl⟩ := List.mem_map.mp hlive
    exact (h.inv.live c _ hconnection).sentButLast h.inv.tail_le h.inv.framed

theorem Reporting.lt_length (h : s.Reporting tracerOptions reporterId decoded) (hσ : σ ∈ s.all) :
    ∀ i ∈ σ.spans, i < s.added.length :=
  fun i hi => Nat.lt_of_lt_of_le ((h.inv.wellFormed_of_mem hσ).lt i hi) h.inv.tail_le

variable [ProtoUnmarshal] [LawfulProtoUnmarshal]

theorem Reporting.delivers (h : s.Reporting tracerOptions reporterId decoded) (hσ : σ ∈ s.all)
    (hvalid : ValidHeader tracerOptions reporterId) : Delivers tracerOptions reporterId decoded s.added σ := by
  obtain ⟨hhost, hcommon⟩ := h.provided.sessions σ hσ
  exact (h.inv.wellFormed_of_mem hσ).delivers h.provided.added hhost.hostLine hvalid hcommon

/-- A session's header and all its spans but the last have been reported. -/
theorem Reporting.length_le (h : s.Reporting tracerOptions reporterId decoded) (hσ : σ ∈ s.all)
    (hvalid : ValidHeader tracerOptions reporterId) (hspans : 1 < σ.spans.length) :
    σ.spans.length ≤ (serveHTTP σ.taken).length := by
  obtain ⟨hhost, hcommon⟩ := h.provided.sessions σ hσ
  have hdecodes : ∀ span ∈ σ.spans.dropLast.filterMap fun i => s.added[i]?, Frames.Decodes decoded span := by
    intro span hspan
    obtain ⟨i, -, hget⟩ := List.mem_filterMap.mp hspan
    exact h.provided.added span (List.mem_of_getElem? hget)
  have hserve := (serve_session hhost.hostLine hvalid σ.numDroppedSpans hdecodes [] rfl).1
  rw [List.append_nil, ← hcommon, ← spanBytes_eq] at hserve
  have hlength := length_filterMap_getElem? fun i hi => h.lt_length hσ i (List.mem_of_mem_dropLast hi)
  obtain hnil | hsent := h.sentButLast hσ
  · have hzero : σ.spans.length - 1 = 0 := by
      rw [← List.length_dropLast, hnil]
      rfl
    omega
  · have hle := (serveHTTP_isPrefix hsent).length_le
    rw [Session.header, hserve, reports, List.length_cons, List.length_map, List.length_map, hlength,
      List.length_dropLast] at hle
    omega

/-- **What a satellite reports of a span**: unless it is the last of its session, and that not finished, the report of
its message has its place behind the header's. -/
theorem Reporting.reported (h : s.Reporting tracerOptions reporterId decoded) (hσ : σ ∈ s.all)
    (hvalid : ValidHeader tracerOptions reporterId) {p i : Nat} (hp : σ.spans[p]? = some i)
    (hsent : p + 1 < σ.spans.length ∨ requestFinished σ.taken = true) : ∃ span, s.added[i]? = some span ∧
      (serveHTTP σ.taken)[p + 1]? =
        some (spanReport (reportHeader tracerOptions reporterId σ.numDroppedSpans) (decoded span)) := by
  have hlt := h.lt_length hσ
  have hdelivers := h.delivers hσ hvalid
  have hi : i < s.added.length := hlt i (List.mem_of_getElem? hp)
  have hget := List.getElem?_eq_getElem hi
  have hreport : (reports tracerOptions reporterId σ.numDroppedSpans ((begunSpans s.added σ).map decoded))[p + 1]? =
      some (spanReport (reportHeader tracerOptions reporterId σ.numDroppedSpans) (decoded s.added[i])) := by
    rw [reports, List.getElem?_cons_succ, List.getElem?_map, List.getElem?_map, getElem?_begunSpans hlt hp, hget]
    rfl
  refine ⟨_, hget, ?_⟩
  rw [← hreport]
  obtain hbefore | hfinished := hsent
  · have hle := h.length_le hσ hvalid (by omega)
    obtain ⟨more, hmore⟩ := hdelivers.isPrefix
    rw [← hmore, List.getElem?_append_left (Nat.lt_of_lt_of_le hbefore hle)]
  · rw [hdelivers.complete hfinished]

end

/-! ### The buffer's counts -/

omit [FragmentInputStream S] [SeekableFragmentInputStream S] in
theorem addSpan_buffer (s : Sessions S) (span : S) : (s.addSpan span).spanStream.spanBuffer = s.spanStream.spanBuffer ∨
    ∃ spanBuffer, s.spanStream.spanBuffer.add span = some spanBuffer ∧
      (s.addSpan span).spanStream.spanBuffer = spanBuffer := by
  unfold addSpan
  cases hadd : s.spanStream.spanBuffer.add span with
  | none => exact .inl rfl
  | some spanBuffer => exact .inr ⟨spanBuffer, rfl, rfl⟩

/-- What an event leaves of the buffer's counts: any thread may add a span, and only flushes take some. -/
theorem step_counts {s t : Sessions S} {e : SessionEvent S} (hinv : s.Inv) (hpromise : Promise s e)
    (hstep : s.step e = some t) :
    t.spanStream.spanBuffer.tail = s.spanStream.spanBuffer.tail ∧
        (t.spanStream.spanBuffer.head = s.spanStream.spanBuffer.head ∨
          t.spanStream.spanBuffer.head = s.spanStream.spanBuffer.head + 1) ∨
      ∃ connection n result k, e = .flush connection n result ∧
        t.spanStream.spanBuffer.head = s.spanStream.spanBuffer.head ∧
        t.spanStream.spanBuffer.tail = s.spanStream.spanBuffer.tail + k := by
  cases e with
  | addSpan span =>
    cases hstep
    obtain hsame | ⟨spanBuffer, hadd, hadded⟩ := addSpan_buffer s span
    · rw [hsame]
      exact .inl ⟨rfl, .inl rfl⟩
    · obtain ⟨-, -, htail, hhead, -⟩ := hinv.ready.wellFormed.add hadd
      rw [hadded]
      exact .inl ⟨htail, .inr hhead⟩
  | onSpansDropped numSpans =>
    cases hstep
    exact .inl ⟨rfl, .inl rfl⟩
  | construct host common =>
    cases hstep
    exact .inl ⟨rfl, .inl rfl⟩
  | flush connection n result =>
    have hinv' := flush_inv hinv hpromise hstep
    obtain ⟨before, after, c, σ, c', spanStream, k, -, -, -, -, htail, rfl⟩ := flush_cases hinv hpromise hstep
    exact .inr ⟨connection, n, result, k, rfl, hinv'.head.trans hinv.head.symm, htail⟩
  | shutdown connection =>
    obtain ⟨before, after, c, σ, -, -, rfl⟩ := shutdown_cases hinv hstep
    exact .inl ⟨rfl, .inl rfl⟩
  | reset connection =>
    obtain ⟨before, after, c, σ, c', metrics, -, -, -, -, -, -, -, -, rfl⟩ := reset_cases hinv hstep
    exact .inl ⟨rfl, .inl rfl⟩

end Sessions

/-! ### Flush requests over the sessions -/

structure FlushedSessions (S : Type) where
  requests : FlushRequests
  sessions : Sessions S

inductive FlushedEvent (S : Type) where
  | session (event : SessionEvent S)
  | request (event : FlushEvent)

/-- Any thread records spans. -/
def SessionEvent.anyThread : SessionEvent S → Bool
  | .addSpan _ => true
  | .onSpansDropped _ => true
  | _ => false

/-- The counts are those of the buffer. -/
def FlushEvent.ofBuffer : FlushEvent → Bool
  | .addSpan => true
  | .consume _ => true
  | _ => false

namespace FlushedSessions

def new (earlyFlushMarker maxSize : Nat) : FlushedSessions S := ⟨.new earlyFlushMarker, .init maxSize⟩

/-- `production_count` and `consumption_count` of the buffer. -/
def count (spanBuffer : CircularBuffer S) (requests : FlushRequests) : FlushRequests :=
  {requests with productionCount := spanBuffer.head, consumptionCount := spanBuffer.tail}

/-- The recorder's thread works on the connections between polls and in a flush. -/
def step (s : FlushedSessions S) : FlushedEvent S → Option (FlushedSessions S)
  | .session event =>
    if event.anyThread ∨ s.requests.poll = .idle ∨ s.requests.poll = .flushing then
      (s.sessions.step event).map fun sessions => ⟨count sessions.spanStream.spanBuffer s.requests, sessions⟩
    else none
  | .request event =>
    if event.ofBuffer then none else (s.requests.step event).map fun requests => {s with requests := requests}

def machine (S : Type) [FragmentInputStream S] [SeekableFragmentInputStream S] :
    Machine (FlushedSessions S) (FlushedEvent S) := ⟨step⟩

/-- The counts are the buffer's, and all that the requests go through is a run of theirs. -/
structure Counted (earlyFlushMarker : Nat) (s : FlushedSessions S) : Prop where
  production : s.requests.productionCount = s.sessions.spanStream.spanBuffer.head
  consumption : s.requests.consumptionCount = s.sessions.spanStream.spanBuffer.tail
  run : ∃ events, FlushRequests.machine.run (.new earlyFlushMarker) events = some s.requests

variable {earlyFlushMarker : Nat} {s t : FlushedSessions S}

omit [FragmentInputStream S] [SeekableFragmentInputStream S] in
theorem new_counted (earlyFlushMarker maxSize : Nat) : (new earlyFlushMarker maxSize : FlushedSessions S).Counted
    earlyFlushMarker := ⟨rfl, rfl, [], rfl⟩

omit [FragmentInputStream S] [SeekableFragmentInputStream S] in
/-- The requests go on as the buffer does. -/
theorem Counted.next (h : s.Counted earlyFlushMarker) (event : FlushEvent) {sessions : Sessions S}
    (hstep : s.requests.step event = some (count sessions.spanStream.spanBuffer s.requests)) :
    (⟨count sessions.spanStream.spanBuffer s.requests, sessions⟩ : FlushedSessions S).Counted earlyFlushMarker := by
  obtain ⟨events, hrun⟩ := h.run
  exact ⟨rfl, rfl, events ++ [event], FlushRequests.machine.run_snoc hrun hstep⟩

/-- **What the sessions do to the buffer is an event of the requests**, or nothing to them. -/
theorem Counted.session (h : s.Counted earlyFlushMarker) (hinv : s.sessions.Inv) {event : SessionEvent S}
    (hpromise : Sessions.Promise s.sessions event)
    (hthread : event.anyThread ∨ s.requests.poll = .idle ∨ s.requests.poll = .flushing) {sessions : Sessions S}
    (hstep : s.sessions.step event = some sessions) :
    (⟨count sessions.spanStream.spanBuffer s.requests, sessions⟩ : FlushedSessions S).Counted earlyFlushMarker := by
  obtain ⟨htail, hhead | hhead⟩ | ⟨connection, n, result, k, rfl, hhead, htail⟩ :=
    Sessions.step_counts hinv hpromise hstep
  · have hsame : count sessions.spanStream.spanBuffer s.requests = s.requests := by
      rw [count, hhead, htail, ← h.production, ← h.consumption]
    exact ⟨rfl, rfl, by rw [hsame]; exact h.run⟩
  · refine h.next .addSpan ?_
    rw [count, hhead, htail, ← h.production, ← h.consumption]
    rfl
  · have hidle : s.requests.poll = .idle ∨ s.requests.poll = .flushing := hthread.resolve_left nofun
    have hle : sessions.spanStream.spanBuffer.tail ≤ sessions.spanStream.spanBuffer.head :=
      (Sessions.step_inv hinv hpromise hstep).ready.wellFormed.tail_le
    have hconsumed : s.requests.consumptionCount + k ≤ s.requests.productionCount := by
      rw [h.consumption, h.production, ← htail, ← hhead]
      exact hle
    refine h.next (.consume k) ?_
    rw [count, hhead, htail, ← h.production, ← h.consumption]
    exact if_pos ⟨hidle, hconsumed⟩

end FlushedSessions

/-! ### What the requests leave of the counts -/

namespace FlushRequests

/-- The buffer's counts stay. -/
def SameCounts (s t : FlushRequests) : Prop :=
  t.productionCount = s.productionCount ∧ t.consumptionCount = s.consumptionCount

variable {s t : FlushRequests}

theorem sameCounts_of_map {α : Type} {o : Option α} {f : α → FlushRequests} (h : o.map f = some t)
    (hf : ∀ a, s.SameCounts (f a)) : s.SameCounts t := by
  obtain ⟨a, -, rfl⟩ := Option.map_eq_some_iff.mp h
  exact hf a

theorem callStep_sameCounts {i : Nat} {step : FlushCallStep} (hstep : s.callStep i step = some t) : s.SameCounts t := by
  unfold callStep at hstep
  split at hstep
  · cases hstep
    exact ⟨rfl, rfl⟩
  · exact sameCounts_of_map hstep fun _ => ⟨rfl, rfl⟩
  · split at hstep
    · exact sameCounts_of_map hstep fun _ => ⟨rfl, rfl⟩
    · cases hstep
      exact ⟨rfl, rfl⟩
  · exact sameCounts_of_map hstep fun _ => ⟨rfl, rfl⟩
  · exact sameCounts_of_map hstep fun _ => ⟨rfl, rfl⟩
  · cases hstep

theorem pollStep_sameCounts (hstep : s.pollStep = some t) : s.SameCounts t := by
  unfold pollStep at hstep
  split at hstep
  · cases hstep
    exact ⟨rfl, rfl⟩
  · split at hstep <;> cases hstep <;> exact ⟨rfl, rfl⟩
  · cases hstep
    exact ⟨rfl, rfl⟩
  · cases hstep
    exact ⟨rfl, rfl⟩
  · split at hstep <;> cases hstep <;> exact ⟨rfl, rfl⟩
  · exact sameCounts_of_map hstep fun _ => ⟨rfl, rfl⟩

/-- What is not of the buffer leaves its counts. -/
theorem step_sameCounts {event : FlushEvent} (hbuffer : event.ofBuffer = false) (hstep : s.step event = some t) :
    s.SameCounts t := by
  cases event with
  | addSpan => cases hbuffer
  | consume numSpans => cases hbuffer
  | flushTimer =>
    obtain ⟨-, heq⟩ := Option.ite_none_right_eq_some.mp hstep
    cases heq
    exact ⟨rfl, rfl⟩
  | call i step => exact callStep_sameCounts hstep
  | poll => exact pollStep_sameCounts hstep
  | exit =>
    obtain ⟨-, -, -, -, hproduction, hconsumption⟩ := exitStep_frame hstep
    exact ⟨hproduction, hconsumption⟩
  | lockShutdown =>
    obtain ⟨-, heq⟩ := Option.ite_none_left_eq_some.mp hstep
    cases heq
    exact ⟨rfl, rfl⟩
  | unlockShutdown =>
    obtain ⟨-, heq⟩ := Option.ite_none_right_eq_some.mp hstep
    cases heq
    exact ⟨rfl, rfl⟩

end FlushRequests

/-! ### Every run -/

namespace FlushedSessions
variable {earlyFlushMarker : Nat} {s t : FlushedSessions S}

omit [FragmentInputStream S] [SeekableFragmentInputStream S] in
theorem Counted.request (h : s.Counted earlyFlushMarker) {event : FlushEvent} (hbuffer : event.ofBuffer = false)
    {requests : FlushRequests} (hstep : s.requests.step event = some requests) :
    ({s with requests := requests} : FlushedSessions S).Counted earlyFlushMarker := by
  obtain ⟨events, hrun⟩ := h.run
  obtain ⟨hproduction, hconsumption⟩ := FlushRequests.step_sameCounts hbuffer hstep
  exact ⟨hproduction.trans h.production, hconsumption.trans h.consumption, events ++ [event],
    FlushRequests.machine.run_snoc hrun hstep⟩

section
variable [DoubleFormat] {tracerOptions : LightStepTracerOptions} {reporterId : UInt64} {decoded : S → Collector.Span}

/-- What the tracer and the streamer give the sessions. -/
def Streams (tracerOptions : LightStepTracerOptions) (reporterId : UInt64) (decoded : S → Collector.Span)
    (s : FlushedSessions S) : FlushedEvent S → Prop
  | .session event => Sessions.Promise s.sessions event ∧ Sessions.Streams tracerOptions reporterId decoded event
  | .request _ => True

/-- What holds in every state of a run. -/
structure Inv (earlyFlushMarker : Nat) (tracerOptions : LightStepTracerOptions) (reporterId : UInt64)
    (decoded : S → Collector.Span) (s : FlushedSessions S) : Prop where
  counted : s.Counted earlyFlushMarker
  reporting : s.sessions.Reporting tracerOptions reporterId decoded

theorem step_inv {event : FlushedEvent S} (h : s.Inv earlyFlushMarker tracerOptions reporterId decoded)
    (hstreams : Streams tracerOptions reporterId decoded s event) (hstep : s.step event = some t) :
    t.Inv earlyFlushMarker tracerOptions reporterId decoded := by
  cases event with
  | session event =>
    obtain ⟨hthread, hmap⟩ := Option.ite_none_right_eq_some.mp hstep
    obtain ⟨sessions, hsessions, rfl⟩ := Option.map_eq_some_iff.mp hmap
    exact ⟨h.counted.session h.reporting.inv hstreams.1 hthread hsessions,
      Sessions.step_reporting h.reporting hstreams.1 hstreams.2 hsessions⟩
  | request event =>
    obtain ⟨hbuffer, hmap⟩ := Option.ite_none_left_eq_some.mp hstep
    obtain ⟨requests, hrequests, rfl⟩ := Option.map_eq_some_iff.mp hmap
    exact ⟨h.counted.request (Bool.eq_false_of_not_eq_true hbuffer) hrequests, h.reporting⟩

theorem run_inv {maxSize : Nat} {events : List (FlushedEvent S)}
    (hguard : (machine S).Guarded (Streams tracerOptions reporterId decoded) (new earlyFlushMarker maxSize) events)
    (hrun : (machine S).run (new earlyFlushMarker maxSize) events = some t) :
    t.Inv earlyFlushMarker tracerOptions reporterId decoded :=
  (machine S).guarded_invariant (I := Inv earlyFlushMarker tracerOptions reporterId decoded)
    (fun _ _ _ h hp hstep => step_inv h hp hstep) events _ _
    ⟨new_counted earlyFlushMarker maxSize, Sessions.init_reporting maxSize⟩ hguard hrun

/-- A span whose flush has succeeded is in a session. -/
theorem Inv.begun (h : s.Inv earlyFlushMarker tracerOptions reporterId decoded) {r : FlushReturn}
    (hr : r ∈ s.requests.results) (hresult : r.result = true) {i : Nat} (hi : i < r.numSpansProduced) :
    ∃ σ ∈ s.sessions.all, ∃ p : Nat, σ.spans[p]? = some i := by
  obtain ⟨events, hrun⟩ := h.counted.run
  have hle := (FlushRequests.run_inv hrun).results r hr hresult
  rw [h.counted.consumption] at hle
  have hmem : i ∈ s.sessions.all.flatMap Session.spans :=
    h.reporting.inv.begun.mem_iff.mpr (List.mem_range.mpr (Nat.lt_of_lt_of_le hi hle))
  obtain ⟨σ, hσ, hspan⟩ := List.mem_flatMap.mp hmem
  obtain ⟨p, hp⟩ := List.mem_iff_getElem?.mp hspan
  exact ⟨σ, hσ, p, hp⟩

end

section
variable [DoubleFormat] [ProtoUnmarshal] [LawfulProtoUnmarshal]

/-- The spans recorded are those the tracer has finished. -/
def Traces (tracerOptions : LightStepTracerOptions) (reporterId : UInt64) (decoded : ChainedStream → Collector.Span)
    (s : FlushedSessions ChainedStream) : FlushedEvent ChainedStream → Prop
  | .session event => Sessions.Traces tracerOptions reporterId decoded s.sessions event
  | .request _ => True

end

end FlushedSessions

end Lightstep.Recorder

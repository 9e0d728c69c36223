import Lightstep.Recorder.ChunkHeaders
import Lightstep.Recorder.HostHeader
import Lightstep.Recorder.MockSatellite
import Lightstep.Recorder.Serialization.ReportRequestHeader
import Lightstep.Recorder.Sessions

/-! What a satellite gets of the sessions.

Whatever part of a session has been taken, a satellite that is given those bytes reports what
the session has in common and then the spans it has begun, in their order, up to the last one at
most. It sees the end of the request when the recorder takes the stream for completed. -/
namespace Lightstep.Recorder
open Library Common FragmentInputStream LawfulFragmentInputStream SeekableFragmentInputStream
open MockSatellite ConnectionStream SpanStream

/-- The fragment is the line of a host. -/
def HostLine (hostHeaderFragment : Fragment) : Prop :=
  ∃ value, hostHeaderFragment = ascii "Host:" ++ value ++ endOfLineFragment ∧ 13 ∉ value

/-- The fragment of a connection whose host is that of one of its endpoints, whatever hosts it has had before. -/
inductive SetHost : Fragment → Prop where
  | intro (satelliteEndpoints : List (List UInt8 × UInt16)) (hosts : List (List UInt8))
    {endpoint : List UInt8 × UInt16} (hmem : endpoint ∈ satelliteEndpoints) (hreturn : 13 ∉ endpoint.1) :
    SetHost
      ((hosts.foldl (fun h host => h.setHost host) (HostHeader.new satelliteEndpoints)).setHost endpoint.1).fragment

theorem SetHost.hostLine {hostHeaderFragment : Fragment} (hset : SetHost hostHeaderFragment) :
    HostLine hostHeaderFragment := by
  obtain ⟨satelliteEndpoints, hosts, hmem, hreturn⟩ := hset
  rename_i endpoint
  have hinv := HostHeader.foldl_inv (HostHeader.new_inv satelliteEndpoints) hosts
  generalize hosts.foldl (fun h host => h.setHost host) (HostHeader.new satelliteEndpoints) = h at hinv ⊢
  refine ⟨paddedString h.maxHostLength endpoint.1, (HostHeader.fragment_setHost hinv hmem).1, fun hpadded => ?_⟩
  rcases List.mem_append.mp hpadded with hspace | hhost
  · exact absurd (List.eq_of_mem_replicate hspace) (by decide)
  · exact hreturn ((List.takeWhile_prefix _).mem hhost)

/-! ### The header -/

def requestLine : List UInt8 := ascii "POST /api/v2/reports HTTP/1.1"

/-- The lines of the header fields that are the same for every host. -/
def commonLines : List (List UInt8) :=
  [ascii "Connection:close", ascii "Content-Type:application/octet-stream", ascii "Transfer-Encoding:chunked"]

theorem requestLines_eq (value : List UInt8) :
    httpRequestCommonFragment ++ (ascii "Host:" ++ value ++ endOfLineFragment) =
      (requestLine :: (commonLines ++ [ascii "Host:" ++ value])).flatMap fun line => line ++ lineBreak := by
  have hcommon : httpRequestCommonFragment = (requestLine :: commonLines).flatMap fun line => line ++ lineBreak := by
    decide
  rw [hcommon, ← List.cons_append, List.flatMap_append, List.flatMap_singleton]
  rfl

/-- The header fields a satellite reads; the value of the host's is without the spaces around it. -/
def commonFields : List (List UInt8 × List UInt8) :=
  [(ascii "Connection", ascii "close"), (ascii "Content-Type", ascii "application/octet-stream"),
    (ascii "Transfer-Encoding", ascii "chunked")]

theorem readHeaderField_host (value : List UInt8) : ∃ host,
    readHeaderField (ascii "Host:" ++ value) = some (ascii "Host", host) := by
  refine ⟨(dropSpaces (dropSpaces value).reverse).reverse, ?_⟩
  have hname : (ascii "Host:" ++ value).takeWhile (· ≠ 58) = ascii "Host" := rfl
  rw [readHeaderField, hname]
  rfl

/-- **The head of a session's request** says that its body is streamed. -/
theorem readHead_request {hostHeaderFragment : Fragment} (h : HostLine hostHeaderFragment) (rest : List UInt8) :
    ∃ request, readHead (httpRequestCommonFragment ++ hostHeaderFragment ++ (endOfLineFragment ++ rest)) =
      some (request, rest) ∧ isStreamedRequest request = true := by
  obtain ⟨value, rfl, hvalue⟩ := h
  obtain ⟨host, hhost⟩ := readHeaderField_host value
  have hcommonLines : ∀ line ∈ requestLine :: commonLines, line ≠ [] ∧ 13 ∉ line := by decide
  have hlines : ∀ line ∈ requestLine :: (commonLines ++ [ascii "Host:" ++ value]), line ≠ [] ∧ 13 ∉ line := by
    intro line hline
    rw [← List.cons_append] at hline
    rcases List.mem_append.mp hline with hcommon | hlast
    · exact hcommonLines line hcommon
    · rw [List.mem_singleton.mp hlast]
      refine ⟨List.append_ne_nil_of_left_ne_nil (by decide) _, fun hmem => ?_⟩
      rcases List.mem_append.mp hmem with hname | hmem
      · exact absurd hname (by decide)
      · exact hvalue hmem
  have hfields : (commonLines ++ [ascii "Host:" ++ value]).mapM readHeaderField =
      some (commonFields ++ [(ascii "Host", host)]) := by
    have hcommon : commonLines.mapM readHeaderField = some commonFields := by decide
    rw [List.mapM_append, hcommon, List.mapM_cons, hhost]
    rfl
  refine ⟨⟨requestLine, commonFields ++ [(ascii "Host", host)]⟩, ?_, rfl⟩
  have hhead := readHead_lines hlines hfields rest
  rwa [← requestLines_eq] at hhead

theorem readChunk_headerBody {headerCommonFragment : Fragment} (h : headerCommonFragment.length < 2 ^ 31)
    (numDroppedSpans : Int32) (rest : List UInt8) :
    readChunk (writeChunkHeader (headerBody headerCommonFragment numDroppedSpans).length ++
        (headerBody headerCommonFragment numDroppedSpans ++ (endOfLineFragment ++ rest))) =
      some (headerBody headerCommonFragment numDroppedSpans, rest) := by
  have hlt : (headerBody headerCommonFragment numDroppedSpans).length < 16 ^ 16 :=
    Nat.lt_of_lt_of_le (headerBody_length_lt h numDroppedSpans) (by decide)
  have hread := readHex_hexDigits upperDigit_readsBack 15 _ hlt
  rw [writeChunkHeader, List.append_assoc]
  exact readChunk_append (hexDigits_ne_nil upperDigit 15 _) hread rest

section
variable [DoubleFormat] [ProtoUnmarshal] [LawfulProtoUnmarshal] {tracerOptions : LightStepTracerOptions}
  {reporterId : UInt64}

omit [ProtoUnmarshal] [LawfulProtoUnmarshal] in
/-- What a satellite reports of a session before any span. -/
def reportHeader (tracerOptions : LightStepTracerOptions) (reporterId : UInt64) (numDroppedSpans : Int32) :
    Collector.ReportRequest :=
  {Collector.ReportRequest.default with
    reporter := some (tracerOptions.reporter reporterId)
    auth := some tracerOptions.auth
    internalMetrics := some (droppedSpansMetrics numDroppedSpans)}

theorem readStreamHeader_headerBody (h : ValidHeader tracerOptions reporterId) (numDroppedSpans : Int32)
    (rest : List UInt8) :
    readStreamHeader (headerBody (writeReportRequestHeader tracerOptions reporterId) numDroppedSpans ++ rest) =
      some (reportHeader tracerOptions reporterId numDroppedSpans, rest) := by
  obtain ⟨hreporter, hauth⟩ := length_reportHeader h.length_lt
  obtain ⟨hreporterCheck, hauthCheck⟩ := h.checks
  have hmetrics := length_metricsMessage_lt ⟨numDroppedSpans⟩
  have hlt : (2 : Nat) ^ 31 < 2 ^ 64 := by decide
  rw [headerBody, writeReportRequestHeader_eq, reportHeaderFields, encodeFields_cons, encodeFields_singleton,
    List.append_assoc, List.append_assoc]
  refine (Reader.bind_eq (readEmbeddedMessage_encode 1 (by decide) (Nat.lt_trans hreporter hlt)
    (LawfulProtoUnmarshal.reporter.reads hreporter (Collector.Reporter.read_fields hreporter) hreporterCheck) _) _).trans ?_
  refine (Reader.bind_eq (readEmbeddedMessage_encode 2 (by decide) (Nat.lt_trans hauth hlt)
    (LawfulProtoUnmarshal.auth.reads hauth (Collector.Auth.read_fields hauth) hauthCheck) _) _).trans ?_
  exact Reader.bind_eq (readEmbeddedMessage_encode 6 (by decide) (Nat.lt_trans hmetrics hlt)
    (LawfulProtoUnmarshal.internalMetrics.reads hmetrics (read_metricsMessage ⟨numDroppedSpans⟩)
      (check_metricsMessage ⟨numDroppedSpans⟩)) rest) _

end

/-! ### The end of the request -/

/-- The end of the request as a satellite sees it. -/
def requestFinished (input : List UInt8) : Bool :=
  match readHead input with
  | none => false
  | some (_, rest) => Dechunker.new.run rest = .finished

theorem requestFinished_mono {a b : List UInt8} (h : a <+: b) (hfinished : requestFinished a = true) :
    requestFinished b = true := by
  obtain ⟨more, rfl⟩ := h
  unfold requestFinished at hfinished ⊢
  cases hhead : readHead a with
  | none => simp [hhead] at hfinished
  | some result =>
    obtain ⟨request, rest⟩ := result
    simp only [hhead, decide_eq_true_eq] at hfinished
    simp only [steady_readHead hhead more, Dechunker.run_append, hfinished, Dechunker.run_finished, decide_true]

/-- A part of the terminal chunk has no data, and only all of it ends the request. -/
theorem run_terminal {sent : List UInt8} (h : sent <+: terminalFragment) :
    Dechunker.new.body sent = [] ∧ (Dechunker.new.run sent = .finished ↔ sent = terminalFragment) := by
  have hall : ∀ k ≤ 5, Dechunker.new.body (terminalFragment.take k) = [] ∧
      (Dechunker.new.run (terminalFragment.take k) = .finished ↔ terminalFragment.take k = terminalFragment) := by
    decide
  have hlength : sent.length ≤ 5 := h.length_le
  rw [List.prefix_iff_eq_take.mp h]
  exact hall sent.length hlength

/-! ### The spans -/

section
variable [ProtoUnmarshal] [LawfulProtoUnmarshal]
variable {S : Type} [FragmentInputStream S] [SeekableFragmentInputStream S]

/-- The span is one chunk, and what is in it is a message with valid strings. -/
def Frames.Decodes (decoded : S → Collector.Span) (span : S) : Prop :=
  ∃ body, bytes span = spanChunk body ∧ Collector.Span.parse body = some (decoded span) ∧
    Collector.checkMessage Collector.Span.check body = true

variable {decoded : S → Collector.Span}

omit [FragmentInputStream S] [SeekableFragmentInputStream S] in
theorem readSpan_spanHeader {body : List UInt8} {span : Collector.Span}
    (h : Collector.Span.parse body = some span) (hcheck : Collector.checkMessage Collector.Span.check body = true)
    (rest : List UInt8) : readSpan (spanHeader body.length ++ body ++ rest) = some (span, rest) := by
  obtain ⟨hlength, hread⟩ := Option.ite_none_right_eq_some.mp h
  have hspan := readEmbeddedMessage_encode 3 (by decide) (Nat.lt_trans hlength (by decide))
    (LawfulProtoUnmarshal.span.reads hlength hread hcheck) rest
  rw [show spanHeader body.length ++ body = (Library.Field.mk 3 (.lengthDelimited body)).encode from
    List.append_assoc _ _ _]
  exact hspan

/-- Spans one behind the other: their chunks are gone, and a span is read from each. -/
theorem body_spans {spans : List S} (h : ∀ span ∈ spans, Frames.Decodes decoded span) (rest : List UInt8) :
    Dechunker.new.run (spans.flatMap bytes ++ rest) = Dechunker.new.run rest ∧
      ∃ data, Dechunker.new.body (spans.flatMap bytes ++ rest) = data ++ Dechunker.new.body rest ∧
        (readAll readSpan data).1 = spans.map decoded ∧ (readAll readSpan data).2 = [] := by
  induction spans with
  | nil => exact ⟨rfl, [], rfl, rfl, rfl⟩
  | cons span spans ih =>
    obtain ⟨body, hbytes, hparse, hcheck⟩ := h span (List.mem_cons_self ..)
    obtain ⟨hrun, data, hdata, hall, hleft⟩ := ih fun s hs => h s (List.mem_cons_of_mem span hs)
    obtain ⟨hlength, -⟩ := Option.ite_none_right_eq_some.mp hparse
    have hheader : (spanHeader body.length).length ≤ reportRequestSpansMaxHeaderSize :=
      length_spanHeader_le (by omega)
    have hmax : reportRequestSpansMaxHeaderSize = 6 := by decide
    have hchunk := @StreamRecorder.readChunk_spanChunk body (by omega) (spans.flatMap bytes ++ rest)
    have hne : spanHeader body.length ++ body ≠ [] := List.append_ne_nil_of_left_ne_nil (spanHeader_ne_nil _) _
    obtain ⟨hrun', hbody'⟩ := Dechunker.run_readChunk hchunk hne
    have hread := readSpan_spanHeader hparse hcheck data
    have hcons := readAll_some consumes_readSpan hread
    rw [List.flatMap_cons, List.append_assoc, hbytes]
    refine ⟨hrun'.trans hrun, spanHeader body.length ++ body ++ data, ?_, ?_, ?_⟩
    · rw [hbody', hdata]
      exact (List.append_assoc _ _ _).symm
    · rw [hcons, hall, List.map_cons]
    · rw [hcons, hleft]

variable [DoubleFormat] {tracerOptions : LightStepTracerOptions} {reporterId : UInt64}

/-- The reports of a session: what it has in common, and its spans. -/
def reports (tracerOptions : LightStepTracerOptions) (reporterId : UInt64) (numDroppedSpans : Int32)
    (spans : List Collector.Span) : List Collector.ReportRequest :=
  reportHeader tracerOptions reporterId numDroppedSpans ::
    spans.map (spanReport (reportHeader tracerOptions reporterId numDroppedSpans))

theorem serve_session {host : Fragment} (hhost : HostLine host) (hcommon : ValidHeader tracerOptions reporterId)
    (numDroppedSpans : Int32) {spans : List S} (hspans : ∀ span ∈ spans, Frames.Decodes decoded span)
    (rest : List UInt8) (hrest : Dechunker.new.body rest = []) :
    serveHTTP (sessionHeader host (writeReportRequestHeader tracerOptions reporterId) numDroppedSpans ++
        spans.flatMap bytes ++ rest) = reports tracerOptions reporterId numDroppedSpans (spans.map decoded) ∧
      requestFinished (sessionHeader host (writeReportRequestHeader tracerOptions reporterId) numDroppedSpans ++
        spans.flatMap bytes ++ rest) = decide (Dechunker.new.run rest = .finished) := by
  obtain ⟨request, hhead, hstreamed⟩ := readHead_request hhost
    (writeChunkHeader (headerBody (writeReportRequestHeader tracerOptions reporterId) numDroppedSpans).length ++
      (headerBody (writeReportRequestHeader tracerOptions reporterId) numDroppedSpans ++
        (endOfLineFragment ++ (spans.flatMap bytes ++ rest))))
  have hchunk := readChunk_headerBody hcommon.length_lt numDroppedSpans (spans.flatMap bytes ++ rest)
  have hne : headerBody (writeReportRequestHeader tracerOptions reporterId) numDroppedSpans ≠ [] :=
    List.append_ne_nil_of_right_ne_nil _ (encode_ne_nil _)
  obtain ⟨hrun, hbody⟩ := Dechunker.run_readChunk hchunk hne
  obtain ⟨hrun', data, hdata, hall, -⟩ := body_spans hspans rest
  rw [hrest, List.append_nil] at hdata
  have hstream := readStreamHeader_headerBody hcommon numDroppedSpans data
  have hsession : sessionHeader host (writeReportRequestHeader tracerOptions reporterId) numDroppedSpans ++
      spans.flatMap bytes ++ rest = httpRequestCommonFragment ++ host ++ (endOfLineFragment ++
        (writeChunkHeader (headerBody (writeReportRequestHeader tracerOptions reporterId) numDroppedSpans).length ++
          (headerBody (writeReportRequestHeader tracerOptions reporterId) numDroppedSpans ++
            (endOfLineFragment ++ (spans.flatMap bytes ++ rest))))) := by
    simp only [sessionHeader, List.append_assoc]
  rw [hsession]
  constructor
  · simp only [serveHTTP, hhead, hstreamed, if_true, hbody, hdata, serveStreamingHTTP, hstream, hall, reports]
  · simp only [requestFinished, hhead, hrun, hrun']

end

/-! ### Where spans and fragments come from -/

namespace Sessions
variable {S : Type} [FragmentInputStream S] [SeekableFragmentInputStream S]

/-- The spans and fragments the sessions are given. -/
def Provides (Q : S → Prop) (R : Fragment → Fragment → Prop) : SessionEvent S → Prop
  | .addSpan span => Q span
  | .construct hostHeaderFragment headerCommonFragment => R hostHeaderFragment headerCommonFragment
  | _ => True

structure Provided (Q : S → Prop) (R : Fragment → Fragment → Prop) (s : Sessions S) : Prop where
  added : ∀ span ∈ s.added, Q span
  sessions : ∀ σ ∈ s.all, R σ.hostHeaderFragment σ.headerCommonFragment

variable {Q : S → Prop} {R : Fragment → Fragment → Prop}

omit [FragmentInputStream S] [SeekableFragmentInputStream S] in
theorem Provided.set {s : Sessions S} (h : s.Provided Q R) {before after : List (ConnectionStream S × Session)}
    {c : ConnectionStream S} {σ : Session} (hsplit : s.connections = before ++ (c, σ) :: after)
    {d : ConnectionStream S} {u : Session} (hσ : R u.hostHeaderFragment u.headerCommonFragment) :
    ∀ τ ∈ s.finished ++ (before ++ (d, u) :: after).map Prod.snd, R τ.hostHeaderFragment τ.headerCommonFragment := by
  intro τ hτ
  have hall := h.sessions
  rw [all, hsplit] at hall
  simp only [List.map_append, List.map_cons, List.mem_append, List.mem_cons] at hτ hall
  rcases hτ with hfinished | hbefore | rfl | hafter
  · exact hall τ (.inl hfinished)
  · exact hall τ (.inr (.inl hbefore))
  · exact hσ
  · exact hall τ (.inr (.inr (.inr hafter)))

omit [FragmentInputStream S] [SeekableFragmentInputStream S] in
theorem Provided.of_split {s : Sessions S} (h : s.Provided Q R) {before after : List (ConnectionStream S × Session)}
    {c : ConnectionStream S} {σ : Session} (hsplit : s.connections = before ++ (c, σ) :: after) :
    R σ.hostHeaderFragment σ.headerCommonFragment := by
  refine h.sessions σ (List.mem_append_right _ (List.mem_map_of_mem (a := (c, σ)) ?_))
  rw [hsplit]
  exact List.mem_append_right _ (List.mem_cons_self ..)

theorem step_provided {s t : Sessions S} {e : SessionEvent S} (hinv : s.Inv) (h : s.Provided Q R) (hpromise : Promise s e)
    (hprovides : Provides Q R e) (hstep : s.step e = some t) : t.Provided Q R := by
  cases e with
  | addSpan span =>
    cases hstep
    unfold addSpan
    split
    · exact h
    · refine ⟨fun other hother => ?_, h.sessions⟩
      rcases List.mem_append.mp hother with hold | hnew
      · exact h.added other hold
      · exact List.mem_singleton.mp hnew ▸ hprovides
  | onSpansDropped numSpans =>
    cases hstep
    exact ⟨h.added, h.sessions⟩
  | construct host common =>
    cases hstep
    refine ⟨h.added, fun σ hσ => ?_⟩
    simp only [all, construct, List.map_append, List.map_singleton, ← List.append_assoc] at hσ
    rcases List.mem_append.mp hσ with hold | hnew
    · exact h.sessions σ hold
    · exact List.mem_singleton.mp hnew ▸ hprovides
  | flush connection n result =>
    obtain ⟨before, after, c, σ, c', spanStream, k, hsplit, -, -, -, -, rfl⟩ := flush_cases hinv hpromise hstep
    have hσ := h.of_split hsplit
    exact ⟨h.added, h.set hsplit hσ⟩
  | shutdown connection =>
    obtain ⟨before, after, c, σ, hsplit, -, rfl⟩ := shutdown_cases hinv hstep
    have hσ := h.of_split hsplit
    exact ⟨h.added, h.set hsplit hσ⟩
  | reset connection =>
    obtain ⟨⟨c, σ⟩, hget, rfl⟩ := Option.map_eq_some_iff.mp hstep
    obtain ⟨before, after, hsplit, hset⟩ := connections_split hget
    have hlive := hinv.live c σ (List.mem_of_getElem? hget)
    have hσ := h.of_split hsplit
    have hbegin : R (c.reset s.spanStream).1.hostHeaderFragment (c.reset s.spanStream).1.headerCommonFragment := by
      rw [← hlive.hostHeaderFragment, ← hlive.headerCommonFragment] at hσ
      exact hσ
    refine ⟨h.added, fun τ hτ => ?_⟩
    simp only [all, hset, List.append_assoc] at hτ
    have hrest := h.set hsplit (d := (c.reset s.spanStream).1) (u := .begin (c.reset s.spanStream).1) hbegin
    rcases List.mem_append.mp hτ with hfinished | hτ
    · exact hrest τ (List.mem_append_left _ hfinished)
    · rcases List.mem_append.mp hτ with hdone | hτ
      · exact List.mem_singleton.mp hdone ▸ hσ
      · exact hrest τ (List.mem_append_right _ hτ)

/-- The spans of a session, in the order in which it began them. -/
def begunSpans (added : List S) (σ : Session) : List S := σ.spans.filterMap fun i => added[i]?

theorem spanBytes_eq (added : List S) (spans : List Nat) :
    Session.spanBytes added spans = (spans.filterMap fun i => added[i]?).flatMap bytes := by
  induction spans with
  | nil => rfl
  | cons i rest ih =>
    unfold Session.spanBytes at ih ⊢
    rw [List.flatMap_cons, ih, List.filterMap_cons]
    cases added[i]? with
    | none => rfl
    | some span => rfl

omit [FragmentInputStream S] [SeekableFragmentInputStream S] in
theorem length_filterMap_getElem? {added : List S} {spans : List Nat} (h : ∀ i ∈ spans, i < added.length) :
    (spans.filterMap fun i => added[i]?).length = spans.length := by
  induction spans with
  | nil => rfl
  | cons i rest ih =>
    have hget := List.getElem?_eq_getElem (h i (List.mem_cons_self ..))
    rw [List.filterMap_cons, hget]
    exact congrArg (· + 1) (ih fun j hj => h j (List.mem_cons_of_mem i hj))

/-- All but the last span a session has begun have been taken, once its header has. -/
theorem Live.sent {added : List S} {tail : Nat} {c : ConnectionStream S} {σ : Session} (h : Live added tail c σ)
    (hheader : bytes c.headerStream = []) : ∃ spans, spans <+: σ.spans ∧
      σ.spans.length = spans.length + c.remnantCount ∧ σ.header ++ Session.spanBytes added spans <+: σ.taken := by
  have hstream := h.stream
  have hterminal : (if c.shuttingDown then bytes c.terminalStream else []).length ≤ σ.terminal.length := by
    rw [Session.terminal, ← h.shuttingDown]
    split
    · exact h.inv.terminal_le
    · exact Nat.le_refl 0
  rw [rest, hheader, List.nil_append, Session.stream] at hstream
  cases hr : c.spanRemnant with
  | none =>
    have hcount : c.remnantCount = 0 := by simp [remnantCount, hr]
    rw [hr] at hstream
    refine ⟨σ.spans, List.prefix_refl _, by rw [hcount]; rfl, ?_⟩
    refine List.prefix_of_prefix_length_le (List.prefix_append _ σ.terminal) ⟨_, hstream⟩ ?_
    have hlength := congrArg List.length hstream
    simp only [remnantBytes, Option.elim_none, List.nil_append, List.length_append] at hlength hterminal ⊢
    omega
  | some r =>
    obtain ⟨before, i, span, hspans, hget, -, hle⟩ := h.remnant r hr
    have hcount : c.remnantCount = 1 := by simp [remnantCount, hr]
    rw [hr, hspans, spanBytes_append] at hstream
    refine ⟨before, ⟨[i], hspans.symm⟩, by rw [hspans, hcount, List.length_append, List.length_singleton], ?_⟩
    have hbefore : σ.header ++ Session.spanBytes added before <+:
        σ.header ++ (Session.spanBytes added before ++ Session.spanBytes added [i]) ++ σ.terminal :=
      ⟨Session.spanBytes added [i] ++ σ.terminal, by simp only [List.append_assoc]⟩
    refine List.prefix_of_prefix_length_le hbefore ⟨_, hstream⟩ ?_
    have hlength := congrArg List.length hstream
    have hspan : (Session.spanBytes added [i]).length = (bytes span).length := by
      rw [Session.spanBytes, List.flatMap_singleton, hget]
      rfl
    have hremnant : (remnantBytes (some r)).length = (bytes r).length := rfl
    simp only [List.length_append, hspan, hremnant] at hlength hterminal ⊢
    omega

section
variable [DoubleFormat] [ProtoUnmarshal]

/-- What a satellite makes of the bytes taken in a session. -/
structure Delivers (tracerOptions : LightStepTracerOptions) (reporterId : UInt64) (decoded : S → Collector.Span)
    (added : List S) (σ : Session) : Prop where
  isPrefix : serveHTTP σ.taken <+:
    reports tracerOptions reporterId σ.numDroppedSpans ((begunSpans added σ).map decoded)
  finished : requestFinished σ.taken = true ↔ σ.atShutdown.isSome = true ∧ σ.taken = σ.stream added
  complete : requestFinished σ.taken = true → serveHTTP σ.taken =
    reports tracerOptions reporterId σ.numDroppedSpans ((begunSpans added σ).map decoded)

/-- Every span is a chunk with a message, and every connection has the line of a host and the parts
that all reports have in common. -/
def Streams (tracerOptions : LightStepTracerOptions) (reporterId : UInt64) (decoded : S → Collector.Span) :
    SessionEvent S → Prop :=
  Provides (Frames.Decodes decoded) fun hostHeaderFragment headerCommonFragment =>
    SetHost hostHeaderFragment ∧ headerCommonFragment = writeReportRequestHeader tracerOptions reporterId

variable [LawfulProtoUnmarshal] {tracerOptions : LightStepTracerOptions} {reporterId : UInt64} {decoded : S → Collector.Span}

/-- A session whose spans, host and common parts are what they should be. -/
theorem WellFormed.delivers {added : List S} {tail : Nat} {σ : Session} (h : WellFormed added tail σ)
    (hadded : ∀ span ∈ added, Frames.Decodes decoded span) (hhost : HostLine σ.hostHeaderFragment)
    (hvalid : ValidHeader tracerOptions reporterId)
    (hcommon : σ.headerCommonFragment = writeReportRequestHeader tracerOptions reporterId) :
    Delivers tracerOptions reporterId decoded added σ := by
  have hspans : ∀ span ∈ begunSpans added σ, Frames.Decodes decoded span := by
    intro span hspan
    obtain ⟨i, -, hget⟩ := List.mem_filterMap.mp hspan
    exact hadded span (List.mem_of_getElem? hget)
  have hserve : ∀ rest, Dechunker.new.body rest = [] →
      serveHTTP (σ.header ++ Session.spanBytes added σ.spans ++ rest) =
          reports tracerOptions reporterId σ.numDroppedSpans ((begunSpans added σ).map decoded) ∧
        requestFinished (σ.header ++ Session.spanBytes added σ.spans ++ rest) =
          decide (Dechunker.new.run rest = .finished) := by
    intro rest hrest
    rw [Session.header, hcommon, spanBytes_eq]
    exact serve_session hhost hvalid σ.numDroppedSpans hspans rest hrest
  have hterminal : σ.terminal <+: terminalFragment := by
    rw [Session.terminal]
    split
    · exact List.prefix_refl _
    · exact List.nil_prefix
  have hfull := hserve _ (run_terminal hterminal).1
  have hisPrefix := h.isPrefix
  rw [Session.stream] at hisPrefix
  have hfinished : requestFinished σ.taken = true ↔ σ.atShutdown.isSome = true ∧ σ.taken = σ.stream added := by
    constructor
    · intro hdone
      -- what is taken ends within the terminal chunk, or before it and is not finished
      rcases List.prefix_or_prefix_of_prefix hisPrefix (List.prefix_append _ σ.terminal) with hbefore | ⟨sent, hsent⟩
      · have hearly := requestFinished_mono hbefore hdone
        have hnone := (hserve [] rfl).2
        rw [List.append_nil, hearly] at hnone
        cases hnone
      · rw [← hsent] at hdone hisPrefix
        have hsent_terminal := (List.prefix_append_right_inj _).mp hisPrefix
        obtain ⟨hnobody, hend⟩ := run_terminal (hsent_terminal.trans hterminal)
        rw [(hserve _ hnobody).2, decide_eq_true_eq, hend] at hdone
        subst hdone
        have hs : σ.atShutdown.isSome = true := by
          by_contra hs
          rw [Session.terminal, if_neg hs] at hsent_terminal
          exact absurd (List.prefix_nil.mp hsent_terminal) (by decide)
        refine ⟨hs, ?_⟩
        rw [← hsent, Session.stream, Session.terminal, if_pos hs]
    · rintro ⟨hs, htaken⟩
      rw [htaken, Session.stream, hfull.2, Session.terminal, if_pos hs]
      decide
  refine ⟨?_, hfinished, fun hdone => ?_⟩
  · rw [← hfull.1]
    exact serveHTTP_isPrefix hisPrefix
  · rw [(hfinished.mp hdone).2, Session.stream, hfull.1]

end

end Sessions
end Lightstep.Recorder

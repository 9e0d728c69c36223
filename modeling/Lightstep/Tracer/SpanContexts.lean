import Lightstep.Tracer.BaggageMap
import Lightstep.Tracer.Propagation.RoundTrip

/-! Span contexts on their way.

A span, and a context that was extracted, inject the same things into headers. On a leg of its way
a context is injected by one tracer, its headers travel, and another tracer extracts it; a process
may send on what it has extracted. -/
namespace Lightstep.Tracer
open Common Library TraceContext

/-! ### Injecting and extracting -/

/-- An immutable span context. -/
structure ImmutableSpanContext where
  traceIdHigh : UInt64
  traceIdLow : UInt64
  spanId : UInt64
  traceFlags : UInt8
  traceState : List UInt8
  baggage : BaggageProtobufMap

/-- What is seen of an immutable context, whose map iterates in some order. -/
def ImmutableSpanContext.context (iterate : BaggageProtobufMap → List (List UInt8 × List UInt8))
    (c : ImmutableSpanContext) : LightStepSpanContext :=
  ⟨c.traceIdHigh, c.traceIdLow, c.spanId, c.traceFlags, c.traceState, iterate c.baggage⟩

/-- What is seen of a span. -/
def Span.context (span : Span) : LightStepSpanContext :=
  ⟨span.traceIdHigh, span.traceId, span.spanId, span.traceFlags, span.traceState, span.baggage.data⟩

namespace LightStepSpanContext

def sampled (c : LightStepSpanContext) : Bool := isTraceFlagSet sampledFlagMask c.traceFlags

def traceContext (c : LightStepSpanContext) : TraceContext :=
  ⟨c.traceIdHigh, c.traceIdLow, c.spanId, c.traceFlags, traceContextVersion⟩

/-- `InjectImpl` of both classes. -/
def injectImpl {σ : Type} (codec : BinaryCodec) (propagationOptions : PropagationOptions) (writer : TextMapWriter σ)
    (c : LightStepSpanContext) (s : σ) : Expected σ :=
  injectSpanContext codec propagationOptions writer c.traceContext c.traceState c.baggage s

end LightStepSpanContext

/-- Nothing where there is no context in the carrier. -/
def extractImpl (codec : BinaryCodec) (propagationOptions : PropagationOptions) (reader : TextMapReader)
    (caseSensitive : Bool) : Expected (Option ImmutableSpanContext) := do
  let (found, out) ← extractSpanContext codec propagationOptions reader caseSensitive .new
  if found then
    return some ⟨out.traceContext.traceIdHigh, out.traceContext.traceIdLow, out.traceContext.parentId,
      out.traceContext.traceFlags, out.traceState, out.baggage⟩
  else return none

/-! ### A leg -/

/-- The way between two tracers of one configuration. -/
structure Leg where
  options : LightStepTracerOptions
  codec : BinaryCodec
  mapCaseSensitive : Bool
  caseSensitive : Bool
  transport : List Header → TextMapReader
  iterate : BaggageProtobufMap → List (List UInt8 × List UInt8)

/-- The headers arrive in some order, and a map iterates over what it has. -/
structure Leg.Sound (leg : Leg) : Prop where
  presents : ∀ contents, Presents (leg.transport contents) leg.caseSensitive contents
  nodup : ∀ baggage, ((leg.iterate baggage).map Prod.fst).Nodup
  mem_iterate : ∀ baggage key value, (key, value) ∈ leg.iterate baggage ↔ baggage.lookup key = some value

def Leg.cross (leg : Leg) (c : LightStepSpanContext) : Expected (Option LightStepSpanContext) := do
  let contents ← c.injectImpl leg.codec (makePropagationOptions leg.options) (mapWriter (keyCompare leg.mapCaseSensitive)) []
  let context ← extractImpl leg.codec (makePropagationOptions leg.options) (leg.transport contents) leg.caseSensitive
  return context.map fun context => context.context leg.iterate

/-- A context that is sent on and on. -/
def crossAll : List Leg → LightStepSpanContext → Expected (Option LightStepSpanContext)
  | [], c => .ok (some c)
  | leg :: rest, c => do
    match ← leg.cross c with
    | none => return none
    | some c => crossAll rest c

/-! ### What arrives -/

/-- Whether a mode has room for the upper half of a trace id. -/
def PropagationMode.supports128bit : PropagationMode → Bool
  | lightstep | envoy => false
  | b3 | traceContext | cloudTrace => true

/-- What is left of a context behind some legs. -/
structure Arrived (legs : List Leg) (c c' : LightStepSpanContext) : Prop where
  traceIdHigh : c'.traceIdHigh =
    if legs.all fun leg => leg.options.firstMode.supports128bit then c.traceIdHigh else 0
  traceIdLow : c'.traceIdLow = c.traceIdLow
  spanId : c'.spanId = c.spanId
  sampled : c'.sampled = c.sampled
  traceState : (∀ leg ∈ legs, leg.options.firstMode = .traceContext) → c'.traceState = c.traceState
  propagatable : Propagatable c'.baggage
  baggage : c'.baggage.Perm c.baggage

theorem Arrived.refl {c : LightStepSpanContext} (h : Propagatable c.baggage) : Arrived [] c c :=
  ⟨rfl, rfl, rfl, rfl, fun _ => rfl, h, .refl _⟩

theorem Arrived.trans {leg : Leg} {rest : List Leg} {c c₁ c₂ : LightStepSpanContext} (h₁ : Arrived [leg] c c₁)
    (h₂ : Arrived rest c₁ c₂) : Arrived (leg :: rest) c c₂ where
  traceIdHigh := by
    rw [h₂.traceIdHigh, h₁.traceIdHigh]
    cases h : leg.options.firstMode.supports128bit <;> simp [h]
  traceIdLow := h₂.traceIdLow.trans h₁.traceIdLow
  spanId := h₂.spanId.trans h₁.spanId
  sampled := h₂.sampled.trans h₁.sampled
  traceState h :=
    (h₂.traceState fun leg hleg => h leg (List.mem_cons_of_mem _ hleg)).trans
      (h₁.traceState fun leg' hleg => h leg' (List.mem_singleton.mp hleg ▸ List.mem_cons_self ..))
  propagatable := h₂.propagatable
  baggage := h₂.baggage.trans h₁.baggage

/-- The codec gives back the contexts of this span that it may be given. -/
def Leg.Encodes (leg : Leg) (c : LightStepSpanContext) : Prop :=
  .envoy ∈ leg.options.modes → ∀ items, items.Perm c.baggage →
    leg.codec.RoundTrips ⟨c.traceIdLow, c.spanId, c.sampled, items⟩

/-- Headers that present what an injection writes are extracted. -/
theorem extractSpanContext_headers {codec : BinaryCodec} {options : LightStepTracerOptions} {c : TraceContext}
    {items : List (List UInt8 × List UInt8)} {bytes traceState : List UInt8} {carrier : TextMapReader}
    {caseSensitive : Bool} (hitems : Propagatable items)
    (hcodec : .envoy ∈ options.modes → codec.RoundTrips ⟨c.traceIdLow, c.parentId, c.sampled, items⟩ ∧
      injectBinary codec c.traceIdLow c.parentId c.sampled items = .ok bytes)
    (hcarrier : Presents carrier caseSensitive (options.headers bytes c traceState items)) :
    ∃ out, extractSpanContext codec (makePropagationOptions options) carrier caseSensitive .new = .ok (true, out) ∧
      Restored options.firstMode c traceState items out := by
  have hdistinct := headers_distinct bytes c traceState options hitems
  obtain ⟨rest, hmodes⟩ := modes_eq_cons options
  have hfirst : options.firstMode ∈ options.modes := by
    rw [hmodes]
    exact List.mem_cons_self ..
  have hsends : options.firstMode ≠ .envoy → options.sendsBaggage = true := fun hne => by
    rw [LightStepTracerOptions.sendsBaggage, hmodes, bne_iff_ne]
    exact fun heq => hne (List.cons.inj heq).1
  obtain ⟨others, hcontents, hothers⟩ := headers_eq_append options bytes c traceState items
  obtain ⟨out, hextract, hrestored⟩ := mode_extractSpanContext hitems hsends (fun heq => hcodec (heq ▸ hfirst)) hothers
    hcontents hdistinct hcarrier
  obtain ⟨propagators, hextractors⟩ := extractPropagators_eq_cons options
  refine ⟨out, ?_, hrestored⟩
  unfold extractSpanContext
  rw [hextractors]
  unfold tryExtract
  rw [show ({Extraction.new with baggage := ∅} : Extraction) = .new from rfl, hextract]
  rfl

/-- A map of the items iterates over them in some order. -/
theorem Leg.Sound.iterate_perm {leg : Leg} (h : leg.Sound) {baggage : BaggageProtobufMap}
    {items : List (List UInt8 × List UInt8)} (hnodup : (items.map Prod.fst).Nodup)
    (hlookup : ∀ key value, baggage.lookup key = some value ↔ (key, value) ∈ items) :
    (leg.iterate baggage).Perm items := by
  refine (List.perm_ext_iff_of_nodup (h.nodup baggage).of_map hnodup.of_map).mpr ?_
  rintro ⟨key, value⟩
  rw [h.mem_iterate, hlookup]

theorem Propagatable.perm {items items' : List (List UInt8 × List UInt8)} (h : Propagatable items)
    (hperm : items'.Perm items) : Propagatable items' :=
  ⟨(hperm.map Prod.fst).nodup_iff.mpr h.nodup, fun item hitem => h.nonempty item (hperm.subset hitem),
    fun item hitem => h.lower item (hperm.subset hitem)⟩

/-- **A context gets through a leg** with all that its mode has room for. -/
theorem Leg.Sound.cross {leg : Leg} (h : leg.Sound) {c : LightStepSpanContext} (hitems : Propagatable c.baggage)
    (hencodes : leg.Encodes c) : ∃ c', leg.cross c = .ok (some c') ∧ Arrived [leg] c c' := by
  have hbytes : ∃ bytes, .envoy ∈ leg.options.modes →
      injectBinary leg.codec c.traceIdLow c.spanId c.sampled c.baggage = .ok bytes := by
    by_cases henvoy : .envoy ∈ leg.options.modes
    · obtain ⟨bytes, -, hserialize, -⟩ := (hencodes henvoy _ (.refl _)).parse_serialize
      exact ⟨bytes, fun _ => by rw [injectBinary, fillCarrier_eq hitems.nodup, hserialize]⟩
    · exact ⟨[], fun henvoy' => absurd henvoy' henvoy⟩
  obtain ⟨bytes, hbytes⟩ := hbytes
  have hdistinct := headers_distinct bytes c.traceContext c.traceState leg.options hitems
  have hwritten : c.injectImpl leg.codec (makePropagationOptions leg.options)
      (mapWriter (keyCompare leg.mapCaseSensitive)) [] =
        .ok (leg.options.headers bytes c.traceContext c.traceState c.baggage) :=
    (injectSpanContext_eq (c := c.traceContext) hbytes _ c.traceState []).trans
      (setAll_mapWriter leg.mapCaseSensitive (show Distinct ([] ++ leg.options.headers bytes _ _ _) from hdistinct))
  obtain ⟨out, hextract, hrestored⟩ := extractSpanContext_headers (c := c.traceContext) hitems
    (fun henvoy => ⟨hencodes henvoy _ (.refl _), hbytes henvoy⟩)
    (h.presents (leg.options.headers bytes c.traceContext c.traceState c.baggage))
  have hperm := h.iterate_perm hitems.nodup hrestored.baggage
  refine ⟨⟨out.traceContext.traceIdHigh, out.traceContext.traceIdLow, out.traceContext.parentId,
    out.traceContext.traceFlags, out.traceState, leg.iterate out.baggage⟩, ?_, ?_⟩
  · simp only [Leg.cross, hwritten, extractImpl, hextract, bind, Except.bind]
    rfl
  · have hcarried := hrestored.carried
    refine ⟨?_, ?_, hrestored.parentId, hrestored.sampled, fun htrace => ?_, hitems.perm hperm, hperm⟩
    · cases hmode : leg.options.firstMode <;> rw [hmode] at hcarried <;> simp [hmode, PropagationMode.supports128bit] <;>
        exact hcarried.1
    · cases hmode : leg.options.firstMode <;> rw [hmode] at hcarried
      case traceContext => exact hcarried.2.1
      all_goals exact hcarried.2
    · rw [htrace leg (List.mem_singleton_self leg)] at hcarried
      exact hcarried.2.2.2

theorem Leg.Encodes.arrived {leg : Leg} {legs : List Leg} {c c' : LightStepSpanContext} (h : leg.Encodes c)
    (harrived : Arrived legs c c') : leg.Encodes c' := by
  intro henvoy items hperm
  rw [harrived.traceIdLow, harrived.spanId, harrived.sampled]
  exact h henvoy items (hperm.trans harrived.baggage)

/-- **A context gets through any number of legs.** -/
theorem crossAll_arrived {legs : List Leg} (hsound : ∀ leg ∈ legs, leg.Sound) {c : LightStepSpanContext}
    (hitems : Propagatable c.baggage) (hencodes : ∀ leg ∈ legs, leg.Encodes c) :
    ∃ c', crossAll legs c = .ok (some c') ∧ Arrived legs c c' := by
  induction legs generalizing c with
  | nil => exact ⟨c, rfl, .refl hitems⟩
  | cons leg rest ih =>
    obtain ⟨c₁, hcross, h₁⟩ := (hsound leg (List.mem_cons_self ..)).cross hitems (hencodes leg (List.mem_cons_self ..))
    obtain ⟨c₂, hrest, h₂⟩ := ih (fun other hother => hsound other (List.mem_cons_of_mem leg hother)) h₁.propagatable
      fun other hother => (hencodes other (List.mem_cons_of_mem leg hother)).arrived h₁
    refine ⟨c₂, ?_, h₁.trans h₂⟩
    rw [crossAll, hcross]
    exact hrest

end Lightstep.Tracer

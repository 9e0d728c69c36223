import Lightstep.Tracer.Propagation.HeaderOrder

/-! The headers that an injection writes.

Every format sets headers of its own names, whatever the carrier. In a map that
had none of them, they stand one after the other. -/
namespace Lightstep.Tracer
open Common Library TraceContext

/-- The headers of a propagator of several. -/
def MultiheaderPropagator.headers (p : MultiheaderPropagator) (c : TraceContext) : List Header :=
  [(p.traceIdKey, if p.supports128bit then uint128ToHex c.traceIdHigh c.traceIdLow else uint64ToHex c.traceIdLow),
   (p.spanIdKey, uint64ToHex c.parentId),
   (p.sampledKey, if c.sampled then MultiheaderPropagator.oneStr else MultiheaderPropagator.zeroStr)]

/-- The headers of a mode; the bytes are those of the binary message. -/
def PropagationMode.headers (bytes : List UInt8) (c : TraceContext) (traceState : List UInt8) :
    PropagationMode → List Header
  | lightstep => lightStepPropagator.headers c
  | b3 => b3Propagator.headers c
  | envoy => [(EnvoyPropagator.propagationSingleKey, Base64.encode bytes)]
  | traceContext => (TraceContextPropagator.traceParentHeaderKey, c.serializeTraceContext) ::
      if traceState = [] then [] else [(TraceContextPropagator.traceStateHeaderKey, traceState)]
  | cloudTrace => [(CloudTracePropagator.propagationSingleKey, c.serializeCloudTrace)]

def baggageHeaders (items : List (List UInt8 × List UInt8)) : List Header :=
  items.map fun item => (prefixBaggage ++ item.1, item.2)

/-- Whether the items travel in headers of their own. -/
def LightStepTracerOptions.sendsBaggage (options : LightStepTracerOptions) : Bool := options.modes != [.envoy]

def LightStepTracerOptions.headers (options : LightStepTracerOptions) (bytes : List UInt8) (c : TraceContext)
    (traceState : List UInt8) (items : List (List UInt8 × List UInt8)) : List Header :=
  (uniqifyPropagationModes options.modes []).flatMap (PropagationMode.headers bytes c traceState) ++
    if options.sendsBaggage then baggageHeaders items else []

/-- Sets headers one after the other. -/
def setAll {σ : Type} (carrier : TextMapWriter σ) (headers : List Header) (s : σ) : Expected σ :=
  headers.foldlM (fun s header => carrier.set header.1 header.2 s) s

theorem setAll_append {σ : Type} (carrier : TextMapWriter σ) (a b : List Header) (s : σ) :
    setAll carrier (a ++ b) s = setAll carrier a s >>= setAll carrier b := List.foldlM_append

/-! ### What is set -/

section
variable {σ : Type} {codec : BinaryCodec} {c : TraceContext} {items : List (List UInt8 × List UInt8)}
  {bytes : List UInt8} (carrier : TextMapWriter σ) (traceState : List UInt8)

theorem multiheader_injectSpanContext (p : MultiheaderPropagator) (s : σ) :
    p.injectSpanContext carrier c s = setAll carrier (p.headers c) s := by
  simp [MultiheaderPropagator.injectSpanContext, MultiheaderPropagator.headers, setAll]

theorem mode_injectSpanContext (mode : PropagationMode)
    (hbytes : mode = .envoy → injectBinary codec c.traceIdLow c.parentId c.sampled items = .ok bytes) (s : σ) :
    mode.propagator.injectSpanContext codec carrier c traceState items s =
      setAll carrier (mode.headers bytes c traceState) s := by
  cases mode with
  | lightstep => exact multiheader_injectSpanContext carrier lightStepPropagator s
  | b3 => exact multiheader_injectSpanContext carrier b3Propagator s
  | envoy =>
    simp only [PropagationMode.propagator, Propagator.injectSpanContext, EnvoyPropagator.injectSpanContext,
      hbytes rfl, PropagationMode.headers, setAll, List.foldlM_cons, List.foldlM_nil, bind_pure]
    rfl
  | traceContext =>
    simp only [PropagationMode.propagator, Propagator.injectSpanContext, TraceContextPropagator.injectSpanContext,
      PropagationMode.headers, setAll, List.foldlM_cons]
    split <;> simp
  | cloudTrace =>
    simp [PropagationMode.propagator, Propagator.injectSpanContext, CloudTracePropagator.injectSpanContext,
      PropagationMode.headers, setAll]

theorem modes_injectSpanContext (modes : List PropagationMode)
    (hbytes : .envoy ∈ modes → injectBinary codec c.traceIdLow c.parentId c.sampled items = .ok bytes) (s : σ) :
    (makePropagators modes).foldlM (fun s p => p.injectSpanContext codec carrier c traceState items s) s =
      setAll carrier (modes.flatMap (PropagationMode.headers bytes c traceState)) s := by
  induction modes generalizing s with
  | nil => rfl
  | cons mode rest ih =>
    have hfirst := mode_injectSpanContext carrier traceState mode
      (fun h => hbytes (h ▸ List.mem_cons_self ..)) s
    have hrest := ih fun h => hbytes (List.mem_cons_of_mem mode h)
    rw [makePropagators, List.map_cons, List.foldlM_cons, List.flatMap_cons, setAll_append, hfirst]
    congr 1
    funext s
    exact hrest s

end

theorem mem_uniqifyPropagationModes {mode : PropagationMode} {modes values : List PropagationMode} :
    mode ∈ uniqifyPropagationModes modes values ↔ mode ∈ modes ∧ mode ∉ values := by
  induction modes generalizing values with
  | nil => simp [uniqifyPropagationModes]
  | cons first rest ih =>
    unfold uniqifyPropagationModes
    split
    · rw [ih, List.mem_cons]
      grind
    · rw [List.mem_cons, ih, List.mem_cons, List.mem_cons]
      grind

theorem nodup_uniqifyPropagationModes (modes values : List PropagationMode) :
    (uniqifyPropagationModes modes values).Nodup := by
  induction modes generalizing values with
  | nil => exact List.nodup_nil
  | cons first rest ih =>
    unfold uniqifyPropagationModes
    split
    · exact ih values
    · refine List.nodup_cons.mpr ⟨fun hmem => ?_, ih _⟩
      exact (mem_uniqifyPropagationModes.mp hmem).2 (List.mem_cons_self ..)

/-- **An injection sets the headers of its options**, whatever the carrier. -/
theorem injectSpanContext_eq {σ : Type} {codec : BinaryCodec} {options : LightStepTracerOptions} {c : TraceContext}
    {items : List (List UInt8 × List UInt8)} {bytes : List UInt8}
    (hbytes : .envoy ∈ options.modes → injectBinary codec c.traceIdLow c.parentId c.sampled items = .ok bytes)
    (carrier : TextMapWriter σ) (traceState : List UInt8) (s : σ) :
    injectSpanContext codec (makePropagationOptions options) carrier c traceState items s =
      setAll carrier (options.headers bytes c traceState items) s := by
  have hmodes := modes_injectSpanContext carrier traceState (uniqifyPropagationModes options.modes [])
    (fun h => hbytes (mem_uniqifyPropagationModes.mp h).1) s
  have hbaggage : ∀ s, [Propagator.baggage prefixBaggage].foldlM
      (fun s p => p.injectSpanContext codec carrier c traceState items s) s = setAll carrier (baggageHeaders items) s := by
    intro s
    simp [Propagator.injectSpanContext, BaggagePropagator.injectSpanContext, setAll, baggageHeaders, List.foldlM_map]
  unfold injectSpanContext makePropagationOptions setInjectExtractPropagationModes LightStepTracerOptions.headers
    LightStepTracerOptions.sendsBaggage
  dsimp only
  rw [List.foldlM_append, hmodes, setAll_append]
  congr 1
  funext s
  by_cases henvoy : options.modes = [.envoy]
  · simp [henvoy, setAll]
  · simp only [henvoy, if_false, hbaggage, bne_iff_ne, ne_eq, not_false_eq_true, if_true]

/-! ### Their names -/

def MultiheaderPropagator.keys (p : MultiheaderPropagator) : List (List UInt8) :=
  [p.traceIdKey, p.spanIdKey, p.sampledKey]

/-- The names that belong to a mode. -/
def PropagationMode.keys : PropagationMode → List (List UInt8)
  | lightstep => lightStepPropagator.keys
  | b3 => b3Propagator.keys
  | envoy => [EnvoyPropagator.propagationSingleKey]
  | traceContext => [TraceContextPropagator.traceParentHeaderKey, TraceContextPropagator.traceStateHeaderKey]
  | cloudTrace => [CloudTracePropagator.propagationSingleKey]

theorem keys_nodup (mode : PropagationMode) : (mode.keys.map toLower).Nodup := by
  cases mode <;> decide +kernel

theorem keys_disjoint {mode mode' : PropagationMode} (h : mode ≠ mode') :
    ∀ key ∈ mode.keys, ∀ key' ∈ mode'.keys, toLower key ≠ toLower key' := by
  cases mode <;> cases mode' <;> first | exact absurd rfl h | decide +kernel

/-- No name of a mode is one of baggage. -/
theorem keys_not_baggage (mode : PropagationMode) :
    ∀ key ∈ mode.keys, (toLower key).take prefixBaggage.length ≠ prefixBaggage := by
  cases mode <;> decide +kernel

theorem toLower_prefixBaggage : toLower prefixBaggage = prefixBaggage := by decide +kernel

section
variable (bytes : List UInt8) (c : TraceContext) (traceState : List UInt8)

theorem names_sublist (mode : PropagationMode) :
    ((mode.headers bytes c traceState).map Prod.fst).Sublist mode.keys := by
  cases mode with
  | traceContext =>
    rw [PropagationMode.headers, PropagationMode.keys]
    split
    · exact List.Sublist.cons_cons _ (List.nil_sublist _)
    · exact List.Sublist.refl _
  | _ => exact List.Sublist.refl _

theorem key_mem {mode : PropagationMode} {header : Header} (h : header ∈ mode.headers bytes c traceState) :
    header.1 ∈ mode.keys :=
  (names_sublist bytes c traceState mode).subset (List.mem_map_of_mem h)

/-- Items whose keys survive the way there and back. -/
structure Propagatable (items : List (List UInt8 × List UInt8)) : Prop where
  nodup : (items.map Prod.fst).Nodup
  nonempty : ∀ item ∈ items, item.1 ≠ []
  lower : ∀ item ∈ items, toLower item.1 = item.1

theorem lowerName_baggageHeader {items : List (List UInt8 × List UInt8)} (h : Propagatable items)
    {item : List UInt8 × List UInt8} (hitem : item ∈ items) :
    toLower (prefixBaggage ++ item.1) = prefixBaggage ++ item.1 := by
  rw [toLower_append, toLower_prefixBaggage, h.lower item hitem]

theorem baggageHeaders_distinct {items : List (List UInt8 × List UInt8)} (h : Propagatable items) :
    Distinct (baggageHeaders items) := by
  have hnames : (baggageHeaders items).map lowerName = (items.map Prod.fst).map (prefixBaggage ++ ·) := by
    rw [baggageHeaders, List.map_map, List.map_map]
    exact List.map_congr_left fun item hitem => lowerName_baggageHeader h hitem
  rw [Distinct, hnames]
  exact h.nodup.map (List.append_right_injective prefixBaggage)

/-- **The headers that are written have different names**, however they are compared. -/
theorem headers_distinct (options : LightStepTracerOptions) {items : List (List UInt8 × List UInt8)}
    (h : Propagatable items) : Distinct (options.headers bytes c traceState items) := by
  have hmode : ∀ mode : PropagationMode, ((mode.headers bytes c traceState).map lowerName).Nodup := fun mode => by
    have hsub := (names_sublist bytes c traceState mode).map toLower
    rw [List.map_map] at hsub
    exact (keys_nodup mode).sublist hsub
  have hmodes : (((uniqifyPropagationModes options.modes []).flatMap
      (PropagationMode.headers bytes c traceState)).map lowerName).Nodup := by
    rw [List.map_flatMap, List.nodup_flatMap]
    refine ⟨fun mode _ => hmode mode, (nodup_uniqifyPropagationModes options.modes []).imp fun hne => ?_⟩
    intro name hname hname'
    obtain ⟨header, hheader, rfl⟩ := List.mem_map.mp hname
    obtain ⟨header', hheader', heq⟩ := List.mem_map.mp hname'
    exact keys_disjoint hne _ (key_mem bytes c traceState hheader) _ (key_mem bytes c traceState hheader') heq.symm
  rw [Distinct, LightStepTracerOptions.headers, List.map_append]
  refine List.Nodup.append hmodes ?_ ?_
  · split
    · exact baggageHeaders_distinct h
    · exact List.nodup_nil
  · intro name hname hbaggage
    obtain ⟨header, hheader, rfl⟩ := List.mem_map.mp hname
    obtain ⟨mode, -, hheader⟩ := List.mem_flatMap.mp hheader
    split at hbaggage
    · obtain ⟨header', hheader', heq⟩ := List.mem_map.mp hbaggage
      obtain ⟨item, hitem, rfl⟩ := List.mem_map.mp hheader'
      have heq : prefixBaggage ++ item.1 = toLower header.1 := (lowerName_baggageHeader h hitem).symm.trans heq
      refine keys_not_baggage mode _ (key_mem bytes c traceState hheader) ?_
      rw [← heq, List.take_left]
    · cases hbaggage

end

/-! ### In a map -/

/-- Headers of different names are set one after the other. -/
theorem setAll_mapWriter (caseSensitive : Bool) {written headers : List Header} (h : Distinct (written ++ headers)) :
    setAll (mapWriter (keyCompare caseSensitive)) headers written = .ok (written ++ headers) := by
  induction headers generalizing written with
  | nil => rw [List.append_nil]; rfl
  | cons header rest ih =>
    have hfresh : ∀ other ∈ written, ¬ keyCompare caseSensitive other.1 header.1 = true := by
      intro other hother hcompare
      rw [Distinct, List.map_append] at h
      exact (List.nodup_append.mp h).2.2 _ (List.mem_map_of_mem hother) _ (List.mem_map_of_mem (List.mem_cons_self ..))
        (toLower_eq_of_keyCompare hcompare)
    have happend : written ++ header :: rest = written ++ [header] ++ rest := List.append_cons ..
    rw [happend] at h ⊢
    rw [setAll, List.foldlM_cons]
    show setAll _ rest (setHeader _ _ _ _) = _
    rw [setHeader_of_fresh hfresh]
    exact ih h

end Lightstep.Tracer

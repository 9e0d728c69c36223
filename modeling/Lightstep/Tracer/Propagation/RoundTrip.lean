import Lightstep.Tracer.Propagation.WrittenHeaders

/-! What is injected is extracted.

The first configured mode finds its own headers among those that were written,
passes over the headers of the other modes, and takes in the baggage. -/
namespace Lightstep.Tracer
open Common Library TraceContext

/-! ### Baggage -/

/-- The map of the items. -/
def baggageMap (items : List (List UInt8 × List UInt8)) (baggage : BaggageProtobufMap) : BaggageProtobufMap :=
  items.foldl (fun baggage item => insertBaggage item.1 item.2 baggage) baggage

theorem lookup_baggageMap {items : List (List UInt8 × List UInt8)} (h : (items.map Prod.fst).Nodup)
    {baggage : BaggageProtobufMap} (hfresh : ∀ item ∈ items, item.1 ∉ baggage) (key value : List UInt8) :
    (baggageMap items baggage).lookup key = some value ↔ baggage.lookup key = some value ∨ (key, value) ∈ items := by
  induction items generalizing baggage with
  | nil => simp [baggageMap]
  | cons item rest ih =>
    obtain ⟨hitem, hrest⟩ := List.nodup_cons.mp h
    have hnot : item.1 ∉ baggage := hfresh item (List.mem_cons_self ..)
    have hfresh' : ∀ other ∈ rest, other.1 ∉ baggage.insert item.1 item.2 := by
      intro other hother hmem
      rcases Finmap.mem_insert.mp hmem with heq | hmem
      · exact hitem (heq ▸ List.mem_map_of_mem hother)
      · exact hfresh other (List.mem_cons_of_mem item hother) hmem
    rw [baggageMap, List.foldl_cons, insertBaggage, if_neg hnot]
    refine (ih hrest hfresh').trans ?_
    rw [List.mem_cons]
    by_cases hkey : key = item.1
    · subst hkey
      have hnone : baggage.lookup item.1 = none := Finmap.lookup_eq_none.mpr hnot
      have hrest : (item.1, value) ∉ rest := fun hmem => hitem (List.mem_map.mpr ⟨_, hmem, rfl⟩)
      rw [Finmap.lookup_insert, hnone]
      simp [hrest, Prod.ext_iff, eq_comm]
    · rw [Finmap.lookup_insert_of_ne _ hkey]
      simp [Prod.ext_iff, hkey]

theorem mem_baggageMap {items : List (List UInt8 × List UInt8)} (h : (items.map Prod.fst).Nodup)
    (key value : List UInt8) : (baggageMap items ∅).lookup key = some value ↔ (key, value) ∈ items := by
  rw [lookup_baggageMap h (fun _ _ => Finmap.notMem_empty) key value]
  simp

theorem toLowerBaggage_eq {items : List (List UInt8 × List UInt8)} (h : ∀ item ∈ items, toLower item.1 = item.1) :
    toLowerBaggage items = baggageMap items ∅ :=
  List.foldl_ext _ _ _ fun baggage item hitem => by rw [h item hitem]

/-- The header of an item is read as it was written. -/
theorem readBaggage_baggageHeader {items : List (List UInt8 × List UInt8)} (h : Propagatable items)
    {item : List UInt8 × List UInt8} (hitem : item ∈ items) (caseSensitive : Bool) (baggage : BaggageProtobufMap) :
    readBaggage prefixBaggage (keyCompare caseSensitive) (prefixBaggage ++ item.1, item.2) baggage =
      insertBaggage item.1 item.2 baggage := by
  have hpos : 0 < item.1.length := List.length_pos_iff.mpr (h.nonempty item hitem)
  have hlength : (prefixBaggage ++ item.1).length > prefixBaggage.length := by
    rw [List.length_append]
    omega
  unfold readBaggage
  simp only [List.take_left, keyCompare_self, and_true, if_pos hlength, List.drop_left, h.lower item hitem]

/-! ### Passing over headers -/

/-- A header that is not one of a mode's and no baggage. -/
structure Foreign (mode : PropagationMode) (header : Header) : Prop where
  key : ∀ key ∈ mode.keys, toLower header.1 ≠ toLower key
  baggage : (toLower header.1).take prefixBaggage.length ≠ prefixBaggage

theorem Foreign.not_keyCompare {mode : PropagationMode} {header : Header} (h : Foreign mode header)
    {key : List UInt8} (hkey : key ∈ mode.keys) (caseSensitive : Bool) :
    ¬ keyCompare caseSensitive header.1 key = true :=
  fun hcompare => h.key key hkey (toLower_eq_of_keyCompare hcompare)

theorem Foreign.readBaggage {mode : PropagationMode} {header : Header} (h : Foreign mode header)
    (caseSensitive : Bool) (baggage : BaggageProtobufMap) :
    readBaggage prefixBaggage (keyCompare caseSensitive) header baggage = baggage := by
  refine if_neg fun hcompare => h.baggage ?_
  rw [toLower_take, toLower_eq_of_keyCompare hcompare.2, toLower_prefixBaggage]

theorem foreign_of_ne {mode mode' : PropagationMode} (h : mode ≠ mode') {header : Header}
    (hheader : header.1 ∈ mode'.keys) : Foreign mode header :=
  ⟨fun key hkey => (keys_disjoint h key hkey header.1 hheader).symm, keys_not_baggage mode' header.1 hheader⟩

/-- The header of an item is none of a mode's. -/
theorem not_keyCompare_baggageHeader {items : List (List UInt8 × List UInt8)} (h : Propagatable items)
    {item : List UInt8 × List UInt8} (hitem : item ∈ items) {mode : PropagationMode} {key : List UInt8}
    (hkey : key ∈ mode.keys) (caseSensitive : Bool) :
    ¬ keyCompare caseSensitive (prefixBaggage ++ item.1) key = true := by
  intro hcompare
  refine keys_not_baggage mode key hkey ?_
  rw [← toLower_eq_of_keyCompare hcompare, lowerName_baggageHeader h hitem, List.take_left]

/-- Reading what is one's own, passing over the rest, and taking in the items. -/
theorem foldlM_written {σ : Type} {read : σ → Header → Expected σ} {own others : List Header}
    {items : List (List UInt8 × List UInt8)} {s t : σ} {take : σ → List UInt8 × List UInt8 → σ}
    (hown : own.foldlM read s = .ok t) (hothers : ∀ header ∈ others, ∀ s, read s header = .ok s)
    (hitems : ∀ item ∈ items, ∀ s, read s (prefixBaggage ++ item.1, item.2) = .ok (take s item)) :
    (own ++ others ++ baggageHeaders items).foldlM read s = .ok (items.foldl take t) := by
  have hpass : others.foldlM read t = .ok t := by
    rw [foldlM_eq_foldl (g := fun s _ => s) hothers]
    exact congrArg Except.ok (List.foldl_fixed others)
  rw [List.foldlM_append, List.foldlM_append, hown]
  show (others.foldlM read t >>= _) = _
  rw [hpass]
  show (baggageHeaders items).foldlM read t = _
  rw [baggageHeaders, List.foldlM_map]
  exact foldlM_eq_foldl hitems t

/-! ### Each mode -/

section
variable {codec : BinaryCodec} {c : TraceContext} {items : List (List UInt8 × List UInt8)} {others contents : List Header}
  {carrier : TextMapReader} {caseSensitive : Bool}

namespace MultiheaderPropagator

/-- What a propagator of several headers reads of its own. -/
theorem readHeader_headers (p : MultiheaderPropagator) (hkeys : (p.keys.map toLower).Nodup) (c : TraceContext)
    (caseSensitive : Bool) (scan : Scan) :
    (p.headers c).foldlM (p.readHeader (keyCompare caseSensitive)) scan =
      .ok ⟨{scan.traceContext with
        traceIdHigh := if p.supports128bit then c.traceIdHigh else 0
        traceIdLow := c.traceIdLow
        parentId := c.parentId}, scan.baggage, c.sampled, scan.count + 2⟩ := by
  have hne : ∀ {lhs rhs}, toLower lhs ≠ toLower rhs → ¬ keyCompare caseSensitive lhs rhs = true :=
    fun h hcompare => h (toLower_eq_of_keyCompare hcompare)
  simp only [keys, List.map_cons, List.map_nil, List.nodup_cons, List.mem_cons, List.not_mem_nil, or_false,
    not_or] at hkeys
  obtain ⟨⟨hspan, hsampled⟩, hsampled', -⟩ := hkeys
  have htraceId : hexToUint128 (if p.supports128bit then uint128ToHex c.traceIdHigh c.traceIdLow
      else uint64ToHex c.traceIdLow) = .ok (if p.supports128bit then c.traceIdHigh else 0, c.traceIdLow) := by
    cases p.supports128bit with
    | false => exact hexToUint128_uint64ToHex c.traceIdLow
    | true => exact hexToUint128_uint128ToHex c.traceIdHigh c.traceIdLow
  have hbit : (!((if c.sampled then oneStr else zeroStr) == falseStr ||
      (if c.sampled then oneStr else zeroStr) == zeroStr)) = c.sampled := by
    cases c.sampled <;> decide
  simp only [headers, List.foldlM_cons, List.foldlM_nil, readHeader, keyCompare_self, if_true, htraceId, bind,
    Except.bind, if_neg (hne (Ne.symm hspan)), if_neg (hne (Ne.symm hsampled)), if_neg (hne (Ne.symm hsampled')),
    hexToUint64_uint64ToHex, hbit]
  rfl

theorem readHeader_foreign (p : MultiheaderPropagator) {mode : PropagationMode} (hkeys : p.keys = mode.keys)
    (hbaggage : p.baggagePrefix = prefixBaggage) {header : Header} (h : Foreign mode header) (caseSensitive : Bool)
    (scan : Scan) : p.readHeader (keyCompare caseSensitive) scan header = .ok scan := by
  have hnot : ∀ key ∈ p.keys, ¬ keyCompare caseSensitive header.1 key = true := fun key hkey =>
    h.not_keyCompare (hkeys ▸ hkey) caseSensitive
  rw [readHeader, if_neg (hnot p.traceIdKey (by simp [keys])), if_neg (hnot p.spanIdKey (by simp [keys])),
    if_neg (hnot p.sampledKey (by simp [keys])), hbaggage, h.readBaggage]

theorem readHeader_baggageHeader (p : MultiheaderPropagator) {mode : PropagationMode} (hkeys : p.keys = mode.keys)
    (hbaggage : p.baggagePrefix = prefixBaggage) {items : List (List UInt8 × List UInt8)} (h : Propagatable items)
    {item : List UInt8 × List UInt8} (hitem : item ∈ items) (caseSensitive : Bool) (scan : Scan) :
    p.readHeader (keyCompare caseSensitive) scan (prefixBaggage ++ item.1, item.2) =
      .ok {scan with baggage := insertBaggage item.1 item.2 scan.baggage} := by
  have hnot : ∀ key ∈ p.keys, ¬ keyCompare caseSensitive (prefixBaggage ++ item.1) key = true := fun key hkey =>
    not_keyCompare_baggageHeader h hitem (hkeys ▸ hkey) caseSensitive
  rw [readHeader, if_neg (hnot p.traceIdKey (by simp [keys])), if_neg (hnot p.spanIdKey (by simp [keys])),
    if_neg (hnot p.sampledKey (by simp [keys])), hbaggage, readBaggage_baggageHeader h hitem]

theorem foldl_items (items : List (List UInt8 × List UInt8)) (scan : Scan) :
    items.foldl (fun scan item => {scan with baggage := insertBaggage item.1 item.2 scan.baggage}) scan =
      {scan with baggage := baggageMap items scan.baggage} := by
  induction items generalizing scan with
  | nil => rfl
  | cons item rest ih => exact ih _

theorem extractSpanContext_eq (p : MultiheaderPropagator) {mode : PropagationMode} (hkeys : p.keys = mode.keys)
    (hbaggage : p.baggagePrefix = prefixBaggage) (hitems : Propagatable items)
    (hothers : ∀ header ∈ others, Foreign mode header) (hdistinct : Distinct (p.headers c ++ others ++ baggageHeaders items))
    (hcarrier : Presents carrier caseSensitive (p.headers c ++ others ++ baggageHeaders items)) (out : Extraction) :
    p.extractSpanContext carrier caseSensitive out = .ok (true,
      ⟨⟨if p.supports128bit then c.traceIdHigh else 0, c.traceIdLow, c.parentId,
        setTraceFlag sampledFlagMask 0 c.sampled, out.traceContext.version⟩, out.traceState,
        baggageMap items out.baggage⟩) := by
  have hwritten := foldlM_written (p.readHeader_headers (hkeys ▸ keys_nodup mode) c caseSensitive
    ⟨out.traceContext, out.baggage, true, 0⟩)
    (fun header h scan => p.readHeader_foreign hkeys hbaggage (hothers header h) caseSensitive scan)
    (fun item h scan => p.readHeader_baggageHeader hkeys hbaggage hitems h caseSensitive scan)
  rw [extractSpanContext, hcarrier.foldlM_readHeader hdistinct hwritten, foldl_items]
  rfl

end MultiheaderPropagator

namespace TraceContextPropagator

theorem readHeader_headers (bytes : List UInt8) (c : TraceContext) (traceState : List UInt8) (caseSensitive : Bool)
    (scan : Bool × Extraction) (h : scan.2.traceState = []) :
    (PropagationMode.traceContext.headers bytes c traceState).foldlM (readHeader (keyCompare caseSensitive)) scan =
      .ok (true, ⟨c, traceState, scan.2.baggage⟩) := by
  have hnot : ¬ keyCompare caseSensitive traceStateHeaderKey traceParentHeaderKey = true := fun hcompare =>
    absurd (toLower_eq_of_keyCompare hcompare) (by decide +kernel)
  simp only [PropagationMode.headers, List.foldlM_cons, readHeader, keyCompare_self, if_true,
    parseTraceContext_serializeTraceContext, bind, Except.bind, pure, Except.pure]
  split
  · rename_i hempty
    rw [hempty, ← h]
    rfl
  · simp only [List.foldlM_cons, List.foldlM_nil, readHeader, keyCompare_self, if_true, if_neg hnot]
    rfl

theorem readHeader_foreign {header : Header} (h : Foreign .traceContext header) (caseSensitive : Bool)
    (scan : Bool × Extraction) : readHeader (keyCompare caseSensitive) scan header = .ok scan := by
  have hnot := fun key (hkey : key ∈ PropagationMode.traceContext.keys) => h.not_keyCompare hkey caseSensitive
  rw [readHeader, if_neg (hnot traceParentHeaderKey (by simp [PropagationMode.keys])),
    if_neg (hnot traceStateHeaderKey (by simp [PropagationMode.keys])), h.readBaggage]

theorem readHeader_baggageHeader (h : Propagatable items) {item : List UInt8 × List UInt8} (hitem : item ∈ items)
    (caseSensitive : Bool) (scan : Bool × Extraction) :
    readHeader (keyCompare caseSensitive) scan (prefixBaggage ++ item.1, item.2) =
      .ok (scan.1, {scan.2 with baggage := insertBaggage item.1 item.2 scan.2.baggage}) := by
  have hnot := fun key (hkey : key ∈ PropagationMode.traceContext.keys) =>
    not_keyCompare_baggageHeader h hitem hkey caseSensitive
  rw [readHeader, if_neg (hnot traceParentHeaderKey (by simp [PropagationMode.keys])),
    if_neg (hnot traceStateHeaderKey (by simp [PropagationMode.keys])), readBaggage_baggageHeader h hitem]

end TraceContextPropagator

namespace CloudTracePropagator

theorem readHeader_headers (bytes : List UInt8) (c : TraceContext) (traceState : List UInt8) (caseSensitive : Bool)
    (scan : Bool × Extraction) :
    (PropagationMode.cloudTrace.headers bytes c traceState).foldlM (readHeader (keyCompare caseSensitive)) scan =
      .ok (true, {scan.2 with traceContext := {scan.2.traceContext with
        traceIdHigh := c.traceIdHigh
        traceIdLow := c.traceIdLow
        parentId := c.parentId
        traceFlags :=
          if c.sampled then setTraceFlag sampledFlagMask scan.2.traceContext.traceFlags true
          else setTraceFlag sampledFlagMask
            (setTraceFlag sampledFlagMask scan.2.traceContext.traceFlags true) false}}) := by
  simp only [PropagationMode.headers, List.foldlM_cons, List.foldlM_nil, readHeader, keyCompare_self, if_true,
    parseCloudTrace_serializeCloudTrace, bind, Except.bind]
  rfl

theorem readHeader_foreign {header : Header} (h : Foreign .cloudTrace header) (caseSensitive : Bool)
    (scan : Bool × Extraction) : readHeader (keyCompare caseSensitive) scan header = .ok scan := by
  rw [readHeader, if_neg (h.not_keyCompare (by simp [PropagationMode.keys]) caseSensitive), h.readBaggage]

theorem readHeader_baggageHeader (h : Propagatable items) {item : List UInt8 × List UInt8} (hitem : item ∈ items)
    (caseSensitive : Bool) (scan : Bool × Extraction) :
    readHeader (keyCompare caseSensitive) scan (prefixBaggage ++ item.1, item.2) =
      .ok (scan.1, {scan.2 with baggage := insertBaggage item.1 item.2 scan.2.baggage}) := by
  have hkey : propagationSingleKey ∈ PropagationMode.cloudTrace.keys := List.mem_cons_self ..
  have hnot := not_keyCompare_baggageHeader h hitem hkey caseSensitive
  rw [readHeader, if_neg hnot, readBaggage_baggageHeader h hitem]

end CloudTracePropagator

theorem foldl_items (items : List (List UInt8 × List UInt8)) (scan : Bool × Extraction) :
    items.foldl (fun scan item => (scan.1, {scan.2 with baggage := insertBaggage item.1 item.2 scan.2.baggage})) scan =
      (scan.1, {scan.2 with baggage := baggageMap items scan.2.baggage}) := by
  induction items generalizing scan with
  | nil => rfl
  | cons item rest ih => exact ih _

/-- The codec gives a message back, its baggage in any order. -/
structure BinaryCodec.RoundTrips (codec : BinaryCodec) (basic : BasicTracerCarrier) : Prop where
  parse_nil : codec.parse [] = some ⟨none⟩
  parse_serialize : ∃ bytes baggageItems, codec.serialize ⟨some basic⟩ = some bytes ∧
    codec.parse bytes = some ⟨some {basic with baggageItems := baggageItems}⟩ ∧
    baggageItems.Perm basic.baggageItems

theorem fillCarrier_eq (h : (items.map Prod.fst).Nodup) (traceId spanId : UInt64) (sampled : Bool) :
    fillCarrier traceId spanId sampled items = ⟨some ⟨traceId, spanId, sampled, items⟩⟩ := by
  rw [fillCarrier, foldl_setHeader (show (([] ++ items).map Prod.fst).Nodup from h), List.nil_append]

/-- What the message is for, is read from it. -/
theorem extractBinary_of_roundTrips (h : Propagatable items) {bytes : List UInt8}
    (hcodec : codec.RoundTrips ⟨c.traceIdLow, c.parentId, c.sampled, items⟩)
    (hbytes : injectBinary codec c.traceIdLow c.parentId c.sampled items = .ok bytes) :
    bytes ≠ [] ∧ ∃ baggage, extractBinary codec bytes = .ok (some ⟨c.traceIdLow, c.parentId, c.sampled, baggage⟩) ∧
      ∀ key value, baggage.lookup key = some value ↔ (key, value) ∈ items := by
  obtain ⟨bytes', baggageItems, hserialize, hparse, hperm⟩ := hcodec.parse_serialize
  have hsame : bytes' = bytes := by
    rw [injectBinary, fillCarrier_eq h.nodup, hserialize] at hbytes
    exact Except.ok.inj hbytes
  subst hsame
  have hne : bytes' ≠ [] := by
    rintro rfl
    rw [hcodec.parse_nil] at hparse
    cases hparse
  have hlower : ∀ item ∈ baggageItems, toLower item.1 = item.1 := fun item hitem => h.lower item (hperm.subset hitem)
  have hnodup : (baggageItems.map Prod.fst).Nodup := (hperm.map Prod.fst).nodup_iff.mpr h.nodup
  refine ⟨hne, _, ?_, fun key value => (mem_baggageMap hnodup key value).trans hperm.mem_iff⟩
  rw [extractBinary, if_neg hne, hparse, ← toLowerBaggage_eq hlower]
  rfl

/-- What an extraction in a mode owes. -/
def PropagationMode.Carries (c : TraceContext) (traceState : List UInt8) (out : Extraction) : PropagationMode → Prop
  | lightstep | envoy => out.traceContext.traceIdHigh = 0 ∧ out.traceContext.traceIdLow = c.traceIdLow
  | b3 | cloudTrace =>
    out.traceContext.traceIdHigh = c.traceIdHigh ∧ out.traceContext.traceIdLow = c.traceIdLow
  | traceContext =>
    out.traceContext.traceIdHigh = c.traceIdHigh ∧ out.traceContext.traceIdLow = c.traceIdLow ∧
      out.traceContext.traceFlags = c.traceFlags ∧ out.traceState = traceState

structure Restored (mode : PropagationMode) (c : TraceContext) (traceState : List UInt8)
    (items : List (List UInt8 × List UInt8)) (out : Extraction) : Prop where
  parentId : out.traceContext.parentId = c.parentId
  sampled : out.traceContext.sampled = c.sampled
  baggage : ∀ key value, out.baggage.lookup key = some value ↔ (key, value) ∈ items
  carried : mode.Carries c traceState out

theorem sampled_setTraceFlag (high low parentId : UInt64) (flags version : UInt8) (value : Bool) :
    TraceContext.sampled ⟨high, low, parentId, setTraceFlag sampledFlagMask flags value, version⟩ = value :=
  isTraceFlagSet_setTraceFlag flags value

/-- The mode that wrote first finds what it wrote. -/
theorem mode_extractSpanContext {mode : PropagationMode} {bytes traceState : List UInt8} {sends : Bool}
    (hitems : Propagatable items) (hsends : mode ≠ .envoy → sends = true)
    (hcodec : mode = .envoy → codec.RoundTrips ⟨c.traceIdLow, c.parentId, c.sampled, items⟩ ∧
      injectBinary codec c.traceIdLow c.parentId c.sampled items = .ok bytes)
    (hothers : ∀ header ∈ others, Foreign mode header)
    (hcontents : contents = mode.headers bytes c traceState ++ others ++ if sends then baggageHeaders items else [])
    (hdistinct : Distinct contents) (hcarrier : Presents carrier caseSensitive contents) :
    ∃ out, mode.propagator.extractSpanContext codec carrier caseSensitive .new = .ok (true, out) ∧
      Restored mode c traceState items out := by
  have hbaggage := mem_baggageMap hitems.nodup
  cases mode with
  | lightstep =>
    rw [hsends (by decide), if_pos rfl] at hcontents
    subst hcontents
    refine ⟨_, lightStepPropagator.extractSpanContext_eq rfl rfl hitems hothers hdistinct hcarrier .new, rfl,
      sampled_setTraceFlag .., hbaggage, rfl, rfl⟩
  | b3 =>
    rw [hsends (by decide), if_pos rfl] at hcontents
    subst hcontents
    refine ⟨_, b3Propagator.extractSpanContext_eq rfl rfl hitems hothers hdistinct hcarrier .new, rfl,
      sampled_setTraceFlag .., hbaggage, rfl, rfl⟩
  | envoy =>
    obtain ⟨hcodec, hbytes⟩ := hcodec rfl
    obtain ⟨hne, baggage, hextract, hlookup⟩ := extractBinary_of_roundTrips hitems hcodec hbytes
    have hmem : (EnvoyPropagator.propagationSingleKey, Base64.encode bytes) ∈ contents := by
      rw [hcontents]
      exact List.mem_append_left _ (List.mem_append_left _ (List.mem_cons_self ..))
    have hfound := hcarrier.lookupKey_eq hdistinct hmem
    obtain ⟨b, rest, rfl⟩ := List.exists_cons_of_ne_nil hne
    refine ⟨⟨⟨0, c.traceIdLow, c.parentId, setTraceFlag sampledFlagMask 0 c.sampled, traceContextVersion⟩, [], baggage⟩,
      ?_, rfl, sampled_setTraceFlag .., hlookup, rfl, rfl⟩
    simp only [PropagationMode.propagator, Propagator.extractSpanContext, EnvoyPropagator.extractSpanContext, hfound,
      Base64.decode_encode, hextract, bind, Except.bind]
    rfl
  | traceContext =>
    rw [hsends (by decide), if_pos rfl] at hcontents
    subst hcontents
    have hread := hcarrier.foldlM_eq hdistinct (TraceContextPropagator.readHeader_canonical caseSensitive)
      (fun x y h => (TraceContextPropagator.readHeader_effect _ x).comm (TraceContextPropagator.readHeader_effect _ y) h)
      (false, .new)
    have hwritten := foldlM_written
      (TraceContextPropagator.readHeader_headers bytes c traceState caseSensitive (false, .new) rfl)
      (fun header h scan => TraceContextPropagator.readHeader_foreign (hothers header h) caseSensitive scan)
      (fun item h scan => TraceContextPropagator.readHeader_baggageHeader hitems h caseSensitive scan)
    rw [foldl_items] at hwritten
    exact ⟨_, hread.trans hwritten, rfl, rfl, hbaggage, rfl, rfl, rfl, rfl⟩
  | cloudTrace =>
    rw [hsends (by decide), if_pos rfl] at hcontents
    subst hcontents
    have hread := hcarrier.foldlM_eq hdistinct (CloudTracePropagator.readHeader_canonical caseSensitive)
      (fun x y h => (CloudTracePropagator.readHeader_effect _ x []).comm (CloudTracePropagator.readHeader_effect _ y []) h)
      (false, .new)
    have hwritten := foldlM_written
      (CloudTracePropagator.readHeader_headers bytes c traceState caseSensitive (false, .new))
      (fun header h scan => CloudTracePropagator.readHeader_foreign (hothers header h) caseSensitive scan)
      (fun item h scan => CloudTracePropagator.readHeader_baggageHeader hitems h caseSensitive scan)
    rw [foldl_items] at hwritten
    refine ⟨_, hread.trans hwritten, rfl, ?_, hbaggage, rfl, rfl⟩
    cases hsampled : c.sampled <;> exact sampled_setTraceFlag ..

end

/-- The first configured mode. -/
def LightStepTracerOptions.firstMode (options : LightStepTracerOptions) : PropagationMode :=
  options.modes.headD .lightstep

theorem modes_eq_cons (options : LightStepTracerOptions) : ∃ rest, options.modes = options.firstMode :: rest := by
  have hne : options.modes ≠ [] := by
    unfold LightStepTracerOptions.modes
    split
    · assumption
    · split <;> simp
  obtain ⟨mode, rest, heq⟩ := List.exists_cons_of_ne_nil hne
  exact ⟨rest, by rw [LightStepTracerOptions.firstMode, heq]; rfl⟩

/-- The headers of the first mode come first; those of the other modes are foreign to it. -/
theorem headers_eq_append (options : LightStepTracerOptions) (bytes : List UInt8) (c : TraceContext)
    (traceState : List UInt8) (items : List (List UInt8 × List UInt8)) : ∃ others,
    options.headers bytes c traceState items = options.firstMode.headers bytes c traceState ++ others ++
        (if options.sendsBaggage then baggageHeaders items else []) ∧
      ∀ header ∈ others, Foreign options.firstMode header := by
  obtain ⟨rest, hmodes⟩ := modes_eq_cons options
  refine ⟨(uniqifyPropagationModes rest [options.firstMode]).flatMap (PropagationMode.headers bytes c traceState),
    ?_, fun header hheader => ?_⟩
  · rw [LightStepTracerOptions.headers, hmodes]
    rfl
  · obtain ⟨mode, hmode, hheader⟩ := List.mem_flatMap.mp hheader
    have hne : options.firstMode ≠ mode := fun heq =>
      (mem_uniqifyPropagationModes.mp hmode).2 (heq ▸ List.mem_cons_self ..)
    exact foreign_of_ne hne (key_mem bytes c traceState hheader)

/-- The propagator of the first mode extracts first. -/
theorem extractPropagators_eq_cons (options : LightStepTracerOptions) : ∃ others,
    (makePropagationOptions options).extractPropagators = options.firstMode.propagator :: others := by
  obtain ⟨rest, hmodes⟩ := modes_eq_cons options
  unfold makePropagationOptions setInjectExtractPropagationModes
  rw [hmodes]
  dsimp only
  rw [List.flatMap_cons]
  split <;> exact ⟨_, rfl⟩

/-- **Extraction undoes injection**, for every configuration, in whatever order and by whatever
comparison the headers are read. -/
theorem extract_inject {codec : BinaryCodec} {options : LightStepTracerOptions} {c : TraceContext}
    {items : List (List UInt8 × List UInt8)} (hitems : Propagatable items)
    (hcodec : .envoy ∈ options.modes → codec.RoundTrips ⟨c.traceIdLow, c.parentId, c.sampled, items⟩)
    (traceState : List UInt8) (mapCaseSensitive caseSensitive : Bool) :
    ∃ contents, injectSpanContext codec (makePropagationOptions options) (mapWriter (keyCompare mapCaseSensitive))
        c traceState items [] = .ok contents ∧
      ∀ carrier, Presents carrier caseSensitive contents →
        ∃ out, extractSpanContext codec (makePropagationOptions options) carrier caseSensitive .new = .ok (true, out) ∧
          Restored options.firstMode c traceState items out := by
  have hbytes : ∃ bytes, .envoy ∈ options.modes →
      injectBinary codec c.traceIdLow c.parentId c.sampled items = .ok bytes := by
    by_cases henvoy : .envoy ∈ options.modes
    · obtain ⟨bytes, -, hserialize, -⟩ := (hcodec henvoy).parse_serialize
      exact ⟨bytes, fun _ => by rw [injectBinary, fillCarrier_eq hitems.nodup, hserialize]⟩
    · exact ⟨[], fun h => absurd h henvoy⟩
  obtain ⟨bytes, hbytes⟩ := hbytes
  have hdistinct := headers_distinct bytes c traceState options hitems
  have hwritten := (injectSpanContext_eq hbytes (mapWriter (keyCompare mapCaseSensitive)) traceState []).trans
    (setAll_mapWriter mapCaseSensitive
      (show Distinct ([] ++ options.headers bytes c traceState items) from hdistinct))
  refine ⟨_, hwritten, fun carrier hcarrier => ?_⟩
  obtain ⟨rest, hmodes⟩ := modes_eq_cons options
  have hsends : options.firstMode ≠ .envoy → options.sendsBaggage = true := fun hne => by
    rw [LightStepTracerOptions.sendsBaggage, hmodes, bne_iff_ne]
    exact fun heq => hne (List.cons.inj heq).1
  have henvoy : options.firstMode = .envoy → .envoy ∈ options.modes := fun heq => by
    rw [hmodes, heq]
    exact List.mem_cons_self ..
  obtain ⟨others, hcontents, hothers⟩ := headers_eq_append options bytes c traceState items
  obtain ⟨out, hextract, hrestored⟩ := mode_extractSpanContext hitems hsends
    (fun heq => ⟨hcodec (henvoy heq), hbytes (henvoy heq)⟩) hothers hcontents hdistinct hcarrier
  obtain ⟨propagators, hextractors⟩ := extractPropagators_eq_cons options
  refine ⟨out, ?_, hrestored⟩
  have hextract : options.firstMode.propagator.extractSpanContext codec carrier caseSensitive
      {Extraction.new with baggage := ∅} = .ok (true, out) := hextract
  rw [extractSpanContext, hextractors, tryExtract, hextract]
  rfl

end Lightstep.Tracer

import Lightstep.Tracer.Propagation.BinaryCarrier
import Lightstep.Tracer.Traces
import Mathlib.Algebra.Order.BigOperators.Group.List

/-! Span contexts in binary carriers.

A stream carries what one message has room for: the lower half of the trace id, the span id,
whether the span is sampled, and the baggage, whose keys arrive in lower case. A message that is
handed over as it is keeps the keys. What arrives is compared with what was sent by the equality
that span contexts have. -/
namespace Lightstep.Tracer
open Common Library TraceContext

/-! ### Streams -/

/-- What a stream has been given, and how many bytes more it takes before it goes bad, if it ever does. -/
structure OutputStream where
  written : List UInt8
  room : Option Nat
  good : Bool

structure InputStream where
  bytes : List UInt8
  good : Bool

namespace OutputStream

def takes (numBytes : Nat) (s : OutputStream) : Bool := s.good && s.room.all fun room => numBytes ≤ room

/-- A stream that goes bad has taken what it had room for. -/
def write (bytes : List UInt8) (s : OutputStream) : OutputStream :=
  if s.takes bytes.length then {s with written := s.written ++ bytes, room := s.room.map fun room => room - bytes.length}
  else if s.good then {s with written := s.written ++ bytes.take (s.room.getD 0), room := some 0, good := false}
  else s

theorem good_write (bytes : List UInt8) (s : OutputStream) : (s.write bytes).good = s.takes bytes.length := by
  unfold write
  split
  · rename_i htakes
    rw [htakes]
    exact (Bool.and_eq_true_iff.mp htakes).1
  · rename_i htakes
    rw [Bool.eq_false_of_not_eq_true htakes]
    split
    · rfl
    · simpa using ‹¬s.good = true›

end OutputStream

/-- `InjectSpanContext` into a stream. -/
def injectStream (codec : BinaryCodec) (traceId spanId : UInt64) (sampled : Bool)
    (baggage : List (List UInt8 × List UInt8)) (s : OutputStream) : Expected Unit × OutputStream :=
  match injectBinary codec traceId spanId sampled baggage with
  | .error error => (.error error, s)
  | .ok bytes =>
    let s := s.write bytes
    (if s.good then .ok () else .error .ioError, s)

/-- `ExtractSpanContext` from a stream. -/
def extractStream (codec : BinaryCodec) (s : InputStream) : Expected (Option BinaryContext) :=
  if s.good then extractBinary codec s.bytes else .error .ioError

namespace LightStepSpanContext

/-- `InjectImpl` for a stream. -/
def injectStream (codec : BinaryCodec) (c : LightStepSpanContext) (s : OutputStream) : Expected Unit × OutputStream :=
  Tracer.injectStream codec c.traceIdLow c.spanId c.sampled c.baggage s

/-- What `operator==` compares of the baggage. -/
def extractBaggage (c : LightStepSpanContext) : BaggageProtobufMap := baggageMap c.baggage ∅

/-- `operator==`. -/
def equals (lhs rhs : LightStepSpanContext) : Bool :=
  lhs.traceIdHigh == rhs.traceIdHigh && lhs.traceIdLow == rhs.traceIdLow && lhs.spanId == rhs.spanId &&
    lhs.traceState == rhs.traceState && lhs.traceFlags == rhs.traceFlags &&
      decide (lhs.extractBaggage = rhs.extractBaggage)

end LightStepSpanContext

/-- `ExtractImpl` for a stream. -/
def extractStreamImpl (codec : BinaryCodec) (s : InputStream) : Expected (Option ImmutableSpanContext) := do
  let context ← extractStream codec s
  return context.map fun context =>
    ⟨0, context.traceId, context.spanId, setTraceFlag sampledFlagMask 0 context.sampled, [], context.baggage⟩

/-! ### Messages that are handed over -/

inductive CarrierError where
  | invalidCarrier
  | invalidSpanContext
  deriving DecidableEq

/-- `MakeSpanContext`. -/
def makeSpanContext (traceId spanId : UInt64) (sampled : Bool) (baggage : List (List UInt8 × List UInt8)) :
    ImmutableSpanContext :=
  ⟨0, traceId, spanId, setTraceFlag sampledFlagMask 0 sampled, [], baggageMap baggage ∅⟩

/-- `LightStepBinaryWriter::Inject`, with `GetTraceSpanIdsSampled`. -/
def LightStepBinaryWriter.inject (isLightStepTracer : Bool) (spanContext : SpanContextPointer) :
    Except CarrierError BinaryCarrier :=
  if isLightStepTracer then
    match spanContext with
    | .lightStep c => .ok (fillCarrier c.traceIdLow c.spanId c.sampled c.baggage)
    | _ => .error .invalidSpanContext
  else .error .invalidCarrier

/-- `LightStepBinaryReader::Extract`. -/
def LightStepBinaryReader.extract (isLightStepTracer : Bool) (carrier : Option BinaryCarrier) :
    Except CarrierError (Option ImmutableSpanContext) :=
  if isLightStepTracer then
    .ok (carrier.map fun carrier =>
      let basic := carrier.basicCtx.getD .default
      makeSpanContext basic.traceId basic.spanId basic.sampled basic.baggageItems)
  else .error .invalidCarrier

/-! ### Baggage -/

/-- A map iterates over what it has. -/
structure Iterates (iterate : BaggageProtobufMap → List (List UInt8 × List UInt8)) : Prop where
  nodup : ∀ baggage, ((iterate baggage).map Prod.fst).Nodup
  mem_iterate : ∀ baggage key value, (key, value) ∈ iterate baggage ↔ baggage.lookup key = some value

def lowerItem (item : List UInt8 × List UInt8) : List UInt8 × List UInt8 := (toLower item.1, item.2)

/-- Under a key there is the value of an item with it. -/
theorem mem_of_lookup_baggageMap {items : List (List UInt8 × List UInt8)} {baggage : BaggageProtobufMap}
    {key value : List UInt8} (h : (baggageMap items baggage).lookup key = some value) :
    baggage.lookup key = some value ∨ (key, value) ∈ items := by
  induction items generalizing baggage with
  | nil => exact .inl h
  | cons item rest ih =>
    obtain hinsert | hrest := @ih (insertBaggage item.1 item.2 baggage) h
    · unfold insertBaggage at hinsert
      split at hinsert
      · exact .inl hinsert
      · by_cases hkey : key = item.1
        · subst hkey
          rw [Finmap.lookup_insert] at hinsert
          cases hinsert
          exact .inr (List.mem_cons_self ..)
        · rw [Finmap.lookup_insert_of_ne _ hkey] at hinsert
          exact .inl hinsert
    · exact .inr (List.mem_cons_of_mem item hrest)

theorem mem_insertBaggage {key value other : List UInt8} {baggage : BaggageProtobufMap} :
    other ∈ insertBaggage key value baggage ↔ other = key ∨ other ∈ baggage := by
  unfold insertBaggage
  split
  · exact ⟨.inr, fun h => h.elim (fun heq => heq ▸ ‹key ∈ baggage›) id⟩
  · exact Finmap.mem_insert

/-- The keys are those of the items. -/
theorem mem_keys_baggageMap {items : List (List UInt8 × List UInt8)} {baggage : BaggageProtobufMap} {key : List UInt8} :
    key ∈ baggageMap items baggage ↔ key ∈ baggage ∨ ∃ item ∈ items, item.1 = key := by
  induction items generalizing baggage with
  | nil => simp [baggageMap]
  | cons item rest ih =>
    rw [show baggageMap (item :: rest) baggage = baggageMap rest (insertBaggage item.1 item.2 baggage) from rfl, ih,
      mem_insertBaggage]
    simp only [List.mem_cons, exists_eq_or_imp, @eq_comm _ key]
    tauto

theorem toLowerBaggage_eq_baggageMap (items : List (List UInt8 × List UInt8)) :
    toLowerBaggage items = baggageMap (items.map lowerItem) ∅ := by
  rw [toLowerBaggage, baggageMap, List.foldl_map]
  rfl

/-! ### What arrives -/

/-- What is left of a context behind a stream. -/
structure StreamArrived (c c' : LightStepSpanContext) : Prop where
  traceIdHigh : c'.traceIdHigh = 0
  traceIdLow : c'.traceIdLow = c.traceIdLow
  spanId : c'.spanId = c.spanId
  traceFlags : c'.traceFlags = setTraceFlag sampledFlagMask 0 c.sampled
  traceState : c'.traceState = []
  nodup : (c'.baggage.map Prod.fst).Nodup
  items : c'.baggage ⊆ c.baggage.map lowerItem
  keys : ∀ item ∈ c.baggage, toLower item.1 ∈ c'.baggage.map Prod.fst

/-- What a message has room for. -/
structure Carriable (c : LightStepSpanContext) : Prop where
  traceIdHigh : c.traceIdHigh = 0
  traceState : c.traceState = []
  traceFlags : c.traceFlags ≤ sampledFlagMask

namespace LightStepSpanContext

theorem equals_iff {lhs rhs : LightStepSpanContext} : lhs.equals rhs = true ↔
    lhs.traceIdHigh = rhs.traceIdHigh ∧ lhs.traceIdLow = rhs.traceIdLow ∧ lhs.spanId = rhs.spanId ∧
      lhs.traceState = rhs.traceState ∧ lhs.traceFlags = rhs.traceFlags ∧
        lhs.extractBaggage = rhs.extractBaggage := by
  simp [equals, and_assoc]

end LightStepSpanContext

theorem setTraceFlag_sampled_iff (flags : UInt8) :
    setTraceFlag sampledFlagMask 0 (isTraceFlagSet sampledFlagMask flags) = flags ↔ flags ≤ sampledFlagMask := by
  have hflags : ∀ n, n < 256 → (setTraceFlag sampledFlagMask 0 (isTraceFlagSet sampledFlagMask n.toUInt8) =
      n.toUInt8 ↔ n.toUInt8 ≤ sampledFlagMask) := by
    decide +kernel
  have h := hflags flags.toNat flags.toNat_lt
  rwa [Nat.toUInt8, UInt8.ofNat_toNat] at h

theorem baggageMap_perm {a b : List (List UInt8 × List UInt8)} (hnodup : (a.map Prod.fst).Nodup) (h : b.Perm a) :
    baggageMap b ∅ = baggageMap a ∅ := by
  apply Finmap.ext_lookup
  intro key
  apply Option.ext
  intro value
  rw [mem_baggageMap hnodup, mem_baggageMap ((h.map Prod.fst).nodup_iff.mpr hnodup)]
  exact h.mem_iff

theorem baggageMap_iterate {iterate : BaggageProtobufMap → List (List UInt8 × List UInt8)} (h : Iterates iterate)
    (baggage : BaggageProtobufMap) : baggageMap (iterate baggage) ∅ = baggage := by
  apply Finmap.ext_lookup
  intro key
  apply Option.ext
  intro value
  rw [mem_baggageMap (h.nodup baggage), h.mem_iterate]

/-- **What has arrived equals what was sent** if it fits into a message and its keys are in lower case. -/
theorem StreamArrived.equals_iff {c c' : LightStepSpanContext} (h : StreamArrived c c')
    (hnodup : (c.baggage.map Prod.fst).Nodup) :
    c'.equals c = true ↔ Carriable c ∧ ∀ item ∈ c.baggage, toLower item.1 = item.1 := by
  rw [LightStepSpanContext.equals_iff, h.traceIdHigh, h.traceState, h.traceFlags]
  constructor
  · rintro ⟨hhigh, -, -, hstate, hflags, hbaggage⟩
    refine ⟨⟨hhigh.symm, hstate.symm, (setTraceFlag_sampled_iff c.traceFlags).mp hflags⟩, fun item hitem => ?_⟩
    -- a key that arrives is in lower case, and this one does
    have hmem : item.1 ∈ c'.extractBaggage := by
      rw [hbaggage]
      exact mem_keys_baggageMap.mpr (.inr ⟨item, hitem, rfl⟩)
    obtain hempty | ⟨arrived, harrived, hkey⟩ := mem_keys_baggageMap.mp hmem
    · exact absurd hempty Finmap.notMem_empty
    · obtain ⟨sent, -, rfl⟩ := List.mem_map.mp (h.items harrived)
      rw [← hkey]
      exact toLower_toLower sent.1
  · rintro ⟨hcarriable, hlower⟩
    have hitem : ∀ item ∈ c.baggage, lowerItem item = item := fun item hitem => Prod.ext (hlower item hitem) rfl
    have hitems : c.baggage.map lowerItem = c.baggage := by rw [List.map_congr_left hitem, List.map_id']
    have hperm : c'.baggage.Perm c.baggage := by
      refine (List.perm_ext_iff_of_nodup h.nodup.of_map hnodup.of_map).mpr fun item => ?_
      refine ⟨fun hitem => hitems ▸ h.items hitem, fun hitem => ?_⟩
      obtain ⟨arrived, harrived, hkey⟩ := List.mem_map.mp (h.keys item hitem)
      rw [hlower item hitem] at hkey
      have hsent : arrived ∈ c.baggage := hitems ▸ h.items harrived
      rwa [List.inj_on_of_nodup_map hnodup hsent hitem hkey] at harrived
    exact ⟨hcarriable.traceIdHigh.symm, h.traceIdLow, h.spanId, hcarriable.traceState.symm,
      (setTraceFlag_sampled_iff c.traceFlags).mpr hcarriable.traceFlags, baggageMap_perm hnodup hperm⟩

/-- A map in lower case has the items that were sent, in lower case, and a key for each. -/
theorem arrives_toLowerBaggage {iterate : BaggageProtobufMap → List (List UInt8 × List UInt8)} (h : Iterates iterate)
    (items : List (List UInt8 × List UInt8)) :
    iterate (toLowerBaggage items) ⊆ items.map lowerItem ∧
      ∀ item ∈ items, toLower item.1 ∈ (iterate (toLowerBaggage items)).map Prod.fst := by
  rw [toLowerBaggage_eq_baggageMap]
  constructor
  · rintro ⟨key, value⟩ hitem
    obtain hempty | hmem := mem_of_lookup_baggageMap ((h.mem_iterate _ key value).mp hitem)
    · rw [Finmap.lookup_empty] at hempty
      cases hempty
    · exact hmem
  · intro item hitem
    have hkey : toLower item.1 ∈ baggageMap (items.map lowerItem) ∅ :=
      mem_keys_baggageMap.mpr (.inr ⟨lowerItem item, List.mem_map_of_mem hitem, rfl⟩)
    obtain ⟨value, hvalue⟩ := Finmap.mem_iff.mp hkey
    exact List.mem_map.mpr ⟨_, (h.mem_iterate _ _ value).mpr hvalue, rfl⟩

/-! ### Streams between tracers -/

/-- A stream that takes all that is written, read by another tracer. -/
structure StreamLeg where
  codec : BinaryCodec
  iterate : BaggageProtobufMap → List (List UInt8 × List UInt8)

namespace StreamLeg

def cross (leg : StreamLeg) (c : LightStepSpanContext) : Expected (Option LightStepSpanContext) := do
  let (injected, stream) := c.injectStream leg.codec ⟨[], none, true⟩
  injected
  let context ← extractStreamImpl leg.codec ⟨stream.written, true⟩
  return context.map fun context => context.context leg.iterate

/-- A context that is sent from stream to stream. -/
def crossAll : List StreamLeg → LightStepSpanContext → Expected (Option LightStepSpanContext)
  | [], c => .ok (some c)
  | leg :: rest, c => do
    match ← leg.cross c with
    | none => return none
    | some c => crossAll rest c

/-- The codec gives back what it is given of this context on its way. -/
structure Encodes (leg : StreamLeg) (c : LightStepSpanContext) : Prop where
  sent : leg.codec.RoundTrips ⟨c.traceIdLow, c.spanId, c.sampled, c.baggage⟩
  passedOn : ∀ items, (items.map Prod.fst).Nodup → items.Subperm (c.baggage.map lowerItem) →
    leg.codec.RoundTrips ⟨c.traceIdLow, c.spanId, c.sampled, items⟩

end StreamLeg

/-- **A stream takes a context that is encoded as a whole or goes bad**, and the bytes of it are never none. -/
theorem injectStream_eq {codec : BinaryCodec} {c : LightStepSpanContext} (hnodup : (c.baggage.map Prod.fst).Nodup)
    (hcodec : codec.RoundTrips ⟨c.traceIdLow, c.spanId, c.sampled, c.baggage⟩) : ∃ bytes items, bytes ≠ [] ∧
      codec.parse bytes = some ⟨some ⟨c.traceIdLow, c.spanId, c.sampled, items⟩⟩ ∧ items.Perm c.baggage ∧
        ∀ s, c.injectStream codec s = (if s.takes bytes.length then .ok () else .error .ioError, s.write bytes) := by
  obtain ⟨bytes, items, hserialize, hparse, hperm⟩ := hcodec.parse_serialize
  refine ⟨bytes, items, ?_, hparse, hperm, fun s => ?_⟩
  · rintro rfl
    rw [hcodec.parse_nil] at hparse
    cases hparse
  · rw [LightStepSpanContext.injectStream, injectStream, injectBinary, fillCarrier_eq hnodup, hserialize]
    simp only [OutputStream.good_write]

namespace StreamLeg
variable {leg : StreamLeg} {c c' : LightStepSpanContext}

theorem cross_arrived (hiterates : Iterates leg.iterate) (hnodup : (c.baggage.map Prod.fst).Nodup)
    (hcodec : leg.codec.RoundTrips ⟨c.traceIdLow, c.spanId, c.sampled, c.baggage⟩) :
    ∃ c', leg.cross c = .ok (some c') ∧ StreamArrived c c' := by
  obtain ⟨bytes, items, hne, hparse, hperm, hinject⟩ := injectStream_eq hnodup hcodec
  obtain ⟨hitems, hkeys⟩ := arrives_toLowerBaggage hiterates items
  have hwrite : (OutputStream.write bytes ⟨[], none, true⟩).written = bytes := rfl
  refine ⟨⟨0, c.traceIdLow, c.spanId, setTraceFlag sampledFlagMask 0 c.sampled, [],
    leg.iterate (toLowerBaggage items)⟩, ?_, ?_⟩
  · have htakes : OutputStream.takes bytes.length ⟨[], none, true⟩ = true := rfl
    simp only [cross, hinject, htakes, hwrite, extractStreamImpl, extractStream, extractBinary, if_neg hne, hparse,
      if_true]
    rfl
  · exact ⟨rfl, rfl, rfl, rfl, rfl, hiterates.nodup _, fun item hitem => (hperm.map lowerItem).subset (hitems hitem),
      fun item hitem => hkeys item (hperm.symm.subset hitem)⟩

end StreamLeg

theorem StreamArrived.sampled {c c' : LightStepSpanContext} (h : StreamArrived c c') : c'.sampled = c.sampled := by
  rw [LightStepSpanContext.sampled, h.traceFlags]
  exact isTraceFlagSet_setTraceFlag 0 c.sampled

theorem lowerItem_lowerItem (item : List UInt8 × List UInt8) : lowerItem (lowerItem item) = lowerItem item :=
  Prod.ext (toLower_toLower item.1) rfl

/-- Behind two streams there is left what is left behind one. -/
theorem StreamArrived.trans {c c₁ c₂ : LightStepSpanContext} (h₁ : StreamArrived c c₁) (h₂ : StreamArrived c₁ c₂) :
    StreamArrived c c₂ where
  traceIdHigh := h₂.traceIdHigh
  traceIdLow := h₂.traceIdLow.trans h₁.traceIdLow
  spanId := h₂.spanId.trans h₁.spanId
  traceFlags := by rw [h₂.traceFlags, h₁.sampled]
  traceState := h₂.traceState
  nodup := h₂.nodup
  items := by
    intro item hitem
    obtain ⟨item₁, hitem₁, rfl⟩ := List.mem_map.mp (h₂.items hitem)
    obtain ⟨sent, hsent, rfl⟩ := List.mem_map.mp (h₁.items hitem₁)
    rw [lowerItem_lowerItem]
    exact List.mem_map_of_mem hsent
  keys := by
    intro item hitem
    obtain ⟨item₁, hitem₁, hkey⟩ := List.mem_map.mp (h₁.keys item hitem)
    have h := h₂.keys item₁ hitem₁
    rwa [hkey, toLower_toLower] at h

theorem StreamLeg.Encodes.arrived {leg : StreamLeg} {c c' : LightStepSpanContext} (h : leg.Encodes c)
    (harrived : StreamArrived c c') : leg.Encodes c' := by
  have hsent : c'.baggage.Subperm (c.baggage.map lowerItem) := List.subperm_of_subset harrived.nodup.of_map harrived.items
  constructor
  · rw [harrived.traceIdLow, harrived.spanId, harrived.sampled]
    exact h.passedOn _ harrived.nodup hsent
  · intro items hnodup hitems
    rw [harrived.traceIdLow, harrived.spanId, harrived.sampled]
    refine h.passedOn _ hnodup (hitems.trans ?_)
    have hlower : (c.baggage.map lowerItem).map lowerItem = c.baggage.map lowerItem := by
      simp only [List.map_map]
      apply List.map_congr_left
      exact fun item _ => lowerItem_lowerItem item
    rw [← hlower]
    obtain ⟨kept, hperm, hsublist⟩ := hsent
    exact ⟨kept.map lowerItem, hperm.map lowerItem, hsublist.map lowerItem⟩

/-- Through any number of streams, at least one. -/
theorem StreamLeg.crossAll_arrived {leg : StreamLeg} {rest : List StreamLeg}
    (hiterates : ∀ other ∈ leg :: rest, Iterates other.iterate) {c : LightStepSpanContext}
    (hnodup : (c.baggage.map Prod.fst).Nodup) (hencodes : ∀ other ∈ leg :: rest, other.Encodes c) :
    ∃ c', crossAll (leg :: rest) c = .ok (some c') ∧ StreamArrived c c' := by
  obtain ⟨c₁, hcross, h₁⟩ := cross_arrived (hiterates leg (List.mem_cons_self ..)) hnodup
    (hencodes leg (List.mem_cons_self ..)).sent
  have hall : crossAll (leg :: rest) c = crossAll rest c₁ := by
    rw [crossAll, hcross]
    rfl
  rw [hall]
  induction rest generalizing leg c c₁ with
  | nil => exact ⟨c₁, rfl, h₁⟩
  | cons next rest ih =>
    obtain ⟨c₂, hnext, h₂⟩ := cross_arrived (hiterates next (by simp)) h₁.nodup
      ((hencodes next (by simp)).arrived h₁).sent
    have hlater : ∀ other ∈ next :: rest, other.Encodes c₁ := fun other hother =>
      (hencodes other (List.mem_cons_of_mem leg hother)).arrived h₁
    obtain ⟨c', hrest, h'⟩ := ih (fun other hother => hiterates other (List.mem_cons_of_mem leg hother)) h₁.nodup
      hlater c₂ hnext h₂ (by rw [crossAll, hnext]; rfl)
    refine ⟨c', ?_, h₁.trans h'⟩
    rw [crossAll, hnext]
    exact hrest

/-- A message that is handed over keeps the keys as they are. -/
theorem handedOver_equals_iff {c : LightStepSpanContext} (hnodup : (c.baggage.map Prod.fst).Nodup)
    {iterate : BaggageProtobufMap → List (List UInt8 × List UInt8)} (h : Iterates iterate) :
    ∃ carrier context, LightStepBinaryWriter.inject true (.lightStep c) = .ok carrier ∧
      LightStepBinaryReader.extract true (some carrier) = .ok (some context) ∧
        ((context.context iterate).equals c = true ↔ Carriable c) := by
  refine ⟨fillCarrier c.traceIdLow c.spanId c.sampled c.baggage,
    makeSpanContext c.traceIdLow c.spanId c.sampled c.baggage, rfl, ?_, ?_⟩
  · rw [fillCarrier_eq hnodup]
    rfl
  · have hbaggage : ((makeSpanContext c.traceIdLow c.spanId c.sampled c.baggage).context iterate).extractBaggage =
        c.extractBaggage := baggageMap_iterate h _
    rw [LightStepSpanContext.equals_iff, hbaggage]
    constructor
    · rintro ⟨hhigh, -, -, hstate, hflags, -⟩
      exact ⟨hhigh.symm, hstate.symm, (setTraceFlag_sampled_iff c.traceFlags).mp hflags⟩
    · exact fun hcarriable => ⟨hcarriable.traceIdHigh.symm, rfl, rfl, hcarriable.traceState.symm,
        (setTraceFlag_sampled_iff c.traceFlags).mpr hcarriable.traceFlags, rfl⟩

/-- **Through any number of streams a context keeps what a message has room for**, and it equals what was sent
exactly if that fits into a message and has its keys in lower case. A message that is handed over asks for no
lower case. -/
theorem binary_contexts_kept {leg : StreamLeg} {rest : List StreamLeg}
    (hiterates : ∀ other ∈ leg :: rest, Iterates other.iterate) {c : LightStepSpanContext}
    (hnodup : (c.baggage.map Prod.fst).Nodup) (hencodes : ∀ other ∈ leg :: rest, other.Encodes c) :
    (∃ c', StreamLeg.crossAll (leg :: rest) c = .ok (some c') ∧ StreamArrived c c' ∧
      (c'.equals c = true ↔ Carriable c ∧ ∀ item ∈ c.baggage, toLower item.1 = item.1)) ∧
      ∃ carrier context, LightStepBinaryWriter.inject true (.lightStep c) = .ok carrier ∧
        LightStepBinaryReader.extract true (some carrier) = .ok (some context) ∧
          ((context.context leg.iterate).equals c = true ↔ Carriable c) := by
  obtain ⟨c', hcross, harrived⟩ := StreamLeg.crossAll_arrived hiterates hnodup hencodes
  exact ⟨⟨c', hcross, harrived, harrived.equals_iff hnodup⟩,
    handedOver_equals_iff hnodup (hiterates leg (List.mem_cons_self ..))⟩

/-! ### In the wire format -/

theorem length_encodeFields_le {items baggage : List (List UInt8 × List UInt8)}
    (h : items.Subperm (baggage.map lowerItem)) :
    (encodeFields (items.map BasicTracerCarrier.itemField)).length ≤
      (encodeFields (baggage.map BasicTracerCarrier.itemField)).length := by
  obtain ⟨kept, hperm, hsublist⟩ := h
  let size (item : List UInt8 × List UInt8) : Nat := (BasicTracerCarrier.itemField item).encode.length
  have hlength (l : List (List UInt8 × List UInt8)) :
      (encodeFields (l.map BasicTracerCarrier.itemField)).length = (l.map size).sum := by
    rw [encodeFields, List.length_flatMap, List.map_map]
    rfl
  have hlower : (baggage.map lowerItem).map size = baggage.map size := by
    rw [List.map_map]
    apply List.map_congr_left
    intro item _
    simp [size, lowerItem, BasicTracerCarrier.itemField, entryFields, encodeFields, Library.Field.encode, WireValue.encode,
      WireValue.wireType]
  rw [hlength, hlength, ← hlower, ← (hperm.map size).sum_eq]
  exact List.Sublist.sum_le_sum (hsublist.map size) fun _ _ => Nat.zero_le _

/-- A context whose message is far from the limit is encoded, whatever is left of it. -/
theorem wireCodec_encodes (iterate : BaggageProtobufMap → List (List UInt8 × List UInt8)) {c : LightStepSpanContext}
    (hnodup : (c.baggage.map Prod.fst).Nodup)
    (h : (encodeFields (BasicTracerCarrier.fields ⟨c.traceIdLow, c.spanId, c.sampled, c.baggage⟩)).length + 20 <
      2 ^ 31) : StreamLeg.Encodes ⟨wireCodec, iterate⟩ c := by
  have hroundTrips {items : List (List UInt8 × List UInt8)} (hitems : (items.map Prod.fst).Nodup)
      (hle : (encodeFields (items.map BasicTracerCarrier.itemField)).length ≤
        (encodeFields (c.baggage.map BasicTracerCarrier.itemField)).length) :
      wireCodec.RoundTrips ⟨c.traceIdLow, c.spanId, c.sampled, items⟩ := by
    refine wireCodec_roundTrips hitems ?_
    have hmessage := (Library.Field.mk 2 (.lengthDelimited
      (encodeFields (BasicTracerCarrier.fields ⟨c.traceIdLow, c.spanId, c.sampled, items⟩)))).encode_length_le
    have hfield : encodeFields (BinaryCarrier.fields ⟨some ⟨c.traceIdLow, c.spanId, c.sampled, items⟩⟩) =
        (Library.Field.mk 2 (.lengthDelimited
          (encodeFields (BasicTracerCarrier.fields ⟨c.traceIdLow, c.spanId, c.sampled, items⟩)))).encode :=
      List.append_nil _
    rw [hfield]
    simp only [BasicTracerCarrier.fields, encodeFields_append, List.length_append, WireValue.size] at h hmessage ⊢
    omega
  exact ⟨hroundTrips hnodup (Nat.le_refl _), fun items hitems hsubperm =>
    hroundTrips hitems (length_encodeFields_le hsubperm)⟩

/-- A key with a capital letter, behind two streams. -/
def capitalContext : LightStepSpanContext := ⟨0, 5, 7, 1, [], [(ascii "Ab", ascii "x")]⟩

def wireLeg : StreamLeg := ⟨wireCodec, Hop.sortedItems⟩

theorem capitalContext_kept : ∃ c', StreamLeg.crossAll [wireLeg, wireLeg] capitalContext = .ok (some c') ∧
    c'.equals capitalContext = false ∧
      ∃ carrier context, LightStepBinaryWriter.inject true (.lightStep capitalContext) = .ok carrier ∧
        LightStepBinaryReader.extract true (some carrier) = .ok (some context) ∧
          (context.context wireLeg.iterate).equals capitalContext = true := by
  have hiterates : ∀ other ∈ [wireLeg, wireLeg], Iterates other.iterate := by
    intro other hother
    obtain rfl : other = wireLeg := by simpa using hother
    exact ⟨Hop.nodup_sortedItems, Hop.mem_sortedItems⟩
  have hnodup : (capitalContext.baggage.map Prod.fst).Nodup := by decide
  have hencodes : ∀ other ∈ [wireLeg, wireLeg], other.Encodes capitalContext := by
    intro other hother
    obtain rfl : other = wireLeg := by simpa using hother
    exact wireCodec_encodes Hop.sortedItems hnodup (by decide +kernel)
  obtain ⟨⟨c', hcross, -, hequals⟩, carrier, context, hinject, hextract, hkept⟩ :=
    binary_contexts_kept hiterates hnodup hencodes
  refine ⟨c', hcross, ?_, carrier, context, hinject, hextract, hkept.mpr ⟨rfl, rfl, by decide⟩⟩
  apply Bool.eq_false_of_not_eq_true
  intro h
  have hlower := (hequals.mp h).2 _ (List.mem_cons_self ..)
  exact absurd hlower (by decide)

end Lightstep.Tracer

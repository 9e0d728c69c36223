import Lightstep.Library.Fold
import Lightstep.Tracer.Propagation.Propagation

/-! The order of headers does not matter, nor the case of their names where names are compared so.

Two headers of different names touch different outputs, unless both are baggage;
then they touch different keys. -/
namespace Lightstep.Tracer
open Common Library TraceContext

/-- The name as it is told from others. -/
def lowerName (header : Header) : List UInt8 := toLower header.1

def Distinct (headers : List Header) : Prop := (headers.map lowerName).Nodup

/-- A header up to what a comparison sees of it. -/
def canonical (caseSensitive : Bool) (header : Header) : Header :=
  if caseSensitive then header else (toLower header.1, header.2)

theorem lowerChar_lowerChar (c : UInt8) : lowerChar (lowerChar c) = lowerChar c := by
  have htable : ∀ b, b < 256 → lowerChar (lowerChar b.toUInt8) = lowerChar b.toUInt8 := by
    decide +kernel
  have hc := htable c.toNat c.toNat_lt
  rwa [Nat.toUInt8, UInt8.ofNat_toNat] at hc

@[simp] theorem toLower_toLower (s : List UInt8) : toLower (toLower s) = toLower s := by
  rw [toLower, toLower, List.map_map]
  exact List.map_congr_left fun c _ => lowerChar_lowerChar c

@[simp] theorem lowerName_canonical (caseSensitive : Bool) (header : Header) :
    lowerName (canonical caseSensitive header) = lowerName header := by
  cases caseSensitive with
  | false => exact toLower_toLower header.1
  | true => rfl

@[simp] theorem canonical_value (caseSensitive : Bool) (header : Header) :
    (canonical caseSensitive header).2 = header.2 := by
  cases caseSensitive <;> rfl

@[simp] theorem keyCompare_self (caseSensitive : Bool) (key : List UInt8) : keyCompare caseSensitive key key = true := by
  cases caseSensitive with
  | false => exact iequals_iff.mpr rfl
  | true => exact beq_self_eq_true key

theorem toLower_eq_of_keyCompare {caseSensitive : Bool} {lhs rhs : List UInt8}
    (h : keyCompare caseSensitive lhs rhs = true) : toLower lhs = toLower rhs := by
  cases caseSensitive with
  | false => exact iequals_iff.mp h
  | true => exact congrArg toLower (beq_iff_eq.mp h)

theorem iequals_toLower (lhs rhs : List UInt8) : iequals (toLower lhs) rhs = iequals lhs rhs := by
  rw [Bool.eq_iff_iff, iequals_iff, iequals_iff, toLower_toLower]

theorem keyCompare_canonical (caseSensitive : Bool) (header : Header) (key : List UInt8) :
    keyCompare caseSensitive (canonical caseSensitive header).1 key = keyCompare caseSensitive header.1 key := by
  cases caseSensitive with
  | false => exact iequals_toLower header.1 key
  | true => rfl

theorem toLower_take (n : Nat) (s : List UInt8) : (toLower s).take n = toLower (s.take n) := List.map_take.symm

theorem toLower_drop (n : Nat) (s : List UInt8) : (toLower s).drop n = toLower (s.drop n) := List.map_drop.symm

/-! ### Baggage -/

theorem readBaggage_canonical (baggagePrefix : List UInt8) (caseSensitive : Bool) (header : Header)
    (baggage : BaggageProtobufMap) :
    readBaggage baggagePrefix (keyCompare caseSensitive) (canonical caseSensitive header) baggage =
      readBaggage baggagePrefix (keyCompare caseSensitive) header baggage := by
  cases caseSensitive with
  | false =>
    simp only [readBaggage, canonical, Bool.false_eq_true, if_false, keyCompare, length_toLower, toLower_take,
      toLower_drop, iequals_toLower, toLower_toLower]
  | true => rfl

theorem readBaggage_comm {x y : Header} (h : lowerName x ≠ lowerName y) (baggagePrefix : List UInt8)
    (caseSensitive : Bool) (baggage : BaggageProtobufMap) :
    readBaggage baggagePrefix (keyCompare caseSensitive) x (readBaggage baggagePrefix (keyCompare caseSensitive) y baggage) =
      readBaggage baggagePrefix (keyCompare caseSensitive) y
        (readBaggage baggagePrefix (keyCompare caseSensitive) x baggage) := by
  have hparts : ∀ s : List UInt8, toLower s =
      toLower (s.take baggagePrefix.length) ++ toLower (s.drop baggagePrefix.length) := fun s => by
    rw [← toLower_append, List.take_append_drop]
  unfold readBaggage
  split
  · rename_i hy
    split
    · rename_i hx
      refine insertBaggage_comm (fun hkey => h ?_) x.2 y.2 baggage
      rw [lowerName, lowerName, hparts x.1, hparts y.1, toLower_eq_of_keyCompare hx.2, toLower_eq_of_keyCompare hy.2, hkey]
    · rfl
  · rfl

/-! ### One header -/

/-- A context whose id leaves the table of digits, taken for a corrupted one. -/
def settle : ErrorCode → ErrorCode
  | .outOfTable => .spanContextCorrupted
  | error => error

namespace MultiheaderPropagator

@[simp] theorem settle_idError (error : ErrorCode) : settle (idError error) = .spanContextCorrupted := by
  cases error <;> rfl

theorem readHeader_canonical (p : MultiheaderPropagator) (caseSensitive : Bool) (scan : Scan) (header : Header) :
    p.readHeader (keyCompare caseSensitive) scan (canonical caseSensitive header) =
      p.readHeader (keyCompare caseSensitive) scan header := by
  unfold readHeader
  simp only [keyCompare_canonical, canonical_value, readBaggage_canonical]

/-- What a header does, whatever came before it: it is of a key, and its id is read or cannot be, or it
may be baggage. -/
inductive Reads (p : MultiheaderPropagator) (compare : KeyCompare) (header : Header) : Prop where
  | corruptedTraceId {error : ErrorCode} (hkey : compare header.1 p.traceIdKey = true)
      (hid : hexToUint128 header.2 = .error error)
      (h : ∀ scan, p.readHeader compare scan header = .error (idError error))
  | corruptedSpanId {error : ErrorCode} (hkey : compare header.1 p.spanIdKey = true)
      (hid : hexToUint64 header.2 = .error error)
      (h : ∀ scan, p.readHeader compare scan header = .error (idError error))
  | traceId {high low : UInt64} (hkey : compare header.1 p.traceIdKey = true)
      (hid : hexToUint128 header.2 = .ok (high, low)) (h : ∀ scan, p.readHeader compare scan header =
        .ok ⟨{scan.traceContext with traceIdHigh := high, traceIdLow := low}, scan.baggage, scan.sampled,
          scan.count + 1⟩)
  | spanId {id : UInt64} (htraceId : ¬ compare header.1 p.traceIdKey = true)
      (hkey : compare header.1 p.spanIdKey = true) (hid : hexToUint64 header.2 = .ok id)
      (h : ∀ scan, p.readHeader compare scan header =
        .ok ⟨{scan.traceContext with parentId := id}, scan.baggage, scan.sampled, scan.count + 1⟩)
  | sampled {sampled : Bool} (htraceId : ¬ compare header.1 p.traceIdKey = true)
      (hspanId : ¬ compare header.1 p.spanIdKey = true) (hkey : compare header.1 p.sampledKey = true)
      (h : ∀ scan, p.readHeader compare scan header = .ok ⟨scan.traceContext, scan.baggage, sampled, scan.count⟩)
  | baggage (htraceId : ¬ compare header.1 p.traceIdKey = true) (hspanId : ¬ compare header.1 p.spanIdKey = true)
      (h : ∀ scan, p.readHeader compare scan header =
        .ok ⟨scan.traceContext, readBaggage p.baggagePrefix compare header scan.baggage, scan.sampled, scan.count⟩)

theorem readHeader_reads (p : MultiheaderPropagator) (compare : KeyCompare) (header : Header) :
    Reads p compare header := by
  by_cases htraceId : compare header.1 p.traceIdKey = true
  · cases hid : hexToUint128 header.2 with
    | error e =>
      exact .corruptedTraceId htraceId hid fun scan => by simp only [readHeader, if_pos htraceId, hid]
    | ok id => exact .traceId htraceId hid fun scan => by simp only [readHeader, if_pos htraceId, hid]
  · by_cases hspanId : compare header.1 p.spanIdKey = true
    · cases hid : hexToUint64 header.2 with
      | error e =>
        exact .corruptedSpanId hspanId hid fun scan => by
          simp only [readHeader, if_neg htraceId, if_pos hspanId, hid]
      | ok id =>
        exact .spanId htraceId hspanId hid fun scan => by
          simp only [readHeader, if_neg htraceId, if_pos hspanId, hid]
    · by_cases hsampled : compare header.1 p.sampledKey = true
      · exact .sampled htraceId hspanId hsampled fun scan => by
          simp only [readHeader, if_neg htraceId, if_neg hspanId, if_pos hsampled]
          rfl
      · exact .baggage htraceId hspanId fun scan => by
          simp only [readHeader, if_neg htraceId, if_neg hspanId, if_neg hsampled]

/-- A header with its errors settled. -/
def settledHeader (p : MultiheaderPropagator) (caseSensitive : Bool) (scan : Scan) (header : Header) : Expected Scan :=
  (p.readHeader (keyCompare caseSensitive) scan header).mapError settle

theorem settledHeader_canonical (p : MultiheaderPropagator) (caseSensitive : Bool) (scan : Scan) (header : Header) :
    p.settledHeader caseSensitive scan (canonical caseSensitive header) = p.settledHeader caseSensitive scan header :=
  congrArg (Except.mapError settle) (p.readHeader_canonical caseSensitive scan header)

/-- Which of two ids that cannot be read comes first makes no difference to the settled error. -/
theorem settledHeader_comm (p : MultiheaderPropagator) (caseSensitive : Bool) {x y : Header}
    (h : lowerName x ≠ lowerName y) (scan : Scan) :
    (p.settledHeader caseSensitive scan x >>= fun scan => p.settledHeader caseSensitive scan y) =
      (p.settledHeader caseSensitive scan y >>= fun scan => p.settledHeader caseSensitive scan x) := by
  have hsame : ∀ {key}, keyCompare caseSensitive x.1 key = true → ¬ keyCompare caseSensitive y.1 key = true :=
    fun hx hy => h ((toLower_eq_of_keyCompare hx).trans (toLower_eq_of_keyCompare hy).symm)
  rcases p.readHeader_reads (keyCompare caseSensitive) x with
    ⟨-, -, hx⟩ | ⟨-, -, hx⟩ | ⟨hkey, -, hx⟩ | ⟨-, hkey, -, hx⟩ | ⟨-, -, hkey, hx⟩ | ⟨-, -, hx⟩ <;>
  rcases p.readHeader_reads (keyCompare caseSensitive) y with
    ⟨-, -, hy⟩ | ⟨-, -, hy⟩ | ⟨hkey', -, hy⟩ | ⟨-, hkey', -, hy⟩ | ⟨-, -, hkey', hy⟩ | ⟨-, -, hy⟩ <;>
  first
    | exact absurd hkey' (hsame hkey)
    | simp only [settledHeader, hx, hy, Except.mapError, settle_idError, bind, Except.bind, readBaggage_comm h]

end MultiheaderPropagator

/-- What a header does in a format of one header, whatever came before it: it is the header and is
parsed, or it is the state, or it may be baggage. -/
inductive HeaderEffect (compare : KeyCompare) (parentKey stateKey : List UInt8) (header : Header)
    (read : Bool × Extraction → Expected (Bool × Extraction)) : Prop where
  | parent (parse : TraceContext → Expected TraceContext) (hkey : compare header.1 parentKey = true)
      (h : ∀ scan, read scan =
        (parse scan.2.traceContext).map fun c => (true, ⟨c, scan.2.traceState, scan.2.baggage⟩))
  | state (hkey : compare header.1 stateKey = true)
      (h : ∀ scan, read scan = .ok (scan.1, ⟨scan.2.traceContext, header.2, scan.2.baggage⟩))
  | baggage (h : ∀ scan, read scan = .ok (scan.1, ⟨scan.2.traceContext, scan.2.traceState,
      readBaggage prefixBaggage compare header scan.2.baggage⟩))

theorem HeaderEffect.comm {caseSensitive : Bool} {parentKey stateKey : List UInt8} {x y : Header}
    {readX readY : Bool × Extraction → Expected (Bool × Extraction)}
    (hx : HeaderEffect (keyCompare caseSensitive) parentKey stateKey x readX)
    (hy : HeaderEffect (keyCompare caseSensitive) parentKey stateKey y readY) (h : lowerName x ≠ lowerName y)
    (scan : Bool × Extraction) : (readX scan >>= readY) = (readY scan >>= readX) := by
  have hsame : ∀ {key}, keyCompare caseSensitive x.1 key = true → ¬ keyCompare caseSensitive y.1 key = true :=
    fun hx hy => h ((toLower_eq_of_keyCompare hx).trans (toLower_eq_of_keyCompare hy).symm)
  cases hx with
  | parent parse hkey hx =>
    cases hy with
    | parent _ hkey' _ => exact absurd hkey' (hsame hkey)
    | _ =>
      rename_i hy
      simp only [hx, hy, bind, Except.bind]
      cases parse scan.2.traceContext <;> rfl
  | state hkey hx =>
    cases hy with
    | parent parse _ hy =>
      simp only [hx, hy, bind, Except.bind]
      cases parse scan.2.traceContext <;> rfl
    | state hkey' _ => exact absurd hkey' (hsame hkey)
    | baggage hy => simp only [hx, hy, bind, Except.bind]
  | baggage hx =>
    cases hy with
    | parent parse _ hy =>
      simp only [hx, hy, bind, Except.bind]
      cases parse scan.2.traceContext <;> rfl
    | state _ hy => simp only [hx, hy, bind, Except.bind]
    | baggage hy => simp only [hx, hy, bind, Except.bind, readBaggage_comm h]

namespace TraceContextPropagator

theorem readHeader_canonical (caseSensitive : Bool) (scan : Bool × Extraction) (header : Header) :
    readHeader (keyCompare caseSensitive) scan (canonical caseSensitive header) =
      readHeader (keyCompare caseSensitive) scan header := by
  unfold readHeader
  simp only [keyCompare_canonical, canonical_value, readBaggage_canonical]

theorem readHeader_effect (compare : KeyCompare) (header : Header) :
    HeaderEffect compare traceParentHeaderKey traceStateHeaderKey header fun scan => readHeader compare scan header := by
  unfold readHeader
  split
  · rename_i hkey
    refine .parent (parseTraceContext header.2) hkey fun scan => ?_
    cases parseTraceContext header.2 scan.2.traceContext <;> rfl
  · split
    · rename_i hkey
      exact .state hkey fun _ => rfl
    · exact .baggage fun _ => rfl

end TraceContextPropagator

namespace CloudTracePropagator

theorem readHeader_canonical (caseSensitive : Bool) (scan : Bool × Extraction) (header : Header) :
    readHeader (keyCompare caseSensitive) scan (canonical caseSensitive header) =
      readHeader (keyCompare caseSensitive) scan header := by
  unfold readHeader
  simp only [keyCompare_canonical, canonical_value, readBaggage_canonical]

/-- There is no state. -/
theorem readHeader_effect (compare : KeyCompare) (header : Header) (stateKey : List UInt8) :
    HeaderEffect compare propagationSingleKey stateKey header fun scan => readHeader compare scan header := by
  unfold readHeader
  split
  · rename_i hkey
    refine .parent (parseCloudTrace header.2) hkey fun scan => ?_
    cases parseCloudTrace header.2 scan.2.traceContext <;> rfl
  · exact .baggage fun _ => rfl

end CloudTracePropagator

/-! ### All headers -/

/-- A carrier presents headers: it shows them in some order, with names that may differ in case
where case does not matter, and its lookup, if it has one, finds what is there. -/
structure Presents (carrier : TextMapReader) (caseSensitive : Bool) (contents : List Header) : Prop where
  headers : (carrier.headers.map (canonical caseSensitive)).Perm (contents.map (canonical caseSensitive))
  lookupKey : ∀ key, carrier.lookupKey key = .error .lookupKeyNotSupported ∨
    (∃ header ∈ contents, keyCompare caseSensitive header.1 key = true ∧ carrier.lookupKey key = .ok header.2) ∨
    (∀ header ∈ contents, ¬ keyCompare caseSensitive header.1 key = true) ∧
      carrier.lookupKey key = .error .keyNotFound

/-- **What reads a carrier header by header reads the headers it presents.** -/
theorem Presents.foldlM_eq {σ : Type} {carrier : TextMapReader} {caseSensitive : Bool} {contents : List Header}
    (h : Presents carrier caseSensitive contents) (hdistinct : Distinct contents) {read : σ → Header → Expected σ}
    (hcanonical : ∀ s header, read s (canonical caseSensitive header) = read s header)
    (hcomm : ∀ x y, lowerName x ≠ lowerName y → ∀ s, (read s x >>= fun s => read s y) = (read s y >>= fun s => read s x))
    (s : σ) : carrier.headers.foldlM read s = contents.foldlM read s := by
  have hfold : ∀ l : List Header, (l.map (canonical caseSensitive)).foldlM read s = l.foldlM read s := fun l => by
    rw [List.foldlM_map]
    congr 1
    funext s header
    exact hcanonical s header
  have hpairwise : (contents.map (canonical caseSensitive)).Pairwise fun x y => lowerName x ≠ lowerName y := by
    rw [List.pairwise_map]
    simp only [lowerName_canonical]
    exact List.pairwise_map.mp hdistinct
  rw [← hfold carrier.headers, ← hfold contents]
  exact (foldlM_perm Ne.symm hcomm h.headers.symm hpairwise s).symm

/-- So do the headers of a propagator of several, if that succeeds. -/
theorem Presents.foldlM_readHeader {carrier : TextMapReader} {caseSensitive : Bool} {contents : List Header}
    (h : Presents carrier caseSensitive contents) (hdistinct : Distinct contents) {p : MultiheaderPropagator}
    {scan scan' : MultiheaderPropagator.Scan}
    (hread : contents.foldlM (p.readHeader (keyCompare caseSensitive)) scan = .ok scan') :
    carrier.headers.foldlM (p.readHeader (keyCompare caseSensitive)) scan = .ok scan' := by
  have hsettled := h.foldlM_eq hdistinct (p.settledHeader_canonical caseSensitive)
    (fun _ _ hne => p.settledHeader_comm caseSensitive hne) scan
  have hboth : ∀ headers : List Header, headers.foldlM (p.settledHeader caseSensitive) scan =
      (headers.foldlM (p.readHeader (keyCompare caseSensitive)) scan).mapError settle :=
    fun headers => (foldlM_mapError settle _ headers scan).symm
  rw [hboth, hboth, hread] at hsettled
  exact mapError_eq_ok.mp hsettled

theorem Distinct.eq {contents : List Header} (h : Distinct contents) {x y : Header} (hx : x ∈ contents)
    (hy : y ∈ contents) (hname : lowerName x = lowerName y) : x = y :=
  List.inj_on_of_nodup_map h hx hy hname

/-- A lookup finds the header of the name. -/
theorem Presents.lookupKey_eq {carrier : TextMapReader} {caseSensitive : Bool} {contents : List Header}
    (h : Presents carrier caseSensitive contents) (hdistinct : Distinct contents) {header : Header}
    (hmem : header ∈ contents) :
    Tracer.lookupKey carrier header.1 (keyCompare caseSensitive) = .ok header.2 := by
  rcases h.lookupKey header.1 with hlookup | ⟨found, hfound, hkey, hlookup⟩ | ⟨hnone, -⟩
  · simp only [Tracer.lookupKey, hlookup]
    have hshown : canonical caseSensitive header ∈ carrier.headers.map (canonical caseSensitive) :=
      h.headers.symm.subset (List.mem_map_of_mem hmem)
    obtain ⟨shown, hshown, heq⟩ := List.mem_map.mp hshown
    have hcompare : keyCompare caseSensitive shown.1 header.1 = true := by
      rw [← keyCompare_canonical, heq, keyCompare_canonical, keyCompare_self]
    cases hfind : carrier.headers.find? fun header' => keyCompare caseSensitive header'.1 header.1 with
    | none => exact absurd hcompare (List.find?_eq_none.mp hfind shown hshown)
    | some found =>
      have hfound := h.headers.subset (List.mem_map_of_mem (List.mem_of_find?_eq_some hfind))
      obtain ⟨original, horiginal, heq⟩ := List.mem_map.mp hfound
      have hcompare : keyCompare caseSensitive found.1 header.1 = true := by simpa using List.find?_some hfind
      have hname : lowerName original = lowerName header := by
        rw [← lowerName_canonical caseSensitive original, heq, lowerName_canonical]
        exact toLower_eq_of_keyCompare hcompare
      have hsame := hdistinct.eq horiginal hmem hname
      have hvalue : found.2 = header.2 := by
        rw [← canonical_value caseSensitive found, ← heq, canonical_value, hsame]
      exact congrArg Except.ok hvalue
  · rw [hdistinct.eq hfound hmem (toLower_eq_of_keyCompare hkey)] at hlookup
    rw [Tracer.lookupKey, hlookup]
  · exact absurd (keyCompare_self caseSensitive header.1) (hnone header hmem)

end Lightstep.Tracer

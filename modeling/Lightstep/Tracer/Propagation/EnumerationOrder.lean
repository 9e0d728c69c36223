import Lightstep.Tracer.Propagation.BinaryCarrier
import Lightstep.Tracer.Propagation.HeaderOrder

/-! Two runs of an extraction over one carrier.

A carrier that is a hash map shows its headers in any order. Whatever the propagators are, an extraction
comes to the same in all of them, also where it fails. Only an id that leaves the table of digits has no
outcome of its own: in another order an id that cannot be read may come first. -/
namespace Lightstep.Tracer
open Common Library

/-- The same outcome, as far as there is one: an access outside of the table stands beside the error that
another order meets first. -/
def SameOutcome {α : Type} (result₁ result₂ : Expected α) : Prop :=
  result₁ = result₂ ∨ (result₁ = .error .outOfTable ∧ result₂ = .error .spanContextCorrupted) ∨
    (result₁ = .error .spanContextCorrupted ∧ result₂ = .error .outOfTable)

theorem settle_eq {error₁ error₂ : ErrorCode} (h : settle error₁ = settle error₂) :
    error₁ = error₂ ∨ (error₁ = .outOfTable ∧ error₂ = .spanContextCorrupted) ∨
      (error₁ = .spanContextCorrupted ∧ error₂ = .outOfTable) := by
  revert h
  cases error₁ <;> cases error₂ <;> decide

/-- Outcomes are the same if their errors settle to the same. -/
theorem sameOutcome_of_settled {α : Type} {result₁ result₂ : Expected α}
    (h : result₁.mapError settle = result₂.mapError settle) : SameOutcome result₁ result₂ := by
  cases result₁ with
  | ok x => exact .inl (mapError_eq_ok.mp h.symm).symm
  | error error₁ =>
    cases result₂ with
    | ok y => cases h
    | error error₂ =>
      rcases settle_eq (Except.error.inj h) with rfl | ⟨rfl, rfl⟩ | ⟨rfl, rfl⟩
      · exact .inl rfl
      · exact .inr (.inl ⟨rfl, rfl⟩)
      · exact .inr (.inr ⟨rfl, rfl⟩)

theorem Distinct.pairwise {headers : List Header} (h : Distinct headers) :
    headers.Pairwise fun x y => lowerName x ≠ lowerName y := List.pairwise_map.mp h

section
variable {headers₁ headers₂ : List Header} (hperm : headers₁.Perm headers₂) (hdistinct : Distinct headers₁)
  (find : List UInt8 → Expected (List UInt8)) (caseSensitive : Bool)
include hperm hdistinct

/-- Steps that commute over headers of different names go through both orders alike. -/
theorem Distinct.foldlM_perm {σ : Type} {read : σ → Header → Expected σ}
    (hcomm : ∀ x y, lowerName x ≠ lowerName y → ∀ s, (read s x >>= fun s => read s y) = (read s y >>= fun s => read s x))
    (s : σ) : headers₁.foldlM read s = headers₂.foldlM read s :=
  Library.foldlM_perm Ne.symm hcomm hperm hdistinct.pairwise s

/-- A lookup that has to go through the headers finds the only one of the name. -/
theorem lookupKey_perm (key : List UInt8) :
    lookupKey ⟨headers₁, find⟩ key (keyCompare caseSensitive) =
      lookupKey ⟨headers₂, find⟩ key (keyCompare caseSensitive) := by
  have hfind : (headers₁.find? fun header => keyCompare caseSensitive header.1 key) =
      headers₂.find? fun header => keyCompare caseSensitive header.1 key := by
    refine find?_perm hperm fun x hx y hy hxkey hykey => hdistinct.eq hx hy ?_
    exact (toLower_eq_of_keyCompare hxkey).trans (toLower_eq_of_keyCompare hykey).symm
  simp only [lookupKey, hfind]

theorem MultiheaderPropagator.extractSpanContext_perm (p : MultiheaderPropagator) (out : Extraction) :
    (p.extractSpanContext ⟨headers₁, find⟩ caseSensitive out).mapError settle =
      (p.extractSpanContext ⟨headers₂, find⟩ caseSensitive out).mapError settle := by
  have hfold := hdistinct.foldlM_perm hperm (fun _ _ h => p.settledHeader_comm caseSensitive h)
    ⟨out.traceContext, out.baggage, true, 0⟩
  have hboth : ∀ (headers : List Header) scan, (headers.foldlM (p.readHeader (keyCompare caseSensitive)) scan).mapError
      settle = headers.foldlM (p.settledHeader caseSensitive) scan := foldlM_mapError settle _
  rw [extractSpanContext, extractSpanContext, mapError_bind, mapError_bind, hboth, hboth, hfold]

theorem EnvoyPropagator.extractSpanContext_perm (codec : BinaryCodec) (out : Extraction) :
    extractSpanContext codec ⟨headers₁, find⟩ caseSensitive out =
      extractSpanContext codec ⟨headers₂, find⟩ caseSensitive out := by
  simp only [extractSpanContext, lookupKey_perm hperm hdistinct find caseSensitive]

theorem TraceContextPropagator.extractSpanContext_perm (out : Extraction) :
    extractSpanContext ⟨headers₁, find⟩ caseSensitive out =
      extractSpanContext ⟨headers₂, find⟩ caseSensitive out :=
  hdistinct.foldlM_perm hperm (fun x y h => (readHeader_effect _ x).comm (readHeader_effect _ y) h) _

theorem CloudTracePropagator.extractSpanContext_perm (out : Extraction) :
    extractSpanContext ⟨headers₁, find⟩ caseSensitive out =
      extractSpanContext ⟨headers₂, find⟩ caseSensitive out :=
  hdistinct.foldlM_perm hperm (fun x y h => (readHeader_effect _ x []).comm (readHeader_effect _ y []) h) _

theorem Propagator.extractSpanContext_perm (codec : BinaryCodec) (p : Propagator) (out : Extraction) :
    (p.extractSpanContext codec ⟨headers₁, find⟩ caseSensitive out).mapError settle =
      (p.extractSpanContext codec ⟨headers₂, find⟩ caseSensitive out).mapError settle := by
  cases p with
  | multiheader p => exact p.extractSpanContext_perm hperm hdistinct find caseSensitive out
  | envoy => exact congrArg _ (EnvoyPropagator.extractSpanContext_perm hperm hdistinct find caseSensitive codec out)
  | traceContext =>
    exact congrArg _ (TraceContextPropagator.extractSpanContext_perm hperm hdistinct find caseSensitive out)
  | cloudTrace =>
    exact congrArg _ (CloudTracePropagator.extractSpanContext_perm hperm hdistinct find caseSensitive out)
  | baggage => rfl

/-- What one propagator leaves in the outputs the next one starts from, the same in both orders. -/
theorem tryExtract_perm (codec : BinaryCodec) (propagators : List Propagator) (out : Extraction) :
    (tryExtract codec ⟨headers₁, find⟩ caseSensitive propagators out).mapError settle =
      (tryExtract codec ⟨headers₂, find⟩ caseSensitive propagators out).mapError settle := by
  induction propagators generalizing out with
  | nil => rfl
  | cons p rest ih =>
    rw [tryExtract, tryExtract, mapError_bind, mapError_bind,
      p.extractSpanContext_perm hperm hdistinct find caseSensitive codec]
    congr 1
    funext result
    obtain ⟨found, out⟩ := result
    cases found with
    | true => rfl
    | false => exact ih out

end

/-- **An extraction does not depend on the order of headers**, in what it returns and in what it leaves in
its outputs. -/
theorem extract_orderless (codec : BinaryCodec) (options : PropagationOptions) {headers₁ headers₂ : List Header}
    (hperm : headers₁.Perm headers₂) (hdistinct : Distinct headers₁) (find : List UInt8 → Expected (List UInt8))
    (caseSensitive : Bool) (out : Extraction) :
    SameOutcome (extractSpanContext codec options ⟨headers₁, find⟩ caseSensitive out)
      (extractSpanContext codec options ⟨headers₂, find⟩ caseSensitive out) :=
  sameOutcome_of_settled (tryExtract_perm hperm hdistinct find caseSensitive codec options.extractPropagators out)

/-- Two headers, one of them corrupted. -/
theorem corrupted_orderless :
    SameOutcome
      (extractSpanContext wireCodec (makePropagationOptions ⟨[.b3, .traceContext], false⟩)
        ⟨[(ascii "x-b3-traceid", ascii "1f"), (ascii "tracestate", ascii "a=b")], fun _ => .error .lookupKeyNotSupported⟩
        false .new)
      (extractSpanContext wireCodec (makePropagationOptions ⟨[.b3, .traceContext], false⟩)
        ⟨[(ascii "tracestate", ascii "a=b"), (ascii "x-b3-traceid", ascii "1f")], fun _ => .error .lookupKeyNotSupported⟩
        false .new) :=
  extract_orderless wireCodec _ (.swap _ _ _) (by unfold Distinct; decide) _ false .new

end Lightstep.Tracer

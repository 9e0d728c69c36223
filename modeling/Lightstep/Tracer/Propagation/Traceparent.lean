import Lightstep.Common.HexDigits
import Lightstep.Library.Layout
import Lightstep.Tracer.Propagation.TraceContext

/-! The layout of a `traceparent` header.

Four fields of digits stand between dashes. The parser goes through the layout place by place and fails at
the first misfit, so that what it accepts is the layout and nothing else. -/
namespace Lightstep.Tracer
open Common Library

inductive Place where
  | digit
  | dash
  deriving DecidableEq

def Place.takes : Place → UInt8 → Bool
  | digit, c => isHexDigit c
  | dash, c => c == TraceContext.dash

/-- What the parser makes of a misfit. -/
def Place.error : Place → UInt8 → ErrorCode
  | digit, c => nonDigitError c
  | dash, _ => .invalidArgument

namespace TraceContext

def traceparentLayout : List Place :=
  List.replicate num8BitHexDigits .digit ++ .dash :: (List.replicate num128BitHexDigits .digit ++
    .dash :: (List.replicate num64BitHexDigits .digit ++ .dash :: List.replicate num8BitHexDigits .digit))

theorem length_traceparentLayout : traceparentLayout.length = traceContextLength := by decide

/-! ### Going through a layout -/

/-- A result that follows the layout of what is read: it is there if all fits, and has to do with it as `P`
says; else it is the error of the first misfit. -/
def Follows {α : Type} (layout : List Place) (s : List UInt8) (result : Expected α) (P : α → Prop) : Prop :=
  (∃ x, result = .ok x ∧ firstMisfit Place.takes layout s = none ∧ P x) ∨
    ∃ place c, result = .error (place.error c) ∧ firstMisfit Place.takes layout s = some (place, c)

theorem Follows.bind {α β : Type} {layout rest : List Place} {a b : List UInt8} {result : Expected α} {P : α → Prop}
    {f : α → Expected β} {Q : β → Prop} (hlength : a.length = layout.length) (hresult : Follows layout a result P)
    (hf : ∀ x, P x → Follows rest b (f x) Q) : Follows (layout ++ rest) (a ++ b) (result >>= f) Q := by
  unfold Follows
  rw [firstMisfit_append hlength]
  rcases hresult with ⟨x, rfl, hnone, hP⟩ | ⟨place, c, rfl, hsome⟩
  · rw [hnone]
    exact hf x hP
  · rw [hsome]
    exact .inr ⟨place, c, rfl, rfl⟩

theorem Follows.map {α β : Type} {layout : List Place} {s : List UInt8} {result : Expected α} {P : α → Prop}
    {f : α → β} {Q : β → Prop} (hresult : Follows layout s result P) (hf : ∀ x, P x → Q (f x)) :
    Follows layout s (result >>= fun x => .ok (f x)) Q := by
  rcases hresult with ⟨x, rfl, hnone, hP⟩ | ⟨place, c, rfl, hsome⟩
  · exact .inl ⟨f x, rfl, hnone, hf x hP⟩
  · exact .inr ⟨place, c, rfl, hsome⟩

/-- What comes after the last place is not read. -/
theorem Follows.append {α : Type} {layout : List Place} {a b : List UInt8} {result : Expected α} {P : α → Prop}
    (hlength : a.length = layout.length) (h : Follows layout a result P) : Follows layout (a ++ b) result P := by
  unfold Follows
  rw [firstMisfit_of_length_le (by rw [List.length_append, hlength]; exact Nat.le_add_right ..),
    List.take_left' hlength]
  exact h

theorem follows_expectDash {α : Type} {rest : List Place} {c : UInt8} {s : List UInt8} {f : List UInt8 → Expected α}
    {Q : α → Prop} (hf : c = dash → Follows rest s (f s) Q) :
    Follows (.dash :: rest) (c :: s) (expectDash (c :: s) >>= f) Q := by
  unfold Follows
  rw [expectDash, firstMisfit, List.head?_cons, List.tail_cons]
  by_cases hc : c = dash
  · subst hc
    exact hf rfl
  · rw [if_neg (by simp [hc]), if_neg (by simp [Place.takes, hc])]
    exact .inr ⟨.dash, c, rfl, rfl⟩

/-- A field of digits. -/
theorem follows_digits {α : Type} {k : Nat} {ds : List UInt8} {result : Expected α} {P : α → Prop}
    (hlength : ds.length = k) (hP : ∀ x, result = .ok x → P x)
    (h : (∃ x, result = .ok x ∧ firstNonDigit ds = none) ∨
      ∃ c, result = .error (nonDigitError c) ∧ firstNonDigit ds = some c) :
    Follows (List.replicate k .digit) ds result P := by
  unfold Follows
  have hmisfit : firstMisfit Place.takes (List.replicate ds.length Place.digit) ds =
      (firstNonDigit ds).map (Place.digit, ·) := firstMisfit_replicate Place.digit ds
  rw [← hlength, hmisfit]
  rcases h with ⟨x, hx, hnone⟩ | ⟨c, hc, hsome⟩
  · exact .inl ⟨x, hx, by rw [hnone]; rfl, hP x hx⟩
  · exact .inr ⟨.digit, c, hc, by rw [hsome]; rfl⟩

/-! ### The fields -/

theorem uint8ToHex_of_normalized {ds : List UInt8} {x : UInt8} (hlength : ds.length = num8BitHexDigits)
    (h : normalizedHexToUint8 ds = .ok x) : uint8ToHex x = toLower ds := by
  cases hv : hexToUintImpl 8 0 ds with
  | error error =>
    rw [normalizedHexToUint8, hv] at h
    cases h
  | ok v =>
    rw [normalizedHexToUint8, hv] at h
    cases h
    have hread := (hexToUintImpl_iff_of_le (by rw [hlength]; decide)).mp hv
    have hlt : v < 256 := by
      have hbound := (readHex_bounds hread).2
      rw [hlength] at hbound
      exact hbound
    have hbyte : v.toUInt8.toNat = v := UInt8.toNat_ofNat_of_lt' hlt
    have hmask : v &&& 0xff = v := by
      rw [show (0xff : Nat) = 2 ^ 8 - 1 from rfl, Nat.and_two_pow_sub_one_of_lt_two_pow hlt]
    rw [← uintToHex_of_readHex (k := 1) hlength hread, uint8ToHex, hbyte, uintToHex, uintToHex, hmask]
    rfl

theorem uint64ToHex_of_hexToUintImpl {ds : List UInt8} {v : Nat} (hlength : ds.length = num64BitHexDigits)
    (h : hexToUintImpl 64 0 ds = .ok v) : uint64ToHex v.toUInt64 = toLower ds := by
  have hread := (hexToUintImpl_iff (Nat.le_of_eq hlength)).mp h
  have hv : v.toUInt64.toNat = v := UInt64.toNat_ofNat_of_lt' (readHex_lt (Nat.le_of_eq hlength) hread)
  rw [uint64ToHex, hv, uintToHex_of_readHex (k := 8) hlength hread]

theorem uint64ToHex_of_normalized {ds : List UInt8} {x : UInt64} (hlength : ds.length = num64BitHexDigits)
    (h : normalizedHexToUint64 ds = .ok x) : uint64ToHex x = toLower ds := by
  cases hv : hexToUintImpl 64 0 ds with
  | error error =>
    rw [normalizedHexToUint64, hv] at h
    cases h
  | ok v =>
    rw [normalizedHexToUint64, hv] at h
    cases h
    exact uint64ToHex_of_hexToUintImpl hlength hv

theorem uint64ToHex_of_normalized_halves {ds : List UInt8} {x : UInt64 × UInt64}
    (hlength : ds.length = num128BitHexDigits) (h : normalizedHexToUint128 ds = .ok x) :
    uint64ToHex x.1 ++ uint64ToHex x.2 = toLower ds := by
  have hhighLength : (ds.take num64BitHexDigits).length = num64BitHexDigits :=
    List.length_take_of_le (by rw [hlength]; decide)
  have hback : (ds.drop num64BitHexDigits).length = num64BitHexDigits := by
    rw [List.length_drop, hlength]
    rfl
  obtain ⟨high, low, hhigh, hlow, rfl⟩ := exists_halves_of_normalized hlength h
  rw [uint64ToHex_of_hexToUintImpl hhighLength hhigh, uint64ToHex_of_hexToUintImpl hback hlow, ← toLower_append,
    List.take_append_drop]

/-! ### The header -/

/-- A text that is long enough has a part for each field. -/
theorem exists_parts {s : List UInt8} (h : traceContextLength ≤ s.length) :
    ∃ version traceId parentId flags rest : List UInt8, ∃ d₁ d₂ d₃ : UInt8,
      s = version ++ d₁ :: (traceId ++ d₂ :: (parentId ++ d₃ :: (flags ++ rest))) ∧
        version.length = num8BitHexDigits ∧ traceId.length = num128BitHexDigits ∧
        parentId.length = num64BitHexDigits ∧ flags.length = num8BitHexDigits := by
  have hpart : ∀ (k : Nat) (s : List UInt8), k < s.length →
      ∃ front rest : List UInt8, ∃ d, s = front ++ d :: rest ∧ front.length = k := fun k s hk =>
    ⟨s.take k, s.drop (k + 1), s[k], by rw [List.getElem_cons_drop, List.take_append_drop],
      List.length_take_of_le (Nat.le_of_lt hk)⟩
  have htotal : traceContextLength = num8BitHexDigits + (1 + num128BitHexDigits + (1 + num64BitHexDigits +
      (1 + num8BitHexDigits))) := by decide
  rw [htotal] at h
  obtain ⟨version, s₁, d₁, rfl, hversion⟩ := hpart num8BitHexDigits s (by omega)
  simp only [List.length_append, List.length_cons, hversion] at h
  obtain ⟨traceId, s₂, d₂, rfl, htraceId⟩ := hpart num128BitHexDigits s₁ (by omega)
  simp only [List.length_append, List.length_cons, htraceId] at h
  obtain ⟨parentId, s₃, d₃, rfl, hparentId⟩ := hpart num64BitHexDigits s₂ (by omega)
  simp only [List.length_append, List.length_cons, hparentId] at h
  refine ⟨version, traceId, parentId, s₃.take num8BitHexDigits, s₃.drop num8BitHexDigits, d₁, d₂, d₃, ?_, hversion,
    htraceId, hparentId, List.length_take_of_le (by omega)⟩
  rw [List.take_append_drop]

/-- **The parser follows the layout**, and what it reads is written as the header in lower case. -/
theorem parseTraceContext_follows {s : List UInt8} (h : traceContextLength ≤ s.length) (c : TraceContext) :
    Follows traceparentLayout s (parseTraceContext s c)
      fun c => c.serializeTraceContext = toLower (s.take traceContextLength) := by
  obtain ⟨version, traceId, parentId, flags, rest, d₁, d₂, d₃, rfl, hversion, htraceId, hparentId, hflags⟩ :=
    exists_parts h
  have htake : (version ++ d₁ :: (traceId ++ d₂ :: (parentId ++ d₃ :: (flags ++ rest)))).take traceContextLength =
      version ++ d₁ :: (traceId ++ d₂ :: (parentId ++ d₃ :: flags)) := by
    have hassoc : version ++ d₁ :: (traceId ++ d₂ :: (parentId ++ d₃ :: (flags ++ rest))) =
        (version ++ d₁ :: (traceId ++ d₂ :: (parentId ++ d₃ :: flags))) ++ rest := by simp
    rw [hassoc]
    apply List.take_left'
    simp only [List.length_append, List.length_cons, hversion, htraceId, hparentId, hflags]
    decide
  rw [htake, parseTraceContext, if_neg (Nat.not_lt.mpr h)]
  simp only [List.take_left' hversion, List.drop_left' hversion]
  refine .bind (hversion.trans (List.length_replicate ..).symm)
    (follows_digits hversion (fun _ => uint8ToHex_of_normalized hversion) (map_hexToUintImpl_cases 8 _ version)) ?_
  intro version' hversion'
  refine follows_expectDash ?_
  rintro rfl
  simp only [List.take_left' htraceId, List.drop_left' htraceId]
  refine .bind (htraceId.trans (List.length_replicate ..).symm) (follows_digits htraceId
    (fun _ => uint64ToHex_of_normalized_halves htraceId) ?_) ?_
  · have hcases := normalizedHexToUint128_cases traceId
    rwa [List.take_of_length_le (Nat.le_of_eq htraceId)] at hcases
  intro traceId' htraceId'
  refine follows_expectDash ?_
  rintro rfl
  simp only [List.take_left' hparentId, List.drop_left' hparentId]
  refine .bind (hparentId.trans (List.length_replicate ..).symm) (follows_digits hparentId
    (fun _ => uint64ToHex_of_normalized hparentId) (map_hexToUintImpl_cases 64 _ parentId)) ?_
  intro parentId' hparentId'
  refine follows_expectDash ?_
  rintro rfl
  simp only [List.take_left' hflags]
  refine .append (hflags.trans (List.length_replicate ..).symm) (.map (follows_digits hflags
    (fun _ => uint8ToHex_of_normalized hflags) (map_hexToUintImpl_cases 8 _ flags)) ?_)
  intro flags' hflags'
  have hdash : ∀ s, toLower (dash :: s) = dash :: toLower s := fun _ => rfl
  rw [serializeTraceContext, hversion', htraceId', hparentId', hflags']
  simp only [toLower_append, hdash]

/-- A text that is accepted fits, and one that fits is accepted. -/
theorem parseTraceContext_ok_iff (s : List UInt8) (d : TraceContext) :
    (∃ c, parseTraceContext s d = .ok c) ↔
      traceContextLength ≤ s.length ∧ Fits Place.takes traceparentLayout (s.take traceContextLength) := by
  by_cases h : traceContextLength ≤ s.length
  · rw [and_iff_right h, ← length_traceparentLayout, ← firstMisfit_eq_none_iff (by rwa [length_traceparentLayout])]
    rcases parseTraceContext_follows h d with ⟨c, hc, hnone, -⟩ | ⟨place, c, hc, hsome⟩
    · exact iff_of_true ⟨c, hc⟩ hnone
    · rw [hc, hsome]
      simp
  · rw [parseTraceContext, if_pos (Nat.lt_of_not_le h)]
    simp [h]

/-- What is accepted is serialized as it came, but for case. -/
theorem serializeTraceContext_of_parse {s : List UInt8} {c d : TraceContext} (h : parseTraceContext s d = .ok c) :
    c.serializeTraceContext = toLower (s.take traceContextLength) := by
  have hlength : traceContextLength ≤ s.length := ((parseTraceContext_ok_iff s d).mp ⟨c, h⟩).1
  rcases parseTraceContext_follows hlength d with ⟨c', hc', -, hserialize⟩ | ⟨place, c', hc', -⟩
  · rw [h] at hc'
    cases hc'
    exact hserialize
  · rw [h] at hc'
    cases hc'

/-- **The parser accepts the layout exactly**, and agrees with the serializer both ways. A byte from 128 on
is nowhere in the layout. -/
theorem traceparent_layout (s : List UInt8) (d : TraceContext) :
    ((∃ c, parseTraceContext s d = .ok c) ↔
      traceContextLength ≤ s.length ∧ Fits Place.takes traceparentLayout (s.take traceContextLength)) ∧
    (∀ c, parseTraceContext s d = .ok c → c.serializeTraceContext = toLower (s.take traceContextLength)) ∧
    ∀ c : TraceContext, parseTraceContext c.serializeTraceContext d = .ok c :=
  ⟨parseTraceContext_ok_iff s d, fun _ => serializeTraceContext_of_parse,
    fun c => parseTraceContext_serializeTraceContext c d⟩

end TraceContext
end Lightstep.Tracer

import Lightstep.Tracer.Propagation.Traceparent

/-! Headers and the table of digits.

A byte from 128 on has no place in the table. No header with such a byte is harmless where the byte is the
first that is no digit; every other header is. -/
namespace Lightstep.Tracer
open Common Library TraceContext

/-- Some byte that is not ASCII stands where the layout has a digit. -/
def WideDigit (layout : List Place) (s : List UInt8) : Prop := ∃ c, (Place.digit, c) ∈ layout.zip s ∧ ¬ c < 128

/-- If a byte that should be a digit is the first to misfit the layout, it is ASCII. -/
def AsciiMisfit (layout : List Place) (s : List UInt8) : Prop :=
  ∀ c, firstMisfit Place.takes layout s = some (.digit, c) → c < 128

theorem Place.takes_wide {c : UInt8} (h : ¬ c < 128) : Place.takes .digit c = false :=
  Bool.eq_false_iff.mpr fun hdigit => h (isHexDigit_lt hdigit)

/-- An outcome that follows a layout. -/
theorem tableSafe_iff_asciiMisfit {α : Type} {layout : List Place} {s : List UInt8} {result : Expected α} {P : α → Prop}
    (h : Follows layout s result P) : TableSafe (WideDigit layout s) result ↔ AsciiMisfit layout s := by
  rcases h with ⟨x, rfl, hnone, -⟩ | ⟨place, c, rfl, hsome⟩
  · refine iff_of_true ⟨nofun, ?_⟩ fun c hc => ?_
    · rintro ⟨c, hmem, hwide⟩
      obtain ⟨misfit, hmisfit⟩ := exists_firstMisfit hmem (Place.takes_wide hwide)
      rw [hnone] at hmisfit
      cases hmisfit
    · rw [hnone] at hc
      cases hc
  · have hiff : place.error c ≠ .outOfTable ↔ AsciiMisfit layout s := by
      cases place with
      | digit => simp [AsciiMisfit, Place.error, hsome]
      | dash => simp [AsciiMisfit, Place.error, hsome]
    rw [← hiff]
    exact ⟨fun hsafe heq => hsafe.1 (congrArg _ heq), fun hne => tableSafe_of_error hne _⟩

theorem parseTraceContext_tableSafe_iff (s : List UInt8) (d : TraceContext) :
    TableSafe (WideDigit traceparentLayout s) (parseTraceContext s d) ↔
      (traceContextLength ≤ s.length → AsciiMisfit traceparentLayout s) := by
  by_cases h : traceContextLength ≤ s.length
  · rw [imp_iff_right h]
    exact tableSafe_iff_asciiMisfit (parseTraceContext_follows h d)
  · rw [parseTraceContext, if_pos (Nat.lt_of_not_le h)]
    exact iff_of_true (tableSafe_of_error (by decide) _) fun h' => absurd h' h

/-- Once the trace id is read, the table is left alone. -/
theorem parseCloudTrace_ne_outOfTable {s : List UInt8} {traceId : UInt64 × UInt64} (d : TraceContext)
    (h : normalizedHexToUint128 (s.take num128BitHexDigits) = .ok traceId) :
    parseCloudTrace s d ≠ .error .outOfTable := by
  unfold parseCloudTrace
  rw [h]
  simp only [bind, Except.bind, pure, Except.pure, throw, throwThe, MonadExceptOf.throw]
  split_ifs <;> nofun

theorem parseCloudTrace_tableSafe_iff (s : List UInt8) (d : TraceContext) :
    TableSafe (Wide (s.take num128BitHexDigits)) (parseCloudTrace s d) ↔
      (num128BitHexDigits ≤ s.length → AsciiFirst (s.take num128BitHexDigits)) := by
  by_cases h : num128BitHexDigits ≤ s.length
  · rw [imp_iff_right h]
    have hcases := normalizedHexToUint128_cases (s.take num128BitHexDigits)
    rw [List.take_take, Nat.min_self] at hcases
    rcases hcases with ⟨traceId, htraceId, hnone⟩ | ⟨c, hc, hsome⟩
    · cases hresult : parseCloudTrace s d with
      | ok c => exact tableSafe_iff_asciiFirst (.inl ⟨c, rfl, hnone⟩)
      | error error =>
        have hne := parseCloudTrace_ne_outOfTable d htraceId
        rw [hresult] at hne
        refine iff_of_true (tableSafe_of_error (fun heq => hne (congrArg _ heq)) _) fun c hc => ?_
        rw [hnone] at hc
        cases hc
    · refine tableSafe_iff_asciiFirst (.inr ⟨c, ?_, hsome⟩)
      rw [parseCloudTrace, if_neg (Nat.not_lt.mpr h), hc]
      rfl
  · rw [parseCloudTrace, if_pos (Nat.lt_of_not_le h)]
    exact iff_of_true (tableSafe_of_error (by decide) _) fun h' => absurd h' h

/-- **No access leaves the table exactly if the first byte that is no digit is ASCII**, as far as the text is
read at all: it is not when it is too short for its layout, or too long for its number. -/
theorem tableSafe_iff (s : List UInt8) (d : TraceContext) :
    (TableSafe (Wide (removeSurroundingWhitespace s)) (hexToUint64 s) ↔
      ((significant s).length ≤ num64BitHexDigits → AsciiFirst (removeSurroundingWhitespace s))) ∧
    (TableSafe (Wide (removeSurroundingWhitespace s)) (hexToUint128 s) ↔
      ((significant s).length ≤ num128BitHexDigits → AsciiFirst (removeSurroundingWhitespace s))) ∧
    (TableSafe (Wide s) (normalizedHexToUint8 s) ↔ AsciiFirst s) ∧
    (TableSafe (Wide s) (normalizedHexToUint64 s) ↔ AsciiFirst s) ∧
    (TableSafe (Wide (s.take num128BitHexDigits)) (normalizedHexToUint128 s) ↔
      AsciiFirst (s.take num128BitHexDigits)) ∧
    (TableSafe (WideDigit traceparentLayout s) (parseTraceContext s d) ↔
      (traceContextLength ≤ s.length → AsciiMisfit traceparentLayout s)) ∧
    (TableSafe (Wide (s.take num128BitHexDigits)) (parseCloudTrace s d) ↔
      (num128BitHexDigits ≤ s.length → AsciiFirst (s.take num128BitHexDigits))) :=
  ⟨hexToUint64_tableSafe_iff s, hexToUint128_tableSafe_iff s, normalizedHexToUint8_tableSafe_iff s,
    normalizedHexToUint64_tableSafe_iff s, normalizedHexToUint128_tableSafe_iff s,
    parseTraceContext_tableSafe_iff s d, parseCloudTrace_tableSafe_iff s d⟩

/-- One byte is enough, wherever a digit is read first. -/
theorem wide_byte_leaves_table :
    ¬ TableSafe (Wide (removeSurroundingWhitespace [128])) (hexToUint64 [128]) ∧
    ¬ TableSafe (Wide (removeSurroundingWhitespace [128])) (hexToUint128 [128]) ∧
    ¬ TableSafe (Wide [49, 255]) (normalizedHexToUint8 [49, 255]) ∧
    ¬ TableSafe (Wide (List.replicate 16 128)) (normalizedHexToUint64 (List.replicate 16 128)) ∧
    ¬ TableSafe (Wide ((List.replicate 32 128).take num128BitHexDigits))
      (normalizedHexToUint128 (List.replicate 32 128)) ∧
    ¬ TableSafe (WideDigit traceparentLayout (List.replicate 55 128))
      (parseTraceContext (List.replicate 55 128) .new) ∧
    ¬ TableSafe (Wide ((List.replicate 32 128).take num128BitHexDigits))
      (parseCloudTrace (List.replicate 32 128) .new) :=
  ⟨fun h => h.1 rfl, fun h => h.1 rfl, fun h => h.1 rfl, fun h => h.1 rfl, fun h => h.1 rfl, fun h => h.1 rfl,
    fun h => h.1 rfl⟩

end Lightstep.Tracer

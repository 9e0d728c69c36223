import Lightstep.Common.HexDigits
import Lightstep.Tracer.Propagation.TraceContext

/-! What an `x-cloud-trace-context` header says.

The span id is all the decimal digits after the slash. The parser keeps the first twenty of them, and takes
up to three more characters after those for a rest it may ignore. -/
namespace Lightstep.Tracer
open Common Library
namespace TraceContext

def notSampled : List UInt8 := ascii ";o=0"

/-- A context says what the header does. -/
structure Says (s : List UInt8) (c : TraceContext) : Prop where
  length : num128BitHexDigits ≤ s.length
  digits : ∀ b ∈ s.take num128BitHexDigits, isHexDigit b = true
  traceId : readHex 0 (s.take num128BitHexDigits) = some (c.traceIdHigh.toNat * 2 ^ 64 + c.traceIdLow.toNat)
  parentId : ∀ rest, s.drop num128BitHexDigits = 47 :: rest → rest ≠ [] →
    c.parentId.toNat = decimalValue (rest.takeWhile isDigit)
  sampled : ∀ rest, s.drop num128BitHexDigits = 47 :: rest → rest ≠ [] →
    (c.sampled = false ↔ notSampled <+: rest.dropWhile isDigit)

/-- The digits after the slash are more than the buffer takes and too few characters are left after those
in it to be looked at, while those in it are in range and not all digits are zero. -/
structure Overruns (rest : List UInt8) : Prop where
  long : num64BitDecimalDigits < (rest.takeWhile isDigit).length
  short : rest.length < num64BitDecimalDigits + 4
  inRange : decimalValue (rest.take num64BitDecimalDigits) < 2 ^ 64
  nonzero : ∃ c ∈ rest.takeWhile isDigit, c ≠ 48

/-- The header has a trace id and a span id that overruns. -/
def Truncated (s : List UInt8) : Prop :=
  firstNonDigit (s.take num128BitHexDigits) = none ∧
    ∃ rest, s.drop num128BitHexDigits = 47 :: rest ∧ Overruns rest

/-! ### The parser step by step -/

/-- The context with the ids and the flag as given. -/
def withCloudTrace (d : TraceContext) (traceId : UInt64 × UInt64) (parentId : UInt64) (sampled : Bool) : TraceContext :=
  { d with
    traceIdHigh := traceId.1
    traceIdLow := traceId.2
    parentId := parentId
    traceFlags :=
      if sampled then setTraceFlag sampledFlagMask d.traceFlags true
      else setTraceFlag sampledFlagMask (setTraceFlag sampledFlagMask d.traceFlags true) false }

@[simp] theorem sampled_withCloudTrace (d : TraceContext) (traceId : UInt64 × UInt64) (parentId : UInt64)
    (sampled : Bool) : (d.withCloudTrace traceId parentId sampled).sampled = sampled := by
  cases sampled with
  | false => exact isTraceFlagSet_setTraceFlag (setTraceFlag sampledFlagMask d.traceFlags true) false
  | true => exact isTraceFlagSet_setTraceFlag d.traceFlags true

/-- What is parsed after the digits of the span id. -/
def parseOptions (d : TraceContext) (traceId : UInt64 × UInt64) (digits s : List UInt8) : Expected TraceContext :=
  if ¬ decimalValue digits < 2 ^ 64 then .error .resultOutOfRange
  else if s.length < 4 then .ok (d.withCloudTrace traceId (decimalValue digits).toUInt64 true)
  else if s.take 3 ≠ ascii ";o=" then .error .invalidArgument
  else .ok (d.withCloudTrace traceId (decimalValue digits).toUInt64 ((s.drop 3).head? != some 48))

theorem parseCloudTrace_of_error {s : List UInt8} {error : ErrorCode} (d : TraceContext)
    (h : normalizedHexToUint128 (s.take num128BitHexDigits) = .error error) :
    ∃ error, parseCloudTrace s d = .error error := by
  rw [parseCloudTrace, h]
  split
  · exact ⟨_, rfl⟩
  · exact ⟨_, rfl⟩

section
variable {s : List UInt8} {traceId : UInt64 × UInt64} (d : TraceContext) (hlength : num128BitHexDigits ≤ s.length)
  (htraceId : normalizedHexToUint128 (s.take num128BitHexDigits) = .ok traceId)
include hlength htraceId

theorem parseCloudTrace_short (h : (s.drop num128BitHexDigits).length < 2) :
    parseCloudTrace s d = .ok (d.withCloudTrace traceId d.parentId true) := by
  rw [parseCloudTrace, if_neg (Nat.not_lt.mpr hlength), htraceId]
  simp only [bind, Except.bind, if_pos h]
  rfl

theorem parseCloudTrace_other {c : UInt8} {rest : List UInt8} (hrest : s.drop num128BitHexDigits = c :: rest)
    (hne : rest ≠ []) (hc : c ≠ 47) : parseCloudTrace s d = .error .invalidArgument := by
  have hlong : ¬ (c :: rest).length < 2 := by
    have := List.length_pos_iff.mpr hne
    rw [List.length_cons]
    omega
  rw [parseCloudTrace, if_neg (Nat.not_lt.mpr hlength), htraceId]
  simp only [bind, Except.bind, hrest, if_neg hlong]
  rw [if_pos (by simpa using hc)]
  rfl

theorem parseCloudTrace_slash {rest : List UInt8} (hrest : s.drop num128BitHexDigits = 47 :: rest) (hne : rest ≠ []) :
    parseCloudTrace s d = d.parseOptions traceId ((rest.take num64BitDecimalDigits).takeWhile isDigit)
      (rest.drop ((rest.take num64BitDecimalDigits).takeWhile isDigit).length) := by
  have hlong : ¬ (47 :: rest).length < 2 := by
    have := List.length_pos_iff.mpr hne
    rw [List.length_cons]
    omega
  rw [parseCloudTrace, if_neg (Nat.not_lt.mpr hlength), htraceId]
  simp only [bind, Except.bind, hrest, if_neg hlong, List.head?_cons, ne_eq, not_true_eq_false, if_false,
    List.tail_cons, strtoull, parseOptions]
  generalize (rest.take num64BitDecimalDigits).takeWhile isDigit = digits
  by_cases hrange : decimalValue digits < 2 ^ 64
  · simp only [if_pos hrange, Bool.false_eq_true, if_false, if_neg (not_not.mpr hrange)]
    by_cases hoff : ((rest.drop digits.length).drop 3).head? = some 48
    · rw [if_pos hoff, hoff]
      rfl
    · have hon : (((rest.drop digits.length).drop 3).head? != some 48) = true := bne_iff_ne.mpr hoff
      rw [if_neg hoff, hon]
      rfl
  · simp only [if_neg hrange, if_true, if_pos hrange]
    rfl

end

/-! ### The digits of the span id -/

theorem takeWhile_of_length_le {rest : List UInt8} (h : (rest.takeWhile isDigit).length ≤ num64BitDecimalDigits) :
    (rest.take num64BitDecimalDigits).takeWhile isDigit = rest.takeWhile isDigit ∧
      rest.drop (rest.takeWhile isDigit).length = rest.dropWhile isDigit := by
  refine ⟨by rw [← List.take_takeWhile, List.take_of_length_le h], ?_⟩
  have hdrop : (rest.takeWhile isDigit ++ rest.dropWhile isDigit).drop (rest.takeWhile isDigit).length = _ :=
    List.drop_left
  rwa [List.takeWhile_append_dropWhile] at hdrop

/-- Too many digits fill the buffer, and one of them comes next. -/
theorem takeWhile_of_lt_length {rest : List UInt8} (h : num64BitDecimalDigits < (rest.takeWhile isDigit).length) :
    (rest.take num64BitDecimalDigits).takeWhile isDigit = rest.take num64BitDecimalDigits ∧
      rest.takeWhile isDigit =
        rest.take num64BitDecimalDigits ++ (rest.takeWhile isDigit).drop num64BitDecimalDigits ∧
      ∃ c tail, rest.drop num64BitDecimalDigits = c :: tail ∧ isDigit c = true := by
  have htake : (rest.takeWhile isDigit).take num64BitDecimalDigits = rest.take num64BitDecimalDigits := by
    conv_rhs => rw [← List.takeWhile_append_dropWhile (p := isDigit) (l := rest)]
    exact (List.take_append_of_le_length (Nat.le_of_lt h)).symm
  refine ⟨by rw [← List.take_takeWhile, htake], by rw [← htake, List.take_append_drop], ?_⟩
  refine ⟨(rest.takeWhile isDigit)[num64BitDecimalDigits], (rest.takeWhile isDigit).drop (num64BitDecimalDigits + 1) ++
    rest.dropWhile isDigit, ?_, List.mem_takeWhile_imp (List.getElem_mem h)⟩
  conv_lhs => rw [← List.takeWhile_append_dropWhile (p := isDigit) (l := rest)]
  rw [List.drop_append_of_le_length (Nat.le_of_lt h), ← List.cons_append, List.getElem_cons_drop]

/-! ### What is parsed -/

theorem notSampled_prefix_iff {s : List UInt8} (h : s.take 3 = ascii ";o=") :
    notSampled <+: s ↔ (s.drop 3).head? = some 48 := by
  have hnot : notSampled = ascii ";o=" ++ [48] := by decide
  rw [hnot, ← List.take_append_drop 3 s, h, List.prefix_append_right_inj, List.drop_left' (by decide)]
  cases s.drop 3 with
  | nil => simp
  | cons c rest => simp [List.cons_prefix_cons, eq_comm]

theorem parseOptions_ok {d c : TraceContext} {traceId : UInt64 × UInt64} {digits s : List UInt8}
    (h : d.parseOptions traceId digits s = .ok c) :
    decimalValue digits < 2 ^ 64 ∧ (s.length < 4 ∨ s.take 3 = ascii ";o=") ∧
      ∃ sampled, c = d.withCloudTrace traceId (decimalValue digits).toUInt64 sampled ∧
        (sampled = false ↔ notSampled <+: s) := by
  rw [parseOptions] at h
  split at h
  case isTrue => cases h
  case isFalse hrange =>
    refine ⟨not_not.mp hrange, ?_⟩
    split at h
    case isTrue hshort =>
      cases h
      refine ⟨.inl hshort, true, rfl, iff_of_false nofun fun hprefix => ?_⟩
      exact absurd hprefix.length_le (Nat.not_le.mpr hshort)
    case isFalse =>
      split at h
      case isTrue => cases h
      case isFalse hoption =>
        cases h
        refine ⟨.inr (not_not.mp hoption), _, rfl, ?_⟩
        rw [notSampled_prefix_iff (not_not.mp hoption)]
        simp

/-- Up to twenty digits are all taken. -/
theorem says_of_length_le {s rest : List UInt8} {c d : TraceContext} {traceId : UInt64 × UInt64}
    (hlength : num128BitHexDigits ≤ s.length)
    (htraceId : normalizedHexToUint128 (s.take num128BitHexDigits) = .ok traceId)
    (hrest : s.drop num128BitHexDigits = 47 :: rest) (hne : rest ≠ [])
    (hle : (rest.takeWhile isDigit).length ≤ num64BitDecimalDigits) (h : parseCloudTrace s d = .ok c) :
    c.parentId.toNat = decimalValue (rest.takeWhile isDigit) ∧
      (c.sampled = false ↔ notSampled <+: rest.dropWhile isDigit) := by
  obtain ⟨hdigits, hafter⟩ := takeWhile_of_length_le hle
  rw [parseCloudTrace_slash d hlength htraceId hrest hne, hdigits, hafter] at h
  obtain ⟨hrange, -, sampled, rfl, hsampled⟩ := parseOptions_ok h
  refine ⟨?_, by rw [sampled_withCloudTrace, hsampled]⟩
  have hvalue : (decimalValue (rest.takeWhile isDigit)).toUInt64.toNat = _ := UInt64.toNat_ofNat_of_lt' hrange
  exact hvalue

/-- Of more digits the first twenty are, if nothing is left that would be looked at. -/
theorem parseCloudTrace_of_lt_length {s rest : List UInt8} {d : TraceContext} {traceId : UInt64 × UInt64}
    (hlength : num128BitHexDigits ≤ s.length)
    (htraceId : normalizedHexToUint128 (s.take num128BitHexDigits) = .ok traceId)
    (hrest : s.drop num128BitHexDigits = 47 :: rest)
    (hlt : num64BitDecimalDigits < (rest.takeWhile isDigit).length) :
    (∀ c, parseCloudTrace s d = .ok c → rest.length < num64BitDecimalDigits + 4 ∧
      decimalValue (rest.take num64BitDecimalDigits) < 2 ^ 64) ∧
    (rest.length < num64BitDecimalDigits + 4 → decimalValue (rest.take num64BitDecimalDigits) < 2 ^ 64 →
      parseCloudTrace s d =
        .ok (d.withCloudTrace traceId (decimalValue (rest.take num64BitDecimalDigits)).toUInt64 true)) := by
  obtain ⟨hdigits, -, c, tail, htail, hdigit⟩ := takeWhile_of_lt_length hlt
  have hlong : num64BitDecimalDigits < rest.length := Nat.lt_of_lt_of_le hlt (List.takeWhile_prefix isDigit).length_le
  have hne : rest ≠ [] := List.ne_nil_of_length_pos (Nat.lt_of_le_of_lt (Nat.zero_le _) hlong)
  have htake : (rest.take num64BitDecimalDigits).length = num64BitDecimalDigits :=
    List.length_take_of_le (Nat.le_of_lt hlong)
  have hleft : (rest.drop num64BitDecimalDigits).length = rest.length - num64BitDecimalDigits := List.length_drop
  rw [parseCloudTrace_slash d hlength htraceId hrest hne, hdigits, htake]
  constructor
  · intro c' h
    obtain ⟨hrange, hshort | hoption, -⟩ := parseOptions_ok h
    · exact ⟨by omega, hrange⟩
    · -- the next character is a digit, no semicolon
      rw [htail] at hoption
      have hc : c = 59 := by simpa [ascii] using congrArg List.head? hoption
      subst hc
      cases hdigit
  · intro hshort hrange
    rw [parseOptions, if_neg (not_not.mpr hrange), if_pos (by omega)]

theorem traceId_of_parse {s : List UInt8} {c d : TraceContext} {traceId : UInt64 × UInt64}
    (hlength : num128BitHexDigits ≤ s.length)
    (htraceId : normalizedHexToUint128 (s.take num128BitHexDigits) = .ok traceId) (h : parseCloudTrace s d = .ok c) :
    c.traceIdHigh = traceId.1 ∧ c.traceIdLow = traceId.2 := by
  by_cases hshort : (s.drop num128BitHexDigits).length < 2
  · rw [parseCloudTrace_short d hlength htraceId hshort] at h
    cases h
    exact ⟨rfl, rfl⟩
  · cases hrest : s.drop num128BitHexDigits with
    | nil =>
      rw [hrest] at hshort
      exact absurd (by decide) hshort
    | cons b rest =>
      have hne : rest ≠ [] := by
        rintro rfl
        rw [hrest] at hshort
        exact absurd (by simp) hshort
      by_cases hb : b = 47
      · subst hb
        rw [parseCloudTrace_slash d hlength htraceId hrest hne] at h
        obtain ⟨-, -, sampled, rfl, -⟩ := parseOptions_ok h
        exact ⟨rfl, rfl⟩
      · rw [parseCloudTrace_other d hlength htraceId hrest hne hb] at h
        cases h

/-- The digits in the buffer stand for the span id only if all digits are zeros. -/
theorem zeros_of_decimalValue_eq {rest : List UInt8} (hlt : num64BitDecimalDigits < (rest.takeWhile isDigit).length)
    (h : decimalValue (rest.take num64BitDecimalDigits) = decimalValue (rest.takeWhile isDigit)) :
    ∀ c ∈ rest.takeWhile isDigit, c = 48 := by
  obtain ⟨-, hsplit, -⟩ := takeWhile_of_lt_length hlt
  refine decimalValue_eq_zero (fun c hc => List.mem_takeWhile_imp hc) ?_
  have hvalue := congrArg decimalValue hsplit
  have hpos : 0 < ((rest.takeWhile isDigit).drop num64BitDecimalDigits).length := by
    rw [List.length_drop]
    omega
  have hpow : 10 ≤ 10 ^ ((rest.takeWhile isDigit).drop num64BitDecimalDigits).length :=
    Nat.le_self_pow (Nat.ne_of_gt hpos) 10
  rw [decimalValue_append, ← h] at hvalue
  have hmul := Nat.mul_le_mul_left (decimalValue (rest.take num64BitDecimalDigits)) hpow
  omega

/-- Of more digits that are all zeros as many as are read stand for the same. -/
theorem says_of_zeros {s rest : List UInt8} {c d : TraceContext} {traceId : UInt64 × UInt64}
    (hlength : num128BitHexDigits ≤ s.length)
    (htraceId : normalizedHexToUint128 (s.take num128BitHexDigits) = .ok traceId)
    (hrest : s.drop num128BitHexDigits = 47 :: rest)
    (hlt : num64BitDecimalDigits < (rest.takeWhile isDigit).length) (hzeros : ∀ b ∈ rest.takeWhile isDigit, b = 48)
    (h : parseCloudTrace s d = .ok c) :
    c.parentId.toNat = decimalValue (rest.takeWhile isDigit) ∧
      (c.sampled = false ↔ notSampled <+: rest.dropWhile isDigit) := by
  have hparse := parseCloudTrace_of_lt_length (d := d) hlength htraceId hrest hlt
  obtain ⟨hshort, hrange⟩ := hparse.1 c h
  rw [hparse.2 hshort hrange] at h
  cases h
  obtain ⟨-, hsplit, -⟩ := takeWhile_of_lt_length hlt
  have hbuffer : decimalValue (rest.take num64BitDecimalDigits) = 0 := by
    refine decimalValue_of_zeros fun b hb => hzeros b ?_
    rw [hsplit]
    exact List.mem_append_left _ hb
  refine ⟨?_, iff_of_false (by rw [sampled_withCloudTrace]; decide) fun hprefix => ?_⟩
  · rw [decimalValue_of_zeros hzeros, hbuffer]
    rfl
  · have hlengths := congrArg List.length (List.takeWhile_append_dropWhile (p := isDigit) (l := rest))
    have hfour : 4 ≤ (rest.dropWhile isDigit).length := hprefix.length_le
    rw [List.length_append] at hlengths
    omega

/-- A truncated header is read, as one of another span. -/
theorem exists_not_says_of_truncated {s : List UInt8} (d : TraceContext) (h : Truncated s) :
    ∃ c, parseCloudTrace s d = .ok c ∧ ¬ Says s c := by
  obtain ⟨hnone, rest, hrest, hoverruns⟩ := h
  have hlength : num128BitHexDigits ≤ s.length := by
    have hlengths := congrArg List.length hrest
    rw [List.length_drop, List.length_cons] at hlengths
    omega
  have hcases := normalizedHexToUint128_cases (s.take num128BitHexDigits)
  rw [List.take_take, Nat.min_self, hnone] at hcases
  obtain ⟨traceId, htraceId, -⟩ | ⟨c, -, hsome⟩ := hcases
  · refine ⟨_, (parseCloudTrace_of_lt_length hlength htraceId hrest hoverruns.long).2 hoverruns.short
      hoverruns.inRange, fun htold => ?_⟩
    have hne : rest ≠ [] := by
      rintro rfl
      exact absurd hoverruns.long (by decide)
    have hparentId := htold.parentId rest hrest hne
    have hvalue : (decimalValue (rest.take num64BitDecimalDigits)).toUInt64.toNat = _ :=
      UInt64.toNat_ofNat_of_lt' hoverruns.inRange
    obtain ⟨c, hc, hnonzero⟩ := hoverruns.nonzero
    exact hnonzero (zeros_of_decimalValue_eq hoverruns.long (hvalue.symm.trans hparentId) c hc)
  · cases hsome

/-- A header that is read and not truncated has been read for what it says. -/
theorem says_of_not_truncated {s : List UInt8} {c d : TraceContext} (hnot : ¬ Truncated s)
    (h : parseCloudTrace s d = .ok c) : Says s c := by
  have hlength : num128BitHexDigits ≤ s.length := by
    refine Nat.le_of_not_lt fun hshort => ?_
    rw [parseCloudTrace, if_pos hshort] at h
    cases h
  have hcases := normalizedHexToUint128_cases (s.take num128BitHexDigits)
  rw [List.take_take, Nat.min_self] at hcases
  obtain ⟨traceId, htraceId, hnone⟩ | ⟨b, hb, -⟩ := hcases
  · obtain ⟨hhigh, hlow⟩ := traceId_of_parse hlength htraceId h
    have hspan : ∀ rest, s.drop num128BitHexDigits = 47 :: rest → rest ≠ [] →
        c.parentId.toNat = decimalValue (rest.takeWhile isDigit) ∧
          (c.sampled = false ↔ notSampled <+: rest.dropWhile isDigit) := by
      intro rest hrest hne
      by_cases hle : (rest.takeWhile isDigit).length ≤ num64BitDecimalDigits
      · exact says_of_length_le hlength htraceId hrest hne hle h
      · have hlt := Nat.lt_of_not_le hle
        obtain ⟨hshort, hrange⟩ := (parseCloudTrace_of_lt_length hlength htraceId hrest hlt).1 c h
        refine says_of_zeros hlength htraceId hrest hlt (fun b hb => ?_) h
        exact not_not.mp fun hb0 => hnot ⟨hnone, rest, hrest, hlt, hshort, hrange, b, hb, hb0⟩
    exact
      { length := hlength
        digits := fun b hb => by simpa using List.find?_eq_none.mp hnone b hb
        traceId := by rw [hhigh, hlow, readHex_of_normalized (List.length_take_of_le hlength) htraceId]
        parentId := fun rest hrest hne => (hspan rest hrest hne).1
        sampled := fun rest hrest hne => (hspan rest hrest hne).2 }
  · obtain ⟨error, herror⟩ := parseCloudTrace_of_error d hb
    rw [herror] at h
    cases h

/-- **A context is what the header says exactly if the header is not truncated.** -/
theorem parseCloudTrace_says_iff (s : List UInt8) (d : TraceContext) :
    (∀ c, parseCloudTrace s d = .ok c → Says s c) ↔ ¬ Truncated s := by
  refine ⟨fun htold htruncated => ?_, fun hnot c hparse => says_of_not_truncated hnot hparse⟩
  obtain ⟨c, hparse, hdiffers⟩ := exists_not_says_of_truncated d htruncated
  exact hdiffers (htold c hparse)

/-- Twenty-one digits, too large a number for a span id, and it is taken for a tenth of it. -/
theorem parseCloudTrace_truncates :
    ∃ c, parseCloudTrace (List.replicate 32 48 ++ ascii "/100000000000000000000") .new = .ok c ∧
      c.parentId = 10000000000000000000 ∧ ¬ Says (List.replicate 32 48 ++ ascii "/100000000000000000000") c := by
  refine ⟨_, rfl, rfl, fun htold => ?_⟩
  have hparentId := htold.parentId (ascii "100000000000000000000") (by decide) (by decide)
  exact absurd hparentId (by decide)

end TraceContext
end Lightstep.Tracer

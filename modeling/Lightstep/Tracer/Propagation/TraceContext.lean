import Lightstep.Common.HexConversion

/-! A trace context and the two formats that put it into one header. -/
namespace Lightstep.Tracer
open Common

structure TraceContext where
  traceIdHigh : UInt64
  traceIdLow : UInt64
  parentId : UInt64
  traceFlags : UInt8
  version : UInt8
  deriving DecidableEq

namespace TraceContext

def traceContextLength : Nat := 55
def sampledFlagMask : UInt8 := 1
def traceContextVersion : UInt8 := 0

def new : TraceContext := ⟨0, 0, 0, 0, traceContextVersion⟩

def isTraceFlagSet (mask flags : UInt8) : Bool := flags &&& mask != 0

def setTraceFlag (mask flags : UInt8) (value : Bool) : UInt8 :=
  if value then flags ||| mask else flags &&& ~~~mask

def sampled (c : TraceContext) : Bool := isTraceFlagSet sampledFlagMask c.traceFlags

theorem isTraceFlagSet_setTraceFlag (flags : UInt8) (value : Bool) :
    isTraceFlagSet sampledFlagMask (setTraceFlag sampledFlagMask flags value) = value := by
  have hflags : ∀ n, n < 256 → ∀ value,
      isTraceFlagSet sampledFlagMask (setTraceFlag sampledFlagMask n.toUInt8 value) = value := by
    decide +kernel
  have h := hflags flags.toNat flags.toNat_lt value
  rwa [Nat.toUInt8, UInt8.ofNat_toNat] at h

/-! ### `traceparent` -/

def dash : UInt8 := 45

/-- Checks a separator and goes on after it. -/
def expectDash (s : List UInt8) : Expected (List UInt8) :=
  if s.head? = some dash then .ok s.tail else .error .invalidArgument

/-- What an error leaves in the context is dropped; no caller reads it. -/
def parseTraceContext (s : List UInt8) (c : TraceContext) : Expected TraceContext :=
  if s.length < traceContextLength then .error .invalidArgument
  else do
    let version ← normalizedHexToUint8 (s.take num8BitHexDigits)
    let c := {c with version := version}
    let s ← expectDash (s.drop num8BitHexDigits)
    let traceId ← normalizedHexToUint128 (s.take num128BitHexDigits)
    let c := {c with traceIdHigh := traceId.1, traceIdLow := traceId.2}
    let s ← expectDash (s.drop num128BitHexDigits)
    let parentId ← normalizedHexToUint64 (s.take num64BitHexDigits)
    let c := {c with parentId := parentId}
    let s ← expectDash (s.drop num64BitHexDigits)
    let traceFlags ← normalizedHexToUint8 (s.take num8BitHexDigits)
    return {c with traceFlags := traceFlags}

def serializeTraceContext (c : TraceContext) : List UInt8 :=
  uint8ToHex c.version ++ dash :: (uint64ToHex c.traceIdHigh ++ uint64ToHex c.traceIdLow ++
    dash :: (uint64ToHex c.parentId ++ dash :: uint8ToHex c.traceFlags))

theorem length_serializeTraceContext (c : TraceContext) :
    c.serializeTraceContext.length = traceContextLength := by
  simp [serializeTraceContext, traceContextLength]

theorem expectDash_append {front rest : List UInt8} {k : Nat} (h : front.length = k) :
    expectDash ((front ++ dash :: rest).drop k) = .ok rest := by
  rw [List.drop_left' h]
  rfl

/-- **What is serialized parses back**, every field of it. -/
theorem parseTraceContext_serializeTraceContext (c d : TraceContext) :
    parseTraceContext c.serializeTraceContext d = .ok c := by
  have hnot : ¬ c.serializeTraceContext.length < traceContextLength := by
    rw [length_serializeTraceContext]
    exact Nat.lt_irrefl _
  have htraceId : (uint64ToHex c.traceIdHigh ++ uint64ToHex c.traceIdLow).length = num128BitHexDigits := by
    rw [List.length_append, length_uint64ToHex, length_uint64ToHex]
    rfl
  have hparentId : (uint64ToHex c.parentId).length = num64BitHexDigits := length_uint64ToHex _
  have hversion : (uint8ToHex c.version).length = num8BitHexDigits := rfl
  have hflags : (uint8ToHex c.traceFlags).take num8BitHexDigits = uint8ToHex c.traceFlags := rfl
  rw [parseTraceContext, if_neg hnot, serializeTraceContext]
  simp only [bind, Except.bind, pure, Except.pure, List.take_left' hversion, expectDash_append hversion,
    List.take_left' htraceId, expectDash_append htraceId, List.take_left' hparentId, expectDash_append hparentId,
    hflags, normalizedHexToUint8_uint8ToHex, normalizedHexToUint128_uint64ToHex, normalizedHexToUint64_uint64ToHex]

/-! ### `x-cloud-trace-context` -/

def cloudContextLength : Nat := 58
def num64BitDecimalDigits : Nat := 20

/-- `std::strtoull` to the base 10 of a string of digits only, and whether the number is out of range. -/
def strtoull (digits : List UInt8) : Nat × Bool :=
  if decimalValue digits < 2 ^ 64 then (decimalValue digits, false) else (2 ^ 64 - 1, true)

def parseCloudTrace (s : List UInt8) (c : TraceContext) : Expected TraceContext :=
  if s.length < num128BitHexDigits then .error .invalidArgument
  else do
    let c := {c with traceFlags := setTraceFlag sampledFlagMask c.traceFlags true}
    let traceId ← normalizedHexToUint128 (s.take num128BitHexDigits)
    let c := {c with traceIdHigh := traceId.1, traceIdLow := traceId.2}
    let s := s.drop num128BitHexDigits
    if s.length < 2 then return c
    else if s.head? ≠ some 47 then throw .invalidArgument
    else
      let s := s.tail
      let digits := (s.take num64BitDecimalDigits).takeWhile isDigit
      let s := s.drop digits.length
      let c := {c with parentId := (strtoull digits).1.toUInt64}
      if (strtoull digits).2 then throw .resultOutOfRange
      else if s.length < 4 then return c
      else if s.take 3 ≠ ascii ";o=" then throw .invalidArgument
      else if (s.drop 3).head? = some 48 then
        return {c with traceFlags := setTraceFlag sampledFlagMask c.traceFlags false}
      else return c

/-- `snprintf` into so many bytes: the last one is for the terminating null character. -/
def snprintf (size : Nat) (text : List UInt8) : List UInt8 := text.take (size - 1)

def serializeCloudTrace (c : TraceContext) : List UInt8 :=
  uint64ToHex c.traceIdHigh ++ uint64ToHex c.traceIdLow ++
    snprintf (cloudContextLength - num128BitHexDigits)
      (47 :: (decimal c.parentId.toNat ++ (ascii ";o=" ++ [if c.sampled then 49 else 48])))

theorem length_decimal_parentId (c : TraceContext) : (decimal c.parentId.toNat).length ≤ num64BitDecimalDigits :=
  length_decimal_le (by decide) (Nat.lt_of_lt_of_le c.parentId.toNat_lt (by decide))

/-- The buffer is large enough. -/
theorem serializeCloudTrace_eq (c : TraceContext) : c.serializeCloudTrace =
    uint64ToHex c.traceIdHigh ++ uint64ToHex c.traceIdLow ++
      (47 :: (decimal c.parentId.toNat ++ (ascii ";o=" ++ [if c.sampled then 49 else 48]))) := by
  have hdecimal := c.length_decimal_parentId
  have hdigits : num64BitDecimalDigits = 20 := rfl
  have hlength : (ascii ";o=").length = 3 := by decide
  rw [serializeCloudTrace, snprintf, List.take_of_length_le]
  simp only [List.length_cons, List.length_append, List.length_nil, hlength, cloudContextLength,
    num128BitHexDigits, num64BitHexDigits]
  omega

theorem takeWhile_decimal {n k : Nat} (h : (decimal n).length ≤ k) {c : UInt8} (hc : isDigit c = false)
    (rest : List UInt8) : ((decimal n ++ c :: rest).take k).takeWhile isDigit = decimal n := by
  have hnot : ∀ j, ((c :: rest).take j).takeWhile isDigit = [] := by
    intro j
    cases j with
    | zero => rfl
    | succ j => exact List.takeWhile_cons_of_neg (by rw [hc]; decide)
  rw [List.take_append, List.take_of_length_le h,
    List.takeWhile_append_of_pos fun d hd => isDigit_of_mem_decimal hd, hnot, List.append_nil]

theorem strtoull_decimal (x : UInt64) : strtoull (decimal x.toNat) = (x.toNat, false) := by
  rw [strtoull, decimalValue_decimal, if_pos x.toNat_lt]

/-- **What is serialized parses back** but for the flags other than the sampled one. -/
theorem parseCloudTrace_serializeCloudTrace (c d : TraceContext) :
    parseCloudTrace c.serializeCloudTrace d =
      .ok { d with
        traceIdHigh := c.traceIdHigh
        traceIdLow := c.traceIdLow
        parentId := c.parentId
        traceFlags :=
          if c.sampled then setTraceFlag sampledFlagMask d.traceFlags true
          else setTraceFlag sampledFlagMask (setTraceFlag sampledFlagMask d.traceFlags true) false } := by
  have htraceId : (uint64ToHex c.traceIdHigh ++ uint64ToHex c.traceIdLow).length = num128BitHexDigits := by
    rw [List.length_append, length_uint64ToHex, length_uint64ToHex]
    rfl
  have hoption : ascii ";o=" = [59, 111, 61] := by decide
  have hdigits := takeWhile_decimal c.length_decimal_parentId (show isDigit 59 = false by decide)
    (111 :: 61 :: [if c.sampled then 49 else 48])
  have hnot : ¬ c.serializeCloudTrace.length < num128BitHexDigits := by
    rw [serializeCloudTrace_eq, List.length_append, htraceId]
    exact Nat.not_lt.mpr (Nat.le_add_right _ _)
  have hlong : ¬ (47 :: (decimal c.parentId.toNat ++ [59, 111, 61, if c.sampled then 49 else 48])).length < 2 := by
    simp
  rw [parseCloudTrace, if_neg hnot, serializeCloudTrace_eq, hoption]
  simp only [List.cons_append, List.nil_append] at hdigits ⊢
  simp only [List.take_left' htraceId, List.drop_left' htraceId, normalizedHexToUint128_uint64ToHex, bind, Except.bind,
    if_neg hlong, List.head?_cons, ne_eq, not_true_eq_false, if_false, List.tail_cons, hdigits, List.drop_left,
    strtoull_decimal]
  cases c.sampled <;> simp [pure, Except.pure, Nat.toUInt64]

end TraceContext
end Lightstep.Tracer

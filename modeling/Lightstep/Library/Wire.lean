import Mathlib.Algebra.Order.Ring.Nat
import Mathlib.Algebra.Ring.Int.Defs
import Lightstep.Library.Varint

/-! The wire format of protocol buffers.

A message is a list of fields, a field its number and a value of one of four wire
types. What is encoded is parsed back field by field, as long as the numbers fit
and no length reaches the parser's limit of `2 ^ 31`. -/
namespace Lightstep.Library

/-- The `k` lowest bytes of a number, lowest first. -/
def littleEndian : Nat → Nat → List UInt8
  | 0, _ => []
  | k + 1, n => (n % 256).toUInt8 :: littleEndian k (n / 256)

def fromLittleEndian : List UInt8 → Nat
  | [] => 0
  | b :: rest => b.toNat + 256 * fromLittleEndian rest

@[simp] theorem length_littleEndian (k n : Nat) : (littleEndian k n).length = k := by
  induction k generalizing n with
  | zero => rfl
  | succ k ih => simp only [littleEndian, List.length_cons, ih]

theorem fromLittleEndian_littleEndian (k n : Nat) (h : n < 256 ^ k) :
    fromLittleEndian (littleEndian k n) = n := by
  induction k generalizing n with
  | zero =>
    have hn : n = 0 := by simpa using h
    rw [hn]
    rfl
  | succ k ih =>
    rw [Nat.pow_succ] at h
    have hdiv : n / 256 < 256 ^ k := Nat.div_lt_of_lt_mul (by rw [Nat.mul_comm]; exact h)
    rw [littleEndian, fromLittleEndian, ih _ hdiv, toNat_toUInt8 (Nat.mod_lt _ (by decide))]
    omega

inductive WireValue where
  | varint (n : Nat)
  | fixed64 (n : Nat)
  | lengthDelimited (bytes : List UInt8)
  | fixed32 (n : Nat)
  deriving DecidableEq

structure Field where
  number : Nat
  value : WireValue
  deriving DecidableEq

namespace WireValue

def wireType : WireValue → Nat
  | varint _ => 0
  | fixed64 _ => 1
  | lengthDelimited _ => 2
  | fixed32 _ => 5

def encode : WireValue → List UInt8
  | varint n => Library.varint n
  | fixed64 n => littleEndian 8 n
  | lengthDelimited bytes => Library.varint bytes.length ++ bytes
  | fixed32 n => littleEndian 4 n

/-- The values an encoding is parsed back to. -/
def Fits : WireValue → Prop
  | varint n => n < 2 ^ 64
  | fixed64 n => n < 2 ^ 64
  | lengthDelimited bytes => bytes.length < 2 ^ 31
  | fixed32 n => n < 2 ^ 32

theorem wireType_lt (v : WireValue) : v.wireType < 8 := by
  cases v <;> simp [wireType]

end WireValue

/-- The tag of a field: its number and its wire type. -/
def fieldTag (number wireType : Nat) : List UInt8 := varint (number * 8 + wireType)

def Field.encode (f : Field) : List UInt8 := fieldTag f.number f.value.wireType ++ f.value.encode

def Field.Fits (f : Field) : Prop := 0 < f.number ∧ f.number < 2 ^ 29 ∧ f.value.Fits

def encodeFields (fields : List Field) : List UInt8 := fields.flatMap Field.encode

/-! ### Parsing -/

def takeBytes (k : Nat) (input : List UInt8) : Option (List UInt8 × List UInt8) :=
  if k ≤ input.length then some (input.take k, input.drop k) else none

def parseValue (wireType : Nat) (input : List UInt8) : Option (WireValue × List UInt8) :=
  match wireType with
  | 0 => (parseVarint input).map fun (n, rest) => (.varint (n % 2 ^ 64), rest)
  | 1 => (takeBytes 8 input).map fun (bytes, rest) => (.fixed64 (fromLittleEndian bytes), rest)
  | 2 => (parseVarint input).bind fun (n, rest) =>
    if n < 2 ^ 31 then (takeBytes n rest).map fun (bytes, rest) => (.lengthDelimited bytes, rest)
    else none
  | 5 => (takeBytes 4 input).map fun (bytes, rest) => (.fixed32 (fromLittleEndian bytes), rest)
  | _ => none

def parseField (input : List UInt8) : Option (Field × List UInt8) :=
  (parseVarint input).bind fun (tag, rest) =>
    if 0 < tag / 8 ∧ tag < 2 ^ 32 then
      (parseValue (tag % 8) rest).map fun (value, rest) => (⟨tag / 8, value⟩, rest)
    else none

/-- Parses as many fields as the input has; the first argument bounds their number. -/
def parseFields : Nat → List UInt8 → Option (List Field)
  | _, [] => some []
  | 0, _ :: _ => none
  | fuel + 1, b :: input =>
    (parseField (b :: input)).bind fun (field, rest) =>
      (parseFields fuel rest).map fun fields => field :: fields

/-- A field takes at least a byte, so there are no more fields than bytes. -/
def parseMessage (input : List UInt8) : Option (List Field) := parseFields input.length input

theorem takeBytes_append (bytes rest : List UInt8) : takeBytes bytes.length (bytes ++ rest) = some (bytes, rest) := by
  have hle : bytes.length ≤ (bytes ++ rest).length := by simp
  rw [takeBytes, if_pos hle, List.take_left, List.drop_left]

theorem parseValue_encode {v : WireValue} (h : v.Fits) (rest : List UInt8) :
    parseValue v.wireType (v.encode ++ rest) = some (v, rest) := by
  cases v with
  | varint n =>
    have h : n < 2 ^ 64 := h
    simp only [WireValue.wireType, WireValue.encode, parseValue, parseVarint_varint h, Option.map_some,
      Nat.mod_eq_of_lt h]
  | fixed64 n =>
    have h : n < 256 ^ 8 := h
    have htake := takeBytes_append (littleEndian 8 n) rest
    rw [length_littleEndian] at htake
    simp only [WireValue.wireType, WireValue.encode, parseValue, htake, Option.map_some,
      fromLittleEndian_littleEndian 8 n h]
  | lengthDelimited bytes =>
    have h : bytes.length < 2 ^ 31 := h
    have h64 : bytes.length < 2 ^ 64 := by omega
    simp only [WireValue.wireType, WireValue.encode, parseValue, List.append_assoc,
      parseVarint_varint h64, Option.bind_some, if_pos h, takeBytes_append, Option.map_some]
  | fixed32 n =>
    have h : n < 256 ^ 4 := h
    have htake := takeBytes_append (littleEndian 4 n) rest
    rw [length_littleEndian] at htake
    simp only [WireValue.wireType, WireValue.encode, parseValue, htake, Option.map_some,
      fromLittleEndian_littleEndian 4 n h]

theorem parseField_encode {f : Field} (h : f.Fits) (rest : List UInt8) :
    parseField (f.encode ++ rest) = some (f, rest) := by
  obtain ⟨hpos, hlt, hvalue⟩ := h
  have hwire := f.value.wireType_lt
  have htag : f.number * 8 + f.value.wireType < 2 ^ 64 := by omega
  have hdiv : (f.number * 8 + f.value.wireType) / 8 = f.number := by omega
  have hmod : (f.number * 8 + f.value.wireType) % 8 = f.value.wireType := by omega
  have hok : 0 < f.number ∧ f.number * 8 + f.value.wireType < 2 ^ 32 := ⟨hpos, by omega⟩
  simp only [parseField, Field.encode, fieldTag, List.append_assoc, parseVarint_varint htag,
    Option.bind_some, hdiv, hmod, if_pos hok, parseValue_encode hvalue, Option.map_some]

/-- What a value takes at most. -/
def WireValue.size : WireValue → Nat
  | varint _ => 10
  | fixed64 _ => 8
  | lengthDelimited bytes => 10 + bytes.length
  | fixed32 _ => 4

theorem WireValue.encode_length_le (v : WireValue) : v.encode.length ≤ v.size := by
  cases v with
  | varint n => exact varintSize_le n
  | fixed64 n => exact Nat.le_of_eq (length_littleEndian 8 n)
  | lengthDelimited bytes =>
    have hlength : (Library.varint bytes.length).length ≤ 10 := varintSize_le _
    rw [WireValue.encode, List.length_append, WireValue.size]
    omega
  | fixed32 n => exact Nat.le_of_eq (length_littleEndian 4 n)

theorem Field.encode_length_le (f : Field) : f.encode.length ≤ 10 + f.value.size := by
  have htag : (fieldTag f.number f.value.wireType).length ≤ 10 := varintSize_le _
  have hvalue := f.value.encode_length_le
  rw [Field.encode, List.length_append]
  omega

theorem Field.encode_varint_length_le (number n : Nat) : (Field.mk number (.varint n)).encode.length ≤ 20 :=
  (Field.mk number (.varint n)).encode_length_le

theorem encode_ne_nil (f : Field) : f.encode ≠ [] :=
  List.append_ne_nil_of_left_ne_nil (varint_ne_nil _) _

/-- More fuel than there are bytes changes nothing. -/
theorem parseFields_encode {fields : List Field} (h : ∀ f ∈ fields, f.Fits) (fuel : Nat)
    (hfuel : (encodeFields fields).length ≤ fuel) : parseFields fuel (encodeFields fields) = some fields := by
  induction fields generalizing fuel with
  | nil => cases fuel <;> rfl
  | cons f rest ih =>
    have hpos : 0 < f.encode.length := List.length_pos_iff.mpr (encode_ne_nil f)
    rw [encodeFields, List.flatMap_cons, List.length_append] at hfuel
    have hrest : parseFields (fuel - 1) (encodeFields rest) = some rest :=
      ih (fun g hg => h g (List.mem_cons_of_mem f hg)) (fuel - 1) (by rw [encodeFields]; omega)
    obtain ⟨fuel, rfl⟩ : ∃ k, fuel = k + 1 := ⟨fuel - 1, by omega⟩
    have hfield := parseField_encode (h f (List.mem_cons_self ..)) (encodeFields rest)
    rw [encodeFields, List.flatMap_cons]
    rw [encodeFields] at hfield
    cases hinput : f.encode ++ rest.flatMap Field.encode with
    | nil => exact absurd hinput (List.append_ne_nil_of_left_ne_nil (encode_ne_nil f) _)
    | cons b input =>
      rw [hinput] at hfield
      rw [Nat.add_sub_cancel, encodeFields] at hrest
      simp only [parseFields, hfield, Option.bind_some, hrest, Option.map_some]

/-- **What is encoded is parsed back.** -/
theorem parseMessage_encode {fields : List Field} (h : ∀ f ∈ fields, f.Fits) :
    parseMessage (encodeFields fields) = some fields :=
  parseFields_encode h _ (Nat.le_refl _)

theorem encodeFields_append (a b : List Field) : encodeFields (a ++ b) = encodeFields a ++ encodeFields b :=
  List.flatMap_append

end Lightstep.Library

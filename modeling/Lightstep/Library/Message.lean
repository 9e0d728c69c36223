import Mathlib.Algebra.Order.Ring.Nat
import Mathlib.Algebra.Ring.Int.Defs
import Lightstep.Library.Fold
import Lightstep.Library.Wire

/-! Messages, read field by field.

A message type says what each field does to the message so far: a scalar is
replaced, so the last one counts, and an element of a repeated field is added.
A field that a type does not know is passed over. -/
namespace Lightstep.Library
variable {M : Type}

/-- Fields are read one by one, each into what those before it have left. -/
def readMessage (read : M → Field → Option M) (init : M) (bytes : List UInt8) : Option M :=
  (parseMessage bytes).bind fun fields => fields.foldlM read init

/-- What was written as fields is read field by field. -/
theorem readMessage_encodeFields {fields : List Field} (h : ∀ f ∈ fields, f.Fits) (read : M → Field → Option M)
    (init : M) : readMessage read init (encodeFields fields) = fields.foldlM read init := by
  rw [readMessage, parseMessage_encode h, Option.bind_some]

theorem fits_mk {number : Nat} {value : WireValue} (hpos : 0 < number) (hlt : number < 2 ^ 29) (h : value.Fits) :
    (Field.mk number value).Fits := ⟨hpos, hlt, h⟩

/-- No part of a message is longer than the message. -/
theorem length_le_encodeFields {fields : List Field} {f : Field} (h : f ∈ fields) :
    f.encode.length ≤ (encodeFields fields).length := by
  obtain ⟨before, after, rfl⟩ := List.append_of_mem h
  have hcons : encodeFields (f :: after) = f.encode ++ encodeFields after := List.flatMap_cons
  rw [encodeFields_append, hcons, List.length_append, List.length_append]
  omega

/-- A field is at least as long as what it holds. -/
theorem length_le_encode (number : Nat) (bytes : List UInt8) :
    bytes.length ≤ (Field.mk number (.lengthDelimited bytes)).encode.length := by
  rw [Field.encode, WireValue.encode, List.length_append, List.length_append]
  omega

/-! ### Fields that fit unless they are long -/

def WireValue.Regular : WireValue → Prop
  | varint n => n < 2 ^ 64
  | fixed64 n => n < 2 ^ 64
  | lengthDelimited _ => True
  | fixed32 n => n < 2 ^ 32

/-- A field that fits if it is not too long. -/
def Field.Regular (f : Field) : Prop := 0 < f.number ∧ f.number < 2 ^ 29 ∧ f.value.Regular

/-- Of a regular field only the length is left to check. -/
theorem Field.Regular.fits {f : Field} (h : f.Regular) (hlength : f.encode.length < 2 ^ 31) : f.Fits := by
  obtain ⟨number, value⟩ := f
  obtain ⟨hpos, hlt, hvalue⟩ := h
  cases value with
  | lengthDelimited bytes => exact ⟨hpos, hlt, Nat.lt_of_le_of_lt (length_le_encode number bytes) hlength⟩
  | varint n => exact ⟨hpos, hlt, hvalue⟩
  | fixed64 n => exact ⟨hpos, hlt, hvalue⟩
  | fixed32 n => exact ⟨hpos, hlt, hvalue⟩

/-- A message below the parser's limit is read field by field. -/
theorem readMessage_of_regular {fields : List Field} (h : ∀ f ∈ fields, f.Regular)
    (hlength : (encodeFields fields).length < 2 ^ 31) (read : M → Field → Option M) (init : M) :
    readMessage read init (encodeFields fields) = fields.foldlM read init :=
  readMessage_encodeFields
    (fun f hf => (h f hf).fits (Nat.lt_of_le_of_lt (length_le_encodeFields hf) hlength)) read init

theorem regular_varint64 {number : Nat} (hpos : 0 < number) (hlt : number < 2 ^ 29) (x : UInt64) :
    (Field.mk number (.varint x.toNat)).Regular := ⟨hpos, hlt, x.toNat_lt⟩

theorem regular_varint32 {number : Nat} (hpos : 0 < number) (hlt : number < 2 ^ 29) (x : UInt32) :
    (Field.mk number (.varint x.toNat)).Regular :=
  ⟨hpos, hlt, Nat.lt_trans x.toNat_lt (by decide)⟩

theorem regular_lengthDelimited {number : Nat} (hpos : 0 < number) (hlt : number < 2 ^ 29) (bytes : List UInt8) :
    (Field.mk number (.lengthDelimited bytes)).Regular := ⟨hpos, hlt, trivial⟩

/-! ### Entries of a map -/

/-- The fields of an entry of a map. -/
def entryFields (key value : List UInt8) : List Field := [⟨1, .lengthDelimited key⟩, ⟨2, .lengthDelimited value⟩]

def readEntry (entry : List UInt8 × List UInt8) : Field → Option (List UInt8 × List UInt8)
  | ⟨1, .lengthDelimited key⟩ => some (key, entry.2)
  | ⟨2, .lengthDelimited value⟩ => some (entry.1, value)
  | _ => some entry

/-- **An entry of a map is read as it was written.** -/
theorem readEntry_entryFields {key value : List UInt8} (hkey : key.length < 2 ^ 31) (hvalue : value.length < 2 ^ 31) :
    readMessage readEntry ([], []) (encodeFields (entryFields key value)) = some (key, value) := by
  refine readMessage_encodeFields (fun f hf => ?_) readEntry ([], [])
  rcases List.mem_pair.mp hf with rfl | rfl
  · exact fits_mk (by decide) (by decide) hkey
  · exact fits_mk (by decide) (by decide) hvalue

end Lightstep.Library

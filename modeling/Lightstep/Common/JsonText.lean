import Mathlib.Algebra.Order.Ring.Nat
import Mathlib.Algebra.Ring.Int.Defs
import Lightstep.Common.Value

/-! The text that `ToJson` writes.

What is written for a value depends on nothing but whether the base of the stream
has been set to 16, which a string sets it to that has a character without an
escape of its own. -/
namespace Lightstep.Common
open OStringStream

/-- A control character that is escaped by its number. -/
def isNumbered (c : UInt8) : Bool := c < 32 && c != 8 && c != 9 && c != 10 && c != 13

/-- What stands for a character in a string: itself, an escape of two characters, or its number. -/
def escapedChar (c : UInt8) : List UInt8 :=
  if c = 34 then ascii "\\\""
  else if c = 92 then ascii "\\\\"
  else if c = 8 then ascii "\\b"
  else if c = 10 then ascii "\\n"
  else if c = 13 then ascii "\\r"
  else if c = 9 then ascii "\\t"
  else if c < 32 then ascii "\\u" ++ (List.replicate (4 - (hexadecimal c.toNat).length) 48 ++ hexadecimal c.toNat)
  else [c]

def escapedString (s : List UInt8) : List UInt8 := 34 :: (s.flatMap escapedChar ++ [34])

/-- A number as a stream prints it: in hex its 64 bits, else with its sign. -/
def integerText (hex : Bool) (n : Int) : List UInt8 :=
  if hex then hexadecimal (n % 2 ^ 64).toNat
  else if n < 0 then 45 :: decimal n.natAbs
  else decimal n.natAbs

/-- What matters of a value for the base of the stream, in the order in which it is written. -/
inductive Token where
  | string (s : List UInt8)
  | integer (n : Int)
  deriving DecidableEq

mutual

/-- What the text of a value is made of, in its order. -/
def tokens : Value → List Token
  | .bool _ => []
  | .double _ => []
  | .int64 value => [.integer value.toInt]
  | .uint64 value => [.integer value.toNat]
  | .string s => [.string s]
  | .null => []
  | .cString s => [.string (cStringView s)]
  | .values values => tokensValues values
  | .dictionary dictionary => tokensDictionary dictionary

def tokensValues : List Value → List Token
  | [] => []
  | value :: rest => tokens value ++ tokensValues rest

def tokensDictionary : List (List UInt8 × Value) → List Token
  | [] => []
  | (key, value) :: rest => .string key :: (tokens value ++ tokensDictionary rest)

end

/-- A control character that is escaped by its number leaves the stream printing in hex. -/
def Token.setsHex : Token → Bool
  | string s => s.any isNumbered
  | integer _ => false

def setsHex (l : List Token) : Bool := l.any Token.setsHex

/-! ### One piece at a time -/

/-- The writer afterwards: the bytes are appended, and the base is 16 or not. -/
structure Appends (writer writer' : OStringStream) (bytes : List UInt8) (hex : Bool) : Prop where
  str : writer'.str = writer.str ++ bytes
  hex : writer'.hex = hex
  width : writer'.width = 0

theorem put_appends {writer : OStringStream} (h : writer.width = 0) (s : List UInt8) :
    Appends writer (writer.put s) s writer.hex := by
  refine ⟨?_, rfl, rfl⟩
  show writer.str ++ List.replicate (writer.width - s.length) writer.fill ++ s = writer.str ++ s
  rw [h, Nat.zero_sub, List.replicate_zero, List.append_nil]

namespace Appends
variable {w w' w'' : OStringStream} {a b : List UInt8} {hex hex' : Bool}

/-- What one writes after the other. -/
theorem trans (h : Appends w w' a hex) (h' : Appends w' w'' b hex') : Appends w w'' (a ++ b) hex' where
  str := by rw [h'.str, h.str, List.append_assoc]
  hex := h'.hex
  width := h'.width

theorem put (h : Appends w w' a hex) (s : List UInt8) : Appends w (w'.put s) (a ++ s) hex := by
  have hput := h.trans (put_appends h.width s)
  rwa [h.hex] at hput

end Appends

theorem toNat_toUInt64 (n : Int64) : (n.toInt % 2 ^ 64).toNat = n.toUInt64.toNat := by
  have hmod : n.toInt % 2 ^ 64 = (n.toUInt64.toNat : Int) := by
    have hbmod : n.toInt = Int.bmod (n.toUInt64.toNat : Int) (2 ^ 64) := BitVec.toInt_eq_toNat_bmod n.toBitVec
    have hlt := n.toUInt64.toNat_lt
    have hpow : ((2 ^ 64 : Nat) : Int) = 2 ^ 64 := rfl
    rw [hbmod, ← hpow, Int.bmod_emod, hpow]
    omega
  rw [hmod, Int.toNat_natCast]

theorem putInt64_appends {writer : OStringStream} (h : writer.width = 0) (n : Int64) :
    Appends writer (writer.putInt64 n) (integerText writer.hex n.toInt) writer.hex := by
  rw [putInt64, integerText]
  by_cases hhex : writer.hex = true
  · rw [if_pos hhex, if_pos hhex, toNat_toUInt64]
    exact put_appends h _
  · have hsign : n < 0 ↔ n.toInt < 0 := Int64.lt_iff_toInt_lt
    rw [if_neg hhex, if_neg hhex]
    by_cases hneg : n < 0
    · rw [if_pos hneg, if_pos (hsign.mp hneg)]
      exact put_appends h _
    · rw [if_neg hneg, if_neg fun hlt => hneg (hsign.mpr hlt)]
      exact put_appends h _

theorem putUInt64_appends {writer : OStringStream} (h : writer.width = 0) (n : UInt64) :
    Appends writer (writer.putUInt64 n) (integerText writer.hex n.toNat) writer.hex := by
  have hlt := n.toNat_lt
  have hmod : ((n.toNat : Int) % 2 ^ 64).toNat = n.toNat := by omega
  have hnot : ¬ (n.toNat : Int) < 0 := by omega
  rw [putUInt64, integerText, hmod, if_neg hnot, Int.natAbs_natCast]
  by_cases hhex : writer.hex = true
  · rw [if_pos hhex, if_pos hhex]
    exact put_appends h _
  · rw [if_neg hhex, if_neg hhex]
    exact put_appends h _

theorem numbered_iff : ∀ n, n < 256 → ((0 ≤ n.toUInt8.toInt8 ∧ n.toUInt8.toInt8 ≤ 31) ↔ n.toUInt8 < 32) := by
  decide +kernel

theorem toInt64_numbered : ∀ n, n < 32 → (n.toUInt8.toInt8.toInt64.toInt % 2 ^ 64).toNat = n := by decide +kernel

/-- The number of a character is padded to four digits. -/
theorem putNumber_appends {writer : OStringStream} (h : writer.width = 0) {c : UInt8} (hc : c < 32) :
    Appends writer (((((writer.put (ascii "\\u")).setHex).setW 4).setFill 48).putInt64 c.toInt8.toInt64)
      (ascii "\\u" ++ (List.replicate (4 - (hexadecimal c.toNat).length) 48 ++ hexadecimal c.toNat)) true := by
  have hput := put_appends h (ascii "\\u")
  have hnumber := toInt64_numbered c.toNat (UInt8.lt_iff_toNat_lt.mp hc)
  rw [Nat.toUInt8, UInt8.ofNat_toNat, toNat_toUInt64] at hnumber
  refine ⟨?_, rfl, rfl⟩
  show (writer.put (ascii "\\u")).str ++ List.replicate (4 - (hexadecimal c.toInt8.toInt64.toUInt64.toNat).length) 48 ++
    hexadecimal c.toInt8.toInt64.toUInt64.toNat = _
  rw [hput.str, hnumber, List.append_assoc, List.append_assoc]

theorem writeEscapedChar_appends {writer : OStringStream} (h : writer.width = 0) (c : UInt8) :
    Appends writer (writeEscapedChar c writer) (escapedChar c) (writer.hex || isNumbered c) := by
  have hsigned := numbered_iff c.toNat c.toNat_lt
  rw [Nat.toUInt8, UInt8.ofNat_toNat] at hsigned
  have hplain : isNumbered c = false → ∀ s, Appends writer (writer.put s) s (writer.hex || isNumbered c) :=
    fun hnot s => by
      rw [hnot, Bool.or_false]
      exact put_appends h s
  unfold writeEscapedChar escapedChar
  split_ifs with h34 h92 h8 h10 h13 h9 hctl hctl' hctl'
  · exact hplain (by rw [h34]; rfl) _
  · exact hplain (by rw [h92]; rfl) _
  · exact hplain (by rw [h8]; rfl) _
  · exact hplain (by rw [h10]; rfl) _
  · exact hplain (by rw [h13]; rfl) _
  · exact hplain (by rw [h9]; rfl) _
  · have hnumbered : isNumbered c = true := by simp [isNumbered, hctl', h8, h9, h10, h13]
    rw [hnumbered, Bool.or_true]
    exact putNumber_appends h hctl'
  · exact absurd (hsigned.mp hctl) hctl'
  · exact absurd (hsigned.mpr hctl') hctl
  · exact hplain (by simp [isNumbered, hctl']) _

theorem writeEscapedString_appends {writer : OStringStream} (h : writer.width = 0) (s : List UInt8) :
    Appends writer (writeEscapedString s writer) (escapedString s) (writer.hex || s.any isNumbered) := by
  have hfold : ∀ (s : List UInt8) {w : OStringStream} {a : List UInt8} {hex : Bool}, Appends writer w a hex →
      Appends writer (s.foldl (fun writer c => writeEscapedChar c writer) w) (a ++ s.flatMap escapedChar)
        (hex || s.any isNumbered) := by
    intro s
    induction s with
    | nil =>
      intro w a hex hw
      simpa using hw
    | cons c s ih =>
      intro w a hex hw
      have hchar := hw.trans (writeEscapedChar_appends hw.width c)
      rw [hw.hex] at hchar
      have hrest := ih hchar
      simpa [List.append_assoc, Bool.or_assoc] using hrest
  have hbody := (hfold s (put_appends h (ascii "\""))).put (ascii "\"")
  rw [List.append_assoc] at hbody
  exact hbody

/-! ### A value -/

variable [DoubleFormat]

/-- The text of a number with a point. -/
def doubleText (value : UInt64) : List UInt8 :=
  if isNan value then ascii "\"NaN\""
  else if isInf value then if signBit value then ascii "\"-Inf\"" else ascii "\"+Inf\""
  else DoubleFormat.format value

mutual

/-- The text of a value, where the stream prints in hex or does not. -/
def jsonText (hex : Bool) : Value → List UInt8
  | .bool value => if value then ascii "true" else ascii "false"
  | .double value => doubleText value
  | .int64 value => integerText hex value.toInt
  | .uint64 value => integerText hex value.toNat
  | .string s => escapedString s
  | .null => ascii "null"
  | .cString s => escapedString (cStringView s)
  | .values values => 91 :: (jsonTextValues hex values ++ [93])
  | .dictionary dictionary => 123 :: (jsonTextDictionary hex dictionary ++ [125])

def jsonTextValues (hex : Bool) : List Value → List UInt8
  | [] => []
  | [value] => jsonText hex value
  | value :: next :: rest => jsonText hex value ++ 44 :: jsonTextValues (hex || setsHex (tokens value)) (next :: rest)

def jsonTextDictionary (hex : Bool) : List (List UInt8 × Value) → List UInt8
  | [] => []
  | [(key, value)] => escapedString key ++ 58 :: jsonText (hex || key.any isNumbered) value
  | (key, value) :: next :: rest =>
    escapedString key ++ 58 :: (jsonText (hex || key.any isNumbered) value ++
      44 :: jsonTextDictionary (hex || key.any isNumbered || setsHex (tokens value)) (next :: rest))

end

theorem writeDouble_appends {writer : OStringStream} (h : writer.width = 0) (value : UInt64) :
    Appends writer (writeDouble value writer) (doubleText value) writer.hex := by
  unfold writeDouble doubleText
  split_ifs <;> exact put_appends h _

mutual

/-- **What is written for a value**, into a stream of either base. -/
theorem writeJson_appends : ∀ (value : Value) {writer : OStringStream}, writer.width = 0 →
    Appends writer (writeJson writer value) (jsonText writer.hex value) (writer.hex || setsHex (tokens value))
  | .bool value, writer, h => by
    rw [tokens, setsHex, List.any_nil, Bool.or_false]
    exact put_appends h _
  | .double value, writer, h => by
    rw [tokens, setsHex, List.any_nil, Bool.or_false]
    exact writeDouble_appends h value
  | .int64 value, writer, h => by
    rw [tokens, setsHex, List.any_cons, List.any_nil, Token.setsHex, Bool.or_false, Bool.or_false]
    exact putInt64_appends h value
  | .uint64 value, writer, h => by
    rw [tokens, setsHex, List.any_cons, List.any_nil, Token.setsHex, Bool.or_false, Bool.or_false]
    exact putUInt64_appends h value
  | .string s, writer, h => by
    rw [tokens, setsHex, List.any_cons, List.any_nil, Token.setsHex, Bool.or_false]
    exact writeEscapedString_appends h s
  | .null, writer, h => by
    rw [tokens, setsHex, List.any_nil, Bool.or_false]
    exact put_appends h _
  | .cString s, writer, h => by
    rw [tokens, setsHex, List.any_cons, List.any_nil, Token.setsHex, Bool.or_false]
    exact writeEscapedString_appends h (cStringView s)
  | .values values, writer, h => by
    have hopen := put_appends h (ascii "[")
    have helements := writeJsonValues_appends values hopen.width
    rw [hopen.hex] at helements
    exact (hopen.trans helements).put (ascii "]")
  | .dictionary dictionary, writer, h => by
    have hopen := put_appends h (ascii "\x7b")
    have hmembers := writeJsonDictionary_appends dictionary hopen.width
    rw [hopen.hex] at hmembers
    exact (hopen.trans hmembers).put (ascii "\x7d")

/-- The values of an array, one after the other. -/
theorem writeJsonValues_appends : ∀ (values : List Value) {writer : OStringStream}, writer.width = 0 →
    Appends writer (writeJsonValues writer values) (jsonTextValues writer.hex values)
      (writer.hex || setsHex (tokensValues values))
  | [], writer, h => by
    rw [tokensValues, setsHex, List.any_nil, Bool.or_false]
    exact ⟨(List.append_nil _).symm, rfl, h⟩
  | [value], writer, h => by
    rw [tokensValues, tokensValues, List.append_nil]
    exact writeJson_appends value h
  | value :: next :: rest, writer, h => by
    have hvalue := (writeJson_appends value h).put (ascii ",")
    have hrest := writeJsonValues_appends (next :: rest) hvalue.width
    rw [hvalue.hex] at hrest
    have hall := hvalue.trans hrest
    rw [Bool.or_assoc, List.append_assoc] at hall
    rw [tokensValues, setsHex, List.any_append]
    exact hall

/-- The members of an object, one after the other. -/
theorem writeJsonDictionary_appends : ∀ (dictionary : List (List UInt8 × Value)) {writer : OStringStream},
    writer.width = 0 → Appends writer (writeJsonDictionary writer dictionary) (jsonTextDictionary writer.hex dictionary)
      (writer.hex || setsHex (tokensDictionary dictionary))
  | [], writer, h => by
    rw [tokensDictionary, setsHex, List.any_nil, Bool.or_false]
    exact ⟨(List.append_nil _).symm, rfl, h⟩
  | [(key, value)], writer, h => by
    have hkey := (writeEscapedString_appends h key).put (ascii ":")
    have hvalue := writeJson_appends value hkey.width
    rw [hkey.hex] at hvalue
    have hall := hkey.trans hvalue
    rw [Bool.or_assoc, List.append_assoc] at hall
    rw [tokensDictionary, tokensDictionary, List.append_nil]
    exact hall
  | (key, value) :: next :: rest, writer, h => by
    have hkey := (writeEscapedString_appends h key).put (ascii ":")
    have hvalue := writeJson_appends value hkey.width
    rw [hkey.hex] at hvalue
    have hmember := (hkey.trans hvalue).put (ascii ",")
    have hrest := writeJsonDictionary_appends (next :: rest) hmember.width
    rw [hmember.hex] at hrest
    have hall := hmember.trans hrest
    rw [tokensDictionary, setsHex, List.any_cons, List.any_append, jsonTextDictionary]
    simp only [Bool.or_assoc, List.append_assoc] at hall ⊢
    exact hall

end

/-- **What is written is the text**, from a stream that prints in decimals. -/
theorem toJson_eq (value : Value) : toJson value = jsonText false value :=
  (@writeJson_appends _ value .new rfl).str

end Lightstep.Common

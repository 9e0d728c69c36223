import Lightstep.Common.JsonNumbers

/-! Reading back what `ToJson` writes.

A value is read back from its text if and only if no integer but a single decimal
digit is written after the base of the stream has been set to 16. -/
namespace Lightstep.Common
open OStringStream

/-! ### The value that a text should denote -/

mutual

/-- A dictionary is read as its items in the order in which it iterates. -/
def denote [DoubleFormat] : Value → Json
  | .bool value => .bool value
  | .double value => .real (doubleText value)
  | .int64 value => .integer value.toInt
  | .uint64 value => .integer value.toNat
  | .string s => .string s
  | .null => .null
  | .cString s => .string (cStringView s)
  | .values values => .array (denoteValues values)
  | .dictionary dictionary => .object (denoteDictionary dictionary)

def denoteValues [DoubleFormat] : List Value → List Json
  | [] => []
  | value :: rest => denote value :: denoteValues rest

def denoteDictionary [DoubleFormat] : List (List UInt8 × Value) → List (List UInt8 × Json)
  | [] => []
  | (key, value) :: rest => (key, denote value) :: denoteDictionary rest

end

mutual

def Value.hasDouble : Value → Bool
  | .double _ => true
  | .values values => hasDoubleValues values
  | .dictionary dictionary => hasDoubleDictionary dictionary
  | _ => false

def hasDoubleValues : List Value → Bool
  | [] => false
  | value :: rest => value.hasDouble || hasDoubleValues rest

def hasDoubleDictionary : List (List UInt8 × Value) → Bool
  | [] => false
  | (_, value) :: rest => value.hasDouble || hasDoubleDictionary rest

end

/-- Integers are written to the base 10, or are digits that both bases write alike. -/
def Plain : Bool → List Token → Prop
  | _, [] => True
  | hex, .string s :: rest => Plain (hex || s.any isNumbered) rest
  | hex, .integer n :: rest => (hex = true → 0 ≤ n ∧ n ≤ 9) ∧ Plain hex rest

theorem plain_append (hex : Bool) (a b : List Token) :
    Plain hex (a ++ b) ↔ Plain hex a ∧ Plain (hex || setsHex a) b := by
  induction a generalizing hex with
  | nil => simp [Plain, setsHex]
  | cons token a ih =>
    cases token with
    | string s =>
      rw [List.cons_append, Plain, Plain, ih, setsHex, setsHex, List.any_cons, Token.setsHex, Bool.or_assoc]
    | integer n =>
      rw [List.cons_append, Plain, Plain, ih, setsHex, setsHex, List.any_cons, Token.setsHex, Bool.false_or, and_assoc]

/-! ### Strings -/

namespace Json

theorem numbered_digits : ∀ n, n < 32 → List.replicate (4 - (hexadecimal n).length) 48 ++ hexadecimal n =
    [48, 48, digitByte (n / 16), digitByte (n % 16)] := by decide +kernel

theorem hexDigit_digitByte : ∀ k, k < 16 → hexDigit (digitByte k) = some k := by decide

theorem parseUnit_numbered {n : Nat} (h : n < 32) (rest : List UInt8) :
    parseUnit ([48, 48, digitByte (n / 16), digitByte (n % 16)] ++ rest) = some (n, rest) := by
  have hzero : hexDigit 48 = some 0 := by decide
  have hvalue : ((0 * 16 + 0) * 16 + n / 16) * 16 + n % 16 = n := by omega
  simp only [List.cons_append, List.nil_append, parseUnit, hzero, hexDigit_digitByte (n / 16) (by omega),
    hexDigit_digitByte (n % 16) (by omega), Option.bind_eq_bind, Option.bind_some, hvalue]
  rfl

theorem parseCodePoint_numbered {c : UInt8} (h : c < 32) (rest : List UInt8) :
    parseCodePoint (List.replicate (4 - (hexadecimal c.toNat).length) 48 ++ hexadecimal c.toNat ++ rest) =
      some ([c], rest) := by
  have hlt : c.toNat < 32 := UInt8.lt_iff_toNat_lt.mp h
  have hutf8 : utf8 c.toNat = [c] := by
    rw [utf8, if_pos (by omega), Nat.toUInt8, UInt8.ofNat_toNat]
  have hlow : ¬ (0xd800 ≤ c.toNat ∧ c.toNat < 0xdc00) := by omega
  have hhigh : ¬ (0xdc00 ≤ c.toNat ∧ c.toNat < 0xe000) := by omega
  rw [numbered_digits c.toNat hlt, parseCodePoint, parseUnit_numbered hlt, Option.bind_some]
  simp only [if_neg hlow, if_neg hhigh, hutf8]

theorem parseChars_escapedChar (fuel : Nat) (c : UInt8) (rest : List UInt8) :
    parseChars (fuel + 1) (escapedChar c ++ rest) = (parseChars fuel rest).map fun (s, rest) => (c :: s, rest) := by
  unfold escapedChar
  split_ifs with h34 h92 h8 h10 h13 h9 hctl
  · subst h34
    rfl
  · subst h92
    rfl
  · subst h8
    rfl
  · subst h10
    rfl
  · subst h13
    rfl
  · subst h9
    rfl
  · have hpoint := parseCodePoint_numbered hctl rest
    have hescape : parseEscape (117 :: (List.replicate (4 - (hexadecimal c.toNat).length) 48 ++ hexadecimal c.toNat ++
        rest)) = some ([c], rest) := hpoint
    show parseChars (fuel + 1) (92 :: 117 :: (List.replicate (4 - (hexadecimal c.toNat).length) 48 ++
      hexadecimal c.toNat ++ rest)) = _
    rw [parseChars, if_neg (by decide), if_pos rfl, hescape]
    rfl
  · show parseChars (fuel + 1) (c :: rest) = _
    rw [parseChars, if_neg h34, if_neg h92, if_neg hctl]

theorem escapedChar_ne_nil (c : UInt8) : escapedChar c ≠ [] := by
  unfold escapedChar
  split_ifs <;> exact List.cons_ne_nil _ _

theorem parseChars_escaped (s rest : List UInt8) {fuel : Nat} (h : s.length < fuel) :
    parseChars fuel (s.flatMap escapedChar ++ 34 :: rest) = some (s, rest) := by
  induction s generalizing fuel with
  | nil =>
    obtain ⟨fuel, rfl⟩ : ∃ k, fuel = k + 1 := ⟨fuel - 1, by omega⟩
    rfl
  | cons c s ih =>
    obtain ⟨fuel, rfl⟩ : ∃ k, fuel = k + 1 := ⟨fuel - 1, by omega⟩
    rw [List.flatMap_cons, List.append_assoc, parseChars_escapedChar, ih (by simpa using h)]
    rfl

/-- **A string is read back**, whatever its bytes. -/
theorem parseString_escaped (s rest : List UInt8) : parseString (s.flatMap escapedChar ++ 34 :: rest) = some (s, rest) := by
  refine parseChars_escaped s rest ?_
  have hle : s.length ≤ (s.flatMap escapedChar).length := by
    induction s with
    | nil => exact Nat.le_refl _
    | cons c s ih =>
      have hpos := List.length_pos_iff.mpr (escapedChar_ne_nil c)
      rw [List.flatMap_cons, List.length_append, List.length_cons]
      omega
  rw [List.length_append, List.length_cons]
  omega

/-! ### Scalars -/

theorem parseValue_number {c : UInt8} (h : isDigit c = true ∨ c = 45) (fuel : Nat) (rest : List UInt8) :
    parseValue (fuel + 1) (c :: rest) = parseNumber (c :: rest) := by
  have hne : ∀ d, isDigit d = false → d ≠ 45 → c ≠ d := fun d hd hminus heq => by
    subst heq
    rcases h with h | h
    · rw [h] at hd
      cases hd
    · exact hminus h
  rw [parseValue, if_neg (hne 34 rfl (by decide)), if_neg (hne 91 rfl (by decide)), if_neg (hne 123 rfl (by decide)),
    if_neg (hne 116 rfl (by decide)), if_neg (hne 102 rfl (by decide)), if_neg (hne 110 rfl (by decide))]

theorem decimalText_head (n : Int) : ∃ c tail, integerText false n = c :: tail ∧ (isDigit c = true ∨ c = 45) := by
  have htext : integerText false n = if n < 0 then 45 :: decimal n.natAbs else decimal n.natAbs := rfl
  by_cases hneg : n < 0
  · exact ⟨45, decimal n.natAbs, htext.trans (if_pos hneg), .inr rfl⟩
  · obtain ⟨k, tail, hhead, hk, -⟩ := digitBytes_head (show 1 < 10 by decide) n.natAbs
    refine ⟨digitByte k, tail, (htext.trans (if_neg hneg)).trans hhead, .inl ?_⟩
    rw [isDigit_digitByte k (by omega)]
    exact decide_eq_true hk

theorem parseValue_decimal (fuel : Nat) (n : Int) {rest : List UInt8} (h : Delimited rest) :
    parseValue (fuel + 1) (integerText false n ++ rest) = some (.integer n, rest) := by
  have hnumber := parseNumber_decimal n h
  obtain ⟨c, tail, htext, hc⟩ := decimalText_head n
  rw [htext, List.cons_append] at hnumber ⊢
  rw [parseValue_number hc, hnumber]

/-- One decimal digit is the same to both bases. -/
theorem integerText_digit {n : Int} (h : 0 ≤ n ∧ n ≤ 9) (hex : Bool) : integerText hex n = integerText false n := by
  have hdigits : ∀ k, k ≤ 9 → integerText true (k : Nat) = integerText false (k : Nat) := by decide
  have hn : ((n.toNat : Nat) : Int) = n := by omega
  cases hex with
  | false => rfl
  | true =>
    rw [← hn]
    exact hdigits n.toNat (by omega)

theorem parseValue_integer {hex : Bool} {n : Int} (hplain : hex = true → 0 ≤ n ∧ n ≤ 9) (fuel : Nat)
    {rest : List UInt8} (h : Delimited rest) :
    parseValue (fuel + 1) (integerText hex n ++ rest) = some (.integer n, rest) := by
  have htext : integerText hex n = integerText false n := by
    cases hex with
    | false => rfl
    | true => exact integerText_digit (hplain rfl) true
  rw [htext]
  exact parseValue_decimal fuel n h

/-- What begins with a hexadecimal digit is a number or begins with an `f`. -/
theorem parseValue_hexadecimal {fuel : Nat} {n m : Int} {rest rest' : List UInt8}
    (h : parseValue (fuel + 1) (integerText true n ++ rest) = some (.integer m, rest')) :
    parseNumber (integerText true n ++ rest) = some (.integer m, rest') := by
  obtain ⟨k, tail, hhead, hk, -⟩ := digitBytes_head (show 1 < 16 by decide) (n % 2 ^ 64).toNat
  have htext : integerText true n = digitByte k :: tail := hhead
  have hother : ∀ k, k < 16 → digitByte k ≠ 34 ∧ digitByte k ≠ 91 ∧ digitByte k ≠ 123 ∧ digitByte k ≠ 116 ∧
      digitByte k ≠ 110 := by decide
  obtain ⟨h34, h91, h123, h116, h110⟩ := hother k hk
  rw [htext, List.cons_append] at h ⊢
  rw [parseValue, if_neg h34, if_neg h91, if_neg h123, if_neg h116, if_neg h110] at h
  split_ifs at h with hf
  · obtain ⟨_, -, hbool⟩ := Option.map_eq_some_iff.mp h
    cases hbool
  · exact h

/-- **What is read as the integer that was written** was written plainly. -/
theorem plain_of_parseValue {hex : Bool} {n : Int} (hhigh : n < 2 ^ 64) {fuel : Nat} {rest rest' : List UInt8}
    (hrest : Delimited rest) (h : parseValue fuel (integerText hex n ++ rest) = some (.integer n, rest')) :
    (hex = true → 0 ≤ n ∧ n ≤ 9) ∧ rest' = rest := by
  cases fuel with
  | zero => cases h
  | succ fuel =>
    have hplain : hex = true → 0 ≤ n ∧ n ≤ 9 := by
      rintro rfl
      exact parseNumber_hexadecimal hhigh hrest (parseValue_hexadecimal h)
    rw [parseValue_integer hplain fuel hrest] at h
    exact ⟨hplain, (Prod.mk.inj (Option.some.inj h)).2.symm⟩

theorem parseValue_string (fuel : Nat) (s rest : List UInt8) :
    parseValue (fuel + 1) (escapedString s ++ rest) = some (.string s, rest) := by
  have htext : escapedString s ++ rest = 34 :: (s.flatMap escapedChar ++ 34 :: rest) := by
    rw [escapedString, List.cons_append, List.append_assoc]
    rfl
  rw [htext, parseValue, if_pos rfl, parseString_escaped]
  rfl

/-! ### Sequences -/

/-- How a text begins that is an element of an array. -/
def Starts (text : List UInt8) : Prop := ∃ c tail, text = c :: tail ∧ isWhitespace c = false ∧ c ≠ 93

theorem Starts.append {text : List UInt8} (h : Starts text) (rest : List UInt8) : Starts (text ++ rest) := by
  obtain ⟨c, tail, rfl, hc⟩ := h
  exact ⟨c, tail ++ rest, rfl, hc⟩

theorem Starts.skipWhitespace_eq {text : List UInt8} (h : Starts text) : skipWhitespace text = text := by
  obtain ⟨c, tail, rfl, hc, -⟩ := h
  rw [skipWhitespace, List.dropWhile_cons, hc]
  rfl

theorem parseValue_array {text : List UInt8} (h : Starts text) (fuel : Nat) :
    parseValue (fuel + 1) (91 :: text) = (parseElements fuel text).map fun (elements, rest) => (.array elements, rest) := by
  have hne : text.head? ≠ some 93 := by
    obtain ⟨c, tail, rfl, -, hc⟩ := h
    exact fun heq => hc (Option.some.inj heq)
  rw [parseValue, if_neg (by decide), if_pos rfl, h.skipWhitespace_eq, if_neg hne]

theorem parseValue_object (fuel : Nat) (text : List UInt8) :
    parseValue (fuel + 1) (123 :: 34 :: text) =
      (parseMembers fuel (34 :: text)).map fun (members, rest) => (.object members, rest) := by
  have hskip : skipWhitespace (34 :: text) = 34 :: text := rfl
  rw [parseValue, if_neg (by decide), if_neg (by decide), if_pos rfl, hskip, if_neg (by simp)]

/-- What is left after an element or a member is a comma or the closing bracket. -/
theorem parseElements_cons {fuel : Nat} {input rest : List UInt8} {value : Json}
    (h : parseValue fuel input = some (value, 44 :: rest)) : parseElements (fuel + 1) input =
      (parseElements fuel (skipWhitespace rest)).map fun (elements, rest) => (value :: elements, rest) := by
  rw [parseElements, h]
  rfl

theorem parseElements_last {fuel : Nat} {input rest : List UInt8} {value : Json}
    (h : parseValue fuel input = some (value, 93 :: rest)) : parseElements (fuel + 1) input = some ([value], rest) := by
  rw [parseElements, h]
  rfl

/-- What follows the first of some items, elements or members, does not change it. -/
theorem first_of_items {α : Type} {close : UInt8} {more : List UInt8 → Option (List α × List UInt8)}
    {text rest : List UInt8} {first item : α} {items : List α}
    (h : (match skipWhitespace text with
      | [] => none
      | c :: tail =>
        if c = 44 then (more tail).map fun (items, rest) => (first :: items, rest)
        else if c = close then some ([first], tail)
        else none) = some (item :: items, rest)) : first = item := by
  cases hskip : skipWhitespace text with
  | nil =>
    rw [hskip] at h
    cases h
  | cons c tail =>
    rw [hskip] at h
    dsimp only at h
    split_ifs at h
    · obtain ⟨_, -, heq⟩ := Option.map_eq_some_iff.mp h
      exact (List.cons.inj (Prod.mk.inj heq).1).1
    · exact (List.cons.inj (Prod.mk.inj (Option.some.inj h)).1).1

theorem parseElements_eq_cons {fuel : Nat} {input rest : List UInt8} {value : Json} {elements : List Json}
    (h : parseElements (fuel + 1) input = some (value :: elements, rest)) :
    ∃ rest', parseValue fuel input = some (value, rest') := by
  obtain ⟨⟨first, rest'⟩, hfirst, hafter⟩ := Option.bind_eq_some_iff.mp h
  have hvalue : first = value := first_of_items hafter
  exact ⟨rest', hvalue ▸ hfirst⟩

/-- After its key a member is read like an element. -/
theorem parseMembers_key {text : List UInt8} (h : Starts text) (fuel : Nat) (key : List UInt8) :
    parseMembers (fuel + 1) (escapedString key ++ 58 :: text) = (parseValue fuel text).bind fun (value, rest) =>
      match skipWhitespace rest with
      | [] => none
      | c :: rest =>
        if c = 44 then
          (parseMembers fuel (skipWhitespace rest)).map fun (members, rest) => ((key, value) :: members, rest)
        else if c = 125 then some ([(key, value)], rest)
        else none := by
  have htext : escapedString key ++ 58 :: text = 34 :: (key.flatMap escapedChar ++ 34 :: 58 :: text) := by
    rw [escapedString, List.cons_append, List.append_assoc]
    rfl
  have hquote : ∀ input, expect [34] (34 :: input) = some input := fun input => rfl
  have hvalue : ((expect [58] (skipWhitespace (58 :: text))).bind fun rest => parseValue fuel (skipWhitespace rest)) =
      parseValue fuel text := by
    rw [show expect [58] (skipWhitespace (58 :: text)) = some text from rfl, Option.bind_some, h.skipWhitespace_eq]
  rw [htext, parseMembers, hquote, Option.bind_some, parseString_escaped, Option.bind_some]
  change ((expect [58] (skipWhitespace (58 :: text))).bind fun rest => parseValue fuel (skipWhitespace rest)).bind _ = _
  rewrite [hvalue]
  rfl

theorem parseMembers_cons {text : List UInt8} (hstarts : Starts text) {fuel : Nat} {rest : List UInt8} {value : Json}
    (h : parseValue fuel text = some (value, 44 :: rest)) (key : List UInt8) :
    parseMembers (fuel + 1) (escapedString key ++ 58 :: text) =
      (parseMembers fuel (skipWhitespace rest)).map fun (members, rest) => ((key, value) :: members, rest) := by
  rw [parseMembers_key hstarts, h]
  rfl

theorem parseMembers_last {text : List UInt8} (hstarts : Starts text) {fuel : Nat} {rest : List UInt8} {value : Json}
    (h : parseValue fuel text = some (value, 125 :: rest)) (key : List UInt8) :
    parseMembers (fuel + 1) (escapedString key ++ 58 :: text) = some ([(key, value)], rest) := by
  rw [parseMembers_key hstarts, h]
  rfl

theorem parseMembers_eq_cons {text : List UInt8} (hstarts : Starts text) {fuel : Nat} {key rest : List UInt8}
    {value : Json} {members : List (List UInt8 × Json)}
    (h : parseMembers (fuel + 1) (escapedString key ++ 58 :: text) = some ((key, value) :: members, rest)) :
    ∃ rest', parseValue fuel text = some (value, rest') := by
  rw [parseMembers_key hstarts] at h
  obtain ⟨⟨first, rest'⟩, hfirst, hafter⟩ := Option.bind_eq_some_iff.mp h
  have hmember : (key, first) = (key, value) := first_of_items hafter
  exact ⟨rest', (Prod.mk.inj hmember).2 ▸ hfirst⟩

/-! ### Values -/

variable [DoubleFormat]

omit [DoubleFormat] in
theorem integerText_starts (hex : Bool) (n : Int) : Starts (integerText hex n) := by
  have hchar : ∀ k, k < 16 → isWhitespace (digitByte k) = false ∧ digitByte k ≠ 93 := by decide
  cases hex with
  | false =>
    obtain ⟨c, tail, htext, hc⟩ := decimalText_head n
    obtain ⟨k, digits, hhead, hk, -⟩ := digitBytes_head (show 1 < 10 by decide) n.natAbs
    by_cases hneg : n < 0
    · exact ⟨45, decimal n.natAbs, if_pos hneg, rfl, by decide⟩
    · exact ⟨digitByte k, digits, (if_neg hneg).trans hhead, hchar k (by omega)⟩
  | true =>
    obtain ⟨k, tail, hhead, hk, -⟩ := digitBytes_head (show 1 < 16 by decide) (n % 2 ^ 64).toNat
    exact ⟨digitByte k, tail, hhead, hchar k hk⟩

theorem jsonText_starts {value : Value} (h : value.hasDouble = false) (hex : Bool) : Starts (jsonText hex value) := by
  cases value with
  | bool value =>
    cases value with
    | false => exact ⟨102, ascii "alse", rfl, rfl, by decide⟩
    | true => exact ⟨116, ascii "rue", rfl, rfl, by decide⟩
  | double value => cases h
  | int64 value => exact integerText_starts hex value.toInt
  | uint64 value => exact integerText_starts hex value.toNat
  | string s => exact ⟨34, _, rfl, rfl, by decide⟩
  | null => exact ⟨110, ascii "ull", rfl, rfl, by decide⟩
  | cString s => exact ⟨34, _, rfl, rfl, by decide⟩
  | values values => exact ⟨91, _, rfl, rfl, by decide⟩
  | dictionary dictionary => exact ⟨123, _, rfl, rfl, by decide⟩

theorem jsonTextValues_starts {value : Value} {rest : List Value} (h : value.hasDouble = false) (hex : Bool) :
    Starts (jsonTextValues hex (value :: rest)) := by
  cases rest with
  | nil => exact jsonText_starts h hex
  | cons next rest => exact (jsonText_starts h hex).append _

theorem jsonText_values (hex : Bool) (values : List Value) :
    jsonText hex (.values values) = 91 :: (jsonTextValues hex values ++ [93]) := rfl

theorem jsonText_dictionary (hex : Bool) (dictionary : List (List UInt8 × Value)) :
    jsonText hex (.dictionary dictionary) = 123 :: (jsonTextDictionary hex dictionary ++ [125]) := rfl

theorem jsonTextValues_cons (hex : Bool) (value next : Value) (rest : List Value) :
    jsonTextValues hex (value :: next :: rest) =
      jsonText hex value ++ 44 :: jsonTextValues (hex || setsHex (tokens value)) (next :: rest) := rfl

theorem jsonTextDictionary_cons (hex : Bool) (key : List UInt8) (value : Value) (next : List UInt8 × Value)
    (rest : List (List UInt8 × Value)) : jsonTextDictionary hex ((key, value) :: next :: rest) =
      escapedString key ++ 58 :: (jsonText (hex || key.any isNumbered) value ++
        44 :: jsonTextDictionary (hex || key.any isNumbered || setsHex (tokens value)) (next :: rest)) := rfl

/-- A member begins with the quotation mark of its key. -/
theorem jsonTextDictionary_quote (member : List UInt8 × Value) (rest : List (List UInt8 × Value)) (hex : Bool) :
    ∃ text, jsonTextDictionary hex (member :: rest) = 34 :: text := by
  cases rest with
  | nil => exact ⟨_, rfl⟩
  | cons next rest => exact ⟨_, rfl⟩

omit [DoubleFormat] in
theorem isInt64 (value : Int64) : value.toInt < 2 ^ 64 := by
  have hlt := value.toInt_lt
  omega

omit [DoubleFormat] in
theorem isUInt64 (value : UInt64) : (value.toNat : Int) < 2 ^ 64 := by
  have hlt := value.toNat_lt
  omega

mutual

/-- **What is written plainly is read back**, and what comes after it is left. -/
theorem parseValue_jsonText : ∀ (value : Value) {hex : Bool} {fuel : Nat} {rest : List UInt8},
    value.hasDouble = false → Plain hex (tokens value) → (jsonText hex value).length ≤ fuel → Delimited rest →
    parseValue fuel (jsonText hex value ++ rest) = some (denote value, rest)
  | value, hex, 0, rest, hdouble, _, hfuel, _ => by
    obtain ⟨c, tail, htext, -⟩ := jsonText_starts hdouble hex
    rw [htext] at hfuel
    cases hfuel
  | .bool true, hex, fuel + 1, rest, _, _, _, _ => rfl
  | .bool false, hex, fuel + 1, rest, _, _, _, _ => rfl
  | .double value, hex, fuel + 1, rest, hdouble, _, _, _ => by cases hdouble
  | .int64 value, hex, fuel + 1, rest, _, hplain, _, hrest => parseValue_integer hplain.1 fuel hrest
  | .uint64 value, hex, fuel + 1, rest, _, hplain, _, hrest => parseValue_integer hplain.1 fuel hrest
  | .string s, hex, fuel + 1, rest, _, _, _, _ => parseValue_string fuel s rest
  | .null, hex, fuel + 1, rest, _, _, _, _ => rfl
  | .cString s, hex, fuel + 1, rest, _, _, _, _ => parseValue_string fuel (cStringView s) rest
  | .values [], hex, fuel + 1, rest, _, _, _, _ => rfl
  | .values (value :: values), hex, fuel + 1, rest, hdouble, hplain, hfuel, hrest => by
    have hvalue : value.hasDouble = false := (Bool.or_eq_false_iff.mp hdouble).1
    rw [jsonText_values] at hfuel ⊢
    rw [List.length_cons, List.length_append, List.length_singleton] at hfuel
    rw [List.cons_append, List.append_assoc, List.singleton_append,
      parseValue_array ((jsonTextValues_starts hvalue hex).append _),
      parseElements_jsonText (value :: values) (List.cons_ne_nil _ _) hdouble hplain (by omega)]
    rfl
  | .dictionary [], hex, fuel + 1, rest, _, _, _, _ => rfl
  | .dictionary (member :: dictionary), hex, fuel + 1, rest, hdouble, hplain, hfuel, hrest => by
    obtain ⟨text, htext⟩ := jsonTextDictionary_quote member dictionary hex
    have hmembers := parseMembers_jsonText (member :: dictionary) (List.cons_ne_nil _ _) hdouble hplain
      (show (jsonTextDictionary hex (member :: dictionary)).length + 1 ≤ fuel by
        rw [jsonText_dictionary, List.length_cons, List.length_append, List.length_singleton] at hfuel
        omega) rest
    rw [jsonText_dictionary, List.cons_append, List.append_assoc, List.singleton_append]
    rw [htext, List.cons_append] at hmembers ⊢
    rw [parseValue_object, hmembers]
    rfl

theorem parseElements_jsonText : ∀ (values : List Value) {hex : Bool} {fuel : Nat}, values ≠ [] →
    hasDoubleValues values = false → Plain hex (tokensValues values) → (jsonTextValues hex values).length + 1 ≤ fuel →
    ∀ rest, parseElements fuel (jsonTextValues hex values ++ 93 :: rest) = some (denoteValues values, rest)
  | [], _, _, hne, _, _, _, _ => absurd rfl hne
  | _ :: _, _, 0, _, _, _, hfuel, _ => by cases hfuel
  | [value], hex, fuel + 1, _, hdouble, hplain, hfuel, rest => by
    rw [tokensValues, tokensValues, List.append_nil] at hplain
    exact parseElements_last (parseValue_jsonText value (Bool.or_eq_false_iff.mp hdouble).1 hplain
      (Nat.le_of_succ_le_succ hfuel) (delimited_bracket rest))
  | value :: next :: values, hex, fuel + 1, _, hdouble, hplain, hfuel, rest => by
    obtain ⟨hvalue, hrest⟩ := Bool.or_eq_false_iff.mp hdouble
    have hnext : next.hasDouble = false := (Bool.or_eq_false_iff.mp hrest).1
    have hsplit := (plain_append hex (tokens value) (tokensValues (next :: values))).mp hplain
    have hlength : (jsonText hex value).length + 1 +
        (jsonTextValues (hex || setsHex (tokens value)) (next :: values)).length + 1 ≤ fuel + 1 := by
      rw [jsonTextValues_cons, List.length_append, List.length_cons] at hfuel
      omega
    have hfirst := parseValue_jsonText value hvalue hsplit.1 (by omega : _ ≤ fuel)
      (delimited_comma (jsonTextValues (hex || setsHex (tokens value)) (next :: values) ++ 93 :: rest))
    have hothers := parseElements_jsonText (next :: values) (List.cons_ne_nil _ _) hrest hsplit.2
      (by omega : _ ≤ fuel) rest
    rw [jsonTextValues_cons, List.append_assoc, List.cons_append, parseElements_cons hfirst,
      ((jsonTextValues_starts hnext _).append _).skipWhitespace_eq, hothers]
    rfl

theorem parseMembers_jsonText : ∀ (dictionary : List (List UInt8 × Value)) {hex : Bool} {fuel : Nat},
    dictionary ≠ [] → hasDoubleDictionary dictionary = false → Plain hex (tokensDictionary dictionary) →
    (jsonTextDictionary hex dictionary).length + 1 ≤ fuel →
    ∀ rest, parseMembers fuel (jsonTextDictionary hex dictionary ++ 125 :: rest) =
      some (denoteDictionary dictionary, rest)
  | [], _, _, hne, _, _, _, _ => absurd rfl hne
  | _ :: _, _, 0, _, _, _, hfuel, _ => by cases hfuel
  | [(key, value)], hex, fuel + 1, _, hdouble, hplain, hfuel, rest => by
    have hvalue : value.hasDouble = false := (Bool.or_eq_false_iff.mp hdouble).1
    rw [tokensDictionary, tokensDictionary, List.append_nil, Plain] at hplain
    have hlength : (jsonText (hex || key.any isNumbered) value).length ≤ fuel := by
      rw [jsonTextDictionary, List.length_append, List.length_cons] at hfuel
      omega
    have hlast := parseValue_jsonText value hvalue hplain hlength (delimited_brace rest)
    rw [jsonTextDictionary, List.append_assoc, List.cons_append]
    exact parseMembers_last ((jsonText_starts hvalue _).append _) hlast key
  | (key, value) :: (key', value') :: dictionary, hex, fuel + 1, _, hdouble, hplain, hfuel, rest => by
    obtain ⟨hvalue, hrest⟩ := Bool.or_eq_false_iff.mp hdouble
    rw [tokensDictionary, Plain, plain_append] at hplain
    obtain ⟨text, htext⟩ := jsonTextDictionary_quote (key', value') dictionary
      (hex || key.any isNumbered || setsHex (tokens value))
    have hlength : (jsonText (hex || key.any isNumbered) value).length + 1 + (jsonTextDictionary
        (hex || key.any isNumbered || setsHex (tokens value)) ((key', value') :: dictionary)).length + 1 ≤ fuel + 1 := by
      rw [jsonTextDictionary_cons, List.length_append, List.length_cons, List.length_append, List.length_cons] at hfuel
      omega
    have hfirst := parseValue_jsonText value hvalue hplain.1 (by omega : _ ≤ fuel) (delimited_comma
      (jsonTextDictionary (hex || key.any isNumbered || setsHex (tokens value)) ((key', value') :: dictionary) ++
        125 :: rest))
    have hothers := parseMembers_jsonText ((key', value') :: dictionary) (List.cons_ne_nil _ _) hrest hplain.2
      (by omega : _ ≤ fuel) rest
    rw [jsonTextDictionary_cons, List.append_assoc, List.cons_append, List.append_assoc, List.cons_append,
      parseMembers_cons ((jsonText_starts hvalue _).append _) hfirst]
    rw [htext, List.cons_append] at hothers ⊢
    rw [show skipWhitespace (34 :: (text ++ 125 :: rest)) = 34 :: (text ++ 125 :: rest) from rfl, hothers]
    rfl

end

end Json
end Lightstep.Common

import Lightstep.Common.Characters

/-! JSON texts and the values that they denote.

A parser of the grammar, over bytes. A number that is written without a fraction
and without an exponent denotes an integer; any other one is kept as it is written. -/
namespace Lightstep.Common

inductive Json where
  | null
  | bool (value : Bool)
  | integer (n : Int)
  | real (text : List UInt8)
  | string (s : List UInt8)
  | array (elements : List Json)
  | object (members : List (List UInt8 × Json))

namespace Json

def isWhitespace (c : UInt8) : Bool := c == 32 || c == 9 || c == 10 || c == 13

def skipWhitespace (input : List UInt8) : List UInt8 := input.dropWhile isWhitespace

def expect (literal input : List UInt8) : Option (List UInt8) :=
  if literal.isPrefixOf input then some (input.drop literal.length) else none

/-! ### Numbers -/

/-- Digits without a leading zero. -/
def parseDigits : List UInt8 → Option (List UInt8 × List UInt8)
  | [] => none
  | c :: rest =>
    if c = 48 then some ([c], rest)
    else if isDigit c then some (c :: rest.takeWhile isDigit, rest.dropWhile isDigit)
    else none

def someDigits (input : List UInt8) : Option (List UInt8 × List UInt8) :=
  if input.takeWhile isDigit = [] then none else some (input.takeWhile isDigit, input.dropWhile isDigit)

def parseFraction (input : List UInt8) : Option (List UInt8 × List UInt8) :=
  if input.head? = some 46 then (someDigits input.tail).map fun (digits, rest) => (46 :: digits, rest)
  else some ([], input)

def parseSign (input : List UInt8) : List UInt8 × List UInt8 :=
  if input.head? = some 43 ∨ input.head? = some 45 then (input.take 1, input.drop 1) else ([], input)

def parseExponent (input : List UInt8) : Option (List UInt8 × List UInt8) :=
  if input.head? = some 101 ∨ input.head? = some 69 then
    let (sign, rest) := parseSign input.tail
    (someDigits rest).map fun (digits, rest) => (input.take 1 ++ sign ++ digits, rest)
  else some ([], input)

/-- A number after its sign. -/
def parseUnsigned (minus : Bool) (input : List UInt8) : Option (Json × List UInt8) :=
  (parseDigits input).bind fun (digits, rest) =>
    (parseFraction rest).bind fun (fraction, rest) =>
      (parseExponent rest).map fun (exponent, rest) =>
        let sign : List UInt8 := if minus then [45] else []
        if fraction = [] ∧ exponent = [] then
          (.integer (if minus then -(decimalValue digits : Int) else decimalValue digits), rest)
        else (.real (sign ++ digits ++ fraction ++ exponent), rest)

def parseNumber (input : List UInt8) : Option (Json × List UInt8) :=
  if input.head? = some 45 then parseUnsigned true input.tail else parseUnsigned false input

/-! ### Strings -/

def hexDigit (c : UInt8) : Option Nat :=
  if isDigit c then some (c.toNat - 48)
  else if 97 ≤ c && c ≤ 102 then some (c.toNat - 87)
  else if 65 ≤ c && c ≤ 70 then some (c.toNat - 55)
  else none

/-- Four digits. -/
def parseUnit : List UInt8 → Option (Nat × List UInt8)
  | a :: b :: c :: d :: rest => do
    let a ← hexDigit a
    let b ← hexDigit b
    let c ← hexDigit c
    let d ← hexDigit d
    return (((a * 16 + b) * 16 + c) * 16 + d, rest)
  | _ => none

/-- The UTF-8 bytes of a code point. -/
def utf8 (n : Nat) : List UInt8 :=
  if n < 0x80 then [n.toUInt8]
  else if n < 0x800 then [(0xc0 + n / 64).toUInt8, (0x80 + n % 64).toUInt8]
  else if n < 0x10000 then [(0xe0 + n / 4096).toUInt8, (0x80 + n / 64 % 64).toUInt8, (0x80 + n % 64).toUInt8]
  else [(0xf0 + n / 262144).toUInt8, (0x80 + n / 4096 % 64).toUInt8, (0x80 + n / 64 % 64).toUInt8,
    (0x80 + n % 64).toUInt8]

/-- A code point beyond the first `0x10000` is escaped as a pair of surrogates. -/
def parseCodePoint (input : List UInt8) : Option (List UInt8 × List UInt8) :=
  (parseUnit input).bind fun (unit, rest) =>
    if 0xd800 ≤ unit ∧ unit < 0xdc00 then
      ((expect (ascii "\\u") rest).bind parseUnit).bind fun (low, rest) =>
        if 0xdc00 ≤ low ∧ low < 0xe000 then
          some (utf8 (0x10000 + (unit - 0xd800) * 0x400 + (low - 0xdc00)), rest)
        else none
    else if 0xdc00 ≤ unit ∧ unit < 0xe000 then none
    else some (utf8 unit, rest)

def shortEscape (c : UInt8) : Option UInt8 :=
  if c = 34 ∨ c = 92 ∨ c = 47 then some c
  else if c = 98 then some 8
  else if c = 102 then some 12
  else if c = 110 then some 10
  else if c = 114 then some 13
  else if c = 116 then some 9
  else none

def parseEscape : List UInt8 → Option (List UInt8 × List UInt8)
  | [] => none
  | c :: rest => if c = 117 then parseCodePoint rest else (shortEscape c).map fun c => ([c], rest)

def parseChars : Nat → List UInt8 → Option (List UInt8 × List UInt8)
  | 0, _ => none
  | _ + 1, [] => none
  | fuel + 1, c :: rest =>
    if c = 34 then some ([], rest)
    else if c = 92 then
      (parseEscape rest).bind fun (bytes, rest) => (parseChars fuel rest).map fun (s, rest) => (bytes ++ s, rest)
    else if c < 32 then none
    else (parseChars fuel rest).map fun (s, rest) => (c :: s, rest)

/-- A string after its first quotation mark. -/
def parseString (input : List UInt8) : Option (List UInt8 × List UInt8) := parseChars input.length input

/-! ### Values -/

mutual

/-- The first argument bounds the depth and the number of what is parsed. -/
def parseValue : Nat → List UInt8 → Option (Json × List UInt8)
  | 0, _ => none
  | _ + 1, [] => none
  | fuel + 1, c :: rest =>
    if c = 34 then (parseString rest).map fun (s, rest) => (.string s, rest)
    else if c = 91 then
      if (skipWhitespace rest).head? = some 93 then some (.array [], (skipWhitespace rest).tail)
      else (parseElements fuel (skipWhitespace rest)).map fun (elements, rest) => (.array elements, rest)
    else if c = 123 then
      if (skipWhitespace rest).head? = some 125 then some (.object [], (skipWhitespace rest).tail)
      else (parseMembers fuel (skipWhitespace rest)).map fun (members, rest) => (.object members, rest)
    else if c = 116 then (expect (ascii "rue") rest).map fun rest => (.bool true, rest)
    else if c = 102 then (expect (ascii "alse") rest).map fun rest => (.bool false, rest)
    else if c = 110 then (expect (ascii "ull") rest).map fun rest => (.null, rest)
    else parseNumber (c :: rest)

/-- The elements of an array that has some, with the closing bracket. -/
def parseElements : Nat → List UInt8 → Option (List Json × List UInt8)
  | 0, _ => none
  | fuel + 1, input =>
    (parseValue fuel input).bind fun (value, rest) =>
      match skipWhitespace rest with
      | [] => none
      | c :: rest =>
        if c = 44 then (parseElements fuel (skipWhitespace rest)).map fun (elements, rest) => (value :: elements, rest)
        else if c = 93 then some ([value], rest)
        else none

def parseMembers : Nat → List UInt8 → Option (List (List UInt8 × Json) × List UInt8)
  | 0, _ => none
  | fuel + 1, input =>
    ((expect [34] input).bind parseString).bind fun (key, rest) =>
      ((expect [58] (skipWhitespace rest)).bind fun rest => parseValue fuel (skipWhitespace rest)).bind
        fun (value, rest) =>
          match skipWhitespace rest with
          | [] => none
          | c :: rest =>
            if c = 44 then
              (parseMembers fuel (skipWhitespace rest)).map fun (members, rest) => ((key, value) :: members, rest)
            else if c = 125 then some ([(key, value)], rest)
            else none

end

/-- A text is one value, with whitespace around it. -/
def parse (input : List UInt8) : Option Json :=
  (parseValue (input.length + 1) (skipWhitespace input)).bind fun (value, rest) =>
    if skipWhitespace rest = [] then some value else none

end Json
end Lightstep.Common

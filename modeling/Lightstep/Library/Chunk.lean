import Lightstep.Library.Hexadecimal
import Lightstep.Library.Wire

/-! Chunks of an HTTP/1.1 body.

A chunk is its size in hexadecimal digits, a line break, so many bytes and a line break. -/
namespace Lightstep.Library

def lineBreak : List UInt8 := [13, 10]

/-- The input after a line break. -/
def readLineBreak : List UInt8 → Option (List UInt8)
  | 13 :: 10 :: rest => some rest
  | _ => none

/-- The data of the first chunk and the input after it. -/
def readChunk (input : List UInt8) : Option (List UInt8 × List UInt8) :=
  let digits := input.takeWhile fun b => (digitValue b).isSome
  if digits = [] then none
  else do
    let size ← readHex 0 digits
    let rest ← readLineBreak (input.drop digits.length)
    let (data, rest) ← takeBytes size rest
    let rest ← readLineBreak rest
    return (data, rest)

theorem readLineBreak_append (rest : List UInt8) : readLineBreak (lineBreak ++ rest) = some rest := rfl

/-- **A chunk is read back** from in front of whatever follows it. -/
theorem readChunk_append {digits data : List UInt8} (hne : digits ≠ []) (h : readHex 0 digits = some data.length)
    (rest : List UInt8) :
    readChunk (digits ++ (lineBreak ++ (data ++ (lineBreak ++ rest)))) = some (data, rest) := by
  have hdigits : (digits ++ (lineBreak ++ (data ++ (lineBreak ++ rest)))).takeWhile
      (fun b => (digitValue b).isSome) = digits := by
    rw [List.takeWhile_append_of_pos (digits_of_readHex h), lineBreak, List.cons_append,
      List.takeWhile_cons_of_neg (by decide), List.append_nil]
  simp only [readChunk, hdigits, if_neg hne, h, List.drop_left, readLineBreak_append, takeBytes_append,
    Option.bind_eq_bind, Option.bind_some, Option.pure_def]

end Lightstep.Library

import Mathlib.Algebra.Order.Ring.Nat
import Mathlib.Algebra.Ring.Int.Defs
import Lightstep.Common.Characters

/-! The parser of the first line of a satellite's response.

It takes what is read up to the first carriage return, in as many pieces as it
comes, and then splits the line at its first two spaces. -/
namespace Lightstep.Recorder
open Common

/-- The status code is not initialised in the source; nothing reads it before a line is complete. -/
structure StatusLineParser where
  line : List UInt8
  complete : Bool
  statusCode : Int
  reason : List UInt8
  deriving DecidableEq

namespace StatusLineParser

def new : StatusLineParser := ⟨[], false, 0, []⟩

def reset (p : StatusLineParser) : StatusLineParser := {p with line := [], complete := false}

/-- `std::strtol` to the base 10: white space, a sign, and digits up to the first other character,
clamped to the range of a `long`. -/
def strtol (s : List UInt8) : Int :=
  let s := s.dropWhile isSpace
  let magnitude (s : List UInt8) : Nat := decimalValue (s.takeWhile isDigit)
  match s with
  | 45 :: s => max (-2 ^ 63) (-(magnitude s : Int))
  | 43 :: s => min (2 ^ 63 - 1) (magnitude s)
  | s => min (2 ^ 63 - 1) (magnitude s)

def invalidStatusLine (line : List UInt8) : List UInt8 :=
  ascii "Invalid http status line \"" ++ line ++ ascii "\""

def parseFields (p : StatusLineParser) : StatusLineParser × Except (List UInt8) Unit :=
  match p.line.dropWhile (· != 32) with
  | [] => (p.reset, .error (invalidStatusLine p.line))
  | space :: rest =>
    match rest.dropWhile (· != 32) with
    | [] => (p.reset, .error (invalidStatusLine p.line))
    | _ :: reason => ({p with statusCode := (strtol (space :: rest)).bmod (2 ^ 32), reason := reason}, .ok ())

def parse (p : StatusLineParser) (s : List UInt8) : StatusLineParser × Except (List UInt8) Unit :=
  if p.complete then (p, .ok ())
  else
    let p := {p with line := p.line ++ s.takeWhile (· != 13), complete := s.any (· == 13)}
    if p.complete then p.parseFields else (p, .ok ())

/-- Parses what successive reads gave, up to the first that is invalid. -/
def parseAll (p : StatusLineParser) : List (List UInt8) → StatusLineParser × Except (List UInt8) Unit
  | [] => (p, .ok ())
  | s :: rest =>
    match p.parse s with
    | (p, .ok ()) => p.parseAll rest
    | (p, .error message) => (p, .error message)

end StatusLineParser
end Lightstep.Recorder

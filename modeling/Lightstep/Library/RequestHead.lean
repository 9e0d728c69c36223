import Lightstep.Library.Chunk
import Lightstep.Library.Incremental

/-! The head of an HTTP/1.1 request.

A head is lines up to an empty one: the request line, and a line for each header
field, whose value may have spaces on both sides. -/
namespace Lightstep.Library

structure RequestHead where
  requestLine : List UInt8
  fields : List (List UInt8 × List UInt8)
  deriving DecidableEq

/-- The lines before the first empty one; `line` is what has been read of a line. -/
def readLinesFrom (line : List UInt8) : Reader UInt8 (List (List UInt8))
  | 13 :: 10 :: rest =>
    if line = [] then some ([], rest) else (readLinesFrom [] rest).map fun (lines, rest) => (line :: lines, rest)
  | b :: rest => readLinesFrom (line ++ [b]) rest
  | [] => none

def readLines : Reader UInt8 (List (List UInt8)) := readLinesFrom []

def dropSpaces (s : List UInt8) : List UInt8 := s.dropWhile (· = 32)

/-- The name of a header field and its value, without the spaces around it. -/
def readHeaderField (line : List UInt8) : Option (List UInt8 × List UInt8) :=
  let name := line.takeWhile (· ≠ 58)
  match line.drop name.length with
  | _ :: value => some (name, (dropSpaces (dropSpaces value).reverse).reverse)
  | [] => none

def headOfLines : List (List UInt8) → Option RequestHead
  | [] => none
  | requestLine :: fields => (fields.mapM readHeaderField).map fun fields => ⟨requestLine, fields⟩

def readHead : Reader UInt8 RequestHead := Reader.filterMap readLines headOfLines

theorem steady_readLinesFrom (line : List UInt8) : Steady (readLinesFrom line) := by
  intro input lines rest h more
  fun_induction readLinesFrom line input generalizing lines rest with
  | case1 input =>
    cases h
    rfl
  | case2 line input hne ih =>
    obtain ⟨⟨others, after⟩, hread, heq⟩ := Option.map_eq_some_iff.mp h
    cases heq
    have hmore := ih hread
    show readLinesFrom line (13 :: 10 :: (input ++ more)) = _
    rw [readLinesFrom, if_neg hne, hmore]
    rfl
  | case3 line b input hbreak ih =>
    have hmore := ih h
    have hbreak' : ∀ after, b = 13 → input ++ more = 10 :: after → False := by
      rintro after rfl heq
      cases input with
      | nil => cases h
      | cons c input =>
        obtain ⟨rfl, -⟩ := List.cons.inj heq
        exact hbreak input rfl rfl
    show readLinesFrom line (b :: (input ++ more)) = _
    rw [readLinesFrom.eq_2 line b (input ++ more) hbreak']
    exact hmore
  | case4 line => cases h

theorem readLinesFrom_append {line rest : List UInt8} (h : 13 ∉ line) (before : List UInt8) :
    readLinesFrom before (line ++ (lineBreak ++ rest)) = readLinesFrom (before ++ line) (lineBreak ++ rest) := by
  induction line generalizing before with
  | nil => rw [List.append_nil, List.nil_append]
  | cons b line ih =>
    have hb : b ≠ 13 := fun hb => h (hb ▸ List.mem_cons_self ..)
    have hrest := ih (fun hmem => h (List.mem_cons_of_mem b hmem)) (before ++ [b])
    rw [List.append_assoc] at hrest
    rw [List.cons_append, readLinesFrom.eq_2 before b _ fun _ h13 => absurd h13 hb]
    exact hrest

/-- Lines are read back as long as none is empty or has a carriage return. -/
theorem readLines_flatMap {lines : List (List UInt8)} (h : ∀ line ∈ lines, line ≠ [] ∧ 13 ∉ line) (rest : List UInt8) :
    readLines (lines.flatMap (fun line => line ++ lineBreak) ++ (lineBreak ++ rest)) = some (lines, rest) := by
  induction lines with
  | nil => rfl
  | cons line lines ih =>
    obtain ⟨hne, hreturn⟩ := h line (List.mem_cons_self ..)
    have hrest := ih fun other hother => h other (List.mem_cons_of_mem line hother)
    rw [List.flatMap_cons, List.append_assoc, List.append_assoc, readLines, readLinesFrom_append hreturn,
      List.nil_append]
    show readLinesFrom line (13 :: 10 :: _) = _
    rw [readLinesFrom, if_neg hne]
    exact congrArg (Option.map _) hrest

theorem steady_readHead : Steady readHead := (steady_readLinesFrom []).filterMap headOfLines

/-- **A head is read back** from the lines it is written in. -/
theorem readHead_lines {requestLine : List UInt8} {lines : List (List UInt8)} {fields : List (List UInt8 × List UInt8)}
    (h : ∀ line ∈ requestLine :: lines, line ≠ [] ∧ 13 ∉ line) (hfields : lines.mapM readHeaderField = some fields)
    (rest : List UInt8) :
    readHead ((requestLine :: lines).flatMap (fun line => line ++ lineBreak) ++ (lineBreak ++ rest)) =
      some (⟨requestLine, fields⟩, rest) := by
  simp only [readHead, Reader.filterMap, readLines_flatMap h rest, Option.bind_some, headOfLines, hfields,
    Option.map_some]

end Lightstep.Library

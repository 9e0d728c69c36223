import Mathlib.Algebra.Order.Ring.Nat
import Mathlib.Algebra.Ring.Int.Defs
import Mathlib.Data.List.TakeWhile
import Lightstep.Recorder.StatusLineParser

/-! What the parser of the status line makes of a response, in one piece or in many.

The state code is the number that starts at the first space, wherever the second one is; what is said of the
line holds where the characters between the two are a number. -/
namespace Lightstep.Recorder
open Common
namespace StatusLineParser

/-! ### Pieces -/

theorem parse_of_complete {p : StatusLineParser} (h : p.complete = true) (s : List UInt8) : p.parse s = (p, .ok ()) := by
  rw [parse, if_pos h]

theorem any_iff_mem {s : List UInt8} : (s.any (· == 13)) = true ↔ 13 ∈ s := by simp

theorem takeWhile_append {a : List UInt8} (b : List UInt8) (h : 13 ∈ a) :
    (a ++ b).takeWhile (· != 13) = a.takeWhile (· != 13) := by
  induction a with
  | nil => cases h
  | cons c a ih =>
    rw [List.cons_append]
    by_cases hc : c = 13
    · rw [List.takeWhile_cons_of_neg (by simp [hc]), List.takeWhile_cons_of_neg (by simp [hc])]
    · rw [List.takeWhile_cons_of_pos (by simpa using hc), List.takeWhile_cons_of_pos (by simpa using hc),
        ih ((List.mem_cons.mp h).resolve_left (Ne.symm hc))]

theorem takeWhile_of_not_mem {s : List UInt8} (h : 13 ∉ s) : s.takeWhile (· != 13) = s := by
  rw [List.takeWhile_eq_self_iff]
  intro c hc
  simpa using fun heq : c = 13 => h (heq ▸ hc)

theorem parse_of_mem {p : StatusLineParser} (hp : p.complete = false) {s : List UInt8} (h : 13 ∈ s) :
    p.parse s = parseFields {p with line := p.line ++ s.takeWhile (· != 13), complete := true} := by
  have hany : (s.any (· == 13)) = true := any_iff_mem.mpr h
  simp only [parse, hp, hany, Bool.false_eq_true, if_false, if_true]

theorem parse_of_not_mem {p : StatusLineParser} (hp : p.complete = false) {s : List UInt8} (h : 13 ∉ s) :
    p.parse s = ({p with line := p.line ++ s}, .ok ()) := by
  have hany : (s.any (· == 13)) = false := Bool.eq_false_iff.mpr fun hany => h (any_iff_mem.mp hany)
  simp only [parse, hp, hany, Bool.false_eq_true, if_false, takeWhile_of_not_mem h]

/-- The fields are there, or the parser is reset with an error. -/
theorem parseFields_cases (p : StatusLineParser) :
    (∃ statusCode reason, p.parseFields = ({p with statusCode := statusCode, reason := reason}, .ok ())) ∨
      p.parseFields = (p.reset, .error (invalidStatusLine p.line)) := by
  unfold parseFields
  cases p.line.dropWhile (· != 32) with
  | nil => exact .inr rfl
  | cons space rest =>
    dsimp only
    cases rest.dropWhile (· != 32) with
    | nil => exact .inr rfl
    | cons _ reason => exact .inl ⟨_, _, rfl⟩

/-- Parsing goes on after a first piece that does not fail. -/
theorem parse_append (p : StatusLineParser) (a b : List UInt8) :
    p.parse (a ++ b) =
      match p.parse a with
      | (p, .ok ()) => p.parse b
      | (p, .error message) => (p, .error message) := by
  cases hp : p.complete with
  | true => simp only [parse_of_complete hp]
  | false =>
    by_cases ha : 13 ∈ a
    · rw [parse_of_mem hp (List.mem_append_left b ha), parse_of_mem hp ha, takeWhile_append b ha]
      rcases parseFields_cases {p with line := p.line ++ a.takeWhile (· != 13), complete := true} with
        ⟨statusCode, reason, hfields⟩ | hfields
      · rw [hfields]
        exact (parse_of_complete rfl b).symm
      · rw [hfields]
    · rw [parse_of_not_mem hp ha]
      dsimp only
      by_cases hb : 13 ∈ b
      · have hline : (a ++ b).takeWhile (· != 13) = a ++ b.takeWhile (· != 13) :=
          List.takeWhile_append_of_pos fun c hc => by simpa using fun heq : c = 13 => ha (heq ▸ hc)
        rw [parse_of_mem hp (List.mem_append_right a hb), parse_of_mem (by exact hp) hb, hline, ← List.append_assoc]
      · have hab : 13 ∉ a ++ b := fun h => (List.mem_append.mp h).elim ha hb
        rw [parse_of_not_mem hp hab, parse_of_not_mem (by exact hp) hb, ← List.append_assoc]

theorem parseAll_eq_parse_flatten (p : StatusLineParser) (pieces : List (List UInt8)) :
    p.parseAll pieces = p.parse pieces.flatten := by
  induction pieces generalizing p with
  | nil =>
    cases hp : p.complete with
    | true => exact (parse_of_complete hp []).symm
    | false =>
      rw [List.flatten_nil, parse_of_not_mem hp List.not_mem_nil, List.append_nil]
      rfl
  | cons s rest ih =>
    rw [parseAll, List.flatten_cons, parse_append]
    rcases p.parse s with ⟨q, _ | _⟩
    · rfl
    · exact ih q

/-- An error leaves the parser as a reset does. -/
theorem reset_of_error {p q : StatusLineParser} {s message : List UInt8} (h : p.parse s = (q, .error message)) :
    q = p.reset := by
  cases hp : p.complete with
  | true =>
    rw [parse_of_complete hp] at h
    cases h
  | false =>
    by_cases hs : 13 ∈ s
    · rw [parse_of_mem hp hs] at h
      rcases parseFields_cases {p with line := p.line ++ s.takeWhile (· != 13), complete := true} with
        ⟨statusCode, reason, hfields⟩ | hfields
      · rw [hfields] at h
        cases h
      · rw [hfields] at h
        exact (congrArg Prod.fst h).symm
    · rw [parse_of_not_mem hp hs] at h
      cases h

/-- **However a response is cut into pieces, it is parsed as a whole**; what comes after the first carriage
return does not matter, and an error resets the parser. -/
theorem parse_pieces (p : StatusLineParser) (pieces : List (List UInt8)) :
    p.reset.parseAll pieces = p.reset.parse pieces.flatten ∧
    (∀ line rest, pieces.flatten = line ++ 13 :: rest → p.reset.parseAll pieces = p.reset.parse (line ++ [13])) ∧
    (∀ q outcome more, p.reset.parseAll pieces = (q, outcome) → q.complete = true → q.parseAll more = (q, .ok ())) ∧
    ∀ q message, p.reset.parseAll pieces = (q, .error message) → q = p.reset := by
  refine ⟨parseAll_eq_parse_flatten _ pieces, ?_, ?_, ?_⟩
  · intro line rest hflatten
    have hsplit : line ++ 13 :: rest = (line ++ [13]) ++ rest := List.append_cons ..
    rw [parseAll_eq_parse_flatten, hflatten, hsplit, parse_of_mem rfl (by simp), parse_of_mem rfl (by simp),
      takeWhile_append rest (by simp)]
  · intro q outcome more _ hq
    rw [parseAll_eq_parse_flatten, parse_of_complete hq]
  · intro q message h
    rw [parseAll_eq_parse_flatten] at h
    exact (reset_of_error h).trans rfl

/-! ### The fields -/

/-- A number in decimal digits, with or without a sign. -/
inductive DecimalInt : List UInt8 → Int → Prop where
  | unsigned {digits : List UInt8} (hne : digits ≠ []) (hdigits : ∀ c ∈ digits, isDigit c = true) :
      DecimalInt digits (decimalValue digits)
  | plus {digits : List UInt8} (hne : digits ≠ []) (hdigits : ∀ c ∈ digits, isDigit c = true) :
      DecimalInt (43 :: digits) (decimalValue digits)
  | minus {digits : List UInt8} (hne : digits ≠ []) (hdigits : ∀ c ∈ digits, isDigit c = true) :
      DecimalInt (45 :: digits) (-(decimalValue digits))

/-- The value of an `int`. -/
def IsInt (v : Int) : Prop := -2 ^ 31 ≤ v ∧ v < 2 ^ 31

theorem isInt_iff (v : Int) : IsInt v ↔ -2147483648 ≤ v ∧ v < 2147483648 := by
  unfold IsInt
  omega

/-- A line with two spaces at least, taken apart at the first two. -/
def Fields (line token reason : List UInt8) : Prop :=
  ∃ version, line = version ++ 32 :: (token ++ 32 :: reason) ∧ 32 ∉ version ∧ 32 ∉ token

/-- A parser that completed reports what the line says. -/
def Reports (line : List UInt8) (p : StatusLineParser) : Prop :=
  ∃ token reason v, Fields line token reason ∧ DecimalInt token v ∧ IsInt v ∧ p.statusCode = v ∧ p.reason = reason

theorem dropWhile_append_space {a : List UInt8} (h : 32 ∉ a) (rest : List UInt8) :
    (a ++ 32 :: rest).dropWhile (· != 32) = 32 :: rest := by
  rw [List.dropWhile_append_of_pos fun c hc => by simpa using fun heq : c = 32 => h (heq ▸ hc)]
  exact List.dropWhile_cons_of_neg (by simp)

theorem parseFields_of_fields {p : StatusLineParser} {token reason : List UInt8} (h : Fields p.line token reason) :
    p.parseFields =
      ({p with statusCode := (strtol (32 :: (token ++ 32 :: reason))).bmod (2 ^ 32), reason := reason}, .ok ()) := by
  obtain ⟨version, hline, hversion, htoken⟩ := h
  unfold parseFields
  rw [hline, dropWhile_append_space hversion]
  dsimp only
  rw [dropWhile_append_space htoken]

/-- A line is taken apart in one way, and without two spaces in none. -/
theorem fields_of_parseFields {p q : StatusLineParser} (h : p.parseFields = (q, .ok ())) :
    ∃ token reason, Fields p.line token reason := by
  have hspace : ∀ s : List UInt8, 32 ∉ s.takeWhile (· != 32) := fun s hmem => by simpa using List.mem_takeWhile_imp hmem
  have hsplit : ∀ (s : List UInt8) {c : UInt8} {rest : List UInt8}, s.dropWhile (· != 32) = c :: rest →
      s = s.takeWhile (· != 32) ++ 32 :: rest := fun s c rest hdrop => by
    have hhead := List.head?_dropWhile_not (· != 32) s
    rw [hdrop] at hhead
    have hc : c = 32 := by simpa using hhead
    subst hc
    rw [← hdrop, List.takeWhile_append_dropWhile]
  unfold parseFields at h
  cases hfirst : p.line.dropWhile (· != 32) with
  | nil =>
    rw [hfirst] at h
    cases h
  | cons space rest =>
    rw [hfirst] at h
    dsimp only at h
    cases hlast : rest.dropWhile (· != 32) with
    | nil =>
      rw [hlast] at h
      cases h
    | cons _ reason =>
      refine ⟨rest.takeWhile (· != 32), reason, p.line.takeWhile (· != 32), ?_, hspace _, hspace _⟩
      rw [← hsplit rest hlast]
      exact hsplit p.line hfirst

theorem takeWhile_digits {digits : List UInt8} (h : ∀ c ∈ digits, isDigit c = true) (rest : List UInt8) :
    (digits ++ 32 :: rest).takeWhile isDigit = digits := by
  rw [List.takeWhile_append_of_pos h, List.takeWhile_cons_of_neg (by decide), List.append_nil]

/-- A number that is an `int` is read as it is, up to the next space. -/
theorem strtol_of_decimalInt {token : List UInt8} {v : Int} (h : DecimalInt token v) (hint : IsInt v)
    (rest : List UInt8) : strtol (32 :: (token ++ 32 :: rest)) = v := by
  obtain ⟨hmin, hmax⟩ := hint
  have hskip : ∀ {c : UInt8} (s : List UInt8), isSpace c = false → (32 :: c :: s).dropWhile isSpace = c :: s :=
    fun s hc => by
      rw [List.dropWhile_cons_of_pos (by decide), List.dropWhile_cons_of_neg (by rw [hc]; decide)]
  cases h with
  | unsigned hne hdigits =>
    cases token with
    | nil => exact absurd rfl hne
    | cons c digits =>
      have hdigit : isDigit c = true := hdigits c (List.mem_cons_self ..)
      rw [strtol, List.cons_append, hskip _ (not_isSpace_of_isDigit hdigit)]
      split
      case h_1 heq =>
        cases (List.cons.inj heq).1
        cases hdigit
      case h_2 heq =>
        cases (List.cons.inj heq).1
        cases hdigit
      case h_3 =>
        show min (2 ^ 63 - 1) (decimalValue ((c :: digits ++ 32 :: rest).takeWhile isDigit) : Int) = _
        rw [takeWhile_digits hdigits]
        omega
  | @plus digits hne hdigits =>
    rw [strtol, List.cons_append, hskip _ (by decide)]
    show min (2 ^ 63 - 1) (decimalValue ((digits ++ 32 :: rest).takeWhile isDigit) : Int) = _
    rw [takeWhile_digits hdigits]
    omega
  | @minus digits hne hdigits =>
    rw [strtol, List.cons_append, hskip _ (by decide)]
    show max (-2 ^ 63) (-(decimalValue ((digits ++ 32 :: rest).takeWhile isDigit) : Int)) = _
    rw [takeWhile_digits hdigits]
    omega

/-- The narrowing to an `int` keeps what is one. -/
theorem bmod_of_isInt {v : Int} (h : IsInt v) : v.bmod (2 ^ 32) = v := by
  obtain ⟨hmin, hmax⟩ := h
  rw [Int.bmod_def]
  omega

theorem Fields.unique {line token reason token' reason' : List UInt8} (h : Fields line token reason)
    (h' : Fields line token' reason') : token = token' ∧ reason = reason' := by
  have hrest : ∀ {a a' s s' : List UInt8}, 32 ∉ a → 32 ∉ a' → a ++ 32 :: s = a' ++ 32 :: s' → a = a' ∧ s = s' := by
    intro a a' s s' ha ha' heq
    have hdrop := congrArg (List.dropWhile (· != 32)) heq
    rw [dropWhile_append_space ha, dropWhile_append_space ha'] at hdrop
    have hs := (List.cons.inj hdrop).2
    subst hs
    exact ⟨List.append_cancel_right heq, rfl⟩
  obtain ⟨version, hline, hversion, htoken⟩ := h
  obtain ⟨version', hline', hversion', htoken'⟩ := h'
  obtain ⟨-, hfields⟩ := hrest hversion hversion' (hline.symm.trans hline')
  exact hrest htoken htoken' hfields

/-- What is between the first two spaces is a number that is an `int`, if there are two. -/
def NumberBetween (line : List UInt8) : Prop :=
  ∀ token reason, Fields line token reason → ∃ v, DecimalInt token v ∧ IsInt v

/-- **The parser reports what the line says exactly if there is a number between its first two spaces.** -/
theorem reports_iff (p : StatusLineParser) {pieces : List (List UInt8)} {line rest : List UInt8}
    (hresponse : pieces.flatten = line ++ 13 :: rest) (hline : 13 ∉ line) :
    (∀ q, p.reset.parseAll pieces = (q, .ok ()) → q.complete = true → Reports line q) ↔ NumberBetween line := by
  have hparse : p.reset.parseAll pieces = parseFields {p with line := line, complete := true} := by
    have htake : (line ++ 13 :: rest).takeWhile (· != 13) = line := by
      rw [List.takeWhile_append_of_pos fun c hc => by simpa using fun heq : c = 13 => hline (heq ▸ hc),
        List.takeWhile_cons_of_neg (by simp), List.append_nil]
    rw [parseAll_eq_parse_flatten, hresponse, parse_of_mem rfl (by simp), htake]
    rfl
  rw [hparse]
  constructor
  · intro hreports token reason hfields
    have hok := parseFields_of_fields (p := {p with line := line, complete := true}) hfields
    obtain ⟨token', reason', v, hfields', hdecimal, hint, -, -⟩ := hreports _ hok rfl
    obtain ⟨rfl, -⟩ := hfields'.unique hfields
    exact ⟨v, hdecimal, hint⟩
  · intro hnumber q hok _
    obtain ⟨token, reason, hfields⟩ := fields_of_parseFields hok
    obtain ⟨v, hdecimal, hint⟩ := hnumber token reason hfields
    rw [parseFields_of_fields hfields] at hok
    cases hok
    refine ⟨token, reason, v, hfields, hdecimal, hint, ?_, rfl⟩
    rw [strtol_of_decimalInt hdecimal hint, bmod_of_isInt hint]

/-- A response in two pieces, with a number where it should be. -/
theorem okResponse_reported :
    ((∀ q, new.reset.parseAll [ascii "HTTP/1.1 200 OK\r", ascii "\n"] = (q, .ok ()) → q.complete = true →
      Reports (ascii "HTTP/1.1 200 OK") q) ↔ NumberBetween (ascii "HTTP/1.1 200 OK")) ∧
    NumberBetween (ascii "HTTP/1.1 200 OK") := by
  refine ⟨@reports_iff new _ (ascii "HTTP/1.1 200 OK") [10] (by decide) (by decide), fun token reason hfields => ?_⟩
  have hexpected : Fields (ascii "HTTP/1.1 200 OK") (ascii "200") (ascii "OK") :=
    ⟨ascii "HTTP/1.1", by decide, by decide, by decide⟩
  obtain ⟨rfl, -⟩ := hfields.unique hexpected
  exact ⟨200, @DecimalInt.unsigned (ascii "200") (by decide) (List.all_eq_true.mp rfl), (isInt_iff 200).mpr (by decide)⟩

/-- A second space in front of the number hides an empty token, and a number of more than 32 bits is cut down. -/
theorem doubleSpace_not_reported :
    (∃ q, new.reset.parseAll [ascii "HTTP/1.1  200 OK\r"] = (q, .ok ()) ∧ q.complete = true ∧ q.statusCode = 200 ∧
      ¬ Reports (ascii "HTTP/1.1  200 OK") q) ∧
    ∃ q, new.reset.parseAll [ascii "HTTP/1.1 4294967496 OK\r"] = (q, .ok ()) ∧ q.complete = true ∧ q.statusCode = 200 ∧
      ¬ Reports (ascii "HTTP/1.1 4294967496 OK") q := by
  refine ⟨⟨_, rfl, rfl, by decide, ?_⟩, ⟨_, rfl, rfl, by decide, ?_⟩⟩
  · rintro ⟨token, reason, v, hfields, hdecimal, -⟩
    have hempty : Fields (ascii "HTTP/1.1  200 OK") [] (ascii "200 OK") :=
      ⟨ascii "HTTP/1.1", by decide, by decide, by decide⟩
    obtain ⟨rfl, -⟩ := hfields.unique hempty
    cases hdecimal with
    | unsigned hne _ => exact hne rfl
  · rintro ⟨token, reason, v, hfields, hdecimal, hint, hstatus, -⟩
    have hlong : Fields (ascii "HTTP/1.1 4294967496 OK") (ascii "4294967496") (ascii "OK") :=
      ⟨ascii "HTTP/1.1", by decide, by decide, by decide⟩
    have hvalue := strtol_of_decimalInt hdecimal hint []
    obtain ⟨rfl, -⟩ := hfields.unique hlong
    have hread : strtol (32 :: (ascii "4294967496" ++ 32 :: [])) = 4294967496 := by decide
    rw [hread] at hvalue
    subst hvalue
    exact absurd ((isInt_iff 4294967496).mp hint) (by decide)

end StatusLineParser
end Lightstep.Recorder

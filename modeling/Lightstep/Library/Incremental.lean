import Lightstep.Library.Wire

/-! Readers of an input that arrives in pieces.

A reader takes a value from the front of its input. A steady one, once it has read
something, reads the same from any longer input. What is read of an input, value by
value, then only grows with the input, and does not depend on the pieces it comes in. -/
namespace Lightstep.Library
variable {α β γ : Type}

/-- What reads a value from the front of its input, if all of it is there. -/
abbrev Reader (α β : Type) := List α → Option (β × List α)

namespace Reader

def pure (x : β) : Reader α β := fun input => some (x, input)

def bind (read : Reader α β) (next : β → Reader α γ) : Reader α γ := fun input =>
  (read input).bind fun (x, rest) => next x rest

theorem bind_eq {read : Reader α β} {input rest : List α} {x : β} (h : read input = some (x, rest))
    (next : β → Reader α γ) : read.bind next input = next x rest := by
  rw [bind, h, Option.bind_some]

/-- A value that is refused makes reading fail. -/
def filterMap (read : Reader α β) (f : β → Option γ) : Reader α γ := fun input =>
  (read input).bind fun (x, rest) => (f x).map fun y => (y, rest)

/-- A reader that goes on only where a condition holds. -/
def guard (p : Prop) [Decidable p] (read : Reader α β) : Reader α β := fun input => if p then read input else none

end Reader

/-- More input does not change what has been read. -/
def Steady (read : Reader α β) : Prop :=
  ∀ ⦃input x rest⦄, read input = some (x, rest) → ∀ more, read (input ++ more) = some (x, rest ++ more)

/-- A value takes so much of the input at least. -/
def Consumes (n : Nat) (read : Reader α β) : Prop :=
  ∀ ⦃input x rest⦄, read input = some (x, rest) → rest.length + n ≤ input.length

/-- As many values as there are, with fuel. -/
def readAllFrom (read : Reader α β) : Nat → List α → List β × List α
  | 0, input => ([], input)
  | fuel + 1, input =>
    match read input with
    | none => ([], input)
    | some (x, rest) =>
      let (xs, rest) := readAllFrom read fuel rest
      (x :: xs, rest)

/-- The values at the front of an input, and the input that no value is read from. -/
def readAll (read : Reader α β) (input : List α) : List β × List α := readAllFrom read input.length input

/-! ### Steady readers -/

namespace Steady
variable {read : Reader α β}

theorem pure (x : β) : Steady (Reader.pure x : Reader α β) := by
  intro input y rest heq more
  cases heq
  rfl

/-- Readers one after the other are steady if each is. -/
theorem bind (h : Steady read) {next : β → Reader α γ} (hnext : ∀ x, Steady (next x)) : Steady (read.bind next) := by
  intro input y rest heq more
  obtain ⟨⟨x, middle⟩, hread, hy⟩ := Option.bind_eq_some_iff.mp heq
  simp only [Reader.bind, h hread more, Option.bind_some]
  exact hnext x hy more

theorem filterMap (h : Steady read) (f : β → Option γ) : Steady (read.filterMap f) := by
  intro input y rest heq more
  obtain ⟨⟨x, middle⟩, hread, hmap⟩ := Option.bind_eq_some_iff.mp heq
  obtain ⟨z, hz, hpair⟩ := Option.map_eq_some_iff.mp hmap
  cases hpair
  simp only [Reader.filterMap, h hread more, Option.bind_some, hz, Option.map_some]

theorem guard (h : Steady read) (p : Prop) [Decidable p] : Steady (Reader.guard p read) := by
  intro input x rest heq more
  obtain ⟨hp, hread⟩ := Option.ite_none_right_eq_some.mp heq
  simp only [Reader.guard, if_pos hp]
  exact h hread more

end Steady

namespace Consumes
variable {read : Reader α β} {m n : Nat}

theorem mono (h : Consumes n read) (hle : m ≤ n) : Consumes m read :=
  fun _ _ _ hread => Nat.le_trans (Nat.add_le_add_left hle _) (h hread)

theorem bind (h : Consumes m read) {next : β → Reader α γ} (hnext : ∀ x, Consumes n (next x)) :
    Consumes (m + n) (read.bind next) := by
  intro input y rest heq
  obtain ⟨⟨x, middle⟩, hread, hy⟩ := Option.bind_eq_some_iff.mp heq
  have hfirst := h hread
  have hsecond := hnext x hy
  omega

theorem filterMap (h : Consumes n read) (f : β → Option γ) : Consumes n (read.filterMap f) := by
  intro input y rest heq
  obtain ⟨⟨x, middle⟩, hread, hmap⟩ := Option.bind_eq_some_iff.mp heq
  obtain ⟨z, hz, hpair⟩ := Option.map_eq_some_iff.mp hmap
  cases hpair
  exact h hread

theorem guard (h : Consumes n read) (p : Prop) [Decidable p] : Consumes n (Reader.guard p read) :=
  fun _ _ _ heq => h (Option.ite_none_right_eq_some.mp heq).2

end Consumes

/-- A varint ends where it ended, whatever follows. -/
theorem steady_readVarint (fuel : Nat) : Steady (readVarint fuel) := by
  induction fuel with
  | zero =>
    intro input x rest heq
    cases heq
  | succ fuel ih =>
    intro input x rest heq more
    cases input with
    | nil => cases heq
    | cons b input =>
      simp only [readVarint, List.cons_append] at heq ⊢
      split at heq
      · cases heq
        rw [if_pos ‹_›]
      · rw [if_neg ‹_›]
        obtain ⟨⟨n, middle⟩, hread, hx⟩ := Option.map_eq_some_iff.mp heq
        rw [ih hread more]
        cases hx
        rfl

theorem steady_parseVarint : Steady parseVarint := steady_readVarint 10

theorem steady_takeBytes (k : Nat) : Steady (takeBytes k) := by
  intro input bytes rest heq more
  obtain ⟨hle, heq⟩ := Option.ite_none_right_eq_some.mp heq
  obtain ⟨rfl, rfl⟩ := Prod.mk.inj (Option.some.inj heq)
  have hmore : k ≤ (input ++ more).length := by
    rw [List.length_append]
    omega
  rw [takeBytes, if_pos hmore, List.take_append_of_le_length hle, List.drop_append_of_le_length hle]

theorem consumes_readVarint (fuel : Nat) : Consumes 1 (readVarint fuel) := by
  induction fuel with
  | zero =>
    intro input x rest heq
    cases heq
  | succ fuel ih =>
    intro input x rest heq
    cases input with
    | nil => cases heq
    | cons b input =>
      simp only [readVarint] at heq
      split at heq
      · cases heq
        exact Nat.le_refl _
      · obtain ⟨⟨n, middle⟩, hread, hx⟩ := Option.map_eq_some_iff.mp heq
        cases hx
        exact Nat.le_succ_of_le (ih hread)

theorem consumes_takeBytes (k : Nat) : Consumes k (takeBytes k) := by
  intro input bytes rest heq
  obtain ⟨hle, heq⟩ := Option.ite_none_right_eq_some.mp heq
  cases heq
  rw [List.length_drop, Nat.sub_add_cancel hle]

/-! ### All that can be read -/

variable {read : Reader α β}

/-- Fuel for all of the input is enough. -/
theorem readAllFrom_eq (hc : Consumes 1 read) {fuel : Nat} {input : List α} (h : input.length ≤ fuel) :
    readAllFrom read fuel input = readAll read input := by
  have hany : ∀ n input a b, input.length ≤ n → input.length ≤ a → input.length ≤ b →
      readAllFrom read a input = readAllFrom read b input := by
    intro n
    induction n with
    | zero =>
      intro input a b hn ha hb
      obtain rfl : input = [] := List.length_eq_zero_iff.mp (Nat.le_zero.mp hn)
      have hnone : read [] = none := by
        cases hread : read [] with
        | none => rfl
        | some result => exact absurd (hc hread) (Nat.not_succ_le_zero _)
      cases a <;> cases b <;> simp [readAllFrom, hnone]
    | succ n ih =>
      intro input a b hn ha hb
      cases hread : read input with
      | none => cases a <;> cases b <;> simp [readAllFrom, hread]
      | some result =>
        obtain ⟨x, rest⟩ := result
        have hlt := hc hread
        obtain ⟨a, rfl⟩ : ∃ k, a = k + 1 := ⟨a - 1, by omega⟩
        obtain ⟨b, rfl⟩ : ∃ k, b = k + 1 := ⟨b - 1, by omega⟩
        simp only [readAllFrom, hread, ih rest a b (by omega) (by omega) (by omega)]
  exact hany _ input _ _ (Nat.le_refl _) h (Nat.le_refl _)

theorem readAll_none {input : List α} (h : read input = none) : readAll read input = ([], input) := by
  unfold readAll
  cases input.length with
  | zero => rfl
  | succ fuel => simp [readAllFrom, h]

/-- **All that is read** is the first value and what is read after it. -/
theorem readAll_some (hc : Consumes 1 read) {input rest : List α} {x : β} (h : read input = some (x, rest)) :
    readAll read input = (x :: (readAll read rest).1, (readAll read rest).2) := by
  have hlt := hc h
  obtain ⟨n, hn⟩ : ∃ n, input.length = n + 1 := ⟨input.length - 1, by omega⟩
  have hrest := readAllFrom_eq hc (show rest.length ≤ n by omega)
  rw [readAll, hn]
  simp only [readAllFrom, h, hrest]

/-- **What more input adds** is read from what was left. -/
theorem readAll_append (hs : Steady read) (hc : Consumes 1 read) (a b : List α) :
    readAll read (a ++ b) =
      ((readAll read a).1 ++ (readAll read ((readAll read a).2 ++ b)).1, (readAll read ((readAll read a).2 ++ b)).2) := by
  induction hn : a.length using Nat.strong_induction_on generalizing a with
  | _ n ih =>
    cases hread : read a with
    | none => simp only [readAll_none hread, List.nil_append]
    | some result =>
      obtain ⟨x, rest⟩ := result
      have hrest := ih rest.length (hn ▸ hc hread) rest rfl
      simp only [readAll_some hc (hs hread b), readAll_some hc hread, hrest, List.cons_append]

/-- More input takes nothing back. -/
theorem readAll_isPrefix (hs : Steady read) (hc : Consumes 1 read) {a b : List α} (h : a <+: b) :
    (readAll read a).1 <+: (readAll read b).1 := by
  obtain ⟨more, rfl⟩ := h
  rw [readAll_append hs hc]
  exact List.prefix_append _ _

end Lightstep.Library

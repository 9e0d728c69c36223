import Lightstep.Common.JsonRoundTrip

/-! When JSON denotes the value it was written for.

The escape of a control character by its number leaves the base of the stream at 16.
An integer after it is written to that base, and only a single decimal digit is
still read as the integer it was. -/
namespace Lightstep.Common

namespace Json
variable [DoubleFormat]

mutual

/-- **What is read back was written plainly.** -/
theorem plain_of_read : ∀ (value : Value) {hex : Bool} {fuel : Nat} {rest rest' : List UInt8},
    value.hasDouble = false → Delimited rest →
    parseValue fuel (jsonText hex value ++ rest) = some (denote value, rest') →
    Plain hex (tokens value) ∧ rest' = rest
  | _, _, 0, _, _, _, _, h => by cases h
  | .bool true, _, _ + 1, _, _, _, _, h => ⟨trivial, (Prod.mk.inj (Option.some.inj h)).2.symm⟩
  | .bool false, _, _ + 1, _, _, _, _, h => ⟨trivial, (Prod.mk.inj (Option.some.inj h)).2.symm⟩
  | .double _, _, _ + 1, _, _, hdouble, _, _ => by cases hdouble
  | .int64 value, _, _ + 1, _, _, _, hrest, h => by
    obtain ⟨hplain, heq⟩ := plain_of_parseValue (isInt64 value) hrest h
    exact ⟨⟨hplain, trivial⟩, heq⟩
  | .uint64 value, _, _ + 1, _, _, _, hrest, h => by
    obtain ⟨hplain, heq⟩ := plain_of_parseValue (isUInt64 value) hrest h
    exact ⟨⟨hplain, trivial⟩, heq⟩
  | .string s, _, fuel + 1, rest, _, _, _, h =>
    ⟨trivial, (Prod.mk.inj (Option.some.inj ((parseValue_string fuel s rest).symm.trans h))).2.symm⟩
  | .null, _, _ + 1, _, _, _, _, h => ⟨trivial, (Prod.mk.inj (Option.some.inj h)).2.symm⟩
  | .cString s, _, fuel + 1, rest, _, _, _, h =>
    ⟨trivial, (Prod.mk.inj (Option.some.inj ((parseValue_string fuel (cStringView s) rest).symm.trans h))).2.symm⟩
  | .values [], _, _ + 1, _, _, _, _, h => ⟨trivial, (Prod.mk.inj (Option.some.inj h)).2.symm⟩
  | .values (value :: values), hex, fuel + 1, rest, rest', hdouble, _, h => by
    have hvalue : value.hasDouble = false := (Bool.or_eq_false_iff.mp hdouble).1
    rw [jsonText_values, List.cons_append, List.append_assoc, List.singleton_append,
      parseValue_array ((jsonTextValues_starts hvalue hex).append _)] at h
    obtain ⟨⟨elements, rest''⟩, helements, heq⟩ := Option.map_eq_some_iff.mp h
    obtain ⟨hdenote, rfl⟩ := Prod.mk.inj heq
    rw [Json.array.inj hdenote] at helements
    exact plain_of_readElements (value :: values) (List.cons_ne_nil _ _) hdouble helements
  | .dictionary [], _, _ + 1, _, _, _, _, h => ⟨trivial, (Prod.mk.inj (Option.some.inj h)).2.symm⟩
  | .dictionary (member :: dictionary), hex, fuel + 1, rest, rest', hdouble, _, h => by
    obtain ⟨text, htext⟩ := jsonTextDictionary_quote member dictionary hex
    rw [jsonText_dictionary, List.cons_append, List.append_assoc, List.singleton_append, htext, List.cons_append,
      parseValue_object, ← List.cons_append, ← htext] at h
    obtain ⟨⟨members, rest''⟩, hmembers, heq⟩ := Option.map_eq_some_iff.mp h
    obtain ⟨hdenote, rfl⟩ := Prod.mk.inj heq
    rw [Json.object.inj hdenote] at hmembers
    exact plain_of_readMembers (member :: dictionary) (List.cons_ne_nil _ _) hdouble hmembers

theorem plain_of_readElements : ∀ (values : List Value) {hex : Bool} {fuel : Nat} {rest rest' : List UInt8},
    values ≠ [] → hasDoubleValues values = false →
    parseElements fuel (jsonTextValues hex values ++ 93 :: rest) = some (denoteValues values, rest') →
    Plain hex (tokensValues values) ∧ rest' = rest
  | [], _, _, _, _, hne, _, _ => absurd rfl hne
  | _ :: _, _, 0, _, _, _, _, h => by cases h
  | [value], hex, fuel + 1, rest, _, _, hdouble, h => by
    obtain ⟨_, hfirst⟩ := parseElements_eq_cons h
    obtain ⟨hplain, rfl⟩ := plain_of_read value (Bool.or_eq_false_iff.mp hdouble).1 (delimited_bracket rest) hfirst
    have hlast := (parseElements_last hfirst).symm.trans h
    rw [tokensValues, tokensValues, List.append_nil]
    exact ⟨hplain, (Prod.mk.inj (Option.some.inj hlast)).2.symm⟩
  | value :: next :: values, hex, fuel + 1, rest, _, _, hdouble, h => by
    obtain ⟨hvalue, hothers⟩ := Bool.or_eq_false_iff.mp hdouble
    have hnext : next.hasDouble = false := (Bool.or_eq_false_iff.mp hothers).1
    rw [jsonTextValues_cons, List.append_assoc, List.cons_append] at h
    obtain ⟨_, hfirst⟩ := parseElements_eq_cons h
    obtain ⟨hplain, rfl⟩ := plain_of_read value hvalue (delimited_comma _) hfirst
    rw [parseElements_cons hfirst, ((jsonTextValues_starts hnext _).append _).skipWhitespace_eq] at h
    obtain ⟨⟨elements, rest''⟩, helements, heq⟩ := Option.map_eq_some_iff.mp h
    obtain ⟨hdenote, rfl⟩ := Prod.mk.inj heq
    rw [(List.cons.inj hdenote).2] at helements
    obtain ⟨hplain', heq'⟩ := plain_of_readElements (next :: values) (List.cons_ne_nil _ _) hothers helements
    exact ⟨(plain_append hex (tokens value) (tokensValues (next :: values))).mpr ⟨hplain, hplain'⟩, heq'⟩

theorem plain_of_readMembers : ∀ (dictionary : List (List UInt8 × Value)) {hex : Bool} {fuel : Nat}
    {rest rest' : List UInt8}, dictionary ≠ [] → hasDoubleDictionary dictionary = false →
    parseMembers fuel (jsonTextDictionary hex dictionary ++ 125 :: rest) = some (denoteDictionary dictionary, rest') →
    Plain hex (tokensDictionary dictionary) ∧ rest' = rest
  | [], _, _, _, _, hne, _, _ => absurd rfl hne
  | _ :: _, _, 0, _, _, _, _, h => by cases h
  | [(key, value)], hex, fuel + 1, rest, _, _, hdouble, h => by
    have hvalue : value.hasDouble = false := (Bool.or_eq_false_iff.mp hdouble).1
    have hstarts := (jsonText_starts hvalue (hex || key.any isNumbered)).append (125 :: rest)
    rw [jsonTextDictionary, List.append_assoc, List.cons_append] at h
    obtain ⟨_, hfirst⟩ := parseMembers_eq_cons hstarts h
    obtain ⟨hplain, rfl⟩ := plain_of_read value hvalue (delimited_brace rest) hfirst
    have hlast := (parseMembers_last hstarts hfirst key).symm.trans h
    rw [tokensDictionary, tokensDictionary, List.append_nil, Plain]
    exact ⟨hplain, (Prod.mk.inj (Option.some.inj hlast)).2.symm⟩
  | (key, value) :: (key', value') :: dictionary, hex, fuel + 1, rest, _, _, hdouble, h => by
    obtain ⟨hvalue, hothers⟩ := Bool.or_eq_false_iff.mp hdouble
    obtain ⟨text, htext⟩ := jsonTextDictionary_quote (key', value') dictionary
      (hex || key.any isNumbered || setsHex (tokens value))
    have hstarts := (jsonText_starts hvalue (hex || key.any isNumbered)).append
      (44 :: (jsonTextDictionary (hex || key.any isNumbered || setsHex (tokens value)) ((key', value') :: dictionary) ++
        125 :: rest))
    rw [jsonTextDictionary_cons, List.append_assoc, List.cons_append, List.append_assoc, List.cons_append] at h
    obtain ⟨_, hfirst⟩ := parseMembers_eq_cons hstarts h
    obtain ⟨hplain, rfl⟩ := plain_of_read value hvalue (delimited_comma _) hfirst
    have hskip : skipWhitespace (34 :: (text ++ 125 :: rest)) = 34 :: (text ++ 125 :: rest) := rfl
    rw [parseMembers_cons hstarts hfirst, htext, List.cons_append, hskip, ← List.cons_append, ← htext] at h
    obtain ⟨⟨members, rest''⟩, hmembers, heq⟩ := Option.map_eq_some_iff.mp h
    obtain ⟨hdenote, rfl⟩ := Prod.mk.inj heq
    rw [(List.cons.inj hdenote).2] at hmembers
    obtain ⟨hplain', heq'⟩ := plain_of_readMembers ((key', value') :: dictionary) (List.cons_ne_nil _ _) hothers hmembers
    rw [tokensDictionary, Plain, plain_append]
    exact ⟨⟨hplain, hplain'⟩, heq'⟩

end

end Json

/-- Of an integer that is written after a control character escaped by its number, it is asked that
it is a single decimal digit. -/
def LateIntegersAreDigits (value : Value) : Prop :=
  ∀ before n after, tokens value = before ++ .integer n :: after →
    (∃ s, .string s ∈ before ∧ ∃ c ∈ s, isNumbered c = true) → 0 ≤ n ∧ n ≤ 9

theorem setsHex_iff (l : List Token) : setsHex l = true ↔ ∃ s, .string s ∈ l ∧ ∃ c ∈ s, isNumbered c = true := by
  rw [setsHex, List.any_eq_true]
  constructor
  · rintro ⟨token, htoken, hsets⟩
    cases token with
    | string s => exact ⟨s, htoken, List.any_eq_true.mp hsets⟩
    | integer n => cases hsets
  · rintro ⟨s, hs, hnumbered⟩
    exact ⟨.string s, hs, List.any_eq_true.mpr hnumbered⟩

theorem plain_iff (hex : Bool) (l : List Token) : Plain hex l ↔
    ∀ before n after, l = before ++ .integer n :: after → (hex || setsHex before) = true → 0 ≤ n ∧ n ≤ 9 := by
  constructor
  · rintro h before n after rfl
    exact ((plain_append hex before _).mp h).2.1
  · intro h
    induction l generalizing hex with
    | nil => trivial
    | cons token l ih =>
      have hrest : ∀ before n after, l = before ++ .integer n :: after →
          (hex || token.setsHex || setsHex before) = true → 0 ≤ n ∧ n ≤ 9 := fun before n after heq hsets => by
        refine h (token :: before) n after (by rw [heq]; rfl) ?_
        rw [setsHex, List.any_cons, ← Bool.or_assoc]
        exact hsets
      cases token with
      | string s => exact ih _ hrest
      | integer n =>
        refine ⟨fun hhex => h [] n l rfl (by rw [hhex]; rfl), ih hex fun before m after heq hsets => ?_⟩
        exact hrest before m after heq (by rwa [Token.setsHex, Bool.or_false])

theorem lateIntegersAreDigits_iff (value : Value) : LateIntegersAreDigits value ↔ Plain false (tokens value) := by
  rw [plain_iff]
  refine forall_congr' fun before => forall_congr' fun n => forall_congr' fun after => imp_congr_right fun _ => ?_
  rw [Bool.false_or, setsHex_iff]

/-- **The text of a value is one JSON value and denotes it**, if and only if every integer after a
numbered escape is a digit. -/
theorem parse_toJson_iff [DoubleFormat] {value : Value} (h : value.hasDouble = false) :
    Json.parse (toJson value) = some (denote value) ↔ LateIntegersAreDigits value := by
  have hend : Delimited [] := nofun
  have hskip : Json.skipWhitespace (toJson value) = jsonText false value ++ [] := by
    rw [toJson_eq, (Json.jsonText_starts h false).skipWhitespace_eq, List.append_nil]
  rw [lateIntegersAreDigits_iff, Json.parse, hskip]
  constructor
  · intro hparse
    obtain ⟨⟨json, rest⟩, hread, hrest⟩ := Option.bind_eq_some_iff.mp hparse
    dsimp only at hrest
    split_ifs at hrest
    rw [Option.some.inj hrest] at hread
    exact (Json.plain_of_read value h hend hread).1
  · intro hplain
    have hfuel : (jsonText false value).length ≤ (toJson value).length + 1 := by
      rw [toJson_eq]
      exact Nat.le_succ _
    rw [Json.parseValue_jsonText value h hplain hfuel hend]
    rfl

/-! ### Runs -/

@[reducible] def zeroFormat : DoubleFormat := ⟨fun _ => ascii "0"⟩

/-- A control character before an integer of two digits, and after it. -/
def controlThenTen : Value := .values [.string [1], .int64 10]
def tenThenControl : Value := .values [.int64 10, .string [1], .uint64 9]

theorem tenThenControl_denoted :
    @toJson zeroFormat tenThenControl = ascii "[10,\"\\u0001\",9]" ∧
      Json.parse (@toJson zeroFormat tenThenControl) = some (@denote zeroFormat tenThenControl) := by
  let format := zeroFormat
  refine ⟨rfl, (parse_toJson_iff rfl).mpr ((lateIntegersAreDigits_iff tenThenControl).mpr ?_)⟩
  exact ⟨nofun, fun _ => by decide, trivial⟩

theorem controlThenTen_not_denoted :
    controlThenTen.hasDouble = false ∧ @toJson zeroFormat controlThenTen = ascii "[\"\\u0001\",a]" ∧
      Json.parse (@toJson zeroFormat controlThenTen) ≠ some (@denote zeroFormat controlThenTen) := by
  have hnone : Json.parse (@toJson zeroFormat controlThenTen) = none := rfl
  refine ⟨rfl, rfl, fun h => ?_⟩
  rw [hnone] at h
  cases h

end Lightstep.Common

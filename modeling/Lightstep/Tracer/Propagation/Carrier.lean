import Mathlib.Data.Finmap
import Lightstep.Common.HexConversion

/-! Carriers of headers, and the baggage that travels in them.

A carrier is a list of headers, in the order in which it shows them to a
callback; the callbacks here keep going until the first error. -/
namespace Lightstep.Tracer
open Common

/-- A name and a value. -/
abbrev Header := List UInt8 × List UInt8

abbrev KeyCompare := List UInt8 → List UInt8 → Bool

/-- How names are compared. -/
def keyCompare (caseSensitive : Bool) : KeyCompare := fun lhs rhs =>
  if caseSensitive then lhs == rhs else iequals lhs rhs

structure TextMapReader where
  headers : List Header
  lookupKey : List UInt8 → Expected (List UInt8)

structure TextMapWriter (σ : Type) where
  set : List UInt8 → List UInt8 → σ → Expected σ

/-- Puts a header in place of the one of its name, or at the end. -/
def setHeader (same : KeyCompare) (key value : List UInt8) : List Header → List Header
  | [] => [(key, value)]
  | header :: rest =>
    if same header.1 key then (header.1, value) :: rest else header :: setHeader same key value rest

/-- A map of headers as a writer. -/
def mapWriter (same : KeyCompare) : TextMapWriter (List Header) :=
  ⟨fun key value headers => .ok (setHeader same key value headers)⟩

/-- The carrier's own lookup, or the first header of the name where it has none. -/
def lookupKey (carrier : TextMapReader) (key : List UInt8) (compare : KeyCompare) : Expected (List UInt8) :=
  match carrier.lookupKey key with
  | .ok value => .ok value
  | .error .lookupKeyNotSupported =>
    match carrier.headers.find? fun header => compare header.1 key with
    | some header => .ok header.2
    | none => .error .keyNotFound
  | .error error => .error error

/-- Under a new name a header goes to the end. -/
theorem setHeader_of_fresh {same : KeyCompare} {key : List UInt8} {headers : List Header}
    (h : ∀ header ∈ headers, ¬ same header.1 key = true) (value : List UInt8) :
    setHeader same key value headers = headers ++ [(key, value)] := by
  induction headers with
  | nil => rfl
  | cons header rest ih =>
    rw [setHeader, if_neg (h header (List.mem_cons_self ..)), ih fun x hx => h x (List.mem_cons_of_mem header hx)]
    rfl

/-- A map filled with items of different keys has just these. -/
theorem foldl_setHeader {written items : List Header} (h : ((written ++ items).map Prod.fst).Nodup) :
    items.foldl (fun written item => setHeader (· == ·) item.1 item.2 written) written = written ++ items := by
  induction items generalizing written with
  | nil => rw [List.append_nil]; rfl
  | cons item rest ih =>
    have hfresh : ∀ header ∈ written, ¬ (header.1 == item.1) = true := fun header hheader heq => by
      rw [List.map_append] at h
      exact (List.nodup_append.mp h).2.2 _ (List.mem_map_of_mem hheader) _ (List.mem_map_of_mem (List.mem_cons_self ..))
        (beq_iff_eq.mp heq)
    have happend : written ++ item :: rest = written ++ [item] ++ rest := List.append_cons ..
    rw [happend] at h ⊢
    rw [List.foldl_cons, setHeader_of_fresh hfresh]
    exact ih h

/-! ### Baggage -/

def prefixBaggage : List UInt8 := ascii "ot-baggage-"

/-- An unordered map, as protobuf has them. -/
abbrev BaggageProtobufMap := Finmap fun _ : List UInt8 => List UInt8

/-- `Map::insert` keeps what is there. -/
def insertBaggage (key value : List UInt8) (baggage : BaggageProtobufMap) : BaggageProtobufMap :=
  if key ∈ baggage then baggage else baggage.insert key value

/-- Inserts what comes under the prefix of baggage. -/
def readBaggage (baggagePrefix : List UInt8) (compare : KeyCompare) (header : Header) (baggage : BaggageProtobufMap) :
    BaggageProtobufMap :=
  if header.1.length > baggagePrefix.length ∧ compare (header.1.take baggagePrefix.length) baggagePrefix = true then
    insertBaggage (toLower (header.1.drop baggagePrefix.length)) header.2 baggage
  else baggage

theorem insertBaggage_comm {key key' : List UInt8} (h : key ≠ key') (value value' : List UInt8)
    (baggage : BaggageProtobufMap) :
    insertBaggage key value (insertBaggage key' value' baggage) =
      insertBaggage key' value' (insertBaggage key value baggage) := by
  unfold insertBaggage
  by_cases hkey : key ∈ baggage <;> by_cases hkey' : key' ∈ baggage <;>
    simp [hkey, hkey', h, Ne.symm h, Finmap.insert_insert_of_ne baggage h]

end Lightstep.Tracer

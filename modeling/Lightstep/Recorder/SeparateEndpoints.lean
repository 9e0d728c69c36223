import Mathlib.Algebra.Order.Ring.Nat
import Mathlib.Algebra.Ring.Int.Defs
import Mathlib.Data.List.Forall2
import Mathlib.Data.List.TakeWhile
import Lightstep.Common.CaseOrder
import Lightstep.Common.Value
import Lightstep.Library.SortUnique

/-! Endpoints by host.

Hosts are compared as C strings and without regard to case. The hosts are sorted and
each is kept once, in one of its spellings; an endpoint becomes the place of its host,
which a binary search finds, with its port. -/
namespace Lightstep.Recorder
open Common Library

def lessThan (lhs rhs : List UInt8) : Bool := strCaseCmp lhs rhs < 0

def equalTo (lhs rhs : List UInt8) : Bool := strCaseCmp lhs rhs == 0

theorem lessThan_iff (lhs rhs : List UInt8) : lessThan lhs rhs = true ↔ caseless lhs < caseless rhs := by
  rw [lessThan, decide_eq_true_iff, (strCaseCmp_spec lhs rhs).1]

theorem equalTo_iff (lhs rhs : List UInt8) : equalTo lhs rhs = true ↔ caseless lhs = caseless rhs := by
  rw [equalTo, beq_iff_eq, (strCaseCmp_spec lhs rhs).2]

abbrev Endpoint := List UInt8 × UInt16

/-- `endpoint.first.c_str()`. -/
def Endpoint.cStr (endpoint : Endpoint) : List UInt8 := cStringView endpoint.1

/-- The conversion of a distance to `int`. -/
def distanceToInt (distance : Nat) : Int := (distance : Int).bmod (2 ^ 32)

def separatedHosts (std : SortAlgorithm (List UInt8)) (endpoints : List Endpoint) : List (List UInt8) :=
  unique equalTo (std.sort lessThan (endpoints.map Endpoint.cStr))

def separateEndpoints (std : SortAlgorithm (List UInt8)) (endpoints : List Endpoint) :
    List (List UInt8) × List (Int × UInt16) :=
  let hosts := separatedHosts std endpoints
  (hosts, endpoints.map fun endpoint => (distanceToInt (lowerBound (lessThan · endpoint.cStr) hosts), endpoint.2))

/-! ### The hosts -/

section
variable (std : SortAlgorithm (List UInt8)) (endpoints : List Endpoint)

theorem separatedHosts_strict : (separatedHosts std endpoints).Pairwise fun a b => caseless a < caseless b :=
  unique_sort_strict std lessThan_iff equalTo_iff _

theorem exists_of_mem_separatedHosts {host : List UInt8} (h : host ∈ separatedHosts std endpoints) :
    ∃ endpoint ∈ endpoints, endpoint.cStr = host :=
  List.mem_map.mp (mem_of_mem_unique_sort std lessThan_iff _ h)

theorem exists_mem_separatedHosts {endpoint : Endpoint} (h : endpoint ∈ endpoints) :
    ∃ host ∈ separatedHosts std endpoints, caseless host = caseless endpoint.cStr :=
  exists_mem_unique_sort std lessThan_iff equalTo_iff _ (List.mem_map_of_mem h)

/-- The number of hosts, where those that differ in case only count once. -/
def distinctHosts (endpoints : List Endpoint) : Nat := (endpoints.map fun endpoint => caseless endpoint.cStr).dedup.length

theorem length_separatedHosts : (separatedHosts std endpoints).length = distinctHosts endpoints := by
  rw [separatedHosts, length_unique_sort std lessThan_iff equalTo_iff, List.map_map, distinctHosts]
  congr!

theorem lowerBound_separatedHosts {endpoint : Endpoint} {host : List UInt8} {i : Nat}
    (hhost : (separatedHosts std endpoints)[i]? = some host) (hkey : caseless host = caseless endpoint.cStr) :
    lowerBound (lessThan · endpoint.cStr) (separatedHosts std endpoints) = i :=
  lowerBound_of_strict lessThan_iff (separatedHosts_strict std endpoints) hhost hkey

/-- The search ends at the host of the endpoint; the assertion holds. -/
theorem getElem?_lowerBound {endpoint : Endpoint} (h : endpoint ∈ endpoints) :
    ∃ host, (separatedHosts std endpoints)[lowerBound (lessThan · endpoint.cStr) (separatedHosts std endpoints)]? =
      some host ∧ caseless host = caseless endpoint.cStr := by
  obtain ⟨host, hmem, hkey⟩ := exists_mem_separatedHosts std endpoints h
  obtain ⟨i, hi⟩ := List.mem_iff_getElem?.mp hmem
  refine ⟨host, ?_, hkey⟩
  rw [lowerBound_separatedHosts std endpoints hi hkey]
  exact hi

end

theorem distanceToInt_of_lt {n : Nat} (h : n < 2 ^ 31) : distanceToInt n = n := by
  have hlow : -(((2 ^ 32 : Nat) : Int) / 2) ≤ n := by omega
  have hhigh : (n : Int) < (((2 ^ 32 : Nat) : Int) + 1) / 2 := by omega
  exact Int.bmod_eq_of_le hlow hhigh

theorem distanceToInt_two_pow : distanceToInt (2 ^ 31) = -2 ^ 31 := rfl

section
variable (std : SortAlgorithm (List UInt8)) {endpoints : List Endpoint} (hcount : distinctHosts endpoints ≤ 2 ^ 31)
include hcount

/-- An endpoint is indexed by a place where a spelling of its host is. -/
theorem exists_index_of_endpoint {endpoint : Endpoint} (h : endpoint ∈ endpoints) :
    ∃ i host, distanceToInt (lowerBound (lessThan · endpoint.cStr) (separatedHosts std endpoints)) = (i : Nat) ∧
      (separatedHosts std endpoints)[i]? = some host ∧ caseless host = caseless endpoint.cStr := by
  obtain ⟨host, hhost, hkey⟩ := getElem?_lowerBound std endpoints h
  have hlt := (List.getElem?_eq_some_iff.mp hhost).1
  rw [length_separatedHosts] at hlt
  exact ⟨_, host, distanceToInt_of_lt (Nat.lt_of_lt_of_le hlt hcount), hhost, hkey⟩

/-- A place of the hosts is the index of some endpoint. -/
theorem exists_endpoint_of_index {i : Nat} {host : List UInt8} (h : (separatedHosts std endpoints)[i]? = some host) :
    ∃ endpoint ∈ endpoints,
      distanceToInt (lowerBound (lessThan · endpoint.cStr) (separatedHosts std endpoints)) = (i : Nat) := by
  obtain ⟨hi, heq⟩ := List.getElem?_eq_some_iff.mp h
  obtain ⟨endpoint, hendpoint, hread⟩ := exists_of_mem_separatedHosts std endpoints (List.mem_of_getElem heq)
  have hplace := lowerBound_separatedHosts std endpoints h (congrArg caseless hread.symm)
  rw [length_separatedHosts] at hi
  exact ⟨endpoint, hendpoint, by rw [hplace, distanceToInt_of_lt (Nat.lt_of_lt_of_le hi hcount)]⟩

end

/-! ### What the separation is for -/

/-- The hosts and the endpoints with the places of their hosts stand for the endpoints. -/
structure Partitions (endpoints : List Endpoint) (separated : List (List UInt8) × List (Int × UInt16)) : Prop where
  sorted : separated.1.Pairwise fun a b => caseless a < caseless b
  distinct : separated.1.Pairwise fun a b => iequals a b = false
  occurs : ∀ host ∈ separated.1, ∃ endpoint ∈ endpoints, endpoint.1 = host
  covers : ∀ endpoint ∈ endpoints, ∃ host ∈ separated.1, iequals host endpoint.1 = true
  indexed : List.Forall₂ (fun (endpoint : Endpoint) (indexed : Int × UInt16) =>
    (∃ (i : Nat) (host : List UInt8), indexed.1 = i ∧ separated.1[i]? = some host ∧ iequals host endpoint.1 = true) ∧
      indexed.2 = endpoint.2) endpoints separated.2

/-- **The separation partitions the endpoints, with hosts read as C strings, by host.** -/
theorem separateEndpoints_partitions (std : SortAlgorithm (List UInt8)) (endpoints : List Endpoint)
    (hcount : distinctHosts endpoints ≤ 2 ^ 31) :
    Partitions (endpoints.map fun endpoint => (endpoint.cStr, endpoint.2)) (separateEndpoints std endpoints) where
  sorted := separatedHosts_strict std endpoints
  distinct := by
    refine (separatedHosts_strict std endpoints).imp fun hlt => ?_
    rw [← Bool.not_eq_true, iequals_of_caseless]
    exact ne_of_lt hlt
  occurs := by
    intro host hmem
    obtain ⟨endpoint, hendpoint, rfl⟩ := exists_of_mem_separatedHosts std endpoints hmem
    exact ⟨_, List.mem_map_of_mem hendpoint, rfl⟩
  covers := by
    intro read hread
    obtain ⟨endpoint, hendpoint, rfl⟩ := List.mem_map.mp hread
    obtain ⟨host, hmem, hkey⟩ := exists_mem_separatedHosts std endpoints hendpoint
    exact ⟨host, hmem, iequals_of_caseless.mpr hkey⟩
  indexed := by
    rw [separateEndpoints, List.forall₂_map_left_iff, List.forall₂_map_right_iff, List.forall₂_same]
    intro endpoint hendpoint
    obtain ⟨i, host, hint, hhost, hkey⟩ := exists_index_of_endpoint std hcount hendpoint
    dsimp only
    exact ⟨⟨i, host, hint, hhost, iequals_of_caseless.mpr hkey⟩, rfl⟩

def spelledTwice : List Endpoint := [(ascii "abc", 123), (ascii "xyz", 456), (ascii "ABC", 789)]

theorem spelledTwice_partitioned : Partitions spelledTwice (separateEndpoints .insertionSort spelledTwice) :=
  separateEndpoints_partitions .insertionSort spelledTwice (by decide)

/-! ### Hosts with null characters, and more hosts than an index can name -/

theorem Partitions.exists_index {endpoints : List Endpoint} {separated : List (List UInt8) × List (Int × UInt16)}
    (h : Partitions endpoints separated) : ∀ indexed ∈ separated.2, ∃ i : Nat, indexed.1 = i := by
  have hflip : List.Forall₂ (fun (indexed : Int × UInt16) (_ : Endpoint) => (∃ i : Nat, indexed.1 = i) ∧ True)
      separated.2 endpoints := by
    refine List.Forall₂.flip (h.indexed.imp fun endpoint indexed hindexed => ?_)
    obtain ⟨⟨i, _, hi, -⟩, -⟩ := hindexed
    exact ⟨⟨i, hi⟩, trivial⟩
  exact ((List.forall₂_and_left ..).mp hflip).1

/-- The host at the place of the smallest `int` has no index that is a place. -/
theorem not_partitions_of_lt (std : SortAlgorithm (List UInt8)) (endpoints read : List Endpoint)
    (hcount : 2 ^ 31 < distinctHosts endpoints) : ¬ Partitions read (separateEndpoints std endpoints) := by
  intro hpartitions
  rw [← length_separatedHosts std] at hcount
  have hhost := List.getElem?_eq_getElem hcount
  obtain ⟨endpoint, hmem, hread⟩ := exists_of_mem_separatedHosts std endpoints (List.getElem_mem hcount)
  have hplace := lowerBound_separatedHosts std endpoints hhost (congrArg caseless hread.symm)
  obtain ⟨i, hi⟩ := hpartitions.exists_index _ (List.mem_map_of_mem hmem)
  dsimp only at hi
  rw [hplace, distanceToInt_two_pow] at hi
  omega

theorem cStringView_decimal (n : Nat) : cStringView (decimal n) = decimal n := by
  refine List.takeWhile_eq_self_iff.mpr fun c hc => ?_
  have hdigit := isDigit_of_mem_decimal hc
  rw [bne_iff_ne]
  rintro rfl
  exact absurd hdigit (by decide)

def nullHost : List Endpoint := [([97, 0, 98], 1)]

/-- The numbers below `2 ^ 31`, and a host that comes after them in the order. -/
def manyHosts : List Endpoint := (ascii "z", 0) :: (List.range (2 ^ 31)).map fun n => (decimal n, 0)

theorem caseless_decimal (n : Nat) : caseless (cStringView (decimal n)) = (decimal n).map UInt8.toNat := by
  rw [cStringView_decimal, caseless, toLower_decimal]

theorem caseless_decimal_lt (n : Nat) : caseless (cStringView (decimal n)) < caseless (cStringView (ascii "z")) := by
  have hlast : caseless (cStringView (ascii "z")) = [122] := by decide
  rw [caseless_decimal, hlast]
  cases hdecimal : decimal n with
  | nil => exact List.nil_lt_cons ..
  | cons c rest =>
    have hmem : c ∈ decimal n := hdecimal ▸ List.mem_cons_self ..
    have hdigit : 48 ≤ c ∧ c ≤ 57 := by simpa [isDigit] using isDigit_of_mem_decimal hmem
    have hle : c.toNat ≤ 57 := UInt8.le_iff_toNat_le.mp hdigit.2
    exact List.cons_lt_cons_iff.mpr (Or.inl (Nat.lt_of_le_of_lt hle (by decide)))

theorem distinctHosts_manyHosts : distinctHosts manyHosts = 2 ^ 31 + 1 := by
  have hinjective : Function.Injective fun n : Nat => caseless (cStringView (decimal n)) := by
    intro n m h
    simp only [caseless_decimal] at h
    have heq := List.map_injective_iff.mpr (fun a b => UInt8.toNat_inj.mp) h
    rw [← decimalValue_decimal n, heq, decimalValue_decimal]
  have hnodup := (List.nodup_range (n := 2 ^ 31)).map hinjective
  have hlast : caseless (cStringView (ascii "z")) ∉
      (List.range (2 ^ 31)).map fun n => caseless (cStringView (decimal n)) := by
    intro hmem
    obtain ⟨n, -, hn⟩ := List.mem_map.mp hmem
    exact ne_of_lt (caseless_decimal_lt n) hn
  have hall := List.nodup_cons.mpr ⟨hlast, hnodup⟩
  rw [distinctHosts, manyHosts, List.map_cons, List.map_map]
  refine (congrArg List.length hall.dedup).trans ?_
  rw [List.length_cons, List.length_map, List.length_range]

/-- The last of the hosts is one too far for an `int`. -/
theorem lowerBound_manyHosts (std : SortAlgorithm (List UInt8)) :
    lowerBound (lessThan · (cStringView (ascii "z"))) (separatedHosts std manyHosts) = 2 ^ 31 := by
  obtain ⟨host, hhost, hkey⟩ := getElem?_lowerBound std manyHosts (List.mem_cons_self ..)
  obtain ⟨hplace, heq⟩ := List.getElem?_eq_some_iff.mp hhost
  have hlength : (separatedHosts std manyHosts).length = 2 ^ 31 + 1 := by
    rw [length_separatedHosts, distinctHosts_manyHosts]
  have hlast : 2 ^ 31 < (separatedHosts std manyHosts).length := by omega
  rcases Nat.lt_or_ge (lowerBound (lessThan · (cStringView (ascii "z"))) (separatedHosts std manyHosts)) (2 ^ 31)
    with hlt | hge
  · -- The host at the last place would come after the last host.
    have hafter := List.pairwise_iff_getElem.mp (separatedHosts_strict std manyHosts) _ _ hplace hlast hlt
    obtain ⟨endpoint, hendpoint, hread⟩ := exists_of_mem_separatedHosts std manyHosts (List.getElem_mem hlast)
    rw [← hread] at hafter
    rcases List.mem_cons.mp hendpoint with rfl | hmem
    · exact absurd hafter (heq ▸ hkey ▸ lt_irrefl _)
    · obtain ⟨n, -, rfl⟩ := List.mem_map.mp hmem
      exact absurd hafter (heq ▸ hkey ▸ lt_asymm (caseless_decimal_lt n))
  · have hle := hplace
    rw [hlength] at hle
    exact Nat.le_antisymm (Nat.le_of_lt_succ hle) hge

/-- A host is cut at its first null character, and the index of a host is narrowed to an `int`. -/
theorem not_all_partitioned : ¬ Partitions nullHost (separateEndpoints .insertionSort nullHost) ∧
    ¬ Partitions manyHosts (separateEndpoints .insertionSort manyHosts) := by
  constructor
  · intro hpartitions
    obtain ⟨host, hmem, hequal⟩ := hpartitions.covers _ (List.mem_singleton_self _)
    obtain ⟨endpoint, hendpoint, rfl⟩ := exists_of_mem_separatedHosts .insertionSort nullHost hmem
    rw [List.mem_singleton.mp hendpoint] at hequal
    exact absurd hequal (by decide)
  · exact not_partitions_of_lt .insertionSort manyHosts manyHosts (by rw [distinctHosts_manyHosts]; exact Nat.lt_succ_self _)

end Lightstep.Recorder

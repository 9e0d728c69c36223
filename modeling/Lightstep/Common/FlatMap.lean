import Mathlib.Data.Finmap
import Mathlib.Data.List.Lex
import Mathlib.Data.List.Sort
import Lightstep.Library.LowerBound

/-! A map built on top of a vector that is kept sorted by its keys. -/
namespace Lightstep.Common
open Library

namespace FlatMap
variable {K V : Type} {comp : K → K → Prop}

/-! ### The vector around a key -/

/-- A vector in three parts, those below and above a key, and `same`, its element if it has one. -/
structure Around (comp : K → K → Prop) (key : K) (below same above : List (K × V)) : Prop where
  below : ∀ x ∈ below, comp x.1 key
  same : same = [] ∨ ∃ value, same = [(key, value)]
  above : ∀ x ∈ above, comp key x.1

theorem Around.sorted {key : K} {below same above : List (K × V)} (h : Around comp key below same above)
    (hsorted : (below ++ (same ++ above)).Pairwise fun x y => comp x.1 y.1) (value : V) :
    (below ++ (key, value) :: above).Pairwise fun x y => comp x.1 y.1 := by
  rw [List.pairwise_append] at hsorted ⊢
  refine ⟨hsorted.1, ?_, fun x hx y hy => ?_⟩
  · exact List.pairwise_cons.mpr ⟨h.above, (List.pairwise_append.mp hsorted.2.1).2.1⟩
  · rcases List.mem_cons.mp hy with rfl | hy
    · exact h.below x hx
    · exact hsorted.2.2 x hx y (List.mem_append_right _ hy)

section
variable [IsStrictTotalOrder K comp] {key : K} {below same above : List (K × V)}

theorem Around.below_ne (h : Around comp key below same above) {x : K × V} (hx : x ∈ below) : x.1 ≠ key := by
  rintro rfl
  exact irrefl_of comp _ (h.below x hx)

theorem Around.above_ne (h : Around comp key below same above) {x : K × V} (hx : x ∈ above) : x.1 ≠ key := by
  rintro rfl
  exact irrefl_of comp _ (h.above x hx)

end

variable [DecidableRel comp]

/-- What is below a key comes first. -/
theorem split_below [IsTrans K comp] {data : List (K × V)} (h : data.Pairwise fun x y => comp x.1 y.1) (key : K) :
    ∃ below rest, data = below ++ rest ∧ (∀ x ∈ below, comp x.1 key) ∧ ∀ x ∈ rest, ¬ comp x.1 key := by
  induction data with
  | nil => exact ⟨[], [], rfl, by simp, by simp⟩
  | cons item data ih =>
    rw [List.pairwise_cons] at h
    by_cases hitem : comp item.1 key
    · obtain ⟨below, rest, rfl, hbelow, hrest⟩ := ih h.2
      exact ⟨item :: below, rest, rfl, List.forall_mem_cons.mpr ⟨hitem, hbelow⟩, hrest⟩
    · refine ⟨[], item :: data, rfl, by simp, List.forall_mem_cons.mpr ⟨hitem, fun x hx hkey => ?_⟩⟩
      exact hitem (trans_of comp (h.1 x hx) hkey)

theorem exists_around [IsStrictTotalOrder K comp] {data : List (K × V)}
    (h : data.Pairwise fun x y => comp x.1 y.1) (key : K) :
    ∃ below same above, data = below ++ (same ++ above) ∧ Around comp key below same above := by
  obtain ⟨below, rest, rfl, hbelow, hrest⟩ := split_below h key
  have hsorted := (List.pairwise_append.mp h).2.1
  cases rest with
  | nil => exact ⟨below, [], [], rfl, ⟨hbelow, .inl rfl, by simp⟩⟩
  | cons item rest =>
    rw [List.pairwise_cons] at hsorted
    have hitem := hrest item (List.mem_cons_self ..)
    rcases trichotomous_of comp item.1 key with hlt | heq | hgt
    · exact absurd hlt hitem
    · refine ⟨below, [item], rest, rfl, ⟨hbelow, .inr ⟨item.2, ?_⟩, fun x hx => ?_⟩⟩
      · rw [← heq]
      · rw [← heq]
        exact hsorted.1 x hx
    · refine ⟨below, [], item :: rest, rfl, ⟨hbelow, .inl rfl, List.forall_mem_cons.mpr ⟨hgt, fun x hx => ?_⟩⟩⟩
      exact trans_of comp hgt (hsorted.1 x hx)

/-! ### Assigning and finding -/

def lowerBound (comp : K → K → Prop) [DecidableRel comp] (key : K) (data : List (K × V)) : Nat :=
  Library.lowerBound (fun item => decide (comp item.1 key)) data

theorem Around.lowerBound_eq [IsStrictTotalOrder K comp] {key : K} {below same above : List (K × V)}
    (h : Around comp key below same above) : lowerBound comp key (below ++ (same ++ above)) = below.length := by
  refine lowerBound_append (fun x hx => decide_eq_true (h.below x hx)) (fun x hx hlt => ?_)
  have hlt : comp x.1 key := of_decide_eq_true hlt
  rcases List.mem_append.mp hx with hsame | habove
  · rcases h.same with rfl | ⟨value, rfl⟩
    · cases hsame
    · rw [List.mem_singleton.mp hsame] at hlt
      exact irrefl_of comp key hlt
  · exact asymm_of comp hlt (h.above x habove)

variable [DecidableEq K]

/-- The vector afterwards, and the place of the element that was written. -/
def assign (comp : K → K → Prop) [DecidableRel comp] (key : K) (value : V) (data : List (K × V)) :
    List (K × V) × Nat :=
  let i := lowerBound comp key data
  match data.drop i with
  | [] => (data ++ [(key, value)], i)
  | item :: rest =>
    if item.1 = key then (data.take i ++ (item.1, value) :: rest, i)
    else (data.take i ++ (key, value) :: item :: rest, i)

/-- The element of a key; the source returns an iterator to it, or the end. -/
def lookup (comp : K → K → Prop) [DecidableRel comp] (key : K) (data : List (K × V)) : Option (K × V) :=
  match data[lowerBound comp key data]? with
  | none => none
  | some item => if item.1 = key then some item else none

variable [IsStrictTotalOrder K comp] {key : K} {below same above : List (K × V)}

/-- **An assignment replaces the element of the key**, or puts one where it belongs. -/
theorem Around.assign_eq (h : Around comp key below same above) (value : V) :
    assign comp key value (below ++ (same ++ above)) = (below ++ (key, value) :: above, below.length) := by
  rw [assign, h.lowerBound_eq]
  rcases h.same with rfl | ⟨old, rfl⟩
  · cases habove : above with
    | nil => simp
    | cons item rest =>
      have hne : ¬ item.1 = key := h.above_ne (habove ▸ List.mem_cons_self ..)
      simp [hne]
  · simp

theorem Around.lookup_eq (h : Around comp key below same above) :
    lookup comp key (below ++ (same ++ above)) = same.head? := by
  rw [lookup, h.lowerBound_eq, List.getElem?_append_right (Nat.le_refl _), Nat.sub_self]
  rcases h.same with rfl | ⟨value, rfl⟩
  · cases habove : above with
    | nil => rfl
    | cons item rest =>
      have hne : ¬ item.1 = key := h.above_ne (habove ▸ List.mem_cons_self ..)
      simp [hne]
  · simp

theorem sorted_assign {data : List (K × V)} (h : data.Pairwise fun x y => comp x.1 y.1) (key : K) (value : V) :
    (assign comp key value data).1.Pairwise fun x y => comp x.1 y.1 := by
  obtain ⟨below, same, above, rfl, haround⟩ := exists_around h key
  rw [haround.assign_eq]
  exact haround.sorted h value

end FlatMap

structure FlatMap (K V : Type) (comp : K → K → Prop) where
  data : List (K × V)
  sorted : data.Pairwise fun x y => comp x.1 y.1

namespace FlatMap
variable {K V : Type} {comp : K → K → Prop}

def empty : FlatMap K V comp := ⟨[], List.Pairwise.nil⟩

variable [DecidableRel comp] [DecidableEq K]

def find (key : K) (m : FlatMap K V comp) : Option (K × V) := lookup comp key m.data

variable [IsStrictTotalOrder K comp]

def insertOrAssign (key : K) (value : V) (m : FlatMap K V comp) : FlatMap K V comp × Nat :=
  (⟨(assign comp key value m.data).1, sorted_assign m.sorted key value⟩, (assign comp key value m.data).2)

/-! ### As a finite map -/

/-- A later item of the same key replaces the value. -/
def insertAll (items : List (K × V)) (m : Finmap fun _ : K => V) : Finmap fun _ : K => V :=
  items.foldl (fun m item => m.insert item.1 item.2) m

def toFinmap (m : FlatMap K V comp) : Finmap fun _ : K => V := insertAll m.data ∅

omit [DecidableRel comp] [IsStrictTotalOrder K comp] in
theorem insertAll_append (a b : List (K × V)) (m : Finmap fun _ : K => V) :
    insertAll (a ++ b) m = insertAll b (insertAll a m) := List.foldl_append ..

omit [DecidableRel comp] [IsStrictTotalOrder K comp] in
/-- Items of different keys may be inserted in any order. -/
theorem insertAll_perm {a b : List (K × V)} (h : a.Perm b) (hnodup : (a.map Prod.fst).Nodup)
    (m : Finmap fun _ : K => V) : insertAll a m = insertAll b m := by
  refine h.foldl_eq' (fun x hx y hy m => ?_) m
  by_cases hkey : x.1 = y.1
  · rw [List.inj_on_of_nodup_map hnodup hx hy hkey]
  · exact Finmap.insert_insert_of_ne m hkey

omit [DecidableRel comp] [IsStrictTotalOrder K comp] in
/-- An element of another key does not matter for what is inserted. -/
theorem insertAll_insert {key : K} {items : List (K × V)} (h : ∀ x ∈ items, x.1 ≠ key) (value : V)
    (m : Finmap fun _ : K => V) : insertAll items (m.insert key value) = (insertAll items m).insert key value := by
  induction items generalizing m with
  | nil => rfl
  | cons item rest ih =>
    have hne : key ≠ item.1 := Ne.symm (h item (List.mem_cons_self ..))
    have hrest := ih (fun x hx => h x (List.mem_cons_of_mem item hx)) (m.insert item.1 item.2)
    show insertAll rest ((m.insert key value).insert item.1 item.2) = _
    rw [Finmap.insert_insert_of_ne m hne]
    exact hrest

omit [DecidableRel comp] [IsStrictTotalOrder K comp] in
theorem lookup_insertAll {key : K} {items : List (K × V)} (h : ∀ x ∈ items, x.1 ≠ key)
    (m : Finmap fun _ : K => V) : (insertAll items m).lookup key = m.lookup key := by
  induction items generalizing m with
  | nil => rfl
  | cons item rest ih =>
    have hne : key ≠ item.1 := Ne.symm (h item (List.mem_cons_self ..))
    have hrest := ih (fun x hx => h x (List.mem_cons_of_mem item hx)) (m.insert item.1 item.2)
    exact hrest.trans (Finmap.lookup_insert_of_ne m hne)

omit [DecidableRel comp] [IsStrictTotalOrder K comp] in
theorem mem_insertAll {key : K} {items : List (K × V)} {m : Finmap fun _ : K => V} :
    key ∈ insertAll items m ↔ (∃ item ∈ items, item.1 = key) ∨ key ∈ m := by
  induction items generalizing m with
  | nil => simp [insertAll]
  | cons item rest ih =>
    have hrest := ih (m := m.insert item.1 item.2)
    rw [Finmap.mem_insert] at hrest
    refine hrest.trans ?_
    rw [List.exists_mem_cons_iff, eq_comm (a := key), or_left_comm, or_assoc]

/-- **Assigning is inserting** into the finite map. -/
theorem toFinmap_insertOrAssign (key : K) (value : V) (m : FlatMap K V comp) :
    (m.insertOrAssign key value).1.toFinmap = m.toFinmap.insert key value := by
  obtain ⟨below, same, above, hdata, haround⟩ := exists_around m.sorted key
  have hassign : (m.insertOrAssign key value).1.data = below ++ (key, value) :: above := by
    show (assign comp key value m.data).1 = _
    rw [hdata, haround.assign_eq]
  have habove : ∀ x ∈ above, x.1 ≠ key := fun x hx => haround.above_ne hx
  have hsame : (insertAll same (insertAll below ∅)).insert key value = (insertAll below ∅).insert key value := by
    rcases haround.same with rfl | ⟨old, rfl⟩
    · rfl
    · exact Finmap.insert_insert _
  calc insertAll (m.insertOrAssign key value).1.data ∅
      = insertAll above ((insertAll below ∅).insert key value) := by rw [hassign, insertAll_append]; rfl
    _ = insertAll above ((insertAll same (insertAll below ∅)).insert key value) := by rw [hsame]
    _ = (insertAll above (insertAll same (insertAll below ∅))).insert key value := insertAll_insert habove value _
    _ = (insertAll m.data ∅).insert key value := by rw [hdata, insertAll_append, insertAll_append]

/-- **Finding is looking up** in the finite map. -/
theorem find_eq_lookup (key : K) (m : FlatMap K V comp) : (m.find key).map Prod.snd = m.toFinmap.lookup key := by
  obtain ⟨below, same, above, hdata, haround⟩ := exists_around m.sorted key
  have habove : ∀ x ∈ above, x.1 ≠ key := fun x hx => haround.above_ne hx
  have hbelow : ∀ x ∈ below, x.1 ≠ key := fun x hx => haround.below_ne hx
  rw [find, hdata, haround.lookup_eq, toFinmap, hdata, insertAll_append, insertAll_append, lookup_insertAll habove]
  rcases haround.same with rfl | ⟨value, rfl⟩
  · exact (lookup_insertAll hbelow ∅).symm
  · exact (Finmap.lookup_insert (insertAll below ∅)).symm

/-- What is found has the key that was looked for. -/
theorem find_eq (key : K) (m : FlatMap K V comp) : m.find key = (m.toFinmap.lookup key).map (key, ·) := by
  rw [← find_eq_lookup]
  have hkey : ∀ item, m.find key = some item → (key, item.2) = item := by
    intro item hitem
    rw [find, FlatMap.lookup] at hitem
    split at hitem
    · cases hitem
    · split at hitem
      case isTrue heq =>
        cases hitem
        rw [← heq]
      case isFalse => cases hitem
  cases hfind : m.find key with
  | none => rfl
  | some item => exact congrArg some (hkey item hfind).symm

theorem mem_data_iff (item : K × V) (m : FlatMap K V comp) : item ∈ m.data ↔ m.find item.1 = some item := by
  obtain ⟨below, same, above, hdata, haround⟩ := exists_around m.sorted item.1
  rw [find, hdata, haround.lookup_eq]
  constructor
  · intro hitem
    rcases List.mem_append.mp hitem with hbelow | hitem
    · exact absurd rfl (haround.below_ne hbelow)
    · rcases List.mem_append.mp hitem with hsame | habove
      · rcases haround.same with rfl | ⟨value, rfl⟩
        · cases hsame
        · rw [List.mem_singleton.mp hsame]
          rfl
      · exact absurd rfl (haround.above_ne habove)
  · intro hhead
    exact List.mem_append_right _ (List.mem_append_left _ (List.mem_of_mem_head? hhead))

theorem mem_keys_iff (key : K) (m : FlatMap K V comp) : key ∈ m.data.map Prod.fst ↔ key ∈ m.toFinmap := by
  rw [← Finmap.lookup_isSome, ← find_eq_lookup, Option.isSome_map, Option.isSome_iff_exists, List.mem_map]
  constructor
  · rintro ⟨item, hitem, rfl⟩
    exact ⟨item, (mem_data_iff item m).mp hitem⟩
  · rintro ⟨item, hfind⟩
    have hkey : item.1 = key := by
      rw [find_eq, Option.map_eq_some_iff] at hfind
      obtain ⟨value, -, rfl⟩ := hfind
      rfl
    subst hkey
    exact ⟨item, (mem_data_iff item m).mpr hfind, rfl⟩

omit [DecidableRel comp] [DecidableEq K] in
theorem nodup_keys (m : FlatMap K V comp) : (m.data.map Prod.fst).Nodup := by
  rw [List.Nodup, List.pairwise_map]
  refine m.sorted.imp fun {x y} hlt heq => ?_
  rw [heq] at hlt
  exact irrefl_of comp _ hlt

/-- **Maps in which the same is found are the same**, however they were made. -/
theorem eq_of_toFinmap {a b : FlatMap K V comp} (h : a.toFinmap = b.toFinmap) : a = b := by
  have hdata : a.data = b.data := by
    have : Std.Irrefl fun x y : K × V => comp x.1 y.1 := ⟨fun x => irrefl_of comp x.1⟩
    have : Std.Antisymm fun x y : K × V => comp x.1 y.1 :=
      ⟨fun x y hxy hyx => absurd hyx (asymm_of comp hxy)⟩
    refine a.sorted.eq_of_mem_iff b.sorted fun item => ?_
    rw [mem_data_iff, mem_data_iff, find_eq, find_eq, h]
  obtain ⟨data, sorted⟩ := a
  subst hdata
  rfl

/-- An assignment does not matter for other keys. -/
theorem find_insertOrAssign_of_ne {key other : K} (h : other ≠ key) (value : V) (m : FlatMap K V comp) :
    (m.insertOrAssign key value).1.find other = m.find other := by
  rw [find_eq, find_eq, toFinmap_insertOrAssign, Finmap.lookup_insert_of_ne _ h]

/-- The place returned is that of the element assigned. -/
theorem getElem?_insertOrAssign (key : K) (value : V) (m : FlatMap K V comp) :
    (m.insertOrAssign key value).1.data[(m.insertOrAssign key value).2]? = some (key, value) := by
  obtain ⟨below, same, above, hdata, haround⟩ := exists_around m.sorted key
  show (assign comp key value m.data).1[(assign comp key value m.data).2]? = _
  rw [hdata, haround.assign_eq, List.getElem?_append_right (Nat.le_refl _), Nat.sub_self]
  rfl

/-! ### Runs -/

def insertOrAssignAll (calls : List (K × V)) (m : FlatMap K V comp) : FlatMap K V comp :=
  calls.foldl (fun m call => (m.insertOrAssign call.1 call.2).1) m

theorem toFinmap_insertOrAssignAll (calls : List (K × V)) (m : FlatMap K V comp) :
    (m.insertOrAssignAll calls).toFinmap = insertAll calls m.toFinmap := by
  induction calls generalizing m with
  | nil => rfl
  | cons call calls ih =>
    have hcall := toFinmap_insertOrAssign call.1 call.2 m
    exact (ih _).trans (congrArg (insertAll calls) hcall)

/-- The value that was assigned last. -/
theorem find_of_last (before after : List (K × V)) {key : K} (value : V) (h : ∀ call ∈ after, call.1 ≠ key)
    (m : FlatMap K V comp) : (m.insertOrAssignAll (before ++ (key, value) :: after)).find key = some (key, value) := by
  rw [find_eq, toFinmap_insertOrAssignAll, insertAll_append]
  have hlast : (insertAll after ((insertAll before m.toFinmap).insert key value)).lookup key = some value :=
    (lookup_insertAll h _).trans (Finmap.lookup_insert _)
  exact congrArg (Option.map _) hlast

theorem find_of_not_assigned {calls : List (K × V)} {key : K} (h : ∀ call ∈ calls, call.1 ≠ key)
    (m : FlatMap K V comp) : (m.insertOrAssignAll calls).find key = m.find key := by
  rw [find_eq, find_eq, toFinmap_insertOrAssignAll, lookup_insertAll h]

/-- The keys are those that were assigned. -/
theorem mem_keys_insertOrAssignAll (calls : List (K × V)) (key : K) :
    key ∈ ((empty : FlatMap K V comp).insertOrAssignAll calls).data.map Prod.fst ↔ ∃ call ∈ calls, call.1 = key := by
  rw [mem_keys_iff, toFinmap_insertOrAssignAll, mem_insertAll]
  exact or_iff_left Finmap.notMem_empty

end FlatMap
end Lightstep.Common

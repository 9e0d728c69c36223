import Mathlib.Algebra.BigOperators.Group.Multiset.Basic
import Mathlib.Tactic.Abel

/-! Ledgers: items that are offered, kept until a batch takes them, and sent in batches.

A batch flies until it is delivered or lost. What is rejected or lost is a debt,
and a batch reports the debt it takes when it is opened; a batch that is lost
leaves the debt it was to report beside its own items. Nothing is kept in any
order. A ledger is balanced: every item offered is in one place, and every loss
is owed, under way or reported once. -/
namespace Lightstep.Library

structure Batch (α : Type) where
  items : Multiset α
  reported : Nat

@[ext]
structure Ledger (α : Type) where
  offered : Multiset α
  undecided : Multiset α
  pending : Multiset α
  rejected : Multiset α
  flying : Multiset (Batch α)
  delivered : Multiset (Batch α)
  lost : Multiset (Batch α)
  debt : Nat

namespace Ledger
variable {α : Type}

def empty : Ledger α := ⟨0, 0, 0, 0, 0, 0, 0, 0⟩

/-- The items of some batches. -/
def items (batches : Multiset (Batch α)) : Multiset α := (batches.map Batch.items).sum

/-- The losses that some batches report. -/
def reported (batches : Multiset (Batch α)) : Nat := (batches.map Batch.reported).sum

@[simp] theorem items_zero : items (0 : Multiset (Batch α)) = 0 := rfl

@[simp] theorem items_cons (b : Batch α) (batches : Multiset (Batch α)) :
    items (b ::ₘ batches) = b.items + items batches := by
  rw [items, Multiset.map_cons, Multiset.sum_cons]
  rfl

@[simp] theorem reported_zero : reported (0 : Multiset (Batch α)) = 0 := rfl

@[simp] theorem reported_cons (b : Batch α) (batches : Multiset (Batch α)) :
    reported (b ::ₘ batches) = b.reported + reported batches := by
  rw [reported, Multiset.map_cons, Multiset.sum_cons]
  rfl

/-- Batches that come in an order, and whose items do. -/
theorem items_coe_map {β : Type} {batch : β → Batch α} {entries : β → List α}
    (h : ∀ b, (batch b).items = (↑(entries b) : Multiset α)) (l : List β) :
    items (↑(l.map batch) : Multiset (Batch α)) = (↑(l.flatMap entries) : Multiset α) := by
  induction l with
  | nil => rfl
  | cons b rest ih =>
    rw [List.map_cons, ← Multiset.cons_coe, items_cons, ih, List.flatMap_cons, ← Multiset.coe_add, h b]

theorem reported_coe_map {β : Type} {batch : β → Batch α} {debt : β → Nat} (h : ∀ b, (batch b).reported = debt b)
    (l : List β) : reported (↑(l.map batch) : Multiset (Batch α)) = (l.map debt).sum := by
  induction l with
  | nil => rfl
  | cons b rest ih => rw [List.map_cons, ← Multiset.cons_coe, reported_cons, ih, List.map_cons, List.sum_cons, h b]

/-- What may happen to a ledger. -/
inductive Step : Ledger α → Ledger α → Prop where
  | offer (l : Ledger α) (x : α) :
    Step l {l with offered := x ::ₘ l.offered, undecided := x ::ₘ l.undecided}
  | accept (l : Ledger α) {x : α} {undecided : Multiset α} (h : l.undecided = x ::ₘ undecided) :
    Step l {l with undecided := undecided, pending := x ::ₘ l.pending}
  | reject (l : Ledger α) {x : α} {undecided : Multiset α} (h : l.undecided = x ::ₘ undecided) :
    Step l {l with undecided := undecided, rejected := x ::ₘ l.rejected, debt := l.debt + 1}
  | open (l : Ledger α) {taken debt : Nat} (hdebt : l.debt = taken + debt) :
    Step l {l with flying := ⟨0, taken⟩ ::ₘ l.flying, debt := debt}
  | load (l : Ledger α) {loaded pending : Multiset α} {b : Batch α} {flying : Multiset (Batch α)}
    (hpending : l.pending = loaded + pending) (hflying : l.flying = b ::ₘ flying) :
    Step l {l with pending := pending, flying := ⟨b.items + loaded, b.reported⟩ ::ₘ flying}
  | discard (l : Ledger α) {flying : Multiset (Batch α)} (hflying : l.flying = ⟨0, 0⟩ ::ₘ flying) :
    Step l {l with flying := flying}
  | deliver (l : Ledger α) {b : Batch α} {flying : Multiset (Batch α)} (hflying : l.flying = b ::ₘ flying) :
    Step l {l with flying := flying, delivered := b ::ₘ l.delivered}
  | lose (l : Ledger α) {b : Batch α} {flying : Multiset (Batch α)} (hflying : l.flying = b ::ₘ flying) :
    Step l {l with flying := flying, lost := b ::ₘ l.lost, debt := l.debt + b.reported + b.items.card}

/-- Any number of steps. -/
abbrev Steps : Ledger α → Ledger α → Prop := Relation.ReflTransGen Step

structure Balanced (l : Ledger α) : Prop where
  items : l.offered =
    l.undecided + l.pending + items l.flying + items l.delivered + items l.lost + l.rejected
  losses : l.debt + reported l.flying + reported l.delivered = l.rejected.card + (Ledger.items l.lost).card

theorem empty_balanced : (empty : Ledger α).Balanced := ⟨rfl, rfl⟩

theorem Step.balanced {l l' : Ledger α} (hstep : Step l l') (h : l.Balanced) : l'.Balanced := by
  obtain ⟨hitems, hlosses⟩ := h
  cases hstep with
  | offer x =>
    refine ⟨?_, hlosses⟩
    show x ::ₘ l.offered = _
    rw [hitems]
    simp only [← Multiset.singleton_add]
    abel
  | accept hu =>
    refine ⟨?_, hlosses⟩
    show l.offered = _
    rw [hitems, hu]
    simp only [← Multiset.singleton_add]
    abel
  | reject hu =>
    refine ⟨?_, ?_⟩
    · show l.offered = _
      rw [hitems, hu]
      simp only [← Multiset.singleton_add]
      abel
    · simp only [Multiset.card_cons]
      omega
  | «open» hdebt =>
    refine ⟨?_, ?_⟩
    · simpa using hitems
    · simp only [reported_cons]
      omega
  | load hpending hflying =>
    refine ⟨?_, ?_⟩
    · show l.offered = _
      rw [hitems, hpending, hflying]
      simp only [items_cons]
      abel
    · simp only [hflying, reported_cons] at hlosses ⊢
      exact hlosses
  | discard hflying =>
    refine ⟨?_, ?_⟩
    · show l.offered = _
      rw [hitems, hflying]
      simp only [items_cons, zero_add]
    · simp only [hflying, reported_cons] at hlosses ⊢
      omega
  | deliver hflying =>
    refine ⟨?_, ?_⟩
    · show l.offered = _
      rw [hitems, hflying]
      simp only [items_cons]
      abel
    · simp only [hflying, reported_cons] at hlosses ⊢
      omega
  | lose hflying =>
    refine ⟨?_, ?_⟩
    · show l.offered = _
      rw [hitems, hflying]
      simp only [items_cons]
      abel
    · simp only [hflying, reported_cons, items_cons, Multiset.card_add] at hlosses ⊢
      omega

theorem Steps.of_eq {l l' : Ledger α} (h : l = l') : Steps l l' := h ▸ .refl

theorem Steps.single_eq {l l' l'' : Ledger α} (hstep : Step l l') (h : l' = l'') : Steps l l'' := h ▸ .single hstep

theorem Steps.balanced {l l' : Ledger α} (hsteps : Steps l l') (h : l.Balanced) : l'.Balanced := by
  induction hsteps with
  | refl => exact h
  | tail _ hstep ih => exact hstep.balanced ih

/-- A batch that takes all that is pending. -/
theorem Steps.hand (l : Ledger α) :
    Steps l {l with pending := 0, flying := ⟨l.pending, l.debt⟩ ::ₘ l.flying, debt := 0} := by
  have hload : Step {l with flying := ⟨0, l.debt⟩ ::ₘ l.flying, debt := 0}
      {l with pending := 0, flying := ⟨0 + l.pending, l.debt⟩ ::ₘ l.flying, debt := 0} :=
    .load {l with flying := ⟨0, l.debt⟩ ::ₘ l.flying, debt := 0} (add_zero l.pending).symm rfl
  rw [zero_add] at hload
  exact Relation.ReflTransGen.tail (.single (.open l (Nat.add_zero l.debt).symm)) hload

/-- An item that is decided at once. -/
theorem Steps.enter (l : Ledger α) (x : α) :
    Steps l {l with offered := x ::ₘ l.offered, pending := x ::ₘ l.pending} :=
  Relation.ReflTransGen.tail (.single (.offer l x))
    (.accept {l with offered := x ::ₘ l.offered, undecided := x ::ₘ l.undecided} rfl)

theorem Steps.refuse (l : Ledger α) (x : α) :
    Steps l {l with offered := x ::ₘ l.offered, rejected := x ::ₘ l.rejected, debt := l.debt + 1} :=
  Relation.ReflTransGen.tail (.single (.offer l x))
    (.reject {l with offered := x ::ₘ l.offered, undecided := x ::ₘ l.undecided} rfl)

end Ledger
end Lightstep.Library

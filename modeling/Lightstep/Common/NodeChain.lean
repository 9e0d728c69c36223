import Mathlib.Algebra.Order.Ring.Nat
import Mathlib.Algebra.Ring.Int.Defs
import Mathlib.Data.List.Perm.Basic
import Lightstep.Common.ComposableFragmentInputStream
import Lightstep.Common.FragmentArrayInputStream
import Lightstep.Library.Machine

/-! The nodes of composable streams, and how `Append` links them.

A node caches the root of what was appended to it last. Where that was appended to an inner node of the
chain since, or was a chain itself, the cache is not the tail of the chain, but a node on the way there,
and `Append` goes on from it. -/
namespace Lightstep.Common
open Library FragmentInputStream

structure Node (S : Type) where
  segment : S
  next : Option Nat
  last : Option Nat

namespace Node
variable {S : Type}

/-- `Append` on a node. The first argument bounds its recursion; a `last_` that is null fails it. -/
def append : Nat → List (Node S) → Nat → Nat → Option (List (Node S))
  | 0, _, _, _ => none
  | fuel + 1, nodes, this, stream =>
    nodes[this]?.bind fun node =>
      match node.next with
      | none => some (nodes.set this {node with next := some stream, last := some stream})
      | some _ =>
        node.last.bind fun prevLast => append fuel (nodes.set this {node with last := some stream}) prevLast stream

theorem append_of_none {fuel : Nat} {nodes : List (Node S)} {this stream : Nat} {node : Node S}
    (hnode : nodes[this]? = some node) (hnext : node.next = none) :
    append (fuel + 1) nodes this stream =
      some (nodes.set this {node with next := some stream, last := some stream}) := by
  simp [append, hnode, hnext]

theorem append_of_some {fuel : Nat} {nodes : List (Node S)} {this stream following : Nat} {node : Node S}
    (hnode : nodes[this]? = some node) (hnext : node.next = some following) :
    append (fuel + 1) nodes this stream =
      node.last.bind fun prevLast => append fuel (nodes.set this {node with last := some stream}) prevLast stream := by
  simp [append, hnode, hnext]

/-- The nodes that a loop along the `next_` links passes. The first argument bounds their number. -/
def along : Nat → List (Node S) → Option Nat → Option (List Nat)
  | 0, _, _ => none
  | _ + 1, _, none => some []
  | fuel + 1, nodes, some this =>
    nodes[this]?.bind fun node => (along fuel nodes node.next).map fun rest => this :: rest

/-- The segments of some nodes. -/
def segments (nodes : List (Node S)) (chain : List Nat) : List S := chain.filterMap fun id => nodes[id]?.map segment

/-! ### Chains -/

/-- The nodes of a chain from one of them on. The cache of a node that is not the tail is one of those
after it. -/
inductive Linked (nodes : List (Node S)) : List Nat → Prop where
  | tail {id : Nat} {node : Node S} (hnode : nodes[id]? = some node) (hnext : node.next = none) : Linked nodes [id]
  | cons {id following last : Nat} {rest : List Nat} {node : Node S} (hnode : nodes[id]? = some node)
      (hnext : node.next = some following) (hlast : node.last = some last) (hmem : last ∈ following :: rest)
      (h : Linked nodes (following :: rest)) : Linked nodes (id :: following :: rest)

theorem Linked.congr {nodes nodes' : List (Node S)} {chain : List Nat} (h : Linked nodes chain)
    (hframe : ∀ id ∈ chain, nodes'[id]? = nodes[id]?) : Linked nodes' chain := by
  induction h with
  | tail hnode hnext => exact .tail ((hframe _ (List.mem_cons_self ..)).trans hnode) hnext
  | cons hnode hnext hlast hmem _ ih =>
    exact .cons ((hframe _ (List.mem_cons_self ..)).trans hnode) hnext hlast hmem
      (ih fun id hid => hframe id (List.mem_cons_of_mem _ hid))

theorem Linked.ne_nil {nodes : List (Node S)} {chain : List Nat} (h : Linked nodes chain) : chain ≠ [] := by
  cases h with
  | tail => exact List.cons_ne_nil _ _
  | cons => exact List.cons_ne_nil _ _

theorem Linked.lt_length {nodes : List (Node S)} {chain : List Nat} (h : Linked nodes chain) :
    ∀ id ∈ chain, id < nodes.length := by
  induction h with
  | tail hnode _ =>
    intro id hid
    rw [List.mem_singleton.mp hid]
    exact (List.getElem?_eq_some_iff.mp hnode).1
  | cons hnode _ _ _ _ ih =>
    intro id hid
    rcases List.mem_cons.mp hid with rfl | hid
    · exact (List.getElem?_eq_some_iff.mp hnode).1
    · exact ih id hid

/-- A chain from any of its nodes on. -/
theorem Linked.suffix {nodes : List (Node S)} {before chain : List Nat} (h : Linked nodes (before ++ chain))
    (hne : chain ≠ []) : Linked nodes chain := by
  induction before with
  | nil => exact h
  | cons id before ih =>
    cases hrest : before ++ chain with
    | nil => exact absurd (List.append_eq_nil_iff.mp hrest).2 hne
    | cons following rest =>
      rw [List.cons_append, hrest] at h
      cases h with
      | cons _ _ _ _ h => exact ih (hrest ▸ h)

/-- A chain whose nodes from one on have come to be linked further. -/
theorem Linked.extend {nodes nodes' : List (Node S)} {before : List Nat} {this : Nat} {rest more : List Nat}
    (h : Linked nodes (before ++ this :: rest)) (hsuffix : Linked nodes' (this :: rest ++ more))
    (hframe : ∀ id ∈ before, nodes'[id]? = nodes[id]?) : Linked nodes' (before ++ (this :: rest ++ more)) := by
  induction before with
  | nil => exact hsuffix
  | cons id before ih =>
    cases hrest : before ++ this :: rest with
    | nil => exact absurd (List.append_eq_nil_iff.mp hrest).2 (List.cons_ne_nil _ _)
    | cons following after =>
      rw [List.cons_append, hrest] at h
      cases h with
      | cons hnode hnext hlast hmem h =>
        have htail := ih (hrest ▸ h) fun id hid => hframe id (List.mem_cons_of_mem _ hid)
        have hsplit : before ++ (this :: rest ++ more) = following :: (after ++ more) := by
          rw [← List.append_assoc, hrest, List.cons_append]
        rw [List.cons_append, hsplit]
        rw [hsplit] at htail
        refine .cons ((hframe id (List.mem_cons_self ..)).trans hnode) hnext hlast ?_ htail
        rw [← List.cons_append]
        exact List.mem_append_left _ hmem

/-- What `Append` leaves of the nodes: their segments and the links they have. -/
structure Keeps (nodes nodes' : List (Node S)) : Prop where
  length : nodes'.length = nodes.length
  segment : ∀ id : Nat, nodes'[id]?.map segment = nodes[id]?.map segment
  next : ∀ (id : Nat) (node : Node S) (following : Nat), nodes[id]? = some node → node.next = some following →
    ∃ node', nodes'[id]? = some node' ∧ node'.next = some following

theorem Keeps.trans {a b c : List (Node S)} (hab : Keeps a b) (hbc : Keeps b c) : Keeps a c where
  length := hbc.length.trans hab.length
  segment id := (hbc.segment id).trans (hab.segment id)
  next id node following hnode hnext := by
    obtain ⟨node', hnode', hnext'⟩ := hab.next id node following hnode hnext
    exact hbc.next id node' following hnode' hnext'

theorem keeps_set {nodes : List (Node S)} {this : Nat} {node node' : Node S} (hnode : nodes[this]? = some node)
    (hsegment : node'.segment = node.segment)
    (hnext : ∀ following, node.next = some following → node'.next = some following) :
    Keeps nodes (nodes.set this node') := by
  have hlt := (List.getElem?_eq_some_iff.mp hnode).1
  refine ⟨List.length_set, fun id => ?_, fun id old following hid hfollowing => ?_⟩
  · by_cases heq : this = id
    · subst heq
      rw [List.getElem?_set_self hlt, hnode, Option.map_some, Option.map_some, hsegment]
    · rw [List.getElem?_set_ne heq]
  · by_cases heq : this = id
    · subst heq
      obtain rfl := Option.some.inj (hnode.symm.trans hid)
      exact ⟨node', List.getElem?_set_self hlt, hnext following hfollowing⟩
    · exact ⟨old, (List.getElem?_set_ne heq).trans hid, hfollowing⟩

/-- **No link is overwritten.** -/
theorem append_keeps {fuel : Nat} {nodes nodes' : List (Node S)} {this stream : Nat}
    (h : append fuel nodes this stream = some nodes') : Keeps nodes nodes' := by
  induction fuel generalizing nodes this with
  | zero => cases h
  | succ fuel ih =>
    obtain ⟨node, hnode, -⟩ := Option.bind_eq_some_iff.mp h
    cases hnext : node.next with
    | none =>
      rw [append_of_none hnode hnext] at h
      cases h
      exact keeps_set hnode rfl fun following hfollowing => by rw [hnext] at hfollowing; cases hfollowing
    | some following =>
      rw [append_of_some hnode hnext] at h
      obtain ⟨prevLast, -, h⟩ := Option.bind_eq_some_iff.mp h
      have hset : Keeps nodes (nodes.set this {node with last := some stream}) :=
        keeps_set hnode rfl fun _ hfollowing => hfollowing
      exact hset.trans (ih h)

/-- **Appending links the chains.** The recursion goes along the caches, each of which is further on, and ends
at the tail. -/
theorem append_linked {fuel : Nat} {nodes : List (Node S)} {this stream : Nat} {rest more : List Nat}
    (h : Linked nodes (this :: rest)) (hmore : Linked nodes (stream :: more))
    (hnodup : (this :: rest ++ stream :: more).Nodup) (hfuel : rest.length < fuel) :
    ∃ nodes', append fuel nodes this stream = some nodes' ∧ Linked nodes' (this :: rest ++ stream :: more) ∧
      ∀ id ∉ this :: rest, nodes'[id]? = nodes[id]? := by
  induction fuel generalizing nodes this rest with
  | zero => exact absurd hfuel (Nat.not_lt_zero _)
  | succ fuel ih =>
    have hthis : this ∉ rest ++ stream :: more := (List.nodup_cons.mp hnodup).1
    have hframe : ∀ (node : Node S), ∀ id ≠ this, (nodes.set this node)[id]? = nodes[id]? :=
      fun node id hid => List.getElem?_set_ne hid.symm
    cases h with
    | @tail _ node hnode hnext =>
      have hlt := (List.getElem?_eq_some_iff.mp hnode).1
      refine ⟨nodes.set this {node with next := some stream, last := some stream}, ?_, ?_, fun id hid => ?_⟩
      · exact append_of_none hnode hnext
      · refine .cons (List.getElem?_set_self hlt) rfl rfl (List.mem_cons_self ..) (hmore.congr fun id hid => ?_)
        exact hframe _ id fun heq => hthis (heq ▸ hid)
      · exact hframe _ id fun heq => hid (List.mem_singleton.mpr heq)
    | @cons _ following last rest node hnode hnext hlast hmem hrest =>
      have hlt := (List.getElem?_eq_some_iff.mp hnode).1
      obtain ⟨between, after, hsplit⟩ := List.append_of_mem hmem
      have hset : ∀ id ∈ following :: rest ++ stream :: more,
          (nodes.set this {node with last := some stream})[id]? = nodes[id]? :=
        fun id hid => hframe _ id fun heq => hthis (heq ▸ hid)
      have hrest' := hrest.congr fun id hid => hset id (List.mem_append_left _ hid)
      have hmore' := hmore.congr fun id hid => hset id (List.mem_append_right _ hid)
      have hnodup' : (between ++ (last :: after ++ stream :: more)).Nodup := by
        rw [← List.append_assoc, ← hsplit]
        exact (List.nodup_cons.mp hnodup).2
      obtain ⟨hbetween, hafter, hdisjoint⟩ := List.nodup_append.mp hnodup'
      have hlength := congrArg List.length hsplit
      rw [List.length_append, List.length_cons, List.length_cons] at hlength
      rw [List.length_cons] at hfuel
      rw [hsplit] at hrest'
      obtain ⟨nodes', happend, hlinked, hkept⟩ := ih (hrest'.suffix (List.cons_ne_nil _ _)) hmore' hafter (by omega)
      have hlast_ne : this ∉ last :: after := fun hid =>
        hthis (List.mem_append_left _ (hsplit ▸ List.mem_append_right between hid))
      have hall := hrest'.extend hlinked fun id hid => hkept id fun hid' =>
        hdisjoint id hid id (List.mem_append_left _ hid') rfl
      refine ⟨nodes', ?_, ?_, fun id hid => ?_⟩
      · rw [append_of_some hnode hnext, hlast]
        exact happend
      · have hjoin : between ++ (last :: after ++ stream :: more) = following :: (rest ++ stream :: more) := by
          rw [← List.append_assoc, ← hsplit, List.cons_append]
        rw [hjoin] at hall
        refine .cons ((hkept this hlast_ne).trans (List.getElem?_set_self hlt)) hnext rfl ?_ hall
        exact List.mem_cons_of_mem _ (List.mem_append_right _ (List.mem_cons_self ..))
      · have hne : id ≠ this := fun heq => hid (heq ▸ List.mem_cons_self ..)
        have hid' : id ∉ last :: after := fun hmem' =>
          hid (List.mem_cons_of_mem _ (hsplit ▸ List.mem_append_right between hmem'))
        exact (hkept id hid').trans (hframe _ id hne)

theorem Linked.along_eq {nodes : List (Node S)} {id : Nat} {rest : List Nat} (h : Linked nodes (id :: rest))
    {fuel : Nat} (hfuel : rest.length + 1 < fuel) : along fuel nodes (some id) = some (id :: rest) := by
  induction fuel generalizing id rest with
  | zero => exact absurd hfuel (Nat.not_lt_zero _)
  | succ fuel ih =>
    cases h with
    | tail hnode hnext =>
      obtain ⟨fuel, rfl⟩ := Nat.exists_eq_succ_of_ne_zero (by rw [List.length_nil] at hfuel; omega : fuel ≠ 0)
      simp [along, hnode, hnext]
    | cons hnode hnext _ _ hrest =>
      rw [List.length_cons] at hfuel
      simp [along, hnode, hnext, ih hrest (by omega)]

end Node

/-! ### Chains that are built by `Append` -/

/-- The nodes there are, and beside them the chains they should be in. The caller owns the root of each. -/
structure NodeChains (S : Type) where
  nodes : List (Node S)
  chains : List (List Nat)

/-- `Append` is called on a node of one chain, with the root of another. -/
inductive ChainEvent (S : Type) where
  | make (segment : S)
  | append (target position appended : Nat)

namespace NodeChains
variable {S : Type}

def empty : NodeChains S := ⟨[], []⟩

def make (segment : S) (s : NodeChains S) : NodeChains S :=
  ⟨s.nodes ++ [⟨segment, none, none⟩], s.chains ++ [[s.nodes.length]]⟩

def append (target position appended : Nat) (s : NodeChains S) : Option (NodeChains S) :=
  if target = appended then none
  else do
    let chain ← s.chains[target]?
    let added ← s.chains[appended]?
    let this ← chain[position]?
    let stream ← added.head?
    let nodes ← Node.append s.nodes.length s.nodes this stream
    return ⟨nodes, (s.chains.set target (chain ++ added)).eraseIdx appended⟩

def step (s : NodeChains S) : ChainEvent S → Option (NodeChains S)
  | .make segment => some (s.make segment)
  | .append target position appended => s.append target position appended

def machine (S : Type) : Machine (NodeChains S) (ChainEvent S) := ⟨step⟩

section
variable [FragmentInputStream S]

/-- `num_fragments` on the root of a chain. -/
def numFragments (s : NodeChains S) (root : Nat) : Option Nat :=
  (Node.along (s.nodes.length + 2) s.nodes (some root)).map fun chain =>
    ((Node.segments s.nodes chain).map FragmentInputStream.numFragments).sum

/-- `ForEachFragment` on the root of a chain. -/
def forEachFragment {σ : Type} (s : NodeChains S) (root : Nat) (callback : σ → Fragment → σ × Bool) (st : σ) :
    Option (σ × Bool) :=
  (Node.along (s.nodes.length + 2) s.nodes (some root)).map fun chain =>
    iterate (fun st segment => FragmentInputStream.forEachFragment segment callback st) st (Node.segments s.nodes chain)

end

structure Inv (s : NodeChains S) : Prop where
  linked : ∀ chain ∈ s.chains, Node.Linked s.nodes chain
  partition : s.chains.flatten.Perm (List.range s.nodes.length)

theorem make_inv {s : NodeChains S} (h : s.Inv) (segment : S) : (s.make segment).Inv where
  linked chain hchain := by
    rcases List.mem_append.mp hchain with hchain | hchain
    · refine (h.linked chain hchain).congr fun id hid => ?_
      exact List.getElem?_append_left ((h.linked chain hchain).lt_length id hid)
    · rw [List.mem_singleton.mp hchain]
      exact .tail List.getElem?_concat_length rfl
  partition := by
    simp only [make, List.flatten_append, List.flatten_singleton, List.length_append, List.length_singleton,
      List.range_succ]
    exact h.partition.append_right _

/-- What `Append` does to the chains, whatever their order. -/
theorem perm_append {chains : List (List Nat)} {target appended : Nat} {chain added : List Nat}
    (hne : target ≠ appended) (hchain : chains[target]? = some chain) (hadded : chains[appended]? = some added) :
    ∃ others, chains.Perm (chain :: added :: others) ∧
      ((chains.set target (chain ++ added)).eraseIdx appended).Perm ((chain ++ added) :: others) := by
  obtain ⟨htarget, hget⟩ := List.getElem?_eq_some_iff.mp hchain
  have hmem : added ∈ chains.eraseIdx target :=
    List.mem_eraseIdx_iff_getElem?.mpr ⟨appended, hne.symm, hadded⟩
  obtain ⟨before, after, hsplit⟩ := List.append_of_mem hmem
  have herase : (chains.eraseIdx target).Perm (added :: (before ++ after)) := hsplit ▸ List.perm_middle
  have hset : (chains.set target (chain ++ added))[appended]? = some added := by
    rw [List.getElem?_set_ne hne, hadded]
  obtain ⟨happended, hget'⟩ := List.getElem?_eq_some_iff.mp hset
  refine ⟨before ++ after, ?_, List.Perm.cons_inv (a := added) ?_⟩
  · have hall := List.getElem_cons_eraseIdx_perm htarget
    rw [hget] at hall
    exact hall.symm.trans (herase.cons chain)
  · have hall := List.getElem_cons_eraseIdx_perm happended
    rw [hget'] at hall
    exact hall.trans (((List.set_perm_cons_eraseIdx htarget _).trans (herase.cons _)).trans (List.Perm.swap ..))

/-- **A call of `Append` ends**, with the other chain behind the one it was called on. -/
theorem append_spec {s : NodeChains S} (h : s.Inv) {target position appended : Nat} {chain added : List Nat}
    (hne : target ≠ appended) (hchain : s.chains[target]? = some chain) (hadded : s.chains[appended]? = some added)
    (hposition : position < chain.length) :
    ∃ t, s.append target position appended = some t ∧ t.Inv ∧ Node.Keeps s.nodes t.nodes ∧
      t.chains = (s.chains.set target (chain ++ added)).eraseIdx appended := by
  have hlinked := h.linked chain (List.mem_of_getElem? hchain)
  have hlinked' := h.linked added (List.mem_of_getElem? hadded)
  obtain ⟨others, hperm, hperm'⟩ := perm_append hne hchain hadded
  have hnodup : (chain :: added :: others).flatten.Nodup :=
    hperm.flatten.nodup_iff.mp (h.partition.nodup_iff.mpr List.nodup_range)
  rw [List.flatten_cons, List.flatten_cons, ← List.append_assoc] at hnodup
  obtain ⟨hboth, -, hothers⟩ := List.nodup_append.mp hnodup
  obtain ⟨before, this, rest, hsplit, hthis⟩ : ∃ before this rest, chain = before ++ this :: rest ∧
      chain[position]? = some this :=
    ⟨chain.take position, chain[position], chain.drop (position + 1),
      by rw [← List.drop_eq_getElem_cons hposition, List.take_append_drop], List.getElem?_eq_getElem hposition⟩
  obtain ⟨stream, more, rfl⟩ := List.exists_cons_of_ne_nil hlinked'.ne_nil
  have hsuffix : Node.Linked s.nodes (this :: rest) := (hsplit ▸ hlinked).suffix (List.cons_ne_nil _ _)
  have hsuffix_nodup : (this :: rest ++ stream :: more).Nodup := by
    rw [hsplit, List.append_assoc] at hboth
    exact (List.nodup_append.mp hboth).2.1
  have hfuel : rest.length < s.nodes.length := by
    have hlength := h.partition.length_eq
    have hsub := congrArg List.length hsplit
    rw [hperm.flatten.length_eq, List.length_range, List.flatten_cons, List.length_append] at hlength
    rw [List.length_append, List.length_cons] at hsub
    omega
  obtain ⟨nodes', happend, hlinked_all, hframe⟩ := Node.append_linked hsuffix hlinked' hsuffix_nodup hfuel
  have hkeeps := Node.append_keeps happend
  refine ⟨⟨nodes', _⟩, ?_, ⟨?_, ?_⟩, hkeeps, rfl⟩
  · simp only [append, if_neg hne, hchain, hadded, hthis, List.head?_cons, happend, Option.bind_eq_bind,
      Option.bind_some, Option.pure_def]
  · intro c hc
    rcases List.mem_cons.mp (hperm'.mem_iff.mp hc) with rfl | hc
    · rw [hsplit, List.append_assoc]
      refine (hsplit ▸ hlinked).extend hlinked_all fun id hid => hframe id fun hid' => ?_
      rw [hsplit, List.append_assoc] at hboth
      exact (List.nodup_append.mp hboth).2.2 id hid id (List.mem_append_left _ hid') rfl
    · have hmem : c ∈ s.chains := hperm.mem_iff.mpr (List.mem_cons_of_mem _ (List.mem_cons_of_mem _ hc))
      refine (h.linked c hmem).congr fun id hid => hframe id fun hid' => ?_
      have hin : id ∈ chain ++ stream :: more :=
        List.mem_append_left _ (hsplit ▸ List.mem_append_right before hid')
      exact hothers id hin id (List.mem_flatten.mpr ⟨c, hc, hid⟩) rfl
  · show ((s.chains.set target (chain ++ stream :: more)).eraseIdx appended).flatten.Perm (List.range nodes'.length)
    have hjoin : ((chain ++ stream :: more) :: others).flatten = (chain :: (stream :: more) :: others).flatten := by
      rw [List.flatten_cons, List.flatten_cons, List.flatten_cons, List.append_assoc]
    rw [hkeeps.length]
    exact (hperm'.flatten.trans (hjoin ▸ hperm.flatten.symm)).trans h.partition

theorem inv_step (s : NodeChains S) (event : ChainEvent S) (t : NodeChains S) (h : s.Inv)
    (hstep : (machine S).step s event = some t) : t.Inv := by
  cases event with
  | make segment =>
    cases hstep
    exact make_inv h segment
  | append target position appended =>
    have happend : s.append target position appended = some t := hstep
    by_cases hne : target = appended
    · simp [append, hne] at happend
    · have hparts := happend
      simp only [append, if_neg hne, Option.bind_eq_bind, Option.bind_eq_some_iff] at hparts
      obtain ⟨chain, hchain, added, hadded, this, hthis, -⟩ := hparts
      obtain ⟨t', happend', hinv, -⟩ := append_spec h hne hchain hadded (List.getElem?_eq_some_iff.mp hthis).1
      obtain rfl := Option.some.inj (happend.symm.trans happend')
      exact hinv

theorem inv_empty : (empty : NodeChains S).Inv := ⟨fun _ hchain => absurd hchain List.not_mem_nil, .refl _⟩

theorem inv_run {events : List (ChainEvent S)} {s : NodeChains S} (hrun : (machine S).run empty events = some s) :
    s.Inv :=
  (machine S).run_invariant inv_step events _ s inv_empty hrun

/-- What a loop from the root of a chain passes. -/
theorem Inv.along_eq {s : NodeChains S} (h : s.Inv) {root : Nat} {rest : List Nat}
    (hchain : root :: rest ∈ s.chains) :
    Node.along (s.nodes.length + 2) s.nodes (some root) = some (root :: rest) := by
  apply (h.linked _ hchain).along_eq
  have hlength := h.partition.length_eq
  obtain ⟨before, after, hsplit⟩ := List.append_of_mem hchain
  rw [hsplit, List.flatten_append, List.flatten_cons, List.length_append, List.length_append, List.length_range,
    List.length_cons] at hlength
  omega

theorem segments_append {s t : NodeChains S} (hkeeps : Node.Keeps s.nodes t.nodes) (chain added : List Nat) :
    Node.segments t.nodes (chain ++ added) = Node.segments s.nodes chain ++ Node.segments s.nodes added := by
  have hsegments : ∀ c, Node.segments t.nodes c = Node.segments s.nodes c := fun c =>
    congrArg (fun f => List.filterMap f c) (funext hkeeps.segment)
  rw [hsegments, Node.segments, List.filterMap_append]
  rfl

variable [FragmentInputStream S]

/-- **Appending concatenates** and loses no node. Every chain is the stream of its nodes' segments in the order
in which they were appended, every node is in one chain, and a call of `Append` keeps every link there is. -/
theorem append_concatenates {events : List (ChainEvent S)} {s : NodeChains S}
    (hrun : (machine S).run empty events = some s) :
    (∀ root rest, root :: rest ∈ s.chains →
      Node.along (s.nodes.length + 2) s.nodes (some root) = some (root :: rest) ∧
      s.numFragments root = some (FragmentInputStream.numFragments
        (⟨Node.segments s.nodes (root :: rest)⟩ : ComposableFragmentInputStream S)) ∧
      ∀ (σ : Type) (callback : σ → Fragment → σ × Bool) (st : σ),
        s.forEachFragment root callback st = some (FragmentInputStream.forEachFragment
          (⟨Node.segments s.nodes (root :: rest)⟩ : ComposableFragmentInputStream S) callback st)) ∧
    s.chains.flatten.Perm (List.range s.nodes.length) ∧
    ∀ target position appended chain added, target ≠ appended → s.chains[target]? = some chain →
      s.chains[appended]? = some added → position < chain.length →
      ∃ t, (machine S).step s (.append target position appended) = some t ∧
        t.chains = (s.chains.set target (chain ++ added)).eraseIdx appended ∧
        Node.segments t.nodes (chain ++ added) = Node.segments s.nodes chain ++ Node.segments s.nodes added ∧
        ∀ (id : Nat) (node : Node S) (following : Nat), s.nodes[id]? = some node → node.next = some following →
          ∃ node', t.nodes[id]? = some node' ∧ node'.next = some following := by
  have h := inv_run hrun
  refine ⟨fun root rest hchain => ?_, h.partition, ?_⟩
  · have halong := h.along_eq hchain
    refine ⟨halong, ?_, fun σ callback st => ?_⟩
    · rw [numFragments, halong]
      rfl
    · rw [forEachFragment, halong]
      rfl
  · intro target position appended chain added hne hchain hadded hposition
    obtain ⟨t, happend, -, hkeeps, hchains⟩ := append_spec h hne hchain hadded hposition
    exact ⟨t, happend, hchains, segments_append hkeeps chain added, hkeeps.next⟩

/-- Two nodes behind one, then a chain of two that was built apart, then another node. -/
theorem append_concatenates_subchain : ∃ s, (machine FragmentArrayInputStream).run empty
      [.make (.ofFragments [[1]]), .make (.ofFragments [[2]]), .append 0 0 1, .make (.ofFragments [[3]]),
        .append 0 0 1, .make (.ofFragments [[4]]), .make (.ofFragments [[5]]), .append 1 0 2, .append 0 0 1,
        .make (.ofFragments [[6]]), .append 0 0 1] = some s ∧
    Node.along (s.nodes.length + 2) s.nodes (some 0) = some [0, 1, 2, 3, 4, 5] ∧
    s.numFragments 0 = some 6 := by
  have hbuilt : ∃ s, (machine FragmentArrayInputStream).run empty
      [.make (.ofFragments [[1]]), .make (.ofFragments [[2]]), .append 0 0 1, .make (.ofFragments [[3]]),
        .append 0 0 1, .make (.ofFragments [[4]]), .make (.ofFragments [[5]]), .append 1 0 2, .append 0 0 1,
        .make (.ofFragments [[6]]), .append 0 0 1] = some s ∧ s.chains = [[0, 1, 2, 3, 4, 5]] ∧
      FragmentInputStream.numFragments (⟨Node.segments s.nodes [0, 1, 2, 3, 4, 5]⟩ :
        ComposableFragmentInputStream FragmentArrayInputStream) = 6 := ⟨_, rfl, rfl, rfl⟩
  obtain ⟨s, hrun, hchains, hsix⟩ := hbuilt
  obtain ⟨halong, hcount, -⟩ := (append_concatenates hrun).1 0 [1, 2, 3, 4, 5] (hchains ▸ List.mem_singleton.mpr rfl)
  exact ⟨s, hrun, halong, hsix ▸ hcount⟩

end NodeChains
end Lightstep.Common

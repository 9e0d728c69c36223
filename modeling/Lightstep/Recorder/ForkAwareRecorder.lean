import Lightstep.Library.LinkedList
import Lightstep.Library.Machine
import Mathlib.Data.List.AList

/-! The recorders that a fork is announced to.

They form a list through the recorders themselves, the latest first. A recorder is known by its
address, which another may have after it. Kept beside the list is which handlers each recorder
was called with since it was constructed. -/
namespace Lightstep.Recorder
open Library

/-- What a fork calls: the first before it, and one of the others in each of the two processes. -/
inductive ForkHandler where
  | prepareForFork
  | onForkedParent
  | onForkedChild
  deriving DecidableEq

inductive ForkAwareEvent (P : Type) where
  | construct (recorder : P)
  | destroy (recorder : P)
  | handle (handler : ForkHandler)

structure ForkAwareRecorders (P : Type) where
  activeRecorders : Option P
  /-- The field of the recorders that exist. -/
  nextRecorder : AList fun _ : P => Option P
  called : P → List ForkHandler

namespace ForkAwareRecorders
variable {P : Type} [DecidableEq P]

def init : ForkAwareRecorders P := ⟨none, ∅, fun _ => []⟩

def next (s : ForkAwareRecorders P) (recorder : P) : Option (Option P) := s.nextRecorder.lookup recorder

/-- A bound on the rounds of a loop. -/
def numRecorders (s : ForkAwareRecorders P) : Nat := s.nextRecorder.keys.length

def construct (self : P) (s : ForkAwareRecorders P) : Option (ForkAwareRecorders P) :=
  match s.next self with
  | some _ => none
  | none =>
    some
      { activeRecorders := some self
        nextRecorder := s.nextRecorder.insert self s.activeRecorders
        called := Function.update s.called self [] }

def destroy (self : P) (s : ForkAwareRecorders P) : Option (ForkAwareRecorders P) := do
  let nextRecorder ← s.next self
  if s.activeRecorders = some self then
    return {s with activeRecorders := nextRecorder, nextRecorder := s.nextRecorder.erase self}
  else
    -- the assertion fails where there is no such recorder
    let recorder ← nodeBefore s.next self s.numRecorders s.activeRecorders
    return {s with nextRecorder := (s.nextRecorder.insert recorder nextRecorder).erase self}

def getActiveRecorders (s : ForkAwareRecorders P) : Option (List P) :=
  follow s.next (fun result recorder => result ++ [recorder]) s.numRecorders s.activeRecorders []

/-- `PrepareForkHandler`, `ParentForkHandler` and `ChildForkHandler`. -/
def forkHandler (handler : ForkHandler) (s : ForkAwareRecorders P) : Option (ForkAwareRecorders P) :=
  (follow s.next (fun called recorder => Function.update called recorder (called recorder ++ [handler]))
    s.numRecorders s.activeRecorders s.called).map fun called => {s with called := called}

def step (s : ForkAwareRecorders P) : ForkAwareEvent P → Option (ForkAwareRecorders P)
  | .construct recorder => s.construct recorder
  | .destroy recorder => s.destroy recorder
  | .handle handler => s.forkHandler handler

def machine (P : Type) [DecidableEq P] : Machine (ForkAwareRecorders P) (ForkAwareEvent P) := ⟨step⟩

end ForkAwareRecorders

/-! ### What the list is for -/

/-- The recorders that exist, the latest first, and what each was called with. -/
abbrev ForkRegistry (P : Type) := List (P × List ForkHandler)

namespace ForkRegistry
variable {P : Type} [DecidableEq P]

def recorders (r : ForkRegistry P) : List P := r.map Prod.fst

/-- A recorder is constructed where there is none, and every one that exists may be destroyed. -/
def step (r : ForkRegistry P) : ForkAwareEvent P → Option (ForkRegistry P)
  | .construct recorder => if recorder ∈ r.recorders then none else some ((recorder, []) :: r)
  | .destroy recorder => if recorder ∈ r.recorders then some (r.eraseP fun e => e.1 = recorder) else none
  | .handle handler => some (r.map fun e => (e.1, e.2 ++ [handler]))

def machine (P : Type) [DecidableEq P] : Machine (ForkRegistry P) (ForkAwareEvent P) := ⟨step⟩

end ForkRegistry

namespace ForkAwareRecorders
variable {P : Type} [DecidableEq P] {s : ForkAwareRecorders P} {r : ForkRegistry P} {p : P}

structure Represents (s : ForkAwareRecorders P) (r : ForkRegistry P) : Prop where
  linked : Linked s.next s.activeRecorders r.recorders
  existing : ∀ p, p ∈ s.nextRecorder ↔ p ∈ r.recorders
  called : ∀ e ∈ r, s.called e.1 = e.2

theorem init_represents : (init : ForkAwareRecorders P).Represents [] :=
  ⟨rfl, fun p => by simp [init, ForkRegistry.recorders], nofun⟩

theorem Represents.numRecorders (h : s.Represents r) : r.recorders.length ≤ s.numRecorders :=
  h.linked.length_le fun _ hp => AList.mem_keys.mp (AList.lookup_isSome.mp hp)

theorem Represents.next_eq_none_iff (h : s.Represents r) : s.next p = none ↔ p ∉ r.recorders :=
  AList.lookup_eq_none.trans (not_congr (h.existing p))

/-- **The list is walked in the order of the registry.** -/
theorem Represents.getActiveRecorders (h : s.Represents r) : s.getActiveRecorders = some r.recorders := by
  rw [ForkAwareRecorders.getActiveRecorders, h.linked.follow_eq _ h.numRecorders]
  simp [← List.flatMap_def]

theorem Represents.construct (h : s.Represents r) :
    Option.Rel Represents (s.construct p) (ForkRegistry.step r (.construct p)) := by
  unfold ForkAwareRecorders.construct ForkRegistry.step
  cases hnext : s.next p with
  | some after =>
    have hmem : p ∈ r.recorders := by
      by_contra hnot
      rw [h.next_eq_none_iff.mpr hnot] at hnext
      cases hnext
    simp only [if_pos hmem]
    exact .none
  | none =>
    have hnot := h.next_eq_none_iff.mp hnext
    simp only [if_neg hnot]
    refine .some ⟨⟨rfl, s.activeRecorders, AList.lookup_insert _, h.linked.congr fun q hq => ?_⟩, fun q => ?_,
      fun e he => ?_⟩
    · exact AList.lookup_insert_ne (ne_of_mem_of_not_mem hq hnot)
    · show q ∈ s.nextRecorder.insert p s.activeRecorders ↔ q ∈ p :: r.recorders
      rw [AList.mem_insert, List.mem_cons, h.existing]
    · rcases List.mem_cons.mp he with rfl | he
      · exact Function.update_self ..
      · have hne : e.1 ≠ p := ne_of_mem_of_not_mem (List.mem_map_of_mem he) hnot
        exact (Function.update_of_ne hne ..).trans (h.called e he)

section
variable {before after : ForkRegistry P} {calls : List ForkHandler}

/-- Taking a recorder out of a registry, by where it is. -/
theorem recorders_eraseP (hnodup : (ForkRegistry.recorders (before ++ (p, calls) :: after)).Nodup) :
    (before ++ (p, calls) :: after).eraseP (fun e => e.1 = p) = before ++ after := by
  have hnot : ∀ e ∈ before, ¬ e.1 = p := by
    rintro e he rfl
    simp only [ForkRegistry.recorders, List.map_append, List.map_cons] at hnodup
    exact (List.nodup_append.mp hnodup).2.2 _ (List.mem_map_of_mem he) _ (List.mem_cons_self ..) rfl
  rw [List.eraseP_append_right _ (by simpa using hnot), List.eraseP_cons_of_pos (by simp)]

omit [DecidableEq P] in
theorem mem_without (hnodup : (ForkRegistry.recorders (before ++ (p, calls) :: after)).Nodup) (q : P) :
    q ∈ ForkRegistry.recorders (before ++ after) ↔
      q ≠ p ∧ q ∈ ForkRegistry.recorders (before ++ (p, calls) :: after) := by
  simp only [ForkRegistry.recorders, List.map_append, List.map_cons] at hnodup ⊢
  obtain ⟨-, hcons, hdisjoint⟩ := List.nodup_append.mp hnodup
  have hafter := (List.nodup_cons.mp hcons).1
  simp only [List.mem_append, List.mem_cons]
  constructor
  · rintro (hq | hq)
    · exact ⟨hdisjoint q hq p (List.mem_cons_self ..), .inl hq⟩
    · exact ⟨ne_of_mem_of_not_mem hq hafter, .inr (.inr hq)⟩
  · rintro ⟨hne, hq | rfl | hq⟩
    · exact .inl hq
    · exact absurd rfl hne
    · exact .inr hq

end

theorem Represents.destroy (h : s.Represents r) :
    Option.Rel Represents (s.destroy p) (ForkRegistry.step r (.destroy p)) := by
  unfold ForkAwareRecorders.destroy ForkRegistry.step
  by_cases hmem : p ∈ r.recorders
  · simp only [if_pos hmem]
    obtain ⟨⟨q, calls⟩, he, rfl⟩ := List.mem_map.mp hmem
    obtain ⟨before, after, rfl⟩ := List.append_of_mem he
    have hlinked := h.linked
    have hnodup := hlinked.nodup
    have hwithout := mem_without hnodup
    rw [recorders_eraseP hnodup]
    have hcalled : ∀ e ∈ before ++ after, s.called e.1 = e.2 := by
      intro e he
      refine h.called e ?_
      rcases List.mem_append.mp he with he | he
      · exact List.mem_append_left _ he
      · exact List.mem_append_right _ (List.mem_cons_of_mem _ he)
    rcases List.eq_nil_or_concat before with rfl | ⟨before, previous, rfl⟩
    · obtain ⟨hactive, next, hnext, hrest⟩ := hlinked
      simp only [hnext, hactive, if_true]
      refine .some ⟨hrest.congr fun r hr => AList.lookup_erase_ne ((hwithout r).mp hr).1, fun r => ?_, hcalled⟩
      rw [hwithout r, ← h.existing r]
      exact AList.mem_erase
    · have hlinked : Linked s.next s.activeRecorders
          (ForkRegistry.recorders before ++ previous.1 :: q :: ForkRegistry.recorders after) := by
        simpa [ForkRegistry.recorders] using hlinked
      obtain ⟨next, hnext, hunlinked⟩ := hlinked.unlink
      have hrounds : (ForkRegistry.recorders before).length < s.numRecorders := by
        have hlength := h.numRecorders
        simp only [ForkRegistry.recorders, List.concat_eq_append, List.length_map, List.length_append,
          List.length_cons] at hlength ⊢
        omega
      simp only [hnext, hlinked.nodeBefore_eq hrounds, Option.bind_eq_bind, Option.bind_some, if_neg hlinked.head_ne]
      refine .some ⟨?_, fun r => ?_, hcalled⟩
      · have hlist : ForkRegistry.recorders (before.concat previous ++ after) =
            ForkRegistry.recorders before ++ previous.1 :: ForkRegistry.recorders after := by
          simp [ForkRegistry.recorders]
        rw [← hlist] at hunlinked
        refine hunlinked.congr fun r hr => ?_
        show ((s.nextRecorder.insert previous.1 next).erase q).lookup r = _
        rw [AList.lookup_erase_ne ((hwithout r).mp hr).1]
        by_cases heq : r = previous.1
        · subst heq
          rw [AList.lookup_insert, Function.update_self]
        · rw [AList.lookup_insert_ne heq, Function.update_of_ne heq]
          rfl
      · have hprevious : previous.1 ∈ s.nextRecorder := (h.existing _).mpr (by simp [ForkRegistry.recorders])
        rw [hwithout r, ← h.existing r, AList.mem_erase, AList.mem_insert]
        grind
  · have hnone := h.next_eq_none_iff.mpr hmem
    simp only [if_neg hmem, hnone]
    exact .none

/-- What a loop over the recorders has called. -/
theorem foldl_called (handler : ForkHandler) {recorders : List P} (hnodup : recorders.Nodup)
    (called : P → List ForkHandler) (p : P) :
    recorders.foldl (fun called recorder => Function.update called recorder (called recorder ++ [handler])) called p =
      if p ∈ recorders then called p ++ [handler] else called p := by
  induction recorders generalizing called with
  | nil => rfl
  | cons q rest ih =>
    obtain ⟨hq, hrest⟩ := List.nodup_cons.mp hnodup
    rw [List.foldl_cons, ih hrest]
    by_cases hp : p = q
    · subst hp
      simp [hq]
    · simp [hp]

theorem Represents.forkHandler (h : s.Represents r) (handler : ForkHandler) :
    Option.Rel Represents (s.forkHandler handler) (ForkRegistry.step r (.handle handler)) := by
  unfold ForkAwareRecorders.forkHandler ForkRegistry.step
  rw [h.linked.follow_eq _ h.numRecorders]
  have hrecorders : ForkRegistry.recorders (r.map fun e => (e.1, e.2 ++ [handler])) = r.recorders := by
    simp [ForkRegistry.recorders, Function.comp_def]
  refine .some ⟨?_, fun q => ?_, fun e he => ?_⟩
  · rw [hrecorders]
    exact h.linked
  · rw [hrecorders]
    exact h.existing q
  · obtain ⟨d, hd, rfl⟩ := List.mem_map.mp he
    have hmem : d.1 ∈ r.recorders := List.mem_map_of_mem hd
    show r.recorders.foldl _ s.called d.1 = _
    rw [foldl_called handler h.linked.nodup, if_pos hmem, h.called d hd]

theorem Represents.step (h : s.Represents r) (event : ForkAwareEvent P) :
    Option.Rel Represents (s.step event) (ForkRegistry.step r event) := by
  cases event with
  | construct recorder => exact h.construct
  | destroy recorder => exact h.destroy
  | handle handler => exact h.forkHandler handler

theorem run_represents (events : List (ForkAwareEvent P)) :
    Option.Rel Represents ((machine P).run init events) ((ForkRegistry.machine P).run [] events) :=
  (machine P).run_rel (fun _ _ event h => h.step event) events init_represents

end ForkAwareRecorders

/-! ### Forks -/

/-- A thread that owns the recorders forks when it does nothing else to them, and is then the parent or the child. -/
inductive ProcessEvent (P : Type) where
  | construct (recorder : P)
  | destroy (recorder : P)
  | fork (child : Bool)

def ForkHandler.ofFork (child : Bool) : List ForkHandler :=
  [.prepareForFork, if child then .onForkedChild else .onForkedParent]

def ProcessEvent.events {P : Type} : ProcessEvent P → List (ForkAwareEvent P)
  | .construct recorder => [.construct recorder]
  | .destroy recorder => [.destroy recorder]
  | .fork child => (ForkHandler.ofFork child).map .handle

/-- The recorders that exist, the latest first, and the forks that each has come through. -/
abbrev ForkLives (P : Type) := List (P × List Bool)

namespace ForkLives
variable {P : Type} [DecidableEq P]

def registry (l : ForkLives P) : ForkRegistry P := l.map fun e => (e.1, e.2.flatMap ForkHandler.ofFork)

def step (l : ForkLives P) : ProcessEvent P → Option (ForkLives P)
  | .construct recorder => if recorder ∈ l.map Prod.fst then none else some ((recorder, []) :: l)
  | .destroy recorder => if recorder ∈ l.map Prod.fst then some (l.eraseP fun e => e.1 = recorder) else none
  | .fork child => some (l.map fun e => (e.1, e.2 ++ [child]))

def machine (P : Type) [DecidableEq P] : Machine (ForkLives P) (ProcessEvent P) := ⟨step⟩

omit [DecidableEq P] in
theorem recorders_registry (l : ForkLives P) : l.registry.recorders = l.map Prod.fst := by
  simp [registry, ForkRegistry.recorders, Function.comp_def]

theorem step_registry (l : ForkLives P) (event : ProcessEvent P) :
    (ForkRegistry.machine P).run l.registry event.events = (l.step event).map registry := by
  cases event with
  | construct recorder =>
    show (ForkRegistry.step l.registry (.construct recorder)).bind some = _
    rw [Option.bind_fun_some, ForkRegistry.step, ForkLives.step, recorders_registry]
    split <;> rfl
  | destroy recorder =>
    show (ForkRegistry.step l.registry (.destroy recorder)).bind some = _
    rw [Option.bind_fun_some, ForkRegistry.step, ForkLives.step, recorders_registry]
    split
    · simp [registry, List.eraseP_map, Function.comp_def]
    · rfl
  | fork child =>
    show some ((l.registry.map _).map _) = some (registry (l.map _))
    simp [registry, Function.comp_def, ForkHandler.ofFork]

theorem run_registry (l : ForkLives P) (events : List (ProcessEvent P)) :
    (ForkRegistry.machine P).run l.registry (events.flatMap ProcessEvent.events) =
      ((machine P).run l events).map registry := by
  induction events generalizing l with
  | nil => rfl
  | cons event events ih =>
    rw [List.flatMap_cons, Machine.run_append, step_registry]
    show _ = ((l.step event).bind fun u => (machine P).run u events).map registry
    cases l.step event with
    | none => rfl
    | some u => exact ih u

end ForkLives

namespace ForkAwareRecorders
variable {P : Type} [DecidableEq P]

/-- **Whatever is constructed and destroyed, in any order, a handler calls the recorders that exist, each of them
once**, and nothing else. No loop goes astray, and a recorder that is destroyed is found. What a recorder hears of
forks is a preparation for each, and what became of it. -/
theorem handlers_call_recorders : (∀ events : List (ForkAwareEvent P),
      Option.Rel (fun s r => s.getActiveRecorders = some r.recorders ∧ ∀ e ∈ r, s.called e.1 = e.2)
        ((machine P).run init events) ((ForkRegistry.machine P).run [] events)) ∧
    ∀ forks : List (ProcessEvent P),
      Option.Rel (fun s l => s.getActiveRecorders = some (l.map Prod.fst) ∧
          ∀ e ∈ l, s.called e.1 = e.2.flatMap ForkHandler.ofFork)
        ((machine P).run init (forks.flatMap ProcessEvent.events)) ((ForkLives.machine P).run [] forks) := by
  constructor
  · intro events
    have hrun := run_represents events
    generalize (machine P).run init events = s, (ForkRegistry.machine P).run [] events = r at hrun ⊢
    cases hrun with
    | none => exact .none
    | some h => exact .some ⟨h.getActiveRecorders, h.called⟩
  · intro forks
    have hrun := run_represents (forks.flatMap ProcessEvent.events)
    have hlives := ForkLives.run_registry [] forks
    rw [show ForkLives.registry [] = ([] : ForkRegistry P) from rfl] at hlives
    rw [hlives] at hrun
    generalize (machine P).run init _ = s, (ForkLives.machine P).run [] forks = l at hrun ⊢
    cases l with
    | none =>
      cases hrun
      exact .none
    | some l =>
      cases hrun with
      | some h =>
        refine .some ⟨?_, fun e he => h.called _ (List.mem_map_of_mem he)⟩
        rw [h.getActiveRecorders, ForkLives.recorders_registry]

/-- Two recorders through a fork, of which the older one is destroyed in the child. -/
example : ((machine Nat).run init ([.construct 3, .construct 5, .fork true, .destroy 3].flatMap
    ProcessEvent.events)).map (fun s => (s.getActiveRecorders, s.called 5)) =
      some (some [5], [.prepareForFork, .onForkedChild]) := by decide

end ForkAwareRecorders
end Lightstep.Recorder

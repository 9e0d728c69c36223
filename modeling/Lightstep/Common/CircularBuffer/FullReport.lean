import Mathlib.Algebra.Order.Ring.Nat
import Mathlib.Algebra.Ring.Int.Defs
import Mathlib.Data.List.Infix
import Lightstep.Common.CircularBuffer.Safety

/-! When `Add` reports a full buffer.

A call loads `tail_`, then `head_`, and reports on their difference. Between the loads the consumer may
advance the tail and other producers the head: the difference is then the size at no moment, and may
reach the maximum although there was room throughout. -/
namespace Lightstep.Common.Interleaving
open Library

variable {P α : Type} {maxSize : Nat}

/-- The buffer holds as many elements as it may. -/
def State.Full (maxSize : Nat) (s : State P α) : Prop := s.buffer.head - s.buffer.tail = maxSize

section
variable [DecidableEq P]

/-- A call of `Add` in a run: it is made in `start`, and returns false in the step after `during`. -/
structure Reports (maxSize : Nat) (events : List (Event P α)) (p : P) (start : State P α)
    (during : List (Event P α)) : Prop where
  no_call : ∀ value, .call p value ∉ during
  run : ∃ before value spurious s t a, before ++ .call p value :: (during ++ [.producer p spurious]) <+: events ∧
    (machine P α).run (.init maxSize) (before ++ [.call p value]) = some start ∧
    (machine P α).run start during = some s ∧ (machine P α).step s (.producer p spurious) = some t ∧
    t.producers p = some a ∧ a.pc = .returned false

/-- Every call that reports a full buffer was under way at a moment when the buffer was. -/
def FullWhenReported (maxSize : Nat) (events : List (Event P α)) : Prop :=
  ∀ p start during, Reports maxSize events p start during →
    ∃ mid rest s, during = mid ++ rest ∧ (machine P α).run start mid = some s ∧ s.Full maxSize

end

/-- The tail a call has loaded that loads the head next. -/
def AddPc.loadedTail : AddPc → Option Nat
  | .loadHead tail => some tail
  | _ => none

/-- A call that loads the head finds with the tail it has loaded what it would with the one of that moment. -/
def FreshTest (maxSize : Nat) (s : State P α) : Event P α → Prop
  | .producer p _ => ∀ a ∈ s.producers p, ∀ tail ∈ a.pc.loadedTail,
    maxSize ≤ 1 ∨ s.buffer.isFull tail s.buffer.head = s.buffer.isFull s.buffer.tail s.buffer.head
  | _ => True

instance (s : State P α) : (e : Event P α) → Decidable (FreshTest maxSize s e)
  | .producer p _ => inferInstanceAs (Decidable (∀ a ∈ s.producers p, ∀ tail ∈ a.pc.loadedTail,
      maxSize ≤ 1 ∨ s.buffer.isFull tail s.buffer.head = s.buffer.isFull s.buffer.tail s.buffer.head))
  | .call .. | .peek | .consume _ | .clear | .consumer => isTrue trivial

/-! ### One step -/

variable {b b' : Buffer α} {a a' : AddCall α}

/-- Only the test on the loaded counters returns false. -/
theorem AddCall.returned_false_of_step (hstep : a.Steps b b' a') (hpc : a'.pc = .returned false) :
    ∃ tail, a.pc = .loadHead tail ∧ b.isFull tail b.head = true := by
  cases hstep with
  | full hfull => exact ⟨_, rfl, hfull⟩
  | _ => cases hpc

/-- A call about to load the head has just loaded the tail. -/
theorem AddCall.loadHead_of_step {tail : Nat} (hstep : a.Steps b b' a') (hpc : a'.pc = .loadHead tail) :
    b' = b ∧ tail = b.tail := by
  cases hstep with
  | loadTail =>
    cases hpc
    exact ⟨rfl, rfl⟩
  | _ => cases hpc

theorem AddCall.step_head (hstep : a.Steps b b' a') : b'.head = b.head ∨ b'.head = b.head + 1 := by
  cases hstep with
  | publish => exact .inr rfl
  | _ => exact .inl rfl

theorem Consumer.step_head {c c' : Consumer} {seen : List (AtomicUniquePtr (Element α))}
    (hstep : c.step b = some (b', c', seen)) : b'.head = b.head := by
  cases c with
  | idle peeked => cases hstep
  | sizeTail | sizeHead tail | peekTail goal | advance n range =>
    cases hstep
    rfl
  | peekHead goal tail =>
    cases goal with
    | peek | consume n =>
      cases hstep
      rfl
  | callback slots =>
    cases slots with
    | nil | cons slot rest =>
      cases hstep
      rfl

/-! ### A buffer of at most one element -/

/-- The head is where the tail was when the call loaded it. -/
def AtTail (p : P) (s : State P α) : Prop :=
  ∀ a tail, s.producers p = some a → a.pc = .loadHead tail → s.buffer.head = tail

/-- A buffer of at most one element that is not full is empty. -/
theorem head_eq_tail (hmax : maxSize ≤ 1) {s : State P α} (h : Inv maxSize s) (hfull : ¬ s.Full maxSize) :
    s.buffer.head = s.buffer.tail := by
  have hle := h.buffer.tail_le
  have hroom := h.buffer.head_le
  unfold State.Full at hfull
  omega

/-- The buffer is full if the test says so on the counters of one moment. -/
theorem full_of_isFull {s : State P α} (h : Inv maxSize s)
    (hfull : s.buffer.isFull s.buffer.tail s.buffer.head = true) : s.Full maxSize := by
  have htail := h.buffer.tail_le
  have hhead := h.buffer.head_le
  have hcapacity := h.buffer.capacity
  have hroom : ¬ (s.buffer.tail ≤ s.buffer.head ∧ s.buffer.head < s.buffer.tail + (s.buffer.capacity - 1)) := by
    intro hroom
    rw [CircularBuffer.isFull_eq_false.mpr hroom] at hfull
    cases hfull
  unfold State.Full
  omega

theorem consumerCall_frame {s t : State P α} {c : Consumer} (hstep : s.consumerCall c = some t) :
    t.producers = s.producers ∧ t.buffer = s.buffer := by
  unfold State.consumerCall at hstep
  split at hstep
  · cases hstep
    exact ⟨rfl, rfl⟩
  · cases hstep

variable [DecidableEq P]

/-- The consumer finds nothing to take, and another producer's element fills the buffer. -/
theorem atTail_step (hmax : maxSize ≤ 1) {p : P} {s t : State P α} {e : Event P α} (h : Inv maxSize s)
    (hfull : ¬ s.Full maxSize) (hat : AtTail p s) (hcall : ∀ value, e ≠ .call p value)
    (hstep : (machine P α).step s e = some t) : t.Full maxSize ∨ AtTail p t := by
  have hempty := head_eq_tail hmax h hfull
  cases e with
  | call q value =>
    have hne : p ≠ q := fun heq => hcall value (heq ▸ rfl)
    simp only [machine, State.step, State.call] at hstep
    split at hstep
    case isFalse => cases hstep
    case isTrue =>
      cases hstep
      right
      intro a tail ha
      simp only [Function.update_of_ne hne] at ha
      exact hat a tail ha
  | producer q spurious =>
    obtain ⟨a, ha, hstep⟩ := Option.bind_eq_some_iff.mp hstep
    obtain ⟨⟨b', a'⟩, hadd, hstep⟩ := Option.map_eq_some_iff.mp hstep
    cases hstep
    have hadd := AddCall.step_sound hadd
    by_cases hp : p = q
    · subst hp
      right
      intro c tail hc hpc
      simp only [Function.update_self, Option.some.injEq] at hc
      obtain ⟨hb, htail⟩ := AddCall.loadHead_of_step hadd (hc ▸ hpc)
      show b'.head = tail
      rw [hb, htail, hempty]
    · have hproducers (c : AddCall α) (hc : Function.update s.producers q (some a') p = some c) :
          s.producers p = some c := by
        rwa [Function.update_of_ne hp] at hc
      rcases AddCall.step_head hadd with hhead | hhead
      · right
        intro c tail hc hpc
        exact hhead.trans (hat c tail (hproducers c hc) hpc)
      · left
        have htail := AddCall.step_tail hadd
        show b'.head - b'.tail = maxSize
        unfold State.Full at hfull
        omega
  | peek | clear =>
    obtain ⟨hproducers, hbuffer⟩ := consumerCall_frame hstep
    right
    intro a tail ha hpc
    rw [hbuffer]
    exact hat a tail (hproducers ▸ ha) hpc
  | consume n =>
    simp only [machine, State.step] at hstep
    split at hstep
    case isFalse => cases hstep
    case isTrue =>
      obtain ⟨hproducers, hbuffer⟩ := consumerCall_frame hstep
      right
      intro a tail ha hpc
      rw [hbuffer]
      exact hat a tail (hproducers ▸ ha) hpc
  | consumer =>
    obtain ⟨⟨b', c', seen⟩, hconsumer, hstep⟩ := Option.map_eq_some_iff.mp hstep
    cases hstep
    right
    intro a tail ha hpc
    exact (Consumer.step_head hconsumer).trans (hat a tail ha hpc)

/-! ### Runs -/

theorem atTail_call {p : P} {value : α} {s t : State P α} (hstep : (machine P α).step s (.call p value) = some t) :
    AtTail p t := by
  simp only [machine, State.step, State.call] at hstep
  split at hstep
  case isFalse => cases hstep
  case isTrue =>
    cases hstep
    intro a tail ha hpc
    simp only [Function.update_self, Option.some.injEq] at ha
    rw [← ha] at hpc
    cases hpc

/-- A call that finds a buffer of at most one element full was under way when it was. -/
theorem exists_full (hmax : maxSize ≤ 1) {p : P} {start s : State P α} {during : List (Event P α)}
    (hstart : Inv maxSize start) (hat : AtTail p start) (hcall : ∀ value, .call p value ∉ during)
    (hrun : (machine P α).run start during = some s) {a : AddCall α} {tail : Nat} (ha : s.producers p = some a)
    (hpc : a.pc = .loadHead tail) (hfound : s.buffer.isFull tail s.buffer.head = true) :
    ∃ mid rest u, during = mid ++ rest ∧ (machine P α).run start mid = some u ∧ u.Full maxSize := by
  by_contra hnone
  have hroom : (machine P α).Guarded (fun u e => ¬ u.Full maxSize ∧ ∀ value, e ≠ .call p value) start during := by
    rw [Machine.guarded_iff]
    intro mid e rest u hsplit hmid
    refine ⟨fun hfull => hnone ⟨mid, e :: rest, u, hsplit, hmid, hfull⟩, fun value he => hcall value ?_⟩
    rw [hsplit, he]
    exact List.mem_append_right _ (List.mem_cons_self ..)
  have hend := (machine P α).guarded_invariant
    (I := fun u => Inv maxSize u ∧ (u.Full maxSize ∨ AtTail p u))
    (fun u e t hu hG hstep => ⟨step_inv u e t hu.1 hstep,
      atTail_step hmax hu.1 hG.1 (hu.2.resolve_left hG.1) hG.2 hstep⟩)
    during start s ⟨hstart, .inr hat⟩ hroom hrun
  obtain ⟨hinv, hfull | hat⟩ := hend
  · exact hnone ⟨during, [], s, (List.append_nil _).symm, hrun, hfull⟩
  · have hnot : ¬ s.Full maxSize := fun hfull => hnone ⟨during, [], s, (List.append_nil _).symm, hrun, hfull⟩
    have hempty := head_eq_tail hmax hinv hnot
    have hhead := hat a tail ha hpc
    have hcapacity := hinv.buffer.capacity
    have hfalse : s.buffer.isFull tail s.buffer.head = false := by
      rw [CircularBuffer.isFull_eq_false]
      unfold State.Full at hnot
      omega
    rw [hfalse] at hfound
    cases hfound

/-- **No call reports a full buffer that had room throughout**, in a run in which no test is on a
tail that makes a difference to it, or of a buffer of at most one element. -/
theorem fullWhenReported_of_freshTest {events : List (Event P α)}
    (hfresh : (machine P α).Guarded (FreshTest maxSize) (.init maxSize) events) : FullWhenReported maxSize events := by
  rintro p start during ⟨hcall, before, value, spurious, s, t, a', ⟨post, hevents⟩, hstart, hduring, hstep, ha', hpc'⟩
  have hrun : (machine P α).run (.init maxSize) ((before ++ [.call p value]) ++ during) = some s := by
    rw [Machine.run_append, hstart]
    exact hduring
  obtain ⟨a, ha, hstep⟩ := Option.bind_eq_some_iff.mp hstep
  obtain ⟨⟨b', a''⟩, hadd, hstep⟩ := Option.map_eq_some_iff.mp hstep
  cases hstep
  simp only [Function.update_self, Option.some.injEq] at ha'
  obtain ⟨tail, hpc, hfound⟩ := AddCall.returned_false_of_step (AddCall.step_sound hadd) (ha' ▸ hpc')
  have hsplit : events = ((before ++ [.call p value]) ++ during) ++ .producer p spurious :: post := by
    rw [← hevents]
    simp
  have htest : FreshTest maxSize s (.producer p spurious) :=
    (machine P α).guarded_iff.mp hfresh _ _ post s hsplit hrun
  rcases htest a ha tail (by rw [hpc]; rfl) with hmax | hsame
  · obtain ⟨r, -, hcalled⟩ : ∃ r, (machine P α).run (.init maxSize) before = some r ∧
        (machine P α).run r [.call p value] = some start := by
      rw [Machine.run_append] at hstart
      exact Option.bind_eq_some_iff.mp hstart
    obtain ⟨u, hcalled, hu⟩ := (machine P α).run_cons.mp hcalled
    cases hu
    exact exists_full hmax (run_inv hstart) (atTail_call hcalled) hcall hduring ha hpc hfound
  · exact ⟨during, [], s, (List.append_nil _).symm, hduring, full_of_isFull (run_inv hrun) (hsame ▸ hfound)⟩

/-- Two elements are added, and a third is not. -/
def thirdElement : List (Event (Fin 2) Nat) :=
  .call 0 10 :: List.replicate 4 (.producer 0 false) ++ .call 0 20 :: List.replicate 4 (.producer 0 false) ++
    [.call 1 30, .producer 1 false, .producer 1 false]

theorem thirdElement_reported : ∃ s, (machine (Fin 2) Nat).run (.init 2) thirdElement = some s ∧
    (s.producers 1).map AddCall.pc = some (.returned false) ∧ FullWhenReported 2 thirdElement :=
  ⟨_, rfl, rfl, fullWhenReported_of_freshTest (by decide)⟩

/-- An element is consumed and another is added, after producer 0 has loaded the tail. -/
def turnover : List (Event (Fin 2) Nat) :=
  .producer 0 false :: .consume 1 :: List.replicate 5 .consumer ++ .call 1 30 :: List.replicate 4 (.producer 1 false)

/-- Producer 0 loads the head after the turnover of the one element there is, two places past the tail it has. -/
def staleTail : List (Event (Fin 2) Nat) :=
  (.call 1 20 :: List.replicate 4 (.producer 1 false)) ++ .call 0 10 :: (turnover ++ [.producer 0 false])

/-- The call returns false, and the buffer had room for a second element throughout the run. -/
theorem not_fullWhenReported_staleTail : ∃ s, (machine (Fin 2) Nat).run (.init 2) staleTail = some s ∧
    (s.producers 0).map AddCall.pc = some (.returned false) ∧
    (∀ before ∈ staleTail.inits, ∀ u ∈ (machine (Fin 2) Nat).run (.init 2) before, u.buffer.head - u.buffer.tail < 2) ∧
    ¬ FullWhenReported 2 staleTail := by
  have hroom : ∀ before ∈ staleTail.inits, ∀ u ∈ (machine (Fin 2) Nat).run (.init 2) before,
      u.buffer.head - u.buffer.tail < 2 := by
    decide
  refine ⟨_, rfl, rfl, hroom, fun hreported => ?_⟩
  have hstart : ∃ start, (machine (Fin 2) Nat).run (.init 2)
      ((.call 1 20 :: List.replicate 4 (.producer 1 false)) ++ [.call 0 10]) = some start ∧
      Reports 2 staleTail 0 start turnover := by
    refine ⟨_, rfl, ⟨fun value => by simp [turnover], ?_⟩⟩
    exact ⟨_, 10, false, _, _, _, List.prefix_rfl, rfl, rfl, rfl, rfl, rfl⟩
  obtain ⟨start, hstart, hreports⟩ := hstart
  obtain ⟨mid, rest, u, hsplit, hmid, hfull⟩ := hreported 0 start turnover hreports
  have hrun : (machine (Fin 2) Nat).run (.init 2)
      (((.call 1 20 :: List.replicate 4 (.producer 1 false)) ++ [.call 0 10]) ++ mid) = some u := by
    rw [Machine.run_append, hstart]
    exact hmid
  have hprefix : ((.call 1 20 :: List.replicate 4 (.producer 1 false)) ++ [.call 0 10]) ++ mid <+: staleTail :=
    ⟨rest ++ [.producer 0 false], by rw [staleTail, hsplit]; simp⟩
  have hlt := hroom _ ((List.mem_inits _ _).mpr hprefix) u hrun
  rw [hfull] at hlt
  exact absurd hlt (Nat.lt_irrefl 2)

end Lightstep.Common.Interleaving

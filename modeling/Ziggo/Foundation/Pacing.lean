import Mathlib.Data.List.Chain
import Ziggo.Foundation.Runs

/-!
# Emissions in time

A reactive program that paces its messages compares the time of an event with a
timer.  This module says when the messages of a run are emitted and when they
are spaced, and gives the rule by which an invariant that ties the timer to the
last emission is carried through a run.
-/

namespace Ziggo
namespace Foundation

/-!
## Spaced times
-/

/-- Two times that follow each other are at least `gap` apart. -/
def Apart (gap : Nat) (times : List Nat) : Prop :=
  times.IsChain fun a b => a + gap ≤ b

/-- The times are at least `gap` apart, also if `next` comes next. -/
def Spaced (gap : Nat) (times : List Nat) (next : Nat) : Prop :=
  Apart gap (times ++ [next])

section Spacing

variable {gap next : Nat} {times : List Nat}

theorem spaced_nil (gap next : Nat) : Spaced gap [] next :=
  List.isChain_singleton next

theorem Spaced.mono (h : Spaced gap times next) {later : Nat}
    (hle : next ≤ later) : Spaced gap times later := by
  obtain ⟨htimes, _, hlast⟩ := List.isChain_append.mp h
  refine List.isChain_append.mpr ⟨htimes, List.isChain_singleton later, ?_⟩
  intro a ha b hb
  cases hb
  exact (hlast a ha next rfl).trans hle

/-- After an emission the next one is due one gap later. -/
theorem Spaced.emit (h : Spaced gap times next) :
    Spaced gap (times ++ [next]) (next + gap) := by
  refine List.isChain_append.mpr ⟨h, List.isChain_singleton _, ?_⟩
  intro a ha b hb
  rw [List.getLast?_concat] at ha
  cases ha
  cases hb
  exact Nat.le_refl _

theorem Spaced.apart (h : Spaced gap times next) : Apart gap times :=
  (List.isChain_append.mp h).left

end Spacing

/-!
## What a call adds

Within a call only the number of the messages so far is at hand.  The times
before the call and that number give the times at each point of the call.
-/

/-- The emissions before a call: their times, and the number they have led to. -/
structure Emitted where
  times : List Nat
  count : Nat

namespace Emitted

/-- The times once the number is `count`, in a call at time `now`. -/
def during (r : Emitted) (now count : Nat) : List Nat :=
  r.times ++ List.replicate (count - r.count) now

/-- The emissions are spaced at a point of a call, also if `next` comes next. -/
structure Paces (r : Emitted) (gap now count next : Nat) : Prop where
  grows : r.count ≤ count
  spaced : Spaced gap (r.during now count) next

variable {r : Emitted} {gap now count next : Nat}

theorem during_self (r : Emitted) (now : Nat) :
    r.during now r.count = r.times := by
  unfold during
  rw [Nat.sub_self, List.replicate_zero, List.append_nil]

theorem during_succ (h : r.count ≤ count) :
    r.during now (count + 1) = r.during now count ++ [now] := by
  unfold during
  rw [Nat.succ_sub h, List.replicate_succ', List.append_assoc]

theorem paces_start (h : Spaced gap r.times next) (now : Nat) :
    r.Paces gap now r.count next where
  grows := Nat.le_refl _
  spaced := by
    rw [during_self]
    exact h

theorem Paces.mono (h : r.Paces gap now count next) {later : Nat}
    (hle : next ≤ later) : r.Paces gap now count later :=
  ⟨h.grows, h.spaced.mono hle⟩

theorem Paces.emit (h : r.Paces gap now count now) :
    r.Paces gap now (count + 1) (now + gap) where
  grows := Nat.le_succ_of_le h.grows
  spaced := by
    rw [during_succ h.grows]
    exact h.spaced.emit

end Emitted

/-!
## Runs
-/

/-- A program with the times of its events and the emissions of its steps. -/
structure Emitter (State Event : Type) where
  step : State -> Event -> State
  /-- The time of an event, if it comes with one. -/
  time : Event -> Option Nat
  /-- How many messages a step emits. -/
  emits : State -> Event -> Nat

namespace Emitter

variable {State Event : Type} (E : Emitter State Event)

/-- The time at an event.  One without a time comes at the time of the last one. -/
def clock (now : Nat) (e : Event) : Nat :=
  (E.time e).getD now

/-- The times of the messages that a run emits. -/
def emissions : State -> Nat -> List Event -> List Nat
  | _, _, [] => []
  | s, now, e :: es =>
      List.replicate (E.emits s e) (E.clock now e) ++
        emissions (E.step s e) (E.clock now e) es

/-- The times of the events do not decrease. -/
def InOrder (es : List Event) : Prop :=
  (es.filterMap E.time).Pairwise fun a b => a ≤ b

instance (es : List Event) : Decidable (E.InOrder es) :=
  inferInstanceAs (Decidable (List.Pairwise _ _))

variable {E}

/-- No event of the list comes before the time. -/
theorem inOrder_clock {now : Nat} {e : Event} {es : List Event}
    (h : (now :: (e :: es).filterMap E.time).Pairwise fun a b => a ≤ b) :
    now ≤ E.clock now e ∧
      (E.clock now e :: es.filterMap E.time).Pairwise fun a b => a ≤ b := by
  unfold clock
  cases htime : E.time e with
  | none =>
      rw [List.filterMap_cons_none htime] at h
      exact ⟨Nat.le_refl now, h⟩
  | some t =>
      rw [List.filterMap_cons_some htime] at h
      obtain ⟨hnow, hlater⟩ := List.pairwise_cons.mp h
      exact ⟨hnow t List.mem_cons_self, hlater⟩

/--
What relates the state to the time and to the emissions so far holds after every
run whose events come in order, if each step keeps it.
-/
theorem emissions_invariant {I : State -> Nat -> List Nat -> Prop}
    (hstep : forall s now times e, I s now times -> now ≤ E.clock now e ->
      I (E.step s e) (E.clock now e)
        (times ++ List.replicate (E.emits s e) (E.clock now e)))
    {s : State} {now : Nat} {times : List Nat} (h : I s now times)
    {es : List Event}
    (horder : (now :: es.filterMap E.time).Pairwise fun a b => a ≤ b) :
    exists later, I (runEvents E.step s es) later
      (times ++ E.emissions s now es) := by
  induction es generalizing s now times with
  | nil =>
      unfold emissions
      rw [List.append_nil]
      exact ⟨now, h⟩
  | cons e es ih =>
      obtain ⟨hnow, hlater⟩ := inOrder_clock horder
      unfold emissions
      rw [← List.append_assoc]
      exact ih (hstep s now times e h hnow) hlater

theorem InOrder.from_zero {es : List Event} (h : E.InOrder es) :
    (0 :: es.filterMap E.time).Pairwise fun a b => a ≤ b :=
  List.pairwise_cons.mpr ⟨fun a _ => Nat.zero_le a, h⟩

end Emitter

end Foundation
end Ziggo

import Mathlib.Logic.Function.Basic
import Ziggo.Foundation.Machine

/-!
# Critical regions

Threads that share variables access them in regions which a lock protects.  The
statements of a region are executed one by one, and other threads take steps in
between.  The module gives the rules by which the shared variables may be
regarded as if every region were executed as a whole when its thread takes the
lock.
-/

namespace Ziggo
namespace Foundation

/-- The statements of a region that are still to be executed. -/
inductive Region (Shared : Type) where
  | done
  | statement (f : Shared -> Except Fault Shared) (rest : Region Shared)
  | choice (c : Shared -> Bool) (yes no : Region Shared)

namespace Region

variable {Shared : Type}

/-- The region as a whole. -/
def run : Region Shared -> Shared -> Except Fault Shared
  | done, s => .ok s
  | statement f rest, s => f s >>= rest.run
  | choice c yes no, s => if c s then yes.run s else no.run s

/-- One statement of the region, or one test. -/
def next : Region Shared -> Shared -> Except Fault (Region Shared × Shared)
  | done, s => .ok (done, s)
  | statement f rest, s => (f s).map fun s => (rest, s)
  | choice c yes no, s => .ok (if c s then yes else no, s)

/-- The region has come to its end. -/
def isDone : Region Shared -> Bool
  | done => true
  | _ => false

/-- No statement of the region changes the value of `p`. -/
def Keeps {α : Type} (p : Shared -> α) : Region Shared -> Prop
  | done => True
  | statement f rest => (forall s s', f s = .ok s' -> p s' = p s) ∧ rest.Keeps p
  | choice _ yes no => yes.Keeps p ∧ no.Keeps p

variable {r r' : Region Shared} {s s' : Shared}

theorem eq_done_of_isDone (h : r.isDone = true) : r = done := by
  cases r with
  | done => rfl
  | _ => cases h

theorem next_statement {f : Shared -> Except Fault Shared}
    {rest : Region Shared} (h : (statement f rest).next s = .ok (r', s')) :
    r' = rest ∧ f s = .ok s' := by
  change (f s).map _ = _ at h
  cases hf : f s with
  | error e =>
      rw [hf] at h
      cases h
  | ok t =>
      rw [hf] at h
      cases h
      exact ⟨rfl, rfl⟩

theorem Keeps.next {α : Type} {p : Shared -> α} (h : r.Keeps p)
    (hnext : r.next s = .ok (r', s')) : r'.Keeps p := by
  cases r with
  | done =>
      cases hnext
      exact h
  | statement f rest =>
      obtain ⟨rfl, _⟩ := next_statement hnext
      exact h.right
  | choice c yes no =>
      cases hnext
      split
      · exact h.left
      · exact h.right

theorem Keeps.run {α : Type} {p : Shared -> α} (h : r.Keeps p)
    (hrun : r.run s = .ok s') : p s' = p s := by
  induction r generalizing s with
  | done =>
      cases hrun
      rfl
  | statement f rest ih =>
      obtain ⟨t, hf, hrest⟩ := bind_eq_ok.mp hrun
      exact (ih h.right hrest).trans (h.left s t hf)
  | choice c yes no ihyes ihno =>
      unfold Region.run at hrun
      split at hrun
      · exact ihyes h.left hrun
      · exact ihno h.right hrun

/-- What a statement leaves to do leads to the same end. -/
theorem run_of_next (h : r.next s = .ok (r', s')) : r'.run s' = r.run s := by
  cases r with
  | done =>
      cases h
      rfl
  | statement f rest =>
      obtain ⟨rfl, hf⟩ := next_statement h
      change r'.run s' = f s >>= r'.run
      rw [hf]
      rfl
  | choice c yes no =>
      cases h
      rw [run]
      split
      · rfl
      · rfl

/-- A region that fails in its first statement fails as a whole. -/
theorem run_of_next_error {e : Fault} (h : r.next s = .error e) :
    r.run s = .error e := by
  cases r with
  | done => cases h
  | statement f rest =>
      change (f s).map _ = _ at h
      unfold run
      cases hf : f s with
      | error e' =>
          rw [hf] at h
          cases h
          rfl
      | ok t =>
          rw [hf] at h
          cases h
  | choice c yes no => cases h

end Region

/-- Variables behind a lock, and the regions of the threads. -/
structure Guarded (Thread Shared : Type) where
  shared : Shared
  /-- The thread that holds the lock. -/
  lock : Option Thread
  /-- What a thread in its region has still to execute. -/
  region : Thread -> Option (Region Shared)
  /-- Why the process ended, if it has ended. -/
  stop : Option Fault

namespace Guarded

variable {Thread Shared : Type} [DecidableEq Thread]

/-- A thread takes the lock, or waits for it. -/
def enter (t : Thread) (r : Region Shared) (g : Guarded Thread Shared) :
    Guarded Thread Shared :=
  if g.lock = none then
    { g with
      lock := some t
      region := Function.update g.region t (some r) }
  else
    g

/-- A thread executes a statement of its region. -/
def advance (t : Thread) (r : Region Shared) (g : Guarded Thread Shared) :
    Guarded Thread Shared :=
  match r.next g.shared with
  | .error f => { g with stop := some f }
  | .ok (r, s) =>
      { g with
        shared := s
        region := Function.update g.region t (some r) }

/-- A thread releases the lock. -/
def leave (t : Thread) (g : Guarded Thread Shared) : Guarded Thread Shared :=
  { g with
    lock := none
    region := Function.update g.region t none }

/-- A thread is in its region only while it holds the lock. -/
def Exclusive (g : Guarded Thread Shared) : Prop :=
  forall t r, g.region t = some r -> g.lock = some t

/-- The thread that holds the lock is in its region. -/
def Held (g : Guarded Thread Shared) : Prop :=
  forall t, g.lock = some t -> exists r, g.region t = some r

/-- The shared variables once the region that has been entered is completed. -/
def settled (g : Guarded Thread Shared) : Except Fault Shared :=
  match g.lock with
  | none => .ok g.shared
  | some t => (g.region t).elim (.ok g.shared) fun r => r.run g.shared

section Rules

variable {g : Guarded Thread Shared} {t : Thread} {r : Region Shared}

omit [DecidableEq Thread] in
/-- Two threads are never in their regions at the same time. -/
theorem Exclusive.eq (h : g.Exclusive) {t' : Thread} {r' : Region Shared}
    (ht : g.region t = some r) (ht' : g.region t' = some r') : t = t' :=
  Option.some.inj ((h t r ht).symm.trans (h t' r' ht'))

omit [DecidableEq Thread] in
theorem Exclusive.outside (h : g.Exclusive) (hlock : g.lock = none)
    (t : Thread) : g.region t = none := by
  cases hregion : g.region t with
  | none => rfl
  | some r =>
      have hholds := h t r hregion
      rw [hlock] at hholds
      cases hholds

theorem Exclusive.enter (h : g.Exclusive) : (g.enter t r).Exclusive := by
  unfold Guarded.enter
  split
  · rename_i hlock
    intro t' r' hregion
    by_cases ht : t' = t
    · rw [ht]
    · change Function.update g.region t (some r) t' = _ at hregion
      rw [Function.update_of_ne ht, h.outside hlock t'] at hregion
      cases hregion
  · exact h

theorem Exclusive.advance (h : g.Exclusive) (hregion : g.region t = some r) :
    (g.advance t r).Exclusive := by
  unfold Guarded.advance
  split
  · exact h
  · rename_i r'' s' _
    intro t' r' hregion'
    by_cases ht : t' = t
    · rw [ht]
      exact h t r hregion
    · change Function.update g.region t (some r'') t' = _ at hregion'
      rw [Function.update_of_ne ht] at hregion'
      exact h t' r' hregion'

theorem Exclusive.leave (h : g.Exclusive) (hregion : g.region t = some r) :
    (g.leave t).Exclusive := by
  intro t' r' hregion'
  by_cases ht : t' = t
  · rw [ht] at hregion'
    change Function.update g.region t none t = _ at hregion'
    rw [Function.update_self] at hregion'
    cases hregion'
  · change Function.update g.region t none t' = _ at hregion'
    rw [Function.update_of_ne ht] at hregion'
    exact absurd (h.eq hregion' hregion) ht

theorem stop_enter : (g.enter t r).stop = g.stop := by
  unfold Guarded.enter
  split
  · rfl
  · rfl

theorem shared_enter : (g.enter t r).shared = g.shared := by
  unfold Guarded.enter
  split
  · rfl
  · rfl

theorem region_enter (hlock : g.lock = none) :
    (g.enter t r).region t = some r := by
  unfold Guarded.enter
  rw [if_pos hlock]
  exact Function.update_self _ _ _

theorem region_enter_of_ne {t' : Thread} (h : t' ≠ t) :
    (g.enter t r).region t' = g.region t' := by
  unfold Guarded.enter
  split
  · exact Function.update_of_ne h _ _
  · rfl

/-- The threads outside and in their regions are the same. -/
theorem isSome_advance (hregion : g.region t = some r) (t' : Thread) :
    ((g.advance t r).region t').isSome = (g.region t').isSome := by
  unfold Guarded.advance
  split
  · rfl
  · dsimp only
    by_cases ht : t' = t
    · rw [ht, Function.update_self, hregion]
      rfl
    · rw [Function.update_of_ne ht]

theorem lock_advance : (g.advance t r).lock = g.lock := by
  unfold Guarded.advance
  split
  · rfl
  · rfl

theorem Held.enter (h : g.Held) : (g.enter t r).Held := by
  by_cases hlock : g.lock = none
  · intro t' hholds
    have ht : t' = t := by
      unfold Guarded.enter at hholds
      rw [if_pos hlock] at hholds
      exact (Option.some.inj hholds).symm
    rw [ht]
    exact ⟨r, region_enter hlock⟩
  · unfold Guarded.enter
    rw [if_neg hlock]
    exact h

theorem Held.advance (h : g.Held) (hregion : g.region t = some r) :
    (g.advance t r).Held := by
  intro t' hholds
  rw [lock_advance] at hholds
  obtain ⟨r', hregion'⟩ := h t' hholds
  apply Option.isSome_iff_exists.mp
  rw [isSome_advance hregion t', hregion']
  rfl

theorem Held.leave : (g.leave t).Held := by
  intro t' hholds
  cases hholds

omit [DecidableEq Thread] in
theorem settled_inside (h : g.Exclusive) (hregion : g.region t = some r) :
    g.settled = r.run g.shared := by
  unfold settled
  rw [h t r hregion]
  dsimp only
  rw [hregion]
  rfl

omit [DecidableEq Thread] in
theorem settled_free (hlock : g.lock = none) : g.settled = .ok g.shared := by
  unfold settled
  rw [hlock]

/-- Taking the lock executes the region as a whole. -/
theorem settled_enter (hlock : g.lock = none) :
    (g.enter t r).settled = r.run g.shared := by
  unfold enter settled
  rw [if_pos hlock]
  dsimp only
  rw [Function.update_self]
  rfl

/-- Statements do not matter any more, once the lock has been taken. -/
theorem settled_advance (h : g.Exclusive) (hregion : g.region t = some r) :
    (g.advance t r).settled = g.settled := by
  have hinside := settled_inside h hregion
  unfold advance
  split
  · rfl
  · rename_i r' s' hnext
    have hlock := h t r hregion
    rw [hinside, ← Region.run_of_next hnext]
    unfold settled
    rw [hlock]
    dsimp only
    rw [Function.update_self]
    rfl

theorem region_leave_of_ne {t' : Thread} (h : t' ≠ t) :
    (g.leave t).region t' = g.region t' :=
  Function.update_of_ne h _ _

theorem region_leave : (g.leave t).region t = none :=
  Function.update_self _ _ _

theorem keeps_advance {α : Type} {p : Shared -> α} {t' : Thread}
    (hregion : g.region t = some r)
    (h : forall r', g.region t' = some r' -> r'.Keeps p) {r' : Region Shared}
    (hadvance : (g.advance t r).region t' = some r') : r'.Keeps p := by
  unfold advance at hadvance
  split at hadvance
  · exact h r' hadvance
  · rename_i r'' s' hnext
    by_cases ht : t' = t
    · subst ht
      change Function.update g.region t' (some r'') t' = _ at hadvance
      rw [Function.update_self] at hadvance
      cases hadvance
      exact (h r hregion).next hnext
    · change Function.update g.region t (some r'') t' = _ at hadvance
      rw [Function.update_of_ne ht] at hadvance
      exact h r' hadvance

/-- A region that comes to an end does not end the process. -/
theorem stop_advance (h : g.Exclusive) (hregion : g.region t = some r)
    {s : Shared} (hsettled : g.settled = .ok s) :
    (g.advance t r).stop = g.stop := by
  unfold advance
  split
  · rename_i f hnext
    rw [settled_inside h hregion, Region.run_of_next_error hnext] at hsettled
    cases hsettled
  · rfl

/-- A statement leaves the rest of the region to do, or ends the process. -/
theorem advance_cases (r : Region Shared) :
    (exists e, g.advance t r = { g with stop := some e }) ∨
    exists r' s', r.next g.shared = .ok (r', s') ∧
      (g.advance t r).region t = some r' ∧ (g.advance t r).stop = g.stop := by
  unfold Guarded.advance
  split
  · exact Or.inl ⟨_, rfl⟩
  · rename_i r' s' hnext
    exact Or.inr ⟨r', s', hnext, Function.update_self _ _ _, rfl⟩

theorem settled_leave (h : g.Exclusive) (hregion : g.region t = some .done) :
    (g.leave t).settled = g.settled := by
  rw [settled_inside h hregion]
  rfl

end Rules

end Guarded

end Foundation
end Ziggo

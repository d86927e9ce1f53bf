import Ziggo.Foundation.Machine

/-!
# Where runs fail

A run that starts without a fault ends with one for a single reason: an action
that it performs fails, a transition fails, or the driver does not come to rest.
This module gives the rules that follow: one that finds the failing action, one
that excludes a fault by an annotation, and one for what holds wherever a run
ends.
-/

namespace Ziggo
namespace Foundation

theorem Program.mem_entries_succ {State Vars : Type} [DecidableEq State]
    (P : Program State Vars) (fuel : Nat) {m : Machine State Vars} {s : State}
    {v : Vars} :
    (s, v) ∈ P.entries (fuel + 1) m <->
      (¬ m.Quiescent ∧ s = m.state ∧ v = m.vars) ∨
        (¬ (P.pass m).Quiescent ∧ (s, v) ∈ P.entries fuel (P.pass m)) := by
  rw [Program.entries, List.mem_append]
  by_cases hq : m.Quiescent <;> by_cases hq' : (P.pass m).Quiescent <;>
    simp [hq, hq']

namespace Behaviour

variable {State Vars : Type} [DecidableEq State] {B : Behaviour State Vars}

/-- A halt records its fault, and an action that succeeds records none. -/
structure Records (B : Behaviour State Vars) : Prop where
  halt : forall f v, B.fault (B.halt f v) = some f
  action : forall s v v', B.action s v = .ok v' -> B.fault v' = B.fault v

/-!
## The entries of a run

Each rule goes with the rule of the same name for the run itself.
-/

section Entries

variable {m : Machine State Vars} {s : State} {v : Vars}

theorem mem_entries_enter (fuel : Nat) (hq : ¬ m.Quiescent) :
    (m.state, m.vars) ∈ B.program.entries (fuel + 1) m :=
  (Program.mem_entries_succ B.program fuel).mpr (Or.inl ⟨hq, rfl, rfl⟩)

theorem mem_entries_pass (fuel : Nat) {next : State} {w : Vars}
    (henter : B.program.enter m = w) (hrun : B.fault w = none)
    (hnext : B.transition m.state w = .ok next) (hne : m.state ≠ next)
    (h : (s, v) ∈ B.program.entries fuel
      { state := next, lastState := some m.state, vars := w }) :
    (s, v) ∈ B.program.entries (fuel + 1) m := by
  have hpass : B.program.pass m =
      { state := next, lastState := some m.state, vars := w } := by
    rw [Program.pass_goto B.program (by rw [henter]; exact hrun)
      (by rw [henter]; exact transition_goto.mpr hnext), henter]
  refine (Program.mem_entries_succ B.program fuel).mpr (Or.inr ?_)
  rw [hpass]
  exact ⟨fun hq => hne (Option.some.inj hq), h⟩

theorem mem_entries_leave (fuel : Nat) {next : State} (hq : m.Quiescent)
    (hrun : B.fault m.vars = none)
    (hnext : B.transition m.state m.vars = .ok next) (hne : m.state ≠ next)
    (h : (s, v) ∈ B.program.entries fuel
      { state := next, lastState := some m.state, vars := m.vars }) :
    (s, v) ∈ B.program.entries (fuel + 1) m :=
  mem_entries_pass fuel (Program.enter_quiescent _ hq) hrun hnext hne h

theorem mem_entries_enter_leave (fuel : Nat) {next : State} {w : Vars}
    (hq : ¬ m.Quiescent) (haction : B.action m.state m.vars = .ok w)
    (hrun : B.fault w = none) (hnext : B.transition m.state w = .ok next)
    (hne : m.state ≠ next)
    (h : (s, v) ∈ B.program.entries fuel
      { state := next, lastState := some m.state, vars := w }) :
    (s, v) ∈ B.program.entries (fuel + 1) m :=
  mem_entries_pass fuel (enter_ok hq haction) hrun hnext hne h

end Entries

section Pass

variable {m : Machine State Vars}

theorem enter_fault_iff (h : B.Records) (hrun : B.fault m.vars = none)
    (f : Fault) :
    B.fault (B.program.enter m) = some f <->
      ¬ m.Quiescent ∧ B.action m.state m.vars = .error f := by
  by_cases hq : m.Quiescent
  · rw [Program.enter_quiescent _ hq, hrun]
    simp [hq]
  · rw [Program.enter_change _ hq]
    change B.fault (attempt B.halt m.vars (B.action m.state m.vars)) = _ <-> _
    cases haction : B.action m.state m.vars with
    | ok v =>
        rw [attempt_ok rfl, h.action m.state m.vars v haction, hrun]
        simp
    | error g =>
        rw [attempt_error rfl, h.halt]
        simp [hq]

end Pass

theorem fault_run_iff (h : B.Records) {f : Fault}
    (htransition : forall s v, B.transition s v ≠ .error f)
    (hdiverges : f ≠ .diverges) (fuel : Nat) {m : Machine State Vars}
    (hrun : B.fault m.vars = none) :
    B.fault (B.program.run fuel m).vars = some f <->
      exists s v, (s, v) ∈ B.program.entries fuel m ∧
        B.action s v = .error f := by
  induction fuel generalizing m with
  | zero =>
      refine iff_of_false (fun hfault => ?_) ?_
      · exact hdiverges
          (Option.some.inj ((h.halt .diverges m.vars).symm.trans hfault)).symm
      · rintro ⟨s, v, hmem, _⟩
        cases hmem
  | succ fuel ih =>
      -- The entries of this pass and of the passes after it.
      have hsplit : (exists s v, (s, v) ∈ B.program.entries (fuel + 1) m ∧
            B.action s v = .error f) <->
          (¬ m.Quiescent ∧ B.action m.state m.vars = .error f) ∨
            (¬ (B.program.pass m).Quiescent ∧
              exists s v, (s, v) ∈ B.program.entries fuel (B.program.pass m) ∧
                B.action s v = .error f) := by
        simp only [Program.mem_entries_succ]
        constructor
        · rintro ⟨s, v, ⟨hq, rfl, rfl⟩ | ⟨hq, hmem⟩, herror⟩
          · exact Or.inl ⟨hq, herror⟩
          · exact Or.inr ⟨hq, s, v, hmem, herror⟩
        · rintro (⟨hq, herror⟩ | ⟨hq, s, v, hmem, herror⟩)
          · exact ⟨_, _, Or.inl ⟨hq, rfl, rfl⟩, herror⟩
          · exact ⟨s, v, Or.inr ⟨hq, hmem⟩, herror⟩
      rw [hsplit, ← enter_fault_iff h hrun, Program.run]
      by_cases henter : B.fault (B.program.enter m) = none
      · -- The pass performs no action that fails.
        have hnot : B.fault (B.program.enter m) ≠ some f := by
          rw [henter]
          simp
        rw [or_iff_right hnot]
        cases hnext : B.program.transition m.state (B.program.enter m) with
        | error g =>
            have hpass := Program.pass_error B.program henter hnext
            have hq' : (B.program.pass m).Quiescent := by
              rw [hpass]
              rfl
            rw [if_pos hq', hpass]
            refine iff_of_false (fun hfault => ?_) (fun hrest => hrest.left ?_)
            · have hg : g = f := Option.some.inj ((h.halt _ _).symm.trans hfault)
              exact htransition _ _ (hg ▸ transition_error.mp hnext)
            · rw [← hpass]
              exact hq'
        | ok next =>
            have hvars : (B.program.pass m).vars = B.program.enter m := by
              cases next with
              | goto next => rw [Program.pass_goto B.program henter hnext]
              | reenter next => exact absurd hnext transition_ne_reenter
            have hrun' : B.fault (B.program.pass m).vars = none := by
              rw [hvars]
              exact henter
            split
            case isTrue hq' =>
              refine iff_of_false ?_ (fun hrest => hrest.left hq')
              rw [hrun']
              simp
            case isFalse hq' =>
              rw [ih hrun']
              exact (and_iff_right hq').symm
      · have hpass := Program.pass_fault B.program henter
        have hq' : (B.program.pass m).Quiescent := by
          rw [hpass]
          rfl
        rw [if_pos hq', or_iff_left (fun hrest => hrest.left hq'), hpass]

theorem fault_run_ne (h : B.Records) (A : Program.Annotation B.program)
    {f : Fault} (haction : forall s v, A.Pre s v -> B.action s v ≠ .error f)
    (htransition : forall s v, A.Post s v -> B.transition s v ≠ .error f)
    (hdiverges : f ≠ .diverges) (fuel : Nat) {m : Machine State Vars}
    (hholds : A.Holds m) (hrun : B.fault m.vars = none) :
    B.fault (B.program.run fuel m).vars ≠ some f := by
  induction fuel generalizing m with
  | zero =>
      intro hfault
      exact hdiverges
        (Option.some.inj ((h.halt .diverges m.vars).symm.trans hfault)).symm
  | succ fuel ih =>
      have henterNe : B.fault (B.program.enter m) ≠ some f := by
        rw [Ne, enter_fault_iff h hrun]
        rintro ⟨hq, herror⟩
        exact haction _ _ (hholds.right hq) herror
      have hpassNe : B.fault (B.program.pass m).vars ≠ some f := by
        by_cases henter : B.fault (B.program.enter m) = none
        · cases hnext : B.program.transition m.state (B.program.enter m) with
          | error g =>
              rw [Program.pass_error B.program henter hnext]
              intro hfault
              have hg : g = f :=
                Option.some.inj ((h.halt _ _).symm.trans hfault)
              exact htransition _ _ (A.post_enter hholds henter)
                (hg ▸ transition_error.mp hnext)
          | ok next =>
              cases next with
              | goto next =>
                  rw [Program.pass_goto B.program henter hnext]
                  exact henterNe
              | reenter next => exact absurd hnext transition_ne_reenter
        · rw [Program.pass_fault B.program henter]
          exact henterNe
      rw [Program.run]
      split
      case isTrue => exact hpassNe
      case isFalse hq' =>
        by_cases hfault : B.fault (B.program.pass m).vars = none
        · exact ih (A.holds_pass hholds hfault) hfault
        · exact absurd (Program.pass_quiescent_of_fault B.program hfault) hq'

/-- What the conditions of an annotation entail holds even where a run fails. -/
theorem run_always (h : B.Records) (A : Program.Annotation B.program)
    {I : Vars -> Prop} (hpre : forall s v, A.Pre s v -> I v)
    (hpost : forall s v, A.Post s v -> I v)
    (hhalt : forall f v, I v -> I (B.halt f v)) (fuel : Nat)
    {m : Machine State Vars} (hholds : A.Holds m)
    (hrun : B.fault m.vars = none) : I (B.program.run fuel m).vars := by
  have hvars : forall {m : Machine State Vars}, A.Holds m -> I m.vars := by
    intro m hholds
    by_cases hq : m.Quiescent
    · exact hpost _ _ (hholds.left hq)
    · exact hpre _ _ (hholds.right hq)
  induction fuel generalizing m with
  | zero => exact hhalt _ _ (hvars hholds)
  | succ fuel ih =>
      rw [Program.run]
      by_cases hfault : B.fault (B.program.pass m).vars = none
      · have hpass := A.holds_pass hholds hfault
        split
        · exact hvars hpass
        · exact ih hpass hfault
      · rw [if_pos (Program.pass_quiescent_of_fault B.program hfault)]
        by_cases henter : B.fault (B.program.enter m) = none
        · cases hnext : B.program.transition m.state (B.program.enter m) with
          | error g =>
              rw [Program.pass_error B.program henter hnext]
              exact hhalt _ _ (hpost _ _ (A.post_enter hholds henter))
          | ok next =>
              cases next with
              | goto next =>
                  rw [Program.pass_goto B.program henter hnext] at hfault
                  exact absurd henter hfault
              | reenter next => exact absurd hnext transition_ne_reenter
        · rw [Program.pass_fault B.program henter]
          change I (B.program.enter m)
          by_cases hq : m.Quiescent
          · rw [Program.enter_quiescent _ hq]
            exact hvars hholds
          · rw [Program.enter_change _ hq] at henter ⊢
            change I (attempt B.halt m.vars (B.action m.state m.vars))
            change B.fault (attempt B.halt m.vars (B.action m.state m.vars)) ≠
              none at henter
            cases haction : B.action m.state m.vars with
            | ok v =>
                rw [haction] at henter
                exact absurd ((h.action _ _ _ haction).trans hrun) henter
            | error g => exact hhalt _ _ (hvars hholds)

end Behaviour

end Foundation
end Ziggo

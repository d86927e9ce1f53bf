import Ziggo.Foundation.Machine

/-!
# The transitions of a run

A run may pass through several states.  This module lists the transitions that
a run makes, each with the variables it is made with, and gives the rules for
them: what an annotation says about the transitions of a run, and how to find a
transition by executing the run.  A property may also relate the variables to
the states that the run has entered so far.
-/

namespace Ziggo
namespace Foundation

namespace Program

variable {State Vars : Type} [DecidableEq State]

/-- The states that the passes of a run leave, and those they lead to. -/
def changes (P : Program State Vars) : Nat -> Machine State Vars ->
    List (State × Vars × State)
  | 0, _ => []
  | fuel + 1, m =>
      if (P.pass m).Quiescent then
        []
      else
        (m.state, (P.pass m).vars, (P.pass m).state) :: P.changes fuel (P.pass m)

/--
A property of the states that have been entered and of the variables.  Every
action adds its state to the former.
-/
theorem run_entries (P : Program State Vars)
    {I : List (State × Vars) -> Vars -> Prop}
    (haction : forall past s v, I past v ->
      I (past ++ [(s, v)]) (P.action s v))
    (hhalt : forall past s v f, I past v -> P.transition s v = .error f ->
      I past (P.halt f v))
    (hexhausted : forall past v, I past v -> I past (P.halt .diverges v))
    (fuel : Nat) {past : List (State × Vars)} {m : Machine State Vars}
    (h : I past m.vars) :
    I (past ++ P.entries fuel m) (P.run fuel m).vars := by
  induction fuel generalizing past m with
  | zero =>
      rw [entries, List.append_nil]
      exact hexhausted past m.vars h
  | succ fuel ih =>
      have henter :
          I (past ++ (if m.Quiescent then [] else [(m.state, m.vars)]))
            (P.enter m) := by
        unfold enter
        split
        · rw [List.append_nil]
          exact h
        · exact haction past m.state m.vars h
      have hpass := pass_of_enter P henter (hhalt _)
      rw [entries, run, ← List.append_assoc]
      by_cases hq : (P.pass m).Quiescent
      · rw [if_pos hq, if_pos hq, List.append_nil]
        exact hpass
      · rw [if_neg hq, if_neg hq]
        exact ih hpass

end Program

namespace Behaviour

variable {State Vars : Type} [DecidableEq State] {B : Behaviour State Vars}
  {m : Machine State Vars}

/-- A pass that does not come to rest follows the transition function. -/
theorem pass_of_not_quiescent (h : ¬ (B.program.pass m).Quiescent) :
    B.fault (B.program.enter m) = none ∧
      exists next, B.transition m.state (B.program.enter m) = .ok next ∧
        next ≠ m.state ∧
        B.program.pass m =
          { state := next, lastState := some m.state,
            vars := B.program.enter m } := by
  by_cases hrun : B.fault (B.program.enter m) = none
  · refine ⟨hrun, ?_⟩
    cases htransition : B.program.transition m.state (B.program.enter m) with
    | error f =>
        rw [Program.pass_error B.program hrun htransition] at h
        exact absurd rfl h
    | ok next =>
        cases next with
        | reenter next => exact absurd htransition transition_ne_reenter
        | goto next =>
            have hpass := Program.pass_goto B.program hrun htransition
            rw [hpass] at h
            refine ⟨next, transition_goto.mp htransition, ?_, hpass⟩
            rintro rfl
            exact h rfl
  · rw [Program.pass_fault B.program hrun] at h
    exact absurd rfl h

/-- The transitions of an annotated run start from what its states ensure. -/
theorem changes_post (A : Program.Annotation B.program) (fuel : Nat)
    (h : A.Holds m) {s t : State} {v : Vars}
    (hmem : (s, v, t) ∈ B.program.changes fuel m) :
    A.Post s v ∧ B.transition s v = .ok t := by
  induction fuel generalizing m with
  | zero => cases hmem
  | succ fuel ih =>
      rw [Program.changes] at hmem
      split at hmem
      · cases hmem
      case isFalse hq =>
        obtain ⟨hrun, next, hnext, _, hpass⟩ := pass_of_not_quiescent hq
        rcases List.mem_cons.mp hmem with hhead | htail
        · rw [hpass] at hhead
          cases hhead
          exact ⟨A.post_enter h hrun, hnext⟩
        · refine ih (A.holds_pass h ?_) htail
          rw [hpass]
          exact hrun

section Execution

variable (fuel : Nat) {next : State} {v : Vars}

/-- A machine at rest that its transition function leads away. -/
theorem changes_leave (hq : m.Quiescent) (hrun : B.fault m.vars = none)
    (hnext : B.transition m.state m.vars = .ok next) (hne : next ≠ m.state) :
    B.program.changes (fuel + 1) m =
      (m.state, m.vars, next) ::
        B.program.changes fuel
          { state := next, lastState := some m.state, vars := m.vars } := by
  have henter : B.program.enter m = m.vars := Program.enter_quiescent _ hq
  have hpass := Program.pass_goto B.program (m := m) (by rw [henter]; exact hrun)
    (by rw [henter]; exact transition_goto.mpr hnext)
  rw [Program.changes, hpass, henter, if_neg]
  exact fun hsame => hne (Option.some.inj hsame).symm

/-- A state that is left as soon as its action has been performed. -/
theorem changes_enter_leave (hq : ¬ m.Quiescent)
    (haction : B.action m.state m.vars = .ok v) (hrun : B.fault v = none)
    (hnext : B.transition m.state v = .ok next) (hne : next ≠ m.state) :
    B.program.changes (fuel + 1) m =
      (m.state, v, next) ::
        B.program.changes fuel
          { state := next, lastState := some m.state, vars := v } := by
  have henter : B.program.enter m = v := enter_ok hq haction
  have hpass := Program.pass_goto B.program (m := m) (by rw [henter]; exact hrun)
    (by rw [henter]; exact transition_goto.mpr hnext)
  rw [Program.changes, hpass, henter, if_neg]
  exact fun hsame => hne (Option.some.inj hsame).symm

end Execution

end Behaviour

end Foundation
end Ziggo

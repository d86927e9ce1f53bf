import Ziggo.Foundation.Machine

/-!
# Machines in a world

The machines of a C program call each other through pointers, so that the action
of one machine works on the variables of many.  Such a machine is a program
whose variables are the whole world, and the world keeps its control between
two calls.  A reactive machine rests between its calls, and a call that makes it
react performs one action: the rules below say what such a call leads to.
-/

namespace Ziggo
namespace Foundation

/-- What a machine keeps for its driver between two calls. -/
structure Control (State : Type) where
  state : State
  lastState : Option State
deriving DecidableEq, Inhabited

namespace Control

/-- The driver has come to rest in a state. -/
def rest {State : Type} (s : State) : Control State where
  state := s
  lastState := some s

end Control

namespace Program

variable {State Vars : Type} [DecidableEq State] {P : Program State Vars}

/-- In a state that has been entered the driver has nothing more to do. -/
def Settled (P : Program State Vars) (s : State) (v : Vars) : Prop :=
  P.fault v ≠ none ∨ P.transition s v = .ok (.goto s)

theorem run_settle (fuel : Nat) {m : Machine State Vars} (hq : ¬ m.Quiescent)
    (h : P.Settled m.state (P.action m.state m.vars)) :
    P.run (fuel + 1) m =
      { state := m.state, lastState := some m.state,
        vars := P.action m.state m.vars } := by
  have henter : P.enter m = P.action m.state m.vars := enter_change P hq
  by_cases hfault : P.fault (P.action m.state m.vars) = none
  · rcases h with h | h
    · exact absurd hfault h
    · rw [run_stay P fuel (by rw [henter]; exact hfault)
        (by rw [henter]; exact h), henter]
  · rw [run_fault P fuel (by rw [henter]; exact hfault), henter]

/-- A state that is entered only to be left for another one. -/
theorem run_through (fuel : Nat) {m : Machine State Vars} {t : State}
    (hq : ¬ m.Quiescent) (hrun : P.fault (P.action m.state m.vars) = none)
    (hnext : P.transition m.state (P.action m.state m.vars) = .ok (.goto t))
    (hne : m.state ≠ t)
    (h : P.Settled t (P.action t (P.action m.state m.vars))) :
    P.run (fuel + 2) m =
      { state := t, lastState := some t,
        vars := P.action t (P.action m.state m.vars) } := by
  have henter : P.enter m = P.action m.state m.vars := enter_change P hq
  rw [run_goto P (fuel + 1) (by rw [henter]; exact hrun)
      (by rw [henter]; exact hnext) hne, henter,
    run_settle fuel (by simpa [Machine.Quiescent] using hne) h]

end Program

/-- A machine that keeps its control in the world that its actions work on. -/
structure Embedded (State World : Type) where
  program : Program State World
  control : World -> Control State
  store : Control State -> World -> World
  /-- The transitions that are common to all states. -/
  ready : World -> State -> State

namespace Embedded

variable {State World : Type} [DecidableEq State]

def run (M : Embedded State World) (fuel : Nat) (w : World) : World :=
  let m := M.program.run fuel
    { state := M.ready w (M.control w).state
      lastState := (M.control w).lastState
      vars := w }
  M.store { state := m.state, lastState := m.lastState } m.vars

variable {M : Embedded State World} {w : World} {s t : State}

/-- What the actions, a halt and the bookkeeping keep, a run keeps. -/
theorem run_preserves {I : World -> Prop}
    (haction : forall s w, I w -> I (M.program.action s w))
    (hhalt : forall f w, I w -> I (M.program.halt f w))
    (hstore : forall c w, I w -> I (M.store c w))
    (fuel : Nat) (h : I w) : I (M.run fuel w) := by
  unfold run
  apply hstore
  exact Program.run_preserves M.program haction
    (fun _ w f hw _ => hhalt f w hw) (fun w hw => hhalt .diverges w hw) fuel h

/-- The transitions common to all states lead to another state. -/
theorem run_forced (fuel : Nat) (hcontrol : M.control w = .rest s)
    (hready : M.ready w s = t) (hne : s ≠ t)
    (hsettled : M.program.Settled t (M.program.action t w)) :
    M.run (fuel + 1) w = M.store (.rest t) (M.program.action t w) := by
  unfold run
  rw [hcontrol]
  simp only [Control.rest, hready]
  rw [Program.run_settle fuel (by simpa [Machine.Quiescent] using hne) hsettled]

/-- The driver finds that nothing is to be done. -/
theorem run_idle (fuel : Nat) (hcontrol : M.control w = .rest s)
    (hready : M.ready w s = s) (hrun : M.program.fault w = none)
    (hnext : M.program.transition s w = .ok (.goto s)) :
    M.run (fuel + 1) w = M.store (.rest s) w := by
  have henter : M.program.enter
      { state := s, lastState := some s, vars := w } = w :=
    Program.enter_quiescent _ rfl
  unfold run
  rw [hcontrol]
  simp only [Control.rest, hready]
  rw [Program.run_stay M.program fuel (by rw [henter]; exact hrun)
    (by rw [henter]; exact hnext), henter]

/-- What the rules for the program say once the machine goes to a state. -/
theorem run_first_goto (fuel : Nat) (hcontrol : M.control w = .rest s)
    (hready : M.ready w s = s) (hrun : M.program.fault w = none)
    (hnext : M.program.transition s w = .ok (.goto t)) (hne : s ≠ t) :
    M.run (fuel + 1) w =
      let m := M.program.run fuel
        { state := t, lastState := some s, vars := w }
      M.store { state := m.state, lastState := m.lastState } m.vars := by
  have henter : M.program.enter
      { state := s, lastState := some s, vars := w } = w :=
    Program.enter_quiescent _ rfl
  unfold run
  rw [hcontrol]
  simp only [Control.rest, hready]
  rw [Program.run_goto M.program fuel (by rw [henter]; exact hrun)
    (by rw [henter]; exact hnext) hne, henter]

/-- What the rules for the program say once a state is entered again. -/
theorem run_first_reenter (fuel : Nat) (hcontrol : M.control w = .rest s)
    (hready : M.ready w s = s) (hrun : M.program.fault w = none)
    (hnext : M.program.transition s w = .ok (.reenter t)) :
    M.run (fuel + 1) w =
      let m := M.program.run fuel
        { state := t, lastState := none, vars := w }
      M.store { state := m.state, lastState := m.lastState } m.vars := by
  have henter : M.program.enter
      { state := s, lastState := some s, vars := w } = w :=
    Program.enter_quiescent _ rfl
  unfold run
  rw [hcontrol]
  simp only [Control.rest, hready]
  rw [Program.run_reenter M.program fuel (by rw [henter]; exact hrun)
    (by rw [henter]; exact hnext), henter]

/-- The machine reacts by going to another state. -/
theorem run_goto (fuel : Nat) (hcontrol : M.control w = .rest s)
    (hready : M.ready w s = s) (hrun : M.program.fault w = none)
    (hnext : M.program.transition s w = .ok (.goto t)) (hne : s ≠ t)
    (hsettled : M.program.Settled t (M.program.action t w)) :
    M.run (fuel + 2) w = M.store (.rest t) (M.program.action t w) := by
  rw [run_first_goto (fuel + 1) hcontrol hready hrun hnext hne,
    Program.run_settle fuel (by simpa [Machine.Quiescent] using hne) hsettled]
  rfl

/-- The machine reacts by entering its state again. -/
theorem run_reenter (fuel : Nat) (hcontrol : M.control w = .rest s)
    (hready : M.ready w s = s) (hrun : M.program.fault w = none)
    (hnext : M.program.transition s w = .ok (.reenter t))
    (hsettled : M.program.Settled t (M.program.action t w)) :
    M.run (fuel + 2) w = M.store (.rest t) (M.program.action t w) := by
  rw [run_first_reenter (fuel + 1) hcontrol hready hrun hnext,
    Program.run_settle fuel (by simp [Machine.Quiescent]) hsettled]
  rfl

/-- The first run of a machine, which leaves its first state at once. -/
theorem run_initial (fuel : Nat)
    (hcontrol : M.control w = { state := s, lastState := none })
    (hready : M.ready w s = s ∨ M.ready w s = t)
    (hfirst : M.program.action s w = w) (hrun : M.program.fault w = none)
    (hnext : M.program.transition s w = .ok (.goto t)) (hne : s ≠ t)
    (hsettled : M.program.Settled t (M.program.action t w)) :
    M.run (fuel + 2) w = M.store (.rest t) (M.program.action t w) := by
  have hentered : M.program.run (fuel + 2)
      { state := t, lastState := none, vars := w } =
        { state := t, lastState := some t, vars := M.program.action t w } :=
    Program.run_settle (fuel + 1) (by simp [Machine.Quiescent]) hsettled
  have hpassed : M.program.run (fuel + 2)
      { state := s, lastState := none, vars := w } =
        { state := t, lastState := some t, vars := M.program.action t w } := by
    have hthrough := @Program.run_through _ _ _ M.program fuel
      { state := s, lastState := none, vars := w } t
      (by simp [Machine.Quiescent])
    rw [hfirst] at hthrough
    exact hthrough hrun hnext hne hsettled
  unfold run
  rw [hcontrol]
  rcases hready with hready | hready
  · simp only [hready, hpassed]
    rfl
  · simp only [hready, hentered]
    rfl

end Embedded

end Foundation
end Ziggo

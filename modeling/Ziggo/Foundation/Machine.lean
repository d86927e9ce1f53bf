import Mathlib.Logic.Basic

/-!
# Machines that run to quiescence

The state machines of a C program often share one driver: a loop that performs
the action of a state when the state has just been entered, asks the state's
transition function for the next state, and stops once the state does not
change any more.  This module describes that driver for arbitrary states and
variables and gives the rules by which its runs are reasoned about.

The loop of a C program need not end, and its actions may leave the program
altogether.  Both are recorded in the variables as a fault, so that a run is a
total function.
-/

namespace Ziggo
namespace Foundation

/-- The ways in which a C program stops behaving as a program. -/
inductive Fault where
  /-- The program called `exit`. -/
  | exit
  /-- An `assert` failed. -/
  | assertion
  /-- An object was used through a null pointer or after its release. -/
  | invalidPointer
  /-- An array was accessed beyond its bounds. -/
  | outOfBounds
  /-- An arithmetic operation left the range of its signed type. -/
  | overflow
  /-- A loop did not end. -/
  | diverges
deriving DecidableEq, Repr

theorem bind_eq_ok {α β : Type} {x : Except Fault α} {f : α -> Except Fault β}
    {b : β} : (x >>= f) = .ok b <-> exists a, x = .ok a ∧ f a = .ok b := by
  cases x with
  | error e =>
      constructor
      · intro h
        cases h
      · rintro ⟨a, h, _⟩
        cases h
  | ok a =>
      constructor
      · intro h
        exact ⟨a, rfl, h⟩
      · rintro ⟨a', h, hf⟩
        cases h
        exact hf

theorem bind_eq_error {α β : Type} {x : Except Fault α}
    {f : α -> Except Fault β} {e : Fault} :
    (x >>= f) = .error e <->
      x = .error e ∨ exists a, x = .ok a ∧ f a = .error e := by
  cases x with
  | error e' =>
      constructor
      · intro h
        cases h
        exact Or.inl rfl
      · rintro (h | ⟨a, h, _⟩)
        · cases h
          rfl
        · cases h
  | ok a =>
      constructor
      · intro h
        exact Or.inr ⟨a, rfl, h⟩
      · rintro (h | ⟨a', h, hf⟩)
        · cases h
        · cases h
          exact hf

/-- What a transition function asks for. -/
inductive Next (State : Type) where
  /-- Continue in the given state, which may be the present one. -/
  | goto (state : State)
  /-- Continue in the given state as if it had just been entered. -/
  | reenter (state : State)
deriving DecidableEq, Repr

/--
A machine between two passes of its driver.  `lastState` is `none` when no
state counts as the last one: before the first pass, and after a transition
that asks for a state to be entered again.
-/
structure Machine (State Vars : Type) where
  state : State
  lastState : Option State
  vars : Vars

/-- The state-dependent parts of a driver, and its bookkeeping of faults. -/
structure Program (State Vars : Type) where
  action : State -> Vars -> Vars
  transition : State -> Vars -> Except Fault (Next State)
  fault : Vars -> Option Fault
  halt : Fault -> Vars -> Vars
  fault_halt : forall (f : Fault) (v : Vars), fault (halt f v) ≠ none

/-- The variables after an action that may fail, halted where it fails. -/
def attempt {Vars : Type} (halt : Fault -> Vars -> Vars) (v : Vars) :
    Except Fault Vars -> Vars
  | .ok v' => v'
  | .error f => halt f v

theorem attempt_ok {Vars : Type} {halt : Fault -> Vars -> Vars} {v : Vars}
    {r : Except Fault Vars} {v' : Vars} (h : r = .ok v') :
    attempt halt v r = v' := by
  rw [h]
  rfl

theorem attempt_error {Vars : Type} {halt : Fault -> Vars -> Vars} {v : Vars}
    {r : Except Fault Vars} {f : Fault} (h : r = .error f) :
    attempt halt v r = halt f v := by
  rw [h]
  rfl

theorem attempt_preserves {Vars : Type} {halt : Fault -> Vars -> Vars}
    {I : Vars -> Prop} {v : Vars} {r : Except Fault Vars}
    (hok : forall v', r = .ok v' -> I v')
    (herror : forall f, r = .error f -> I (halt f v)) :
    I (attempt halt v r) := by
  cases hr : r with
  | ok v' => exact hok v' hr
  | error f => exact herror f hr

namespace Machine

variable {State Vars : Type}

/-- The driver has come to rest: the state is the one of the last pass. -/
def Quiescent (m : Machine State Vars) : Prop :=
  m.lastState = some m.state

instance [DecidableEq State] (m : Machine State Vars) : Decidable m.Quiescent :=
  inferInstanceAs (Decidable (m.lastState = some m.state))

end Machine

namespace Program

variable {State Vars : Type} [DecidableEq State]

/-- The variables after the entry action, which runs on a change of state only. -/
def enter (P : Program State Vars) (m : Machine State Vars) : Vars :=
  if m.Quiescent then m.vars else P.action m.state m.vars

def pass (P : Program State Vars) (m : Machine State Vars) :
    Machine State Vars :=
  let vars := P.enter m
  if P.fault vars ≠ none then
    { state := m.state, lastState := some m.state, vars := vars }
  else
    match P.transition m.state vars with
    | .error f =>
        { state := m.state, lastState := some m.state, vars := P.halt f vars }
    | .ok (.goto next) =>
        { state := next, lastState := some m.state, vars := vars }
    | .ok (.reenter next) =>
        { state := next, lastState := none, vars := vars }

/-- The driver: passes until the machine is quiescent, at most `fuel` of them. -/
def run (P : Program State Vars) : Nat -> Machine State Vars ->
    Machine State Vars
  | 0, m => { m with vars := P.halt .diverges m.vars }
  | fuel + 1, m =>
      if (P.pass m).Quiescent then P.pass m else P.run fuel (P.pass m)

/-- The states a run enters, each with the variables its action starts from. -/
def entries (P : Program State Vars) : Nat -> Machine State Vars ->
    List (State × Vars)
  | 0, _ => []
  | fuel + 1, m =>
      (if m.Quiescent then [] else [(m.state, m.vars)]) ++
        (if (P.pass m).Quiescent then [] else P.entries fuel (P.pass m))

/-!
## Symbolic execution

One equation for each outcome of a pass.  They unfold a run whose transitions
are known, one state after the other.
-/

theorem enter_quiescent (P : Program State Vars) {m : Machine State Vars}
    (h : m.Quiescent) : P.enter m = m.vars :=
  if_pos h

theorem enter_change (P : Program State Vars) {m : Machine State Vars}
    (h : ¬ m.Quiescent) : P.enter m = P.action m.state m.vars :=
  if_neg h

theorem pass_fault (P : Program State Vars) {m : Machine State Vars}
    (h : P.fault (P.enter m) ≠ none) :
    P.pass m =
      { state := m.state, lastState := some m.state, vars := P.enter m } := by
  simp [pass, h]

theorem pass_error (P : Program State Vars) {m : Machine State Vars}
    {f : Fault} (hrun : P.fault (P.enter m) = none)
    (h : P.transition m.state (P.enter m) = .error f) :
    P.pass m =
      { state := m.state, lastState := some m.state,
        vars := P.halt f (P.enter m) } := by
  simp [pass, hrun, h]

theorem pass_goto (P : Program State Vars) {m : Machine State Vars}
    {next : State} (hrun : P.fault (P.enter m) = none)
    (h : P.transition m.state (P.enter m) = .ok (.goto next)) :
    P.pass m =
      { state := next, lastState := some m.state, vars := P.enter m } := by
  simp [pass, hrun, h]

theorem pass_reenter (P : Program State Vars) {m : Machine State Vars}
    {next : State} (hrun : P.fault (P.enter m) = none)
    (h : P.transition m.state (P.enter m) = .ok (.reenter next)) :
    P.pass m = { state := next, lastState := none, vars := P.enter m } := by
  simp [pass, hrun, h]

theorem run_of_pass (P : Program State Vars) {m n : Machine State Vars}
    (fuel : Nat) (h : P.pass m = n) :
    P.run (fuel + 1) m = if n.Quiescent then n else P.run fuel n := by
  rw [run, h]

theorem run_fault (P : Program State Vars) {m : Machine State Vars}
    (fuel : Nat) (h : P.fault (P.enter m) ≠ none) :
    P.run (fuel + 1) m =
      { state := m.state, lastState := some m.state, vars := P.enter m } := by
  rw [run_of_pass P fuel (pass_fault P h), if_pos]
  rfl

theorem run_error (P : Program State Vars) {m : Machine State Vars}
    {f : Fault} (fuel : Nat) (hrun : P.fault (P.enter m) = none)
    (h : P.transition m.state (P.enter m) = .error f) :
    P.run (fuel + 1) m =
      { state := m.state, lastState := some m.state,
        vars := P.halt f (P.enter m) } := by
  rw [run_of_pass P fuel (pass_error P hrun h), if_pos]
  rfl

theorem run_stay (P : Program State Vars) {m : Machine State Vars}
    (fuel : Nat) (hrun : P.fault (P.enter m) = none)
    (h : P.transition m.state (P.enter m) = .ok (.goto m.state)) :
    P.run (fuel + 1) m =
      { state := m.state, lastState := some m.state, vars := P.enter m } := by
  rw [run_of_pass P fuel (pass_goto P hrun h), if_pos]
  rfl

theorem run_goto (P : Program State Vars) {m : Machine State Vars}
    {next : State} (fuel : Nat) (hrun : P.fault (P.enter m) = none)
    (h : P.transition m.state (P.enter m) = .ok (.goto next))
    (hne : m.state ≠ next) :
    P.run (fuel + 1) m =
      P.run fuel
        { state := next, lastState := some m.state, vars := P.enter m } := by
  rw [run_of_pass P fuel (pass_goto P hrun h), if_neg]
  simpa [Machine.Quiescent] using hne

theorem run_reenter (P : Program State Vars) {m : Machine State Vars}
    {next : State} (fuel : Nat) (hrun : P.fault (P.enter m) = none)
    (h : P.transition m.state (P.enter m) = .ok (.reenter next)) :
    P.run (fuel + 1) m =
      P.run fuel { state := next, lastState := none, vars := P.enter m } := by
  rw [run_of_pass P fuel (pass_reenter P hrun h), if_neg]
  simp [Machine.Quiescent]

theorem pass_quiescent_of_fault (P : Program State Vars)
    {m : Machine State Vars} (h : P.fault (P.pass m).vars ≠ none) :
    (P.pass m).Quiescent := by
  by_cases hrun : P.fault (P.enter m) = none
  · cases htransition : P.transition m.state (P.enter m) with
    | error f =>
        rw [pass_error P hrun htransition]
        rfl
    | ok next =>
        cases next with
        | goto next =>
            rw [pass_goto P hrun htransition] at h
            exact absurd hrun h
        | reenter next =>
            rw [pass_reenter P hrun htransition] at h
            exact absurd hrun h
  · rw [pass_fault P hrun]
    rfl

/-- A run that ends without a fault ends where no transition leads on. -/
theorem run_settled (P : Program State Vars) (fuel : Nat)
    {m : Machine State Vars} (h : P.fault (P.run fuel m).vars = none) :
    (P.run fuel m).Quiescent ∧
      P.transition (P.run fuel m).state (P.run fuel m).vars =
        .ok (.goto (P.run fuel m).state) := by
  induction fuel generalizing m with
  | zero =>
      exact absurd h (P.fault_halt .diverges m.vars)
  | succ fuel ih =>
      rw [run] at h ⊢
      split at h
      case isFalse hq =>
        rw [if_neg hq]
        exact ih h
      case isTrue hq =>
        rw [if_pos hq]
        refine ⟨hq, ?_⟩
        by_cases hrun : P.fault (P.enter m) = none
        · cases htransition : P.transition m.state (P.enter m) with
          | error f =>
              rw [pass_error P hrun htransition] at h
              exact absurd h (P.fault_halt f (P.enter m))
          | ok next =>
              cases next with
              | goto next =>
                  rw [pass_goto P hrun htransition] at hq ⊢
                  cases Option.some.inj hq
                  exact htransition
              | reenter next =>
                  rw [pass_reenter P hrun htransition] at hq
                  cases hq
        · rw [pass_fault P hrun] at h
          exact absurd h hrun

/-!
## Invariants of the variables

What every action and every halt keeps, a run keeps.
-/

theorem enter_preserves (P : Program State Vars) {I : Vars -> Prop}
    (haction : forall s v, I v -> I (P.action s v))
    {m : Machine State Vars} (h : I m.vars) : I (P.enter m) := by
  unfold enter
  split
  · exact h
  · exact haction m.state m.vars h

theorem pass_of_enter (P : Program State Vars) {I : Vars -> Prop}
    {m : Machine State Vars} (henter : I (P.enter m))
    (hhalt : forall s v f, I v -> P.transition s v = .error f ->
      I (P.halt f v)) : I (P.pass m).vars := by
  by_cases hfault : P.fault (P.enter m) = none
  · cases htransition : P.transition m.state (P.enter m) with
    | error f =>
        rw [pass_error P hfault htransition]
        exact hhalt m.state (P.enter m) f henter htransition
    | ok next =>
        cases next with
        | goto next =>
            rw [pass_goto P hfault htransition]
            exact henter
        | reenter next =>
            rw [pass_reenter P hfault htransition]
            exact henter
  · rw [pass_fault P hfault]
    exact henter

theorem pass_preserves (P : Program State Vars) {I : Vars -> Prop}
    (haction : forall s v, I v -> I (P.action s v))
    (hhalt : forall s v f, I v -> P.transition s v = .error f ->
      I (P.halt f v))
    {m : Machine State Vars} (h : I m.vars) : I (P.pass m).vars :=
  pass_of_enter P (enter_preserves P haction h) hhalt

theorem run_preserves (P : Program State Vars) {I : Vars -> Prop}
    (haction : forall s v, I v -> I (P.action s v))
    (hhalt : forall s v f, I v -> P.transition s v = .error f ->
      I (P.halt f v))
    (hexhausted : forall v, I v -> I (P.halt .diverges v))
    (fuel : Nat) {m : Machine State Vars} (h : I m.vars) :
    I (P.run fuel m).vars := by
  induction fuel generalizing m with
  | zero =>
      exact hexhausted m.vars h
  | succ fuel ih =>
      have hpass : I (P.pass m).vars := pass_preserves P haction hhalt h
      rw [run]
      split
      · exact hpass
      · exact ih hpass

theorem entries_preserves (P : Program State Vars) {I : Vars -> Prop}
    (haction : forall s v, I v -> I (P.action s v))
    (hhalt : forall s v f, I v -> P.transition s v = .error f ->
      I (P.halt f v))
    (fuel : Nat) {m : Machine State Vars} (h : I m.vars) :
    forall s v, (s, v) ∈ P.entries fuel m -> I v := by
  induction fuel generalizing m with
  | zero =>
      intro s v hmem
      cases hmem
  | succ fuel ih =>
      intro s v hmem
      rcases List.mem_append.mp hmem with hhead | htail
      · by_cases hq : m.Quiescent
        · simp [hq] at hhead
        · simp only [hq, if_false, List.mem_singleton, Prod.mk.injEq] at hhead
          rw [hhead.right]
          exact h
      · by_cases hq : (P.pass m).Quiescent
        · simp [hq] at htail
        · rw [if_neg hq] at htail
          exact ih (pass_preserves P haction hhalt h) s v htail

/-!
## Annotated programs

An annotation gives each state a condition that holds when the state is about
to be entered and one that holds once its action has been performed.  A run
that ends without a fault ends in a state that meets the second condition, and
every action it performs starts from variables that meet the first one.
-/

structure Annotation (P : Program State Vars) where
  Pre : State -> Vars -> Prop
  Post : State -> Vars -> Prop
  action : forall s v, Pre s v -> P.fault (P.action s v) = none ->
    Post s (P.action s v)
  goto : forall s v next, Post s v -> P.fault v = none ->
    P.transition s v = .ok (.goto next) -> next ≠ s -> Pre next v
  reenter : forall s v next, Post s v -> P.fault v = none ->
    P.transition s v = .ok (.reenter next) -> Pre next v

namespace Annotation

variable {P : Program State Vars}

def Holds (A : Annotation P) (m : Machine State Vars) : Prop :=
  (m.Quiescent -> A.Post m.state m.vars) ∧
    (¬ m.Quiescent -> A.Pre m.state m.vars)

theorem post_enter (A : Annotation P) {m : Machine State Vars}
    (h : A.Holds m) (hfault : P.fault (P.enter m) = none) :
    A.Post m.state (P.enter m) := by
  by_cases hq : m.Quiescent
  · rw [enter_quiescent P hq]
    exact h.left hq
  · rw [enter_change P hq] at hfault ⊢
    exact A.action m.state m.vars (h.right hq) hfault

theorem holds_pass (A : Annotation P) {m : Machine State Vars}
    (h : A.Holds m) (hfault : P.fault (P.pass m).vars = none) :
    A.Holds (P.pass m) := by
  by_cases hrun : P.fault (P.enter m) = none
  · have hpost := A.post_enter h hrun
    cases htransition : P.transition m.state (P.enter m) with
    | error f =>
        rw [pass_error P hrun htransition] at hfault
        exact absurd hfault (P.fault_halt f (P.enter m))
    | ok next =>
        cases next with
        | goto next =>
            rw [pass_goto P hrun htransition]
            by_cases hne : next = m.state
            · subst hne
              exact ⟨fun _ => hpost, fun hq => absurd rfl hq⟩
            · refine ⟨fun hq => ?_, fun _ => ?_⟩
              · exact absurd (Option.some.inj hq).symm hne
              · exact A.goto m.state (P.enter m) next hpost hrun htransition hne
        | reenter next =>
            rw [pass_reenter P hrun htransition]
            refine ⟨fun hq => ?_, fun _ => ?_⟩
            · cases hq
            · exact A.reenter m.state (P.enter m) next hpost hrun htransition
  · rw [pass_fault P hrun] at hfault
    exact absurd hfault hrun

theorem fault_pass_of_run (P : Program State Vars) (fuel : Nat)
    {m : Machine State Vars}
    (h : P.fault (P.run (fuel + 1) m).vars = none) :
    P.fault (P.pass m).vars = none := by
  by_cases hrun : P.fault (P.enter m) = none
  · cases htransition : P.transition m.state (P.enter m) with
    | error f =>
        rw [run_error P fuel hrun htransition] at h
        exact absurd h (P.fault_halt f (P.enter m))
    | ok next =>
        cases next with
        | goto next =>
            rw [pass_goto P hrun htransition]
            exact hrun
        | reenter next =>
            rw [pass_reenter P hrun htransition]
            exact hrun
  · rw [run_fault P fuel hrun] at h
    exact absurd h hrun

theorem run_post (A : Annotation P) (fuel : Nat) {m : Machine State Vars}
    (h : A.Holds m) (hfault : P.fault (P.run fuel m).vars = none) :
    (P.run fuel m).Quiescent ∧
      A.Post (P.run fuel m).state (P.run fuel m).vars := by
  induction fuel generalizing m with
  | zero =>
      exact absurd hfault (P.fault_halt .diverges m.vars)
  | succ fuel ih =>
      have hpass : A.Holds (P.pass m) :=
        A.holds_pass h (fault_pass_of_run P fuel hfault)
      rw [run] at hfault ⊢
      split at hfault
      case isTrue hq =>
        rw [if_pos hq]
        exact ⟨hq, hpass.left hq⟩
      case isFalse hq =>
        rw [if_neg hq]
        exact ih hpass hfault

theorem entries_pre (A : Annotation P) (fuel : Nat) {m : Machine State Vars}
    (h : A.Holds m) :
    forall s v, (s, v) ∈ P.entries fuel m -> A.Pre s v := by
  induction fuel generalizing m with
  | zero =>
      intro s v hmem
      cases hmem
  | succ fuel ih =>
      intro s v hmem
      rcases List.mem_append.mp hmem with hhead | htail
      · by_cases hq : m.Quiescent
        · simp [hq] at hhead
        · simp only [hq, if_false, List.mem_singleton, Prod.mk.injEq] at hhead
          rw [hhead.left, hhead.right]
          exact h.right hq
      · by_cases hq : (P.pass m).Quiescent
        · simp [hq] at htail
        · rw [if_neg hq] at htail
          by_cases hfault : P.fault (P.pass m).vars = none
          · exact ih (A.holds_pass h hfault) s v htail
          · exact absurd (pass_quiescent_of_fault P hfault) hq

end Annotation

end Program

/-!
## Behaviours

Most machines never ask for a state to be entered again.  Such a machine is
given by actions and transitions that may fail.
-/

/-- The actions and transitions of a machine without reentered states. -/
structure Behaviour (State Vars : Type) where
  action : State -> Vars -> Except Fault Vars
  transition : State -> Vars -> Except Fault State
  fault : Vars -> Option Fault
  halt : Fault -> Vars -> Vars
  fault_halt : forall (f : Fault) (v : Vars), fault (halt f v) ≠ none

namespace Behaviour

variable {State Vars : Type}

def program (B : Behaviour State Vars) : Program State Vars where
  action s v := attempt B.halt v (B.action s v)
  transition s v := (B.transition s v).map .goto
  fault := B.fault
  halt := B.halt
  fault_halt := B.fault_halt

theorem transition_goto {B : Behaviour State Vars} {s next : State} {v : Vars} :
    B.program.transition s v = .ok (.goto next) <->
      B.transition s v = .ok next := by
  unfold program
  cases htransition : B.transition s v with
  | error f =>
      simp [htransition, Except.map]
  | ok s' =>
      simp [htransition, Except.map]

theorem transition_error {B : Behaviour State Vars} {s : State} {v : Vars}
    {f : Fault} :
    B.program.transition s v = .error f <-> B.transition s v = .error f := by
  unfold program
  cases htransition : B.transition s v with
  | error f' =>
      simp [htransition, Except.map]
  | ok s' =>
      simp [htransition, Except.map]

theorem transition_ne_reenter {B : Behaviour State Vars} {s next : State}
    {v : Vars} : B.program.transition s v ≠ .ok (.reenter next) := by
  unfold program
  cases htransition : B.transition s v <;> simp [htransition, Except.map]

/-- What every action keeps, and every failure, a run keeps. -/
theorem run_preserves [DecidableEq State] (B : Behaviour State Vars)
    {I : Vars -> Prop}
    (haction : forall s v v', I v -> B.action s v = .ok v' -> I v')
    (hfail : forall s v f, I v -> B.action s v = .error f -> I (B.halt f v))
    (hstuck : forall s v f, I v -> B.transition s v = .error f ->
      I (B.halt f v))
    (hexhausted : forall v, I v -> I (B.halt .diverges v))
    (fuel : Nat) {m : Machine State Vars} (h : I m.vars) :
    I (B.program.run fuel m).vars := by
  refine Program.run_preserves B.program ?_ ?_ hexhausted fuel h
  · intro s v hv
    exact attempt_preserves (fun v' => haction s v v' hv)
      (fun f => hfail s v f hv)
  · intro s v f hv htransition
    exact hstuck s v f hv (transition_error.mp htransition)

/-- A program is annotated by what its actions and transitions establish. -/
def annotate (B : Behaviour State Vars) (Pre Post : State -> Vars -> Prop)
    (haction : forall s v v', Pre s v -> B.action s v = .ok v' -> Post s v')
    (htransition : forall s v next, Post s v -> B.transition s v = .ok next ->
      next ≠ s -> Pre next v) :
    Program.Annotation B.program where
  Pre := Pre
  Post := Post
  action s v hpre hfault := by
    change Post s (attempt B.halt v (B.action s v))
    change B.fault (attempt B.halt v (B.action s v)) = none at hfault
    cases hresult : B.action s v with
    | error f =>
        rw [attempt_error hresult] at hfault
        exact absurd hfault (B.fault_halt f v)
    | ok v' =>
        exact haction s v v' hpre hresult
  goto s v next hpost _ hnext hne :=
    htransition s v next hpost (transition_goto.mp hnext) hne
  reenter s v next _ _ hnext := absurd hnext transition_ne_reenter

section Execution

variable [DecidableEq State] {B : Behaviour State Vars}
  {m : Machine State Vars}

theorem run_rest (fuel : Nat) (hq : m.Quiescent) (hrun : B.fault m.vars = none)
    (hnext : B.transition m.state m.vars = .ok m.state) :
    B.program.run (fuel + 1) m = m := by
  have henter : B.program.enter m = m.vars := Program.enter_quiescent _ hq
  have hnext' : B.program.transition m.state (B.program.enter m) =
      .ok (.goto m.state) := by
    rw [henter]
    exact transition_goto.mpr hnext
  rw [Program.run_stay B.program fuel (by rw [henter]; exact hrun) hnext',
    henter]
  rcases m with ⟨state, lastState, vars⟩
  change lastState = some state at hq
  rw [hq]

theorem run_leave (fuel : Nat) {next : State} (hq : m.Quiescent)
    (hrun : B.fault m.vars = none)
    (hnext : B.transition m.state m.vars = .ok next) (hne : m.state ≠ next) :
    B.program.run (fuel + 1) m =
      B.program.run fuel
        { state := next, lastState := some m.state, vars := m.vars } := by
  have henter : B.program.enter m = m.vars := Program.enter_quiescent _ hq
  have hnext' : B.program.transition m.state (B.program.enter m) =
      .ok (.goto next) := by
    rw [henter]
    exact transition_goto.mpr hnext
  rw [Program.run_goto B.program fuel (by rw [henter]; exact hrun) hnext' hne,
    henter]

theorem enter_ok {v : Vars} (hq : ¬ m.Quiescent)
    (haction : B.action m.state m.vars = .ok v) : B.program.enter m = v := by
  rw [Program.enter_change _ hq]
  exact attempt_ok haction

theorem run_enter_rest (fuel : Nat) {v : Vars} (hq : ¬ m.Quiescent)
    (haction : B.action m.state m.vars = .ok v) (hrun : B.fault v = none)
    (hnext : B.transition m.state v = .ok m.state) :
    B.program.run (fuel + 1) m =
      { state := m.state, lastState := some m.state, vars := v } := by
  have henter : B.program.enter m = v := enter_ok hq haction
  have hnext' : B.program.transition m.state (B.program.enter m) =
      .ok (.goto m.state) := by
    rw [henter]
    exact transition_goto.mpr hnext
  rw [Program.run_stay B.program fuel (by rw [henter]; exact hrun) hnext',
    henter]

theorem run_enter_leave (fuel : Nat) {v : Vars} {next : State}
    (hq : ¬ m.Quiescent) (haction : B.action m.state m.vars = .ok v)
    (hrun : B.fault v = none) (hnext : B.transition m.state v = .ok next)
    (hne : m.state ≠ next) :
    B.program.run (fuel + 1) m =
      B.program.run fuel
        { state := next, lastState := some m.state, vars := v } := by
  have henter : B.program.enter m = v := enter_ok hq haction
  have hnext' : B.program.transition m.state (B.program.enter m) =
      .ok (.goto next) := by
    rw [henter]
    exact transition_goto.mpr hnext
  rw [Program.run_goto B.program fuel (by rw [henter]; exact hrun) hnext' hne,
    henter]

theorem run_enter_error (fuel : Nat) {v : Vars} {f : Fault}
    (hq : ¬ m.Quiescent) (haction : B.action m.state m.vars = .ok v)
    (hrun : B.fault v = none) (hnext : B.transition m.state v = .error f) :
    B.program.run (fuel + 1) m =
      { state := m.state, lastState := some m.state, vars := B.halt f v } := by
  have henter : B.program.enter m = v := enter_ok hq haction
  have hnext' : B.program.transition m.state (B.program.enter m) =
      .error f := by
    rw [henter]
    exact transition_error.mpr hnext
  rw [Program.run_error B.program fuel (by rw [henter]; exact hrun) hnext',
    henter]
  rfl

theorem run_enter_fail (fuel : Nat) {f : Fault} (hq : ¬ m.Quiescent)
    (haction : B.action m.state m.vars = .error f) :
    B.program.run (fuel + 1) m =
      { state := m.state, lastState := some m.state,
        vars := B.halt f m.vars } := by
  have henter : B.program.enter m = B.halt f m.vars := by
    rw [Program.enter_change _ hq]
    exact attempt_error haction
  rw [Program.run_fault B.program fuel, henter]
  rw [henter]
  exact B.fault_halt f m.vars

end Execution

end Behaviour

end Foundation
end Ziggo

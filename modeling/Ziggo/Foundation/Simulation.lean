import Mathlib.Data.List.Forall2
import Mathlib.Logic.Function.Basic
import Ziggo.Foundation.Embedded
import Ziggo.Foundation.Runs

/-!
# Simulation

Two machines whose variables are related run alike if their actions keep the
relation and their transitions do not see the difference.  The module gives the
rule for the driver, for machines in a world, and for reactive programs of which
one takes several steps, or none, for a step of the other.
-/

namespace Ziggo
namespace Foundation

theorem update_related {Index α β : Type} [DecidableEq Index]
    {R : Index -> α -> β -> Prop} {f : Index -> α} {g : Index -> β}
    (h : forall i, R i (f i) (g i)) {i : Index} {a : α} {b : β} (hab : R i a b)
    (j : Index) : R j (Function.update f i a j) (Function.update g i b j) := by
  by_cases hj : j = i
  · subst hj
    rw [Function.update_self, Function.update_self]
    exact hab
  · rw [Function.update_of_ne hj, Function.update_of_ne hj]
    exact h j

theorem ite_related {α β : Type} {R : α -> β -> Prop} {c c' : Prop}
    [Decidable c] [Decidable c'] (hc : c' <-> c) {a b : α} {a' b' : β}
    (h : R a a') (h' : R b b') :
    R (if c then a else b) (if c' then a' else b') := by
  by_cases hholds : c
  · rw [if_pos hholds, if_pos (hc.mpr hholds)]
    exact h
  · rw [if_neg hholds, if_neg fun hc' => hholds (hc.mp hc')]
    exact h'

/-!
## Outcomes
-/

/-- Both computations fail in the same way, or yield related results. -/
def Outcomes {α β : Type} (R : α -> β -> Prop) :
    Except Fault α -> Except Fault β -> Prop
  | .ok a, .ok b => R a b
  | .error f, .error g => f = g
  | _, _ => False

namespace Outcomes

variable {α β γ δ : Type} {R : α -> β -> Prop} {S : γ -> δ -> Prop}

theorem ok {a : α} {b : β} (h : R a b) : Outcomes R (.ok a) (.ok b) :=
  h

theorem error (f : Fault) :
    Outcomes R (.error f : Except Fault α) (.error f : Except Fault β) :=
  rfl

/-- The same computation, each of its results related to itself. -/
theorem same {R : α -> α -> Prop} (hR : forall a, R a a) (x : Except Fault α) :
    Outcomes R x x := by
  cases x with
  | error f => exact error f
  | ok a => exact hR a

theorem bind {x : Except Fault α} {y : Except Fault β}
    {f : α -> Except Fault γ} {g : β -> Except Fault δ} (h : Outcomes R x y)
    (hnext : forall a b, R a b -> Outcomes S (f a) (g b)) :
    Outcomes S (x >>= f) (y >>= g) := by
  cases x with
  | error e =>
      cases y with
      | error e' =>
          cases h
          exact error e
      | ok b => exact h.elim
  | ok a =>
      cases y with
      | error e' => exact h.elim
      | ok b => exact hnext a b h

/-- A value that both computations share comes first. -/
theorem bind_same {x : Except Fault α} {f : α -> Except Fault γ}
    {g : α -> Except Fault δ} (hnext : forall a, Outcomes S (f a) (g a)) :
    Outcomes S (x >>= f) (x >>= g) := by
  cases x with
  | error e => exact error e
  | ok a => exact hnext a

theorem ite {c c' : Prop} [Decidable c] [Decidable c'] (hc : c' <-> c)
    {x x' : Except Fault α} {y y' : Except Fault β} (h : Outcomes R x y)
    (h' : Outcomes R x' y') :
    Outcomes R (if c then x else x') (if c' then y else y') :=
  ite_related hc h h'

theorem error_right {f : Fault} {y : Except Fault β}
    (h : Outcomes R (.error f) y) : y = .error f := by
  cases y with
  | error g => exact congrArg Except.error (Eq.symm h)
  | ok b => exact h.elim

theorem ok_right {a : α} {y : Except Fault β} (h : Outcomes R (.ok a) y) :
    exists b, y = .ok b ∧ R a b := by
  cases y with
  | error g => exact h.elim
  | ok b => exact ⟨b, rfl, h⟩

theorem mono {R' : α -> β -> Prop} {x : Except Fault α} {y : Except Fault β}
    (h : Outcomes R x y) (hR : forall a b, R a b -> R' a b) :
    Outcomes R' x y := by
  cases x with
  | error e =>
      cases y with
      | error e' => exact h
      | ok b => exact h.elim
  | ok a =>
      cases y with
      | error e' => exact h.elim
      | ok b => exact hR a b h

end Outcomes

theorem attempt_related {V W : Type} {R : V -> W -> Prop}
    {halt : Fault -> V -> V} {halt' : Fault -> W -> W} {v : V} {w : W}
    {x : Except Fault V} {y : Except Fault W} (h : Outcomes R x y)
    (hhalt : forall f, R (halt f v) (halt' f w)) :
    R (attempt halt v x) (attempt halt' w y) := by
  cases x with
  | error e =>
      cases y with
      | error e' =>
          cases h
          exact hhalt e
      | ok b => exact h.elim
  | ok a =>
      cases y with
      | error e' => exact h.elim
      | ok b => exact h

/-!
## Machines
-/

/-- The machines are at the same point, and their variables are related. -/
structure Machine.Related {State V W : Type} (R : V -> W -> Prop)
    (m : Machine State V) (n : Machine State W) : Prop where
  state : n.state = m.state
  lastState : n.lastState = m.lastState
  vars : R m.vars n.vars

theorem Machine.Related.quiescent {State V W : Type} {R : V -> W -> Prop}
    {m : Machine State V} {n : Machine State W} (h : m.Related R n) :
    n.Quiescent <-> m.Quiescent := by
  unfold Machine.Quiescent
  rw [h.state, h.lastState]

/-- The programs do not see the difference between related variables. -/
structure Program.Simulates {State V W : Type} (R : V -> W -> Prop)
    (P : Program State V) (Q : Program State W) : Prop where
  action : forall s v w, R v w -> R (P.action s v) (Q.action s w)
  transition : forall s v w, R v w -> Q.transition s w = P.transition s v
  fault : forall v w, R v w -> Q.fault w = P.fault v
  halt : forall f v w, R v w -> R (P.halt f v) (Q.halt f w)

namespace Program

variable {State V W : Type} [DecidableEq State] {R : V -> W -> Prop}
  {P : Program State V} {Q : Program State W}

theorem Simulates.enter (h : Simulates R P Q) {m : Machine State V}
    {n : Machine State W} (hm : m.Related R n) : R (P.enter m) (Q.enter n) := by
  by_cases hq : m.Quiescent
  · rw [enter_quiescent P hq, enter_quiescent Q (hm.quiescent.mpr hq)]
    exact hm.vars
  · rw [enter_change P hq,
      enter_change Q fun hq' => hq (hm.quiescent.mp hq'), hm.state]
    exact h.action _ _ _ hm.vars

theorem Simulates.pass (h : Simulates R P Q) {m : Machine State V}
    {n : Machine State W} (hm : m.Related R n) :
    (P.pass m).Related R (Q.pass n) := by
  have henter := h.enter hm
  have hnext : Q.transition n.state (Q.enter n) =
      P.transition m.state (P.enter m) := by
    rw [hm.state]
    exact h.transition _ _ _ henter
  by_cases hfault : P.fault (P.enter m) = none
  · have hfault' : Q.fault (Q.enter n) = none :=
      (h.fault _ _ henter).trans hfault
    cases htransition : P.transition m.state (P.enter m) with
    | error f =>
        rw [pass_error P hfault htransition,
          pass_error Q hfault' (hnext.trans htransition)]
        exact ⟨hm.state, congrArg some hm.state, h.halt f _ _ henter⟩
    | ok next =>
        cases next with
        | goto next =>
            rw [pass_goto P hfault htransition,
              pass_goto Q hfault' (hnext.trans htransition)]
            exact ⟨rfl, congrArg some hm.state, henter⟩
        | reenter next =>
            rw [pass_reenter P hfault htransition,
              pass_reenter Q hfault' (hnext.trans htransition)]
            exact ⟨rfl, rfl, henter⟩
  · have hfault' : Q.fault (Q.enter n) ≠ none := fun hnone =>
      hfault ((h.fault _ _ henter).symm.trans hnone)
    rw [pass_fault P hfault, pass_fault Q hfault']
    exact ⟨hm.state, congrArg some hm.state, henter⟩

theorem Simulates.run (h : Simulates R P Q) (fuel : Nat) {m : Machine State V}
    {n : Machine State W} (hm : m.Related R n) :
    (P.run fuel m).Related R (Q.run fuel n) := by
  induction fuel generalizing m n with
  | zero => exact ⟨hm.state, hm.lastState, h.halt _ _ _ hm.vars⟩
  | succ fuel ih =>
      have hpass := h.pass hm
      rw [Program.run, Program.run]
      by_cases hq : (P.pass m).Quiescent
      · rw [if_pos hq, if_pos (hpass.quiescent.mpr hq)]
        exact hpass
      · rw [if_neg hq, if_neg fun hq' => hq (hpass.quiescent.mp hq')]
        exact ih hpass

end Program

theorem Behaviour.simulates {State V W : Type} {R : V -> W -> Prop}
    {B : Behaviour State V} {C : Behaviour State W}
    (haction : forall s v w, R v w -> Outcomes R (B.action s v) (C.action s w))
    (htransition : forall s v w, R v w -> C.transition s w = B.transition s v)
    (hfault : forall v w, R v w -> C.fault w = B.fault v)
    (hhalt : forall f v w, R v w -> R (B.halt f v) (C.halt f w)) :
    Program.Simulates R B.program C.program where
  action s v w hvw :=
    attempt_related (haction s v w hvw) (fun f => hhalt f v w hvw)
  transition s v w hvw := by
    change (C.transition s w).map _ = (B.transition s v).map _
    rw [htransition s v w hvw]
  fault := hfault
  halt := hhalt

/-!
## Machines in a world
-/

/-- Statements that keep a relation between worlds. -/
def Preserves {World : Type} (R : World -> World -> Prop)
    (statement : World -> World) : Prop :=
  forall w w', R w w' -> R (statement w) (statement w')

namespace Preserves

variable {World : Type} {R : World -> World -> Prop} {f g : World -> World}

theorem comp (hg : Preserves R g) (hf : Preserves R f) :
    Preserves R fun w => g (f w) :=
  fun w w' h => hg _ _ (hf w w' h)

theorem id : Preserves R fun w => w :=
  fun _ _ h => h

theorem ite {c : World -> Prop} [DecidablePred c]
    (hc : forall w w', R w w' -> (c w' <-> c w)) (hf : Preserves R f)
    (hg : Preserves R g) : Preserves R fun w => if c w then f w else g w :=
  fun w w' h => ite_related (hc w w' h) (hf w w' h) (hg w w' h)

theorem foldl {Index : Type} {statement : Index -> World -> World}
    (h : forall i, Preserves R (statement i)) (indices : List Index) :
    Preserves R fun w => indices.foldl (fun w i => statement i w) w := by
  induction indices with
  | nil => exact id
  | cons i indices ih =>
      intro w w' hw
      exact ih _ _ (h i w w' hw)

end Preserves

/-- A machine in a world does not see the difference between related worlds. -/
theorem Embedded.preserves_run {State World : Type} [DecidableEq State]
    {R : World -> World -> Prop} {M : Embedded State World}
    (hprogram : Program.Simulates R M.program M.program)
    (hcontrol : forall w w', R w w' -> M.control w' = M.control w)
    (hstore : forall c, Preserves R (M.store c))
    (hready : forall s w w', R w w' -> M.ready w' s = M.ready w s)
    (fuel : Nat) : Preserves R (M.run fuel) := by
  intro w w' h
  have hstart : Machine.Related R
      { state := M.ready w (M.control w).state
        lastState := (M.control w).lastState
        vars := w }
      { state := M.ready w' (M.control w').state
        lastState := (M.control w').lastState
        vars := w' } := by
    refine ⟨?_, congrArg Control.lastState (hcontrol w w' h), h⟩
    change M.ready w' (M.control w').state = M.ready w (M.control w).state
    rw [hcontrol w w' h, hready _ w w' h]
  obtain ⟨hstate, hlast, hvars⟩ := hprogram.run fuel hstart
  unfold Embedded.run
  dsimp only
  rw [hstate, hlast]
  exact hstore _ _ _ hvars

/-!
## Reactive programs

A program that handles many inputs is simulated by one whose events the inputs
lead to.
-/

section Reactive

variable {Input State Event : Type} {step : State -> Event -> State}

/-- Possible events lead from one state to the other. -/
def Reaches (step : State -> Event -> State) (Ok : Event -> Prop)
    (s s' : State) : Prop :=
  exists es, (forall e, e ∈ es -> Ok e) ∧ s' = runEvents step s es

namespace Reaches

variable {Ok : Event -> Prop} {s s' s'' : State}

theorem refl (s : State) : Reaches step Ok s s :=
  ⟨[], fun _ h => absurd h List.not_mem_nil, rfl⟩

theorem event (s : State) {e : Event} (he : Ok e) :
    Reaches step Ok s (step s e) := by
  refine ⟨[e], fun e' he' => ?_, rfl⟩
  rw [List.mem_singleton.mp he']
  exact he

theorem trans (h : Reaches step Ok s s') (h' : Reaches step Ok s' s'') :
    Reaches step Ok s s'' := by
  obtain ⟨es, hes, rfl⟩ := h
  obtain ⟨fs, hfs, rfl⟩ := h'
  refine ⟨es ++ fs, fun e he => ?_, (runEvents_append step s es fs).symm⟩
  rcases List.mem_append.mp he with he | he
  · exact hes e he
  · exact hfs e he

theorem invariant (h : Reaches step Ok s s') {I : State -> Prop}
    (hstep : forall s e, I s -> Ok e -> I (step s e)) (hs : I s) : I s' := by
  obtain ⟨es, hes, rfl⟩ := h
  exact run_invariant hs hstep (along_of_forall (fun _ e he => hes e he) s)

/-- What the events add one after the other, they add all together. -/
theorem accumulates {α : Type} {a : α} {n : State -> Nat}
    (h : Reaches step Ok s s') {I : State -> List α -> Prop}
    (hcount : forall s e, n s ≤ n (step s e))
    (hstep : forall s xs e, I s xs -> Ok e ->
      I (step s e) (xs ++ List.replicate (n (step s e) - n s) a))
    {xs : List α} (hs : I s xs) :
    I s' (xs ++ List.replicate (n s' - n s) a) := by
  have hsum := h.invariant
    (I := fun s' => n s ≤ n s' ∧
      I s' (xs ++ List.replicate (n s' - n s) a))
    (fun s' e hI he => by
      obtain ⟨hle, hI⟩ := hI
      have hnext := hstep s' _ e hI he
      have hgrows := hcount s' e
      have hsplit : n (step s' e) - n s =
          (n s' - n s) + (n (step s' e) - n s') := by omega
      rw [List.append_assoc, List.replicate_append_replicate, ← hsplit] at hnext
      exact ⟨Nat.le_trans hle hgrows, hnext⟩)
    ⟨Nat.le_refl _, by rwa [Nat.sub_self, List.replicate_zero, List.append_nil]⟩
  exact hsum.right

end Reaches

/-- Each input leads to events that are possible at it. -/
def Follows (step : State -> Event -> State) (At : Input -> Event -> Prop)
    (s : State) (inputs : List Input) (s' : State) : Prop :=
  exists segments,
    List.Forall₂ (fun input es => forall e, e ∈ es -> At input e) inputs
      segments ∧ s' = runEvents step s segments.flatten

namespace Follows

variable {At : Input -> Event -> Prop} {s s' s'' : State} {inputs : List Input}

theorem start (s : State) : Follows step At s [] s :=
  ⟨[], .nil, rfl⟩

theorem of_nil (h : Follows step At s [] s') : s' = s := by
  obtain ⟨segments, hsegments, rfl⟩ := h
  cases hsegments
  rfl

theorem concat (h : Follows step At s inputs s') {input : Input}
    (h' : Reaches step (At input) s' s'') :
    Follows step At s (inputs ++ [input]) s'' := by
  obtain ⟨segments, hsegments, rfl⟩ := h
  obtain ⟨es, hes, rfl⟩ := h'
  refine ⟨segments ++ [es], List.rel_append hsegments (.cons hes .nil), ?_⟩
  rw [List.flatten_append, List.flatten_singleton, runEvents_append]

/-- The events of the run are possible at some input. -/
theorem reaches (h : Follows step At s inputs s') :
    Reaches step (fun e => exists input, input ∈ inputs ∧ At input e) s s' := by
  obtain ⟨segments, hsegments, rfl⟩ := h
  refine ⟨segments.flatten, fun e he => ?_, rfl⟩
  obtain ⟨es, hes, he⟩ := List.mem_flatten.mp he
  obtain ⟨k, hk, rfl⟩ := List.mem_iff_getElem.mp hes
  have hlength := hsegments.length_eq
  have hk' : k < inputs.length := hlength ▸ hk
  exact ⟨inputs[k], List.getElem_mem hk', hsegments.get hk' hk e he⟩

end Follows

end Reactive

end Foundation
end Ziggo

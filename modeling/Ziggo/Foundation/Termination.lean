import Mathlib.Logic.Function.Iterate
import Ziggo.Foundation.Embedded
import Ziggo.Foundation.Faults

/-!
# Drivers that come to rest

The driver of a machine is a loop that ends with the first pass that leaves the
machine quiescent.  This module says that the loop ends, that a run then is the
loop without its bound and keeps what its passes keep, and gives the rule by
which it is proved: a rank that every change of the state lowers.
-/

namespace Ziggo
namespace Foundation

namespace Program

variable {State Vars : Type} [DecidableEq State] {P : Program State Vars}

/-- The loop of the driver ends within the given number of passes. -/
def EndsWithin (P : Program State Vars) (fuel : Nat)
    (m : Machine State Vars) : Prop :=
  exists n, n < fuel ∧ (P.pass^[n + 1] m).Quiescent

theorem EndsWithin.mono {fuel bound : Nat} {m : Machine State Vars}
    (h : P.EndsWithin fuel m) (hle : fuel ≤ bound) : P.EndsWithin bound m := by
  obtain ⟨n, hn, hq⟩ := h
  exact ⟨n, Nat.lt_of_lt_of_le hn hle, hq⟩

theorem endsWithin_of_quiescent (fuel : Nat) {m : Machine State Vars}
    (h : (P.pass m).Quiescent) : P.EndsWithin (fuel + 1) m :=
  ⟨0, Nat.succ_pos fuel, h⟩

theorem endsWithin_of_pass {fuel : Nat} {m : Machine State Vars}
    (h : P.EndsWithin fuel (P.pass m)) : P.EndsWithin (fuel + 1) m := by
  obtain ⟨n, hn, hq⟩ := h
  exact ⟨n + 1, Nat.succ_lt_succ hn, hq⟩

theorem EndsWithin.pass {fuel : Nat} {m : Machine State Vars}
    (h : P.EndsWithin (fuel + 1) m) (hq : ¬ (P.pass m).Quiescent) :
    P.EndsWithin fuel (P.pass m) := by
  obtain ⟨n, hn, hnq⟩ := h
  cases n with
  | zero => exact absurd hnq hq
  | succ n => exact ⟨n, Nat.lt_of_succ_lt_succ hn, hnq⟩

theorem not_endsWithin_zero {m : Machine State Vars} : ¬ P.EndsWithin 0 m := by
  rintro ⟨_, hn, _⟩
  exact Nat.not_lt_zero _ hn

theorem run_of_endsWithin {fuel : Nat} {m : Machine State Vars}
    (h : P.EndsWithin fuel m) :
    exists n, n < fuel ∧ (P.pass^[n + 1] m).Quiescent ∧
      forall bound, fuel ≤ bound -> P.run bound m = P.pass^[n + 1] m := by
  induction fuel generalizing m with
  | zero => exact absurd h not_endsWithin_zero
  | succ fuel ih =>
      by_cases hq : (P.pass m).Quiescent
      · refine ⟨0, Nat.succ_pos fuel, hq, fun bound hbound => ?_⟩
        obtain ⟨bound, rfl⟩ := Nat.exists_eq_succ_of_ne_zero
          (Nat.ne_of_gt (Nat.lt_of_lt_of_le (Nat.succ_pos fuel) hbound))
        rw [run, if_pos hq]
        rfl
      · obtain ⟨n, hn, hnq, hrun⟩ := ih (h.pass hq)
        refine ⟨n + 1, Nat.succ_lt_succ hn, hnq, fun bound hbound => ?_⟩
        obtain ⟨bound, rfl⟩ := Nat.exists_eq_succ_of_ne_zero
          (Nat.ne_of_gt (Nat.lt_of_lt_of_le (Nat.succ_pos fuel) hbound))
        rw [run, if_neg hq, hrun bound (Nat.le_of_succ_le_succ hbound)]
        rfl

/-- What the passes of a loop keep, the loop keeps if it ends. -/
theorem run_of_passes {I : Machine State Vars -> Prop}
    (hpass : forall m, P.fault m.vars = none -> I m -> I (P.pass m))
    {fuel : Nat} {m : Machine State Vars} (hends : P.EndsWithin fuel m)
    (hrun : P.fault m.vars = none) (h : I m) : I (P.run fuel m) := by
  induction fuel generalizing m with
  | zero => exact absurd hends not_endsWithin_zero
  | succ fuel ih =>
      have hnext := hpass m hrun h
      rw [run]
      by_cases hq : (P.pass m).Quiescent
      · rw [if_pos hq]
        exact hnext
      · rw [if_neg hq]
        have hrunning : P.fault (P.pass m).vars = none := by
          by_contra hfault
          exact hq (pass_quiescent_of_fault P hfault)
        exact ih (hends.pass hq) hrunning hnext

/-!
## Ranks
-/

/-- A state leads to a state whose action is performed. -/
def Leads (P : Program State Vars) (s : State) (v : Vars) (t : State) : Prop :=
  (P.transition s v = .ok (.goto t) ∧ t ≠ s) ∨
    P.transition s v = .ok (.reenter t)

/--
A rank of the states that are about to be entered, which their actions lower.
`Enters` is what the variables meet whenever a state is entered.
-/
structure Ranking (P : Program State Vars) (bound : Nat) where
  Enters : State -> Vars -> Prop
  rank : State -> Vars -> Nat
  leads : forall s v t, Enters s v -> P.fault (P.action s v) = none ->
    P.Leads s (P.action s v) t ->
    Enters t (P.action s v) ∧ rank t (P.action s v) < rank s v
  bounded : forall s v, rank s v < bound

theorem leads_of_pass {m : Machine State Vars} (h : ¬ (P.pass m).Quiescent) :
    P.fault (P.enter m) = none ∧
      P.Leads m.state (P.enter m) (P.pass m).state ∧
      (P.pass m).vars = P.enter m ∧ ¬ (P.pass m).Quiescent := by
  by_cases hrun : P.fault (P.enter m) = none
  · cases htransition : P.transition m.state (P.enter m) with
    | error f =>
        rw [pass_error P hrun htransition] at h
        exact absurd rfl h
    | ok next =>
        cases next with
        | goto next =>
            have hpass := pass_goto P hrun htransition
            rw [hpass] at h ⊢
            refine ⟨hrun, Or.inl ⟨htransition, ?_⟩, rfl, h⟩
            rintro rfl
            exact h rfl
        | reenter next =>
            have hpass := pass_reenter P hrun htransition
            rw [hpass] at h ⊢
            exact ⟨hrun, Or.inr htransition, rfl, h⟩
  · rw [pass_fault P hrun] at h
    exact absurd rfl h

theorem rest_of_pass {m : Machine State Vars} (hq : (P.pass m).Quiescent)
    (hrun : P.fault (P.pass m).vars = none) :
    (P.pass m).state = m.state ∧ (P.pass m).vars = P.enter m := by
  by_cases henter : P.fault (P.enter m) = none
  · cases htransition : P.transition m.state (P.enter m) with
    | error f =>
        rw [pass_error P henter htransition] at hrun
        exact absurd hrun (P.fault_halt f _)
    | ok next =>
        cases next with
        | goto next =>
            rw [pass_goto P henter htransition] at hq ⊢
            exact ⟨(Option.some.inj hq).symm, rfl⟩
        | reenter next =>
            rw [pass_reenter P henter htransition] at hq
            cases hq
  · rw [pass_fault P henter]
    exact ⟨rfl, rfl⟩

namespace Ranking

variable {bound : Nat} (R : Ranking P bound)

include R

theorem endsWithin_entered {m : Machine State Vars} (hq : ¬ m.Quiescent)
    (h : R.Enters m.state m.vars) :
    P.EndsWithin (R.rank m.state m.vars + 1) m := by
  induction hrank : R.rank m.state m.vars using Nat.strongRecOn
    generalizing m with
  | ind rank ih =>
      by_cases hrest : (P.pass m).Quiescent
      · exact endsWithin_of_quiescent rank hrest
      · obtain ⟨hrun, hleads, hvars, hnext⟩ := leads_of_pass hrest
        rw [enter_change P hq] at hrun hleads hvars
        obtain ⟨henters, hlower⟩ := R.leads m.state m.vars _ h hrun hleads
        rw [← hvars] at henters hlower
        rw [hrank] at hlower
        obtain ⟨n, hn, hnq⟩ := ih _ hlower hnext henters rfl
        exact endsWithin_of_pass ⟨n, Nat.lt_of_lt_of_le hn hlower, hnq⟩

/-- The driver comes to rest, also when it starts in a state that it rests in. -/
theorem endsWithin {m : Machine State Vars}
    (hentered : ¬ m.Quiescent -> R.Enters m.state m.vars)
    (hrested : m.Quiescent -> forall t, P.Leads m.state m.vars t ->
      R.Enters t m.vars) : P.EndsWithin (bound + 1) m := by
  by_cases hq : m.Quiescent
  · by_cases hrest : (P.pass m).Quiescent
    · exact endsWithin_of_quiescent bound hrest
    · obtain ⟨_, hleads, hvars, hnext⟩ := leads_of_pass hrest
      rw [enter_quiescent P hq] at hleads hvars
      have henters := hrested hq _ hleads
      rw [← hvars] at henters
      obtain ⟨n, hn, hnq⟩ := R.endsWithin_entered hnext henters
      refine endsWithin_of_pass ⟨n, ?_, hnq⟩
      exact Nat.lt_of_lt_of_le hn (R.bounded _ _)
  · obtain ⟨n, hn, hnq⟩ := R.endsWithin_entered hq (hentered hq)
    refine ⟨n, Nat.lt_of_lt_of_le hn ?_, hnq⟩
    exact Nat.le_succ_of_le (R.bounded _ _)

theorem endsWithin_of_forall {m : Machine State Vars}
    (h : forall s, R.Enters s m.vars) : P.EndsWithin (bound + 1) m :=
  R.endsWithin (fun _ => h m.state) (fun _ t _ => h t)

end Ranking

section Leads

omit [DecidableEq State]

variable {s t : State} {v : Vars}

theorem not_leads_of_goto (h : P.transition s v = .ok (.goto s)) :
    ¬ P.Leads s v t := by
  rintro (⟨hgoto, hne⟩ | hreenter)
  · rw [h] at hgoto
    cases hgoto
    exact hne rfl
  · rw [h] at hreenter
    cases hreenter

theorem not_leads_of_error {f : Fault} (h : P.transition s v = .error f) :
    ¬ P.Leads s v t := by
  rintro (⟨hgoto, _⟩ | hreenter)
  · rw [h] at hgoto
    cases hgoto
  · rw [h] at hreenter
    cases hreenter

theorem leads_goto {next : State} (h : P.transition s v = .ok (.goto next))
    (hleads : P.Leads s v t) : t = next := by
  rcases hleads with ⟨hgoto, _⟩ | hreenter
  · rw [h] at hgoto
    cases hgoto
    rfl
  · rw [h] at hreenter
    cases hreenter

end Leads

/-- A machine that rests in every state it enters but the first one. -/
def settling (first second : State) (Enters : State -> Vars -> Prop)
    (hfirst : forall v, P.transition first v = .ok (.goto second))
    (hne : second ≠ first) (hsecond : forall v, Enters second v)
    (hsettled : forall s v t, s ≠ first -> Enters s v ->
      P.fault (P.action s v) = none -> ¬ P.Leads s (P.action s v) t) :
    Ranking P 2 where
  Enters := Enters
  rank s _ := if s = first then 1 else 0
  leads s v t h hrun hleads := by
    by_cases hs : s = first
    · subst hs
      cases leads_goto (hfirst _) hleads
      rw [if_pos rfl, if_neg hne]
      exact ⟨hsecond _, Nat.one_pos⟩
    · exact absurd hleads (hsettled s v t hs h hrun)
  bounded s _ := by
    split <;> decide

end Program

namespace Behaviour

variable {State Vars : Type} [DecidableEq State]

/-- A ranking of a machine without reentered states. -/
def ranking (B : Behaviour State Vars) {bound : Nat} (Holds : Vars -> Prop)
    (rank : State -> Vars -> Nat)
    (haction : forall s v v', Holds v -> B.action s v = .ok v' -> Holds v')
    (hleads : forall s v v' t, Holds v -> B.action s v = .ok v' ->
      B.transition s v' = .ok t -> t ≠ s -> rank t v' < rank s v)
    (hbounded : forall s v, rank s v < bound) :
    Program.Ranking B.program bound where
  Enters _ := Holds
  rank := rank
  leads s v t h hrun hnext := by
    change B.fault (attempt B.halt v (B.action s v)) = none at hrun
    change B.program.Leads s (attempt B.halt v (B.action s v)) t at hnext
    change Holds (attempt B.halt v (B.action s v)) ∧
      rank t (attempt B.halt v (B.action s v)) < rank s v
    cases hresult : B.action s v with
    | error f =>
        rw [attempt_error hresult] at hrun
        exact absurd hrun (B.fault_halt f v)
    | ok v' =>
        rw [hresult] at hnext
        rcases hnext with ⟨hgoto, hne⟩ | hreenter
        · exact ⟨haction s v v' h hresult,
            hleads s v v' t h hresult (transition_goto.mp hgoto) hne⟩
        · exact absurd hreenter transition_ne_reenter
  bounded := hbounded

theorem fault_of_endsWithin {B : Behaviour State Vars} (h : B.Records)
    {f : Fault} (haction : forall s v, B.action s v ≠ .error f)
    (htransition : forall s v, B.transition s v ≠ .error f) {fuel : Nat}
    {m : Machine State Vars} (hends : B.program.EndsWithin fuel m)
    (hrun : B.fault m.vars = none) :
    B.fault (B.program.run fuel m).vars ≠ some f := by
  have hstart : B.fault m.vars ≠ some f := by
    rw [hrun]
    exact (Option.some_ne_none f).symm
  refine @Program.run_of_passes _ _ _ B.program
    (fun m => B.fault m.vars ≠ some f) (fun m hrunning _ => ?_) _ _ hends hrun
    hstart
  refine @Program.pass_of_enter _ _ _ B.program (fun v => B.fault v ≠ some f)
    m ?_ (fun s v g _ hnext => ?_)
  · rw [Ne, enter_fault_iff h hrunning]
    exact fun hfails => haction _ _ hfails.right
  · intro hfault
    cases Option.some.inj ((h.halt g v).symm.trans hfault)
    exact htransition s v (transition_error.mp hnext)

end Behaviour

namespace Program

variable {State Vars : Type} [DecidableEq State] {P : Program State Vars}

/-- A loop that ends survives if its actions do, and its transitions exist. -/
theorem Annotation.survives (A : Annotation P)
    (haction : forall s v, A.Pre s v -> P.fault v = none ->
      P.fault (P.action s v) = none)
    (htransition : forall s v f, A.Post s v -> P.transition s v ≠ .error f)
    {fuel : Nat} {m : Machine State Vars} (hends : P.EndsWithin fuel m)
    (hholds : A.Holds m) (hrun : P.fault m.vars = none) :
    P.fault (P.run fuel m).vars = none := by
  refine (run_of_passes (I := fun m => P.fault m.vars = none ∧ A.Holds m)
    (fun m hrun h => ?_) hends hrun ⟨hrun, hholds⟩).left
  have henter : P.fault (P.enter m) = none := by
    by_cases hq : m.Quiescent
    · rw [enter_quiescent P hq]
      exact hrun
    · rw [enter_change P hq]
      exact haction _ _ (h.right.right hq) hrun
  have hpass : P.fault (P.pass m).vars = none := by
    cases hnext : P.transition m.state (P.enter m) with
    | error f =>
        exact absurd hnext (htransition _ _ f (A.post_enter h.right henter))
    | ok next =>
        cases next with
        | goto next =>
            rw [pass_goto P henter hnext]
            exact henter
        | reenter next =>
            rw [pass_reenter P henter hnext]
            exact henter
  exact ⟨hpass, A.holds_pass h.right hpass⟩

end Program

namespace Embedded

variable {State World : Type} [DecidableEq State]

/-- The loop of a machine in a world ends within the given number of passes. -/
def EndsWithin (M : Embedded State World) (fuel : Nat) (w : World) : Prop :=
  M.program.EndsWithin fuel
    { state := M.ready w (M.control w).state
      lastState := (M.control w).lastState
      vars := w }

theorem run_of_endsWithin {M : Embedded State World} {I : World -> Prop}
    (haction : forall s w, M.program.fault w = none -> I w ->
      I (M.program.action s w))
    (hhalt : forall s w f, I w -> M.program.transition s w = .error f ->
      I (M.program.halt f w))
    (hstore : forall c w, I w -> I (M.store c w)) {fuel : Nat} {w : World}
    (hends : M.EndsWithin fuel w) (hrun : M.program.fault w = none)
    (h : I w) : I (M.run fuel w) := by
  refine hstore _ _ (@Program.run_of_passes _ _ _ _ (fun m => I m.vars)
    (fun m hrunning hm => ?_) _ _ hends hrun h)
  refine Program.pass_of_enter M.program ?_ hhalt
  by_cases hq : m.Quiescent
  · rw [Program.enter_quiescent _ hq]
    exact hm
  · rw [Program.enter_change _ hq]
    exact haction m.state m.vars hrunning hm

end Embedded

end Foundation
end Ziggo

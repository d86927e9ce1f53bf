import Mathlib.Data.List.Induction

/-!
# Runs over lists of events

A reactive program is a function that takes one event after the other.  This
module fixes the vocabulary for its runs: the state a list of events leads to,
conditions that every step of a run meets, and the induction rules, one for
invariants of the state, one for invariants that relate the state to the
events so far, and one for a loop over indices.
-/

namespace Ziggo
namespace Foundation

variable {State Event : Type} (step : State -> Event -> State)

/-- The state that a list of events leads to. -/
def runEvents (s : State) (es : List Event) : State :=
  es.foldl step s

@[simp] theorem runEvents_nil (s : State) : runEvents step s [] = s :=
  rfl

@[simp] theorem runEvents_cons (s : State) (e : Event) (es : List Event) :
    runEvents step s (e :: es) = runEvents step (step s e) es :=
  rfl

theorem runEvents_append (s : State) (es fs : List Event) :
    runEvents step s (es ++ fs) = runEvents step (runEvents step s es) fs :=
  List.foldl_append

theorem runEvents_concat (s : State) (es : List Event) (e : Event) :
    runEvents step s (es ++ [e]) = step (runEvents step s es) e := by
  rw [runEvents_append]
  rfl

/-- Every step of the run meets the condition `Ok` in the state it starts from. -/
def Along (Ok : State -> Event -> Prop) (s : State) (es : List Event) : Prop :=
  forall history e rest, es = history ++ e :: rest ->
    Ok (runEvents step s history) e

variable {step}

theorem along_nil (Ok : State -> Event -> Prop) (s : State) :
    Along step Ok s [] := by
  intro history e rest h
  cases history <;> cases h

theorem along_cons {Ok : State -> Event -> Prop} {s : State} {e : Event}
    {es : List Event} :
    Along step Ok s (e :: es) <-> Ok s e ∧ Along step Ok (step s e) es := by
  constructor
  · intro h
    refine ⟨h [] e es rfl, fun history e' rest hes => ?_⟩
    apply h (e :: history) e' rest
    rw [hes]
    rfl
  · rintro ⟨hfirst, hrest⟩ history e' rest hes
    cases history with
    | nil =>
        cases hes
        exact hfirst
    | cons e'' history =>
        cases hes
        exact hrest history e' rest rfl

theorem Along.init {Ok : State -> Event -> Prop} {s : State}
    {es : List Event} {e : Event} (h : Along step Ok s (es ++ [e])) :
    Along step Ok s es := by
  intro history e' rest hes
  apply h history e' (rest ++ [e])
  rw [hes]
  simp

theorem Along.last {Ok : State -> Event -> Prop} {s : State}
    {es : List Event} {e : Event} (h : Along step Ok s (es ++ [e])) :
    Ok (runEvents step s es) e :=
  h es e [] rfl

theorem Along.concat {Ok : State -> Event -> Prop} {s : State}
    {es : List Event} {e : Event} (h : Along step Ok s es)
    (hlast : Ok (runEvents step s es) e) : Along step Ok s (es ++ [e]) := by
  induction es generalizing s with
  | nil => exact along_cons.mpr ⟨hlast, along_nil Ok _⟩
  | cons first es ih =>
      obtain ⟨hfirst, hrest⟩ := along_cons.mp h
      exact along_cons.mpr ⟨hfirst, ih hrest hlast⟩

theorem along_of_forall {Ok : State -> Event -> Prop} {es : List Event}
    (h : forall s e, e ∈ es -> Ok s e) (s : State) : Along step Ok s es := by
  rintro history e rest rfl
  exact h _ e (List.mem_append_right _ List.mem_cons_self)

theorem Along.prefix {Ok : State -> Event -> Prop} {s : State}
    {es fs : List Event} (h : Along step Ok s (es ++ fs)) :
    Along step Ok s es := by
  intro history e rest hes
  apply h history e (rest ++ fs)
  rw [hes]
  simp

/--
A property of the history and the state holds after every run whose steps meet
`Ok`, if it holds at the start and each such step keeps it.
-/
theorem history_invariant {Ok : State -> Event -> Prop} {s : State}
    {I : List Event -> State -> Prop} (hinit : I [] s)
    (hstep : forall history e, I history (runEvents step s history) ->
      Ok (runEvents step s history) e ->
      I (history ++ [e]) (step (runEvents step s history) e))
    {es : List Event} (hes : Along step Ok s es) :
    I es (runEvents step s es) := by
  induction es using List.reverseRecOn with
  | nil =>
      exact hinit
  | append_singleton es e ih =>
      rw [runEvents_concat]
      exact hstep es e (ih hes.init) hes.last

/-- A property of the state that every step meeting `Ok` keeps. -/
theorem run_invariant {Ok : State -> Event -> Prop} {s : State}
    {I : State -> Prop} (hinit : I s)
    (hstep : forall s e, I s -> Ok s e -> I (step s e))
    {es : List Event} (hes : Along step Ok s es) :
    I (runEvents step s es) :=
  history_invariant (I := fun _ s => I s) hinit
    (fun _ e h hok => hstep _ e h hok) hes

/-- A property of the state that every step keeps. -/
theorem run_invariant_always {s : State} {I : State -> Prop} (hinit : I s)
    (hstep : forall s e, I s -> I (step s e)) (es : List Event) :
    I (runEvents step s es) := by
  induction es generalizing s with
  | nil =>
      exact hinit
  | cons e es ih =>
      exact ih (hstep s e hinit)

/--
A loop over distinct indices keeps a property of the indices it has dealt with,
if each of its passes adds one index to them.
-/
theorem foldl_distinct {Index : Type} {f : State -> Index -> State}
    {I : (Index -> Prop) -> State -> Prop}
    (hpass : forall done s i, ¬ done i -> I done s ->
      I (fun j => j = i ∨ done j) (f s i))
    {indices : List Index} (hnodup : indices.Nodup) {done : Index -> Prop}
    (hnew : forall i, i ∈ indices -> ¬ done i) {s : State} (h : I done s) :
    I (fun j => j ∈ indices ∨ done j) (indices.foldl f s) := by
  induction indices generalizing s done with
  | nil => simpa using h
  | cons i indices ih =>
      have hcons := List.nodup_cons.mp hnodup
      have hfirst := hpass done s i (hnew i List.mem_cons_self) h
      have hrest := ih hcons.right (fun j hj => ?_) hfirst
      · have hsame : (fun j => j ∈ indices ∨ j = i ∨ done j) =
            fun j => j ∈ i :: indices ∨ done j := by
          funext j
          rw [List.mem_cons, ← or_assoc, or_comm (a := j ∈ indices)]
        rw [hsame] at hrest
        exact hrest
      · rintro (rfl | hdone)
        · exact hcons.left hj
        · exact hnew j (List.mem_cons_of_mem _ hj) hdone

end Foundation
end Ziggo

import Mathlib.Order.Defs.Unbundled

/-!
# Elections

A loop over the members of a list that keeps the best value seen so far.  The
loop starts with a given value and considers the eligible members only.
-/

namespace Ziggo
namespace Foundation

theorem foldl_keeps {α β γ : Type} {f : β -> α -> β} {V : β -> γ}
    (h : forall b a, V (f b a) = V b) (l : List α) (b : β) :
    V (l.foldl f b) = V b := by
  induction l generalizing b with
  | nil =>
      rfl
  | cons a l ih =>
      exact (ih (f b a)).trans (h b a)

theorem foldl_preserves {α β : Type} {f : β -> α -> β} {I : β -> Prop}
    (h : forall b a, I b -> I (f b a)) (l : List α) {b : β} (hb : I b) :
    I (l.foldl f b) := by
  induction l generalizing b with
  | nil =>
      exact hb
  | cons a l ih =>
      exact ih (h b a hb)

/--
What one member establishes and all members keep holds for every member, where
`I` is an invariant of the loop.
-/
theorem foldl_establishes {α β : Type} {f : β -> α -> β} {I : β -> Prop}
    {V : α -> β -> Prop} (hinvariant : forall b a, I b -> I (f b a))
    (hmember : forall b a, I b -> V a (f b a))
    (hkeep : forall b a a', I b -> V a b -> V a (f b a')) {l : List α} {a : α}
    (ha : a ∈ l) {b : β} (hb : I b) : V a (l.foldl f b) := by
  induction l generalizing b with
  | nil =>
      cases ha
  | cons a' l ih =>
      cases ha with
      | tail _ ha =>
          exact ih ha (hinvariant b a' hb)
      | head =>
          have hrest := foldl_preserves (I := fun b => I b ∧ V a b)
            (fun b a' h => ⟨hinvariant b a' h.left, hkeep b a a' h.left h.right⟩)
            l ⟨hinvariant b a hb, hmember b a hb⟩
          exact hrest.right

variable {ι α : Type} (better : α -> α -> Prop) [DecidableRel better]
  (eligible : ι -> Prop) [DecidablePred eligible] (value : ι -> α)

/-- The better one of the best value so far and the value of a member. -/
def challenge (best : α) (i : ι) : α :=
  if eligible i ∧ better (value i) best then value i else best

/-- The value that the loop ends with. -/
def elect (l : List ι) (b : α) : α :=
  l.foldl (challenge better eligible value) b

/-- No eligible member of the list has a better value. -/
def Unbeaten (l : List ι) (b : α) : Prop :=
  forall i, i ∈ l -> eligible i -> ¬ better (value i) b

theorem challenge_choice (b : α) (i : ι) :
    challenge better eligible value b i = b ∨
      (eligible i ∧ better (value i) b ∧
        challenge better eligible value b i = value i) := by
  unfold challenge
  by_cases h : eligible i ∧ better (value i) b
  · rw [if_pos h]
    exact Or.inr ⟨h.left, h.right, rfl⟩
  · rw [if_neg h]
    exact Or.inl rfl

section Order

variable [IsStrictOrder α better]

/-- The winner is the first value or the better value of a member. -/
theorem elect_choice (l : List ι) (b : α) :
    elect better eligible value l b = b ∨
      exists i, i ∈ l ∧ eligible i ∧ better (value i) b ∧
        elect better eligible value l b = value i := by
  induction l generalizing b with
  | nil =>
      exact Or.inl rfl
  | cons i l ih =>
      change elect better eligible value l (challenge better eligible value b i)
          = b ∨ exists j, j ∈ i :: l ∧ eligible j ∧ better (value j) b ∧
        elect better eligible value l (challenge better eligible value b i) =
          value j
      rcases ih (challenge better eligible value b i) with hkeep | hnew
      · rw [hkeep]
        rcases challenge_choice better eligible value b i with
          hb | ⟨hi, hbetter, hvalue⟩
        · exact Or.inl hb
        · exact Or.inr ⟨i, List.mem_cons_self, hi, hbetter, hvalue⟩
      · obtain ⟨j, hj, heligible, hbetter, hvalue⟩ := hnew
        refine Or.inr ⟨j, List.mem_cons_of_mem i hj, heligible, ?_, hvalue⟩
        rcases challenge_choice better eligible value b i with
          hb | ⟨_, hbetter', hvalue'⟩
        · rw [hb] at hbetter
          exact hbetter
        · rw [hvalue'] at hbetter
          exact IsTrans.trans _ _ _ hbetter hbetter'

/-- Whoever beats the winner beats the value the loop started with. -/
theorem better_of_better_elect {l : List ι} {a b : α}
    (h : better a (elect better eligible value l b)) : better a b := by
  rcases elect_choice better eligible value l b with
    hb | ⟨i, _, _, hbetter, hvalue⟩
  · rw [hb] at h
    exact h
  · rw [hvalue] at h
    exact IsTrans.trans _ _ _ h hbetter

theorem elect_unbeaten (l : List ι) (b : α) :
    Unbeaten better eligible value l (elect better eligible value l b) := by
  induction l generalizing b with
  | nil =>
      intro i hi
      cases hi
  | cons i l ih =>
      intro j hj hjeligible hjbetter
      rcases List.mem_cons.mp hj with rfl | hj
      · -- A member that beats the winner would have replaced the best value.
        have hchallenge : better (value j)
            (challenge better eligible value b j) :=
          better_of_better_elect better eligible value hjbetter
        unfold challenge at hchallenge
        by_cases hb : eligible j ∧ better (value j) b
        · rw [if_pos hb] at hchallenge
          exact Std.Irrefl.irrefl (r := better) _ hchallenge
        · rw [if_neg hb] at hchallenge
          exact hb ⟨hjeligible, hchallenge⟩
      · exact ih _ j hj hjeligible hjbetter

end Order

end Foundation
end Ziggo

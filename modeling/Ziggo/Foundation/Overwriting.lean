import Mathlib.Order.Lattice
import Mathlib.Data.List.Basic

/-!
# Loops that overwrite a value

A loop may write a variable in some of its passes.  The variable then holds
what the last of these passes wrote, or its old value if none of them wrote it.
-/

namespace Ziggo
namespace Foundation

section Overwriting

variable {α β : Type} {P : α -> Prop} [DecidablePred P] {f : α -> β}

/-- A pass that writes the value `f a` if the index `a` asks for it. -/
def overwrite (P : α -> Prop) [DecidablePred P] (f : α -> β) (b : β) (a : α) :
    β :=
  if P a then f a else b

theorem foldl_overwrite_none {l : List α} (h : forall a, a ∈ l -> ¬ P a)
    (b : β) : l.foldl (overwrite P f) b = b := by
  induction l generalizing b with
  | nil =>
      rfl
  | cons a l ih =>
      have hkeep : overwrite P f b a = b := if_neg (h a List.mem_cons_self)
      rw [List.foldl_cons, hkeep]
      exact ih (fun a ha => h a (List.mem_cons_of_mem _ ha)) b

/-- The indices come in ascending order, and `a` is the last that asks. -/
theorem foldl_overwrite_last [LinearOrder α] {l : List α}
    (hsorted : l.Pairwise (· < ·)) {a : α} (ha : a ∈ l) (hP : P a)
    (hlast : forall c, P c -> c ≤ a) (b : β) :
    l.foldl (overwrite P f) b = f a := by
  induction l generalizing b with
  | nil => cases ha
  | cons c l ih =>
      obtain ⟨hbelow, hsorted⟩ := List.pairwise_cons.mp hsorted
      rw [List.foldl_cons]
      rcases List.mem_cons.mp ha with rfl | ha
      · have hwrite : overwrite P f b a = f a := if_pos hP
        rw [hwrite]
        refine foldl_overwrite_none (fun d hd hPd => ?_) (f a)
        exact absurd (hlast d hPd) (not_le.mpr (hbelow d hd))
      · exact ih hsorted ha _

end Overwriting

end Foundation
end Ziggo

import Ziggo.Foundation.SortUnique

/-!
# Intervals between cuts

Disjoint half-open intervals are cut out of a range, and the range is divided
at their ends.  A part of the range then lies within one of the intervals or
outside all of them, and its left end decides which: it is the left end of an
interval or it is not.
-/

namespace Ziggo
namespace Foundation

variable {α : Type} [LinearOrder α]

/-- The points are the ends of the intervals and of the range. -/
structure Cuts (low high : α) (points : Finset α) (intervals : Set (α × α)) :
    Prop where
  lt : forall p, p ∈ intervals -> p.1 < p.2
  within : forall p, p ∈ intervals -> low ≤ p.1 ∧ p.2 ≤ high
  disjoint : forall p q, p ∈ intervals -> q ∈ intervals ->
    forall t, p.1 ≤ t ∧ t < p.2 -> q.1 ≤ t ∧ t < q.2 -> p = q
  mem_points : forall x, x ∈ points <->
    x = low ∨ x = high ∨ exists p, p ∈ intervals ∧ (x = p.1 ∨ x = p.2)

namespace Cuts

variable {low high a b t : α} {points : Finset α} {intervals : Set (α × α)}

theorem left_mem (h : Cuts low high points intervals) {p : α × α}
    (hp : p ∈ intervals) : p.1 ∈ points :=
  (h.mem_points p.1).mpr (Or.inr (Or.inr ⟨p, hp, Or.inl rfl⟩))

theorem right_mem (h : Cuts low high points intervals) {p : α × α}
    (hp : p ∈ intervals) : p.2 ∈ points :=
  (h.mem_points p.2).mpr (Or.inr (Or.inr ⟨p, hp, Or.inr rfl⟩))

theorem le_high (h : Cuts low high points intervals) (hrange : low ≤ high)
    (hb : b ∈ points) : b ≤ high := by
  rcases (h.mem_points b).mp hb with rfl | rfl | ⟨p, hp, rfl | rfl⟩
  · exact hrange
  · exact le_rfl
  · exact (h.lt p hp).le.trans (h.within p hp).right
  · exact (h.within p hp).right

theorem low_le (h : Cuts low high points intervals) (hrange : low ≤ high)
    (hb : b ∈ points) : low ≤ b := by
  rcases (h.mem_points b).mp hb with rfl | rfl | ⟨p, hp, rfl | rfl⟩
  · exact le_rfl
  · exact hrange
  · exact (h.within p hp).left
  · exact (h.within p hp).left.trans (h.lt p hp).le

/-- A part that begins with an interval lies within it. -/
theorem mem_of_start (h : Cuts low high points intervals)
    (hgap : Gap points a b) (ht : a ≤ t ∧ t < b) {p : α × α}
    (hp : p ∈ intervals) (hstart : a = p.1) : p.1 ≤ t ∧ t < p.2 := by
  subst hstart
  refine ⟨ht.left, ?_⟩
  have hright := (hgap.empty p.2 (h.right_mem hp)).resolve_left
    (h.lt p hp).not_ge
  exact lt_of_lt_of_le ht.right hright

/-- A part with a point of an interval begins with one. -/
theorem start_of_mem (h : Cuts low high points intervals) (hrange : low ≤ high)
    (hgap : Gap points a b) (ht : a ≤ t ∧ t < b) {p : α × α}
    (hp : p ∈ intervals) (hmem : p.1 ≤ t ∧ t < p.2) :
    exists q, q ∈ intervals ∧ a = q.1 := by
  have hleft : p.1 ≤ a := (hgap.empty p.1 (h.left_mem hp)).resolve_right
    (lt_of_le_of_lt hmem.left ht.right).not_ge
  rcases hleft.eq_or_lt with heq | hlt
  · exact ⟨p, hp, heq.symm⟩
  · rcases (h.mem_points a).mp hgap.left with rfl | rfl | ⟨q, hq, hend | hend⟩
    · exact absurd hlt (h.within p hp).left.not_gt
    · exact absurd hgap.lt (h.le_high hrange hgap.right).not_gt
    · exact ⟨q, hq, hend⟩
    · -- The interval that ends here would overlap the one around the point.
      subst hend
      have hinside : q.2 < p.2 := lt_of_le_of_lt ht.left hmem.right
      have hlast : max p.1 q.1 < q.2 := max_lt hlt (h.lt q hq)
      have hsame := h.disjoint p q hp hq (max p.1 q.1)
        ⟨le_max_left _ _, hlast.trans hinside⟩ ⟨le_max_right _ _, hlast⟩
      rw [hsame] at hinside
      exact absurd hinside (lt_irrefl _)

/-- The left end of a part decides whether it lies within an interval. -/
theorem start_iff (h : Cuts low high points intervals) (hrange : low ≤ high)
    (hgap : Gap points a b) (ht : a ≤ t ∧ t < b) :
    (exists p, p ∈ intervals ∧ a = p.1) <->
      exists p, p ∈ intervals ∧ p.1 ≤ t ∧ t < p.2 := by
  constructor
  · rintro ⟨p, hp, hstart⟩
    exact ⟨p, hp, h.mem_of_start hgap ht hp hstart⟩
  · rintro ⟨p, hp, hmem⟩
    exact h.start_of_mem hrange hgap ht hp hmem

end Cuts

end Foundation
end Ziggo

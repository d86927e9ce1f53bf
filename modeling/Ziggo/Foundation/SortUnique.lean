import Mathlib.Data.Finset.Sort
import Mathlib.Data.List.Destutter

/-!
# Sorting without repetitions

A C++ program lists the members of a set by `std::sort` followed by
`std::unique`.  The result is the increasing enumeration of the finite set of
the elements, and its neighbouring entries are the gaps of that set.
-/

namespace Ziggo
namespace Foundation

variable {α : Type} [LinearOrder α]

/-- `std::sort`, and the erasure of the repetitions that `std::unique` finds. -/
def sortUnique (l : List α) : List α :=
  (l.insertionSort (· ≤ ·)).destutter (· ≠ ·)

example : sortUnique [5, 0, 2048, 5, 3, 0] = [0, 3, 5, 2048] := by decide

theorem mem_destutter'_ne {l : List α} {a b : α} :
    b ∈ l.destutter' (· ≠ ·) a <-> b = a ∨ b ∈ l := by
  induction l generalizing a with
  | nil =>
      simp
  | cons c l ih =>
      by_cases hne : a ≠ c
      · rw [List.destutter'_cons_pos (R := (· ≠ ·)) l hne, List.mem_cons, ih,
          List.mem_cons]
      · rw [List.destutter'_cons_neg (R := (· ≠ ·)) l hne, ih, List.mem_cons,
          not_ne_iff.mp hne]
        tauto

theorem mem_destutter_ne {l : List α} {b : α} :
    b ∈ l.destutter (· ≠ ·) <-> b ∈ l := by
  cases l with
  | nil =>
      rfl
  | cons a l =>
      rw [List.destutter_cons', mem_destutter'_ne, List.mem_cons]

theorem mem_sortUnique {l : List α} {b : α} : b ∈ sortUnique l <-> b ∈ l := by
  rw [sortUnique, mem_destutter_ne, List.mem_insertionSort]

theorem sortedLT_sortUnique (l : List α) : (sortUnique l).SortedLT := by
  have hsorted : (sortUnique l).Pairwise (· ≤ ·) :=
    (List.pairwise_insertionSort (· ≤ ·) l).sublist
      (List.destutter_sublist (· ≠ ·) _)
  have hne : (sortUnique l).IsChain (· ≠ ·) := List.isChain_destutter (· ≠ ·) _
  refine List.sortedLT_iff_isChain.mpr ?_
  rw [List.isChain_iff_forall_rel_of_append_cons_cons] at hne ⊢
  intro a b l₁ l₂ hsplit
  have hle : a ≤ b := by
    rw [hsplit] at hsorted
    have htail := (List.pairwise_append.mp hsorted).right.left
    exact (List.pairwise_cons.mp htail).left b (by simp)
  exact lt_of_le_of_ne hle (hne hsplit)

theorem sortUnique_eq_sort (l : List α) : sortUnique l = l.toFinset.sort := by
  refine (sortedLT_sortUnique l).eq_of_mem_iff
    (Finset.sortedLT_sort l.toFinset) ?_
  intro a
  rw [mem_sortUnique, Finset.mem_sort, List.mem_toFinset]

theorem length_sortUnique (l : List α) :
    (sortUnique l).length = l.toFinset.card := by
  rw [sortUnique_eq_sort, Finset.length_sort]

theorem getElem?_zero_of_sortedLT {l : List α} {a : α} (h : l.SortedLT)
    (ha : a ∈ l) (hleast : forall b, b ∈ l -> a ≤ b) : l[0]? = some a := by
  obtain ⟨k, hk, rfl⟩ := List.mem_iff_getElem.mp ha
  have hpos : 0 < l.length := Nat.lt_of_le_of_lt (Nat.zero_le k) hk
  rw [List.getElem?_eq_getElem hpos]
  congr 1
  refine le_antisymm ?_ (hleast _ (List.getElem_mem hpos))
  exact h.strictMono_get.monotone (Nat.zero_le k : (⟨0, hpos⟩ : Fin _) ≤ ⟨k, hk⟩)

theorem getElem?_last_of_sortedLT {l : List α} {a : α} (h : l.SortedLT)
    (ha : a ∈ l) (hgreatest : forall b, b ∈ l -> b ≤ a) :
    l[l.length - 1]? = some a := by
  obtain ⟨k, hk, rfl⟩ := List.mem_iff_getElem.mp ha
  have hlast : l.length - 1 < l.length := by omega
  have hle : k ≤ l.length - 1 := by omega
  rw [List.getElem?_eq_getElem hlast]
  congr 1
  refine le_antisymm (hgreatest _ (List.getElem_mem hlast)) ?_
  exact h.strictMono_get.monotone (hle : (⟨k, hk⟩ : Fin _) ≤ ⟨_, hlast⟩)

/-!
## Gaps
-/

/-- Two members of a set with no member between them. -/
structure Gap (s : Finset α) (a b : α) : Prop where
  left : a ∈ s
  right : b ∈ s
  lt : a < b
  empty : forall c, c ∈ s -> c ≤ a ∨ b ≤ c

theorem gap_of_split {l l₁ l₂ : List α} {a b : α} (h : l.SortedLT)
    (hsplit : l = l₁ ++ a :: b :: l₂) : Gap l.toFinset a b := by
  rw [List.sortedLT_iff_pairwise, hsplit, List.pairwise_append,
    List.pairwise_cons, List.pairwise_cons] at h
  obtain ⟨_, ⟨ha, hb, _⟩, hbefore⟩ := h
  refine ⟨by simp [hsplit], by simp [hsplit], ha b (by simp), ?_⟩
  intro c hc
  rw [hsplit, List.mem_toFinset, List.mem_append, List.mem_cons,
    List.mem_cons] at hc
  rcases hc with hc | rfl | rfl | hc
  · exact Or.inl (hbefore c hc a (by simp)).le
  · exact Or.inl le_rfl
  · exact Or.inr le_rfl
  · exact Or.inr (hb c hc).le

theorem Gap.split {l : List α} {a b : α} (h : l.SortedLT)
    (hgap : Gap l.toFinset a b) : exists l₁ l₂, l = l₁ ++ a :: b :: l₂ := by
  obtain ⟨l₁, tail, htail⟩ := List.append_of_mem (List.mem_toFinset.mp hgap.left)
  have hb : b ∈ l := List.mem_toFinset.mp hgap.right
  rw [List.sortedLT_iff_pairwise, htail, List.pairwise_append,
    List.pairwise_cons] at h
  obtain ⟨_, ⟨ha, hsorted⟩, hbefore⟩ := h
  have hbtail : b ∈ tail := by
    rw [htail, List.mem_append, List.mem_cons] at hb
    rcases hb with hb | rfl | hb
    · exact absurd (hbefore b hb a (by simp)) hgap.lt.not_gt
    · exact absurd hgap.lt (lt_irrefl b)
    · exact hb
  cases tail with
  | nil =>
      cases hbtail
  | cons c l₂ =>
      refine ⟨l₁, l₂, ?_⟩
      -- The element after `a` is not beyond `b`, and the gap has no other.
      have hcb : c ≤ b := by
        rcases List.mem_cons.mp hbtail with rfl | hb'
        · exact le_rfl
        · exact ((List.pairwise_cons.mp hsorted).left b hb').le
      have hbc : b ≤ c := by
        refine (hgap.empty c ?_).resolve_left (ha c (by simp)).not_ge
        simp [htail]
      rw [htail, le_antisymm hbc hcb]

theorem isChain_sortUnique_iff {R : α -> α -> Prop} {l : List α} :
    (sortUnique l).IsChain R <-> forall a b, Gap l.toFinset a b -> R a b := by
  have hset : (sortUnique l).toFinset = l.toFinset := by
    ext a
    rw [List.mem_toFinset, mem_sortUnique, List.mem_toFinset]
  rw [List.isChain_iff_forall_rel_of_append_cons_cons, ← hset]
  constructor
  · intro h a b hgap
    obtain ⟨l₁, l₂, hsplit⟩ := hgap.split (sortedLT_sortUnique l)
    exact h hsplit
  · intro h a b l₁ l₂ hsplit
    exact h a b (gap_of_split (sortedLT_sortUnique l) hsplit)

end Foundation
end Ziggo

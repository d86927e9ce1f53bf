import Mathlib.Data.List.Nodup

/-!
# The ends of a path

The edges of a path lead from each node of a list without repetitions to the
next one.  The ends of the path are determined by the edges alone: the first
node is the only one that no edge leads to, and the last node is the only one
that no edge leaves.
-/

namespace Ziggo
namespace Foundation

variable {α : Type}

/-- The two nodes follow each other in the list. -/
def Adjacent (nodes : List α) (a b : α) : Prop :=
  exists before after, nodes = before ++ a :: b :: after

/-- Edges leave the node, and none leads to it. -/
def Source (Edge : α -> α -> Prop) (n : α) : Prop :=
  (exists m, Edge n m) ∧ forall m, ¬ Edge m n

/-- Edges lead to the node, and none leaves it. -/
def Sink (Edge : α -> α -> Prop) (n : α) : Prop :=
  Source (fun a b => Edge b a) n

/-- The edges are those of a path with at least one edge. -/
structure IsPath (Edge : α -> α -> Prop) (nodes : List α) : Prop where
  nodup : nodes.Nodup
  length : 2 ≤ nodes.length
  edge : forall a b, Edge a b <-> Adjacent nodes a b

theorem adjacent_singleton {n a b : α} : ¬ Adjacent [n] a b := by
  rintro ⟨before, after, h⟩
  have hlength : 1 = (before ++ a :: b :: after).length :=
    congrArg List.length h
  simp only [List.length_append, List.length_cons] at hlength
  omega

theorem adjacent_cons {first second a b : α} {nodes : List α} :
    Adjacent (first :: second :: nodes) a b <->
      (a = first ∧ b = second) ∨ Adjacent (second :: nodes) a b := by
  constructor
  · rintro ⟨before, after, h⟩
    cases before with
    | nil =>
        cases h
        exact Or.inl ⟨rfl, rfl⟩
    | cons p before =>
        rw [List.cons_append] at h
        exact Or.inr ⟨before, after, (List.cons.inj h).right⟩
  · rintro (⟨rfl, rfl⟩ | ⟨before, after, h⟩)
    · exact ⟨[], nodes, rfl⟩
    · exact ⟨first :: before, after, by rw [h, List.cons_append]⟩

theorem adjacent_reverse {nodes : List α} {a b : α} :
    Adjacent nodes.reverse b a <-> Adjacent nodes a b := by
  have himp : forall {nodes : List α} {a b : α}, Adjacent nodes a b ->
      Adjacent nodes.reverse b a := by
    rintro nodes a b ⟨before, after, rfl⟩
    exact ⟨after.reverse, before.reverse, by simp⟩
  constructor
  · intro h
    have hback := himp h
    rwa [List.reverse_reverse] at hback
  · exact himp

theorem IsPath.reverse {Edge : α -> α -> Prop} {nodes : List α}
    (h : IsPath Edge nodes) : IsPath (fun a b => Edge b a) nodes.reverse where
  nodup := List.nodup_reverse.mpr h.nodup
  length := by
    rw [List.length_reverse]
    exact h.length
  edge a b := by
    rw [adjacent_reverse]
    exact h.edge b a

theorem IsPath.source_iff {Edge : α -> α -> Prop} {nodes : List α}
    (h : IsPath Edge nodes) {n : α} :
    Source Edge n <-> nodes.head? = some n := by
  obtain ⟨hnodup, hlength, hedge⟩ := h
  constructor
  · rintro ⟨⟨m, hm⟩, hnone⟩
    obtain ⟨before, after, hnodes⟩ := (hedge n m).mp hm
    rcases List.eq_nil_or_concat before with rfl | ⟨before, p, rfl⟩
    · rw [hnodes]
      rfl
    · refine absurd ((hedge p n).mpr ⟨before, m :: after, ?_⟩) (hnone p)
      rw [hnodes]
      simp
  · intro hhead
    cases nodes with
    | nil => cases hhead
    | cons first nodes =>
        cases nodes with
        | nil => exact absurd hlength (Nat.not_succ_le_self 1)
        | cons second nodes =>
            cases hhead
            refine ⟨⟨second, (hedge _ _).mpr ⟨[], nodes, rfl⟩⟩, ?_⟩
            intro m hm
            obtain ⟨before, after, hnodes⟩ := (hedge _ _).mp hm
            have hlater := (List.nodup_cons.mp hnodup).left
            cases before with
            | nil =>
                rw [List.nil_append] at hnodes
                apply hlater
                rw [(List.cons.inj hnodes).right]
                exact List.mem_cons_self
            | cons p before =>
                rw [List.cons_append] at hnodes
                apply hlater
                rw [(List.cons.inj hnodes).right]
                simp

theorem IsPath.sink_iff {Edge : α -> α -> Prop} {nodes : List α}
    (h : IsPath Edge nodes) {n : α} :
    Sink Edge n <-> nodes.getLast? = some n := by
  rw [← List.head?_reverse]
  exact h.reverse.source_iff

end Foundation
end Ziggo

import Mathlib.Data.List.Nodup

/-!
# Matching a queue with the requests for its entries

A queue holds entries with distinct keys, and requests come for some of them,
in the order of the queue.  Whoever reads the queue up to the entry that is
asked for stays in step with the requests: what is dropped on the way is never
asked for.
-/

namespace Ziggo
namespace Foundation

variable {α κ : Type} {key : α -> κ} {queue taken pending unread : List α}

/--
The requests `taken` have been served and the requests `pending` come later,
when the entries `unread` are left of the queue.
-/
def InStep (queue taken pending unread : List α) : Prop :=
  exists past, queue = past ++ unread ∧ taken.Sublist past ∧
    pending.Sublist unread

theorem InStep.start (h : pending.Sublist queue) :
    InStep queue [] pending queue :=
  ⟨[], rfl, List.Sublist.slnil, h⟩

/-- The entries before the one that is asked for have other keys. -/
theorem exists_skipped {a : α} (h : (a :: pending).Sublist unread)
    (hkeys : (unread.map key).Nodup) :
    exists skipped rest, unread = skipped ++ a :: rest ∧
      pending.Sublist rest ∧ forall s, s ∈ skipped -> key s ≠ key a := by
  obtain ⟨before, after, rfl, hmem, hpending⟩ := List.cons_sublist_iff.mp h
  obtain ⟨skipped, rest, rfl⟩ := List.append_of_mem hmem
  refine ⟨skipped, rest ++ after, by simp, ?_, ?_⟩
  · exact hpending.trans (List.sublist_append_right rest after)
  · intro s hs hkey
    rw [List.append_assoc, List.map_append] at hkeys
    refine List.disjoint_of_nodup_append hkeys (List.mem_map_of_mem hs) ?_
    rw [hkey]
    exact List.mem_map_of_mem List.mem_cons_self

theorem InStep.next {a : α} (h : InStep queue taken (a :: pending) unread)
    (hkeys : (queue.map key).Nodup) :
    exists skipped rest, unread = skipped ++ a :: rest ∧
      (forall s, s ∈ skipped -> key s ≠ key a) ∧
      InStep queue (taken ++ [a]) pending rest := by
  obtain ⟨past, rfl, htaken, hpending⟩ := h
  rw [List.map_append] at hkeys
  obtain ⟨skipped, rest, rfl, hrest, hskipped⟩ :=
    exists_skipped hpending (List.Nodup.of_append_right hkeys)
  refine ⟨skipped, rest, rfl, hskipped, past ++ skipped ++ [a], by simp, ?_,
    hrest⟩
  exact (htaken.trans (List.sublist_append_left past skipped)).append
    (List.Sublist.refl [a])

/-- Whatever has been read was asked for, or never is. -/
theorem InStep.lost {past : List α} (hqueue : queue = past ++ unread)
    (hpending : pending.Sublist unread) (hnodup : queue.Nodup) {a : α}
    (ha : a ∈ past) : a ∈ taken ∨ a ∉ taken ++ pending := by
  rw [hqueue] at hnodup
  by_cases htaken : a ∈ taken
  · exact Or.inl htaken
  · refine Or.inr fun hmem => ?_
    rcases List.mem_append.mp hmem with hmem | hmem
    · exact htaken hmem
    · exact List.disjoint_of_nodup_append hnodup ha (hpending.subset hmem)

end Foundation
end Ziggo

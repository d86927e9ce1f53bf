import Mathlib.Algebra.Group.Fin.Basic
import Mathlib.Data.List.DropRight
import Ziggo.Foundation.RingBuffer

/-!
# Circular histories

A circular history keeps the last samples of a sequence in a ring of slots.  A
sample is recorded in the slot behind the newest one; if the ring is full, this
is the slot of the oldest one, which is given up.  A history may also be cut
down to its newest sample.
-/

namespace Ziggo
namespace Foundation

structure History (α : Type) (capacity : Nat) where
  slots : Fin capacity -> α
  head : Fin capacity
  tail : Fin capacity
  isEmpty : Bool

namespace History

open Foundation.Ring

variable {α : Type} {capacity : Nat} [NeZero capacity]

def record (a : α) (h : History α capacity) : History α capacity where
  slots := Function.update h.slots (h.tail + 1) a
  head :=
    if h.isEmpty = false ∧ h.head = h.tail + 1 then h.head + 1 else h.head
  tail := h.tail + 1
  isEmpty := false

/-- Only the newest sample is kept. -/
def restart (h : History α capacity) : History α capacity :=
  { h with head := h.tail }

/-- The distance from the oldest sample to the newest one. -/
def span (h : History α capacity) : Nat :=
  (h.tail - h.head).val

def samples (h : History α capacity) : List α :=
  if h.isEmpty then
    []
  else
    (List.range (h.span + 1)).map fun i => h.slots (h.head + slot capacity i)

/-- The first sample goes to the slot that the head points to. -/
def Ready (h : History α capacity) : Prop :=
  h.isEmpty = true -> h.head = h.tail + 1

theorem ready_record (a : α) (h : History α capacity) : (h.record a).Ready := by
  intro hempty
  cases hempty

theorem ready_restart {h : History α capacity} (hempty : h.isEmpty = false) :
    h.restart.Ready := by
  intro hrestart
  change h.isEmpty = true at hrestart
  rw [hempty] at hrestart
  cases hrestart

/-- A component of every sample. -/
def map {β : Type} (f : α -> β) (h : History α capacity) :
    History β capacity where
  slots i := f (h.slots i)
  head := h.head
  tail := h.tail
  isEmpty := h.isEmpty

theorem map_record {β : Type} (f : α -> β) (a : α) (h : History α capacity) :
    (h.record a).map f = (h.map f).record (f a) := by
  have hslots : (fun i => f (Function.update h.slots (h.tail + 1) a i)) =
      Function.update (fun i => f (h.slots i)) (h.tail + 1) (f a) :=
    funext fun i => Function.apply_update (fun _ => f) h.slots (h.tail + 1) a i
  exact congrArg
    (fun slots => (⟨slots, _, _, _⟩ : History β capacity)) hslots

omit [NeZero capacity] in
theorem update_pair {β : Type} (f : Fin capacity -> α) (g : Fin capacity -> β)
    (next : Fin capacity) (a : α) (b : β) :
    (fun i => (Function.update f next a i, Function.update g next b i)) =
      Function.update (fun i => (f i, g i)) next (a, b) := by
  funext i
  by_cases hi : i = next
  · subst hi
    rw [Function.update_self, Function.update_self, Function.update_self]
  · rw [Function.update_of_ne hi, Function.update_of_ne hi,
      Function.update_of_ne hi]

/-!
## The slots of the samples
-/

section Slots

variable (h : History α capacity)

omit [NeZero capacity] in
theorem span_lt : h.span < capacity :=
  (h.tail - h.head).isLt

theorem tail_eq : h.head + slot capacity h.span = h.tail := by
  have hslot : slot capacity h.span = h.tail - h.head := by
    ext
    exact slot_val h.span_lt
  rw [hslot, add_sub_cancel]

theorem next_eq : h.tail + 1 = h.head + slot capacity (h.span + 1) := by
  rw [slot_succ, ← add_assoc, h.tail_eq]

theorem slot_ne_next {i : Nat} (hfirst : 0 < i ∨ h.span + 1 < capacity)
    (hi : i ≤ h.span) : h.head + slot capacity i ≠ h.tail + 1 := by
  have hlt := h.span_lt
  rw [h.next_eq]
  intro hsame
  have hslots : slot capacity i = slot capacity (h.span + 1) :=
    add_left_cancel hsame
  exact slot_ne (by omega) (by omega) hslots

theorem full_iff : h.head = h.tail + 1 <-> h.span + 1 = capacity := by
  have hlt := h.span_lt
  constructor
  · intro hfull
    by_contra hroom
    have hne := h.slot_ne_next (i := 0) (by omega) (Nat.zero_le _)
    have hzero : slot capacity 0 = 0 := Fin.ofNat_zero capacity
    rw [hzero, add_zero] at hne
    exact hne hfull
  · intro hfull
    have hround : slot capacity capacity = 0 := by
      have hadd : slot capacity (0 + capacity) = slot capacity 0 :=
        slot_add_capacity 0
      rw [Nat.zero_add] at hadd
      exact hadd.trans (Fin.ofNat_zero capacity)
    rw [h.next_eq, hfull, hround, add_zero]

theorem length_samples (hempty : h.isEmpty = false) :
    h.samples.length = h.span + 1 := by
  unfold samples
  simp [hempty]

end Slots

/-!
## The history as a list
-/

section Samples

variable {h : History α capacity}

theorem samples_empty (hempty : h.isEmpty = true) : h.samples = [] :=
  if_pos hempty

theorem samples_nonempty (hempty : h.isEmpty = false) :
    h.samples =
      (List.range (h.span + 1)).map fun i => h.slots (h.head + slot capacity i) :=
  if_neg (by rw [hempty]; decide)

theorem samples_first (hready : h.Ready) (hempty : h.isEmpty = true) (a : α) :
    (h.record a).samples = [a] := by
  have hhead : (h.record a).head = h.tail + 1 := by
    change (if h.isEmpty = false ∧ h.head = h.tail + 1 then _ else _) = _
    rw [hempty, if_neg (by simp)]
    exact hready hempty
  have hspan : (h.record a).span = 0 := by
    unfold span
    rw [hhead]
    change (h.tail + 1 - (h.tail + 1)).val = 0
    rw [sub_self]
    rfl
  have hzero : slot capacity 0 = 0 := Fin.ofNat_zero capacity
  rw [samples_nonempty rfl, hspan, hhead]
  simp only [Nat.zero_add, List.range_one, List.map_cons, List.map_nil, hzero,
    add_zero]
  exact congrArg (fun x => [x]) (Function.update_self _ _ _)

theorem samples_room (hempty : h.isEmpty = false)
    (hroom : h.span + 1 < capacity) (a : α) :
    (h.record a).samples = h.samples ++ [a] := by
  have hhead : (h.record a).head = h.head := by
    change (if h.isEmpty = false ∧ h.head = h.tail + 1 then _ else _) = _
    rw [if_neg]
    rintro ⟨_, hfull⟩
    have hspan := h.full_iff.mp hfull
    omega
  have hspan : (h.record a).span = h.span + 1 := by
    unfold span
    rw [hhead]
    change (h.tail + 1 - h.head).val = _
    rw [h.next_eq, add_sub_cancel_left]
    exact slot_val hroom
  have hslots : forall i, (h.record a).slots i =
      Function.update h.slots (h.tail + 1) a i := fun _ => rfl
  rw [samples_nonempty rfl, samples_nonempty hempty, hspan, hhead,
    List.range_succ, List.map_append]
  simp only [hslots, List.map_cons, List.map_nil]
  refine congrArg₂ _ ?_ ?_
  · apply List.map_congr_left
    intro i hi
    have hlt := List.mem_range.mp hi
    exact Function.update_of_ne (h.slot_ne_next (by omega) (by omega)) _ _
  · rw [← h.next_eq, Function.update_self]

theorem samples_full (hempty : h.isEmpty = false)
    (hfull : h.span + 1 = capacity) (a : α) :
    (h.record a).samples = h.samples.tail ++ [a] := by
  have hhead : (h.record a).head = h.head + 1 :=
    if_pos ⟨hempty, h.full_iff.mpr hfull⟩
  have hspan : (h.record a).span = h.span := by
    unfold span
    rw [hhead]
    change (h.tail + 1 - (h.head + 1)).val = _
    rw [add_sub_add_right_eq_sub]
  have hslots : forall i, (h.record a).slots i =
      Function.update h.slots (h.tail + 1) a i := fun _ => rfl
  have hnext : forall i, h.head + 1 + slot capacity i =
      h.head + slot capacity (i + 1) := by
    intro i
    rw [slot_succ, add_assoc, add_comm 1]
  rw [samples_nonempty rfl, samples_nonempty hempty, hspan, hhead,
    List.range_succ, List.map_append, ← List.range_succ, List.range_succ_eq_map]
  simp only [hslots, hnext, List.map_cons, List.map_nil, List.tail_cons,
    List.map_map]
  refine congrArg₂ _ ?_ ?_
  · apply List.map_congr_left
    intro i hi
    have hlt := List.mem_range.mp hi
    exact Function.update_of_ne
      (h.slot_ne_next (Or.inl (Nat.succ_pos i)) (by omega)) _ _
  · rw [← h.next_eq, Function.update_self]

/-- A sample is appended, and a full history gives up its oldest one. -/
theorem samples_record (hready : h.Ready) (a : α) :
    (h.record a).samples =
      (if h.samples.length = capacity then h.samples.tail else h.samples) ++
        [a] := by
  cases hempty : h.isEmpty with
  | true =>
      rw [samples_first hready hempty, samples_empty hempty]
      split
      · rfl
      · rfl
  | false =>
      have hlt := h.span_lt
      rw [h.length_samples hempty]
      split
      case isTrue hfull => exact samples_full hempty hfull a
      case isFalse hroom => exact samples_room hempty (by omega) a

theorem samples_restart (hempty : h.isEmpty = false) :
    h.restart.samples = [h.slots h.tail] := by
  have hspan : h.restart.span = 0 := by
    change (h.tail - h.tail).val = 0
    rw [sub_self]
    rfl
  have hzero : slot capacity 0 = 0 := Fin.ofNat_zero capacity
  rw [samples_nonempty (h := h.restart) hempty, hspan]
  simp only [Nat.zero_add, List.range_one, List.map_cons, List.map_nil, hzero,
    add_zero]
  rfl

/-!
## Members
-/

theorem newest_mem (hempty : h.isEmpty = false) :
    h.slots h.tail ∈ h.samples := by
  rw [samples_nonempty hempty, List.mem_map]
  exact ⟨h.span, List.mem_range.mpr (Nat.lt_succ_self _), by rw [h.tail_eq]⟩

theorem mem_samples_record (hready : h.Ready) {a b : α}
    (hb : b ∈ (h.record a).samples) : b = a ∨ b ∈ h.samples := by
  rw [samples_record hready, List.mem_append, List.mem_singleton] at hb
  rcases hb with hold | hnew
  · right
    split at hold
    · exact List.mem_of_mem_tail hold
    · exact hold
  · exact Or.inl hnew

theorem mem_samples_restart (hempty : h.isEmpty = false) {b : α}
    (hb : b ∈ h.restart.samples) : b ∈ h.samples := by
  rw [samples_restart hempty, List.mem_singleton] at hb
  rw [hb]
  exact newest_mem hempty

theorem oldest_mem (hready : h.Ready) (a : α)
    (hseveral : (h.record a).head ≠ (h.record a).tail) :
    (h.record a).slots (h.record a).head ∈ h.samples := by
  have hne : h.isEmpty = false := by
    by_contra hempty
    have hempty' : h.isEmpty = true := by simpa using hempty
    apply hseveral
    change (if h.isEmpty = false ∧ h.head = h.tail + 1 then _ else _) =
      h.tail + 1
    rw [hempty', if_neg (by simp)]
    exact hready hempty'
  have hslot : (h.record a).slots (h.record a).head =
      h.slots (h.record a).head := Function.update_of_ne hseveral _ _
  rw [hslot, samples_nonempty hne, List.mem_map]
  change exists i, i ∈ List.range (h.span + 1) ∧ _ =
    h.slots (if h.isEmpty = false ∧ h.head = h.tail + 1 then h.head + 1
      else h.head)
  have hzero : slot capacity 0 = 0 := Fin.ofNat_zero capacity
  split
  case isTrue hfull =>
    refine ⟨1, List.mem_range.mpr ?_, ?_⟩
    · by_contra hone
      have hspan : h.span = 0 := by omega
      have hsame : h.head = h.tail := by
        have htail := h.tail_eq
        rw [hspan, hzero, add_zero] at htail
        exact htail
      apply hseveral
      change (if h.isEmpty = false ∧ h.head = h.tail + 1 then _ else _) =
        h.tail + 1
      rw [if_pos hfull, hsame]
    · rw [slot_succ, hzero, zero_add]
  case isFalse =>
    exact ⟨0, List.mem_range.mpr (Nat.succ_pos _), by rw [hzero, add_zero]⟩

end Samples

/-!
## Runs
-/

/-- A sample is recorded, or the newest one is kept alone. -/
inductive Change (α : Type) where
  | record (a : α)
  | restart

/-- Without a sample there is nothing to restart from. -/
def change (h : History α capacity) (c : Change α) : History α capacity :=
  match c with
  | .record a => h.record a
  | .restart => if h.isEmpty then h else h.restart

/-- The samples since the last restart, from the one that it kept. -/
def sinceRestart (changes : List (Change α)) : List α :=
  changes.foldl (fun as c =>
    match c with
    | .record a => as ++ [a]
    | .restart => as.getLast?.toList) []

/-- Of the samples `as`, the history has the last ones in their order. -/
structure Keeps (h : History α capacity) (as : List α) : Prop where
  samples : h.samples = as.rtake capacity
  length : h.samples.length = min capacity as.length
  newest : forall a, as.getLast? = some a -> h.slots h.tail = a
  oldest : forall a, (as.rtake capacity).head? = some a -> h.slots h.head = a

/-- The history after the samples `as`, of which it has forgotten the oldest. -/
structure Follows (h : History α capacity) (as : List α) : Prop where
  ready : h.Ready
  empty : h.isEmpty = true <-> as = []
  samples : h.samples = as.rtake capacity

section Runs

variable {h : History α capacity} {as : List α}

omit [NeZero capacity] in
theorem length_rtake (as : List α) (n : Nat) :
    (as.rtake n).length = min n as.length := by
  unfold List.rtake
  rw [List.length_drop]
  omega

omit [NeZero capacity] in
theorem getLast?_rtake (as : List α) {n : Nat} (hn : 0 < n) :
    (as.rtake n).getLast? = as.getLast? := by
  unfold List.rtake
  cases as with
  | nil => rw [List.drop_nil]
  | cons a as =>
      rw [List.getLast?_drop, if_neg]
      rw [List.length_cons]
      omega

omit [NeZero capacity] in
theorem rtake_all {as : List α} {n : Nat} (h : as.length ≤ n) :
    as.rtake n = as := by
  unfold List.rtake
  rw [Nat.sub_eq_zero_of_le h, List.drop_zero]

theorem getLast?_samples (hempty : h.isEmpty = false) :
    h.samples.getLast? = some (h.slots h.tail) := by
  rw [samples_nonempty hempty, List.range_succ, List.map_append,
    List.map_singleton, List.getLast?_concat, h.tail_eq]

theorem head?_samples (hempty : h.isEmpty = false) :
    h.samples.head? = some (h.slots h.head) := by
  have hzero : slot capacity 0 = 0 := Fin.ofNat_zero capacity
  rw [samples_nonempty hempty, List.range_succ_eq_map, List.map_cons,
    List.head?_cons, hzero, add_zero]

theorem Follows.nonempty (hfollows : h.Follows as) (has : as ≠ []) :
    h.isEmpty = false := by
  cases hempty : h.isEmpty with
  | false => rfl
  | true => exact absurd (hfollows.empty.mp hempty) has

theorem Follows.newest (hfollows : h.Follows as) (has : as ≠ []) :
    as.getLast? = some (h.slots h.tail) := by
  rw [← getLast?_rtake as (Nat.pos_of_neZero capacity), ← hfollows.samples]
  exact getLast?_samples (hfollows.nonempty has)

theorem Follows.record (hfollows : h.Follows as) (a : α) :
    (h.record a).Follows (as ++ [a]) := by
  obtain ⟨n, hn⟩ := Nat.exists_eq_succ_of_ne_zero (NeZero.ne capacity)
  refine ⟨ready_record a h, iff_of_false ?_ (by simp), ?_⟩
  · exact fun hrecord => (by cases hrecord)
  · have hlength := length_rtake as capacity
    rw [samples_record hfollows.ready, hfollows.samples, hlength, hn,
      List.rtake_concat_succ]
    congr 1
    split
    case isTrue hfull =>
      unfold List.rtake
      rw [List.tail_drop]
      congr 1
      omega
    case isFalse hroom => rw [rtake_all (by omega), rtake_all (by omega)]

theorem Follows.restart (hfollows : h.Follows as) :
    (h.change .restart).Follows as.getLast?.toList := by
  unfold change
  dsimp only
  split
  case isTrue hempty =>
    have has := hfollows.empty.mp hempty
    rw [has] at hfollows ⊢
    exact hfollows
  case isFalse hempty =>
    have hnonempty : h.isEmpty = false := by simpa using hempty
    have has : as ≠ [] := fun hnil => hempty (hfollows.empty.mpr hnil)
    rw [hfollows.newest has]
    refine ⟨ready_restart hnonempty, iff_of_false ?_ (by simp), ?_⟩
    · change ¬ h.isEmpty = true
      exact hempty
    · rw [samples_restart hnonempty]
      exact (rtake_all (Nat.pos_of_neZero capacity)).symm

theorem Follows.change (hfollows : h.Follows as) (c : Change α) :
    (h.change c).Follows
      (match c with
      | .record a => as ++ [a]
      | .restart => as.getLast?.toList) := by
  cases c with
  | record a => exact hfollows.record a
  | restart => exact hfollows.restart

theorem follows_foldl (hready : h.Ready) (hempty : h.isEmpty = true)
    (changes : List (Change α)) :
    (changes.foldl change h).Follows (sinceRestart changes) := by
  induction changes using List.reverseRecOn with
  | nil =>
      refine ⟨hready, iff_of_true hempty rfl, ?_⟩
      change h.samples = _
      rw [samples_empty hempty]
      exact (List.rtake_nil _).symm
  | append_singleton changes c ih =>
      unfold sinceRestart at ih ⊢
      rw [List.foldl_append, List.foldl_append]
      exact ih.change c

theorem Follows.keeps (hfollows : h.Follows as) : h.Keeps as where
  samples := hfollows.samples
  length := by
    rw [hfollows.samples]
    exact length_rtake as capacity
  newest a ha := by
    have has : as ≠ [] := by
      rintro rfl
      cases ha
    exact Option.some.inj ((hfollows.newest has).symm.trans ha)
  oldest a ha := by
    have has : as ≠ [] := by
      rintro rfl
      rw [List.rtake_nil] at ha
      cases ha
    rw [← hfollows.samples, head?_samples (hfollows.nonempty has)] at ha
    exact Option.some.inj ha

end Runs

end History

end Foundation
end Ziggo

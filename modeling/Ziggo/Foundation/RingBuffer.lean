import Mathlib.Algebra.GroupWithZero.Nat
import Mathlib.Data.Fin.Basic
import Mathlib.Data.List.Basic
import Mathlib.Logic.Function.Basic

/-!
# Ring buffers

A ring of slots with an index for reading and one for writing is a queue as
long as no more elements are stored than there are slots.  The elements have
numbers: the one with number `n` is written to slot `n` modulo the capacity and
stays there until the ring has come round.  A slot is not cleared when it is
read, so that one may also ask what lies in a slot that is free.
-/

namespace Ziggo
namespace Foundation

structure Ring (α : Type) (capacity : Nat) where
  front : Fin capacity
  rear : Fin capacity
  size : Nat
  slots : Fin capacity -> α

namespace Ring

variable {α : Type} {capacity : Nat} [NeZero capacity]

def empty (initial : Fin capacity -> α) : Ring α capacity where
  front := 0
  rear := 0
  size := 0
  slots := initial

def push (a : α) (r : Ring α capacity) : Ring α capacity where
  front := r.front
  rear := r.rear + 1
  size := r.size + 1
  slots := Function.update r.slots r.rear a

def pop (r : Ring α capacity) : Ring α capacity where
  front := r.front + 1
  rear := r.rear
  size := r.size - 1
  slots := r.slots

/-!
## The slots of the elements
-/

def slot (capacity : Nat) [NeZero capacity] (n : Nat) : Fin capacity :=
  Fin.ofNat capacity n

theorem slot_succ (n : Nat) : slot capacity (n + 1) = slot capacity n + 1 := by
  unfold slot
  ext
  simp [Fin.val_add]

theorem slot_add_capacity (n : Nat) :
    slot capacity (n + capacity) = slot capacity n := by
  unfold slot
  ext
  simp

theorem slot_ne {m n : Nat} (hlt : m < n) (hle : n < m + capacity) :
    slot capacity m ≠ slot capacity n := by
  intro h
  have hmod : n % capacity = m % capacity := (congrArg Fin.val h).symm
  have hzero : (n - m) % capacity = 0 := Nat.sub_mod_eq_zero_of_mod_eq hmod
  rw [Nat.mod_eq_of_lt (by omega)] at hzero
  omega

/-- The first elements have not yet come round. -/
theorem slot_val {n : Nat} (h : n < capacity) : (slot capacity n).val = n :=
  Nat.mod_eq_of_lt h

/-!
## The ring as a queue
-/

/--
A ring to which the elements `written` have been written, the first `read` of
which have been read.
-/
structure Holds (initial : Fin capacity -> α) (written : List α) (read : Nat)
    (r : Ring α capacity) : Prop where
  front : r.front = slot capacity read
  rear : r.rear = slot capacity written.length
  size : read + r.size = written.length
  fits : r.size ≤ capacity
  recent : forall n (h : n < written.length),
    written.length ≤ n + capacity -> r.slots (slot capacity n) = written[n]
  untouched : forall i : Fin capacity, written.length ≤ i.val ->
    r.slots i = initial i

theorem holds_empty (initial : Fin capacity -> α) :
    Holds initial [] 0 (empty initial) where
  front := (Fin.ofNat_zero capacity).symm
  rear := (Fin.ofNat_zero capacity).symm
  size := rfl
  fits := Nat.zero_le capacity
  recent n h _ := absurd h (Nat.not_lt_zero n)
  untouched _ _ := rfl

/--
What lies in the slot behind element `n` when `n` is read: the element that has
been written next, else the one of the last round, else what lay there before.
-/
def behind (initial : Fin capacity -> α) (written : List α) (n : Nat) : α :=
  if h : n + 1 < written.length then
    written[n + 1]
  else if h : capacity ≤ n + 1 ∧ n + 1 - capacity < written.length then
    written[n + 1 - capacity]
  else
    initial (slot capacity (n + 1))

section Holds

variable {initial : Fin capacity -> α} {written : List α} {read : Nat}
  {r : Ring α capacity}

theorem Holds.push (h : Holds initial written read r)
    (hroom : r.size < capacity) (a : α) :
    Holds initial (written ++ [a]) read (r.push a) := by
  have hsize := h.size
  have hlength : (written ++ [a]).length = written.length + 1 :=
    List.length_append
  constructor
  case front => exact h.front
  case rear =>
    rw [hlength, slot_succ, ← h.rear]
    rfl
  case size =>
    rw [hlength]
    change read + (r.size + 1) = written.length + 1
    omega
  case fits => exact hroom
  case recent =>
    intro n hn hrecent
    rw [hlength] at hn hrecent
    change Function.update r.slots r.rear a (slot capacity n) = _
    by_cases hlast : n = written.length
    · subst hlast
      rw [h.rear, Function.update_self]
      simp
    · have hlt : n < written.length := by omega
      rw [h.rear, Function.update_of_ne (slot_ne hlt (by omega)),
        h.recent n hlt (by omega), List.getElem_append_left]
  case untouched =>
    intro i hi
    rw [hlength] at hi
    have hne : i ≠ r.rear := by
      intro heq
      have hval := congrArg Fin.val (heq.trans h.rear)
      have hlt := i.isLt
      rw [slot_val (by omega)] at hval
      omega
    change Function.update r.slots r.rear a i = _
    rw [Function.update_of_ne hne, h.untouched i (by omega)]

theorem Holds.pop (h : Holds initial written read r) (hsome : 0 < r.size) :
    Holds initial written (read + 1) r.pop := by
  have hsize := h.size
  have hfits := h.fits
  constructor
  case front =>
    rw [slot_succ, ← h.front]
    rfl
  case rear => exact h.rear
  case size =>
    change read + 1 + (r.size - 1) = written.length
    omega
  case fits =>
    change r.size - 1 ≤ capacity
    omega
  case recent => exact h.recent
  case untouched => exact h.untouched

/-- The element that is read next is the oldest one that has not been read. -/
theorem Holds.first (h : Holds initial written read r) (hsome : 0 < r.size) :
    exists hread : read < written.length, r.slots r.front = written[read] := by
  have hsize := h.size
  have hfits := h.fits
  have hread : read < written.length := by omega
  refine ⟨hread, ?_⟩
  rw [h.front]
  exact h.recent read hread (by omega)

/-- What lies in the slot that is read after this one. -/
theorem Holds.second (h : Holds initial written read r) (hsome : 0 < r.size) :
    r.slots (r.front + 1) = behind initial written read := by
  have hsize := h.size
  have hfits := h.fits
  rw [h.front, ← slot_succ]
  unfold behind
  split
  case isTrue hnext => exact h.recent (read + 1) hnext (by omega)
  case isFalse hlast =>
    split
    case isTrue hround =>
      have hback : read + 1 = read + 1 - capacity + capacity := by omega
      rw [← h.recent (read + 1 - capacity) hround.right (by omega),
        ← slot_add_capacity (read + 1 - capacity), ← hback]
    case isFalse hfirst =>
      have hpos : 0 < capacity := Nat.pos_of_neZero capacity
      refine h.untouched _ ?_
      rw [slot_val (by omega)]
      omega

end Holds

end Ring

end Foundation
end Ziggo

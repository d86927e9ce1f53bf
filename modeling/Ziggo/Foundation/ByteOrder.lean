import Mathlib.Data.List.Forall2
import Mathlib.Order.Compare
import Mathlib.Data.UInt

/-!
# Comparing packed structures

A C program may compare two packed structures with `memcmp`.  On a
little-endian machine this is not the comparison of their fields: the bytes of
an integer are compared from the least significant one on.  The module
determines for which pairs of structures the two comparisons agree.
-/

namespace Ziggo
namespace Foundation

theorem compare_toNat (x y : UInt8) : compare x y = compare x.toNat y.toNat := by
  change compareOfLessAndEq x y = compareOfLessAndEq x.toNat y.toNat
  simp only [compareOfLessAndEq, UInt8.lt_iff_toNat_lt, ← UInt8.toNat_inj]

/-- The sign of the result is all that the C standard fixes. -/
def memcmp : List UInt8 -> List UInt8 -> Int
  | a :: as, b :: bs =>
      if a = b then memcmp as bs else (a.toNat : Int) - (b.toNat : Int)
  | _, _ => 0

/-- `memcmp` on blocks of one length is the lexicographic order of bytes. -/
theorem compare_memcmp {as bs : List UInt8} (h : as.length = bs.length) :
    compare (memcmp as bs) 0 = compare as bs := by
  induction as generalizing bs with
  | nil =>
      cases bs with
      | nil => rfl
      | cons b bs => cases h
  | cons a as ih =>
      cases bs with
      | nil => cases h
      | cons b bs =>
          rw [List.compare_cons_cons, memcmp, compare_toNat]
          by_cases hab : a = b
          · subst hab
            rw [if_pos rfl, ih (Nat.succ.inj h), Nat.compare_eq_eq.mpr rfl]
            rfl
          · rw [if_neg hab]
            have hne : a.toNat ≠ b.toNat :=
              fun heq => hab (UInt8.toNat_inj.mp heq)
            rcases Nat.lt_or_gt_of_ne hne with hlt | hlt
            · rw [Nat.compare_eq_lt.mpr hlt, Int.compare_eq_lt.mpr (by omega)]
              rfl
            · rw [Nat.compare_eq_gt.mpr hlt, Int.compare_eq_gt.mpr (by omega)]
              rfl

/-- No block comes after the one of its length whose bytes are all ones. -/
theorem compare_ones (xs : List UInt8) :
    compare (List.replicate xs.length 0xFF) xs ≠ .lt := by
  induction xs with
  | nil =>
      intro h
      cases h
  | cons x xs ih =>
      rw [List.length_cons, List.replicate_succ, List.compare_cons_cons]
      have hhead : compare (0xFF : UInt8) x ≠ .lt := by
        rw [compare_toNat]
        intro h
        have hx : x.toNat < 256 := x.toNat_lt
        have hlt : 255 < x.toNat := Nat.compare_eq_lt.mp h
        omega
      cases hcompare : compare (0xFF : UInt8) x with
      | lt => exact absurd hcompare hhead
      | eq => exact ih
      | gt =>
          intro h
          cases h

theorem compare_zeros (xs : List UInt8) :
    (compare (List.replicate xs.length 0) xs).isLE = true := by
  induction xs with
  | nil => rfl
  | cons x xs ih =>
      rw [List.length_cons, List.replicate_succ, List.compare_cons_cons]
      have hhead : compare (0 : UInt8) x ≠ .gt := by
        rw [compare_toNat]
        intro h
        exact absurd (Nat.compare_eq_gt.mp h) (Nat.not_lt_zero _)
      cases hcompare : compare (0 : UInt8) x with
      | lt => rfl
      | eq => exact ih
      | gt => exact absurd hcompare hhead

/-- No other block of its length comes before the one whose bytes are zeros. -/
theorem eq_zeros_of_compare {xs : List UInt8}
    (h : (compare xs (List.replicate xs.length 0)).isLE = true) :
    xs = List.replicate xs.length 0 := by
  induction xs with
  | nil => rfl
  | cons x xs ih =>
      rw [List.length_cons, List.replicate_succ, List.compare_cons_cons,
        compare_toNat] at h
      have hzero : x = 0 := by
        apply UInt8.toNat_inj.mp
        by_contra hne
        have hpos : UInt8.toNat 0 < x.toNat := Nat.pos_of_ne_zero hne
        rw [Nat.compare_eq_gt.mpr hpos] at h
        cases h
      subst hzero
      exact congrArg (0 :: ·) (ih h)

/-!
## Fields
-/

/-- A field of a packed structure. -/
inductive Scalar where
  | octet (value : UInt8)
  | word (value : UInt16)
deriving DecidableEq, Repr

namespace Scalar

/-- The bytes of a field, the least significant one first. -/
def bytes : Scalar -> List UInt8
  | octet x => [x]
  | word x => [x.toUInt8, (x / 256).toUInt8]

def value : Scalar -> Nat
  | octet x => x.toNat
  | word x => x.toNat

inductive SameType : Scalar -> Scalar -> Prop where
  | octet (x y : UInt8) : SameType (octet x) (octet y)
  | word (x y : UInt16) : SameType (word x) (word y)

/--
The two bytes of the words order them oppositely, and the less significant
byte is the one that `memcmp` sees first.
-/
def Opposed (x y : UInt16) : Prop :=
  (x % 256 < y % 256 ∧ y / 256 < x / 256) ∨
    (y % 256 < x % 256 ∧ x / 256 < y / 256)

instance (x y : UInt16) : Decidable (Opposed x y) :=
  inferInstanceAs (Decidable (_ ∨ _))

section Bytes

variable {a b : Scalar}

theorem length_bytes (h : SameType a b) : a.bytes.length = b.bytes.length := by
  cases h <;> rfl

theorem value_inj (h : SameType a b) : a.value = b.value <-> a = b := by
  cases h with
  | octet x y =>
      rw [Scalar.octet.injEq]
      exact UInt8.toNat_inj
  | word x y =>
      rw [Scalar.word.injEq]
      exact UInt16.toNat_inj

theorem opposed_iff (x y : UInt16) :
    Opposed x y <->
      (x.toNat % 256 < y.toNat % 256 ∧ y.toNat / 256 < x.toNat / 256) ∨
        (y.toNat % 256 < x.toNat % 256 ∧ x.toNat / 256 < y.toNat / 256) := by
  simp only [Opposed, UInt16.lt_iff_toNat_lt, UInt16.toNat_mod,
    UInt16.toNat_div]
  rfl

theorem compare_word_bytes (x y : UInt16) :
    compare (word x).bytes (word y).bytes =
      (compare (x.toNat % 256) (y.toNat % 256)).then
        (compare (x.toNat / 256) (y.toNat / 256)) := by
  have hx : x.toNat < 65536 := UInt16.toNat_lt x
  have hy : y.toNat < 65536 := UInt16.toNat_lt y
  have hhigh : forall z : UInt16, z.toNat < 65536 ->
      (z / 256).toUInt8.toNat = z.toNat / 256 := by
    intro z hz
    rw [UInt16.toNat_toUInt8, UInt16.toNat_div]
    exact Nat.mod_eq_of_lt (by change z.toNat / 256 < 256; omega)
  unfold bytes
  rw [List.compare_cons_cons, List.compare_cons_cons, compare_toNat,
    compare_toNat, hhigh x hx, hhigh y hy, UInt16.toNat_toUInt8,
    UInt16.toNat_toUInt8]
  cases compare (x.toNat / 256) (y.toNat / 256) <;> rfl

theorem compare_word_iff (x y : UInt16) :
    compare (word x).bytes (word y).bytes =
        compare (word x).value (word y).value <->
      ¬ Opposed x y := by
  have hx : x.toNat = 256 * (x.toNat / 256) + x.toNat % 256 := by omega
  have hy : y.toNat = 256 * (y.toNat / 256) + y.toNat % 256 := by omega
  have hxlow : x.toNat % 256 < 256 := Nat.mod_lt _ (by decide)
  have hylow : y.toNat % 256 < 256 := Nat.mod_lt _ (by decide)
  rw [compare_word_bytes, opposed_iff]
  change _ = compare x.toNat y.toNat <-> _
  rcases Nat.lt_trichotomy (x.toNat % 256) (y.toNat % 256) with
    hlow | hlow | hlow
  · rw [Nat.compare_eq_lt.mpr hlow, Ordering.lt_then, eq_comm,
      Nat.compare_eq_lt]
    omega
  · have hnot : ¬ ((x.toNat % 256 < y.toNat % 256 ∧
          y.toNat / 256 < x.toNat / 256) ∨
        (y.toNat % 256 < x.toNat % 256 ∧
          x.toNat / 256 < y.toNat / 256)) := by
      omega
    refine iff_of_true ?_ hnot
    rw [Nat.compare_eq_eq.mpr hlow, Ordering.eq_then]
    rcases Nat.lt_trichotomy (x.toNat / 256) (y.toNat / 256) with
      hhigh | hhigh | hhigh
    · rw [Nat.compare_eq_lt.mpr hhigh, Nat.compare_eq_lt.mpr (by omega)]
    · rw [Nat.compare_eq_eq.mpr hhigh, Nat.compare_eq_eq.mpr (by omega)]
    · rw [Nat.compare_eq_gt.mpr hhigh, Nat.compare_eq_gt.mpr (by omega)]
  · rw [Nat.compare_eq_gt.mpr hlow, Ordering.gt_then, eq_comm,
      Nat.compare_eq_gt]
    omega

theorem compare_octet (x y : UInt8) :
    compare (octet x).bytes (octet y).bytes =
      compare (octet x).value (octet y).value := by
  unfold bytes
  rw [List.compare_cons_cons, compare_toNat]
  exact Ordering.then_eq

theorem compare_bytes_eq_iff (h : SameType a b) :
    compare a.bytes b.bytes = .eq <-> a = b := by
  rw [Std.LawfulEqOrd.compare_eq_iff_eq]
  constructor
  · intro hbytes
    cases h with
    | octet x y =>
        cases hbytes
        rfl
    | word x y =>
        have hcompare : compare (word x).bytes (word y).bytes = .eq :=
          Std.LawfulEqOrd.compare_eq_iff_eq.mpr hbytes
        rw [compare_word_bytes, Ordering.then_eq_eq, Nat.compare_eq_eq,
          Nat.compare_eq_eq] at hcompare
        have heq : x.toNat = y.toNat := by omega
        rw [UInt16.toNat_inj.mp heq]
  · rintro rfl
    rfl

end Bytes

end Scalar

/-!
## Structures
-/

open Scalar

/-- The memory that a packed structure occupies. -/
def packed (fields : List Scalar) : List UInt8 :=
  fields.flatMap Scalar.bytes

def firstDifference : List Scalar -> List Scalar -> Option (Scalar × Scalar)
  | a :: as, b :: bs => if a = b then firstDifference as bs else some (a, b)
  | _, _ => none

section Structures

variable {a b : Scalar} {as bs : List Scalar}

theorem compare_append {xs ys us vs : List UInt8}
    (h : xs.length = ys.length) :
    compare (xs ++ us) (ys ++ vs) =
      (compare xs ys).then (compare us vs) := by
  induction xs generalizing ys with
  | nil =>
      cases ys with
      | nil => rfl
      | cons y ys => cases h
  | cons x xs ih =>
      cases ys with
      | nil => cases h
      | cons y ys =>
          rw [List.cons_append, List.cons_append, List.compare_cons_cons,
            List.compare_cons_cons, ih (Nat.succ.inj h), Ordering.then_assoc]

theorem length_packed (h : List.Forall₂ SameType as bs) :
    (packed as).length = (packed bs).length := by
  induction h with
  | nil => rfl
  | cons hab _ ih =>
      simp only [packed, List.flatMap_cons, List.length_append] at ih ⊢
      rw [length_bytes hab, ih]

/-- Structures of one layout are equal if their memory is. -/
theorem packed_inj (h : List.Forall₂ SameType as bs)
    (hpacked : packed as = packed bs) : as = bs := by
  induction h with
  | nil => rfl
  | cons hab _ ih =>
      simp only [packed, List.flatMap_cons] at hpacked ih
      obtain ⟨hbytes, hrest⟩ := List.append_inj hpacked (length_bytes hab)
      rw [(compare_bytes_eq_iff hab).mp
        (Std.LawfulEqOrd.compare_eq_iff_eq.mpr hbytes), ih hrest]

theorem compare_packed_cons (h : SameType a b) :
    compare (packed (a :: as)) (packed (b :: bs)) =
      (compare a.bytes b.bytes).then (compare (packed as) (packed bs)) :=
  compare_append (length_bytes h)

/--
The order of the memory is the order of the fields, each as a number, exactly
if the two structures do not differ first in two opposed words.
-/
theorem compare_packed_iff (h : List.Forall₂ SameType as bs) :
    compare (packed as) (packed bs) =
        compare (as.map Scalar.value) (bs.map Scalar.value) <->
      forall x y, firstDifference as bs = some (word x, word y) ->
        ¬ Opposed x y := by
  induction h with
  | nil =>
      refine iff_of_true rfl ?_
      intro x y hfirst
      cases hfirst
  | @cons a b as bs hab _ ih =>
      rw [compare_packed_cons hab, List.map_cons, List.map_cons,
        List.compare_cons_cons, firstDifference]
      by_cases heq : a = b
      · rw [if_pos heq, (compare_bytes_eq_iff hab).mpr heq,
          Nat.compare_eq_eq.mpr ((value_inj hab).mpr heq)]
        exact ih
      · have hbytes : compare a.bytes b.bytes ≠ .eq :=
          fun hcompare => heq ((compare_bytes_eq_iff hab).mp hcompare)
        have hvalue : compare a.value b.value ≠ .eq := by
          intro hcompare
          exact heq ((value_inj hab).mp (Nat.compare_eq_eq.mp hcompare))
        have hfirst : forall {o p : Ordering}, o ≠ .eq -> o.then p = o := by
          intro o p ho
          cases o <;> first | rfl | exact absurd rfl ho
        rw [if_neg heq, hfirst hbytes, hfirst hvalue]
        cases hab with
        | octet x y =>
            refine iff_of_true (compare_octet x y) ?_
            intro x' y' hsome
            cases hsome
        | word x y =>
            rw [compare_word_iff]
            constructor
            · intro hnot x' y' hsome
              cases hsome
              exact hnot
            · intro hall
              exact hall x y rfl

end Structures

end Foundation
end Ziggo

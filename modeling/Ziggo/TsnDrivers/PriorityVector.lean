import Mathlib.Data.Fin.Tuple.Basic
import Mathlib.Data.List.OfFn
import Ziggo.Foundation.ByteOrder
import Ziggo.TsnDrivers.PtpTypes

/-!
# Priority vectors

`compare_priority_vectors` compares two packed structures byte by byte.  The
election of the grandmaster is defined by the numeric order of their
components.  The module determines when the two orders agree.
-/

namespace Ziggo
namespace TsnDrivers

open Foundation

/-- The octets of an array, as fields of a packed structure. -/
def octets (array : ClockIdentity) : List Scalar :=
  (List.ofFn array).map Scalar.octet

namespace PriorityVector

/-- The fields of the packed structure, in the order of its declaration. -/
def scalars (p : PriorityVector) : List Scalar :=
  [.octet p.rootSystemIdentity.priority1,
    .octet p.rootSystemIdentity.clockClass,
    .octet p.rootSystemIdentity.clockAccuracy,
    .word p.rootSystemIdentity.offsetScaledLogVariance,
    .octet p.rootSystemIdentity.priority2] ++
    octets p.rootSystemIdentity.clockIdentity ++
    [.word p.stepsRemoved] ++
    octets p.sourcePortClockIdentity ++
    [.word p.sourcePortNumber, .word p.portNumber]

/-- The memory of the structure on a little-endian machine. -/
def memory (p : PriorityVector) : List UInt8 :=
  packed p.scalars

example : (default : PriorityVector).memory.length = 28 := by decide

/-- The components that 10.3.4 compares, earlier ones being more significant. -/
def components (p : PriorityVector) : List Nat :=
  [p.rootSystemIdentity.priority1.toNat,
    p.rootSystemIdentity.clockClass.toNat,
    p.rootSystemIdentity.clockAccuracy.toNat,
    p.rootSystemIdentity.offsetScaledLogVariance.toNat,
    p.rootSystemIdentity.priority2.toNat] ++
    (List.ofFn p.rootSystemIdentity.clockIdentity).map UInt8.toNat ++
    [p.stepsRemoved.toNat] ++
    (List.ofFn p.sourcePortClockIdentity).map UInt8.toNat ++
    [p.sourcePortNumber.toNat, p.portNumber.toNat]

end PriorityVector

open PriorityVector

/-- The outcome of a comparison, a smaller vector being the better one. -/
def resultOf : Ordering -> BmcsPriorityComparisonResult
  | .lt => .superiorPriority
  | .eq => .samePriority
  | .gt => .inferiorPriority

def comparePriorityVectors (priorityA priorityB : PriorityVector) :
    BmcsPriorityComparisonResult :=
  let compare := memcmp priorityA.memory priorityB.memory
  if compare < 0 then
    .superiorPriority
  else if compare > 0 then
    .inferiorPriority
  else
    .samePriority

/-- The comparison of 10.3.4: a lesser numerical value is better. -/
def compareComponents (priorityA priorityB : PriorityVector) :
    BmcsPriorityComparisonResult :=
  resultOf (compare priorityA.components priorityB.components)

theorem resultOf_inj {o p : Ordering} : resultOf o = resultOf p <-> o = p := by
  cases o <;> cases p <;> simp [resultOf]

section Layout

variable (p q : PriorityVector)

theorem sameType_octets (xs ys : List UInt8) (h : xs.length = ys.length) :
    List.Forall₂ Scalar.SameType (xs.map Scalar.octet)
      (ys.map Scalar.octet) := by
  induction xs generalizing ys with
  | nil =>
      cases ys with
      | nil => exact List.Forall₂.nil
      | cons y ys => cases h
  | cons x xs ih =>
      cases ys with
      | nil => cases h
      | cons y ys =>
          exact List.Forall₂.cons (.octet x y) (ih ys (Nat.succ.inj h))

theorem sameType_scalars :
    List.Forall₂ Scalar.SameType p.scalars q.scalars := by
  have hoctets : forall x y : ClockIdentity,
      List.Forall₂ Scalar.SameType (octets x) (octets y) := by
    intro x y
    exact sameType_octets _ _ (by simp)
  unfold PriorityVector.scalars
  refine List.rel_append (List.rel_append (List.rel_append (List.rel_append
    ?_ (hoctets _ _)) ?_) (hoctets _ _)) ?_
  · exact .cons (.octet _ _) (.cons (.octet _ _) (.cons (.octet _ _)
      (.cons (.word _ _) (.cons (.octet _ _) .nil))))
  · exact .cons (.word _ _) .nil
  · exact .cons (.word _ _) (.cons (.word _ _) .nil)

theorem value_scalars : p.scalars.map Scalar.value = p.components := by
  simp [PriorityVector.scalars, PriorityVector.components, octets,
    Scalar.value]

theorem comparePriorityVectors_eq :
    comparePriorityVectors p q = resultOf (compare p.memory q.memory) := by
  have hlength : p.memory.length = q.memory.length :=
    length_packed (sameType_scalars p q)
  rw [← compare_memcmp hlength]
  unfold comparePriorityVectors
  dsimp only
  rcases lt_trichotomy (memcmp p.memory q.memory) 0 with hlt | heq | hgt
  · rw [if_pos hlt, Int.compare_eq_lt.mpr hlt]
    rfl
  · rw [heq]
    rfl
  · rw [if_neg (by omega), if_pos hgt, Int.compare_eq_gt.mpr hgt]
    rfl

/--
The comparison of the memory is the numeric comparison of the components
exactly if the first component in which the vectors differ is not a 16-bit
integer whose two bytes order its two values oppositely.
-/
theorem comparePriorityVectors_numeric_iff :
    comparePriorityVectors p q = compareComponents p q <->
      forall x y,
        firstDifference p.scalars q.scalars = some (.word x, .word y) ->
          ¬ Scalar.Opposed x y := by
  rw [comparePriorityVectors_eq, compareComponents, resultOf_inj,
    ← value_scalars, ← value_scalars]
  exact compare_packed_iff (sameType_scalars p q)

end Layout

def withVariance (variance : UInt16) : PriorityVector :=
  { (default : PriorityVector) with
    rootSystemIdentity :=
      { (default : SystemIdentity) with offsetScaledLogVariance := variance } }

theorem larger_variance_superior :
    ¬ forall priorityA priorityB : PriorityVector,
      comparePriorityVectors priorityA priorityB =
        compareComponents priorityA priorityB := by
  intro h
  have hvariance := h (withVariance 256) (withVariance 255)
  revert hvariance
  decide

end TsnDrivers
end Ziggo

import Mathlib.Order.Defs.Unbundled
import Ziggo.TsnDrivers.PriorityVector

/-!
# The order of priority vectors

`compare_priority_vectors` orders the vectors strictly and totally, by their
memory.
-/

namespace Ziggo
namespace TsnDrivers

open Foundation

namespace PriorityVector

theorem octets_inj {x y : ClockIdentity} (h : octets x = octets y) : x = y := by
  refine List.ofFn_injective (List.map_injective_iff.mpr ?_ h)
  intro a b hab
  cases hab
  rfl

theorem length_octets (x : ClockIdentity) :
    (octets x).length = clockIdentityLength := by
  simp [octets]

theorem scalars_inj {p q : PriorityVector} (h : p.scalars = q.scalars) :
    p = q := by
  rcases p with ⟨⟨_, _, _, _, _, root⟩, _, source, _, _⟩
  rcases q with ⟨⟨_, _, _, _, _, root'⟩, _, source', _, _⟩
  simp only [scalars, List.cons_append, List.nil_append, List.cons.injEq,
    Scalar.octet.injEq, Scalar.word.injEq, List.append_assoc] at h
  obtain ⟨rfl, rfl, rfl, rfl, rfl, hidentities⟩ := h
  obtain ⟨hroot, hrest⟩ := List.append_inj hidentities
    ((length_octets root).trans (length_octets root').symm)
  obtain ⟨hsteps, hsources⟩ := List.cons.inj hrest
  obtain ⟨hsource, hnumbers⟩ := List.append_inj hsources
    ((length_octets source).trans (length_octets source').symm)
  cases octets_inj hroot
  cases octets_inj hsource
  cases hsteps
  cases hnumbers
  rfl

end PriorityVector

/-- The first vector is the better one. -/
def Superior (p q : PriorityVector) : Prop :=
  comparePriorityVectors p q = .superiorPriority

instance : DecidableRel Superior := fun _ _ =>
  inferInstanceAs (Decidable (_ = _))

theorem superior_iff (p q : PriorityVector) :
    Superior p q <-> compare p.memory q.memory = .lt := by
  rw [Superior, comparePriorityVectors_eq]
  exact resultOf_inj (p := .lt)

instance : IsStrictOrder PriorityVector Superior where
  irrefl p h := by
    have hself : compare p.memory p.memory = .eq := Std.ReflCmp.compare_self
    rw [superior_iff, hself] at h
    cases h
  trans p q r hpq hqr := by
    rw [superior_iff] at hpq hqr ⊢
    exact Std.TransCmp.lt_trans hpq hqr

theorem eq_of_not_superior {p q : PriorityVector} (hpq : ¬ Superior p q)
    (hqp : ¬ Superior q p) : p = q := by
  rw [superior_iff] at hpq hqp
  have hmemory : p.memory = q.memory := by
    refine Std.LawfulEqOrd.compare_eq_iff_eq.mp ?_
    cases hcompare : compare p.memory q.memory with
    | lt => exact absurd hcompare hpq
    | eq => rfl
    | gt => exact absurd (Std.OrientedCmp.gt_iff_lt.mp hcompare) hqp
  exact PriorityVector.scalars_inj
    (packed_inj (sameType_scalars p q) hmemory)

/-!
## The significant components

The identity of the grandmaster comes first in a vector, and the distance to it
second.
-/

def SystemIdentity.memory (s : SystemIdentity) : List UInt8 :=
  packed ([.octet s.priority1, .octet s.clockClass, .octet s.clockAccuracy,
    .word s.offsetScaledLogVariance, .octet s.priority2] ++
    octets s.clockIdentity)

def stepsMemory (stepsRemoved : UInt16) : List UInt8 :=
  (Scalar.word stepsRemoved).bytes

def sourceMemory (p : PriorityVector) : List UInt8 :=
  packed (octets p.sourcePortClockIdentity ++
    [.word p.sourcePortNumber, .word p.portNumber])

theorem memory_eq (p : PriorityVector) :
    p.memory = p.rootSystemIdentity.memory ++
      (stepsMemory p.stepsRemoved ++ sourceMemory p) := by
  simp [PriorityVector.memory, PriorityVector.scalars, SystemIdentity.memory,
    stepsMemory, sourceMemory, packed]

theorem length_rootMemory (s t : SystemIdentity) :
    s.memory.length = t.memory.length := by
  simp [SystemIdentity.memory, packed, octets, Scalar.bytes]

theorem rootMemory_inj {s t : SystemIdentity} (h : s.memory = t.memory) :
    s = t := by
  let vector (s : SystemIdentity) : PriorityVector :=
    { (default : PriorityVector) with rootSystemIdentity := s }
  have hmemory : (vector s).memory = (vector t).memory := by
    rw [memory_eq, memory_eq]
    exact congrArg (· ++ (stepsMemory _ ++ sourceMemory default)) h
  exact congrArg PriorityVector.rootSystemIdentity
    (PriorityVector.scalars_inj
      (packed_inj (sameType_scalars (vector s) (vector t)) hmemory))

/-- The identity and the number of hops of a vector, the significant part. -/
def rank (p : PriorityVector) : List UInt8 :=
  p.rootSystemIdentity.memory ++ stepsMemory p.stepsRemoved

/-- The first vector is not further away, nor of a worse grandmaster. -/
def NotWorse (p q : PriorityVector) : Prop :=
  (compare (rank p) (rank q)).isLE = true

theorem NotWorse.refl (p : PriorityVector) : NotWorse p p := by
  have hself : compare (rank p) (rank p) = .eq := Std.ReflCmp.compare_self
  unfold NotWorse
  rw [hself]
  rfl

/-- Nothing is better than the vector of zeros. -/
theorem notWorse_default (p : PriorityVector) : NotWorse default p := by
  have hlength : (rank p).length = (rank default).length := by
    unfold rank
    rw [List.length_append, List.length_append,
      length_rootMemory p.rootSystemIdentity
        (default : PriorityVector).rootSystemIdentity]
    rfl
  have hzeros : rank default = List.replicate (rank p).length 0 := by
    rw [hlength]
    decide
  unfold NotWorse
  rw [hzeros]
  exact compare_zeros (rank p)

theorem NotWorse.trans {p q r : PriorityVector} (hpq : NotWorse p q)
    (hqr : NotWorse q r) : NotWorse p r :=
  Std.TransCmp.isLE_trans hpq hqr

theorem Superior.notWorse {p q : PriorityVector} (h : Superior p q) :
    NotWorse p q := by
  have hlength : (rank p).length = (rank q).length := by
    unfold rank
    rw [List.length_append, List.length_append,
      length_rootMemory p.rootSystemIdentity q.rootSystemIdentity]
    rfl
  rw [superior_iff, memory_eq, memory_eq, ← List.append_assoc,
    ← List.append_assoc] at h
  change compare (rank p ++ sourceMemory p) (rank q ++ sourceMemory q) = .lt
    at h
  rw [compare_append hlength] at h
  unfold NotWorse
  revert h
  cases compare (rank p) (rank q) with
  | lt => exact fun _ => rfl
  | eq => exact fun _ => rfl
  | gt =>
      intro h
      cases h

/-- Vectors of different grandmasters compare as their grandmasters do. -/
theorem superior_of_roots {p q p' q' : PriorityVector} (h : Superior p q)
    (hne : p.rootSystemIdentity ≠ q.rootSystemIdentity)
    (hp : p'.rootSystemIdentity = p.rootSystemIdentity)
    (hq : q'.rootSystemIdentity = q.rootSystemIdentity) : Superior p' q' := by
  have hmemory : compare p.rootSystemIdentity.memory
      q.rootSystemIdentity.memory ≠ .eq := fun heq =>
    hne (rootMemory_inj (Std.LawfulEqOrd.compare_eq_iff_eq.mp heq))
  rw [superior_iff, memory_eq, memory_eq,
    compare_append (length_rootMemory _ _)] at h ⊢
  rw [hp, hq]
  revert h hmemory
  cases compare p.rootSystemIdentity.memory q.rootSystemIdentity.memory with
  | lt => exact fun _ _ => rfl
  | eq => exact fun _ hmemory => absurd rfl hmemory
  | gt =>
      intro h
      cases h

/-- Nothing with the same grandmaster is nearer to it than the grandmaster. -/
theorem NotWorse.steps {p q : PriorityVector} (h : NotWorse p q)
    (hroot : p.rootSystemIdentity = q.rootSystemIdentity)
    (hsteps : q.stepsRemoved = 0) : p.stepsRemoved = 0 := by
  have hself : compare q.rootSystemIdentity.memory
      q.rootSystemIdentity.memory = .eq := Std.ReflCmp.compare_self
  unfold NotWorse rank at h
  rw [hroot, hsteps, compare_append rfl, hself] at h
  have hzeros := eq_zeros_of_compare
    (show (compare (stepsMemory p.stepsRemoved)
      (List.replicate (stepsMemory p.stepsRemoved).length 0)).isLE = true from h)
  have hbytes := (Scalar.compare_bytes_eq_iff
    (Scalar.SameType.word p.stepsRemoved 0)).mp
    (Std.LawfulEqOrd.compare_eq_iff_eq.mpr hzeros)
  exact Scalar.word.inj hbytes

end TsnDrivers
end Ziggo

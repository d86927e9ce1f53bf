import Mathlib.Data.List.OfFn
import Ziggo.Foundation.Machine
import Ziggo.TsnDrivers.PtpTypes

/-!
# Contents of Announce messages

What the state machines read from a received `Announce`: the identity of the
grandmaster, the flags, and the path that the message has taken.
-/

namespace Ziggo
namespace TsnDrivers

open Foundation

/-- An array for the clocks on a path, `ClockIdentity[MAX_PATH_TRACE_N]`. -/
abbrev PathArray : Type := Fin maxPathTraceN -> ClockIdentity

/-- The first entries of an array of clocks. -/
def entries (array : PathArray) (count : Nat) : List ClockIdentity :=
  (List.ofFn array).take count

/-- `memcpy` of a number of octets between two such arrays. -/
def copyOctets (count : Nat) (source destination : PathArray) :
    Except Fault PathArray :=
  if count ≤ maxPathTraceN * clockIdentityLength then
    .ok fun i j =>
      if clockIdentityLength * i.val + j.val < count then source i j
      else destination i j
  else
    .error .outOfBounds

theorem copyOctets_eq_error {count : Nat} {source destination : PathArray}
    {f : Fault} (h : copyOctets count source destination = .error f) :
    maxPathTraceN * clockIdentityLength < count := by
  unfold copyOctets at h
  split at h
  · cases h
  case isFalse hcount => exact not_le.mp hcount

theorem exists_copyOctets_iff {count : Nat} {source destination : PathArray} :
    (exists array, copyOctets count source destination = .ok array) <->
      count ≤ maxPathTraceN * clockIdentityLength := by
  unfold copyOctets
  constructor
  · rintro ⟨array, h⟩
    split at h
    case isTrue hcount => exact hcount
    case isFalse => cases h
  · intro hcount
    exact ⟨_, if_pos hcount⟩

theorem entries_congr {a b : PathArray} {count : Nat}
    (h : forall i, i.val < count -> a i = b i) :
    entries a count = entries b count := by
  unfold entries
  apply List.ext_getElem
  · simp only [List.length_take, List.length_ofFn]
  · intro k hk _
    rw [List.length_take, List.length_ofFn] at hk
    rw [List.getElem_take, List.getElem_take, List.getElem_ofFn,
      List.getElem_ofFn]
    exact h ⟨k, (lt_min_iff.mp hk).right⟩ (lt_min_iff.mp hk).left

theorem entries_succ (array : PathArray) {count : Nat}
    (h : count < maxPathTraceN) :
    entries array (count + 1) = entries array count ++ [array ⟨count, h⟩] := by
  have hlength : count < (List.ofFn array).length := by
    rw [List.length_ofFn]
    exact h
  unfold entries
  rw [List.take_succ_eq_append_getElem hlength, List.getElem_ofFn]

theorem entries_copyOctets {count : Nat} {source destination array : PathArray}
    (h : copyOctets (count * clockIdentityLength) source destination =
      .ok array) : entries array count = entries source count := by
  unfold copyOctets at h
  split at h
  · cases h
    refine entries_congr fun i hi => ?_
    funext j
    have hj : j.val < 8 := j.isLt
    have hoctet : clockIdentityLength * i.val + j.val <
        count * clockIdentityLength := by
      change 8 * i.val + j.val < count * 8
      omega
    exact if_pos hoctet
  · cases h

namespace PTPMsgAnnounce

/-- The identity of the grandmaster that the message announces. -/
def systemIdentity (announce : PTPMsgAnnounce) : SystemIdentity where
  priority1 := announce.grandmasterPriority1
  clockClass := announce.grandmasterClockQuality.clockClass
  clockAccuracy := announce.grandmasterClockQuality.clockAccuracy
  offsetScaledLogVariance :=
    announce.grandmasterClockQuality.offsetScaledLogVariance
  priority2 := announce.grandmasterPriority2
  clockIdentity := announce.grandmasterIdentity

/-- `(head.flags[1] & mask) == mask` -/
def flag (announce : PTPMsgAnnounce) (mask : UInt8) : Bool :=
  announce.head.flags 1 &&& mask = mask

/-- `lengthField / sizeof(ClockIdentity)` -/
def pathCount (announce : PTPMsgAnnounce) : Nat :=
  announce.pathTraceTLV.lengthField.toNat / clockIdentityLength

def path (announce : PTPMsgAnnounce) : List ClockIdentity :=
  entries announce.pathTraceTLV.pathSequence announce.pathCount

end PTPMsgAnnounce

end TsnDrivers
end Ziggo

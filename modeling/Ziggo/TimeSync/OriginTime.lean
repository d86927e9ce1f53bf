import Ziggo.TsnDrivers.CurrentTimestamp
import Ziggo.TimeSync.ClockMasterSyncSendSM
import Ziggo.TimeSync.SyncLoop.SlaveTime

/-!
# The time that a Follow_Up announces

A `Follow_Up` announces the sum of an origin timestamp in whole nanoseconds and
a correction.  For a structure of the clock master the sum is the egress time of
the `Sync`, less the fraction that the origin timestamp leaves out.
-/

namespace Ziggo
namespace TimeSync

open Foundation TsnDrivers
open ClockSlaveSyncSM (originTime)

/-!
## Corrections
-/

/-- A correction is known from its value modulo `2 ^ 64`. -/
theorem toInt_of_emod {c : Int64} {x : Int}
    (h : (c.toUInt64.toNat : Int) = x % 2 ^ 64) (hlow : -2 ^ 63 ≤ x)
    (hhigh : x < 2 ^ 63) : c.toInt = x := by
  have hvalue := toInt_eq_toNat c
  have hmin := c.le_toInt
  have hmax := c.toInt_lt
  rw [h] at hvalue
  split at hvalue <;> omega

theorem uscalednsSubtract_inSteps {t1 t2 : UScaledNs} (h1 : InSteps t1)
    (h2 : InSteps t2) : InSteps (uscalednsSubtract t1 t2) := by
  have hlt := t2.toNat_lt
  rw [inSteps_iff] at h1 h2 ⊢
  rw [toNat_uscalednsSubtract]
  omega

/-- Such fractions never fill the 16 bits that addition takes for a carry. -/
theorem toNat_uscalednsAdd_of_inSteps {t1 t2 : UScaledNs} (h1 : InSteps t1)
    (h2 : InSteps t2) :
    (uscalednsAdd t1 t2).toNat = (t1.toNat + t2.toNat) % 2 ^ 96 := by
  refine (uscalednsAdd_exact_iff t1 t2).mpr fun hfull => ?_
  unfold InSteps at h1 h2
  omega

section Corrections

variable {source current egress : UScaledNs}

theorem toNat_correction (hsource : InSteps source) (hcurrent : InSteps current)
    (hegress : InSteps egress) :
    ((uscalednsAdd (uscalednsSubtract current source)
        (uscalednsSubtract egress current)).toNat : Int) =
      ((egress.toNat : Int) - source.toNat) % 2 ^ 96 := by
  have hlt := source.toNat_lt
  have hlt' := current.toNat_lt
  rw [toNat_uscalednsAdd_of_inSteps (uscalednsSubtract_inSteps hcurrent hsource)
    (uscalednsSubtract_inSteps hegress hcurrent), toNat_uscalednsSubtract,
    toNat_uscalednsSubtract]
  omega

/-- The two times are less than `2 ^ 47` nanoseconds apart. -/
def Near (source egress : UScaledNs) : Prop :=
  (source.toNat : Int) - egress.toNat < 2 ^ 63 ∧
    (egress.toNat : Int) - source.toNat < 2 ^ 63

theorem toInt_correction (hsource : InSteps source) (hcurrent : InSteps current)
    (hegress : InSteps egress) (hnear : Near source egress) :
    (uint64Uscaledns (uscalednsAdd (uscalednsSubtract current source)
        (uscalednsSubtract egress current))).toInt64.toInt =
      (egress.toNat : Int) - source.toNat := by
  have hsum := toNat_correction hsource hcurrent hegress
  obtain ⟨hlow, hhigh⟩ := hnear
  apply toInt_of_emod
  case h =>
    rw [UInt64.toUInt64_toInt64, toNat_uint64Uscaledns]
    omega
  case hlow => omega
  case hhigh => omega

end Corrections

/-!
## Origin timestamps
-/

theorem originTime_ptpmsgtimestampUscaledns {t : UScaledNs}
    (h : HasSeconds t) :
    originTime (ptpmsgtimestampUscaledns t) + t.subns.toNat = t.toNat := by
  obtain ⟨hmsb, hnsec⟩ := h
  have hseconds : (t.nsec / 1000000000).toUInt32.toNat =
      t.nsec.toNat / 1000000000 := by
    rw [UInt64.toNat_toUInt32, UInt64.toNat_div]
    change t.nsec.toNat / 1000000000 % 2 ^ 32 = _
    omega
  have hnanoseconds : (t.nsec % 1000000000).toUInt32.toNat =
      t.nsec.toNat % 1000000000 := by
    rw [UInt64.toNat_toUInt32, UInt64.toNat_mod]
    change t.nsec.toNat % 1000000000 % 2 ^ 32 = _
    omega
  unfold originTime ptpmsgtimestampUscaledns UScaledNs.toNat
  dsimp only
  rw [hmsb, hseconds, hnanoseconds, UInt16.toNat_zero]
  omega

/-- The time that a `Follow_Up` announces, in units of `2 ^ -16` nanoseconds. -/
def announcedTime (message : PTPMsgFollowUp) : Int :=
  originTime message.preciseOriginTimestamp + message.head.correctionField.toInt

/-- What the machine of a port receives for a structure of the clock master. -/
structure OfSource (source current : UScaledNs) (mdSync : MDSyncSend) :
    Prop where
  origin : mdSync.preciseOriginTimestamp = ptpmsgtimestampUscaledns source
  correction : mdSync.followUpCorrectionField = uscalednsSubtract current source
  upstream : mdSync.upstreamTxTime = current

theorem announcedTime_followUpOf {source current egress : UScaledNs}
    {mdSync : MDSyncSend} (h : OfSource source current mdSync)
    (hseconds : HasSeconds source) (hsource : InSteps source)
    (hcurrent : InSteps current) (hegress : InSteps egress)
    (hnear : Near source egress) (sequenceId : UInt16) :
    announcedTime (MDSyncSendSM.followUpOf mdSync egress sequenceId) +
      source.subns.toNat = egress.toNat := by
  have horigin := originTime_ptpmsgtimestampUscaledns hseconds
  have hcorrection := toInt_correction hsource hcurrent hegress hnear
  have hannounced :
      announcedTime (MDSyncSendSM.followUpOf mdSync egress sequenceId) =
        originTime (ptpmsgtimestampUscaledns source) +
          (uint64Uscaledns (uscalednsAdd (uscalednsSubtract current source)
            (uscalednsSubtract egress current))).toInt64.toInt := by
    rw [← h.origin, ← h.correction, ← h.upstream]
    rfl
  rw [hannounced, hcorrection]
  omega

end TimeSync
end Ziggo

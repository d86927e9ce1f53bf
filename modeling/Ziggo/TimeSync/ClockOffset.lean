import Ziggo.TimeSync.ClockSlaveSyncSM

/-!
# The offset of the clock

The clock slave steers the hardware clock by an offset in whole nanoseconds,
which it gives by its sign and its magnitude.
-/

namespace Ziggo
namespace TsnDrivers

namespace Rtc

/-- The nanoseconds of the offset that the registers hold. -/
def offsetMagnitude (rtc : Rtc) : Nat :=
  rtc.offsetSL.toNat * 1000000000 + rtc.offsetNs.toNat

/-- What the clock adds to its time, in units of `2 ^ -16` nanoseconds. -/
def offsetValue (rtc : Rtc) : Int :=
  if rtc.offsetSH = 0 then rtc.offsetMagnitude * 2 ^ 16
  else -(rtc.offsetMagnitude * 2 ^ 16)

theorem setRtcSyncOffset_spec (rtc : Rtc) (sign : RtcOffsetSign)
    {offset : UScaledNs}
    (h : offset.toNat < 2 ^ 32 * 1000000000 * 2 ^ 16) :
    (rtc.setRtcSyncOffset sign offset).offsetNs.toNat < 1000000000 ∧
      (rtc.setRtcSyncOffset sign offset).offsetMagnitude =
        offset.toNat / 2 ^ 16 := by
  have hsubns := offset.subns.toNat_lt
  have hnsec := offset.nsec.toNat_lt
  have hbase : rtcAccmodH.toNat = 1000000000 := rfl
  have hseconds : (offset.nsec / rtcAccmodH).toUInt32.toNat =
      offset.nsec.toNat / 1000000000 % 2 ^ 32 := by
    rw [UInt64.toNat_toUInt32, UInt64.toNat_div, hbase]
  have hnanoseconds : (offset.nsec % rtcAccmodH).toUInt32.toNat =
      offset.nsec.toNat % 1000000000 := by
    rw [UInt64.toNat_toUInt32, UInt64.toNat_mod, hbase]
    omega
  unfold UScaledNs.toNat at h ⊢
  simp only [setRtcSyncOffset, offsetMagnitude, hseconds, hnanoseconds]
  omega

end Rtc

end TsnDrivers

namespace TimeSync

open Foundation TsnDrivers

namespace ClockSlaveSyncSM

/-- The offset is the distance of the two times, with the sign of its direction. -/
theorem syncOffset_spec (g : PerPTPInstanceGlobal) :
    (syncOffset g).1 =
        (if g.syncReceiptLocalTime.toNat ≤ g.syncReceiptTime.toNat then .add
          else .sub) ∧
      ((syncOffset g).2.toNat : Int) =
        |(g.syncReceiptTime.toNat : Int) - g.syncReceiptLocalTime.toNat| := by
  unfold syncOffset
  by_cases hle : g.syncReceiptLocalTime.toNat ≤ g.syncReceiptTime.toNat
  · rw [if_pos ((uscalednsCompare_nonneg _ _).mpr hle), if_pos hle]
    refine ⟨rfl, ?_⟩
    rw [toNat_uscalednsSubtract_of_le hle, abs_of_nonneg (by omega)]
    omega
  · rw [if_neg (mt (uscalednsCompare_nonneg _ _).mp hle), if_neg hle]
    refine ⟨rfl, ?_⟩
    rw [toNat_uscalednsSubtract_of_le (by omega), abs_of_neg (by omega)]
    omega

/--
The clock is steered to the time of the master as closely as whole nanoseconds
allow.
-/
theorem updateSlaveTime_offset {l : SyncLoop}
    (hdistance : |(l.perPTPInstanceGlobal.syncReceiptTime.toNat : Int) -
        l.perPTPInstanceGlobal.syncReceiptLocalTime.toNat| <
      2 ^ 32 * 1000000000 * 2 ^ 16) :
    (updateSlaveTime l).rtc.offsetSH =
        (if l.perPTPInstanceGlobal.syncReceiptLocalTime.toNat ≤
            l.perPTPInstanceGlobal.syncReceiptTime.toNat then 0
          else 0x8000) ∧
      (updateSlaveTime l).rtc.offsetNs.toNat < 1000000000 ∧
      ((updateSlaveTime l).rtc.offsetMagnitude : Int) =
        |(l.perPTPInstanceGlobal.syncReceiptTime.toNat : Int) -
          l.perPTPInstanceGlobal.syncReceiptLocalTime.toNat| / 2 ^ 16 ∧
      |l.perPTPInstanceGlobal.syncReceiptLocalTime.toNat +
          (updateSlaveTime l).rtc.offsetValue -
          l.perPTPInstanceGlobal.syncReceiptTime.toNat| < 2 ^ 16 := by
  obtain ⟨hsign, hvalue⟩ := syncOffset_spec l.perPTPInstanceGlobal
  have hlt : (syncOffset l.perPTPInstanceGlobal).2.toNat <
      2 ^ 32 * 1000000000 * 2 ^ 16 := by
    omega
  obtain ⟨hnanoseconds, hmagnitude⟩ := Rtc.setRtcSyncOffset_spec l.rtc
    (syncOffset l.perPTPInstanceGlobal).1 hlt
  have hrtc : (updateSlaveTime l).rtc = l.rtc.setRtcSyncOffset
      (syncOffset l.perPTPInstanceGlobal).1
      (syncOffset l.perPTPInstanceGlobal).2 :=
    rfl
  have hsecondsH : (updateSlaveTime l).rtc.offsetSH =
      (if l.perPTPInstanceGlobal.syncReceiptLocalTime.toNat ≤
          l.perPTPInstanceGlobal.syncReceiptTime.toNat then 0
        else 0x8000) := by
    rw [hrtc, Rtc.setRtcSyncOffset, hsign]
    split_ifs <;> simp_all
  rw [← hrtc] at hnanoseconds hmagnitude
  refine ⟨hsecondsH, hnanoseconds, by omega, ?_⟩
  unfold Rtc.offsetValue
  rw [hsecondsH, hmagnitude]
  generalize l.perPTPInstanceGlobal.syncReceiptTime.toNat = s at *
  generalize l.perPTPInstanceGlobal.syncReceiptLocalTime.toNat = t at *
  generalize (syncOffset l.perPTPInstanceGlobal).2.toNat = d at *
  rw [abs_lt]
  by_cases hle : t ≤ s
  · rw [abs_of_nonneg (by omega)] at hvalue
    rw [if_pos hle, if_pos rfl]
    omega
  · rw [abs_of_neg (by omega)] at hvalue
    rw [if_neg hle, if_neg (by decide)]
    omega

/-- A clock that is two and a half nanoseconds ahead of its master. -/
def aheadLoop : SyncLoop where
  perPTPInstanceGlobal :=
    { (default : PerPTPInstanceGlobal) with
      syncReceiptTime := { subns := 0x8000, nsec := 1000, nsecMsb := 0 }
      syncReceiptLocalTime := { subns := 0, nsec := 1003, nsecMsb := 0 } }
  perPortGlobal _ := default
  siteSyncSyncSm := default
  clockSlaveSyncSm := default
  portSyncSyncReceiveSms _ := default
  portSyncSyncSendSms _ := default
  mdSyncSendSms _ := { state := .init, lastState := none, vars := default }
  mdSyncReceiveSms _ := default
  rtc := default
  heap _ := default
  calls := []
  stop := none

theorem updateSlaveTime_offset_ahead :
    (updateSlaveTime aheadLoop).rtc.offsetSH =
        (if aheadLoop.perPTPInstanceGlobal.syncReceiptLocalTime.toNat ≤
            aheadLoop.perPTPInstanceGlobal.syncReceiptTime.toNat then 0
          else 0x8000) ∧
      (updateSlaveTime aheadLoop).rtc.offsetNs.toNat < 1000000000 ∧
      ((updateSlaveTime aheadLoop).rtc.offsetMagnitude : Int) =
        |(aheadLoop.perPTPInstanceGlobal.syncReceiptTime.toNat : Int) -
          aheadLoop.perPTPInstanceGlobal.syncReceiptLocalTime.toNat| /
            2 ^ 16 ∧
      |aheadLoop.perPTPInstanceGlobal.syncReceiptLocalTime.toNat +
          (updateSlaveTime aheadLoop).rtc.offsetValue -
          aheadLoop.perPTPInstanceGlobal.syncReceiptTime.toNat| < 2 ^ 16 :=
  updateSlaveTime_offset (by decide +kernel)

end ClockSlaveSyncSM

end TimeSync
end Ziggo

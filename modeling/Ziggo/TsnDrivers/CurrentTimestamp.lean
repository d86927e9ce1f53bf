import Ziggo.TsnDrivers.LocalClockTimestamp

/-!
# The current time

`get_current_timestamp` of `rtc.c` turns what the registers of the clock hold
into nanoseconds.  It leaves out the upper word of the seconds.
-/

namespace Ziggo
namespace TsnDrivers

/-- `get_current_timestamp`, for what the registers hold. -/
def getCurrentTimestamp (t : LocalClockTimestamp) : UScaledNs where
  subns := ((t.fracNano <<< 8) &&& 0xFF00).toUInt16
  nsec := t.secondL.toUInt64 * 1000000000 + t.nanosecond.toUInt64
  nsecMsb := 0

/-- The nanoseconds of a time are those of 32 bits of seconds. -/
def HasSeconds (t : UScaledNs) : Prop :=
  t.nsecMsb = 0 ∧ t.nsec.toNat < 2 ^ 32 * 1000000000

/-- The fraction of a time has eight zeros at its end. -/
def InSteps (t : UScaledNs) : Prop :=
  t.subns.toNat % 256 = 0

theorem inSteps_iff {t : UScaledNs} : InSteps t <-> t.toNat % 256 = 0 := by
  have hsubns := t.subns.toNat_lt
  unfold InSteps UScaledNs.toNat
  omega

theorem inSteps_getCurrentTimestamp (t : LocalClockTimestamp) :
    InSteps (getCurrentTimestamp t) := by
  unfold InSteps getCurrentTimestamp
  dsimp only
  rw [UInt32.toNat_toUInt16, UInt32.toNat_and, UInt32.toNat_shiftLeft]
  change (t.fracNano.toNat <<< 8 % 2 ^ 32 &&& 0xFF00) % 2 ^ 16 % 2 ^ 8 = 0
  rw [Nat.mod_mod_of_dvd _ (by decide), Nat.and_mod_two_pow]
  exact Nat.and_zero _

theorem hasSeconds_getCurrentTimestamp {t : LocalClockTimestamp}
    (h : t.nanosecond.toNat < 1000000000) :
    HasSeconds (getCurrentTimestamp t) := by
  have hseconds := t.secondL.toNat_lt
  have hsum : t.secondL.toNat * 1000000000 + t.nanosecond.toNat <
      2 ^ 32 * 1000000000 := by
    omega
  have hnsec : (getCurrentTimestamp t).nsec.toNat =
      t.secondL.toNat * 1000000000 + t.nanosecond.toNat := by
    unfold getCurrentTimestamp
    dsimp only
    rw [UInt64.toNat_add, UInt64.toNat_mul, UInt32.toNat_toUInt64,
      UInt32.toNat_toUInt64, Nat.mod_add_mod]
    exact Nat.mod_eq_of_lt (hsum.trans (by decide))
  exact ⟨rfl, hnsec ▸ hsum⟩

/-- What the registers of a running clock hold. -/
structure ClockReading where
  clock : LocalClockTimestamp
  nanosecond_lt : clock.nanosecond.toNat < 1000000000

namespace ClockReading

def timestamp (r : ClockReading) : UScaledNs :=
  getCurrentTimestamp r.clock

theorem hasSeconds (r : ClockReading) : HasSeconds r.timestamp :=
  hasSeconds_getCurrentTimestamp r.nanosecond_lt

theorem inSteps (r : ClockReading) : InSteps r.timestamp :=
  inSteps_getCurrentTimestamp r.clock

end ClockReading

end TsnDrivers
end Ziggo

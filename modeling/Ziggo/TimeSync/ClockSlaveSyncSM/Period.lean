import Ziggo.TsnDrivers.FixedPoint
import Ziggo.TimeSync.ClockSlaveSyncSM

/-!
# The registers for a period

The value of the two registers that `updateSlavePeriod` programs, and how close
it is to the period.
-/

namespace Ziggo
namespace TimeSync

open Foundation BinaryFraction TsnDrivers

namespace ClockSlaveSyncSM

theorem toNat_setPeriodL {periodL : UInt32} {i : Nat} (hi : i < 32)
    (h : periodL.toNat % 2 ^ (i + 1) = 0) :
    (periodL ||| (1 <<< UInt32.ofNat i)).toNat = periodL.toNat + 2 ^ i := by
  have hbit : ((1 : UInt32) <<< UInt32.ofNat i).toNat = 2 ^ i := by
    have hsmall : 2 ^ i < 2 ^ 32 := Nat.pow_lt_pow_right (by omega) hi
    have hshift : i % 2 ^ 32 % 32 = i := by omega
    rw [UInt32.toNat_shiftLeft, UInt32.toNat_ofNat', hshift,
      Nat.shiftLeft_eq]
    change 1 * 2 ^ i % 2 ^ 32 = 2 ^ i
    rw [Nat.one_mul, Nat.mod_eq_of_lt hsmall]
  rw [UInt32.toNat_or, hbit, or_two_pow h]

theorem periodBits_eq (i : Nat) (hi : i ≤ 32) (t : Rat) {periodL : UInt32}
    (h : periodL.toNat % 2 ^ i = 0) :
    ((periodBits i t periodL).1.toNat, (periodBits i t periodL).2) =
      expand i t periodL.toNat := by
  induction i generalizing t periodL with
  | zero => rfl
  | succ i ih =>
      have hset := toNat_setPeriodL hi h
      have hclear := mod_two_pow_of_succ h
      unfold periodBits expand
      split
      case isTrue =>
        rw [← hset]
        refine ih (by omega) _ ?_
        rw [hset, Nat.add_mod_right]
        exact hclear
      case isFalse => exact ih (by omega) _ hclear

/-- The value of the registers, in units of `2 ^ -32` nanoseconds. -/
def registersValue (registers : UInt32 × UInt32) : Nat :=
  registers.1.toNat * 2 ^ 32 + registers.2.toNat

/-- The integer part and the rounded fraction, with a carry between them. -/
theorem registersValue_periodRegisters {period : Rat}
    (hperiod : period < 2 ^ 31) :
    registersValue (periodRegisters period) = fixedPoint 32 period := by
  have hfloor : period.floor.toNat < 2 ^ 31 := by
    have hint : period.floor < 2 ^ 31 := by
      have hcast : (period.floor : Rat) < 2 ^ 31 :=
        lt_of_le_of_lt (Int.floor_le period) hperiod
      exact_mod_cast hcast
    omega
  have hbits := @periodBits_eq 32 le_rfl (period - period.floor) 0 rfl
  have hperiodH :
      (UInt32.ofNat period.floor.toNat).toNat = period.floor.toNat := by
    rw [UInt32.toNat_ofNat', Nat.mod_eq_of_lt (by omega)]
  have hzero : (0 : UInt32).toNat = 0 := rfl
  have hone : (1 : UInt32).toNat = 1 := rfl
  unfold periodRegisters fixedPoint
  rcases hpair : periodBits 32 (period - period.floor) 0 with ⟨periodL, rest⟩
  rw [hpair, hzero] at hbits
  rw [← hbits]
  generalize UInt32.ofNat period.floor.toNat = periodH at hperiodH ⊢
  unfold rounded registersValue
  dsimp only
  split
  case isFalse hdown => rw [hperiodH]
  case isTrue hup =>
    split
    case isTrue hones =>
      have hcarry : periodL.toNat + 1 = 2 ^ 32 := by
        rw [hones]
        rfl
      have hnext : (periodH + 1).toNat = periodH.toNat + 1 := by
        rw [UInt32.toNat_add, hone]
        omega
      dsimp only
      rw [hnext, hperiodH, hcarry, hzero]
      ring
    case isFalse hroom =>
      have hlt := periodL.toNat_lt
      have hne : periodL.toNat ≠ 2 ^ 32 - 1 := fun hones =>
        hroom (UInt32.toNat_inj.mp (hones.trans (by decide)))
      have hnext : (periodL + 1).toNat = periodL.toNat + 1 := by
        rw [UInt32.toNat_add, hone]
        omega
      dsimp only
      rw [hnext, hperiodH]

end ClockSlaveSyncSM

/--
Both encoders return the nearest number of their formats, which is off by half a
unit of the last bit at most.
-/
theorem encoders_round_to_nearest (r : Rat) (hr : 0 ≤ r) :
    (r < 2 ^ 64 ->
      |((uscalednsDouble r).toNat : Rat) / 2 ^ 16 - r| ≤ 1 / 2 ^ 17 ∧
        forall k : Int, |((uscalednsDouble r).toNat : Rat) / 2 ^ 16 - r| ≤
          |(k : Rat) / 2 ^ 16 - r|) ∧
      (r < 2 ^ 31 ->
        |(ClockSlaveSyncSM.registersValue
            (ClockSlaveSyncSM.periodRegisters r) : Rat) / 2 ^ 32 - r| ≤
          1 / 2 ^ 33 ∧
        forall k : Int, |(ClockSlaveSyncSM.registersValue
            (ClockSlaveSyncSM.periodRegisters r) : Rat) / 2 ^ 32 - r| ≤
          |(k : Rat) / 2 ^ 32 - r|) := by
  constructor
  · intro hlt
    rw [toNat_uscalednsDouble hlt]
    exact ⟨fixedPoint_error 16 hr, fixedPoint_nearest 16 hr⟩
  · intro hlt
    rw [ClockSlaveSyncSM.registersValue_periodRegisters hlt]
    exact ⟨fixedPoint_error 32 hr, fixedPoint_nearest 32 hr⟩

/-- The carry out of a fraction of ones, for a number a little below eight. -/
theorem encoders_carry :
    |((uscalednsDouble (8 - 1 / 2 ^ 40)).toNat : Rat) / 2 ^ 16 -
        (8 - 1 / 2 ^ 40)| ≤ 1 / 2 ^ 17 ∧
      |(ClockSlaveSyncSM.registersValue
          (ClockSlaveSyncSM.periodRegisters (8 - 1 / 2 ^ 40)) : Rat) / 2 ^ 32 -
        (8 - 1 / 2 ^ 40)| ≤ 1 / 2 ^ 33 :=
  have hencoded := encoders_round_to_nearest (8 - 1 / 2 ^ 40) (by norm_num)
  ⟨(hencoded.left (by norm_num)).left, (hencoded.right (by norm_num)).left⟩

end TimeSync
end Ziggo

import Mathlib.Data.Rat.Floor
import Ziggo.Foundation.BinaryFraction
import Ziggo.TsnDrivers.UScaledNs

/-!
# Conversion of a number to a timestamp

The value of the timestamp that `uscaledns_double` returns.
-/

namespace Ziggo
namespace TsnDrivers

open Foundation BinaryFraction

theorem toNat_setSubns {subns : UInt16} {i : Nat} (hi : i < 16)
    (h : subns.toNat % 2 ^ (i + 1) = 0) :
    (subns ||| (1 <<< UInt16.ofNat i)).toNat = subns.toNat + 2 ^ i := by
  have hbit : ((1 : UInt16) <<< UInt16.ofNat i).toNat = 2 ^ i := by
    have hsmall : 2 ^ i < 2 ^ 16 := Nat.pow_lt_pow_right (by omega) hi
    have hshift : i % 2 ^ 16 % 16 = i := by omega
    rw [UInt16.toNat_shiftLeft, UInt16.toNat_ofNat', hshift,
      Nat.shiftLeft_eq]
    change 1 * 2 ^ i % 2 ^ 16 = 2 ^ i
    rw [Nat.one_mul, Nat.mod_eq_of_lt hsmall]
  rw [UInt16.toNat_or, hbit, or_two_pow h]

theorem fractionBits_eq (i : Nat) (hi : i ≤ 16) (r : Rat) {subns : UInt16}
    (h : subns.toNat % 2 ^ i = 0) :
    ((fractionBits i r subns).1.toNat, (fractionBits i r subns).2) =
      expand i r subns.toNat := by
  induction i generalizing r subns with
  | zero => rfl
  | succ i ih =>
      have hset := toNat_setSubns hi h
      have hclear := mod_two_pow_of_succ h
      unfold fractionBits expand
      split
      case isTrue =>
        rw [← hset]
        refine ih (by omega) _ ?_
        rw [hset, Nat.add_mod_right]
        exact hclear
      case isFalse => exact ih (by omega) _ hclear

/-- The integer part and the rounded fraction, with a carry between them. -/
theorem toNat_uscalednsDouble {r : Rat} (hr : r < 2 ^ 64) :
    (uscalednsDouble r).toNat = fixedPoint 16 r := by
  have hfloor : r.floor.toNat < 2 ^ 64 := by
    have hint : r.floor < 2 ^ 64 := by
      have hcast : (r.floor : Rat) < 2 ^ 64 :=
        lt_of_le_of_lt (Int.floor_le r) hr
      exact_mod_cast hcast
    omega
  have hbits := @fractionBits_eq 16 le_rfl (r - r.floor) 0 rfl
  have hnsec : (UInt64.ofNat r.floor.toNat).toNat = r.floor.toNat := by
    rw [UInt64.toNat_ofNat', Nat.mod_eq_of_lt hfloor]
  have hmsb : UInt16.ofNat (r.floor.toNat / 2 ^ 64) = 0 := by
    rw [Nat.div_eq_of_lt hfloor]
    rfl
  unfold uscalednsDouble fixedPoint
  rw [hmsb]
  rcases hpair : fractionBits 16 (r - r.floor) 0 with ⟨subns, rest⟩
  rw [hpair] at hbits
  have hzero : (0 : UInt16).toNat = 0 := rfl
  rw [hzero] at hbits
  rw [← hbits]
  generalize UInt64.ofNat r.floor.toNat = nsec at hnsec ⊢
  unfold rounded
  dsimp only
  split
  case isFalse hdown =>
    unfold UScaledNs.toNat
    dsimp only
    rw [hnsec, hzero]
    omega
  case isTrue hup =>
    split
    case isTrue hones =>
      have hcarry : subns.toNat + 1 = 2 ^ 16 := by
        rw [hones]
        rfl
      split
      case isTrue hfull =>
        rw [hfull] at hnsec
        rw [← hnsec, hcarry]
        rfl
      case isFalse hroom =>
        have hne : nsec.toNat ≠ 2 ^ 64 - 1 := fun hfull =>
          hroom (UInt64.toNat_inj.mp (hfull.trans (by decide)))
        have hnext : (nsec + 1).toNat = nsec.toNat + 1 := by
          have hone : (1 : UInt64).toNat = 1 := rfl
          rw [UInt64.toNat_add, hone]
          omega
        unfold UScaledNs.toNat
        dsimp only
        rw [hnext, hnsec, hcarry, hzero]
        ring
    case isFalse hroom =>
      have hlt := subns.toNat_lt
      have hne : subns.toNat ≠ 2 ^ 16 - 1 := fun hones =>
        hroom (UInt16.toNat_inj.mp hones)
      have hnext : (subns + 1).toNat = subns.toNat + 1 := by
        have hone : (1 : UInt16).toNat = 1 := rfl
        rw [UInt16.toNat_add, hone]
        omega
      unfold UScaledNs.toNat
      dsimp only
      rw [hnext, hnsec, hzero]
      omega

end TsnDrivers
end Ziggo

import Mathlib.Algebra.BigOperators.Group.Finset.Basic
import Ziggo.TsnDrivers.Division

/-!
# Multiplication of timestamps

The product is formed from 32-bit limbs column by column.  The sums of the
columns are kept in 64 bits, and the limbs are put together again by shifts.
-/

namespace Ziggo
namespace TsnDrivers

/-!
## Digits and columns
-/

/-- A digit of a number to the base `2 ^ 32`. -/
def digit (x i : Nat) : Nat :=
  x / 2 ^ (32 * i) % 2 ^ 32

/-- The sum of the partial products of two numbers that have one weight. -/
def column (x y k : Nat) : Nat :=
  ∑ i ∈ Finset.range (k + 1), digit x i * digit y (k - i)

theorem digit_lt (x i : Nat) : digit x i < 2 ^ 32 :=
  Nat.mod_lt _ (by decide)

theorem digits_eq {x : Nat} (hx : x < 2 ^ 96) :
    x = digit x 0 + 2 ^ 32 * digit x 1 + 2 ^ 64 * digit x 2 ∧
      digit x 3 = 0 ∧ digit x 4 = 0 := by
  unfold digit
  omega

theorem product_eq_columns {x y : Nat} (hx : x < 2 ^ 96) (hy : y < 2 ^ 96) :
    x * y = column x y 0 + 2 ^ 32 * column x y 1 + 2 ^ 64 * column x y 2 +
      2 ^ 96 * column x y 3 + 2 ^ 128 * column x y 4 := by
  obtain ⟨hxdigits, hx3, hx4⟩ := digits_eq hx
  obtain ⟨hydigits, hy3, hy4⟩ := digits_eq hy
  unfold column
  simp only [Finset.sum_range_succ, Finset.sum_range_zero, hx3, hx4, hy3, hy4,
    Nat.sub_zero, Nat.reduceSub, Nat.zero_mul, Nat.mul_zero, Nat.zero_add,
    Nat.add_zero]
  nth_rewrite 1 [hxdigits, hydigits]
  ring

theorem limbs_digits (t : UScaledNs) :
    exists a0 a1 a2 : UInt64, limbs t = [a0, a1, a2, 0] ∧
      a0.toNat = digit t.toNat 0 ∧ a1.toNat = digit t.toNat 1 ∧
      a2.toNat = digit t.toNat 2 := by
  obtain ⟨hfour, hvalue⟩ := limbs_spec t
  have hnarrow := hfour.narrow
  have hlt := t.toNat_lt
  unfold limbs at *
  refine ⟨_, _, _, rfl, ?_⟩
  simp only [narrow_cons, limbsValue] at hnarrow hvalue
  obtain ⟨h0, h1, h2, _⟩ := hnarrow
  have hzero : (0 : UInt64).toNat = 0 := rfl
  unfold digit
  omega

/-!
## The words of the product
-/

/-- What the loop over the limbs keeps of the second column. -/
def column1Sum (x y : Nat) : Nat :=
  (column x y 1 + column x y 0 / 2 ^ 32) % 2 ^ 64

def column2Sum (x y : Nat) : Nat :=
  (column x y 2 + column1Sum x y / 2 ^ 32) % 2 ^ 64

def column3Sum (x y : Nat) : Nat :=
  (column x y 3 + column2Sum x y / 2 ^ 32) % 2 ^ 64

theorem toNat_low (c : UInt64) :
    (c &&& 0xffffffff).toNat = c.toNat % 2 ^ 32 := by
  rw [UInt64.toNat_and]
  exact Nat.and_two_pow_sub_one_eq_mod _ 32

theorem toNat_carried (d c : UInt64) :
    (d + (c >>> 32)).toNat = (d.toNat + c.toNat / 2 ^ 32) % 2 ^ 64 := by
  rw [UInt64.toNat_add, UInt64.toNat_shiftRight, Nat.shiftRight_eq_div_pow]
  rfl

theorem columns_eq {x y : Nat} (hx : x < 2 ^ 96) (hy : y < 2 ^ 96) :
    column x y 0 = digit x 0 * digit y 0 ∧
      column x y 1 = digit x 0 * digit y 1 + digit x 1 * digit y 0 ∧
      column x y 2 = digit x 0 * digit y 2 + digit x 1 * digit y 1 +
        digit x 2 * digit y 0 ∧
      column x y 3 = digit x 1 * digit y 2 + digit x 2 * digit y 1 := by
  obtain ⟨_, hx3, _⟩ := digits_eq hx
  obtain ⟨_, hy3, _⟩ := digits_eq hy
  simp [column, Finset.sum_range_succ, hx3, hy3]

theorem toNat_shifted (c : UInt64) :
    (c >>> 16).toUInt16.toNat = c.toNat / 2 ^ 16 % 2 ^ 16 := by
  rw [UInt64.toNat_toUInt16, UInt64.toNat_shiftRight, Nat.shiftRight_eq_div_pow]
  rfl

/-- The third limb is shifted by 16 bits, although its weight asks for 32. -/
theorem toNat_assembled (c d : UInt64) :
    ((c &&& 0xffffffff) + ((d &&& 0xffffffff) <<< (16 : UInt64))).toNat =
      c.toNat % 2 ^ 32 + d.toNat % 2 ^ 32 * 2 ^ 16 := by
  rw [UInt64.toNat_add, UInt64.toNat_shiftLeft, toNat_low, toNat_low,
    Nat.shiftLeft_eq]
  change (_ + _ % 2 ^ 32 * 2 ^ 16 % 2 ^ 64) % 2 ^ 64 = _
  omega

/-- The result is put together from the low halves of the sums. -/
theorem toNat_uscalednsMul (t1 t2 : UScaledNs) :
    (uscalednsMul t1 t2).toNat =
      column t1.toNat t2.toNat 0 / 2 ^ 16 % 2 ^ 16 +
        2 ^ 16 * (column1Sum t1.toNat t2.toNat % 2 ^ 32 +
          column2Sum t1.toNat t2.toNat % 2 ^ 32 * 2 ^ 16) +
        2 ^ 80 * (column3Sum t1.toNat t2.toNat % 2 ^ 16) := by
  obtain ⟨a0, a1, a2, ha, ha0, ha1, ha2⟩ := limbs_digits t1
  obtain ⟨b0, b1, b2, hb, hb0, hb1, hb2⟩ := limbs_digits t2
  obtain ⟨h0, h1, h2, h3⟩ := columns_eq t1.toNat_lt t2.toNat_lt
  have hc0 : (a0 * b0).toNat = column t1.toNat t2.toNat 0 := by
    have hlt := Nat.mul_lt_mul'' (digit_lt t1.toNat 0) (digit_lt t2.toNat 0)
    rw [UInt64.toNat_mul, ha0, hb0, h0]
    exact Nat.mod_eq_of_lt hlt
  have hc1 : (a0 * b1 + a1 * b0).toNat =
      column t1.toNat t2.toNat 1 % 2 ^ 64 := by
    simp only [UInt64.toNat_add, UInt64.toNat_mul, ← Nat.add_mod, h1, ha0, ha1,
      hb0, hb1]
  have hc2 : (a0 * b2 + a1 * b1 + a2 * b0).toNat =
      column t1.toNat t2.toNat 2 % 2 ^ 64 := by
    simp only [UInt64.toNat_add, UInt64.toNat_mul, ← Nat.add_mod, h2, ha0, ha1,
      ha2, hb0, hb1, hb2]
  have hc3 : (a1 * b2 + a2 * b1).toNat =
      column t1.toNat t2.toNat 3 % 2 ^ 64 := by
    simp only [UInt64.toNat_add, UInt64.toNat_mul, ← Nat.add_mod, h3, ha1, ha2,
      hb1, hb2]
  have hs1 : (a0 * b1 + a1 * b0 + ((a0 * b0) >>> 32)).toNat =
      column1Sum t1.toNat t2.toNat := by
    rw [toNat_carried, hc0, hc1, Nat.mod_add_mod]
    rfl
  have hs2 := toNat_carried (a0 * b2 + a1 * b1 + a2 * b0)
    (a0 * b1 + a1 * b0 + ((a0 * b0) >>> 32))
  rw [hc2, hs1, Nat.mod_add_mod] at hs2
  have hs3 := toNat_carried (a1 * b2 + a2 * b1)
    (a0 * b2 + a1 * b1 + a2 * b0 +
      ((a0 * b1 + a1 * b0 + ((a0 * b0) >>> 32)) >>> 32))
  rw [hc3, hs2, Nat.mod_add_mod] at hs3
  change _ = column2Sum t1.toNat t2.toNat at hs2
  change _ = (column t1.toNat t2.toNat 3 +
    column2Sum t1.toNat t2.toNat / 2 ^ 32) % 2 ^ 64 at hs3
  rw [UScaledNs.toNat]
  unfold uscalednsMul
  rw [ha, hb]
  simp only [propagateCarries]
  rw [toNat_assembled, toNat_shifted, toNat_and_toUInt16, toNat_low, toNat_low,
    hc0, hs1, hs2, hs3]
  unfold column3Sum
  omega

/-!
## Exact products
-/

theorem columns_fit {x y : Nat} (hx : x < 2 ^ 96) (hy : y < 2 ^ 96)
    (hfits : x * y < 2 ^ 112) :
    x * y = column x y 0 + 2 ^ 32 * column x y 1 + 2 ^ 64 * column x y 2 +
        2 ^ 96 * column x y 3 ∧
      column x y 0 < 2 ^ 64 ∧
      column x y 1 + column x y 0 / 2 ^ 32 < 2 ^ 65 := by
  have hproduct := product_eq_columns hx hy
  obtain ⟨h0, h1, _, _⟩ := columns_eq hx hy
  have hbound : forall i j, digit x i * digit y j ≤ (2 ^ 32 - 1) ^ 2 := by
    intro i j
    rw [pow_two]
    exact Nat.mul_le_mul (Nat.le_sub_one_of_lt (digit_lt x i))
      (Nat.le_sub_one_of_lt (digit_lt y j))
  have h00 := hbound 0 0
  have h01 := hbound 0 1
  have h10 := hbound 1 0
  norm_num at h00 h01 h10
  omega

/-- The second column fits into 64 bits with the carry of the first. -/
def SecondColumnFits (x y : Nat) : Prop :=
  column x y 1 + column x y 0 / 2 ^ 32 < 2 ^ 64

instance (x y : Nat) : Decidable (SecondColumnFits x y) :=
  inferInstanceAs (Decidable (_ < _))

section Product

variable {t1 t2 : UScaledNs}
  (hfits : t1.toNat * t2.toNat / 2 ^ 16 < 2 ^ 96)

include hfits

/-- The third limb counts for less than it should. -/
theorem toNat_uscalednsMul_of_fits
    (hcarry : SecondColumnFits t1.toNat t2.toNat) :
    (uscalednsMul t1 t2).toNat + 2 ^ 48 * digit (t1.toNat * t2.toNat) 2 =
      t1.toNat * t2.toNat / 2 ^ 16 +
        2 ^ 32 * digit (t1.toNat * t2.toNat) 2 := by
  obtain ⟨hproduct, h0, h1⟩ := columns_fit t1.toNat_lt t2.toNat_lt (by omega)
  rw [toNat_uscalednsMul]
  unfold SecondColumnFits at hcarry
  unfold column3Sum column2Sum column1Sum digit
  generalize t1.toNat * t2.toNat = p at *
  generalize column t1.toNat t2.toNat 0 = c0 at *
  generalize column t1.toNat t2.toNat 1 = c1 at *
  generalize column t1.toNat t2.toNat 2 = c2 at *
  generalize column t1.toNat t2.toNat 3 = c3 at *
  have hs1 : (c1 + c0 / 2 ^ 32) % 2 ^ 64 = c1 + c0 / 2 ^ 32 :=
    Nat.mod_eq_of_lt hcarry
  rw [hs1]
  have hs2 : (c2 + (c1 + c0 / 2 ^ 32) / 2 ^ 32) % 2 ^ 64 =
      c2 + (c1 + c0 / 2 ^ 32) / 2 ^ 32 :=
    Nat.mod_eq_of_lt (by omega)
  rw [hs2]
  omega

/-- A lost carry is missing in the most significant word. -/
theorem toNat_uscalednsMul_of_not_fits
    (hcarry : ¬ SecondColumnFits t1.toNat t2.toNat) :
    (uscalednsMul t1 t2).toNat / 2 ^ 80 + 1 =
      t1.toNat * t2.toNat / 2 ^ 16 / 2 ^ 80 := by
  obtain ⟨hproduct, h0, h1⟩ := columns_fit t1.toNat_lt t2.toNat_lt (by omega)
  have hwords := toNat_uscalednsMul t1 t2
  have hhigh : (uscalednsMul t1 t2).toNat / 2 ^ 80 =
      column3Sum t1.toNat t2.toNat % 2 ^ 16 := by
    omega
  rw [hhigh]
  clear hhigh hwords
  unfold SecondColumnFits at hcarry
  unfold column3Sum column2Sum column1Sum
  generalize t1.toNat * t2.toNat = p at *
  generalize column t1.toNat t2.toNat 0 = c0 at *
  generalize column t1.toNat t2.toNat 1 = c1 at *
  generalize column t1.toNat t2.toNat 2 = c2 at *
  generalize column t1.toNat t2.toNat 3 = c3 at *
  have hs1 : (c1 + c0 / 2 ^ 32) % 2 ^ 64 = c1 + c0 / 2 ^ 32 - 2 ^ 64 := by
    omega
  rw [hs1]
  have hs2 : (c2 + (c1 + c0 / 2 ^ 32 - 2 ^ 64) / 2 ^ 32) % 2 ^ 64 =
      c2 + (c1 + c0 / 2 ^ 32) / 2 ^ 32 - 2 ^ 32 := by
    omega
  rw [hs2]
  omega

/--
The product is exact unless its third limb is needed, which goes to the wrong
place, or a carry of the second column is lost.
-/
theorem uscalednsMul_exact_iff :
    (uscalednsMul t1 t2).toNat = t1.toNat * t2.toNat / 2 ^ 16 <->
      digit (t1.toNat * t2.toNat) 2 = 0 ∧
        SecondColumnFits t1.toNat t2.toNat := by
  by_cases hcarry : SecondColumnFits t1.toNat t2.toNat
  · have hvalue := toNat_uscalednsMul_of_fits hfits hcarry
    rw [and_iff_left hcarry]
    omega
  · have hvalue := toNat_uscalednsMul_of_not_fits hfits hcarry
    refine iff_of_false (fun h => ?_) fun h => hcarry h.right
    rw [h] at hvalue
    omega

end Product

theorem uscalednsMul_exact_at_unit :
    let two : UScaledNs := { subns := 0, nsec := 2, nsecMsb := 0 }
    let half : UScaledNs := { subns := 0x8000, nsec := 0, nsecMsb := 0 }
    two.toNat * half.toNat / 2 ^ 16 < 2 ^ 96 ∧
      ((uscalednsMul two half).toNat = two.toNat * half.toNat / 2 ^ 16 <->
        digit (two.toNat * half.toNat) 2 = 0 ∧
          SecondColumnFits two.toNat half.toNat) :=
  ⟨by decide, uscalednsMul_exact_iff (by decide)⟩

/-- A product of `2 ^ 32` nanoseconds and one leaves 65536 nanoseconds. -/
theorem uscalednsMul_loses_limb :
    ¬ forall t1 t2 : UScaledNs,
      t1.toNat * t2.toNat / 2 ^ 16 < 2 ^ 96 ->
        (uscalednsMul t1 t2).toNat = t1.toNat * t2.toNat / 2 ^ 16 := by
  intro h
  have hvalue := h { subns := 0, nsec := 0x100000000, nsecMsb := 0 }
    { subns := 0, nsec := 1, nsecMsb := 0 } (by decide)
  simp only [uscalednsMul, limbs, propagateCarries] at hvalue
  revert hvalue
  decide

/-- A product whose third limb is `2 ^ 16` times too little, without 16 bits. -/
def misplaced (p : Nat) : Nat :=
  p / 2 ^ 16 % 2 ^ 48 + 2 ^ 32 * digit p 2 + 2 ^ 80 * (digit p 3 % 2 ^ 16)

theorem misplaced_limbs {a b s : Nat} (ha : a < 2 ^ 32) (hb : b < 2 ^ 32) :
    misplaced (a + 2 ^ 32 * b + 2 ^ 64 * s) =
      a / 2 ^ 16 + 2 ^ 16 * b + 2 ^ 32 * (s % 2 ^ 32) +
        2 ^ 80 * (s / 2 ^ 32 % 2 ^ 16) := by
  have hlow : (a + 2 ^ 32 * b + 2 ^ 64 * s) / 2 ^ 16 % 2 ^ 48 =
      a / 2 ^ 16 + 2 ^ 16 * b := by
    omega
  have hthird : (a + 2 ^ 32 * b + 2 ^ 64 * s) / 2 ^ (32 * 2) = s := by
    omega
  have hfourth : (a + 2 ^ 32 * b + 2 ^ 64 * s) / 2 ^ (32 * 3) = s / 2 ^ 32 := by
    rw [show 2 ^ (32 * 3) = 2 ^ (32 * 2) * 2 ^ 32 from rfl, ← Nat.div_div_eq_div_mul,
      hthird]
  unfold misplaced digit
  rw [hlow, hthird, hfourth]
  omega

theorem columns_of_narrow {x y : Nat} (hx : x < 2 ^ 96) (hy : y < 2 ^ 32) :
    column x y 0 = digit x 0 * y ∧ column x y 1 = digit x 1 * y ∧
      column x y 2 = digit x 2 * y ∧ column x y 3 = 0 := by
  have hy0 : digit y 0 = y := by
    unfold digit
    omega
  have hy1 : digit y 1 = 0 := by
    unfold digit
    omega
  have hy2 : digit y 2 = 0 := by
    unfold digit
    omega
  have hcolumns := columns_eq hx (show y < 2 ^ 96 by omega)
  rw [hy0, hy1, hy2] at hcolumns
  simpa using hcolumns

/-- No carry is lost if one factor has a single limb. -/
theorem toNat_uscalednsMul_of_narrow {t1 t2 : UScaledNs}
    (hnarrow : t2.toNat < 2 ^ 32) :
    (uscalednsMul t1 t2).toNat = misplaced (t1.toNat * t2.toNat) := by
  have hproduct : t1.toNat * t2.toNat =
      digit t1.toNat 0 * t2.toNat + 2 ^ 32 * (digit t1.toNat 1 * t2.toNat) +
        2 ^ 64 * (digit t1.toNat 2 * t2.toNat) := by
    conv_lhs => rw [(digits_eq t1.toNat_lt).left]
    ring
  have hbound : forall i, digit t1.toNat i * t2.toNat ≤ (2 ^ 32 - 1) ^ 2 := by
    intro i
    rw [pow_two]
    exact Nat.mul_le_mul (Nat.le_sub_one_of_lt (digit_lt t1.toNat i))
      (Nat.le_sub_one_of_lt hnarrow)
  obtain ⟨h0, h1, h2, h3⟩ := columns_of_narrow t1.toNat_lt hnarrow
  have hb0 := hbound 0
  have hb1 := hbound 1
  have hb2 := hbound 2
  rw [toNat_uscalednsMul, hproduct]
  unfold column3Sum column2Sum column1Sum
  rw [h0, h1, h2, h3]
  generalize digit t1.toNat 0 * t2.toNat = c0 at *
  generalize digit t1.toNat 1 * t2.toNat = c1 at *
  generalize digit t1.toNat 2 * t2.toNat = c2 at *
  norm_num at hb0 hb1 hb2
  clear hproduct hbound h0 h1 h2 h3 hnarrow
  have hs1 : (c1 + c0 / 2 ^ 32) % 2 ^ 64 = c1 + c0 / 2 ^ 32 :=
    Nat.mod_eq_of_lt (by omega)
  rw [hs1]
  generalize hcarried : c1 + c0 / 2 ^ 32 = s1 at *
  have hs1lt : s1 < 2 ^ 64 := by omega
  have hs2 : (c2 + s1 / 2 ^ 32) % 2 ^ 64 = c2 + s1 / 2 ^ 32 :=
    Nat.mod_eq_of_lt (by omega)
  rw [hs2]
  generalize hcarried' : c2 + s1 / 2 ^ 32 = s2 at *
  have hs2lt : s2 < 2 ^ 64 := by omega
  have hlimbs : c0 + 2 ^ 32 * c1 + 2 ^ 64 * c2 =
      c0 % 2 ^ 32 + 2 ^ 32 * (s1 % 2 ^ 32) + 2 ^ 64 * s2 := by
    omega
  rw [hlimbs, misplaced_limbs (Nat.mod_lt _ (by decide))
    (Nat.mod_lt _ (by decide))]
  omega

/-- A small product needs no third limb and has no wide column. -/
theorem toNat_uscalednsMul_of_lt {t1 t2 : UScaledNs}
    (hlt : t1.toNat * t2.toNat < 2 ^ 64) :
    (uscalednsMul t1 t2).toNat = t1.toNat * t2.toNat / 2 ^ 16 := by
  obtain ⟨hproduct, _⟩ := columns_fit t1.toNat_lt t2.toNat_lt (by omega)
  have hcarry : SecondColumnFits t1.toNat t2.toNat := by
    unfold SecondColumnFits
    omega
  have hlimb : digit (t1.toNat * t2.toNat) 2 = 0 := by
    unfold digit
    omega
  have hvalue := toNat_uscalednsMul_of_fits (by omega) hcarry
  omega

/-- A time of less than `2 ^ 32` nanoseconds can be multiplied by one. -/
theorem toNat_uscalednsMulDouble_one {t : UScaledNs} (hlt : t.toNat < 2 ^ 48) :
    (uscalednsMulDouble t 1).toNat = t.toNat := by
  have hone : (uscalednsDouble 1).toNat = 2 ^ 16 := by decide +kernel
  have hproduct : t.toNat * (uscalednsDouble 1).toNat = t.toNat * 2 ^ 16 :=
    congrArg _ hone
  unfold uscalednsMulDouble
  rw [toNat_uscalednsMul_of_lt (by omega), hproduct]
  omega

end TsnDrivers
end Ziggo

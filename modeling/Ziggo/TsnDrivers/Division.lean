import Mathlib.Algebra.Order.Floor.Semifield
import Ziggo.TsnDrivers.UScaledNs

/-!
# Division of timestamps

The division works on 32-bit limbs.  Each of its loops is described by what it
does to the values of the limbs.
-/

namespace Ziggo
namespace TsnDrivers

open Foundation

/-!
## The value of limbs
-/

def limbsValue : List UInt64 -> Nat
  | [] => 0
  | a :: as => a.toNat + 2 ^ 32 * limbsValue as

/-- No limb is wider than 32 bits. -/
def Narrow (as : List UInt64) : Prop :=
  forall a, a ∈ as -> a.toNat < 2 ^ 32

theorem narrow_cons {a : UInt64} {as : List UInt64} :
    Narrow (a :: as) <-> a.toNat < 2 ^ 32 ∧ Narrow as := by
  unfold Narrow
  simp

theorem limbsValue_lt {as : List UInt64} (h : Narrow as) :
    limbsValue as < 2 ^ (32 * as.length) := by
  induction as with
  | nil => simp [limbsValue]
  | cons a as ih =>
      obtain ⟨ha, has⟩ := narrow_cons.mp h
      have hrest := ih has
      have hpow : 2 ^ (32 * (a :: as).length) =
          2 ^ 32 * 2 ^ (32 * as.length) := by
        rw [← pow_add, List.length_cons]
        ring_nf
      rw [hpow, limbsValue]
      omega

/-!
## Comparison
-/

def compareLimb (a b : UInt64) : Int :=
  if a = b then 0 else if a < b then -1 else 1

theorem compareLimbs_concat {as bs : List UInt64}
    (hlength : as.length = bs.length) (a b : UInt64) :
    compareLimbs (as ++ [a]) (bs ++ [b]) =
      if compareLimbs as bs = 0 then compareLimb a b
      else compareLimbs as bs := by
  induction as generalizing bs with
  | nil =>
      cases bs with
      | nil => simp [compareLimbs, compareLimb]
      | cons b' bs => cases hlength
  | cons a' as ih =>
      cases bs with
      | nil => cases hlength
      | cons b' bs =>
          have hrest := @ih bs (Nat.succ.inj hlength)
          simp only [List.cons_append, compareLimbs, hrest]
          by_cases heq : a' = b'
          · simp only [if_pos heq]
          · simp only [if_neg heq]
            by_cases hlt : a' < b'
            · simp [if_pos hlt]
            · simp [if_neg hlt]

theorem compareArray_cons {as bs : List UInt64}
    (hlength : as.length = bs.length) (a b : UInt64) :
    compareArray (a :: as) (b :: bs) =
      if compareArray as bs = 0 then compareLimb a b
      else compareArray as bs := by
  unfold compareArray
  rw [List.reverse_cons, List.reverse_cons]
  exact compareLimbs_concat (by simpa using hlength) a b

theorem compareArray_eq {as bs : List UInt64}
    (hlength : as.length = bs.length) (has : Narrow as) (hbs : Narrow bs) :
    compareArray as bs =
      if limbsValue bs < limbsValue as then 1
      else if limbsValue as < limbsValue bs then -1
      else 0 := by
  induction as generalizing bs with
  | nil =>
      cases bs with
      | nil => rfl
      | cons b bs => cases hlength
  | cons a as ih =>
      cases bs with
      | nil => cases hlength
      | cons b bs =>
          obtain ⟨ha, has⟩ := narrow_cons.mp has
          obtain ⟨hb, hbs⟩ := narrow_cons.mp hbs
          rw [compareArray_cons (Nat.succ.inj hlength),
            ih (Nat.succ.inj hlength) has hbs]
          simp only [limbsValue, compareLimb, UInt64.lt_iff_toNat_lt,
            ← UInt64.toNat_inj]
          grind

/-!
## Doubling and subtraction
-/

theorem doubleLimbs_spec {as : List UInt64} (h : Narrow as) {c : UInt64}
    (hc : c.toNat ≤ 1) :
    limbsValue (doubleLimbs c as).1 +
          2 ^ (32 * as.length) * (doubleLimbs c as).2.toNat =
        2 * limbsValue as + c.toNat ∧
      Narrow (doubleLimbs c as).1 ∧
      (doubleLimbs c as).1.length = as.length ∧
      (doubleLimbs c as).2.toNat ≤ 1 := by
  induction as generalizing c with
  | nil => simp [doubleLimbs, limbsValue, Narrow, hc]
  | cons a as ih =>
      obtain ⟨ha, has⟩ := narrow_cons.mp h
      have hshift : (a >>> 31).toNat = a.toNat / 2 ^ 31 := by
        rw [UInt64.toNat_shiftRight, Nat.shiftRight_eq_div_pow]
        rfl
      have hout : (a >>> 31).toNat ≤ 1 := by omega
      have hlimb : (((a <<< 1) + c) &&& 0xffffffff).toNat =
          (2 * a.toNat + c.toNat) % 2 ^ 32 := by
        rw [UInt64.toNat_and, UInt64.toNat_add, UInt64.toNat_shiftLeft,
          Nat.shiftLeft_eq]
        change ((a.toNat * 2 ^ 1 % 2 ^ 64 + c.toNat) % 2 ^ 64) &&&
          (2 ^ 32 - 1) = _
        rw [Nat.and_two_pow_sub_one_eq_mod]
        omega
      obtain ⟨hvalue, hnarrow, hlength, hcarry⟩ := ih has hout
      have hpow : 2 ^ (32 * (a :: as).length) =
          2 ^ 32 * 2 ^ (32 * as.length) := by
        rw [← pow_add, List.length_cons]
        ring_nf
      refine ⟨?_, ?_, ?_, hcarry⟩
      · rw [hpow]
        simp only [doubleLimbs, limbsValue, hlimb, Nat.mul_assoc]
        rw [hshift] at hvalue
        omega
      · simp only [doubleLimbs]
        refine narrow_cons.mpr ⟨?_, hnarrow⟩
        rw [hlimb]
        exact Nat.mod_lt _ (by decide)
      · simp [doubleLimbs, hlength]

theorem subtractLimbs_spec {as bs : List UInt64}
    (hlength : as.length = bs.length) (has : Narrow as) (hbs : Narrow bs)
    {c : UInt64} (hc : c.toNat ≤ 1) :
    limbsValue (subtractLimbs c as bs).1 + limbsValue bs + c.toNat =
        limbsValue as +
          2 ^ (32 * as.length) * (subtractLimbs c as bs).2.toNat ∧
      Narrow (subtractLimbs c as bs).1 ∧
      (subtractLimbs c as bs).1.length = as.length ∧
      (subtractLimbs c as bs).2.toNat ≤ 1 := by
  induction as generalizing bs c with
  | nil =>
      cases bs with
      | nil => simp [subtractLimbs, limbsValue, Narrow, hc]
      | cons b bs => cases hlength
  | cons a as ih =>
      cases bs with
      | nil => cases hlength
      | cons b bs =>
          obtain ⟨ha, has⟩ := narrow_cons.mp has
          obtain ⟨hb, hbs⟩ := narrow_cons.mp hbs
          have hsum : (b + c).toNat = b.toNat + c.toNat := by
            rw [UInt64.toNat_add]
            omega
          have hpow : 2 ^ (32 * (a :: as).length) =
              2 ^ 32 * 2 ^ (32 * as.length) := by
            rw [← pow_add, List.length_cons]
            ring_nf
          rw [hpow]
          by_cases hlt : a < b + c
          · have hlt' : a.toNat < b.toNat + c.toNat := by
              rwa [UInt64.lt_iff_toNat_lt, hsum] at hlt
            have hlimb : (a + ((1 : UInt64) <<< 32) - b - c).toNat =
                a.toNat + 2 ^ 32 - b.toNat - c.toNat := by
              have hborrow : ((1 : UInt64) <<< 32).toNat = 2 ^ 32 := by decide
              rw [UInt64.toNat_sub, UInt64.toNat_sub, UInt64.toNat_add,
                hborrow]
              omega
            obtain ⟨hvalue, hnarrow, hlen, hcarry⟩ :=
              @ih bs (Nat.succ.inj hlength) has hbs 1 (by decide)
            have hone : (1 : UInt64).toNat = 1 := rfl
            simp only [subtractLimbs, if_pos hlt, limbsValue, hlimb,
              Nat.mul_assoc]
            refine ⟨by omega, narrow_cons.mpr ⟨?_, hnarrow⟩, by simp [hlen],
              hcarry⟩
            rw [hlimb]
            omega
          · have hge : b.toNat + c.toNat ≤ a.toNat := by
              rw [UInt64.lt_iff_toNat_lt, hsum] at hlt
              omega
            have hlimb : (a + ((0 : UInt64) <<< 32) - b - c).toNat =
                a.toNat - b.toNat - c.toNat := by
              have hborrow : ((0 : UInt64) <<< 32).toNat = 0 := by decide
              rw [UInt64.toNat_sub, UInt64.toNat_sub, UInt64.toNat_add,
                hborrow]
              omega
            obtain ⟨hvalue, hnarrow, hlen, hcarry⟩ :=
              @ih bs (Nat.succ.inj hlength) has hbs 0 (by decide)
            have hzero : (0 : UInt64).toNat = 0 := rfl
            simp only [subtractLimbs, if_neg hlt, limbsValue, hlimb,
              Nat.mul_assoc]
            refine ⟨by omega, narrow_cons.mpr ⟨?_, hnarrow⟩, by simp [hlen],
              hcarry⟩
            rw [hlimb]
            omega

/-!
## The loops
-/

structure FourLimbs (as : List UInt64) : Prop where
  length : as.length = 4
  narrow : Narrow as

theorem FourLimbs.compare {as bs : List UInt64} (has : FourLimbs as)
    (hbs : FourLimbs bs) :
    compareArray as bs =
      if limbsValue bs < limbsValue as then 1
      else if limbsValue as < limbsValue bs then -1
      else 0 :=
  compareArray_eq (has.length.trans hbs.length.symm) has.narrow hbs.narrow

section Comparison

variable {as bs : List UInt64} (has : FourLimbs as) (hbs : FourLimbs bs)

include has hbs

theorem FourLimbs.compare_pos :
    compareArray as bs > 0 <-> limbsValue bs < limbsValue as := by
  rw [has.compare hbs]
  split_ifs with hlt hgt <;> simp [hlt]

theorem FourLimbs.compare_nonneg :
    compareArray as bs ≥ 0 <-> limbsValue bs ≤ limbsValue as := by
  rw [has.compare hbs]
  split_ifs with hlt hgt <;> simp <;> omega

theorem FourLimbs.compare_eq_zero :
    compareArray as bs = 0 <-> limbsValue as = limbsValue bs := by
  rw [has.compare hbs]
  split_ifs with hlt hgt <;> simp <;> omega

end Comparison

theorem FourLimbs.double {as : List UInt64} (h : FourLimbs as)
    (hfits : limbsValue as < 2 ^ 127) :
    FourLimbs (doubleLimbs 0 as).1 ∧
      limbsValue (doubleLimbs 0 as).1 = 2 * limbsValue as ∧
      (doubleLimbs 0 as).2 = 0 := by
  obtain ⟨hvalue, hnarrow, hlength, hcarry⟩ :=
    doubleLimbs_spec h.narrow (c := 0) (by decide)
  rw [h.length] at hvalue
  have hzero : (0 : UInt64).toNat = 0 := rfl
  have hout : (doubleLimbs 0 as).2.toNat = 0 := by omega
  refine ⟨⟨hlength.trans h.length, hnarrow⟩, by omega, ?_⟩
  exact UInt64.toNat_inj.mp hout

theorem FourLimbs.subtract {as bs : List UInt64} (has : FourLimbs as)
    (hbs : FourLimbs bs) (hle : limbsValue bs ≤ limbsValue as) :
    FourLimbs (subtractLimbs 0 as bs).1 ∧
      limbsValue (subtractLimbs 0 as bs).1 = limbsValue as - limbsValue bs ∧
      (subtractLimbs 0 as bs).2 = 0 := by
  obtain ⟨hvalue, hnarrow, hlength, hcarry⟩ :=
    subtractLimbs_spec (has.length.trans hbs.length.symm) has.narrow hbs.narrow
      (c := 0) (by decide)
  have hlt := limbsValue_lt hnarrow
  rw [hlength, has.length] at hlt
  rw [has.length] at hvalue
  have hzero : (0 : UInt64).toNat = 0 := rfl
  have hout : (subtractLimbs 0 as bs).2.toNat = 0 := by omega
  refine ⟨⟨hlength.trans has.length, hnarrow⟩, by omega, ?_⟩
  exact UInt64.toNat_inj.mp hout

/--
The first loop ends once the divisor has been doubled often enough.  The bound
on the dividend leaves room for one more doubling.
-/
theorem normalizeDivisor_ok {as : List UInt64} (has : FourLimbs as)
    (hbound : limbsValue as < 2 ^ 96) {fuel : Nat} {bs : List UInt64}
    (hbs : FourLimbs bs) (hroom : limbsValue bs < 2 ^ 97)
    (hfuel : limbsValue as < 2 ^ fuel * limbsValue bs) (k : Nat) :
    exists bs' j, normalizeDivisor as (fuel + 1) bs k = .ok (bs', k + j) ∧
      FourLimbs bs' ∧ limbsValue bs' = 2 ^ j * limbsValue bs ∧
      limbsValue as ≤ limbsValue bs' ∧ limbsValue bs' < 2 ^ 97 := by
  induction fuel generalizing bs k with
  | zero =>
      refine ⟨bs, 0, ?_, hbs, by simp, by simpa using hfuel.le, hroom⟩
      rw [pow_zero, Nat.one_mul] at hfuel
      rw [normalizeDivisor,
        if_neg fun h => hfuel.not_gt ((has.compare_pos hbs).mp h)]
      rfl
  | succ fuel ih =>
      by_cases hgt : limbsValue bs < limbsValue as
      · obtain ⟨hdouble, hvalue, hcarry⟩ := hbs.double (by omega)
        obtain ⟨bs', j, hrun, hbs', hvalue', hbounds⟩ := ih hdouble (by omega)
          (by rw [hvalue, ← Nat.mul_assoc, ← pow_succ]; exact hfuel) (k + 1)
        refine ⟨bs', j + 1, ?_, hbs', ?_, hbounds⟩
        · rw [normalizeDivisor, if_pos ((has.compare_pos hbs).mpr hgt)]
          dsimp only
          rw [if_pos hcarry, hrun]
          ring_nf
        · rw [hvalue', hvalue]
          ring
      · refine ⟨bs, 0, ?_, hbs, by simp, by omega, hroom⟩
        rw [normalizeDivisor, if_neg fun h => hgt ((has.compare_pos hbs).mp h)]
        rfl

theorem normalizeDivisor_zero {as : List UInt64} (has : FourLimbs as)
    (hpos : 0 < limbsValue as) (fuel : Nat) {bs : List UInt64}
    (hbs : FourLimbs bs) (hzero : limbsValue bs = 0) (k : Nat) :
    normalizeDivisor as fuel bs k = .error .diverges := by
  induction fuel generalizing bs k with
  | zero => rfl
  | succ fuel ih =>
      obtain ⟨hdouble, hvalue, hcarry⟩ := hbs.double (by omega)
      rw [normalizeDivisor, if_pos ((has.compare_pos hbs).mpr (by omega))]
      dsimp only
      rw [if_pos hcarry]
      exact ih hdouble (by omega) (k + 1)

theorem quotientBits_ok {bs : List UInt64} (hbs : FourLimbs bs)
    (hbound : limbsValue bs < 2 ^ 126) {i : Nat} {as : List UInt64}
    (has : FourLimbs as) (hlt : limbsValue as < limbsValue bs) (r : Rat) :
    quotientBits bs i as r =
      .ok (r + (2 ^ i * limbsValue as / limbsValue bs : Nat) / 2 ^ 32) := by
  induction i generalizing as r with
  | zero =>
      rw [quotientBits, pow_zero, Nat.one_mul, Nat.div_eq_of_lt hlt]
      simp
  | succ i ih =>
      have hpos : 0 < limbsValue bs := by omega
      obtain ⟨hdouble, hvalue, hcarry⟩ := has.double (by omega)
      have hscale : 2 ^ (i + 1) * limbsValue as =
          2 ^ i * limbsValue (doubleLimbs 0 as).1 := by
        rw [hvalue, pow_succ]
        ring
      rw [quotientBits]
      dsimp only
      rw [if_neg (not_not.mpr hcarry), hscale]
      by_cases hge : limbsValue bs ≤ limbsValue (doubleLimbs 0 as).1
      · obtain ⟨hsub, hvalue', hborrow⟩ := hdouble.subtract hbs hge
        have hsplit : 2 ^ i * limbsValue (doubleLimbs 0 as).1 /
              limbsValue bs =
            2 ^ i + 2 ^ i * limbsValue (subtractLimbs 0
              (doubleLimbs 0 as).1 bs).1 / limbsValue bs := by
          have hsum : 2 ^ i * limbsValue (doubleLimbs 0 as).1 =
              2 ^ i * limbsValue (subtractLimbs 0 (doubleLimbs 0 as).1 bs).1 +
                2 ^ i * limbsValue bs := by
            rw [hvalue', ← Nat.mul_add, Nat.sub_add_cancel hge]
          rw [hsum, Nat.add_mul_div_right _ _ hpos, Nat.add_comm]
        rw [if_pos ((hdouble.compare_nonneg hbs).mpr hge),
          if_neg (not_not.mpr hborrow), hsplit]
        by_cases heq : limbsValue (doubleLimbs 0 as).1 = limbsValue bs
        · rw [if_pos ((hdouble.compare_eq_zero hbs).mpr heq), hvalue', heq]
          simp
        · rw [if_neg fun h => heq ((hdouble.compare_eq_zero hbs).mp h),
            ih hsub (by omega)]
          push_cast
          congr 1
          ring
      · rw [if_neg fun h => hge ((hdouble.compare_nonneg hbs).mp h),
          ih hdouble (by omega)]

/-!
## The quotient
-/

theorem limbs_spec (t : UScaledNs) :
    FourLimbs (limbs t) ∧ limbsValue (limbs t) = t.toNat := by
  have hsubns := t.subns.toNat_lt
  have hnsec := t.nsec.toNat_lt
  have hmsb := t.nsecMsb.toNat_lt
  have hlow : (t.subns.toUInt64 + ((t.nsec &&& 0xffff) <<< 16)).toNat =
      t.subns.toNat + t.nsec.toNat % 2 ^ 16 * 2 ^ 16 := by
    have hand : (t.nsec &&& 0xffff).toNat = t.nsec.toNat % 2 ^ 16 := by
      rw [UInt64.toNat_and]
      exact Nat.and_two_pow_sub_one_eq_mod _ 16
    have hshift : ((t.nsec &&& 0xffff) <<< 16).toNat =
        t.nsec.toNat % 2 ^ 16 * 2 ^ 16 := by
      rw [UInt64.toNat_shiftLeft, Nat.shiftLeft_eq, hand]
      change t.nsec.toNat % 2 ^ 16 * 2 ^ 16 % 2 ^ 64 = _
      omega
    rw [UInt64.toNat_add, UInt16.toNat_toUInt64, hshift]
    omega
  have hmiddle : ((t.nsec >>> 16) &&& 0xffffffff).toNat =
      t.nsec.toNat / 2 ^ 16 % 2 ^ 32 := by
    rw [UInt64.toNat_and, UInt64.toNat_shiftRight, Nat.shiftRight_eq_div_pow]
    exact Nat.and_two_pow_sub_one_eq_mod _ 32
  have hhigh : ((t.nsec >>> 48) + (t.nsecMsb.toUInt64 <<< 16)).toNat =
      t.nsec.toNat / 2 ^ 48 + t.nsecMsb.toNat * 2 ^ 16 := by
    rw [UInt64.toNat_add, UInt64.toNat_shiftRight, UInt64.toNat_shiftLeft,
      Nat.shiftRight_eq_div_pow, Nat.shiftLeft_eq, UInt16.toNat_toUInt64]
    change (t.nsec.toNat / 2 ^ 48 + t.nsecMsb.toNat * 2 ^ 16 % 2 ^ 64) %
      2 ^ 64 = _
    omega
  have hzero : (0 : UInt64).toNat = 0 := rfl
  refine ⟨⟨rfl, ?_⟩, ?_⟩
  · unfold limbs
    simp only [narrow_cons, hlow, hmiddle, hhigh, hzero]
    refine ⟨by omega, by omega, by omega, by omega, fun a ha => by cases ha⟩
  · unfold limbs UScaledNs.toNat
    simp only [limbsValue, hlow, hmiddle, hhigh, hzero]
    omega

/-- A quotient is cut off after 32 bits behind the binary point. -/
theorem uscalednsDiv_ok {t1 t2 : UScaledNs} (hpos : 0 < t2.toNat) :
    uscalednsDiv t1 t2 =
      .ok ((2 ^ 32 * t1.toNat / t2.toNat : Nat) / 2 ^ 32) := by
  obtain ⟨ha, hvalue⟩ := limbs_spec t1
  obtain ⟨hb, hvalue'⟩ := limbs_spec t2
  have hbound := t1.toNat_lt
  have hbound' := t2.toNat_lt
  have hfuel : limbsValue (limbs t1) < 2 ^ 127 * limbsValue (limbs t2) := by
    have hmul := Nat.mul_le_mul_left (2 ^ 127) hpos
    omega
  obtain ⟨bs, j, hrun, hbs, hscale, hle, hroom⟩ := normalizeDivisor_ok ha
    (by rw [hvalue]; exact hbound) hb (by omega) hfuel 0
  rw [hvalue'] at hscale
  rw [hvalue] at hle
  have hscale' : 2 ^ (j + 32) * t1.toNat / (2 ^ j * t2.toNat) =
      2 ^ 32 * t1.toNat / t2.toNat := by
    rw [pow_add, Nat.mul_assoc]
    exact Nat.mul_div_mul_left _ _ (by positivity)
  unfold uscalednsDiv
  rw [hrun]
  simp only [bind, Except.bind, Nat.zero_add]
  by_cases heq : t1.toNat = limbsValue bs
  · have hquotient : 2 ^ 32 * t1.toNat / t2.toNat = 2 ^ 32 * 2 ^ j := by
      rw [heq, hscale, ← Nat.mul_assoc]
      exact Nat.mul_div_cancel _ hpos
    have hcast : ((2 ^ 32 * 2 ^ j : Nat) : Rat) / 2 ^ 32 = 2 ^ j := by
      rw [Nat.cast_mul, Nat.cast_pow, Nat.cast_pow]
      exact mul_div_cancel_left₀ _ (by positivity)
    rw [if_pos ((ha.compare_eq_zero hbs).mpr (hvalue.trans heq)), hquotient,
      hcast]
  · rw [if_neg fun h => heq (hvalue.symm.trans ((ha.compare_eq_zero hbs).mp h)),
      quotientBits_ok hbs (by omega) ha (by omega), hvalue, hscale, hscale',
      zero_add]

/--
The division ends without a failed assertion.  It returns the quotient, rounded
down to a multiple of `2 ^ -32`.
-/
theorem uscalednsDiv_eq_floor {t1 t2 : UScaledNs} (hne : t2.toNat ≠ 0) :
    uscalednsDiv t1 t2 =
      .ok (⌊(t1.toNat : Rat) * 2 ^ 32 / t2.toNat⌋₊ / 2 ^ 32) := by
  have hfloor : ⌊(t1.toNat : Rat) * 2 ^ 32 / t2.toNat⌋₊ =
      2 ^ 32 * t1.toNat / t2.toNat := by
    have hcast : ((2 ^ 32 * t1.toNat : Nat) : Rat) =
        (t1.toNat : Rat) * 2 ^ 32 := by
      rw [Nat.cast_mul, Nat.cast_pow, mul_comm]
      rfl
    rw [← hcast]
    exact Nat.floor_div_eq_div _ _
  rw [uscalednsDiv_ok (Nat.pos_of_ne_zero hne), hfloor]

theorem uscalednsDiv_eq_floor_third :
    let unit : UScaledNs := { subns := 0, nsec := 1, nsecMsb := 0 }
    let three : UScaledNs := { subns := 0, nsec := 3, nsecMsb := 0 }
    three.toNat ≠ 0 ∧
      uscalednsDiv unit three =
        .ok (⌊(unit.toNat : Rat) * 2 ^ 32 / three.toNat⌋₊ / 2 ^ 32) :=
  ⟨by decide, uscalednsDiv_eq_floor (by decide)⟩

theorem uscalednsDiv_zero {t1 t2 : UScaledNs} (h1 : t1.toNat = 0)
    (h2 : t2.toNat = 0) : uscalednsDiv t1 t2 = .ok 1 := by
  obtain ⟨ha, hvalue⟩ := limbs_spec t1
  obtain ⟨hb, hvalue'⟩ := limbs_spec t2
  have hequal : compareArray (limbs t1) (limbs t2) = 0 :=
    (ha.compare_eq_zero hb).mpr (by omega)
  unfold uscalednsDiv
  rw [normalizeDivisor, hequal, if_neg (by decide)]
  simp only [bind, Except.bind, hequal, if_true, pow_zero]

/-- The division does not return exactly for a divisor of zero. -/
theorem uscalednsDiv_diverges_iff (t1 t2 : UScaledNs) :
    (exists f, uscalednsDiv t1 t2 = .error f) <->
      t2.toNat = 0 ∧ t1.toNat ≠ 0 := by
  obtain ⟨ha, hvalue⟩ := limbs_spec t1
  obtain ⟨hb, hvalue'⟩ := limbs_spec t2
  by_cases hdivisor : t2.toNat = 0
  · by_cases hdividend : t1.toNat = 0
    · rw [uscalednsDiv_zero hdividend hdivisor]
      simp [hdividend]
    · have hdiverges : uscalednsDiv t1 t2 = .error .diverges := by
        unfold uscalednsDiv
        rw [normalizeDivisor_zero ha (by omega) 128 hb (by omega) 0]
        rfl
      simp [hdiverges, hdivisor, hdividend]
  · rw [uscalednsDiv_ok (Nat.pos_of_ne_zero hdivisor)]
    simp [hdivisor]

end TsnDrivers
end Ziggo

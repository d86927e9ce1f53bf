import Mathlib.Algebra.Order.Floor.Ring
import Mathlib.Data.Rat.Floor
import Mathlib.Data.Nat.Log
import Ziggo.Foundation.Machine
import Ziggo.TsnDrivers.PtpTypes

/-!
# Arithmetic on 96-bit timestamps

The functions `uscaledns_*` and the timestamp conversions of `ptp_types.c`.
Each works on three machine words or on 32-bit limbs; the value that a
timestamp stands for is a natural number below `2 ^ 96`.
-/

namespace Ziggo
namespace TsnDrivers

open Foundation

/-!
## Functions
-/

/-- The first stage of `uscaledns_subtract`, with the borrow it leaves. -/
def subtractSubns (a b : UInt16) : UInt16 × Bool :=
  if b ≤ a then (a - b, false) else (a - b, true)

/-- The second stage of `uscaledns_subtract`. -/
def subtractNsec (a b : UInt64) (borrow : Bool) : UInt64 × Bool :=
  if a = 0 ∧ borrow then
    (0xFFFFFFFFFFFFFFFF - b, true)
  else if b ≤ a - borrow.toUInt64 then
    (a - borrow.toUInt64 - b, false)
  else
    (a - borrow.toUInt64 - b, true)

/-- The third stage of `uscaledns_subtract`, whose borrow is dropped. -/
def subtractNsecMsb (a b : UInt16) (borrow : Bool) : UInt16 :=
  if a = 0 ∧ borrow then 0xFFFF - b else a - borrow.toUInt16 - b

def uscalednsSubtract (t1 t2 : UScaledNs) : UScaledNs :=
  let subns := subtractSubns t1.subns t2.subns
  let nsec := subtractNsec t1.nsec t2.nsec subns.2
  { subns := subns.1
    nsec := nsec.1
    nsecMsb := subtractNsecMsb t1.nsecMsb t2.nsecMsb nsec.2 }

def checkOverflow (a b : UInt64) (carry : Bool) : Bool :=
  let s := a + b + carry.toUInt64
  if carry = false then
    decide (s < a)
  else
    decide (¬ s > a)

def uscalednsAdd (t1 t2 : UScaledNs) : UScaledNs :=
  let temp := t1.subns.toUInt64 + t2.subns.toUInt64
  let c := decide (0xFFFF ≤ temp)
  { subns := (temp &&& 0xFFFF).toUInt16
    nsec := t1.nsec + t2.nsec + c.toUInt64
    nsecMsb :=
      t1.nsecMsb + t2.nsecMsb + (checkOverflow t1.nsec t2.nsec c).toUInt16 }

/-- The 32-bit limbs of a timestamp, least significant limb first. -/
def limbs (t : UScaledNs) : List UInt64 :=
  [t.subns.toUInt64 + ((t.nsec &&& 0xffff) <<< 16),
    (t.nsec >>> 16) &&& 0xffffffff,
    (t.nsec >>> 48) + (t.nsecMsb.toUInt64 <<< 16),
    0]

/-- The carries of `uscaledns_mul`, which leave 32 bits in every limb but the last. -/
def propagateCarries : List UInt64 -> List UInt64
  | c :: d :: cs =>
      (c &&& 0xffffffff) :: propagateCarries ((d + (c >>> 32)) :: cs)
  | cs => cs

def uscalednsMul (t1 t2 : UScaledNs) : UScaledNs :=
  match limbs t1, limbs t2 with
  | [a0, a1, a2, _], [b0, b1, b2, _] =>
      match propagateCarries
        [a0 * b0, a0 * b1 + a1 * b0, a0 * b2 + a1 * b1 + a2 * b0,
          a1 * b2 + a2 * b1, a2 * b2] with
      | [c0, c1, c2, c3, _] =>
          { subns := (c0 >>> 16).toUInt16
            nsec := c1 + (c2 <<< 16)
            nsecMsb := (c3 &&& 0xffff).toUInt16 }
      | _ => default
  | _, _ => default

/-- The bits after the binary point, the first of them worth `r`. -/
def fractionBits : Nat -> Rat -> UInt16 -> UInt16 × Rat
  | 0, r, subns => (subns, r)
  | i + 1, r, subns =>
      if r * 2 > 1 then
        fractionBits i (r * 2 - 1) (subns ||| (1 <<< UInt16.ofNat i))
      else
        fractionBits i (r * 2) subns

def uscalednsDouble (r : Rat) : UScaledNs :=
  let nsec := UInt64.ofNat r.floor.toNat
  let nsecMsb := UInt16.ofNat (r.floor.toNat / 2 ^ 64)
  let (subns, rest) := fractionBits 16 (r - r.floor) 0
  if rest * 2 > 1 then
    if subns = 0xffff then
      if nsec = 0xffffffffffffffff then
        { subns := 0, nsec := 0, nsecMsb := nsecMsb + 1 }
      else
        { subns := 0, nsec := nsec + 1, nsecMsb := nsecMsb }
    else
      { subns := subns + 1, nsec := nsec, nsecMsb := nsecMsb }
  else
    { subns := subns, nsec := nsec, nsecMsb := nsecMsb }

def uscalednsMulDouble (t1 : UScaledNs) (r : Rat) : UScaledNs :=
  uscalednsMul t1 (uscalednsDouble r)

/-- `compare_array`, on limbs with the most significant limb first. -/
def compareLimbs : List UInt64 -> List UInt64 -> Int
  | a :: as, b :: bs =>
      if a = b then compareLimbs as bs else if a < b then -1 else 1
  | _, _ => 0

/-- `compare_array`, which starts from the last limb. -/
def compareArray (a b : List UInt64) : Int :=
  compareLimbs a.reverse b.reverse

/-- Doubles a number of 32-bit limbs and returns the bit that is shifted out. -/
def doubleLimbs (carryBit : UInt64) : List UInt64 -> List UInt64 × UInt64
  | [] => ([], carryBit)
  | a :: as =>
      let (rest, carryOut) := doubleLimbs (a >>> 31) as
      ((((a <<< 1) + carryBit) &&& 0xffffffff) :: rest, carryOut)

def subtractLimbs (carryBit : UInt64) : List UInt64 -> List UInt64 ->
    List UInt64 × UInt64
  | a :: as, b :: bs =>
      let carryBitTmp : UInt64 := if a < b + carryBit then 1 else 0
      let (rest, carryOut) := subtractLimbs carryBitTmp as bs
      ((a + (carryBitTmp <<< 32) - b - carryBit) :: rest, carryOut)
  | _, _ => ([], carryBit)

/--
The first loop of `uscaledns_div`, which doubles the divisor until it is not
below the dividend.  The loop does not end for a divisor that stays zero.
-/
def normalizeDivisor (a : List UInt64) : Nat -> List UInt64 -> Nat ->
    Except Fault (List UInt64 × Nat)
  | 0, _, _ => .error .diverges
  | fuel + 1, b, k =>
      if compareArray a b > 0 then
        match doubleLimbs 0 b with
        | (b', carryBit) =>
            if carryBit = 0 then normalizeDivisor a fuel b' (k + 1)
            else .error .assertion
      else
        .ok (b, k)

/-- The second loop of `uscaledns_div`, which finds one quotient bit a round. -/
def quotientBits (b : List UInt64) : Nat -> List UInt64 -> Rat ->
    Except Fault Rat
  | 0, _, r => .ok r
  | i + 1, a, r =>
      match doubleLimbs 0 a with
      | (a', carryBit) =>
          if carryBit ≠ 0 then
            .error .assertion
          else if compareArray a' b ≥ 0 then
            match subtractLimbs 0 a' b with
            | (a'', borrow) =>
                if borrow ≠ 0 then
                  .error .assertion
                else if compareArray a' b = 0 then
                  .ok (r + 2 ^ i / 2 ^ 32)
                else
                  quotientBits b i a'' (r + 2 ^ i / 2 ^ 32)
          else
            quotientBits b i a' r

def uscalednsDiv (t1 t2 : UScaledNs) : Except Fault Rat := do
  let (b, k) <- normalizeDivisor (limbs t1) 128 (limbs t2) 0
  if compareArray (limbs t1) b = 0 then
    .ok (2 ^ k)
  else
    quotientBits b (k + 32) (limbs t1) 0

def uscalednsDivideBy2 (t : UScaledNs) : UScaledNs where
  subns :=
    if t.nsec &&& 0x1 ≠ 0 then (t.subns >>> 1) ||| 0x8000 else t.subns >>> 1
  nsec :=
    if t.nsecMsb &&& 0x1 ≠ 0 then (t.nsec >>> 1) ||| 0x8000000000000000
    else t.nsec >>> 1
  nsecMsb := t.nsecMsb >>> 1

def uscalednsCompare (t1 t2 : UScaledNs) : Int :=
  if t1.nsecMsb > t2.nsecMsb then 1
  else if t1.nsecMsb < t2.nsecMsb then -1
  else if t1.nsec > t2.nsec then 1
  else if t1.nsec < t2.nsec then -1
  else if t1.subns > t2.subns then 1
  else if t1.subns < t2.subns then -1
  else 0

def uint64Uscaledns (t : UScaledNs) : UInt64 :=
  t.subns.toUInt64 ||| (t.nsec <<< 16)

def uscalednsUint64 (t : UInt64) : UScaledNs where
  nsecMsb := 0
  subns := (t &&& 0xFFFF).toUInt16
  nsec := t >>> 16

def uscalednsPtpmsgtimestamp (ptpmsgts : PTPMsgTimestamp) : UScaledNs where
  nsecMsb := 0
  nsec := ptpmsgts.secondsLsb.toUInt64 * 1000000000 +
    ptpmsgts.nanoseconds.toUInt64
  subns := 0

def ptpmsgtimestampUscaledns (usns : UScaledNs) : PTPMsgTimestamp where
  secondsMsb := 0
  secondsLsb := (usns.nsec / 1000000000).toUInt32
  nanoseconds := (usns.nsec % 1000000000).toUInt32

/-!
## Values
-/

namespace UScaledNs

/-- The value of a timestamp in units of `2 ^ -16` nanoseconds. -/
def toNat (t : UScaledNs) : Nat :=
  t.nsecMsb.toNat * 2 ^ 80 + t.nsec.toNat * 2 ^ 16 + t.subns.toNat

theorem toNat_lt (t : UScaledNs) : t.toNat < 2 ^ 96 := by
  have hsubns := t.subns.toNat_lt
  have hnsec := t.nsec.toNat_lt
  have hmsb := t.nsecMsb.toNat_lt
  unfold toNat
  omega

theorem toNat_inj {t1 t2 : UScaledNs} (h : t1.toNat = t2.toNat) : t1 = t2 := by
  have hsubns := t1.subns.toNat_lt
  have hsubns' := t2.subns.toNat_lt
  have hnsec := t1.nsec.toNat_lt
  have hnsec' := t2.nsec.toNat_lt
  unfold toNat at h
  cases t1
  cases t2
  simp only [UScaledNs.mk.injEq, ← UInt16.toNat_inj, ← UInt64.toNat_inj] at *
  omega

end UScaledNs

theorem subtractSubns_spec (a b : UInt16) :
    (subtractSubns a b).1.toNat + b.toNat =
      a.toNat + 2 ^ 16 * (subtractSubns a b).2.toNat := by
  have ha := a.toNat_lt
  have hb := b.toNat_lt
  unfold subtractSubns
  simp only [UInt16.le_iff_toNat_le]
  split <;> simp only [UInt16.toNat_sub, Bool.toNat_false, Bool.toNat_true] <;>
    omega

theorem subtractNsec_spec (a b : UInt64) (borrow : Bool) :
    (subtractNsec a b borrow).1.toNat + b.toNat + borrow.toNat =
      a.toNat + 2 ^ 64 * (subtractNsec a b borrow).2.toNat := by
  have ha := a.toNat_lt
  have hb := b.toNat_lt
  unfold subtractNsec
  cases borrow <;>
    simp only [UInt64.le_iff_toNat_le, ← UInt64.toNat_inj] <;>
    split_ifs <;>
    simp_all [UInt64.toNat_sub, Bool.toUInt64] <;>
    omega

theorem subtractNsecMsb_spec (a b : UInt16) (borrow : Bool) :
    (subtractNsecMsb a b borrow).toNat =
      (a.toNat + 2 ^ 17 - b.toNat - borrow.toNat) % 2 ^ 16 := by
  have ha := a.toNat_lt
  have hb := b.toNat_lt
  unfold subtractNsecMsb
  cases borrow <;>
    simp only [← UInt16.toNat_inj] <;>
    split_ifs <;>
    simp_all [UInt16.toNat_sub, Bool.toUInt16] <;>
    omega

theorem toNat_uscalednsSubtract (t1 t2 : UScaledNs) :
    (uscalednsSubtract t1 t2).toNat =
      (t1.toNat + 2 ^ 96 - t2.toNat) % 2 ^ 96 := by
  have hsubns := subtractSubns_spec t1.subns t2.subns
  have hnsec := subtractNsec_spec t1.nsec t2.nsec
    (subtractSubns t1.subns t2.subns).2
  have hmsb := subtractNsecMsb_spec t1.nsecMsb t2.nsecMsb
    (subtractNsec t1.nsec t2.nsec (subtractSubns t1.subns t2.subns).2).2
  have hlt := (uscalednsSubtract t1 t2).toNat_lt
  have hlt2 := t2.toNat_lt
  simp only [uscalednsSubtract, UScaledNs.toNat] at *
  generalize (subtractNsec t1.nsec t2.nsec _).2 = borrow at *
  have hborrow := borrow.toNat_le
  have hmsb2 := t2.nsecMsb.toNat_lt
  omega

theorem toNat_uscalednsSubtract_of_le {t1 t2 : UScaledNs}
    (h : t2.toNat ≤ t1.toNat) :
    (uscalednsSubtract t1 t2).toNat = t1.toNat - t2.toNat := by
  have hlt := t1.toNat_lt
  rw [toNat_uscalednsSubtract]
  omega

theorem toNat_uscalednsSubtract_eq_zero (t1 t2 : UScaledNs) :
    (uscalednsSubtract t1 t2).toNat = 0 <-> t2 = t1 := by
  have hlt := t1.toNat_lt
  have hlt' := t2.toNat_lt
  rw [toNat_uscalednsSubtract]
  constructor
  · intro h
    exact UScaledNs.toNat_inj (by omega)
  · rintro rfl
    omega

theorem checkOverflow_spec (a b : UInt64) (carry : Bool) :
    (a + b + carry.toUInt64).toNat + 2 ^ 64 * (checkOverflow a b carry).toNat =
      a.toNat + b.toNat + carry.toNat := by
  have ha := a.toNat_lt
  have hb := b.toNat_lt
  have hcarry : carry.toUInt64.toNat = carry.toNat := by
    cases carry <;> rfl
  unfold checkOverflow
  cases carry <;>
    simp only [UInt64.lt_iff_toNat_lt, gt_iff_lt, UInt64.toNat_add, hcarry,
      Bool.toNat_false, Bool.toNat_true, if_true, if_false, reduceCtorEq]
  · by_cases h : (a.toNat + b.toNat) % 2 ^ 64 < a.toNat
    · rw [decide_eq_true (by simpa using h), Bool.toNat_true]
      simp only [Nat.add_zero, Nat.mod_mod]
      omega
    · rw [decide_eq_false (by simpa using h), Bool.toNat_false]
      simp only [Nat.add_zero, Nat.mod_mod]
      omega
  · by_cases h : a.toNat < ((a.toNat + b.toNat) % 2 ^ 64 + 1) % 2 ^ 64
    · rw [decide_eq_false (not_not.mpr h), Bool.toNat_false]
      omega
    · rw [decide_eq_true h, Bool.toNat_true]
      omega

/-- The error of `uscaledns_add`, which takes a full fraction for a carry. -/
def additionError (t1 t2 : UScaledNs) : Nat :=
  if t1.subns.toNat + t2.subns.toNat = 0xFFFF then 2 ^ 16 else 0

theorem UScaledNs.toNat_mod (t : UScaledNs) :
    t.toNat % 2 ^ 16 = t.subns.toNat := by
  have hsubns := t.subns.toNat_lt
  unfold toNat
  omega

theorem additionError_eq (t1 t2 : UScaledNs) :
    additionError t1 t2 =
      if t1.toNat % 2 ^ 16 + t2.toNat % 2 ^ 16 = 0xFFFF then 2 ^ 16 else 0 := by
  rw [t1.toNat_mod, t2.toNat_mod]
  rfl

theorem toNat_and_toUInt16 (x : UInt64) :
    (x &&& 0xFFFF).toUInt16.toNat = x.toNat % 2 ^ 16 := by
  rw [UInt64.toNat_toUInt16, UInt64.toNat_and]
  change (x.toNat &&& (2 ^ 16 - 1)) % 2 ^ 16 = _
  rw [Nat.and_two_pow_sub_one_eq_mod, Nat.mod_mod]

/-- Addition is exact modulo `2 ^ 96` unless the fractions are in its way. -/
theorem toNat_uscalednsAdd (t1 t2 : UScaledNs) :
    (uscalednsAdd t1 t2).toNat =
      (t1.toNat + t2.toNat + additionError t1 t2) % 2 ^ 96 := by
  have h1 := t1.subns.toNat_lt
  have h2 := t2.subns.toNat_lt
  have hm1 := t1.nsecMsb.toNat_lt
  have hm2 := t2.nsecMsb.toNat_lt
  have hlt := (uscalednsAdd t1 t2).toNat_lt
  have htemp : (t1.subns.toUInt64 + t2.subns.toUInt64).toNat =
      t1.subns.toNat + t2.subns.toNat := by
    rw [UInt64.toNat_add, UInt16.toNat_toUInt64, UInt16.toNat_toUInt64]
    omega
  have hcarry :
      (0xFFFF : UInt64) ≤ t1.subns.toUInt64 + t2.subns.toUInt64 <->
        0xFFFF ≤ t1.subns.toNat + t2.subns.toNat := by
    rw [UInt64.le_iff_toNat_le, htemp]
    rfl
  have hmsb : forall c : Bool, (t1.nsecMsb + t2.nsecMsb + c.toUInt16).toNat =
      (t1.nsecMsb.toNat + t2.nsecMsb.toNat + c.toNat) % 2 ^ 16 := by
    intro c
    cases c <;> simp [UInt16.toNat_add, Bool.toUInt16]
  unfold uscalednsAdd UScaledNs.toNat additionError at *
  dsimp only at *
  rw [hmsb, toNat_and_toUInt16, htemp] at *
  have hoverflow := checkOverflow_spec t1.nsec t2.nsec
    (decide ((0xFFFF : UInt64) ≤ t1.subns.toUInt64 + t2.subns.toUInt64))
  generalize checkOverflow t1.nsec t2.nsec _ = overflow at *
  have hbit := overflow.toNat_le
  by_cases hc : 0xFFFF ≤ t1.subns.toNat + t2.subns.toNat
  · rw [decide_eq_true (hcarry.mpr hc)] at *
    simp only [Bool.toNat_true] at hoverflow
    split_ifs <;> omega
  · rw [decide_eq_false (fun h => hc (hcarry.mp h))] at *
    simp only [Bool.toNat_false] at hoverflow
    split_ifs <;> omega

/-- The carry is wrong exactly for fractions that fill 16 bits with ones. -/
theorem uscalednsAdd_exact_iff (t1 t2 : UScaledNs) :
    (uscalednsAdd t1 t2).toNat = (t1.toNat + t2.toNat) % 2 ^ 96 <->
      t1.subns.toNat + t2.subns.toNat ≠ 0xFFFF := by
  rw [toNat_uscalednsAdd, additionError]
  split_ifs with h
  · refine iff_of_false (fun heq => ?_) (not_not.mpr h)
    omega
  · exact iff_of_true (by rw [Nat.add_zero]) h

theorem uscalednsAdd_carries_full_fraction :
    ¬ forall t1 t2 : UScaledNs,
      (uscalednsAdd t1 t2).toNat = (t1.toNat + t2.toNat) % 2 ^ 96 := by
  intro h
  have hvalue := h { subns := 0x7FFF, nsec := 0, nsecMsb := 0 }
    { subns := 0x8000, nsec := 0, nsecMsb := 0 }
  revert hvalue
  decide

theorem toNat_uscalednsUint64 (t : UInt64) :
    (uscalednsUint64 t).toNat = t.toNat := by
  have ht := t.toNat_lt
  have hshift : (t >>> 16).toNat = t.toNat / 2 ^ 16 := by
    rw [UInt64.toNat_shiftRight, Nat.shiftRight_eq_div_pow]
    rfl
  unfold uscalednsUint64 UScaledNs.toNat
  dsimp only
  rw [toNat_and_toUInt16, hshift, UInt16.toNat_zero]
  omega

/-- A negative correction is read as one above `2 ^ 63`. -/
theorem toInt_eq_toNat (c : Int64) :
    c.toInt = (c.toUInt64.toNat : Int) - if c.toInt < 0 then 2 ^ 64 else 0 := by
  have hcond : c.toInt =
      if 2 * c.toUInt64.toNat < 2 ^ 64 then (c.toUInt64.toNat : Int)
      else (c.toUInt64.toNat : Int) - 2 ^ 64 :=
    BitVec.toInt_eq_toNat_cond c.toBitVec
  have hlt := c.toUInt64.toNat_lt
  rw [hcond]
  split_ifs <;> omega

theorem toNat_uint64Uscaledns (t : UScaledNs) :
    (uint64Uscaledns t).toNat = t.toNat % 2 ^ 64 := by
  have hsubns := t.subns.toNat_lt
  have hshift : (t.nsec <<< 16).toNat = t.nsec.toNat % 2 ^ 48 * 2 ^ 16 := by
    rw [UInt64.toNat_shiftLeft, Nat.shiftLeft_eq]
    change t.nsec.toNat * 2 ^ 16 % 2 ^ 64 = _
    omega
  unfold uint64Uscaledns UScaledNs.toNat
  rw [UInt64.toNat_or, UInt16.toNat_toUInt64, hshift, Nat.or_comm,
    Nat.mul_comm (t.nsec.toNat % 2 ^ 48),
    ← Nat.two_pow_add_eq_or_of_lt hsubns]
  omega

theorem toNat_uscalednsPtpmsgtimestamp (ptpmsgts : PTPMsgTimestamp) :
    (uscalednsPtpmsgtimestamp ptpmsgts).toNat =
      (ptpmsgts.secondsLsb.toNat * 1000000000 + ptpmsgts.nanoseconds.toNat) *
        2 ^ 16 := by
  have hseconds := ptpmsgts.secondsLsb.toNat_lt
  have hnanoseconds := ptpmsgts.nanoseconds.toNat_lt
  unfold uscalednsPtpmsgtimestamp UScaledNs.toNat
  dsimp only
  rw [UInt64.toNat_add, UInt64.toNat_mul, UInt32.toNat_toUInt64,
    UInt32.toNat_toUInt64, UInt16.toNat_zero]
  change 0 * 2 ^ 80 + (_ * 1000000000 % _ + _) % _ * _ + 0 = _
  omega

theorem uscalednsCompare_eq (t1 t2 : UScaledNs) :
    uscalednsCompare t1 t2 =
      if t2.toNat < t1.toNat then 1
      else if t1.toNat < t2.toNat then -1
      else 0 := by
  have hsubns := t1.subns.toNat_lt
  have hsubns' := t2.subns.toNat_lt
  have hnsec := t1.nsec.toNat_lt
  have hnsec' := t2.nsec.toNat_lt
  unfold uscalednsCompare UScaledNs.toNat
  simp only [gt_iff_lt, UInt16.lt_iff_toNat_lt, UInt64.lt_iff_toNat_lt]
  grind

theorem uscalednsCompare_nonneg (t1 t2 : UScaledNs) :
    uscalednsCompare t1 t2 ≥ 0 <-> t2.toNat ≤ t1.toNat := by
  rw [uscalednsCompare_eq]
  split_ifs with hgt hlt <;> simp <;> omega

theorem uscalednsCompare_neg (t1 t2 : UScaledNs) :
    uscalednsCompare t1 t2 < 0 <-> t1.toNat < t2.toNat := by
  rw [← not_le, ← not_le]
  exact not_congr (uscalednsCompare_nonneg t1 t2)

/-- The lowest bit of a word goes to the top of the next word. -/
theorem toNat_halfSubns (subns : UInt16) (nsec : UInt64) :
    (if nsec &&& 0x1 ≠ 0 then (subns >>> 1) ||| 0x8000
      else subns >>> 1 : UInt16).toNat =
      subns.toNat / 2 + nsec.toNat % 2 * 2 ^ 15 := by
  have hbit : (nsec &&& 0x1).toNat = nsec.toNat % 2 := by
    rw [UInt64.toNat_and]
    exact Nat.and_two_pow_sub_one_eq_mod _ 1
  have hhalf : (subns >>> 1).toNat = subns.toNat / 2 := by
    rw [UInt16.toNat_shiftRight, Nat.shiftRight_eq_div_pow]
    rfl
  have hlt : subns.toNat / 2 < 2 ^ 15 := by
    have := subns.toNat_lt
    omega
  split_ifs with h
  · have hodd : nsec.toNat % 2 = 1 := by
      rw [ne_eq, ← UInt64.toNat_inj, hbit] at h
      change ¬ nsec.toNat % 2 = 0 at h
      omega
    rw [UInt16.toNat_or, hhalf, hodd, Nat.or_comm]
    change 2 ^ 15 ||| subns.toNat / 2 = _
    have hor := Nat.two_pow_add_eq_or_of_lt hlt 1
    rw [Nat.mul_one] at hor
    omega
  · have heven : nsec.toNat % 2 = 0 := by
      rw [not_not, ← UInt64.toNat_inj, hbit] at h
      exact h
    rw [hhalf, heven]
    rfl

theorem toNat_halfNsec (nsec : UInt64) (nsecMsb : UInt16) :
    (if nsecMsb &&& 0x1 ≠ 0 then (nsec >>> 1) ||| 0x8000000000000000
      else nsec >>> 1 : UInt64).toNat =
      nsec.toNat / 2 + nsecMsb.toNat % 2 * 2 ^ 63 := by
  have hbit : (nsecMsb &&& 0x1).toNat = nsecMsb.toNat % 2 := by
    rw [UInt16.toNat_and]
    exact Nat.and_two_pow_sub_one_eq_mod _ 1
  have hhalf : (nsec >>> 1).toNat = nsec.toNat / 2 := by
    rw [UInt64.toNat_shiftRight, Nat.shiftRight_eq_div_pow]
    rfl
  have hlt : nsec.toNat / 2 < 2 ^ 63 := by
    have := nsec.toNat_lt
    omega
  split_ifs with h
  · have hodd : nsecMsb.toNat % 2 = 1 := by
      rw [ne_eq, ← UInt16.toNat_inj, hbit] at h
      change ¬ nsecMsb.toNat % 2 = 0 at h
      omega
    rw [UInt64.toNat_or, hhalf, hodd, Nat.or_comm]
    change 2 ^ 63 ||| nsec.toNat / 2 = _
    have hor := Nat.two_pow_add_eq_or_of_lt hlt 1
    rw [Nat.mul_one] at hor
    omega
  · have heven : nsecMsb.toNat % 2 = 0 := by
      rw [not_not, ← UInt16.toNat_inj, hbit] at h
      exact h
    rw [hhalf, heven]
    rfl

/-- Halving drops the lowest bit of the fraction. -/
theorem toNat_uscalednsDivideBy2 (t : UScaledNs) :
    (uscalednsDivideBy2 t).toNat = t.toNat / 2 := by
  have hmsb : (t.nsecMsb >>> 1).toNat = t.nsecMsb.toNat / 2 := by
    rw [UInt16.toNat_shiftRight, Nat.shiftRight_eq_div_pow]
    rfl
  unfold uscalednsDivideBy2 UScaledNs.toNat
  dsimp only
  rw [toNat_halfSubns, toNat_halfNsec, hmsb]
  omega

/-!
## Failures of a division
-/

theorem normalizeDivisor_error {a : List UInt64} {fuel : Nat}
    {b : List UInt64} {k : Nat} {f : Fault}
    (h : normalizeDivisor a fuel b k = .error f) :
    f = .diverges ∨ f = .assertion := by
  induction fuel generalizing b k with
  | zero =>
      cases h
      exact Or.inl rfl
  | succ fuel ih =>
      rw [normalizeDivisor] at h
      split at h
      · dsimp only at h
        split at h
        · exact ih h
        · cases h
          exact Or.inr rfl
      · cases h

theorem quotientBits_error {b : List UInt64} {i : Nat} {a : List UInt64}
    {r : Rat} {f : Fault} (h : quotientBits b i a r = .error f) :
    f = .assertion := by
  induction i generalizing a r with
  | zero =>
      cases h
  | succ i ih =>
      rw [quotientBits] at h
      dsimp only at h
      split_ifs at h
      · cases h
        rfl
      · cases h
        rfl
      · exact ih h
      · exact ih h

theorem uscalednsDiv_error {t1 t2 : UScaledNs} {f : Fault}
    (h : uscalednsDiv t1 t2 = .error f) : f = .diverges ∨ f = .assertion := by
  rcases bind_eq_error.mp h with h | ⟨⟨b, k⟩, _, h⟩
  · exact normalizeDivisor_error h
  · dsimp only at h
    split at h
    · cases h
    · exact Or.inr (quotientBits_error h)

end TsnDrivers
end Ziggo

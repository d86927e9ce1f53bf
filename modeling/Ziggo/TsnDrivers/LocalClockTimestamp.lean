import Ziggo.TsnDrivers.UScaledNs

/-!
# Timestamps of the local clock

The arithmetic of `rtc.c` on the registers of the clock: seconds in two words,
nanoseconds, and a fraction of a nanosecond of 8 bits.
-/

namespace Ziggo
namespace TsnDrivers

structure LocalClockTimestamp where
  secondH : UInt32
  secondL : UInt32
  nanosecond : UInt32
  fracNano : UInt32
deriving DecidableEq, Repr, Inhabited

namespace LocalClockTimestamp

/-!
## Functions
-/

/-- `check_overflow` of `rtc.c` -/
def checkOverflow (a b carry : UInt32) : UInt32 :=
  let s := a + b + carry
  if carry = 0 then
    if s < a then 1 else 0
  else
    if s > a then 0 else 1

/-- The first stage of `rtc_add`, with its carry. -/
def addFracNano (a b : UInt32) : UInt32 × UInt32 :=
  let temp := a + b
  if temp ≥ 0x100 then (temp &&& 0xFF, 1) else (temp, 0)

/-- The second stage of `rtc_add`. -/
def addNanosecond (a b c : UInt32) : UInt32 × UInt32 :=
  let temp := a + b + c
  if temp ≥ 1000000000 then (temp - 1000000000, 1) else (temp, 0)

/-- The first two stages. -/
def addFractions (t1 t2 : LocalClockTimestamp) : UInt32 × UInt32 :=
  addNanosecond t1.nanosecond t2.nanosecond
    (addFracNano t1.fracNano t2.fracNano).2

def rtcAdd (t1 t2 : LocalClockTimestamp) : LocalClockTimestamp :=
  let nanosecond := addFractions t1 t2
  { fracNano := (addFracNano t1.fracNano t2.fracNano).1
    nanosecond := nanosecond.1
    secondL := t1.secondL + t2.secondL + nanosecond.2
    secondH :=
      (t1.secondH + t2.secondH +
        checkOverflow t1.secondL t2.secondL nanosecond.2) &&& 0xFFFF }

def rtcComp (t1 t2 : LocalClockTimestamp) : Int :=
  if t1.secondH > t2.secondH then 1
  else if t1.secondH < t2.secondH then -1
  else if t1.secondL > t2.secondL then 1
  else if t1.secondL < t2.secondL then -1
  else if t1.nanosecond > t2.nanosecond then 1
  else if t1.nanosecond < t2.nanosecond then -1
  else if t1.fracNano > t2.fracNano then 1
  else if t1.fracNano < t2.fracNano then -1
  else 0

/--
`rtc_to_uint64_ns`.  The seconds in the lower word are multiplied with 32 bits,
since neither factor is wider.
-/
def rtcToUint64Ns (t : LocalClockTimestamp) : UInt64 :=
  (t.secondH.toUInt64 <<< 32) * 1000000000 +
    (t.secondL * 1000000000).toUInt64 + t.nanosecond.toUInt64

/-!
## Instants
-/

/-- The time that a timestamp stands for, in units of `2 ^ -8` nanoseconds. -/
def instant (t : LocalClockTimestamp) : Nat :=
  ((t.secondH.toNat * 2 ^ 32 + t.secondL.toNat) * 1000000000 +
    t.nanosecond.toNat) * 2 ^ 8 + t.fracNano.toNat

structure Normalised (t : LocalClockTimestamp) : Prop where
  secondH : t.secondH.toNat < 2 ^ 16
  nanosecond : t.nanosecond.toNat < 1000000000
  fracNano : t.fracNano.toNat < 2 ^ 8

def carryOf (base sum : Nat) : Nat :=
  if base ≤ sum then 1 else 0

theorem addFracNano_spec {a b : UInt32} (ha : a.toNat < 2 ^ 8)
    (hb : b.toNat < 2 ^ 8) :
    (addFracNano a b).2.toNat = carryOf (2 ^ 8) (a.toNat + b.toNat) ∧
      (addFracNano a b).1.toNat < 2 ^ 8 ∧
      (addFracNano a b).1.toNat + 2 ^ 8 * (addFracNano a b).2.toNat =
        a.toNat + b.toNat := by
  have hsum : (a + b).toNat = a.toNat + b.toNat := by
    rw [UInt32.toNat_add]
    omega
  have hmask : ((a + b) &&& 0xFF).toNat = (a.toNat + b.toNat) % 2 ^ 8 := by
    rw [UInt32.toNat_and, hsum]
    exact Nat.and_two_pow_sub_one_eq_mod _ 8
  have hcarry : a + b ≥ 0x100 <-> 2 ^ 8 ≤ a.toNat + b.toNat := by
    rw [ge_iff_le, UInt32.le_iff_toNat_le, hsum]
    rfl
  have hone : (1 : UInt32).toNat = 1 := rfl
  have hzero : (0 : UInt32).toNat = 0 := rfl
  unfold addFracNano carryOf
  by_cases h : 2 ^ 8 ≤ a.toNat + b.toNat
  · rw [if_pos h]
    simp only [if_pos (hcarry.mpr h), hmask, hone, true_and]
    omega
  · rw [if_neg h]
    simp only [if_neg (mt hcarry.mp h), hsum, hzero, true_and]
    omega

theorem addNanosecond_spec {a b c : UInt32} (ha : a.toNat < 1000000000)
    (hb : b.toNat < 1000000000) (hc : c.toNat ≤ 1) :
    (addNanosecond a b c).2.toNat =
        carryOf 1000000000 (a.toNat + b.toNat + c.toNat) ∧
      (addNanosecond a b c).1.toNat < 1000000000 ∧
      (addNanosecond a b c).1.toNat +
          1000000000 * (addNanosecond a b c).2.toNat =
        a.toNat + b.toNat + c.toNat := by
  have hsum : (a + b + c).toNat = a.toNat + b.toNat + c.toNat := by
    rw [UInt32.toNat_add, UInt32.toNat_add]
    omega
  have hcarry : a + b + c ≥ 1000000000 <->
      1000000000 ≤ a.toNat + b.toNat + c.toNat := by
    rw [ge_iff_le, UInt32.le_iff_toNat_le, hsum]
    rfl
  have hone : (1 : UInt32).toNat = 1 := rfl
  have hzero : (0 : UInt32).toNat = 0 := rfl
  unfold addNanosecond carryOf
  by_cases h : 1000000000 ≤ a.toNat + b.toNat + c.toNat
  · have hrest : (a + b + c - 1000000000).toNat =
        a.toNat + b.toNat + c.toNat - 1000000000 := by
      rw [UInt32.toNat_sub_of_le _ _ (hcarry.mpr h), hsum]
      rfl
    rw [if_pos h]
    simp only [if_pos (hcarry.mpr h), hrest, hone, true_and]
    omega
  · rw [if_neg h]
    simp only [if_neg (mt hcarry.mp h), hsum, hzero, true_and]
    omega

theorem checkOverflow_spec {a b c : UInt32} (hc : c.toNat ≤ 1) :
    (checkOverflow a b c).toNat =
        carryOf (2 ^ 32) (a.toNat + b.toNat + c.toNat) ∧
      (a + b + c).toNat + 2 ^ 32 * (checkOverflow a b c).toNat =
        a.toNat + b.toNat + c.toNat := by
  have ha := a.toNat_lt
  have hb := b.toNat_lt
  have hsum : (a + b + c).toNat = (a.toNat + b.toNat + c.toNat) % 2 ^ 32 := by
    rw [UInt32.toNat_add, UInt32.toNat_add]
    omega
  have hone : (1 : UInt32).toNat = 1 := rfl
  have hzero : (0 : UInt32).toNat = 0 := rfl
  have hlt : a + b + c < a <->
      (a.toNat + b.toNat + c.toNat) % 2 ^ 32 < a.toNat := by
    rw [UInt32.lt_iff_toNat_lt, hsum]
  have hgt : a + b + c > a <->
      a.toNat < (a.toNat + b.toNat + c.toNat) % 2 ^ 32 := by
    rw [gt_iff_lt, UInt32.lt_iff_toNat_lt, hsum]
  have hnone : c = 0 <-> c.toNat = 0 := by
    rw [← UInt32.toNat_inj]
    rfl
  have hvalue : (checkOverflow a b c).toNat =
      carryOf (2 ^ 32) (a.toNat + b.toNat + c.toNat) := by
    unfold checkOverflow carryOf
    simp only [hnone, hlt, hgt]
    split_ifs <;> simp only [hone, hzero] <;> omega
  refine ⟨hvalue, ?_⟩
  rw [hvalue, hsum]
  unfold carryOf
  split_ifs <;> omega

/-!
## Sums
-/

def fracCarry (t1 t2 : LocalClockTimestamp) : Nat :=
  carryOf (2 ^ 8) (t1.fracNano.toNat + t2.fracNano.toNat)

def nanosecondCarry (t1 t2 : LocalClockTimestamp) : Nat :=
  carryOf 1000000000
    (t1.nanosecond.toNat + t2.nanosecond.toNat + fracCarry t1 t2)

def secondCarry (t1 t2 : LocalClockTimestamp) : Nat :=
  carryOf (2 ^ 32)
    (t1.secondL.toNat + t2.secondL.toNat + nanosecondCarry t1 t2)

theorem carryOf_le (base sum : Nat) : carryOf base sum ≤ 1 := by
  unfold carryOf
  split_ifs <;> omega

theorem toNat_secondH {a b c : UInt32} (ha : a.toNat < 2 ^ 16)
    (hb : b.toNat < 2 ^ 16) (hc : c.toNat ≤ 1) :
    ((a + b + c) &&& 0xFFFF).toNat =
      (a.toNat + b.toNat + c.toNat) % 2 ^ 16 := by
  have hsum : (a + b + c).toNat = a.toNat + b.toNat + c.toNat := by
    rw [UInt32.toNat_add, UInt32.toNat_add]
    omega
  rw [UInt32.toNat_and, hsum]
  exact Nat.and_two_pow_sub_one_eq_mod _ 16

theorem carryOf_eq_zero (base sum : Nat) :
    carryOf base sum = 0 <-> sum < base := by
  simp [carryOf]

section Sum

variable {t1 t2 : LocalClockTimestamp} (h1 : t1.Normalised)
  (h2 : t2.Normalised)

include h1 h2

theorem rtcAdd_fields :
    (rtcAdd t1 t2).fracNano.toNat + 2 ^ 8 * fracCarry t1 t2 =
        t1.fracNano.toNat + t2.fracNano.toNat ∧
      (rtcAdd t1 t2).nanosecond.toNat + 1000000000 * nanosecondCarry t1 t2 =
        t1.nanosecond.toNat + t2.nanosecond.toNat + fracCarry t1 t2 ∧
      (rtcAdd t1 t2).secondL.toNat + 2 ^ 32 * secondCarry t1 t2 =
        t1.secondL.toNat + t2.secondL.toNat + nanosecondCarry t1 t2 ∧
      (rtcAdd t1 t2).secondH.toNat =
        (t1.secondH.toNat + t2.secondH.toNat + secondCarry t1 t2) % 2 ^ 16 ∧
      (rtcAdd t1 t2).Normalised := by
  obtain ⟨hfc, hflt, hf⟩ := addFracNano_spec h1.fracNano h2.fracNano
  change _ = fracCarry t1 t2 at hfc
  have hfle : fracCarry t1 t2 ≤ 1 := carryOf_le _ _
  obtain ⟨hnc, hnlt, hn⟩ := addNanosecond_spec h1.nanosecond h2.nanosecond
    (c := (addFracNano t1.fracNano t2.fracNano).2) (by omega)
  rw [hfc] at hnc hn hf
  change (addFractions t1 t2).2.toNat = _ at hnc
  change (addFractions t1 t2).1.toNat + 1000000000 *
    (addFractions t1 t2).2.toNat = _ at hn
  change _ = nanosecondCarry t1 t2 at hnc
  have hnle : nanosecondCarry t1 t2 ≤ 1 := carryOf_le _ _
  rw [hnc] at hn
  obtain ⟨hsc, hs⟩ := checkOverflow_spec (a := t1.secondL) (b := t2.secondL)
    (c := (addFractions t1 t2).2) (by omega)
  rw [hnc] at hsc hs
  change _ = secondCarry t1 t2 at hsc
  have hsle : secondCarry t1 t2 ≤ 1 := carryOf_le _ _
  rw [hsc] at hs
  have hsecondH := toNat_secondH h1.secondH h2.secondH
    (c := checkOverflow t1.secondL t2.secondL (addFractions t1 t2).2)
    (by omega)
  rw [hsc] at hsecondH
  refine ⟨hf, hn, hs, hsecondH, ⟨?_, hnlt, hflt⟩⟩
  exact hsecondH.trans_lt (Nat.mod_lt _ (by decide))

/-- A sum that fits into 48 bits of seconds is exact. -/
theorem instant_rtcAdd
    (hfits : t1.instant + t2.instant < 2 ^ 48 * 1000000000 * 2 ^ 8) :
    (rtcAdd t1 t2).instant = t1.instant + t2.instant := by
  obtain ⟨hf, hn, hs, hh, hnormalised⟩ := rtcAdd_fields h1 h2
  have hflt := hnormalised.fracNano
  have hnlt := hnormalised.nanosecond
  unfold instant at *
  omega

theorem rtcComp_eq :
    rtcComp t1 t2 =
      if t2.instant < t1.instant then 1
      else if t1.instant < t2.instant then -1
      else 0 := by
  have hf1 := h1.fracNano
  have hf2 := h2.fracNano
  have hn1 := h1.nanosecond
  have hn2 := h2.nanosecond
  have hl1 := t1.secondL.toNat_lt
  have hl2 := t2.secondL.toNat_lt
  unfold rtcComp instant
  simp only [gt_iff_lt, UInt32.lt_iff_toNat_lt]
  split_ifs <;> first | rfl | omega

/-- What 32 bits leave of the nanoseconds in the lower word of the seconds. -/
def secondLNs (t : LocalClockTimestamp) : Nat :=
  t.secondL.toNat * 1000000000 % 2 ^ 32

omit h1 h2 in
theorem toNat_rtcToUint64Ns (t : LocalClockTimestamp) :
    (rtcToUint64Ns t).toNat =
      (t.secondH.toNat * 2 ^ 32 * 1000000000 + secondLNs t +
        t.nanosecond.toNat) % 2 ^ 64 := by
  have hh := t.secondH.toNat_lt
  have hshift : (t.secondH.toUInt64 <<< 32).toNat =
      t.secondH.toNat * 2 ^ 32 := by
    rw [UInt64.toNat_shiftLeft, Nat.shiftLeft_eq, UInt32.toNat_toUInt64]
    change t.secondH.toNat * 2 ^ 32 % 2 ^ 64 = _
    omega
  have hlow : (t.secondL * 1000000000).toUInt64.toNat = secondLNs t := by
    rw [UInt32.toNat_toUInt64, UInt32.toNat_mul]
    rfl
  unfold rtcToUint64Ns
  rw [UInt64.toNat_add, UInt64.toNat_add, UInt64.toNat_mul, hshift, hlow,
    UInt32.toNat_toUInt64]
  change ((t.secondH.toNat * 2 ^ 32 * 1000000000 % 2 ^ 64 + _) % 2 ^ 64 + _) %
    2 ^ 64 = _
  omega

theorem secondLNs_rtcAdd :
    secondLNs (rtcAdd t1 t2) =
      (secondLNs t1 + secondLNs t2 + 1000000000 * nanosecondCarry t1 t2) %
        2 ^ 32 := by
  obtain ⟨_, _, hs, _⟩ := rtcAdd_fields h1 h2
  unfold secondLNs
  omega

end Sum

/-- `rtc_comp` orders two timestamps as the instants they stand for. -/
structure OrderedAsInstants (t1 t2 : LocalClockTimestamp) : Prop where
  less : rtcComp t1 t2 = -1 <-> t1.instant < t2.instant
  equal : rtcComp t1 t2 = 0 <-> t1.instant = t2.instant
  greater : rtcComp t1 t2 = 1 <-> t2.instant < t1.instant

theorem orderedAsInstants {t1 t2 : LocalClockTimestamp} (h1 : t1.Normalised)
    (h2 : t2.Normalised) : OrderedAsInstants t1 t2 := by
  have hvalue := rtcComp_eq h1 h2
  constructor <;> rw [hvalue] <;> split_ifs <;> simp <;> omega

/-- The nanoseconds of the lower seconds do not leave 32 bits in the sum. -/
structure LowSecondsFit (t1 t2 : LocalClockTimestamp) : Prop where
  seconds :
    t1.secondL.toNat + t2.secondL.toNat + nanosecondCarry t1 t2 < 2 ^ 32
  nanoseconds :
    secondLNs t1 + secondLNs t2 + 1000000000 * nanosecondCarry t1 t2 < 2 ^ 32

/-- A carry between the seconds is worth far more than 32 bits can lose. -/
theorem carries_kept_iff (high ns : Nat) {low carry : Nat} (hlow : low < 2 ^ 34)
    (hcarry : carry ≤ 1) :
    (high + 2 ^ 32 * 1000000000 * carry + low % 2 ^ 32 + ns) % 2 ^ 64 =
        (high + ns + low) % 2 ^ 64 <->
      carry = 0 ∧ low < 2 ^ 32 := by
  rcases Nat.le_one_iff_eq_zero_or_eq_one.mp hcarry with rfl | rfl
  · omega
  · refine iff_of_false (fun h => ?_) fun h => absurd h.left (by decide)
    omega

/-- The conversion of a sum differs by what 32 bits have lost. -/
theorem rtcToUint64Ns_rtcAdd_iff {t1 t2 : LocalClockTimestamp}
    (h1 : t1.Normalised) (h2 : t2.Normalised)
    (hfits : t1.instant + t2.instant < 2 ^ 48 * 1000000000 * 2 ^ 8) :
    rtcToUint64Ns (rtcAdd t1 t2) =
        rtcToUint64Ns t1 + rtcToUint64Ns t2 +
          UInt64.ofNat (fracCarry t1 t2) <->
      LowSecondsFit t1 t2 := by
  obtain ⟨hf, hn, hs, hh, hnormalised⟩ := rtcAdd_fields h1 h2
  have hhigh : (rtcAdd t1 t2).secondH.toNat =
      t1.secondH.toNat + t2.secondH.toNat + secondCarry t1 t2 := by
    unfold instant at hfits
    omega
  have hlow := secondLNs_rtcAdd h1 h2
  have hcarry : secondCarry t1 t2 = 0 <->
      t1.secondL.toNat + t2.secondL.toNat + nanosecondCarry t1 t2 < 2 ^ 32 := by
    exact carryOf_eq_zero _ _
  have hcarryle : secondCarry t1 t2 ≤ 1 := carryOf_le _ _
  have hfit : LowSecondsFit t1 t2 <-> secondCarry t1 t2 = 0 ∧
      secondLNs t1 + secondLNs t2 + 1000000000 * nanosecondCarry t1 t2 <
        2 ^ 32 :=
    ⟨fun h => ⟨hcarry.mpr h.seconds, h.nanoseconds⟩,
      fun h => ⟨hcarry.mp h.left, h.right⟩⟩
  have hlt1 : secondLNs t1 < 2 ^ 32 := Nat.mod_lt _ (by decide)
  have hlt2 : secondLNs t2 < 2 ^ 32 := Nat.mod_lt _ (by decide)
  have hle : nanosecondCarry t1 t2 ≤ 1 := carryOf_le _ _
  have hfrac : (UInt64.ofNat (fracCarry t1 t2)).toNat = fracCarry t1 t2 := by
    have := carryOf_le (2 ^ 8) (t1.fracNano.toNat + t2.fracNano.toNat)
    change fracCarry t1 t2 ≤ 1 at this
    rw [UInt64.toNat_ofNat']
    omega
  rw [hfit, ← UInt64.toNat_inj, UInt64.toNat_add, UInt64.toNat_add,
    toNat_rtcToUint64Ns, toNat_rtcToUint64Ns, toNat_rtcToUint64Ns, hfrac, hlow,
    hhigh]
  clear hfit hcarry hlow hhigh hfits hs hh hf hnormalised hfrac h1 h2
  generalize secondLNs t1 = m1 at *
  generalize secondLNs t2 = m2 at *
  generalize nanosecondCarry t1 t2 = cn at *
  generalize secondCarry t1 t2 = cs at *
  generalize fracCarry t1 t2 = cf at *
  generalize (rtcAdd t1 t2).nanosecond.toNat = ns at *
  generalize t1.nanosecond.toNat = n1 at *
  generalize t2.nanosecond.toNat = n2 at *
  generalize t1.secondH.toNat = s1 at *
  generalize t2.secondH.toNat = s2 at *
  have hright : (((s1 * 2 ^ 32 * 1000000000 + m1 + n1) % 2 ^ 64 +
        (s2 * 2 ^ 32 * 1000000000 + m2 + n2) % 2 ^ 64) % 2 ^ 64 + cf) % 2 ^ 64 =
      ((s1 + s2) * 2 ^ 32 * 1000000000 + ns + (m1 + m2 + 1000000000 * cn)) %
        2 ^ 64 := by
    omega
  have hleft : (s1 + s2 + cs) * 2 ^ 32 * 1000000000 =
      (s1 + s2) * 2 ^ 32 * 1000000000 + 2 ^ 32 * 1000000000 * cs := by
    ring
  rw [hright, hleft]
  exact carries_kept_iff _ _ (by omega) hcarryle

/--
A sum is always normalised, exact and in order, but it is converted to the sum
of the conversions only if the lower seconds fit into 32 bits as nanoseconds.
-/
theorem rtcAdd_homomorphic_iff {t1 t2 : LocalClockTimestamp}
    (h1 : t1.Normalised) (h2 : t2.Normalised)
    (hfits : t1.instant + t2.instant < 2 ^ 48 * 1000000000 * 2 ^ 8) :
    ((rtcAdd t1 t2).Normalised ∧
        (rtcAdd t1 t2).instant = t1.instant + t2.instant ∧
        OrderedAsInstants t1 t2 ∧ rtcComp t1 (rtcAdd t1 t2) ≤ 0 ∧
        rtcToUint64Ns (rtcAdd t1 t2) =
          rtcToUint64Ns t1 + rtcToUint64Ns t2 +
            UInt64.ofNat (fracCarry t1 t2)) <->
      LowSecondsFit t1 t2 := by
  obtain ⟨_, _, _, _, hnormalised⟩ := rtcAdd_fields h1 h2
  have hexact := instant_rtcAdd h1 h2 hfits
  have hle : rtcComp t1 (rtcAdd t1 t2) ≤ 0 := by
    rw [rtcComp_eq h1 hnormalised, hexact, if_neg (by omega)]
    split_ifs <;> decide
  rw [← rtcToUint64Ns_rtcAdd_iff h1 h2 hfits]
  constructor
  · intro h
    exact h.right.right.right.right
  · intro h
    exact ⟨hnormalised, hexact, orderedAsInstants h1 h2, hle, h⟩

def ofSeconds (n : UInt32) : LocalClockTimestamp where
  secondH := 0
  secondL := n
  nanosecond := 0
  fracNano := 0

theorem rtcAdd_homomorphic_at_one :
    (ofSeconds 1).Normalised ∧
      (((rtcAdd (ofSeconds 1) (ofSeconds 1)).Normalised ∧
          (rtcAdd (ofSeconds 1) (ofSeconds 1)).instant =
            (ofSeconds 1).instant + (ofSeconds 1).instant ∧
          OrderedAsInstants (ofSeconds 1) (ofSeconds 1) ∧
          rtcComp (ofSeconds 1) (rtcAdd (ofSeconds 1) (ofSeconds 1)) ≤ 0 ∧
          rtcToUint64Ns (rtcAdd (ofSeconds 1) (ofSeconds 1)) =
            rtcToUint64Ns (ofSeconds 1) + rtcToUint64Ns (ofSeconds 1) +
              UInt64.ofNat (fracCarry (ofSeconds 1) (ofSeconds 1))) <->
        LowSecondsFit (ofSeconds 1) (ofSeconds 1)) := by
  have hone : (ofSeconds 1).Normalised :=
    ⟨by decide, by decide, by decide⟩
  exact ⟨hone, rtcAdd_homomorphic_iff hone hone (by decide)⟩

/-- Two and three seconds make 705032704 nanoseconds. -/
theorem rtcToUint64Ns_five_seconds :
    ¬ forall t1 t2 : LocalClockTimestamp, t1.Normalised -> t2.Normalised ->
      t1.instant + t2.instant < 2 ^ 48 * 1000000000 * 2 ^ 8 ->
        rtcToUint64Ns (rtcAdd t1 t2) =
          rtcToUint64Ns t1 + rtcToUint64Ns t2 +
            UInt64.ofNat (fracCarry t1 t2) := by
  intro h
  have hvalue := h (ofSeconds 2) (ofSeconds 3)
    ⟨by decide, by decide, by decide⟩ ⟨by decide, by decide, by decide⟩
    (by decide)
  revert hvalue
  decide

end LocalClockTimestamp

end TsnDrivers
end Ziggo

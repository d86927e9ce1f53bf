import Mathlib.Algebra.Order.Field.Basic
import Mathlib.Data.Rat.Floor
import Mathlib.Tactic.Linarith
import Mathlib.Tactic.Ring

/-!
# Binary fractions

A fraction is turned into bits by doubling it, and a bit is set if the result is
greater than one.  The comparison is strict, so a fraction that ends after some
bit leaves a rest of one behind ones; rounding makes up for it.
-/

namespace Ziggo
namespace Foundation

namespace BinaryFraction

/--
The next `i` bits of the fraction `t` are added to `n`.  The rest is measured in
units of the last bit.
-/
def expand : Nat -> Rat -> Nat -> Nat × Rat
  | 0, t, n => (n, t)
  | i + 1, t, n =>
      if t * 2 > 1 then
        expand i (t * 2 - 1) (n + 2 ^ i)
      else
        expand i (t * 2) n

def rounded (p : Nat × Rat) : Nat :=
  if p.2 * 2 > 1 then p.1 + 1 else p.1

theorem rest_mem (i : Nat) {t : Rat} (hpos : 0 ≤ t) (hone : t ≤ 1) (n : Nat) :
    0 ≤ (expand i t n).2 ∧ (expand i t n).2 ≤ 1 := by
  induction i generalizing t n with
  | zero => exact ⟨hpos, hone⟩
  | succ i ih =>
      unfold expand
      split
      case isTrue hset => exact ih (by linarith) (by linarith) _
      case isFalse hclear => exact ih (by linarith) (by linarith) _

/-- Nothing is lost: the bits and the rest make up the fraction. -/
theorem expand_value (i : Nat) (t : Rat) (n : Nat) :
    ((expand i t n).1 : Rat) + (expand i t n).2 = n + t * 2 ^ i := by
  induction i generalizing t n with
  | zero =>
      unfold expand
      rw [pow_zero, mul_one]
  | succ i ih =>
      unfold expand
      split
      case isTrue hset =>
        rw [ih, pow_succ]
        push_cast
        ring
      case isFalse hclear =>
        rw [ih, pow_succ]
        ring

theorem rounded_error {p : Nat × Rat} (hpos : 0 ≤ p.2) (hone : p.2 ≤ 1) :
    |(rounded p : Rat) - (p.1 + p.2)| ≤ 1 / 2 := by
  unfold rounded
  rw [abs_le]
  split
  case isTrue hup =>
    push_cast
    constructor <;> linarith
  case isFalse hdown => constructor <;> linarith

/-- The rounded bits are off by half a unit of the last one at most. -/
theorem rounded_expand (i : Nat) {t : Rat} (hpos : 0 ≤ t) (hone : t ≤ 1) :
    |(rounded (expand i t 0) : Rat) - t * 2 ^ i| ≤ 1 / 2 := by
  obtain ⟨hrest, hrest'⟩ := rest_mem i hpos hone 0
  have hvalue := expand_value i t 0
  have herror := rounded_error hrest hrest'
  rw [hvalue, Nat.cast_zero, zero_add] at herror
  exact herror

theorem nearest_of_error {m : Int} {x : Rat} (h : |(m : Rat) - x| ≤ 1 / 2)
    (k : Int) : |(m : Rat) - x| ≤ |(k : Rat) - x| := by
  by_cases hk : k = m
  · rw [hk]
  · have hapart : (1 : Rat) ≤ |(k : Rat) - m| := by
      have hint : 1 ≤ |k - m| := Int.one_le_abs (sub_ne_zero.mpr hk)
      exact_mod_cast hint
    have htriangle : |(k : Rat) - m| ≤ |(k : Rat) - x| + |(m : Rat) - x| := by
      have hsplit := abs_sub_le (k : Rat) x m
      rw [abs_sub_comm x] at hsplit
      exact hsplit
    linarith

/-- A number in units of `2 ^ -w`, with its fraction rounded. -/
def fixedPoint (w : Nat) (r : Rat) : Nat :=
  r.floor.toNat * 2 ^ w + rounded (expand w (r - r.floor) 0)

theorem fixedPoint_units (w : Nat) {r : Rat} (hr : 0 ≤ r) :
    |(fixedPoint w r : Rat) - r * 2 ^ w| ≤ 1 / 2 := by
  have hfloor : ((r.floor.toNat : Nat) : Rat) = r.floor := by
    have hnonneg : 0 ≤ r.floor := Int.floor_nonneg.mpr hr
    have htoNat := Int.toNat_of_nonneg hnonneg
    exact_mod_cast htoNat
  have hlow : (r.floor : Rat) ≤ r := Int.floor_le r
  have hhigh : r < r.floor + 1 := Int.lt_floor_add_one r
  have herror := rounded_expand w (sub_nonneg.mpr hlow) (by linarith)
  have hsame : (fixedPoint w r : Rat) - r * 2 ^ w =
      (rounded (expand w (r - r.floor) 0) : Rat) - (r - r.floor) * 2 ^ w := by
    unfold fixedPoint
    push_cast
    rw [hfloor]
    ring
  rw [hsame]
  exact herror

theorem error_in_units (w : Nat) (m r : Rat) :
    |m / 2 ^ w - r| = |m - r * 2 ^ w| / 2 ^ w := by
  have hpow : (0 : Rat) < 2 ^ w := by positivity
  rw [← abs_of_pos hpow, ← abs_div, abs_of_pos hpow, sub_div,
    mul_div_cancel_right₀ r hpow.ne']

theorem fixedPoint_error (w : Nat) {r : Rat} (hr : 0 ≤ r) :
    |(fixedPoint w r : Rat) / 2 ^ w - r| ≤ 1 / 2 ^ (w + 1) := by
  have hpow : (0 : Rat) < 2 ^ w := by positivity
  have hhalf : (1 : Rat) / 2 ^ (w + 1) = 1 / 2 / 2 ^ w := by
    rw [pow_succ, div_div, mul_comm]
  rw [error_in_units, hhalf]
  exact div_le_div_of_nonneg_right (fixedPoint_units w hr) hpow.le

theorem fixedPoint_nearest (w : Nat) {r : Rat} (hr : 0 ≤ r) (k : Int) :
    |(fixedPoint w r : Rat) / 2 ^ w - r| ≤ |(k : Rat) / 2 ^ w - r| := by
  have hpow : (0 : Rat) < 2 ^ w := by positivity
  rw [error_in_units, error_in_units]
  exact div_le_div_of_nonneg_right
    (nearest_of_error (m := fixedPoint w r) (fixedPoint_units w hr) k) hpow.le

/-!
## Bits of a word
-/

/-- A bit below all bits of a number is added to it. -/
theorem or_two_pow {n i : Nat} (h : n % 2 ^ (i + 1) = 0) :
    n ||| 2 ^ i = n + 2 ^ i := by
  obtain ⟨q, rfl⟩ := Nat.dvd_of_mod_eq_zero h
  have hlt : 2 ^ i < 2 ^ (i + 1) := Nat.pow_lt_pow_right (by omega) (by omega)
  exact (Nat.two_pow_add_eq_or_of_lt hlt q).symm

theorem mod_two_pow_of_succ {n i : Nat} (h : n % 2 ^ (i + 1) = 0) :
    n % 2 ^ i = 0 := by
  rw [pow_succ] at h
  exact Nat.mod_eq_zero_of_dvd
    ((Dvd.intro _ rfl).trans (Nat.dvd_of_mod_eq_zero h))

end BinaryFraction

end Foundation
end Ziggo

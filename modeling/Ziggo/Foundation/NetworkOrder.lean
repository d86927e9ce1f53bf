import Mathlib.Data.Nat.Bitwise
import Mathlib.Tactic.Ring
import Ziggo.Foundation.Layout

/-!
# Numbers in network order

A program for a little-endian machine that sends the most significant octet of
a number first reverses the octets of its memory.  The receiver shifts each
octet to its place and combines them with a bitwise or.
-/

namespace Ziggo
namespace Foundation

/-- The octets are shifted to their places and combined with `x`. -/
def combine : List UInt8 -> UInt64 -> UInt64
  | [], x => x
  | octet :: octets, x =>
      combine octets (x ||| octet.toUInt64 <<< (8 * octets.length).toUInt64)

/-- The number that octets represent, the most significant one first. -/
def networkNumber : List UInt8 -> Nat
  | [] => 0
  | octet :: octets => octet.toNat * 256 ^ octets.length + networkNumber octets

theorem networkNumber_concat (octets : List UInt8) (octet : UInt8) :
    networkNumber (octets ++ [octet]) =
      networkNumber octets * 256 + octet.toNat := by
  induction octets with
  | nil => simp [networkNumber]
  | cons first octets ih =>
      rw [List.cons_append, networkNumber, networkNumber, ih,
        List.length_append, List.length_singleton, pow_succ]
      ring

theorem networkNumber_reverse (count value : Nat) :
    networkNumber (octets count value).reverse = value % 256 ^ count := by
  induction count generalizing value with
  | zero =>
      rw [pow_zero, Nat.mod_one]
      rfl
  | succ count ih =>
      have hlow : (UInt8.ofNat value).toNat = value % 256 := rfl
      rw [octets, List.reverse_cons, networkNumber_concat, ih, hlow, pow_succ',
        Nat.mod_mul]
      ring

theorem toNat_shifted (octet : UInt8) {count : Nat} (h : count < 8) :
    (octet.toUInt64 <<< (8 * count).toUInt64).toNat =
      octet.toNat * 256 ^ count := by
  have hoctet : octet.toNat < 256 := UInt8.toNat_lt octet
  have hcount : (8 * count).toUInt64.toNat % 64 = 8 * count := by
    change 8 * count % 2 ^ 64 % 64 = 8 * count
    omega
  have hpow : 256 ^ count ≤ 256 ^ 7 := Nat.pow_le_pow_right (by decide) (by omega)
  have hlt : octet.toNat * 256 ^ count ≤ 255 * 256 ^ 7 :=
    Nat.mul_le_mul (by omega) hpow
  have hbase : 2 ^ (8 * count) = 256 ^ count := pow_mul 2 8 count
  rw [UInt64.toNat_shiftLeft, UInt8.toNat_toUInt64, hcount, Nat.shiftLeft_eq,
    hbase]
  exact Nat.mod_eq_of_lt (by omega)

/-- An octet is combined with a number whose bits are all above its own. -/
theorem toNat_or_shifted {x : UInt64} (octet : UInt8) {count : Nat}
    (h : count < 8) (hx : 256 ^ (count + 1) ∣ x.toNat) :
    (x ||| octet.toUInt64 <<< (8 * count).toUInt64).toNat =
      x.toNat + octet.toNat * 256 ^ count := by
  have hoctet : octet.toNat < 256 := UInt8.toNat_lt octet
  have hlt : octet.toNat * 256 ^ count < 2 ^ (8 * (count + 1)) := by
    rw [pow_mul, pow_succ']
    exact (Nat.mul_lt_mul_right (Nat.pow_pos (by decide))).mpr hoctet
  obtain ⟨high, hhigh⟩ := hx
  have hpow : 256 ^ (count + 1) = 2 ^ (8 * (count + 1)) := by
    rw [pow_mul]
    rfl
  rw [UInt64.toNat_or, toNat_shifted octet h, hhigh, hpow]
  exact (Nat.two_pow_add_eq_or_of_lt hlt high).symm

theorem toNat_combine {octets : List UInt8} {x : UInt64}
    (h : octets.length ≤ 8) (hx : 256 ^ octets.length ∣ x.toNat) :
    (combine octets x).toNat = x.toNat + networkNumber octets := by
  induction octets generalizing x with
  | nil => rfl
  | cons octet octets ih =>
      have hstep := toNat_or_shifted octet h hx
      have hdvd : 256 ^ octets.length ∣
          (x ||| octet.toUInt64 <<< (8 * octets.length).toUInt64).toNat := by
        rw [hstep]
        refine Nat.dvd_add ?_ (Dvd.intro_left octet.toNat rfl)
        exact (pow_dvd_pow 256 (Nat.le_succ octets.length)).trans hx
      rw [combine, ih (Nat.le_of_succ_le h) hdvd, hstep, networkNumber,
        Nat.add_assoc]

/-- A number sent in network order is received as it was. -/
theorem toNat_combine_reverse {count value : Nat} (hcount : count ≤ 8)
    (hvalue : value < 256 ^ count) :
    (combine (octets count value).reverse 0).toNat = value := by
  rw [toNat_combine, networkNumber_reverse, Nat.mod_eq_of_lt hvalue]
  · exact Nat.zero_add value
  · rw [List.length_reverse, length_octets]
    exact hcount
  · exact Nat.dvd_zero _

end Foundation
end Ziggo

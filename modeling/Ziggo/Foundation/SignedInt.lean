import Mathlib.Data.Int.Order.Basic
import Ziggo.Foundation.Machine

/-!
# The type `int`

An operation of C or C++ on `int` has no defined result outside the range of
the type.  The values are integers, and each operation checks its result.
-/

namespace Ziggo
namespace Foundation

def IsInt (x : Int) : Prop :=
  -2147483648 ≤ x ∧ x ≤ 2147483647

instance (x : Int) : Decidable (IsInt x) :=
  inferInstanceAs (Decidable (_ ∧ _))

def checkInt (x : Int) : Except Fault Int :=
  if IsInt x then .ok x else .error .overflow

theorem checkInt_eq_ok {x y : Int} : checkInt x = .ok y <-> IsInt x ∧ x = y := by
  unfold checkInt
  by_cases h : IsInt x
  · simp [h]
  · simp [h]

theorem checkInt_of_isInt {x : Int} (h : IsInt x) : checkInt x = .ok x :=
  if_pos h

theorem isInt_toInt (x : Int32) : IsInt x.toInt := by
  have hlow := x.le_toInt
  have hhigh := x.toInt_lt
  unfold IsInt
  omega

end Foundation
end Ziggo

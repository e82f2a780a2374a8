/-
  Powers of natural numbers.

  * `power` is the power, with the equations `power_zero`, `power_succ` and `power_add`.
-/

namespace Clearance

/-- A power of a natural number. -/
def power (base exponent : Nat) : Nat := Nat.pow base exponent

theorem power_zero (base : Nat) : power base 0 = 1 := rfl

theorem power_succ (base exponent : Nat) :
    power base (exponent + 1) = power base exponent * base := rfl

theorem power_add (base m n : Nat) : power base (m + n) = power base m * power base n :=
  Nat.pow_add base m n

theorem power_pos {base : Nat} (h : 0 < base) (n : Nat) : 0 < power base n :=
  Nat.pow_pos h

end Clearance

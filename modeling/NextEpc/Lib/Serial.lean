import Mathlib

/-!
# Serial numbers

Numbers modulo `n` in the order in which a counter passes through them: `b` is after `a` if
counting up from `a` reaches `b` within less than half of the circle.
-/

namespace Serial
variable {n a b : Nat}

/-- How far one counts from `a` to reach `b`. -/
def ahead (n a b : Nat) : Nat := (b + n - a % n) % n

/-- `b` is `a` or after it. -/
def Le (n a b : Nat) : Prop := 2 * ahead n a b < n

/-- `b` is after `a`. -/
def Lt (n a b : Nat) : Prop := 0 < ahead n a b ∧ 2 * ahead n a b < n

instance : Decidable (Le n a b) := inferInstanceAs (Decidable (_ < _))

instance : Decidable (Lt n a b) := inferInstanceAs (Decidable (_ ∧ _))

/-- Counting up without passing `n`. -/
theorem ahead_of_le (hab : a ≤ b) (hb : b < n) : ahead n a b = b - a := by
  have hn : b + n - a = b - a + n := by omega
  rw [ahead, Nat.mod_eq_of_lt (hab.trans_lt hb), hn, Nat.add_mod_right]
  apply Nat.mod_eq_of_lt
  omega

theorem ahead_self (ha : 0 < n) : ahead n a a = 0 := by
  have hmod := Nat.mod_lt a ha
  have hdiv := Nat.div_add_mod a n
  have heq : a + n - a % n = n * (a / n + 1) := by
    rw [Nat.mul_add, Nat.mul_one]
    omega
  rw [ahead, heq, Nat.mul_mod_right]

theorem Le.refl (ha : 0 < n) : Le n a a := by
  rw [Le, ahead_self ha]
  exact ha

/-- In the lower half the serial order is that of the numbers. -/
theorem le_of_le (hab : a ≤ b) (hb : 2 * b < n) : Le n a b := by
  rw [Le, ahead_of_le hab (by omega)]
  omega

theorem lt_of_lt (hab : a < b) (hb : 2 * b < n) : Lt n a b := by
  rw [Lt, ahead_of_le hab.le (by omega)]
  omega

end Serial

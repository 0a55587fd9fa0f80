import Mathlib

/-!
# Counters rebuilt from their low digits

A sender counts its messages and sends only the count modulo `n`. The receiver takes the
least count that is not below the last one it knows and has the received remainder. This
is the count of the sender as long as fewer than `n` messages were lost.
-/

namespace SeqNum
variable {n s c q : Nat}

/-- The least number from `s` on whose remainder modulo `n` is `q`. -/
def extend (n s q : Nat) : Nat := (if q < s % n then s / n + 1 else s / n) * n + q

theorem extend_mod (hq : q < n) : extend n s q % n = q := by
  rw [extend, Nat.mul_add_mod_self_right, Nat.mod_eq_of_lt hq]

theorem le_extend (hn : 0 < n) (s q : Nat) : s ≤ extend n s q := by
  have hs := Nat.div_add_mod s n
  have hmod := Nat.mod_lt s hn
  unfold extend
  by_cases hlt : q < s % n
  · rw [if_pos hlt, Nat.add_mul, Nat.one_mul, Nat.mul_comm]
    omega
  · rw [if_neg hlt, Nat.mul_comm]
    omega

theorem extend_lt (hq : q < n) : extend n s q < s + n := by
  have hs := Nat.div_add_mod s n
  unfold extend
  by_cases hlt : q < s % n
  · rw [if_pos hlt, Nat.add_mul, Nat.one_mul, Nat.mul_comm]
    omega
  · rw [if_neg hlt, Nat.mul_comm]
    omega

/-- The count is recovered when it is one of the next `n`. -/
theorem extend_eq (hs : s ≤ c) (hc : c < s + n) : extend n s (c % n) = c := by
  have hn : 0 < n := by omega
  have hmod := extend_mod (s := s) (Nat.mod_lt c hn)
  have hle := le_extend hn s (c % n)
  have hlt := extend_lt (s := s) (Nat.mod_lt c hn)
  have hdiv := Nat.div_add_mod (extend n s (c % n)) n
  have hdiv' := Nat.div_add_mod c n
  rw [hmod] at hdiv
  -- two numbers with the same remainder in a window of `n` have the same quotient
  have hq : extend n s (c % n) / n = c / n := by
    by_contra hne
    rcases Nat.lt_or_gt_of_ne hne with hlt' | hgt'
    · have hmul := Nat.mul_le_mul_left n (Nat.succ_le_of_lt hlt')
      rw [Nat.mul_succ] at hmul
      omega
    · have hmul := Nat.mul_le_mul_left n (Nat.succ_le_of_lt hgt')
      rw [Nat.mul_succ] at hmul
      omega
  rw [← hdiv, hq]
  exact hdiv'

theorem extend_eq_self_iff (hq : q < n) : extend n s q = s ↔ q = s % n := by
  constructor
  · intro h
    rw [← h, extend_mod hq]
  · rintro rfl
    exact extend_eq le_rfl (by omega)

end SeqNum

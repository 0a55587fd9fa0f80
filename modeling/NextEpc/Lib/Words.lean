import NextEpc.Lib.Octets

/-!
# Numbers in words

A number of several 32-bit words, least significant word first, each word in network byte
order while the machine computes in the other order. Words are added without a carry from one
word to the next, and a carry inside a word goes from an octet to the wrong neighbour; where
the two numbers have no bits in the same place, there is none and the sum is right.
-/

namespace Words
open Octets

variable {a b : UInt32} {as bs : List UInt32} {k m : Nat}

/-- The number that words stand for, least significant first. -/
def value : List UInt32 → Nat
  | [] => 0
  | w :: ws => (swap32 w).toNat + 2 ^ 32 * value ws

@[simp] theorem value_nil : value [] = 0 := rfl

theorem value_cons : value (a :: as) = (swap32 a).toNat + 2 ^ 32 * value as := rfl

theorem swap32_swap32 (n : UInt32) : swap32 (swap32 n) = n := by
  obtain ⟨x, y, z, w, hx, hy, hz, hw, hxyz⟩ := exists_octets n
  have hswap := toNat_swap32 hx hy hz hw hxyz
  apply UInt32.toNat_inj.mp
  rw [toNat_swap32 hw hz hy hx hswap, hxyz]

theorem swap32_inj (h : swap32 a = swap32 b) : a = b := by
  rw [← swap32_swap32 a, h, swap32_swap32]

theorem value_inj (hlen : as.length = bs.length) (h : value as = value bs) : as = bs := by
  induction as generalizing bs with
  | nil => exact (List.length_eq_zero_iff.mp hlen.symm).symm
  | cons a as ih =>
    cases bs with
    | nil => exact absurd hlen (by simp)
    | cons b bs =>
      rw [value_cons, value_cons] at h
      have ha := (swap32 a).toNat_lt
      have hb := (swap32 b).toNat_lt
      have hhead : swap32 a = swap32 b := UInt32.toNat_inj.mp (by omega)
      have htail : as = bs := ih (by simpa using hlen) (by omega)
      rw [swap32_inj hhead, htail]

theorem value_lt (as : List UInt32) : value as < 2 ^ (32 * as.length) := by
  induction as with
  | nil => decide
  | cons a as ih =>
    have ha := (swap32 a).toNat_lt
    have hpow : 2 ^ (32 * (as.length + 1)) = 2 ^ 32 * 2 ^ (32 * as.length) := by
      rw [Nat.mul_add, Nat.mul_one, Nat.pow_add, Nat.mul_comm]
    rw [value_cons, List.length_cons, hpow]
    omega

/-! ## Sums -/

/-- Octets of two values that have no bits in the same place. -/
theorem octets_add_lt {x y z w x' y' z' w' : Nat} (hm : m ≤ 32)
    (hx : x < 2 ^ 8) (hy : y < 2 ^ 8) (hz : z < 2 ^ 8) (hw : w < 2 ^ 8)
    (hx' : x' < 2 ^ 8) (hy' : y' < 2 ^ 8) (hz' : z' < 2 ^ 8) (hw' : w' < 2 ^ 8)
    (ha : (x * 2 ^ 24 + y * 2 ^ 16 + z * 2 ^ 8 + w) % 2 ^ m = 0)
    (hb : x' * 2 ^ 24 + y' * 2 ^ 16 + z' * 2 ^ 8 + w' < 2 ^ m) :
    x + x' < 2 ^ 8 ∧ y + y' < 2 ^ 8 ∧ z + z' < 2 ^ 8 ∧ w + w' < 2 ^ 8 := by
  interval_cases m <;> omega

theorem sum_octets_lt {x y z w : Nat} (hx : x < 2 ^ 8) (hy : y < 2 ^ 8) (hz : z < 2 ^ 8)
    (hw : w < 2 ^ 8) : x * 2 ^ 24 + y * 2 ^ 16 + z * 2 ^ 8 + w < 2 ^ 32 := by
  omega

theorem add_octets (x y z w x' y' z' w' : Nat) :
    x * 2 ^ 24 + y * 2 ^ 16 + z * 2 ^ 8 + w + (x' * 2 ^ 24 + y' * 2 ^ 16 + z' * 2 ^ 8 + w') =
      (x + x') * 2 ^ 24 + (y + y') * 2 ^ 16 + (z + z') * 2 ^ 8 + (w + w') := by
  ring

/-- Without bits in the same place, the sum is the same in both byte orders. -/
theorem swap32_add (hm : m ≤ 32) (ha : (swap32 a).toNat % 2 ^ m = 0)
    (hb : (swap32 b).toNat < 2 ^ m) :
    (swap32 (a + b)).toNat = (swap32 a).toNat + (swap32 b).toNat := by
  obtain ⟨x, y, z, w, hx, hy, hz, hw, hxyz⟩ := exists_octets a
  obtain ⟨x', y', z', w', hx', hy', hz', hw', hxyz'⟩ := exists_octets b
  have hswap := toNat_swap32 hx hy hz hw hxyz
  have hswap' := toNat_swap32 hx' hy' hz' hw' hxyz'
  rw [hswap] at ha
  rw [hswap'] at hb
  obtain ⟨hws, hzs, hys, hxs⟩ := octets_add_lt hm hw hz hy hx hw' hz' hy' hx' ha hb
  have hsum : (a + b).toNat =
      (x + x') * 2 ^ 24 + (y + y') * 2 ^ 16 + (z + z') * 2 ^ 8 + (w + w') := by
    rw [UInt32.toNat_add, hxyz, hxyz', add_octets, Nat.mod_eq_of_lt (sum_octets_lt hxs hys hzs hws)]
  rw [toNat_swap32 hxs hys hzs hws hsum, hswap, hswap', add_octets]

/-- The low bits of the head are clear where those of the whole are. -/
theorem head_mod (hk : k ≤ 32) (h : value (a :: as) % 2 ^ k = 0) :
    (swap32 a).toNat % 2 ^ k = 0 := by
  have hdvd : 2 ^ k ∣ 2 ^ 32 * value as := (Nat.pow_dvd_pow 2 hk).mul_right _
  rw [value_cons, Nat.add_mod, Nat.mod_eq_zero_of_dvd hdvd, Nat.add_zero, Nat.mod_mod] at h
  exact h

/-- Where more than a word is clear, the head is clear and so is the start of the rest. -/
theorem tail_mod (h : value (a :: as) % 2 ^ (32 + k) = 0) :
    (swap32 a).toNat = 0 ∧ value as % 2 ^ k = 0 := by
  have ha := (swap32 a).toNat_lt
  have hmod := Nat.mod_mul (x := value (a :: as)) (a := 2 ^ 32) (b := 2 ^ k)
  rw [← Nat.pow_add, h, value_cons] at hmod
  have hlow : ((swap32 a).toNat + 2 ^ 32 * value as) % 2 ^ 32 = (swap32 a).toNat := by omega
  have hhigh : ((swap32 a).toNat + 2 ^ 32 * value as) / 2 ^ 32 = value as := by omega
  rw [hlow, hhigh] at hmod
  omega

/-- Numbers that have no bits in the same place are added word by word. -/
theorem value_zipWith_add (hlen : as.length = bs.length) (ha : value as % 2 ^ k = 0)
    (hb : value bs < 2 ^ k) :
    value (List.zipWith (· + ·) as bs) = value as + value bs := by
  induction as generalizing bs k with
  | nil =>
    rw [List.length_eq_zero_iff.mp hlen.symm]
    rfl
  | cons a as ih =>
    cases bs with
    | nil => exact absurd hlen (by simp)
    | cons b bs =>
      have hlen' : as.length = bs.length := by simpa using hlen
      rw [List.zipWith_cons_cons, value_cons, value_cons, value_cons]
      rw [value_cons] at hb
      rcases Nat.le_total k 32 with hk | hk
      · -- the second number lies within its first word
        have hle : 2 ^ k ≤ 2 ^ 32 := Nat.pow_le_pow_right (by decide) hk
        have hbs : value bs = 0 := by omega
        have hhead := swap32_add hk (head_mod hk ha) (by omega : (swap32 b).toNat < 2 ^ k)
        have htail := ih (k := 0) hlen' (Nat.mod_one _) (by omega)
        rw [hhead, htail]
        omega
      · -- the first word of the first number is clear
        obtain ⟨k, rfl⟩ := Nat.exists_eq_add_of_le hk
        obtain ⟨hzero, hrest⟩ := tail_mod ha
        have hpow : 2 ^ (32 + k) = 2 ^ 32 * 2 ^ k := Nat.pow_add ..
        have hhead := swap32_add (a := a) (m := 32) le_rfl (by omega) (swap32 b).toNat_lt
        have htail := ih hlen' hrest (by omega)
        rw [hhead, htail]
        omega

/-! ## Complements -/

theorem swap32_not (a : UInt32) : (swap32 (~~~a)).toNat = 2 ^ 32 - 1 - (swap32 a).toNat := by
  obtain ⟨x, y, z, w, hx, hy, hz, hw, hxyz⟩ := exists_octets a
  have hnot : (~~~a).toNat = (2 ^ 8 - 1 - x) * 2 ^ 24 + (2 ^ 8 - 1 - y) * 2 ^ 16 +
      (2 ^ 8 - 1 - z) * 2 ^ 8 + (2 ^ 8 - 1 - w) := by
    rw [UInt32.toNat_not, hxyz, UInt32.size]
    omega
  rw [toNat_swap32 (by omega) (by omega) (by omega) (by omega) hnot,
    toNat_swap32 hx hy hz hw hxyz]
  omega

/-- All words turned over: what is missing to a number of ones. -/
theorem value_map_not (as : List UInt32) :
    value (as.map (~~~ ·)) = 2 ^ (32 * as.length) - 1 - value as := by
  induction as with
  | nil => rfl
  | cons a as ih =>
    have ha := (swap32 a).toNat_lt
    have has := value_lt as
    have hpow : 2 ^ (32 * (as.length + 1)) = 2 ^ 32 * 2 ^ (32 * as.length) := by
      rw [Nat.mul_add, Nat.mul_one, Nat.pow_add, Nat.mul_comm]
    rw [List.map_cons, value_cons, value_cons, ih, swap32_not, List.length_cons, hpow]
    omega

end Words

import NextEpc.Lib.Octets

/-!
# One's complement sums

The sum of 16-bit words in one's complement arithmetic: a carry out of the top is added at the
bottom. As a number the sum is determined by the sum of the numbers modulo 65535, where only
words that are all zero have the sum zero, so that the sum does not depend on the byte order but
for its own.
-/

namespace OnesComplement
open Octets

variable {a b : UInt16} {ws vs : List UInt16} {data rest : Bytes} {m n : Nat}

/-- Addition with an end-around carry. -/
def add (a b : UInt16) : UInt16 :=
  if a.toNat + b.toNat < 2 ^ 16 then UInt16.ofNat (a.toNat + b.toNat)
  else UInt16.ofNat (a.toNat + b.toNat + 1)

def sum (ws : List UInt16) : UInt16 := ws.foldl add 0

/-- The words of a buffer as a little-endian machine reads them, the last octet of an odd number
with zero behind it. -/
def words : Bytes → List UInt16
  | x :: y :: data => UInt16.ofNat (x.toNat + y.toNat * 2 ^ 8) :: words data
  | [x] => [UInt16.ofNat x.toNat]
  | [] => []

/-- The words of a buffer in network order. -/
def netWords : Bytes → List UInt16
  | x :: y :: data => UInt16.ofNat (x.toNat * 2 ^ 8 + y.toNat) :: netWords data
  | [x] => [UInt16.ofNat (x.toNat * 2 ^ 8)]
  | [] => []

/-- The sum of the words as numbers. -/
def total (ws : List UInt16) : Nat := (ws.map UInt16.toNat).sum

@[simp] theorem total_nil : total [] = 0 := rfl

@[simp] theorem total_cons : total (a :: ws) = a.toNat + total ws := by
  rw [total, List.map_cons, List.sum_cons, total]

@[simp] theorem total_append : total (ws ++ vs) = total ws + total vs := by
  rw [total, List.map_append, List.sum_append, total, total]

/-! ## Sums as numbers -/

/-- The word that a number is in one's complement arithmetic. -/
def rep (n : Nat) : Nat := if n = 0 then 0 else (n - 1) % (2 ^ 16 - 1) + 1

theorem rep_of_lt (h : n < 2 ^ 16) : rep n = n := by
  unfold rep
  split <;> omega

theorem rep_add (m n : Nat) : rep (rep m + n) = rep (m + n) := by
  unfold rep
  split_ifs <;> omega

theorem toNat_add (a b : UInt16) : (add a b).toNat = rep (a.toNat + b.toNat) := by
  have ha := a.toNat_lt
  have hb := b.toNat_lt
  unfold add rep
  split_ifs <;> rw [UInt16.toNat_ofNat'] <;> omega

theorem toNat_foldl (a : UInt16) (ws : List UInt16) :
    (ws.foldl add a).toNat = rep (a.toNat + total ws) := by
  induction ws generalizing a with
  | nil => exact (rep_of_lt a.toNat_lt).symm
  | cons b ws ih => rw [List.foldl_cons, ih, toNat_add, rep_add, total_cons, Nat.add_assoc]

theorem toNat_sum (ws : List UInt16) : (sum ws).toNat = rep (total ws) := by
  rw [sum, toNat_foldl, UInt16.toNat_zero, Nat.zero_add]

/-- A sum with its own complement is all ones. -/
theorem rep_add_complement (n : Nat) : rep (n + (2 ^ 16 - 1 - rep n)) = 2 ^ 16 - 1 := by
  unfold rep
  split_ifs <;> omega

/-! ## Byte order -/

theorem exists_octets16 (a : UInt16) : ∃ x y, x < 2 ^ 8 ∧ y < 2 ^ 8 ∧ a.toNat = x * 2 ^ 8 + y := by
  have ha := a.toNat_lt
  exact ⟨a.toNat / 2 ^ 8, a.toNat % 2 ^ 8, by omega, by omega, by omega⟩

theorem toNat_swap16_of {x y : Nat} (hx : x < 2 ^ 8) (hy : y < 2 ^ 8)
    (hxy : a.toNat = x * 2 ^ 8 + y) : (swap16 a).toNat = y * 2 ^ 8 + x := by
  have hlow : (x * 2 ^ 8 + y) % 2 ^ 8 = y := by omega
  have hhigh : (x * 2 ^ 8 + y) / 2 ^ 8 = x := by omega
  rw [swap16, UInt16.toNat_ofNat', hxy, hlow, hhigh, Nat.mod_eq_of_lt (by omega)]

/-- The octets change places if a word is multiplied by 256. -/
theorem toNat_swap16 (a : UInt16) : (swap16 a).toNat = rep (2 ^ 8 * a.toNat) := by
  obtain ⟨x, y, hx, hy, hxy⟩ := exists_octets16 a
  rw [toNat_swap16_of hx hy hxy, hxy]
  unfold rep
  split_ifs <;> omega

theorem rep_mul_rep (n : Nat) : rep (2 ^ 8 * rep n) = rep (2 ^ 8 * n) := by
  unfold rep
  split_ifs <;> omega

theorem netWords_eq (data : Bytes) : netWords data = (words data).map swap16 := by
  have hword (x y : UInt8) : UInt16.ofNat (x.toNat * 2 ^ 8 + y.toNat) =
      swap16 (UInt16.ofNat (x.toNat + y.toNat * 2 ^ 8)) := by
    have hx := x.toNat_lt
    have hy := y.toNat_lt
    have hhost : (UInt16.ofNat (x.toNat + y.toNat * 2 ^ 8)).toNat = y.toNat * 2 ^ 8 + x.toNat := by
      rw [UInt16.toNat_ofNat', Nat.mod_eq_of_lt (by omega), Nat.add_comm]
    apply UInt16.toNat_inj.mp
    rw [toNat_swap16_of hy hx hhost, UInt16.toNat_ofNat', Nat.mod_eq_of_lt (by omega)]
  induction data using netWords.induct with
  | case1 x y data ih => rw [netWords, words, List.map_cons, ih, hword]
  | case2 x =>
    have hlast := hword x 0
    rw [UInt8.toNat_zero, Nat.add_zero, Nat.zero_mul, Nat.add_zero] at hlast
    rw [netWords, words, List.map_cons, List.map_nil, hlast]
  | case3 => rfl

theorem rep_total_map_swap16 (ws : List UInt16) :
    rep (total (ws.map swap16)) = rep (2 ^ 8 * total ws) := by
  induction ws with
  | nil => rfl
  | cons a ws ih =>
    rw [List.map_cons, total_cons, total_cons, toNat_swap16, rep_add, Nat.add_comm, ← rep_add, ih,
      rep_add, Nat.mul_add, Nat.add_comm]

/-- The sum in the other byte order. -/
theorem sum_netWords (data : Bytes) : sum (netWords data) = swap16 (sum (words data)) := by
  apply UInt16.toNat_inj.mp
  rw [netWords_eq, toNat_sum, rep_total_map_swap16, toNat_swap16, toNat_sum, rep_mul_rep]

theorem swap16_not (a : UInt16) : swap16 (~~~a) = ~~~swap16 a := by
  obtain ⟨x, y, hx, hy, hxy⟩ := exists_octets16 a
  have hnot : (~~~a).toNat = (2 ^ 8 - 1 - x) * 2 ^ 8 + (2 ^ 8 - 1 - y) := by
    rw [UInt16.toNat_not, hxy, UInt16.size]
    omega
  apply UInt16.toNat_inj.mp
  rw [toNat_swap16_of (by omega) (by omega) hnot, UInt16.toNat_not, toNat_swap16_of hx hy hxy,
    UInt16.size]
  omega

/-! ## Buffers in parts -/

/-- A part with an even number of octets does not touch the words of the rest. -/
theorem words_append (h : data.length % 2 = 0) :
    words (data ++ rest) = words data ++ words rest := by
  induction data using words.induct with
  | case1 x y data ih =>
    have heven : data.length % 2 = 0 := by
      rw [List.length_cons, List.length_cons] at h
      omega
    rw [List.cons_append, List.cons_append, words, words, ih heven, List.cons_append]
  | case2 x => exact absurd h (by simp)
  | case3 => rfl

theorem total_words_append (h : data.length % 2 = 0) :
    total (words (data ++ rest)) = total (words data) + total (words rest) := by
  rw [words_append h, total_append]

theorem words_host16_append (a : UInt16) (rest : Bytes) :
    words (host16 a ++ rest) = a :: words rest := by
  have ha := a.toNat_lt
  have hword : UInt16.ofNat ((UInt8.ofNat a.toNat).toNat +
      (UInt8.ofNat (a.toNat / 2 ^ 8)).toNat * 2 ^ 8) = a := by
    apply UInt16.toNat_inj.mp
    rw [UInt16.toNat_ofNat', UInt8.toNat_ofNat', UInt8.toNat_ofNat']
    omega
  rw [host16, List.cons_append, List.cons_append, List.nil_append, words, hword]

/-- With the complement of its sum in the place of a word of zero, a buffer sums up to ones, in
either byte order. -/
theorem sum_netWords_of_complement {data rest : Bytes} {cksum : UInt16} (h : data.length % 2 = 0)
    (hcksum : cksum = ~~~sum (words (data ++ (host16 0 ++ rest)))) :
    sum (netWords (data ++ (host16 cksum ++ rest))) = 0xffff := by
  have hones : sum (words (data ++ (host16 cksum ++ rest))) = 0xffff := by
    have hzero : total (words (data ++ (host16 0 ++ rest))) =
        total (words data) + total (words rest) := by
      rw [total_words_append h, words_host16_append, total_cons, UInt16.toNat_zero, Nat.zero_add]
    have hnat : cksum.toNat = 2 ^ 16 - 1 - rep (total (words data) + total (words rest)) := by
      rw [hcksum, UInt16.toNat_not, toNat_sum, hzero]
      rfl
    apply UInt16.toNat_inj.mp
    rw [toNat_sum, total_words_append h, words_host16_append, total_cons, hnat, Nat.add_left_comm,
      Nat.add_comm, rep_add_complement]
    rfl
  rw [sum_netWords, hones]
  rfl

theorem total_words_le (data : Bytes) :
    total (words data) ≤ (2 ^ 16 - 1) * ((data.length + 1) / 2) := by
  induction data using words.induct with
  | case1 x y data ih =>
    have hword := (UInt16.ofNat (x.toNat + y.toNat * 2 ^ 8)).toNat_lt
    rw [words, total_cons, List.length_cons, List.length_cons]
    omega
  | case2 x =>
    have hword := (UInt16.ofNat x.toNat).toNat_lt
    rw [words, total_cons, total_nil, List.length_singleton]
    omega
  | case3 => exact Nat.zero_le _

end OnesComplement

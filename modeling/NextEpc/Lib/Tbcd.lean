import NextEpc.Lib.Octets

/-!
# Telephony BCD

Two digits are in an octet, the first of them in the low nibble. An odd last digit is followed by
the filler 1111.
-/

namespace Tbcd

/-- The octet of two digits -/
def octet (low high : UInt8) : UInt8 := (high <<< 4) ||| (low &&& 0x0f)

def filler : UInt8 := 0x0f

def pack : Bytes → Bytes
  | [] => []
  | [digit] => [octet digit filler]
  | low :: high :: digits => octet low high :: pack digits

theorem pack_take_even {digits : Bytes} {m : Nat} (h : 2 * m ≤ digits.length) :
    pack (digits.take (2 * m)) = (pack digits).take m := by
  induction m generalizing digits with
  | zero => simp [pack]
  | succ m ih =>
    match digits with
    | low :: high :: digits =>
      rw [List.length_cons, List.length_cons] at h
      rw [Nat.mul_succ, List.take_succ_cons, List.take_succ_cons, pack, pack, List.take_succ_cons,
        ih (by omega)]

theorem pack_take_odd {digits : Bytes} {m : Nat} (h : 2 * m < digits.length) :
    pack (digits.take (2 * m + 1)) = (pack digits).take m ++ [octet digits[2 * m] filler] := by
  induction m generalizing digits with
  | zero =>
    match digits with
    | digit :: digits => simp [pack]
  | succ m ih =>
    match digits with
    | low :: high :: digits =>
      rw [List.length_cons, List.length_cons] at h
      have hlt : 2 * m < digits.length := by omega
      have hget : (low :: high :: digits)[2 * (m + 1)] = digits[2 * m] := rfl
      have htake : (low :: high :: digits).take (2 * (m + 1) + 1) =
          low :: high :: digits.take (2 * m + 1) := rfl
      rw [hget, htake, pack, pack, List.take_succ_cons, List.cons_append, ← ih hlt]

/-- Only the low nibbles of the digits count. -/
theorem toNat_octet (low high : UInt8) :
    (octet low high).toNat = high.toNat % 16 * 16 + low.toNat % 16 := by
  have hmask : low.toNat &&& 15 = low.toNat % 16 := Nat.and_two_pow_sub_one_eq_mod _ 4
  have hlow : low.toNat % 16 < 2 ^ 4 := Nat.mod_lt _ (by decide)
  have hshift : high.toNat * 2 ^ 4 % 2 ^ 8 = (high.toNat % 16) * 2 ^ 4 := by omega
  simp only [octet, UInt8.toNat_or, UInt8.toNat_shiftLeft, UInt8.toNat_and, UInt8.reduceToNat,
    Nat.reduceMod, hmask, Nat.shiftLeft_eq, hshift]
  rw [← Nat.shiftLeft_eq, ← Nat.shiftLeft_add_eq_or_of_lt hlow, Nat.shiftLeft_eq]

/-- The high nibble of an octet is known. -/
theorem octet_eq_iff {low high high' : UInt8} :
    octet low high = octet low high' ↔ high.toNat % 16 = high'.toNat % 16 := by
  rw [← UInt8.toNat_inj, toNat_octet, toNat_octet]
  omega

/-! ## Nibbles -/

theorem toNat_and_nibble (octet : UInt8) : (octet &&& 0x0f).toNat = octet.toNat % 16 :=
  Nat.and_two_pow_sub_one_eq_mod _ 4

theorem toNat_shiftRight_nibble (octet : UInt8) : (octet >>> 4).toNat = octet.toNat / 16 := by
  rw [UInt8.toNat_shiftRight]
  exact Nat.shiftRight_eq_div_pow _ 4

variable {low high : UInt8}

theorem octet_and_nibble (h : low.toNat < 16) : octet low high &&& 0x0f = low := by
  apply UInt8.toNat_inj.mp
  rw [toNat_and_nibble, toNat_octet]
  omega

theorem octet_shiftRight_nibble (h : high.toNat < 16) : octet low high >>> 4 = high := by
  apply UInt8.toNat_inj.mp
  rw [toNat_shiftRight_nibble, toNat_octet]
  omega

theorem octet_nibbles (octet : UInt8) : Tbcd.octet (octet &&& 0x0f) (octet >>> 4) = octet := by
  have hlt := octet.toNat_lt
  apply UInt8.toNat_inj.mp
  rw [toNat_octet, toNat_and_nibble, toNat_shiftRight_nibble]
  omega

end Tbcd

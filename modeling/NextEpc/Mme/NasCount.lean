import NextEpc.Lib.SeqNum
import NextEpc.Mme.NasSecurity

/-!
# The uplink NAS COUNT

`nas_security_decode` rebuilds the 24-bit count of a message from the eight bits that its
header gives or from the five bits of a Service Request. Both are `SeqNum.extend` up to
the overflow of 24 bits.
-/

namespace NextEpc
namespace UlCount
variable {count : UlCount} {q : UInt8} {c : Nat}

/-- The count with a given value, of which 24 bits are kept. -/
def ofNat (c : Nat) : UlCount := ⟨UInt16.ofNat (c / 256), UInt8.ofNat c⟩

@[simp] theorem toNat_ofNat (c : Nat) : (ofNat c).toNat = c % 2 ^ 24 := by
  simp only [ofNat, toNat, UInt16.toNat_ofNat', UInt8.toNat_ofNat']
  omega

theorem toNat_lt (count : UlCount) : count.toNat < 2 ^ 24 := by
  have hover := count.overflow.toNat_lt
  have hsqn := count.sqn.toNat_lt
  simp only [toNat]
  omega

theorem toNat_mod (count : UlCount) : count.toNat % 256 = count.sqn.toNat := by
  have hsqn := count.sqn.toNat_lt
  simp only [toNat]
  omega

theorem toNat_div (count : UlCount) : count.toNat / 256 = count.overflow.toNat := by
  have hsqn := count.sqn.toNat_lt
  simp only [toNat]
  omega

theorem toNat_inj {a b : UlCount} : a.toNat = b.toNat ↔ a = b := by
  constructor
  · intro h
    have hover : a.overflow = b.overflow := by
      apply UInt16.toNat_inj.mp
      rw [← toNat_div, ← toNat_div, h]
    have hsqn : a.sqn = b.sqn := by
      apply UInt8.toNat_inj.mp
      rw [← toNat_mod, ← toNat_mod, h]
    cases a
    cases b
    simp_all
  · rintro rfl
    rfl

@[simp] theorem toNat_zero : zero.toNat = 0 := rfl

theorem i32_ofNat (c : Nat) : (ofNat c).i32 = UInt32.ofNat (c % 2 ^ 24) := by
  rw [i32, toNat_ofNat]

/-! ## Sequence numbers of eight bits -/

theorem toNat_next (count : UlCount) (q : UInt8) :
    (count.next q).toNat = SeqNum.extend 256 count.toNat q.toNat % 2 ^ 24 := by
  have hq := q.toNat_lt
  have hover := count.overflow.toNat_lt
  unfold SeqNum.extend
  rw [toNat_mod, toNat_div]
  unfold next
  by_cases hlt : q < count.sqn
  · have hnat : q.toNat < count.sqn.toNat := UInt8.lt_iff_toNat_lt.mp hlt
    rw [if_pos hlt, if_pos hnat]
    simp only [toNat, UInt16.toNat_add, UInt16.toNat_one]
    omega
  · have hnat : ¬q.toNat < count.sqn.toNat := fun h => hlt (UInt8.lt_iff_toNat_lt.mpr h)
    rw [if_neg hlt, if_neg hnat]
    simp only [toNat]
    omega

/-- The count is recovered from eight bits when it is one of the next 256. -/
theorem next_eq (hs : count.toNat ≤ c) (hc : c ≤ count.toNat + 255) :
    count.next (UInt8.ofNat c) = ofNat c := by
  apply toNat_inj.mp
  have hext : SeqNum.extend 256 count.toNat (c % 256) = c := SeqNum.extend_eq hs (by omega)
  rw [toNat_next, UInt8.toNat_ofNat', hext, toNat_ofNat]

theorem next_eq_self_iff : count.next q = count ↔ q = count.sqn := by
  constructor
  · intro h
    exact congrArg sqn h
  · rintro rfl
    simp [next]

/-! ## Sequence numbers of five bits -/

theorem toNat_and_31 (q : UInt8) : (q &&& 0x1f).toNat = q.toNat % 32 := by
  rw [UInt8.toNat_and]
  exact Nat.and_two_pow_sub_one_eq_mod q.toNat 5

theorem toNat_and_224 : ∀ q : UInt8, (q &&& 0xe0).toNat = q.toNat / 32 * 32 := by
  intro q
  have hsplit : (q &&& 0xe0).toNat + (q &&& 0x1f).toNat = q.toNat := by
    revert q
    decide +kernel
  rw [toNat_and_31] at hsplit
  omega

/-- The estimate has the five bits received, and is less than 32 above the last number. -/
theorem toNat_estimatedSequenceNumber (count : UlCount) (q : UInt8) :
    (count.estimatedSequenceNumber q).toNat =
      SeqNum.extend 32 count.sqn.toNat q.toNat % 256 := by
  have hsqn := count.sqn.toNat_lt
  unfold estimatedSequenceNumber SeqNum.extend
  by_cases hlt : q < count.sqn &&& 0x1f
  · have hnat : q.toNat < count.sqn.toNat % 32 := by
      rw [← toNat_and_31]
      exact UInt8.lt_iff_toNat_lt.mp hlt
    simp only [if_pos hlt, if_pos hnat, UInt8.toNat_add, toNat_and_224, UInt8.reduceToNat]
    omega
  · have hnat : ¬q.toNat < count.sqn.toNat % 32 := by
      rw [← toNat_and_31]
      exact fun h => hlt (UInt8.lt_iff_toNat_lt.mpr h)
    simp only [if_neg hlt, if_neg hnat, UInt8.toNat_add, toNat_and_224]
    omega

/-- The count is recovered from five bits when it is one of the next 32. -/
theorem next_estimated_eq (hs : count.toNat ≤ c) (hc : c ≤ count.toNat + 31) :
    count.next (count.estimatedSequenceNumber (UInt8.ofNat (c % 32))) = ofNat c := by
  have hq : (UInt8.ofNat (c % 32)).toNat = c % 32 := by
    rw [UInt8.toNat_ofNat']
    omega
  have hsqn := count.toNat_mod
  have hlow : count.sqn.toNat ≤ count.sqn.toNat + (c - count.toNat) := by omega
  have hext : SeqNum.extend 32 count.sqn.toNat (c % 32) =
      count.sqn.toNat + (c - count.toNat) := by
    have hmod : (count.sqn.toNat + (c - count.toNat)) % 32 = c % 32 := by omega
    rw [← hmod]
    exact SeqNum.extend_eq hlow (by omega)
  have hest : count.estimatedSequenceNumber (UInt8.ofNat (c % 32)) = UInt8.ofNat c := by
    apply UInt8.toNat_inj.mp
    rw [toNat_estimatedSequenceNumber, hq, hext, UInt8.toNat_ofNat']
    omega
  rw [hest]
  exact next_eq hs (by omega)

theorem estimatedSequenceNumber_eq_iff (hq : q.toNat < 32) :
    count.estimatedSequenceNumber q = count.sqn ↔ q = count.sqn &&& 0x1f := by
  have hsqn := count.sqn.toNat_lt
  have hlt := SeqNum.extend_lt (s := count.sqn.toNat) hq
  have hle := SeqNum.le_extend (n := 32) (by omega) count.sqn.toNat q.toNat
  have hself := SeqNum.extend_eq_self_iff (s := count.sqn.toNat) hq
  have hest := toNat_estimatedSequenceNumber count q
  rw [← UInt8.toNat_inj, ← UInt8.toNat_inj, toNat_and_31, ← hself, hest]
  omega

/-! ## Wraps of the 24 bits -/

theorem le_next (hwrap : ¬(count.overflow = 0xffff ∧ q < count.sqn)) :
    count.toNat ≤ (count.next q).toNat := by
  have hover := count.overflow.toNat_lt
  have hsqn := count.sqn.toNat_lt
  unfold next
  by_cases hlt : q < count.sqn
  · have hmax : count.overflow.toNat ≠ 0xffff := fun h =>
      hwrap ⟨UInt16.toNat_inj.mp h, hlt⟩
    rw [if_pos hlt]
    simp only [toNat, UInt16.toNat_add, UInt16.toNat_one]
    omega
  · have hnat : ¬q.toNat < count.sqn.toNat := fun h => hlt (UInt8.lt_iff_toNat_lt.mpr h)
    rw [if_neg hlt]
    simp only [toNat]
    omega

theorem estimatedSequenceNumber_lt_iff (hq : q.toNat < 32) :
    count.estimatedSequenceNumber q < count.sqn ↔
      0xe0 ≤ count.sqn ∧ q < count.sqn &&& 0x1f := by
  have hsqn := count.sqn.toNat_lt
  rw [UInt8.lt_iff_toNat_lt, UInt8.le_iff_toNat_le, UInt8.lt_iff_toNat_lt, toNat_and_31,
    toNat_estimatedSequenceNumber, SeqNum.extend]
  simp only [UInt8.reduceToNat]
  split <;> omega

end UlCount
end NextEpc

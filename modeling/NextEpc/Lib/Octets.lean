import Mathlib

/-!
# Octets and byte order

Network byte order puts the most significant octet first. `htonl` and `ntohl` convert
between a 32-bit value and its four octets on the wire; the lemmas say that they are
inverse and what shifting by one octet does.
-/

/-- A byte string. -/
abbrev Bytes := List UInt8

/-- Four octets in network order. -/
abbrev Octets4 := Vector UInt8 4

/-- Sixteen octets. -/
abbrev Octets16 := Vector UInt8 16

namespace Octets

/-- The octets of a 32-bit value, most significant first. -/
def htonl (n : UInt32) : Octets4 :=
  #v[UInt8.ofNat (n.toNat / 2 ^ 24), UInt8.ofNat (n.toNat / 2 ^ 16),
    UInt8.ofNat (n.toNat / 2 ^ 8), UInt8.ofNat n.toNat]

/-- The 32-bit value of four octets, most significant first. -/
def ntohl (v : Octets4) : UInt32 :=
  UInt32.ofNat (v[0].toNat * 2 ^ 24 + v[1].toNat * 2 ^ 16 + v[2].toNat * 2 ^ 8 + v[3].toNat)

/-- The octets of a 16-bit value, most significant first. -/
def htons (n : Nat) : Bytes := [UInt8.ofNat (n / 2 ^ 8), UInt8.ofNat n]

@[simp] theorem ntohl_htonl (n : UInt32) : ntohl (htonl n) = n := by
  have hn := n.toNat_lt
  apply UInt32.toNat_inj.mp
  simp only [ntohl, htonl, UInt32.toNat_ofNat', Vector.getElem_mk, List.getElem_toArray,
    List.getElem_cons_zero, List.getElem_cons_succ, UInt8.toNat_ofNat']
  omega

theorem ntohl_shiftLeft_shiftRight {n : UInt32} (h : n.toNat < 2 ^ 24) :
    ntohl (htonl (n <<< 8)) >>> 8 = n := by
  rw [ntohl_htonl]
  apply UInt32.toNat_inj.mp
  simp only [UInt32.toNat_shiftRight, UInt32.toNat_shiftLeft, UInt32.reduceToNat,
    Nat.reduceMod, Nat.shiftLeft_eq, Nat.shiftRight_eq_div_pow]
  omega

/-! ## The memory of a little-endian host -/

/-- The octets of a 16-bit value in memory. -/
def host16 (n : UInt16) : Bytes := [UInt8.ofNat n.toNat, UInt8.ofNat (n.toNat / 2 ^ 8)]

/-- The octets of a 32-bit value in memory. -/
def host32 (n : UInt32) : Bytes :=
  [UInt8.ofNat n.toNat, UInt8.ofNat (n.toNat / 2 ^ 8), UInt8.ofNat (n.toNat / 2 ^ 16),
    UInt8.ofNat (n.toNat / 2 ^ 24)]

/-- A 16-bit value with its octets in the other order. -/
def swap16 (n : UInt16) : UInt16 := UInt16.ofNat (n.toNat % 2 ^ 8 * 2 ^ 8 + n.toNat / 2 ^ 8)

/-- A 32-bit value with its octets in the other order. -/
def swap32 (n : UInt32) : UInt32 :=
  UInt32.ofNat (n.toNat % 2 ^ 8 * 2 ^ 24 + n.toNat / 2 ^ 8 % 2 ^ 8 * 2 ^ 16 +
    n.toNat / 2 ^ 16 % 2 ^ 8 * 2 ^ 8 + n.toNat / 2 ^ 24)

theorem ofNat_eq_of_mod {a b : Nat} (h : a % 2 ^ 8 = b % 2 ^ 8) : UInt8.ofNat a = UInt8.ofNat b := by
  apply UInt8.toNat_inj.mp
  simpa only [UInt8.toNat_ofNat'] using h

/-- A 16-bit value is stored in network order after its octets have been swapped. -/
theorem host16_swap16 (n : UInt16) :
    host16 (swap16 n) = [UInt8.ofNat (n.toNat / 2 ^ 8), UInt8.ofNat n.toNat] := by
  have hn := n.toNat_lt
  have hx : n.toNat / 2 ^ 8 < 2 ^ 8 := by omega
  have heq : (swap16 n).toNat = n.toNat % 2 ^ 8 * 2 ^ 8 + n.toNat / 2 ^ 8 := by
    rw [swap16, UInt16.toNat_ofNat', Nat.mod_eq_of_lt (by omega)]
  have hdiv : (n.toNat % 2 ^ 8 * 2 ^ 8 + n.toNat / 2 ^ 8) / 2 ^ 8 = n.toNat % 2 ^ 8 := by
    rw [Nat.mul_comm, Nat.mul_add_div (by decide), Nat.div_eq_of_lt hx, Nat.add_zero]
  have hlow : UInt8.ofNat (n.toNat % 2 ^ 8 * 2 ^ 8 + n.toNat / 2 ^ 8) =
      UInt8.ofNat (n.toNat / 2 ^ 8) := by
    refine ofNat_eq_of_mod ?_
    rw [Nat.mul_add_mod_self_right]
  have hhigh : UInt8.ofNat (n.toNat % 2 ^ 8) = UInt8.ofNat n.toNat :=
    ofNat_eq_of_mod (Nat.mod_mod _ _)
  rw [host16, heq, hlow, hdiv, hhigh]

/-- The value of four octets, its octets one by one. -/
theorem octets_of_sum {x y z w : Nat} (hy : y < 2 ^ 8) (hz : z < 2 ^ 8) (hw : w < 2 ^ 8) :
    (x * 2 ^ 24 + y * 2 ^ 16 + z * 2 ^ 8 + w) / 2 ^ 24 = x ∧
    (x * 2 ^ 24 + y * 2 ^ 16 + z * 2 ^ 8 + w) / 2 ^ 16 % 2 ^ 8 = y ∧
    (x * 2 ^ 24 + y * 2 ^ 16 + z * 2 ^ 8 + w) / 2 ^ 8 % 2 ^ 8 = z ∧
    (x * 2 ^ 24 + y * 2 ^ 16 + z * 2 ^ 8 + w) % 2 ^ 8 = w := by
  have h24 : (x * 2 ^ 24 + y * 2 ^ 16 + z * 2 ^ 8 + w) / 2 ^ 24 = x := by omega
  have h16 : (x * 2 ^ 24 + y * 2 ^ 16 + z * 2 ^ 8 + w) / 2 ^ 16 = x * 2 ^ 8 + y := by omega
  have h8 : (x * 2 ^ 24 + y * 2 ^ 16 + z * 2 ^ 8 + w) / 2 ^ 8 = x * 2 ^ 16 + y * 2 ^ 8 + z := by
    omega
  rw [h24, h16, h8]
  omega

theorem toList_htonl (n : UInt32) : (htonl n).toList = [UInt8.ofNat (n.toNat / 2 ^ 24),
    UInt8.ofNat (n.toNat / 2 ^ 16), UInt8.ofNat (n.toNat / 2 ^ 8), UInt8.ofNat n.toNat] := rfl

/-- The octets of a 32-bit value. -/
theorem exists_octets (n : UInt32) : ∃ x y z w, x < 2 ^ 8 ∧ y < 2 ^ 8 ∧ z < 2 ^ 8 ∧
    w < 2 ^ 8 ∧ n.toNat = x * 2 ^ 24 + y * 2 ^ 16 + z * 2 ^ 8 + w := by
  have hn := n.toNat_lt
  refine ⟨n.toNat / 2 ^ 24, n.toNat / 2 ^ 16 % 2 ^ 8, n.toNat / 2 ^ 8 % 2 ^ 8, n.toNat % 2 ^ 8,
    ?_, ?_, ?_, ?_, ?_⟩ <;> omega

theorem toNat_swap32 {n : UInt32} {x y z w : Nat} (hx : x < 2 ^ 8) (hy : y < 2 ^ 8)
    (hz : z < 2 ^ 8) (hw : w < 2 ^ 8)
    (hxyz : n.toNat = x * 2 ^ 24 + y * 2 ^ 16 + z * 2 ^ 8 + w) :
    (swap32 n).toNat = w * 2 ^ 24 + z * 2 ^ 16 + y * 2 ^ 8 + x := by
  obtain ⟨n24, n16, n8, n0⟩ := octets_of_sum (x := x) hy hz hw
  rw [swap32, hxyz, UInt32.toNat_ofNat', n24, n16, n8, n0, Nat.mod_eq_of_lt]
  omega

/-- A 32-bit value is stored in network order after its octets have been swapped. -/
theorem host32_swap32 (n : UInt32) : host32 (swap32 n) = (htonl n).toList := by
  obtain ⟨x, y, z, w, hx, hy, hz, hw, hxyz⟩ := exists_octets n
  obtain ⟨n24, n16, n8, n0⟩ := octets_of_sum (x := x) hy hz hw
  obtain ⟨m24, m16, m8, m0⟩ := octets_of_sum (x := w) hz hy hx
  have heq := toNat_swap32 hx hy hz hw hxyz
  rw [toList_htonl, host32, heq, hxyz, List.cons.injEq, List.cons.injEq, List.cons.injEq,
    List.cons.injEq]
  refine ⟨?_, ?_, ?_, ?_, rfl⟩
  · exact ofNat_eq_of_mod (by rw [m0, n24, Nat.mod_eq_of_lt hx])
  · exact ofNat_eq_of_mod (by rw [m8, n16])
  · exact ofNat_eq_of_mod (by rw [m16, n8])
  · exact ofNat_eq_of_mod (by rw [m24, n0, Nat.mod_eq_of_lt hw])

/-- A 24-bit value is stored in network order after it has been shifted up and swapped. -/
theorem host32_swap32_shiftLeft {n : UInt32} (h : n.toNat < 2 ^ 24) :
    (host32 (swap32 (n <<< 8))).take 3 =
      [UInt8.ofNat (n.toNat / 2 ^ 16), UInt8.ofNat (n.toNat / 2 ^ 8), UInt8.ofNat n.toNat] := by
  have heq : (n <<< 8).toNat = n.toNat * 2 ^ 8 := by
    simp only [UInt32.toNat_shiftLeft, UInt32.reduceToNat, Nat.reduceMod, Nat.shiftLeft_eq]
    omega
  have h24 : n.toNat * 2 ^ 8 / 2 ^ 24 = n.toNat / 2 ^ 16 := by omega
  have h16 : n.toNat * 2 ^ 8 / 2 ^ 16 = n.toNat / 2 ^ 8 := by omega
  have h8 : n.toNat * 2 ^ 8 / 2 ^ 8 = n.toNat := by omega
  rw [host32_swap32, toList_htonl, heq, h24, h16, h8]
  rfl

/-! ## Values that read the same in both orders -/

theorem swap16_eq_self_iff {n : UInt16} :
    swap16 n = n ↔ n.toNat / 2 ^ 8 = n.toNat % 2 ^ 8 := by
  have hn := n.toNat_lt
  rw [← UInt16.toNat_inj, swap16, UInt16.toNat_ofNat']
  omega

/-- Octets in the two orders make the same value if the octets are the same. -/
theorem sum_reverse_eq_iff {x y z w : Nat} (hy : y < 2 ^ 8) (hz : z < 2 ^ 8) :
    w * 2 ^ 24 + z * 2 ^ 16 + y * 2 ^ 8 + x = x * 2 ^ 24 + y * 2 ^ 16 + z * 2 ^ 8 + w ↔
      x = w ∧ y = z := by
  omega

theorem swap32_eq_self_iff {n : UInt32} :
    swap32 n = n ↔ n.toNat / 2 ^ 24 = n.toNat % 2 ^ 8 ∧
      n.toNat / 2 ^ 16 % 2 ^ 8 = n.toNat / 2 ^ 8 % 2 ^ 8 := by
  obtain ⟨x, y, z, w, hx, hy, hz, hw, hxyz⟩ := exists_octets n
  obtain ⟨n24, n16, n8, n0⟩ := octets_of_sum (x := x) hy hz hw
  rw [← UInt32.toNat_inj, toNat_swap32 hx hy hz hw hxyz, hxyz, n24, n16, n8, n0]
  exact sum_reverse_eq_iff hy hz

/-- Shifted and turned, a value of three octets is as before if the outer two are the same. -/
theorem swap32_shiftLeft_eq_self_iff {n : UInt32} :
    swap32 (n <<< 8) = n ↔ n.toNat < 2 ^ 24 ∧ n.toNat / 2 ^ 16 = n.toNat % 2 ^ 8 := by
  obtain ⟨x, y, z, w, hx, hy, hz, hw, hxyz⟩ := exists_octets n
  have hshift : (n <<< 8).toNat = y * 2 ^ 24 + z * 2 ^ 16 + w * 2 ^ 8 + 0 := by
    have hmod : (x * 2 ^ 24 + y * 2 ^ 16 + z * 2 ^ 8 + w) * 2 ^ 8 % 2 ^ 32 =
        y * 2 ^ 24 + z * 2 ^ 16 + w * 2 ^ 8 + 0 := by omega
    rw [UInt32.toNat_shiftLeft, hxyz, Nat.shiftLeft_eq]
    exact hmod
  have hsum : 0 * 2 ^ 24 + w * 2 ^ 16 + z * 2 ^ 8 + y = x * 2 ^ 24 + y * 2 ^ 16 + z * 2 ^ 8 + w ↔
      x * 2 ^ 24 + y * 2 ^ 16 + z * 2 ^ 8 + w < 2 ^ 24 ∧
        (x * 2 ^ 24 + y * 2 ^ 16 + z * 2 ^ 8 + w) / 2 ^ 16 =
          (x * 2 ^ 24 + y * 2 ^ 16 + z * 2 ^ 8 + w) % 2 ^ 8 := by
    have h16 : (x * 2 ^ 24 + y * 2 ^ 16 + z * 2 ^ 8 + w) / 2 ^ 16 = x * 2 ^ 8 + y := by omega
    have h0 : (x * 2 ^ 24 + y * 2 ^ 16 + z * 2 ^ 8 + w) % 2 ^ 8 = w := by omega
    rw [h16, h0]
    omega
  rw [← UInt32.toNat_inj, toNat_swap32 hy hz hw (by omega) hshift, hxyz]
  exact hsum

/-! ## Values that are put together from their octets -/

theorem ofNat_eq_of_mod_eq {n : Nat} {a : UInt8} (h : n % 2 ^ 8 = a.toNat) : UInt8.ofNat n = a := by
  apply UInt8.toNat_inj.mp
  rw [UInt8.toNat_ofNat', h]

theorem toNat_two (a b : UInt8) :
    (UInt16.ofNat (a.toNat * 2 ^ 8 + b.toNat)).toNat = a.toNat * 2 ^ 8 + b.toNat := by
  have ha := a.toNat_lt
  have hb := b.toNat_lt
  rw [UInt16.toNat_ofNat', Nat.mod_eq_of_lt (by omega)]

theorem toNat_three (a b c : UInt8) :
    (UInt32.ofNat (a.toNat * 2 ^ 16 + b.toNat * 2 ^ 8 + c.toNat)).toNat =
      a.toNat * 2 ^ 16 + b.toNat * 2 ^ 8 + c.toNat := by
  have ha := a.toNat_lt
  have hb := b.toNat_lt
  have hc := c.toNat_lt
  rw [UInt32.toNat_ofNat', Nat.mod_eq_of_lt (by omega)]

theorem octets_two (a b : UInt8) :
    [UInt8.ofNat ((a.toNat * 2 ^ 8 + b.toNat) / 2 ^ 8), UInt8.ofNat (a.toNat * 2 ^ 8 + b.toNat)] =
      [a, b] := by
  have ha := a.toNat_lt
  have hb := b.toNat_lt
  rw [ofNat_eq_of_mod_eq (a := a) (by omega), ofNat_eq_of_mod_eq (a := b) (by omega)]

theorem octets_three (a b c : UInt8) :
    [UInt8.ofNat ((a.toNat * 2 ^ 16 + b.toNat * 2 ^ 8 + c.toNat) / 2 ^ 16),
      UInt8.ofNat ((a.toNat * 2 ^ 16 + b.toNat * 2 ^ 8 + c.toNat) / 2 ^ 8),
      UInt8.ofNat (a.toNat * 2 ^ 16 + b.toNat * 2 ^ 8 + c.toNat)] = [a, b, c] := by
  have ha := a.toNat_lt
  have hb := b.toNat_lt
  have hc := c.toNat_lt
  rw [ofNat_eq_of_mod_eq (a := a) (by omega), ofNat_eq_of_mod_eq (a := b) (by omega),
    ofNat_eq_of_mod_eq (a := c) (by omega)]

theorem htonl_four (a b c d : UInt8) :
    (htonl (UInt32.ofNat (a.toNat * 2 ^ 24 + b.toNat * 2 ^ 16 + c.toNat * 2 ^ 8 + d.toNat))).toList =
      [a, b, c, d] := by
  obtain ⟨h24, h16, h8, h0⟩ := octets_of_sum (x := a.toNat) b.toNat_lt c.toNat_lt d.toNat_lt
  have ha := a.toNat_lt
  have hb := b.toNat_lt
  have hc := c.toNat_lt
  have hd := d.toNat_lt
  have hn : (UInt32.ofNat (a.toNat * 2 ^ 24 + b.toNat * 2 ^ 16 + c.toNat * 2 ^ 8 + d.toNat)).toNat =
      a.toNat * 2 ^ 24 + b.toNat * 2 ^ 16 + c.toNat * 2 ^ 8 + d.toNat := by
    rw [UInt32.toNat_ofNat', Nat.mod_eq_of_lt (by omega)]
  rw [toList_htonl, hn, ofNat_eq_of_mod_eq (a := a) (by rw [h24, Nat.mod_eq_of_lt ha]),
    ofNat_eq_of_mod_eq (a := b) h16, ofNat_eq_of_mod_eq (a := c) h8, ofNat_eq_of_mod_eq (a := d) h0]

/-! ## Writing into a buffer -/

/-- `memcpy(buf + off, octets, octets.length)` -/
def store (buf : Bytes) (off : Nat) (octets : Bytes) : Bytes :=
  buf.take off ++ octets ++ buf.drop (off + octets.length)

theorem store_append_right {a : Bytes} {off : Nat} (h : a.length ≤ off) (b octets : Bytes) :
    store (a ++ b) off octets = a ++ store b (off - a.length) octets := by
  have hoff : off + octets.length - a.length = off - a.length + octets.length := by omega
  rw [store, store, List.take_append, List.drop_append, List.take_of_length_le h,
    List.drop_of_length_le (by omega), List.nil_append, hoff]
  simp only [List.append_assoc]

theorem store_append_left {a octets : Bytes} {off : Nat} (h : off + octets.length ≤ a.length)
    (b : Bytes) : store (a ++ b) off octets = store a off octets ++ b := by
  have htake : off ≤ a.length := by omega
  rw [store, store, List.take_append_of_le_length htake, List.drop_append_of_le_length h]
  simp only [List.append_assoc]

theorem store_all {buf octets : Bytes} (h : octets.length = buf.length) :
    store buf 0 octets = octets := by
  rw [store, List.take_zero, List.nil_append, Nat.zero_add, h, List.drop_length, List.append_nil]

/-- Two writes side by side are one. -/
theorem store_store {buf a : Bytes} {off next : Nat} (h : off ≤ buf.length)
    (hnext : next = off + a.length) (b : Bytes) :
    store (store buf off a) next b = store buf off (a ++ b) := by
  subst hnext
  have hlen : (buf.take off ++ a).length = off + a.length := by
    rw [List.length_append, List.length_take, Nat.min_eq_left h]
  have hnext := store_append_right hlen.le (buf.drop (off + a.length)) b
  rw [hlen, Nat.sub_self] at hnext
  have hbuf : store buf off a = buf.take off ++ a ++ buf.drop (off + a.length) := rfl
  rw [hbuf, hnext, store, store, List.take_zero, List.nil_append, Nat.zero_add, List.drop_drop,
    List.length_append, Nat.add_assoc]
  simp only [List.append_assoc]

/-! ## Stream ciphers -/

/-- The octets of `data`, each combined with the octet of the key stream at its place. -/
def xorStream (stream : Nat → UInt8) (data : Bytes) : Bytes :=
  data.mapIdx fun i octet => octet ^^^ stream i

@[simp] theorem length_xorStream (stream : Nat → UInt8) (data : Bytes) :
    (xorStream stream data).length = data.length := by
  simp [xorStream]

/-- Deciphering is enciphering with the same key stream. -/
@[simp] theorem xorStream_xorStream (stream : Nat → UInt8) (data : Bytes) :
    xorStream stream (xorStream stream data) = data := by
  apply List.ext_getElem
  · simp
  · intro i _ _
    simp [xorStream]

/-! ## Values are known by their octets -/

theorem mod_of_ofNat_eq {a b : Nat} (h : UInt8.ofNat a = UInt8.ofNat b) :
    a % 2 ^ 8 = b % 2 ^ 8 := by
  rw [← UInt8.toNat_ofNat', ← UInt8.toNat_ofNat', h]

theorem eq_of_two {n m : UInt16}
    (h : [UInt8.ofNat (n.toNat / 2 ^ 8), UInt8.ofNat n.toNat] =
      [UInt8.ofNat (m.toNat / 2 ^ 8), UInt8.ofNat m.toNat]) : n = m := by
  have hn := n.toNat_lt
  have hm := m.toNat_lt
  simp only [List.cons.injEq, and_true] at h
  have hhigh := mod_of_ofNat_eq h.1
  have hlow := mod_of_ofNat_eq h.2
  apply UInt16.toNat_inj.mp
  omega

theorem eq_of_three {n m : UInt32} (hn : n.toNat < 2 ^ 24) (hm : m.toNat < 2 ^ 24)
    (h : [UInt8.ofNat (n.toNat / 2 ^ 16), UInt8.ofNat (n.toNat / 2 ^ 8), UInt8.ofNat n.toNat] =
      [UInt8.ofNat (m.toNat / 2 ^ 16), UInt8.ofNat (m.toNat / 2 ^ 8), UInt8.ofNat m.toNat]) :
    n = m := by
  simp only [List.cons.injEq, and_true] at h
  have hhigh := mod_of_ofNat_eq h.1
  have hmid := mod_of_ofNat_eq h.2.1
  have hlow := mod_of_ofNat_eq h.2.2
  apply UInt32.toNat_inj.mp
  omega

theorem htonl_inj {n m : UInt32} (h : (htonl n).toList = (htonl m).toList) : n = m := by
  rw [← ntohl_htonl n, Vector.toList_inj.mp h, ntohl_htonl]

/-! ## Numbers of any size -/

/-- The number that octets stand for, most significant first. -/
def value (data : Bytes) : Nat := data.foldl (fun n octet => n * 2 ^ 8 + octet.toNat) 0

/-- The last octets of a number, most significant first. -/
def ofValue (n : Nat) : Nat → Bytes
  | 0 => []
  | size + 1 => ofValue (n / 2 ^ 8) size ++ [UInt8.ofNat n]

@[simp] theorem length_ofValue (n size : Nat) : (ofValue n size).length = size := by
  induction size generalizing n with
  | zero => rfl
  | succ size ih => rw [ofValue, List.length_append, ih, List.length_singleton]

theorem value_append_singleton (data : Bytes) (octet : UInt8) :
    value (data ++ [octet]) = value data * 2 ^ 8 + octet.toNat := by
  rw [value, value, List.foldl_append, List.foldl_cons, List.foldl_nil]

theorem value_lt (data : Bytes) : value data < 2 ^ (8 * data.length) := by
  induction data using List.reverseRecOn with
  | nil => decide
  | append_singleton data octet ih =>
    have hoctet := octet.toNat_lt
    rw [value_append_singleton, List.length_append, List.length_singleton, Nat.mul_add, Nat.mul_one,
      Nat.pow_add]
    omega

/-- What a number is after it has been stored in a fixed number of octets. -/
theorem value_ofValue (n size : Nat) : value (ofValue n size) = n % 2 ^ (8 * size) := by
  induction size generalizing n with
  | zero => rw [ofValue, Nat.mul_zero, Nat.pow_zero, Nat.mod_one]; rfl
  | succ size ih =>
    have hpow : 2 ^ (8 * (size + 1)) = 2 ^ 8 * 2 ^ (8 * size) := by
      rw [Nat.mul_add, Nat.mul_one, Nat.pow_add, Nat.mul_comm]
    rw [ofValue, value_append_singleton, ih, UInt8.toNat_ofNat', hpow, Nat.mod_mul]
    omega

end Octets

import NextEpc.Gx.ChargingRule
import NextEpc.Lib.Fallible
import NextEpc.Lib.Tbcd

/-!
# IMSIs in NAS

The digits of a mobile identity are nibbles, of which the lowest one says how many there are. Its
length is the one that was received.
-/

namespace NextEpc

/-- What is used of the conversions of ogslib. -/
class OgsBcd where
  /-- `ogs_bcd_to_buffer`, with the octets that it writes -/
  bcdToBuffer : CString → Bytes
  bcdToBuffer_eq : ∀ bcd, bcdToBuffer bcd = Tbcd.pack (bcd.octets.map (· - 0x30))

@[reducible] def OgsBcd.reference : OgsBcd where
  bcdToBuffer bcd := Tbcd.pack (bcd.octets.map (· - 0x30))
  bcdToBuffer_eq _ := rfl

/-- `ogs_nas_mobile_identity_imsi_t` in memory. An identity may be shorter. -/
structure NasMobileIdentityImsi where
  octets : Vector UInt8 8
  deriving DecidableEq, Repr

/-- Nothing is asserted. -/
abbrev ImsiM := Fallible Empty

/-- `OGS_MAX_IMSI_BCD_LEN` -/
def ogsMaxImsiBcdLen : Nat := 15

/-- `OGS_MAX_IMSI_LEN` -/
def ogsMaxImsiLen : Nat := 8

/-- An octet of an array is read. -/
def loadAt {n : Nat} (a : Vector UInt8 n) (i : Int) : ImsiM UInt8 :=
  if h : 0 ≤ i ∧ i.toNat < n then .ok (a.get ⟨i.toNat, h.2⟩) else .error .outOfBounds

/-- An octet of an array is written. -/
def storeAt {n : Nat} (a : Vector UInt8 n) (i : Int) (octet : UInt8) : ImsiM (Vector UInt8 n) :=
  if h : 0 ≤ i ∧ i.toNat < n then .ok (a.set i.toNat octet h.2) else .error .outOfBounds

namespace NasMobileIdentityImsi
variable (imsi : NasMobileIdentityImsi)

/-- `odd_even`. The type is below it. -/
def oddEven : Bool := (imsi.octets[0] >>> 3) &&& 1 == 1

/-- `digit1` to `digit15`. Odd ones are high nibbles. -/
def digit (i : Nat) : UInt8 :=
  let octet := imsi.octets.toList.getD (i / 2) 0
  if i % 2 = 1 then octet >>> 4 else octet &&& 0x0f

/-- `ogs_nas_imsi_to_bcd` -/
def imsiToBcd (imsiLen : UInt8) (bcd : Vector UInt8 (ogsMaxImsiBcdLen + 1)) :
    ImsiM (Vector UInt8 (ogsMaxImsiBcdLen + 1)) := do
  let bcd := Vector.ofFn fun i : Fin (ogsMaxImsiBcdLen + 1) =>
    if i.val < 15 then 0x30 + imsi.digit (i.val + 1) else bcd[i]
  let bcdLen : Int := imsiLen.toNat * 2 - 1
  if imsi.oddEven then storeAt bcd bcdLen 0
  else do
    -- The digit after the last one is looked at for a warning.
    let _ ← loadAt bcd bcdLen
    storeAt bcd (bcdLen - 1) 0

/-- `ogs_nas_imsi_to_buffer`, with the length -/
def imsiToBuffer (imsiLen : UInt8) : ImsiM (Vector UInt8 ogsMaxImsiLen × UInt8) := do
  let buf := Vector.ofFn fun j : Fin ogsMaxImsiLen =>
    if j.val < 7 then
      (((0x30 + imsi.digit (2 * j.val + 2)) <<< 4) &&& 0xf0) |||
        ((0x30 + imsi.digit (2 * j.val + 1)) &&& 0x0f)
    else (0x30 + imsi.digit 15) &&& 0x0f
  if imsi.oddEven then .ok (buf, imsiLen)
  else do
    let bufLen := imsiLen - 1
    let _ ← loadAt buf bufLen.toNat
    .ok (buf, bufLen)

/-! ## Strings and octets of an identity -/

/-- The number of digits of an identity of so many octets -/
def count (imsiLen : UInt8) : Nat := imsiLen.toNat * 2 - if imsi.oddEven then 1 else 2

/-- These digits, in their order -/
def digits (imsiLen : UInt8) : Bytes :=
  (List.range (imsi.count imsiLen)).map fun i => imsi.digit (i + 1)

/-- The string has the digits of the identity, which it has room for, and is packed to the octets
that the identity is converted to. -/
def Converts [OgsBcd] (imsiLen : UInt8) (bcd : Vector UInt8 (ogsMaxImsiBcdLen + 1)) : Prop :=
  ∃ bcd' buf bufLen, imsi.imsiToBcd imsiLen bcd = .ok bcd' ∧
    imsi.imsiToBuffer imsiLen = .ok (buf, bufLen) ∧
    (imsi.digits imsiLen).length ≤ ogsMaxImsiBcdLen ∧
    (CString.copy bcd'.toList).octets = (imsi.digits imsiLen).map (0x30 + ·) ∧
    bufLen.toNat ≤ ogsMaxImsiLen ∧
    OgsBcd.bcdToBuffer (CString.copy bcd'.toList) = buf.toList.take bufLen.toNat

/-- The identity has up to eight octets, and the nibble after an odd last digit is in the record
and has the filler. -/
def Fits (imsiLen : UInt8) : Prop :=
  1 ≤ imsiLen.toNat ∧ imsiLen.toNat ≤ 8 ∧
    (imsi.oddEven = true → imsiLen.toNat ≤ 7 ∧ imsi.digit (2 * imsiLen.toNat) = 0x0f)

/-! ## The string -/

/-- All digits of the record -/
def allDigits : Bytes := (List.range 15).map fun i => imsi.digit (i + 1)

variable {imsi} {imsiLen : UInt8}

theorem digit_lt (imsi : NasMobileIdentityImsi) (i : Nat) : (imsi.digit i).toNat < 16 := by
  unfold digit
  simp only []
  split_ifs
  · have hlt := (imsi.octets.toList.getD (i / 2) 0).toNat_lt
    simp only [UInt8.toNat_shiftRight, UInt8.reduceToNat, Nat.reduceMod,
      Nat.shiftRight_eq_div_pow]
    omega
  · rw [UInt8.toNat_and]
    exact lt_of_le_of_lt Nat.and_le_right (by decide)

theorem char_ne_zero {digit : UInt8} (h : digit.toNat < 16) : 0x30 + digit ≠ 0 := by
  intro h0
  have hsum : (48 + digit.toNat) % 256 = 0 := congrArg UInt8.toNat h0
  omega

/-- A string ends at the first zero. -/
theorem copy_set {l : Bytes} {n : Nat} (hn : n < l.length) (h : ∀ octet ∈ l.take n, octet ≠ 0) :
    (CString.copy (l.set n 0)).octets = l.take n := by
  change (l.set n 0).takeWhile (· != 0) = l.take n
  rw [List.set_eq_take_append_cons_drop, if_pos hn,
    List.takeWhile_append_of_pos (by simpa using h)]
  simp

theorem length_allDigits (imsi : NasMobileIdentityImsi) : imsi.allDigits.length = 15 := by
  rw [allDigits, List.length_map, List.length_range]

theorem digits_eq_take (h : imsi.count imsiLen ≤ 15) :
    imsi.digits imsiLen = imsi.allDigits.take (imsi.count imsiLen) := by
  rw [digits, allDigits, ← List.map_take, List.take_range, Nat.min_eq_left h]

variable {bcd bcd' : Vector UInt8 (ogsMaxImsiBcdLen + 1)}

theorem storeAt_eq_ok {n : Nat} {a b : Vector UInt8 n} {i : Int} {octet : UInt8} :
    storeAt a i octet = .ok b ↔ ∃ h : 0 ≤ i ∧ i.toNat < n, a.set i.toNat octet h.2 = b := by
  unfold storeAt
  split_ifs with h
  · simp [h]
  · simp [h]

theorem loadAt_eq_ok {n : Nat} {a : Vector UInt8 n} {i : Int} {octet : UInt8} :
    loadAt a i = .ok octet ↔ ∃ h : 0 ≤ i ∧ i.toNat < n, a.get ⟨i.toNat, h.2⟩ = octet := by
  unfold loadAt
  split_ifs with h
  · simp [h]
  · simp [h]

/-- The array with all digits of the record -/
def filled (imsi : NasMobileIdentityImsi) (bcd : Vector UInt8 (ogsMaxImsiBcdLen + 1)) :
    Vector UInt8 (ogsMaxImsiBcdLen + 1) :=
  Vector.ofFn fun i => if i.val < 15 then 0x30 + imsi.digit (i.val + 1) else bcd[i]

theorem take_filled (imsi : NasMobileIdentityImsi)
    (bcd : Vector UInt8 (ogsMaxImsiBcdLen + 1)) {n : Nat} (h : n ≤ 15) :
    (imsi.filled bcd).toList.take n = (imsi.allDigits.take n).map (0x30 + ·) := by
  apply List.ext_getElem
  · rw [List.length_take, Vector.length_toList, List.length_map, List.length_take,
      length_allDigits, ogsMaxImsiBcdLen]
    omega
  · intro i hi hi'
    have hlt : i < 15 := by
      rw [List.length_take] at hi
      omega
    simp [filled, allDigits, hlt]

/-- The zero is written after the digits if there are one to eight octets, and else outside. -/
theorem imsiToBcd_eq_ok : imsi.imsiToBcd imsiLen bcd = .ok bcd' ↔
    1 ≤ imsiLen.toNat ∧ imsiLen.toNat ≤ 8 ∧
      ∃ h : imsi.count imsiLen < ogsMaxImsiBcdLen + 1,
        (imsi.filled bcd).set (imsi.count imsiLen) 0 h = bcd' := by
  unfold imsiToBcd count
  change (if imsi.oddEven = true then storeAt (imsi.filled bcd) _ _ else
    loadAt (imsi.filled bcd) _ >>= fun _ => storeAt (imsi.filled bcd) _ _) = _ ↔ _
  have hodd : ((imsiLen.toNat * 2 : Int) - 1).toNat = imsiLen.toNat * 2 - 1 := by omega
  have heven : ((imsiLen.toNat * 2 : Int) - 1 - 1).toNat = imsiLen.toNat * 2 - 2 := by omega
  split_ifs with hparity
  · simp only [storeAt_eq_ok, hodd]
    constructor
    · rintro ⟨⟨hle, hlt⟩, heq⟩
      have hlt' : imsiLen.toNat * 2 - 1 < 16 := hlt
      exact ⟨by omega, by omega, hlt', heq⟩
    · rintro ⟨hone, height, hlt, heq⟩
      exact ⟨⟨by omega, hlt⟩, heq⟩
  · simp only [Fallible.bind_eq_ok, storeAt_eq_ok, loadAt_eq_ok, hodd, heven]
    constructor
    · rintro ⟨-, ⟨⟨hle, hlt⟩, -⟩, ⟨⟨hle', hlt'⟩, heq⟩⟩
      have hlt : imsiLen.toNat * 2 - 1 < 16 := hlt
      exact ⟨by omega, by omega, hlt', heq⟩
    · rintro ⟨hone, height, hlt, heq⟩
      have hlt' : imsiLen.toNat * 2 - 1 < 16 := by omega
      exact ⟨_, ⟨⟨by omega, hlt'⟩, rfl⟩, ⟨⟨by omega, hlt⟩, heq⟩⟩

theorem count_le (imsi : NasMobileIdentityImsi) (h : imsiLen.toNat ≤ 8) :
    imsi.count imsiLen ≤ 15 := by
  unfold count
  split_ifs <;> omega

/-- The string is that of the digits. -/
theorem copy_imsiToBcd (h : imsi.imsiToBcd imsiLen bcd = .ok bcd') :
    (CString.copy bcd'.toList).octets = (imsi.digits imsiLen).map (0x30 + ·) := by
  obtain ⟨-, height, hlt, rfl⟩ := imsiToBcd_eq_ok.mp h
  have hcount := count_le imsi height
  have htake := take_filled imsi bcd hcount
  rw [Vector.toList_set, digits_eq_take hcount, ← htake]
  apply copy_set
  · rw [Vector.length_toList]
    exact hlt
  · rw [htake]
    intro octet hoctet
    obtain ⟨digit, hdigit, rfl⟩ := List.mem_map.mp hoctet
    obtain ⟨i, -, rfl⟩ := List.mem_map.mp (List.mem_of_mem_take hdigit)
    exact char_ne_zero (digit_lt _ _)

/-! ## The octets -/

theorem octet_of_chars (low high : UInt8) :
    (((0x30 + high) <<< 4) &&& 0xf0) ||| ((0x30 + low) &&& 0x0f) = Tbcd.octet low high := by
  have hlow : (0x30 + low) &&& 0x0f = low &&& 0x0f := by
    have hmask (n : Nat) : n &&& 15 = n % 16 := Nat.and_two_pow_sub_one_eq_mod n 4
    apply UInt8.toNat_inj.mp
    rw [UInt8.toNat_and, UInt8.toNat_and, UInt8.toNat_add]
    change (48 + low.toNat) % 256 &&& 15 = low.toNat &&& 15
    rw [hmask, hmask]
    omega
  have hhigh : (((0x30 + high) <<< 4) &&& 0xf0 : UInt8) = high <<< 4 := by
    have hall : ∀ n < 256, (((48 + n) % 256) <<< 4) % 256 &&& 240 = (n <<< 4) % 256 := by
      decide +kernel
    apply UInt8.toNat_inj.mp
    rw [UInt8.toNat_and, UInt8.toNat_shiftLeft, UInt8.toNat_shiftLeft, UInt8.toNat_add]
    exact hall _ high.toNat_lt
  rw [hlow, hhigh, Tbcd.octet]

/-- The octets of the record are packed without a filler. -/
def packed (imsi : NasMobileIdentityImsi) : Bytes :=
  (List.range 7).map (fun j => Tbcd.octet (imsi.digit (2 * j + 1)) (imsi.digit (2 * j + 2))) ++
    [Tbcd.octet (imsi.digit 15) 0]

theorem length_packed : imsi.packed.length = 8 := by
  rw [packed, List.length_append, List.length_map, List.length_range, List.length_singleton]

/-- What is written to the buffer. -/
theorem toList_buffer (imsi : NasMobileIdentityImsi) :
    (Vector.ofFn fun j : Fin ogsMaxImsiLen =>
      if j.val < 7 then
        (((0x30 + imsi.digit (2 * j.val + 2)) <<< 4) &&& 0xf0) |||
          ((0x30 + imsi.digit (2 * j.val + 1)) &&& 0x0f)
      else (0x30 + imsi.digit 15) &&& 0x0f).toList = imsi.packed := by
  have hlast : ((0x30 + imsi.digit 15) &&& 0x0f : UInt8) = Tbcd.octet (imsi.digit 15) 0 := by
    rw [← octet_of_chars]
    change _ = 0 ||| ((0x30 + imsi.digit 15) &&& 0x0f : UInt8)
    rw [UInt8.zero_or]
  simp only [octet_of_chars, hlast]
  rfl

theorem imsiToBuffer_eq_ok {buf : Vector UInt8 ogsMaxImsiLen} {bufLen : UInt8}
    (hlen : 1 ≤ imsiLen.toNat) (h : imsi.imsiToBuffer imsiLen = .ok (buf, bufLen)) :
    buf.toList = imsi.packed ∧
      bufLen.toNat = imsiLen.toNat - (if imsi.oddEven then 0 else 1) := by
  unfold imsiToBuffer at h
  simp only [] at h
  split_ifs at h with hodd
  · cases h
    exact ⟨toList_buffer imsi, by rw [if_pos hodd]; rfl⟩
  · obtain ⟨octet, -, h⟩ := Fallible.bind_eq_ok.mp h
    cases h
    refine ⟨toList_buffer imsi, ?_⟩
    rw [if_neg hodd, UInt8.toNat_sub_of_le]
    · rfl
    · exact hlen

theorem imsiToBuffer_of_le (imsi : NasMobileIdentityImsi) (hone : 1 ≤ imsiLen.toNat)
    (height : imsiLen.toNat ≤ 8) :
    ∃ buf bufLen, imsi.imsiToBuffer imsiLen = .ok (buf, bufLen) := by
  unfold imsiToBuffer
  simp only []
  split_ifs with hodd
  · exact ⟨_, _, rfl⟩
  · have hlen : (imsiLen - 1).toNat = imsiLen.toNat - 1 := UInt8.toNat_sub_of_le _ _ hone
    have hlt : ((imsiLen - 1).toNat : Int).toNat < ogsMaxImsiLen := by
      rw [Int.toNat_natCast, hlen, ogsMaxImsiLen]
      omega
    refine ⟨_, _, Fallible.bind_eq_ok.mpr ⟨_, loadAt_eq_ok.mpr ⟨⟨by omega, hlt⟩, rfl⟩, rfl⟩⟩

/-- The digits are packed to the octets of the record before the last one, and that one has the
filler after an odd digit. -/
theorem pack_digits (hone : 1 ≤ imsiLen.toNat) (height : imsiLen.toNat ≤ 8) :
    Tbcd.pack (imsi.digits imsiLen) = imsi.packed.take (imsiLen.toNat - 1) ++
      if imsi.oddEven then [Tbcd.octet (imsi.digit (2 * imsiLen.toNat - 1)) Tbcd.filler]
      else [] := by
  have hpack : (Tbcd.pack imsi.allDigits).take (imsiLen.toNat - 1) =
      imsi.packed.take (imsiLen.toNat - 1) := by
    have hseven : (Tbcd.pack imsi.allDigits).take 7 = imsi.packed.take 7 := rfl
    have hmin : imsiLen.toNat - 1 = min (imsiLen.toNat - 1) 7 := by omega
    rw [hmin, ← List.take_take, hseven, List.take_take]
  have hlength := length_allDigits imsi
  rw [digits_eq_take (count_le imsi height), count]
  split_ifs with hodd
  · have hcount : imsiLen.toNat * 2 - 1 = 2 * (imsiLen.toNat - 1) + 1 := by omega
    have hlt : 2 * (imsiLen.toNat - 1) < imsi.allDigits.length := by omega
    have hget : imsi.allDigits[2 * (imsiLen.toNat - 1)] = imsi.digit (2 * imsiLen.toNat - 1) := by
      simp only [allDigits, List.getElem_map, List.getElem_range]
      congr 1
      omega
    rw [hcount, Tbcd.pack_take_odd hlt, hpack, hget]
  · have hcount : imsiLen.toNat * 2 - 2 = 2 * (imsiLen.toNat - 1) := by omega
    rw [hcount, Tbcd.pack_take_even (by omega), hpack, List.append_nil]

/-- The last octet of an odd identity is packed if the filler is after its digit. -/
theorem take_packed_iff (hone : 1 ≤ imsiLen.toNat) (height : imsiLen.toNat ≤ 8) :
    imsi.packed.take (imsiLen.toNat - 1) ++
        [Tbcd.octet (imsi.digit (2 * imsiLen.toNat - 1)) Tbcd.filler] =
          imsi.packed.take imsiLen.toNat ↔
      imsiLen.toNat ≤ 7 ∧ imsi.digit (2 * imsiLen.toNat) = 0x0f := by
  generalize hm : imsiLen.toNat - 1 = m
  have hlen : imsiLen.toNat = m + 1 := by omega
  have hlt : m < imsi.packed.length := by
    rw [length_packed]
    omega
  rw [hlen, List.take_add_one, List.getElem?_eq_getElem hlt, Option.toList_some,
    List.append_cancel_left_eq, List.singleton_inj]
  have hlow : 2 * (m + 1) - 1 = 2 * m + 1 := by omega
  rw [hlow]
  by_cases hseven : m < 7
  · have hget : imsi.packed[m] = Tbcd.octet (imsi.digit (2 * m + 1)) (imsi.digit (2 * m + 2)) := by
      simp [packed, List.getElem_append_left, hseven]
    rw [hget, Tbcd.octet_eq_iff, ← UInt8.toNat_inj]
    have hdigit := digit_lt imsi (2 * m + 2)
    change 15 = _ ↔ m + 1 ≤ 7 ∧ (imsi.digit (2 * m + 2)).toNat = 15
    omega
  · obtain rfl : m = 7 := by omega
    have hget : imsi.packed[7] = Tbcd.octet (imsi.digit 15) 0 := rfl
    rw [hget, Tbcd.octet_eq_iff]
    simp [Tbcd.filler]

/-- The characters of the digits are packed as the digits. -/
theorem bcdToBuffer_copy [OgsBcd] (h : imsi.imsiToBcd imsiLen bcd = .ok bcd') :
    OgsBcd.bcdToBuffer (CString.copy bcd'.toList) = Tbcd.pack (imsi.digits imsiLen) := by
  have hchar (digit : UInt8) : 0x30 + digit - 0x30 = digit := by
    rw [add_comm, UInt8.add_sub_cancel]
  rw [OgsBcd.bcdToBuffer_eq, copy_imsiToBcd h, List.map_map]
  congr 1
  exact List.map_id'' hchar _

/-- An identity is converted to its digits and to their octets if it has up to eight octets, and
after an odd number of digits the filler. -/
theorem imsi_converts_iff [OgsBcd] (imsi : NasMobileIdentityImsi) (imsiLen : UInt8)
    (bcd : Vector UInt8 (ogsMaxImsiBcdLen + 1)) :
    imsi.Converts imsiLen bcd ↔ imsi.Fits imsiLen := by
  have hoctets {buf : Vector UInt8 ogsMaxImsiLen} {bufLen : UInt8} (hone : 1 ≤ imsiLen.toNat)
      (height : imsiLen.toNat ≤ 8) (hbuf : buf.toList = imsi.packed)
      (hbufLen : bufLen.toNat = imsiLen.toNat - if imsi.oddEven then 0 else 1) :
      Tbcd.pack (imsi.digits imsiLen) = buf.toList.take bufLen.toNat ↔
        (imsi.oddEven = true → imsiLen.toNat ≤ 7 ∧ imsi.digit (2 * imsiLen.toNat) = 0x0f) := by
    rw [pack_digits hone height, hbuf, hbufLen]
    split_ifs with hodd
    · rw [Nat.sub_zero, take_packed_iff hone height]
      exact ⟨fun h _ => h, fun h => h hodd⟩
    · simp [hodd]
  constructor
  · rintro ⟨bcd', buf, bufLen, hbcd, hbuffer, -, -, -, hpack⟩
    obtain ⟨hone, height, -⟩ := imsiToBcd_eq_ok.mp hbcd
    obtain ⟨hbuf, hbufLen⟩ := imsiToBuffer_eq_ok hone hbuffer
    rw [bcdToBuffer_copy hbcd, hoctets hone height hbuf hbufLen] at hpack
    exact ⟨hone, height, hpack⟩
  · rintro ⟨hone, height, hfiller⟩
    have hcount := count_le imsi height
    have hbcd : imsi.imsiToBcd imsiLen bcd = .ok _ :=
      imsiToBcd_eq_ok.mpr ⟨hone, height, Nat.lt_succ_of_le hcount, rfl⟩
    obtain ⟨buf, bufLen, hbuffer⟩ := imsiToBuffer_of_le imsi hone height
    obtain ⟨hbuf, hbufLen⟩ := imsiToBuffer_eq_ok hone hbuffer
    refine ⟨_, buf, bufLen, hbcd, hbuffer, ?_, copy_imsiToBcd hbcd, ?_, ?_⟩
    · rw [digits, List.length_map, List.length_range]
      exact hcount
    · rw [hbufLen, ogsMaxImsiLen]
      omega
    · rw [bcdToBuffer_copy hbcd, hoctets hone height hbuf hbufLen]
      exact hfiller

/-- An identity of fourteen digits is converted. -/
theorem imsi_converts_even :
    @Converts ⟨⟨⟨[0x01, 0x10, 0x10, 0x10, 0x32, 0x54, 0x76, 0xf8]⟩, rfl⟩⟩ OgsBcd.reference 8
      (Vector.replicate 16 0) :=
  (@imsi_converts_iff OgsBcd.reference _ _ _).mpr ⟨by decide, by decide, by decide⟩

/-- An identity without octets ends its string before the array. -/
theorem imsi_converts_empty : ¬@Converts ⟨Vector.replicate 8 0x09⟩ OgsBcd.reference 0
    (Vector.replicate 16 0) := by
  rintro ⟨bcd', buf, bufLen, hbcd, -⟩
  cases hbcd

end NasMobileIdentityImsi
end NextEpc

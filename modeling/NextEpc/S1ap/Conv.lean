import NextEpc.Gtp.Node

/-!
# S1AP conversions

eNB identities and transport layer addresses are BIT STRINGs in S1AP. An address is read into the
record that a bearer already has, the flags of which are set but never cleared.
-/

namespace NextEpc

/-- The places where the conversions assert. -/
inductive S1apConvSite
  | enbId
  | address
  deriving DecidableEq, Repr

abbrev S1apConvM := Fallible S1apConvSite

/-- `BIT_STRING_t`, which has `size` octets. -/
structure BitString where
  buf : Bytes
  bitsUnused : Nat
  deriving DecidableEq, Repr

/-- `S1AP_ENB_ID_PR` -/
inductive S1apEnbIdPr
  | nothing
  | macroEnbId
  | homeEnbId
  | shortMacroEnbId
  | longMacroEnbId
  deriving DecidableEq, Repr

/-- `S1AP_ENB_ID_t` -/
structure S1apEnbIdRecord where
  present : S1apEnbIdPr
  choice : BitString
  deriving DecidableEq, Repr

/-- A conversion in a program with more places -/
def S1apConvM.at {ι α : Type} (conv : S1apConvSite → ι) : S1apConvM α → Fallible ι α
  | .ok a => .ok a
  | .error (.assert site) => .error (.assert (conv site))
  | .error .outOfBounds => .error .outOfBounds
  | .error .dangling => .error .dangling

theorem S1apConvM.at_eq_ok {ι α : Type} {conv : S1apConvSite → ι} {x : S1apConvM α} {a : α} :
    x.at conv = .ok a ↔ x = .ok a := by
  match x with
  | .ok _ => simp [S1apConvM.at]
  | .error (.assert _) | .error .outOfBounds | .error .dangling => simp [S1apConvM.at]

/-! ## eNB identities -/

/-- `ogs_s1ap_uint32_to_ENB_ID` -/
def uint32ToEnbId (present : S1apEnbIdPr) (enbId : UInt32) : S1apConvM S1apEnbIdRecord :=
  match present with
  | .macroEnbId =>
    .ok ⟨present, [(enbId >>> 12).toUInt8, (enbId >>> 4).toUInt8, ((enbId &&& 0xf) <<< 4).toUInt8],
      4⟩
  | .homeEnbId =>
    .ok ⟨present, [(enbId >>> 20).toUInt8, (enbId >>> 12).toUInt8, (enbId >>> 4).toUInt8,
      ((enbId &&& 0xf) <<< 4).toUInt8], 4⟩
  | _ => .error (.assert .enbId)

/-- `ogs_s1ap_ENB_ID_to_uint32` -/
def enbIdToUint32 (enbId : S1apEnbIdRecord) : S1apConvM UInt32 :=
  match enbId.present, enbId.choice.buf with
  | .homeEnbId, b0 :: b1 :: b2 :: b3 :: _ =>
    .ok ((b0.toUInt32 <<< 20) + (b1.toUInt32 <<< 12) + (b2.toUInt32 <<< 4) +
      ((b3 &&& 0xf0) >>> 4).toUInt32)
  | .homeEnbId, _ => .error .outOfBounds
  | .macroEnbId, b0 :: b1 :: b2 :: _ =>
    .ok ((b0.toUInt32 <<< 12) + (b1.toUInt32 <<< 4) + ((b2 &&& 0xf0) >>> 4).toUInt32)
  | .macroEnbId, _ => .error .outOfBounds
  | _, _ => .error (.assert .enbId)

/-! ## Addresses -/

/-- `ogs_s1ap_ip_to_BIT_STRING` -/
def ipToBitString (ip : OgsIp) : S1apConvM BitString :=
  if ip.ipv4 && ip.ipv6 then .ok ⟨ip.addrs.addr.toList ++ ip.addrs.bothAddr6.toList, 0⟩
  else if ip.ipv4 then .ok ⟨ip.addrs.addr.toList, 0⟩
  else if ip.ipv6 then .ok ⟨ip.addrs.addr6.toList, 0⟩
  else .error (.assert .address)

/-- `ogs_s1ap_BIT_STRING_to_ip`, into the record `ip` -/
def bitStringToIp (bitString : BitString) (ip : OgsIp) : S1apConvM OgsIp :=
  if h : bitString.buf.length = 20 then
    let addr : Octets4 := ⟨(bitString.buf.take 4).toArray, by simp [h]⟩
    let addr6 : Octets16 := ⟨(bitString.buf.drop 4).toArray, by simp [h]⟩
    .ok { addrs := (ip.addrs.setAddr addr).setBothAddr6 addr6, len := ogsIpv4v6Len, ipv4 := true,
          ipv6 := true }
  else if h : bitString.buf.length = 4 then
    let addr : Octets4 := ⟨bitString.buf.toArray, by simp [h]⟩
    .ok { ip with addrs := ip.addrs.setAddr addr, len := ogsIpv4Len, ipv4 := true }
  else if h : bitString.buf.length = 16 then
    let addr6 : Octets16 := ⟨bitString.buf.toArray, by simp [h]⟩
    .ok { ip with addrs := ip.addrs.setAddr6 addr6, len := ogsIpv6Len, ipv6 := true }
  else .error (.assert .address)

/-! ## What should be read back -/

/-- An address of IPv4, of IPv6 or of both, and its length. -/
structure OgsIp.IsAddress (ip : OgsIp) : Prop where
  hasAddress : ip.ipv4 = true ∨ ip.ipv6 = true
  len : ip.len.toNat = ip.peer.octets.length

/-- The record has the address that the BIT STRING was built from: the same flags, the same
length and the same octets. -/
def ReadsBack (ip prev : OgsIp) : Prop :=
  ∃ bitString new, ipToBitString ip = .ok bitString ∧ bitStringToIp bitString prev = .ok new ∧
    new.ipv4 = ip.ipv4 ∧ new.ipv6 = ip.ipv6 ∧ new.len = ip.len ∧ new.peer = ip.peer

/-- An identity of so many bits is the one that is read back. -/
def EnbIdReadsBack (present : S1apEnbIdPr) (bits : Nat) : Prop :=
  ∀ enbId : UInt32, enbId.toNat < 2 ^ bits →
    ∃ id, uint32ToEnbId present enbId = .ok id ∧ enbIdToUint32 id = .ok enbId

/-! ## Shifts -/

theorem toNat_enbId_lastOctet (enbId : UInt32) :
    ((((enbId &&& 0xf) <<< 4).toUInt8 &&& 0xf0) >>> 4).toUInt32.toNat = enbId.toNat % 16 := by
  have hmask (n : Nat) : n &&& 15 = n % 16 := Nat.and_two_pow_sub_one_eq_mod n 4
  have hlast : (enbId &&& 0xf).toNat = enbId.toNat % 16 := by
    rw [UInt32.toNat_and]
    exact hmask _
  have hoctet : ((enbId &&& 0xf) <<< 4).toUInt8.toNat = enbId.toNat % 16 * 16 := by
    simp only [UInt32.toNat_toUInt8, UInt32.toNat_shiftLeft, hlast, UInt32.reduceToNat,
      Nat.reduceMod, Nat.shiftLeft_eq]
    omega
  simp only [UInt8.toNat_toUInt32, UInt8.toNat_shiftRight, UInt8.toNat_and, hoctet,
    UInt8.reduceToNat, Nat.reduceMod, Nat.shiftRight_and_distrib, Nat.reduceShiftRight, hmask]
  simp only [Nat.shiftRight_eq_div_pow]
  omega

theorem toNat_shifted (enbId : UInt32) {k : UInt32} (hk : k.toNat < 32) :
    ((enbId >>> k).toUInt8.toUInt32 <<< k).toNat =
      enbId.toNat / 2 ^ k.toNat % 2 ^ 8 * 2 ^ k.toNat % 2 ^ 32 := by
  simp only [UInt32.toNat_shiftLeft, UInt8.toNat_toUInt32, UInt32.toNat_toUInt8,
    UInt32.toNat_shiftRight, Nat.mod_eq_of_lt hk, Nat.shiftLeft_eq, Nat.shiftRight_eq_div_pow]

theorem macroEnbId_readsBack : EnbIdReadsBack .macroEnbId 20 := by
  intro enbId hlt
  refine ⟨_, rfl, congrArg Except.ok (UInt32.toNat_inj.mp ?_)⟩
  have h12 := toNat_shifted enbId (k := 12) (by decide)
  have h4 := toNat_shifted enbId (k := 4) (by decide)
  simp only [UInt32.toNat_add, toNat_enbId_lastOctet, h12, h4, UInt32.reduceToNat]
  omega

theorem homeEnbId_readsBack : EnbIdReadsBack .homeEnbId 28 := by
  intro enbId hlt
  refine ⟨_, rfl, congrArg Except.ok (UInt32.toNat_inj.mp ?_)⟩
  have h20 := toNat_shifted enbId (k := 20) (by decide)
  have h12 := toNat_shifted enbId (k := 12) (by decide)
  have h4 := toNat_shifted enbId (k := 4) (by decide)
  simp only [UInt32.toNat_add, toNat_enbId_lastOctet, h20, h12, h4, UInt32.reduceToNat]
  omega

/-! ## Reading into a record -/

section
variable (prev : OgsIp) (a : Octets4) (b : Octets16)

theorem bitStringToIp_ipv4v6 : bitStringToIp ⟨a.toList ++ b.toList, 0⟩ prev =
    .ok ⟨(prev.addrs.setAddr a).setBothAddr6 b, ogsIpv4v6Len, true, true⟩ := by
  have hlen : (a.toList ++ b.toList).length = 20 := by
    rw [List.length_append, a.length_toList, b.length_toList]
  have htake : (a.toList ++ b.toList).take 4 = a.toList := List.take_left' a.length_toList
  have hdrop : (a.toList ++ b.toList).drop 4 = b.toList := List.drop_left' a.length_toList
  rw [bitStringToIp, dif_pos hlen]
  simp only [htake, hdrop, Vector.toArray_toList, Vector.mk_toArray]

theorem bitStringToIp_ipv4 : bitStringToIp ⟨a.toList, 0⟩ prev =
    .ok { prev with addrs := prev.addrs.setAddr a, len := ogsIpv4Len, ipv4 := true } := by
  have hlen : a.toList.length = 4 := a.length_toList
  have hboth : a.toList.length ≠ 20 := by omega
  rw [bitStringToIp, dif_neg hboth, dif_pos hlen]
  simp only [Vector.toArray_toList, Vector.mk_toArray]

theorem bitStringToIp_ipv6 : bitStringToIp ⟨b.toList, 0⟩ prev =
    .ok { prev with addrs := prev.addrs.setAddr6 b, len := ogsIpv6Len, ipv6 := true } := by
  have hlen : b.toList.length = 16 := b.length_toList
  have hboth : b.toList.length ≠ 20 := by omega
  have h4 : b.toList.length ≠ 4 := by omega
  rw [bitStringToIp, dif_neg hboth, dif_neg h4, dif_pos hlen]
  simp only [Vector.toArray_toList, Vector.mk_toArray]

end

/-- The length of an address follows from its flags. -/
theorem OgsIp.IsAddress.len_eq {ip : OgsIp} (h : ip.IsAddress) : ip.len =
    if ip.ipv4 && ip.ipv6 then ogsIpv4v6Len else if ip.ipv4 then ogsIpv4Len else ogsIpv6Len := by
  apply UInt32.toNat_inj.mp
  rw [h.len]
  obtain ⟨addrs, len, ipv4, ipv6⟩ := ip
  have hhas := h.hasAddress
  cases ipv4 <;> cases ipv6 <;> simp_all [OgsIp.peer, PeerAddrs.ofUnion, PeerAddrs.octets] <;> rfl

/-- Only the flags may differ. -/
theorem readsBack_of_new {ip prev new : OgsIp} {bitString : BitString}
    (hbits : ipToBitString ip = .ok bitString) (hnew : bitStringToIp bitString prev = .ok new)
    (hlen : new.len = ip.len)
    (hpeer : new.ipv4 = ip.ipv4 → new.ipv6 = ip.ipv6 → new.peer = ip.peer) :
    ReadsBack ip prev ↔ new.ipv4 = ip.ipv4 ∧ new.ipv6 = ip.ipv6 := by
  constructor
  · rintro ⟨bitString', new', hbits', hnew', h4, h6, -⟩
    cases hbits.symm.trans hbits'
    cases hnew.symm.trans hnew'
    exact ⟨h4, h6⟩
  · rintro ⟨h4, h6⟩
    exact ⟨bitString, new, hbits, hnew, h4, h6, hlen, hpeer h4 h6⟩

/-- The flags that an address does not have are clear in the record before. -/
theorem readsBack_iff {ip prev : OgsIp} (hip : ip.IsAddress) : ReadsBack ip prev ↔
    (prev.ipv4 = true → ip.ipv4 = true) ∧ (prev.ipv6 = true → ip.ipv6 = true) := by
  have hlen := hip.len_eq
  have hhas := hip.hasAddress
  cases h4 : ip.ipv4 with
  | true =>
    cases h6 : ip.ipv6 with
    | true =>
      have hbits : ipToBitString ip =
          .ok ⟨ip.addrs.addr.toList ++ ip.addrs.bothAddr6.toList, 0⟩ := by
        simp [ipToBitString, h4, h6]
      rw [readsBack_of_new hbits (bitStringToIp_ipv4v6 _ _ _)]
      · simp [h4, h6]
      · simp [hlen, h4, h6]
      · simp [OgsIp.peer, PeerAddrs.ofUnion, h4, h6]
    | false =>
      have hbits : ipToBitString ip = .ok ⟨ip.addrs.addr.toList, 0⟩ := by
        simp [ipToBitString, h4, h6]
      rw [readsBack_of_new hbits (bitStringToIp_ipv4 _ _)]
      · simp [h4, h6]
      · simp [hlen, h4, h6]
      · intro _ hnew6
        have hold : prev.ipv6 = false := hnew6.trans h6
        simp [OgsIp.peer, PeerAddrs.ofUnion, h4, h6, hold]
  | false =>
    have h6 : ip.ipv6 = true := hhas.resolve_left (by simp [h4])
    have hbits : ipToBitString ip = .ok ⟨ip.addrs.addr6.toList, 0⟩ := by
      simp [ipToBitString, h4, h6]
    rw [readsBack_of_new hbits (bitStringToIp_ipv6 _ _)]
    · simp [h4, h6]
    · simp [hlen, h4, h6]
    · intro hnew4 _
      have hold : prev.ipv4 = false := hnew4.trans h4
      simp [OgsIp.peer, PeerAddrs.ofUnion, h4, h6, hold]

/-- Identities of macro and home eNBs are read back, and an address is read back if and only if
the record had no flag before that the address does not have. -/
theorem s1apConversions_iff (ip prev : OgsIp) (hip : ip.IsAddress) :
    EnbIdReadsBack .macroEnbId 20 ∧ EnbIdReadsBack .homeEnbId 28 ∧
      (ReadsBack ip prev ↔
        (prev.ipv4 = true → ip.ipv4 = true) ∧ (prev.ipv6 = true → ip.ipv6 = true)) :=
  ⟨macroEnbId_readsBack, homeEnbId_readsBack, readsBack_iff hip⟩

/-- An IPv4 address, and a record that has an IPv6 address. -/
def ipv4Enb : OgsIp := ⟨AddrUnion.zero.setAddr #v[10, 0, 0, 1], ogsIpv4Len, true, false⟩

def ipv6Enb : OgsIp := ⟨AddrUnion.zero.setAddr6 (Vector.replicate 16 0xfe), ogsIpv6Len, false, true⟩

theorem isAddress_ipv4Enb : ipv4Enb.IsAddress := ⟨by decide, by decide⟩

/-- The first address of a bearer. -/
theorem s1apConversions_unused : EnbIdReadsBack .macroEnbId 20 ∧ EnbIdReadsBack .homeEnbId 28 ∧
    ReadsBack ipv4Enb ⟨.zero, 0, false, false⟩ := by
  obtain ⟨hmacroEnb, hhome, hiff⟩ := s1apConversions_iff ipv4Enb ⟨.zero, 0, false, false⟩
    isAddress_ipv4Enb
  exact ⟨hmacroEnb, hhome, hiff.mpr (by decide)⟩

/-- A bearer moves from an eNB with an IPv6 address to one with an IPv4 address. -/
theorem s1apConversions_moved : ¬(EnbIdReadsBack .macroEnbId 20 ∧ EnbIdReadsBack .homeEnbId 28 ∧
    ∀ ip prev : OgsIp, ip.IsAddress → ReadsBack ip prev) := by
  rintro ⟨-, -, hclaim⟩
  have hback := (readsBack_iff isAddress_ipv4Enb).mp (hclaim ipv4Enb ipv6Enb isAddress_ipv4Enb)
  exact absurd (hback.2 rfl) (by decide)

end NextEpc

import NextEpc.Lib.OnesComplement
import NextEpc.Pgw.UeIp

/-!
# Router advertisements

`pgw_gtp_send_router_advertisement` answers the router solicitation of a UE. The pseudo-header for
the checksum is laid out where the IPv6 header is written afterwards. `in_cksum` adds the words of
the buffer as the machine reads them and folds the carries in at the end.
-/

namespace NextEpc
open Octets OnesComplement

/-- `OGS_IPV6_LEN` octets -/
abbrev In6Addr := Vector UInt8 16

/-- What is used of `pgw_dev_t`. -/
structure PgwDev where
  linkLocalAddr : Option In6Addr
  deriving DecidableEq, Repr

/-! ## The checksum -/

/-- The loop of `in_cksum` and the odd octet. -/
def cksumLoop (sum : UInt32) : Bytes → UInt32
  | x :: y :: data => cksumLoop (sum + UInt32.ofNat (x.toNat + y.toNat * 2 ^ 8)) data
  | [x] => sum + UInt32.ofNat x.toNat
  | [] => sum

/-- `in_cksum` -/
def inCksum (data : Bytes) : UInt16 :=
  let sum := cksumLoop 0 data
  let sum := (sum >>> 16) + (sum &&& 0xffff)
  let sum := sum + (sum >>> 16)
  (~~~sum).toUInt16

/-! ## The packet -/

/-- `fe80::1` -/
def srcIpsub : In6Addr := #v[0xfe, 0x80, 0, 0, 0, 0, 0, 0, 0, 0, 0, 0, 0, 0, 0, 1]

/-- `IPPROTO_ICMPV6` -/
def ipprotoIcmpv6 : UInt8 := 58

/-- `ND_ROUTER_ADVERT` -/
def ndRouterAdvert : UInt8 := 134

/-- `ND_OPT_PREFIX_INFORMATION` -/
def ndOptPrefixInformation : UInt8 := 3

/-- `ND_OPT_PI_FLAG_ONLINK|ND_OPT_PI_FLAG_AUTO` -/
def ndOptPiFlags : UInt8 := 0x80 ||| 0x40

/-- `sizeof(struct ip6_hdr)` -/
def ip6HdrLen : Nat := 40

/-- `sizeof(struct nd_router_advert)` -/
def ndRouterAdvertLen : Nat := 16

/-- `sizeof(struct nd_opt_prefix_info)` -/
def ndOptPrefixInfoLen : Nat := 32

/-- `memcpy` of the words of an address. -/
def PgwSubnet.subOctets (subnet : PgwSubnet) : Bytes := subnet.sub.toList.flatMap host32

/-- The ICMPv6 message, before the checksum. -/
def writeAdvert (subnet : PgwSubnet) (buf : Bytes) : Bytes :=
  let advertH := ip6HdrLen
  let prefixInfo := advertH + ndRouterAdvertLen
  let buf := store buf advertH [ndRouterAdvert]
  let buf := store buf (advertH + 1) [0]
  let buf := store buf (advertH + 4) [64]
  let buf := store buf (advertH + 5) [0]
  let buf := store buf (advertH + 6) (htons 64800)
  let buf := store buf (advertH + 8) (List.replicate 4 0)
  let buf := store buf (advertH + 12) (List.replicate 4 0)
  let buf := store buf prefixInfo [ndOptPrefixInformation]
  let buf := store buf (prefixInfo + 1) [4]
  let buf := store buf (prefixInfo + 2) [subnet.prefixlen]
  let buf := store buf (prefixInfo + 3) [ndOptPiFlags]
  let buf := store buf (prefixInfo + 4) (htonl 0xffffffff).toList
  let buf := store buf (prefixInfo + 8) (htonl 0xffffffff).toList
  store buf (prefixInfo + 16) subnet.subOctets

/-- `htons(sizeof *advert_h + sizeof *prefix)` -/
def advertPlen : Bytes := htons (ndRouterAdvertLen + ndOptPrefixInfoLen)

/-- The pseudo-header, at the start of the buffer. -/
def writePseudoHeader (src dst : In6Addr) (buf : Bytes) : Bytes :=
  let buf := store buf 0 src.toList
  let buf := store buf 16 dst.toList
  let buf := store buf 34 advertPlen
  store buf 39 [ipprotoIcmpv6]

/-- The IPv6 header, at the same place. -/
def writeIp6Hdr (src dst : In6Addr) (buf : Bytes) : Bytes :=
  let buf := store buf 0 (htonl 0x60000001).toList
  let buf := store buf 4 advertPlen
  let buf := store buf 6 [ipprotoIcmpv6]
  let buf := store buf 7 [0xff]
  let buf := store buf 8 src.toList
  store buf 24 dst.toList

/-- The packet that `pgw_gtp_send_router_advertisement` hands to `pgw_gtp_send_to_bearer`. -/
def routerAdvertisement (subnet : PgwSubnet) (dev : PgwDev) (ip6Dst : In6Addr) : Bytes :=
  let src := dev.linkLocalAddr.getD srcIpsub
  let buf := List.replicate (ip6HdrLen + ndRouterAdvertLen + ndOptPrefixInfoLen) 0
  let buf := writeAdvert subnet buf
  let buf := writePseudoHeader src ip6Dst buf
  let buf := store buf (ip6HdrLen + 2) (host16 (inCksum buf))
  writeIp6Hdr src ip6Dst buf

/-! ## Verification by the receiver -/

/-- The pseudo-header of an IPv6 packet: the addresses, the length of what follows the header in 32
bits, and the next header. -/
def pseudoHeader (packet : Bytes) : Bytes :=
  (packet.drop 8).take 32 ++ ([0, 0] ++ (packet.drop 4).take 2) ++
    ([0, 0, 0] ++ (packet.drop 6).take 1)

/-- The sum over the pseudo-header and the message is all ones. -/
def Icmpv6Verifies (packet : Bytes) : Prop :=
  sum (netWords (pseudoHeader packet ++ packet.drop ip6HdrLen)) = 0xffff

instance (packet : Bytes) : Decidable (Icmpv6Verifies packet) :=
  inferInstanceAs (Decidable (_ = _))

/-- The payload length is the number of octets behind the IPv6 header. -/
def PayloadLengthMatches (packet : Bytes) : Prop :=
  value ((packet.drop 4).take 2) = (packet.drop ip6HdrLen).length

instance (packet : Bytes) : Decidable (PayloadLengthMatches packet) :=
  inferInstanceAs (Decidable (_ = _))

/-! ## The sum -/

variable {data : Bytes} {acc : UInt32}

theorem toNat_cksumLoop (h : acc.toNat + total (words data) < 2 ^ 32) :
    (cksumLoop acc data).toNat = acc.toNat + total (words data) := by
  induction data using words.induct generalizing acc with
  | case1 x y data ih =>
    have hx := x.toNat_lt
    have hy := y.toNat_lt
    rw [words, total_cons, UInt16.toNat_ofNat', Nat.mod_eq_of_lt (by omega)] at h
    have hadd : (acc + UInt32.ofNat (x.toNat + y.toNat * 2 ^ 8)).toNat =
        acc.toNat + (x.toNat + y.toNat * 2 ^ 8) := by
      rw [UInt32.toNat_add, UInt32.toNat_ofNat']
      omega
    rw [cksumLoop, ih (by omega), hadd, words, total_cons, UInt16.toNat_ofNat',
      Nat.mod_eq_of_lt (by omega)]
    omega
  | case2 x =>
    have hx := x.toNat_lt
    rw [words, total_cons, total_nil, UInt16.toNat_ofNat', Nat.mod_eq_of_lt (by omega)] at h
    rw [cksumLoop, words, total_cons, total_nil, UInt32.toNat_add, UInt32.toNat_ofNat',
      UInt16.toNat_ofNat']
    omega
  | case3 => rfl

/-- Two folds bring every carry into the low half. -/
theorem rep_fold {hi lo : Nat} (hhi : hi < 2 ^ 16) (hlo : lo < 2 ^ 16) :
    (hi + lo + (hi + lo) / 2 ^ 16) % 2 ^ 16 = rep (hi * 2 ^ 16 + lo) := by
  rcases Nat.eq_zero_or_pos (hi + lo) with hzero | hpos
  · have hhi0 : hi = 0 := by omega
    have hlo0 : lo = 0 := by omega
    rw [hhi0, hlo0]
    rfl
  · have hmul : hi * 2 ^ 16 + lo - 1 = (2 ^ 16 - 1) * hi + (hi + lo - 1) := by omega
    rw [rep, if_neg (by omega), hmul, Nat.mul_add_mod]
    rcases Nat.lt_or_ge (hi + lo) (2 ^ 16) with hlt | hge
    · rw [Nat.div_eq_of_lt hlt]
      omega
    · have hcarry : (hi + lo) / 2 ^ 16 = 1 := by omega
      rw [hcarry]
      omega

theorem toNat_fold (sum folded : UInt32) (hfolded : folded = (sum >>> 16) + (sum &&& 0xffff)) :
    (~~~(folded + folded >>> 16)).toUInt16.toNat = 2 ^ 16 - 1 - rep sum.toNat := by
  have hsum := sum.toNat_lt
  have hhigh : (sum >>> 16).toNat = sum.toNat / 2 ^ 16 := by
    rw [UInt32.toNat_shiftRight]
    exact Nat.shiftRight_eq_div_pow ..
  have hlow : (sum &&& 0xffff).toNat = sum.toNat % 2 ^ 16 := by
    rw [UInt32.toNat_and]
    exact Nat.and_two_pow_sub_one_eq_mod sum.toNat 16
  have hfirst : folded.toNat = sum.toNat / 2 ^ 16 + sum.toNat % 2 ^ 16 := by
    rw [hfolded, UInt32.toNat_add, hhigh, hlow]
    omega
  have hcarry : (folded >>> 16).toNat = folded.toNat / 2 ^ 16 := by
    rw [UInt32.toNat_shiftRight]
    exact Nat.shiftRight_eq_div_pow ..
  have hsecond : (folded + folded >>> 16).toNat = folded.toNat + folded.toNat / 2 ^ 16 := by
    rw [UInt32.toNat_add, hcarry]
    omega
  have hhi : sum.toNat / 2 ^ 16 < 2 ^ 16 := by omega
  have hlo : sum.toNat % 2 ^ 16 < 2 ^ 16 := by omega
  have hrep := rep_fold hhi hlo
  have hsplit : sum.toNat / 2 ^ 16 * 2 ^ 16 + sum.toNat % 2 ^ 16 = sum.toNat := by omega
  rw [← hfirst, hsplit] at hrep
  rw [UInt32.toNat_toUInt16, UInt32.toNat_not, hsecond, ← hrep, UInt32.size]
  omega

/-- `in_cksum` is the complement of the sum, and what it stores is the complement of the sum in
network order. -/
theorem inCksum_eq (h : data.length ≤ 65535) :
    inCksum data = ~~~sum (words data) ∧
      host16 (inCksum data) = htons (~~~sum (netWords data)).toNat := by
  have hle := total_words_le data
  have hbound : total (words data) < 2 ^ 32 := by omega
  have hloop : (cksumLoop 0 data).toNat = total (words data) := by
    rw [toNat_cksumLoop (by rw [UInt32.toNat_zero]; omega), UInt32.toNat_zero, Nat.zero_add]
  have heq : inCksum data = ~~~sum (words data) := by
    apply UInt16.toNat_inj.mp
    rw [inCksum, toNat_fold _ _ rfl, hloop, UInt16.toNat_not, toNat_sum]
    rfl
  refine ⟨heq, ?_⟩
  have hswap : swap16 (swap16 (sum (words data))) = sum (words data) := by
    obtain ⟨x, y, hx, hy, hxy⟩ := exists_octets16 (sum (words data))
    have hturned := toNat_swap16_of hx hy hxy
    exact UInt16.toNat_inj.mp (by rw [toNat_swap16_of hy hx hturned, hxy])
  rw [heq, sum_netWords, htons, ← host16_swap16, swap16_not, hswap]

/-! ## The layout of the packet -/

variable (subnet : PgwSubnet) (dev : PgwDev) (src dst : In6Addr)

theorem PgwSubnet.length_subOctets : subnet.subOctets.length = 16 := by
  have hwords : subnet.sub.toList.map (fun a => (host32 a).length) = List.replicate 4 4 := by
    rw [List.eq_replicate_iff]
    simp [host32]
  rw [PgwSubnet.subOctets, List.length_flatMap, hwords]
  rfl

/-- What follows the checksum in the message. -/
def advertRest : Bytes :=
  [64, 0, 0xfd, 0x20, 0, 0, 0, 0, 0, 0, 0, 0, 3, 4, subnet.prefixlen, 0xc0, 0xff, 0xff, 0xff, 0xff,
    0xff, 0xff, 0xff, 0xff, 0, 0, 0, 0] ++ subnet.subOctets

theorem length_advertRest : (advertRest subnet).length = 44 := by
  rw [advertRest, List.length_append, subnet.length_subOctets]
  rfl

set_option maxRecDepth 4000 in
theorem writeAdvert_eq :
    writeAdvert subnet (List.replicate (ip6HdrLen + ndRouterAdvertLen + ndOptPrefixInfoLen) 0) =
      List.replicate 40 0 ++ ([134, 0] ++ (host16 0 ++ advertRest subnet)) := by
  let fixed : Bytes := List.replicate 40 0 ++
    [134, 0, 0, 0, 64, 0, 0xfd, 0x20, 0, 0, 0, 0, 0, 0, 0, 0, 3, 4, subnet.prefixlen,
      0xc0, 0xff, 0xff, 0xff, 0xff, 0xff, 0xff, 0xff, 0xff, 0, 0, 0, 0]
  have hfixed : writeAdvert subnet
      (List.replicate (ip6HdrLen + ndRouterAdvertLen + ndOptPrefixInfoLen) 0) =
        store (fixed ++ List.replicate 16 0) 72 subnet.subOctets := rfl
  have hlen : subnet.subOctets.length = (List.replicate 16 (0 : UInt8)).length := by
    rw [subnet.length_subOctets, List.length_replicate]
  have hright : fixed.length ≤ 72 := le_rfl
  rw [hfixed, store_append_right hright]
  have hzero : 72 - fixed.length = 0 := rfl
  rw [hzero, store_all hlen]
  rfl

theorem writePseudoHeader_eq (message : Bytes) :
    writePseudoHeader src dst (List.replicate 40 0 ++ message) =
      src.toList ++ (dst.toList ++ ([0, 0, 0, 48, 0, 0, 0, 58] ++ message)) := by
  have hsrc : src.toList.length = 16 := src.length_toList
  have hdst : dst.toList.length = 16 := dst.length_toList
  have hparts : List.replicate 40 0 ++ message = List.replicate 16 0 ++
      (List.replicate 16 0 ++ (List.replicate 8 0 ++ message)) := rfl
  have hfirst (rest : Bytes) (addr : In6Addr) :
      store (List.replicate 16 0 ++ rest) 0 addr.toList = addr.toList ++ rest := by
    have hlen : addr.toList.length = (List.replicate 16 (0 : UInt8)).length := addr.length_toList
    rw [store_append_left (by rw [hlen, Nat.zero_add]), store_all hlen]
  have hskip (rest octets : Bytes) (addr : In6Addr) (off : Nat) (hoff : 16 ≤ off) :
      store (addr.toList ++ rest) off octets = addr.toList ++ store rest (off - 16) octets := by
    have hlen : addr.toList.length = 16 := addr.length_toList
    rw [store_append_right (by rw [hlen]; exact hoff), hlen]
  have hzeros : store (store (List.replicate 8 0 ++ message) 2 advertPlen) 7 [ipprotoIcmpv6] =
      [0, 0, 0, 48, 0, 0, 0, 58] ++ message := rfl
  rw [writePseudoHeader, hparts, hfirst, hskip _ _ _ _ (by decide), hfirst,
    hskip _ _ _ _ (by decide), hskip _ _ _ _ (by decide), hskip _ _ _ _ (by decide),
    hskip _ _ _ _ (by decide)]
  exact congrArg (fun b => src.toList ++ (dst.toList ++ b)) hzeros

/-- The IPv6 header takes the place of whatever was there. -/
theorem writeIp6Hdr_eq (buf : Bytes) : writeIp6Hdr src dst buf =
    [0x60, 0, 0, 1, 0, 48, 58, 0xff] ++ (src.toList ++ (dst.toList ++ buf.drop 40)) := by
  have hsrc : src.toList.length = 16 := src.length_toList
  have hdst : dst.toList.length = 16 := dst.length_toList
  rw [writeIp6Hdr, store_store (Nat.zero_le _) (by rfl), store_store (Nat.zero_le _) (by rfl),
    store_store (Nat.zero_le _) (by rfl), store_store (Nat.zero_le _) (by rfl),
    store_store (Nat.zero_le _) (by rw [List.length_append, hsrc]; rfl), store, List.take_zero,
    List.nil_append, List.length_append, List.length_append, hsrc, hdst]
  simp only [List.append_assoc]
  rfl

/-- The checksum is taken over the pseudo-header and the message with zero in its place. -/
def cksumInput : Bytes :=
  src.toList ++ (dst.toList ++ ([0, 0, 0, 48, 0, 0, 0, 58] ++ ([134, 0] ++
    (host16 0 ++ advertRest subnet))))

theorem routerAdvertisement_eq (hsrc : src = dev.linkLocalAddr.getD srcIpsub) :
    routerAdvertisement subnet dev dst =
      [0x60, 0, 0, 1, 0, 48, 58, 0xff] ++ (src.toList ++ (dst.toList ++ ([134, 0] ++
        (host16 (inCksum (cksumInput subnet src dst)) ++ advertRest subnet)))) := by
  have hsrclen : src.toList.length = 16 := src.length_toList
  have hdstlen : dst.toList.length = 16 := dst.length_toList
  let pseudo := src.toList ++ (dst.toList ++ [0, 0, 0, 48, 0, 0, 0, 58])
  have hpseudo : pseudo.length = 40 := by
    rw [List.length_append, List.length_append, hsrclen, hdstlen]
    rfl
  have hbuf : writePseudoHeader src dst (writeAdvert subnet
      (List.replicate (ip6HdrLen + ndRouterAdvertLen + ndOptPrefixInfoLen) 0)) =
        cksumInput subnet src dst := by
    rw [writeAdvert_eq, writePseudoHeader_eq]
    rfl
  have hinput : cksumInput subnet src dst =
      pseudo ++ ([134, 0] ++ (host16 0 ++ advertRest subnet)) := by
    simp only [cksumInput, pseudo, List.append_assoc]
  have hstored (cksum : UInt16) :
      store (cksumInput subnet src dst) (ip6HdrLen + 2) (host16 cksum) =
        pseudo ++ ([134, 0] ++ (host16 cksum ++ advertRest subnet)) := by
    rw [hinput, store_append_right (by rw [hpseudo]; decide), hpseudo]
    rfl
  rw [routerAdvertisement, ← hsrc, hbuf, hstored, writeIp6Hdr_eq, List.drop_left' hpseudo]

section
variable {addrs message : Bytes} (haddrs : addrs.length = 32)
include haddrs

theorem pseudoHeader_of_parts :
    pseudoHeader ([0x60, 0, 0, 1, 0, 48, 58, 0xff] ++ (addrs ++ message)) =
      addrs ++ [0, 0, 0, 48, 0, 0, 0, 58] := by
  have htake : (addrs ++ message).take 32 = addrs := List.take_left' haddrs
  have hparts : pseudoHeader ([0x60, 0, 0, 1, 0, 48, 58, 0xff] ++ (addrs ++ message)) =
      (addrs ++ message).take 32 ++ [0, 0, 0, 48] ++ [0, 0, 0, 58] := rfl
  rw [hparts, htake, List.append_assoc]
  rfl

theorem drop_ip6Hdr_of_parts :
    ([0x60, 0, 0, 1, 0, 48, 58, 0xff] ++ (addrs ++ message)).drop ip6HdrLen = message := by
  rw [← List.append_assoc]
  exact List.drop_left' (by rw [List.length_append, haddrs]; rfl)

end

/-- The packet passes the verification of its checksum, and its payload length is right. -/
theorem routerAdvertisement_verifies :
    Icmpv6Verifies (routerAdvertisement subnet dev dst) ∧
      PayloadLengthMatches (routerAdvertisement subnet dev dst) := by
  obtain ⟨src, hsrc⟩ : ∃ src, src = dev.linkLocalAddr.getD srcIpsub := ⟨_, rfl⟩
  obtain ⟨addrs, haddrs⟩ : ∃ addrs, addrs = src.toList ++ dst.toList := ⟨_, rfl⟩
  obtain ⟨cksum, hcksum⟩ : ∃ cksum, cksum = inCksum (cksumInput subnet src dst) := ⟨_, rfl⟩
  obtain ⟨message, hmessage⟩ :
      ∃ message, message = [134, 0] ++ (host16 cksum ++ advertRest subnet) := ⟨_, rfl⟩
  obtain ⟨before, hbefore⟩ :
      ∃ before, before = addrs ++ ([0, 0, 0, 48, 0, 0, 0, 58] ++ [134, 0]) := ⟨_, rfl⟩
  have haddrslen : addrs.length = 32 := by
    rw [haddrs, List.length_append, src.length_toList, dst.length_toList]
  have hmessagelen : message.length = 48 := by
    rw [hmessage, List.length_append, List.length_append, length_advertRest]
    rfl
  have hbeforelen : before.length = 42 := by
    rw [hbefore, List.length_append, haddrslen]
    rfl
  have hpacket : routerAdvertisement subnet dev dst =
      [0x60, 0, 0, 1, 0, 48, 58, 0xff] ++ (addrs ++ message) := by
    rw [routerAdvertisement_eq subnet dev src dst hsrc, ← hcksum, ← hmessage, haddrs,
      List.append_assoc src.toList]
  have hinput : cksumInput subnet src dst = before ++ (host16 0 ++ advertRest subnet) := by
    simp only [cksumInput, hbefore, haddrs, List.append_assoc]
  rw [Icmpv6Verifies, PayloadLengthMatches, hpacket, pseudoHeader_of_parts haddrslen,
    drop_ip6Hdr_of_parts haddrslen, hmessagelen]
  refine ⟨?_, rfl⟩
  have hlen : (before ++ (host16 0 ++ advertRest subnet)).length ≤ 65535 := by
    rw [List.length_append, List.length_append, hbeforelen, length_advertRest]
    decide
  rw [hinput, (inCksum_eq hlen).1] at hcksum
  have hones := sum_netWords_of_complement (by rw [hbeforelen]) hcksum
  rw [hbefore] at hones
  simp only [List.append_assoc] at hones
  rw [hmessage, List.append_assoc]
  exact hones

end NextEpc

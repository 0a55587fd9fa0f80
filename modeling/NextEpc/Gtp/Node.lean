import NextEpc.Lib.Fallible
import NextEpc.Lib.Octets

/-!
# GTP peers

A peer is known by the addresses of its F-TEID. F-TEIDs and `ogs_ip_t` keep an IPv4 address, an
IPv6 address or both in one union of three layouts. `ogs_gtp_node_find` compares as many octets of
the unions as the addresses that it looks for have, so that the address of one layout may coincide
with the beginning of another.
-/

namespace NextEpc
open Octets

/-- The places where the lookup of peers asserts. -/
inductive GtpNodeSite
  | fTeid
  | filter
  deriving DecidableEq, Repr

abbrev GtpNodeM := Fallible GtpNodeSite

/-- The union of `addr`, `addr6` and `both`, with its 20 octets. -/
structure AddrUnion where
  octets : Bytes
  length_octets : octets.length = 20

namespace AddrUnion
variable (u : AddrUnion)

/-- `memset` -/
def zero : AddrUnion := ⟨List.replicate 20 0, List.length_replicate⟩

/-- `addr`, which `both.addr` coincides with. -/
def addr : Octets4 :=
  ⟨(u.octets.take 4).toArray, by rw [List.size_toArray, List.length_take, u.length_octets]; rfl⟩

def addr6 : Octets16 :=
  ⟨(u.octets.take 16).toArray, by rw [List.size_toArray, List.length_take, u.length_octets]; rfl⟩

/-- `both.addr6` -/
def bothAddr6 : Octets16 :=
  ⟨(u.octets.drop 4).toArray, by rw [List.size_toArray, List.length_drop, u.length_octets]⟩

theorem length_store {off : Nat} {data : Bytes} (h : off + data.length ≤ 20) :
    (store u.octets off data).length = 20 := by
  have hlen := u.length_octets
  rw [store, List.length_append, List.length_append, List.length_take, List.length_drop]
  omega

def setAddr (a : Octets4) : AddrUnion :=
  ⟨store u.octets 0 a.toList, u.length_store (by rw [a.length_toList]; decide)⟩

def setAddr6 (a : Octets16) : AddrUnion :=
  ⟨store u.octets 0 a.toList, u.length_store (by rw [a.length_toList]; decide)⟩

def setBothAddr6 (a : Octets16) : AddrUnion :=
  ⟨store u.octets 4 a.toList, u.length_store (by rw [a.length_toList])⟩

end AddrUnion

/-- `ogs_gtp_f_teid_t` -/
structure FTeid where
  ipv4 : Bool
  ipv6 : Bool
  interfaceType : UInt8
  teid : UInt32
  addrs : AddrUnion

/-- `ogs_ip_t`, the union of which is its first member. -/
structure OgsIp where
  addrs : AddrUnion
  len : UInt32
  ipv4 : Bool
  ipv6 : Bool

/-- `OGS_IPV4_LEN` -/
def ogsIpv4Len : UInt32 := 4

/-- `OGS_IPV6_LEN` -/
def ogsIpv6Len : UInt32 := 16

/-- `OGS_IPV4V6_LEN` -/
def ogsIpv4v6Len : UInt32 := 20

/-- `OGS_GTP_F_TEID_HDR_LEN` -/
def ogsGtpFTeidHdrLen : UInt32 := 5

/-- `ogs_gtp_f_teid_to_ip` -/
def fTeidToIp (fTeid : FTeid) : GtpNodeM OgsIp :=
  let ip : OgsIp := ⟨.zero, 0, fTeid.ipv4, fTeid.ipv6⟩
  if ip.ipv4 && ip.ipv6 then
    let addrs := (ip.addrs.setAddr fTeid.addrs.addr).setBothAddr6 fTeid.addrs.bothAddr6
    .ok { ip with addrs := addrs, len := ogsIpv4v6Len }
  else if ip.ipv4 then
    .ok { ip with addrs := ip.addrs.setAddr fTeid.addrs.addr, len := ogsIpv4Len }
  else if ip.ipv6 then
    .ok { ip with addrs := ip.addrs.setAddr6 fTeid.addrs.addr6, len := ogsIpv6Len }
  else .error (.assert .fTeid)

/-- `ogs_gtp_ip_to_f_teid`, with the length -/
def ipToFTeid (ip : OgsIp) (fTeid : FTeid) : GtpNodeM (FTeid × UInt32) :=
  let fTeid := { fTeid with ipv4 := ip.ipv4, ipv6 := ip.ipv6 }
  if fTeid.ipv4 && fTeid.ipv6 then
    let addrs := (fTeid.addrs.setAddr ip.addrs.addr).setBothAddr6 ip.addrs.bothAddr6
    .ok ({ fTeid with addrs := addrs }, ogsIpv4v6Len + ogsGtpFTeidHdrLen)
  else if fTeid.ipv4 then
    .ok ({ fTeid with addrs := fTeid.addrs.setAddr ip.addrs.addr }, ogsIpv4Len + ogsGtpFTeidHdrLen)
  else if fTeid.ipv6 then
    .ok ({ fTeid with addrs := fTeid.addrs.setAddr6 ip.addrs.addr6 },
      ogsIpv6Len + ogsGtpFTeidHdrLen)
  else .error (.assert .fTeid)

/-- The octets of an `ogs_ip_t` in memory. -/
def OgsIp.octets (ip : OgsIp) : Bytes :=
  ip.addrs.octets ++ host32 ip.len ++ [ip.ipv4.toUInt8 + 2 * ip.ipv6.toUInt8]

/-- `memcmp(&node->ip, &ip, ip.len) == 0` -/
def OgsIp.coincides (ip node : OgsIp) : Bool :=
  node.octets.take ip.len.toNat == ip.octets.take ip.len.toNat

/-- `ogs_gtp_node_add`, on the addresses of the nodes in the list. An F-TEID is usable if
`ogs_filter_ip_version` leaves an address. -/
def nodeAdd (usable : FTeid → Bool) (list : List OgsIp) (fTeid : FTeid) : GtpNodeM (List OgsIp) := do
  Fallible.assert .fTeid (fTeid.ipv4 = true ∨ fTeid.ipv6 = true)
  Fallible.assert .filter (usable fTeid = true)
  let ip ← fTeidToIp fTeid
  .ok (list ++ [ip])

/-- `ogs_gtp_node_find`, which returns the place of the node in the list. -/
def nodeFind (list : List OgsIp) (fTeid : FTeid) : GtpNodeM (Option Nat) := do
  let ip ← fTeidToIp fTeid
  .ok (list.findIdx? ip.coincides)

/-! ## Sets of addresses -/

/-- The addresses of a peer. -/
structure PeerAddrs where
  ipv4 : Option Octets4
  ipv6 : Option Octets16
  deriving DecidableEq

namespace PeerAddrs

/-- The octets of the addresses, that of IPv4 first. -/
def octets (a : PeerAddrs) : Bytes :=
  (a.ipv4.map Vector.toList).getD [] ++ (a.ipv6.map Vector.toList).getD []

/-- The addresses that a union holds for two flags. -/
def ofUnion (ipv4 ipv6 : Bool) (u : AddrUnion) : PeerAddrs where
  ipv4 := if ipv4 then some u.addr else none
  ipv6 := if ipv6 then some (if ipv4 then u.bothAddr6 else u.addr6) else none

/-- The addresses begin those of the other, which are followed by zeros. -/
def begins (a b : PeerAddrs) : Bool := a.octets.isPrefixOf (b.octets ++ List.replicate 20 0)

end PeerAddrs

def FTeid.peer (fTeid : FTeid) : PeerAddrs := .ofUnion fTeid.ipv4 fTeid.ipv6 fTeid.addrs

def OgsIp.peer (ip : OgsIp) : PeerAddrs := .ofUnion ip.ipv4 ip.ipv6 ip.addrs

def FTeid.HasAddress (fTeid : FTeid) : Prop := fTeid.ipv4 = true ∨ fTeid.ipv6 = true

/-! ## Reading back -/

namespace AddrUnion
variable (u : AddrUnion) (a : Octets4) (b : Octets16)

theorem octets_setAddr : (u.setAddr a).octets = a.toList ++ u.octets.drop 4 := by
  change store u.octets 0 a.toList = _
  rw [store, List.take_zero, List.nil_append, a.length_toList]

theorem octets_setAddr6 : (u.setAddr6 b).octets = b.toList ++ u.octets.drop 16 := by
  change store u.octets 0 b.toList = _
  rw [store, List.take_zero, List.nil_append, b.length_toList]

theorem octets_setBothAddr6 : (u.setBothAddr6 b).octets = u.octets.take 4 ++ b.toList := by
  have hend : u.octets.drop (4 + 16) = [] := List.drop_of_length_le u.length_octets.le
  change store u.octets 4 b.toList = _
  rw [store, b.length_toList, hend, List.append_nil]

@[simp] theorem addr_setAddr : (u.setAddr a).addr = a := by
  apply Vector.toList_inj.mp
  have htake : (a.toList ++ u.octets.drop 4).take 4 = a.toList := List.take_left' a.length_toList
  simp only [addr, Vector.toList_mk, octets_setAddr, htake]

@[simp] theorem addr6_setAddr6 : (u.setAddr6 b).addr6 = b := by
  apply Vector.toList_inj.mp
  have htake : (b.toList ++ u.octets.drop 16).take 16 = b.toList := List.take_left' b.length_toList
  simp only [addr6, Vector.toList_mk, octets_setAddr6, htake]

@[simp] theorem bothAddr6_setBothAddr6 : (u.setBothAddr6 b).bothAddr6 = b := by
  have hlen : (u.octets.take 4).length = 4 := by
    rw [List.length_take, u.length_octets]
    rfl
  apply Vector.toList_inj.mp
  have hdrop : (u.octets.take 4 ++ b.toList).drop 4 = b.toList := List.drop_left' hlen
  simp only [bothAddr6, Vector.toList_mk, octets_setBothAddr6, hdrop]

@[simp] theorem addr_setBothAddr6 : (u.setBothAddr6 b).addr = u.addr := by
  have hlen : (u.octets.take 4).length = 4 := by
    rw [List.length_take, u.length_octets]
    rfl
  apply Vector.toList_inj.mp
  have htake : (u.octets.take 4 ++ b.toList).take 4 = u.octets.take 4 := List.take_left' hlen
  simp only [addr, Vector.toList_mk, octets_setBothAddr6, htake]

theorem octets_eq_addr_append : u.octets = u.addr.toList ++ u.bothAddr6.toList := by
  simp only [addr, bothAddr6, Vector.toList_mk, List.take_append_drop]

end AddrUnion

variable {fTeid other : FTeid} {ip node : OgsIp} {list nodes : List OgsIp} {fTeids : List FTeid}
  {usable : FTeid → Bool}

/-- An `ogs_ip_t` that was made from an F-TEID: the length is that of the addresses, which zeros
follow in the union. -/
structure OgsIp.Represents (ip : OgsIp) (peer : PeerAddrs) : Prop where
  peer_eq : ip.peer = peer
  len : ip.len.toNat = peer.octets.length
  len_le : peer.octets.length ≤ 20
  octets : ip.addrs.octets = peer.octets ++ List.replicate (20 - peer.octets.length) 0

section
variable (u : AddrUnion)

theorem octets_ipv6 : (PeerAddrs.ofUnion false true u).octets = u.addr6.toList := rfl

theorem octets_ipv4 : (PeerAddrs.ofUnion true false u).octets = u.addr.toList :=
  List.append_nil _

theorem octets_ipv4v6 :
    (PeerAddrs.ofUnion true true u).octets = u.addr.toList ++ u.bothAddr6.toList := rfl

end

theorem represents_of_fTeidToIp (h : fTeid.HasAddress) :
    ∃ ip, fTeidToIp fTeid = .ok ip ∧ ip.Represents fTeid.peer := by
  rcases fTeid with ⟨_ | _, _ | _, interfaceType, teid, u⟩
  · exact absurd h (by rintro (⟨⟨⟩⟩ | ⟨⟨⟩⟩))
  · have hoctets : FTeid.peer ⟨false, true, interfaceType, teid, u⟩ = .ofUnion false true u := rfl
    rw [hoctets]
    refine ⟨_, rfl, ?_, ?_, ?_, ?_⟩
    · simp [OgsIp.peer, PeerAddrs.ofUnion]
    · rw [octets_ipv6, u.addr6.length_toList]
      rfl
    · rw [octets_ipv6, u.addr6.length_toList]
      decide
    · rw [octets_ipv6, AddrUnion.octets_setAddr6, u.addr6.length_toList]
      rfl
  · have hoctets : FTeid.peer ⟨true, false, interfaceType, teid, u⟩ = .ofUnion true false u := rfl
    rw [hoctets]
    refine ⟨_, rfl, ?_, ?_, ?_, ?_⟩
    · simp [OgsIp.peer, PeerAddrs.ofUnion]
    · rw [octets_ipv4, u.addr.length_toList]
      rfl
    · rw [octets_ipv4, u.addr.length_toList]
      decide
    · rw [octets_ipv4, AddrUnion.octets_setAddr, u.addr.length_toList]
      rfl
  · have hoctets : FTeid.peer ⟨true, true, interfaceType, teid, u⟩ = .ofUnion true true u := rfl
    have hlen : (u.addr.toList ++ u.bothAddr6.toList).length = 20 := by
      rw [List.length_append, u.addr.length_toList, u.bothAddr6.length_toList]
    rw [hoctets]
    refine ⟨_, rfl, ?_, ?_, ?_, ?_⟩
    · simp [OgsIp.peer, PeerAddrs.ofUnion]
    · rw [octets_ipv4v6, hlen]
      rfl
    · rw [octets_ipv4v6, hlen]
    · rw [octets_ipv4v6, AddrUnion.octets_eq_addr_append, AddrUnion.addr_setBothAddr6,
        AddrUnion.addr_setAddr, AddrUnion.bothAddr6_setBothAddr6, hlen]
      exact (List.append_nil _).symm

/-- The other way round, whatever the F-TEID was before. -/
theorem peer_of_ipToFTeid (ip : OgsIp) (other : FTeid) (h : ip.ipv4 = true ∨ ip.ipv6 = true) :
    ∃ fTeid len, ipToFTeid ip other = .ok (fTeid, len) ∧ fTeid.peer = ip.peer ∧
      len.toNat = ip.peer.octets.length + 5 := by
  rcases ip with ⟨u, len, _ | _, _ | _⟩
  · exact absurd h (by rintro (⟨⟨⟩⟩ | ⟨⟨⟩⟩))
  · refine ⟨_, _, rfl, ?_, ?_⟩
    · simp [OgsIp.peer, FTeid.peer, PeerAddrs.ofUnion]
    · change _ = (PeerAddrs.ofUnion false true u).octets.length + 5
      rw [octets_ipv6, u.addr6.length_toList]
      rfl
  · refine ⟨_, _, rfl, ?_, ?_⟩
    · simp [OgsIp.peer, FTeid.peer, PeerAddrs.ofUnion]
    · change _ = (PeerAddrs.ofUnion true false u).octets.length + 5
      rw [octets_ipv4, u.addr.length_toList]
      rfl
  · refine ⟨_, _, rfl, ?_, ?_⟩
    · simp [OgsIp.peer, FTeid.peer, PeerAddrs.ofUnion]
    · change _ = (PeerAddrs.ofUnion true true u).octets.length + 5
      rw [octets_ipv4v6, List.length_append, u.addr.length_toList, u.bothAddr6.length_toList]
      rfl

/-! ## Finding -/

/-- The comparison of memory is one of the addresses, with zeros behind them. -/
theorem coincides_iff {peer peer' : PeerAddrs} (hip : ip.Represents peer)
    (hnode : node.Represents peer') : ip.coincides node = peer.begins peer' := by
  have htake (m : OgsIp) (p : PeerAddrs) (hm : m.Represents p) : m.octets.take ip.len.toNat =
      (p.octets ++ List.replicate (20 - p.octets.length) 0).take ip.len.toNat := by
    have hle : ip.len.toNat ≤ m.addrs.octets.length := by
      rw [m.addrs.length_octets, hip.len]
      exact hip.len_le
    rw [OgsIp.octets, List.append_assoc, List.take_append_of_le_length hle, hm.octets]
  have hself : (peer.octets ++ List.replicate (20 - peer.octets.length) 0).take peer.octets.length =
      peer.octets := List.take_left
  have hzeros : (peer'.octets ++ List.replicate 20 0).take peer.octets.length =
      (peer'.octets ++ List.replicate (20 - peer'.octets.length) (0 : UInt8)).take
        peer.octets.length := by
    have hle := hip.len_le
    rw [List.take_append, List.take_append, List.take_replicate, List.take_replicate]
    congr 2
    omega
  rw [OgsIp.coincides, htake ip peer hip, htake node peer' hnode, hip.len, hself, PeerAddrs.begins,
    Bool.eq_iff_iff, beq_iff_eq, List.isPrefixOf_iff_prefix, List.prefix_iff_eq_take, hzeros]
  exact eq_comm

theorem peer_begins_self (peer : PeerAddrs) : peer.begins peer = true := by
  rw [PeerAddrs.begins, List.isPrefixOf_iff_prefix]
  exact List.prefix_append _ _

/-- A search for what coincides finds what has a property if and only if the first that coincides
has the property. -/
theorem findIdx_finds_iff {α : Type} {q : α → Bool} {p : α → Prop} (hp : ∀ a, p a → q a = true)
    (l : List α) :
    (match l.findIdx? q with
      | some i => ∃ a, l[i]? = some a ∧ p a
      | none => ∀ a ∈ l, ¬p a) ↔ ∀ a, l.find? q = some a → p a := by
  induction l with
  | nil => exact iff_of_true nofun nofun
  | cons a l ih =>
    rw [List.findIdx?_cons, List.find?_cons]
    cases hq : q a with
    | true => simp
    | false =>
      have hnot : ¬p a := fun h => absurd ((hp a h).symm.trans hq) (by decide)
      rw [← ih]
      cases l.findIdx? q with
      | none => simp [hnot]
      | some i => simp

/-- The nodes of a list that has been built by additions. -/
theorem represents_of_nodeAdd (h : fTeids.foldlM (nodeAdd usable) list = .ok nodes) :
    ∃ added, nodes = list ++ added ∧
      List.Forall₂ (fun ip fTeid => ip.Represents fTeid.peer) added fTeids := by
  induction fTeids generalizing list with
  | nil =>
    cases h
    exact ⟨[], (List.append_nil _).symm, .nil⟩
  | cons fTeid fTeids ih =>
    rw [List.foldlM_cons] at h
    obtain ⟨next, hadd, hrest⟩ := Fallible.bind_eq_ok.mp h
    simp only [nodeAdd, Fallible.bind_eq_ok, Fallible.assert_eq_ok, exists_const] at hadd
    obtain ⟨haddress, -, ip, hip, hnext⟩ := hadd
    obtain ⟨ip', hip', hrepresents⟩ := represents_of_fTeidToIp haddress
    obtain rfl : ip' = ip := Except.ok.inj (hip'.symm.trans hip)
    cases hnext
    obtain ⟨added, rfl, hadded⟩ := ih hrest
    exact ⟨ip' :: added, by rw [List.append_assoc, List.singleton_append], .cons hrepresents hadded⟩

theorem findIdx_coincides {peer : PeerAddrs} (hip : ip.Represents peer)
    (h : List.Forall₂ (fun ip fTeid => OgsIp.Represents ip (FTeid.peer fTeid)) nodes fTeids) :
    nodes.findIdx? ip.coincides = fTeids.findIdx? fun fTeid => peer.begins fTeid.peer := by
  induction h with
  | nil => rfl
  | cons hnode _ ih => rw [List.findIdx?_cons, List.findIdx?_cons, coincides_iff hip hnode, ih]

/-! ## Identity -/

/-- The conversions of an F-TEID are inverse on the addresses and give the lengths that match. -/
structure FTeid.Inverse (fTeid : FTeid) : Prop where
  toIp : ∃ ip, fTeidToIp fTeid = .ok ip ∧ ip.peer = fTeid.peer ∧
    ip.len.toNat = fTeid.peer.octets.length ∧ ∀ other, ∃ back len,
      ipToFTeid ip other = .ok (back, len) ∧ back.peer = fTeid.peer ∧
        len.toNat = fTeid.peer.octets.length + 5
  ofIp : ∀ ip other, ip.peer = fTeid.peer → ∃ made len back, ipToFTeid ip other = .ok (made, len) ∧
    len.toNat = ip.peer.octets.length + 5 ∧ fTeidToIp made = .ok back ∧ back.peer = ip.peer

/-- A node is found if and only if one was added for the same addresses, and it is such a node. -/
def FTeid.FindsNode (fTeid : FTeid) (nodes : List OgsIp) (fTeids : List FTeid) : Prop :=
  ∃ found, nodeFind nodes fTeid = .ok found ∧
    match found with
    | some i => ∃ added, fTeids[i]? = some added ∧ added.peer = fTeid.peer
    | none => ∀ added ∈ fTeids, added.peer ≠ fTeid.peer

/-- The first F-TEID whose addresses begin with those that are looked for has no others. -/
def FTeid.FirstIsSame (fTeid : FTeid) (fTeids : List FTeid) : Prop :=
  ∀ added, fTeids.find? (fun added => fTeid.peer.begins added.peer) = some added →
    added.peer = fTeid.peer

/-- An address is there if the set of addresses is not empty. -/
theorem flags_iff_peer (ipv4 ipv6 : Bool) (u : AddrUnion) :
    (ipv4 = true ∨ ipv6 = true) ↔ PeerAddrs.ofUnion ipv4 ipv6 u ≠ ⟨none, none⟩ := by
  cases ipv4 <;> cases ipv6 <;> simp [PeerAddrs.ofUnion]

theorem FTeid.HasAddress.inverse (h : fTeid.HasAddress) : fTeid.Inverse := by
  have hip (ip : OgsIp) (hpeer : ip.peer = fTeid.peer) : ip.ipv4 = true ∨ ip.ipv6 = true := by
    refine (flags_iff_peer ip.ipv4 ip.ipv6 ip.addrs).mpr ?_
    rw [← OgsIp.peer, hpeer]
    exact (flags_iff_peer ..).mp h
  constructor
  · obtain ⟨ip, hto, hrepresents⟩ := represents_of_fTeidToIp h
    refine ⟨ip, hto, hrepresents.peer_eq, hrepresents.len, fun other => ?_⟩
    obtain ⟨back, len, hback, hpeer, hlen⟩ :=
      peer_of_ipToFTeid ip other (hip ip hrepresents.peer_eq)
    rw [hrepresents.peer_eq] at hpeer hlen
    exact ⟨back, len, hback, hpeer, hlen⟩
  · intro ip other hpeer
    obtain ⟨made, len, hmade, hmadePeer, hlen⟩ := peer_of_ipToFTeid ip other (hip ip hpeer)
    have haddress : made.HasAddress := by
      refine (flags_iff_peer made.ipv4 made.ipv6 made.addrs).mpr ?_
      rw [← FTeid.peer, hmadePeer]
      exact (flags_iff_peer ..).mp (hip ip hpeer)
    obtain ⟨back, hback, hrepresents⟩ := represents_of_fTeidToIp haddress
    exact ⟨made, len, back, hmade, hlen, hback, hrepresents.peer_eq.trans hmadePeer⟩

/-- A peer is identified by its addresses if and only if the first F-TEID that was added and whose
addresses begin with those that are looked for has the same. -/
theorem gtpNode_identified_iff (h : fTeid.HasAddress)
    (hnodes : fTeids.foldlM (nodeAdd usable) [] = .ok nodes) :
    fTeid.Inverse ∧ fTeid.FindsNode nodes fTeids ↔ fTeid.FirstIsSame fTeids := by
  rw [and_iff_right h.inverse, FTeid.FirstIsSame, ← findIdx_finds_iff]
  · obtain ⟨ip, hip, hrepresents⟩ := represents_of_fTeidToIp h
    obtain ⟨added, hnodes, hadded⟩ := represents_of_nodeAdd hnodes
    have hfind : nodeFind nodes fTeid =
        .ok (fTeids.findIdx? fun other => fTeid.peer.begins other.peer) := by
      rw [hnodes, List.nil_append, nodeFind, hip, Fallible.ok_bind,
        findIdx_coincides hrepresents hadded]
    rw [FTeid.FindsNode, hfind]
    simp only [Except.ok.injEq, exists_eq_left']
  · intro other hsame
    rw [hsame]
    exact peer_begins_self _

/-- 10.0.0.1, and the same with fd00::1 -/
def peerOfIpv4 : FTeid := ⟨true, false, 10, 1, ⟨[10, 0, 0, 1] ++ List.replicate 16 0, rfl⟩⟩

def peerOfBoth : FTeid :=
  ⟨true, true, 10, 1, ⟨[10, 0, 0, 1, 0xfd, 0] ++ List.replicate 13 0 ++ [1], rfl⟩⟩

def nodeOfIpv4 : OgsIp := ⟨⟨[10, 0, 0, 1] ++ List.replicate 16 0, rfl⟩, 4, true, false⟩

def nodeOfBoth : OgsIp :=
  ⟨⟨[10, 0, 0, 1, 0xfd, 0] ++ List.replicate 13 0 ++ [1], rfl⟩, 20, true, true⟩

theorem gtpNode_identified_ipv4 :
    peerOfIpv4.Inverse ∧ peerOfIpv4.FindsNode [nodeOfIpv4, nodeOfBoth] [peerOfIpv4, peerOfBoth] := by
  have hnodes : [peerOfIpv4, peerOfBoth].foldlM (nodeAdd fun _ => true) [] =
      .ok [nodeOfIpv4, nodeOfBoth] := rfl
  refine (gtpNode_identified_iff (.inl rfl) hnodes).mpr ?_
  intro added hfirst
  have hfind : [peerOfIpv4, peerOfBoth].find? (fun added => peerOfIpv4.peer.begins added.peer) =
      some peerOfIpv4 := rfl
  obtain rfl := Option.some_inj.mp (hfind.symm.trans hfirst)
  rfl

/-- The node of a peer with both addresses is returned for a peer with only one of them. -/
theorem gtpNode_confused : ¬∀ (usable : FTeid → Bool) (fTeids : List FTeid) (nodes : List OgsIp)
    (fTeid : FTeid), fTeid.HasAddress → fTeids.foldlM (nodeAdd usable) [] = .ok nodes →
      fTeid.Inverse ∧ fTeid.FindsNode nodes fTeids := by
  intro h
  obtain ⟨found, hfound, hmatch⟩ :=
    (h (fun _ => true) [peerOfBoth] [nodeOfBoth] peerOfIpv4 (.inl rfl) rfl).2
  have hfirst : nodeFind [nodeOfBoth] peerOfIpv4 = .ok (some 0) := rfl
  obtain rfl := Except.ok.inj (hfirst.symm.trans hfound)
  obtain ⟨added, hadded, hpeer⟩ := hmatch
  obtain rfl := Option.some_inj.mp hadded
  have hipv6 := congrArg (fun peer => peer.ipv6.isSome) hpeer
  exact absurd hipv6 (by decide)

end NextEpc

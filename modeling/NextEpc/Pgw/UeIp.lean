import NextEpc.Lib.Fallible
import NextEpc.Lib.Octets
import NextEpc.Lib.Pool
import NextEpc.Lib.Trace

/-!
# The addresses of the UEs

`pgw-context.c`: each subnet has a pool of address objects, filled once from its prefix. A
session takes one or two of them when it is added and returns them when it is removed. Both
sessions and addresses come from pools that keep what is in a slot.
-/

namespace NextEpc

/-- The places where the PGW asserts. -/
inductive PgwSite
  | poolGenerate
  | ueIpAlloc
  | ueIpFree
  | sessAdd
  deriving DecidableEq, Repr

abbrev PgwM := Fallible PgwSite

abbrev PgwSubnetId := Nat

abbrev PgwSessId := Nat

/-- The first of the four words of an address is there. -/
instance Pgw.neZero_words : NeZero (4 : Nat) := ⟨by decide⟩

theorem Pgw.zero_lt_words : 0 < 4 := by decide

/-- An address of four words -/
def Pgw.words (a b c d : UInt32) : Vector UInt32 4 := #v[a, b, c, d]

/-- `AF_INET` and `AF_INET6` -/
inductive AddressFamily
  | inet
  | inet6
  deriving DecidableEq, Repr

/-- `pgw_subnet_t` without its pool. The words are in network byte order. -/
structure PgwSubnet where
  sub : Vector UInt32 4
  mask : Vector UInt32 4
  gw : Vector UInt32 4
  apn : Bytes
  family : AddressFamily
  prefixlen : UInt8
  deriving DecidableEq, Repr

/-- `pgw_ue_ip_t` -/
structure PgwUeIp where
  addr : Vector UInt32 4
  subnet : PgwSubnetId
  deriving DecidableEq, Repr

/-- A pointer to an address object: an entry in the array of a subnet. -/
structure PgwUeIpId where
  array : PgwSubnetId
  index : Nat
  deriving DecidableEq, Repr

/-- The part of `pgw_sess_t` that has to do with addresses. -/
structure PgwSess where
  apn : Bytes
  pdnType : UInt8
  ipv4 : Option PgwUeIpId
  ipv6 : Option PgwUeIpId
  deriving DecidableEq, Repr

/-! ## The pools of the subnets -/

/-- `mask_count` -/
def PgwSubnet.maskCount (subnet : PgwSubnet) : PgwM UInt32 :=
  match subnet.family with
  | .inet =>
    if subnet.prefixlen = 32 then .ok 1
    else if subnet.prefixlen < 32 then .ok ((0xffffffff >>> subnet.prefixlen.toUInt32) + 1)
    else .error (.assert .poolGenerate)
  | .inet6 =>
    if subnet.prefixlen = 128 then .ok 1
    else if 96 < subnet.prefixlen ∧ subnet.prefixlen < 128 then
      .ok ((0xffffffff >>> (subnet.prefixlen - 96).toUInt32) + 1)
    else if subnet.prefixlen ≤ 96 then .ok 0xffffffff
    else .error (.assert .poolGenerate)

def PgwSubnet.broadcast (subnet : PgwSubnet) : Vector UInt32 4 :=
  Vector.zipWith (fun sub mask => sub + ~~~mask) subnet.sub subnet.mask

/-- The `j`-th address of a subnet. -/
def PgwSubnet.address (subnet : PgwSubnet) (j : Nat) : Vector UInt32 4 :=
  match subnet.family with
  | .inet => #v[subnet.sub.get 0 + Octets.swap32 (UInt32.ofNat j), 0, 0, 0]
  | .inet6 => #v[subnet.sub.get 0, subnet.sub.get 1, subnet.sub.get 2,
      subnet.sub.get 3 + Octets.swap32 (UInt32.ofNat j)]

/-- `memcmp` over the octets of an address of the family -/
def AddressFamily.same (family : AddressFamily) (a b : Vector UInt32 4) : Bool :=
  match family with
  | .inet => a.get 0 == b.get 0
  | .inet6 => a == b

/-- The addresses of the network, for broadcast and of the gateway are left out. -/
def PgwSubnet.excluded (subnet : PgwSubnet) (addr : Vector UInt32 4) : Bool :=
  subnet.family.same addr subnet.sub || subnet.family.same addr subnet.broadcast ||
    subnet.family.same addr subnet.gw

/-- The loop of `pgw_ue_pool_generate` for one subnet, with `n` addresses to go. -/
def PgwSubnet.generate (subnet : PgwSubnet) (id : PgwSubnetId) (poolSess : Nat) :
    (n j index : Nat) → List PgwUeIp
  | 0, _, _ => []
  | n + 1, j, index =>
    if index < poolSess then
      if subnet.excluded (subnet.address j) then subnet.generate id poolSess n (j + 1) index
      else ⟨subnet.address j, id⟩ :: subnet.generate id poolSess n (j + 1) (index + 1)
    else []

/-- The configuration: the subnets and `ogs_config()->pool.sess`. -/
structure PgwConfig where
  subnets : List PgwSubnet
  poolSess : Nat

/-- The sessions, and the arrays of addresses with their lengths. -/
structure Pgw where
  sess : Pool PgwSess
  ueIp : PgwSubnetId → Pool PgwUeIp
  size : PgwSubnetId → Nat

/-- The addresses of each subnet. -/
def pgwUePoolGenerate (cfg : PgwConfig) : PgwM (List (List PgwUeIp)) :=
  cfg.subnets.zipIdx.mapM fun (subnet, id) => do
    let maskCount ← subnet.maskCount
    .ok (subnet.generate id cfg.poolSess maskCount.toNat 0 0)

/-- Pools with cleared memory, and the arrays of addresses. -/
def Pgw.init (arrays : List (List PgwUeIp)) : Pgw where
  sess := Pool.unused fun _ => ⟨[], 0, none, none⟩
  ueIp id := Pool.unused fun i => ((arrays.getD id []).getD i ⟨Vector.replicate 4 0, id⟩)
  size id := (arrays.getD id []).length

namespace Pgw
variable (cfg : PgwConfig) (s : Pgw)

/-- `ogs_pool_avail` -/
def avail (id : PgwSubnetId) : Bool := (List.range (s.size id)).any fun i => !(s.ueIp id).live i

/-- One of the loops of `find_subnet`: the first subnet of the family with an address left and
an APN that meets a condition. -/
def findSubnetWhere (family : AddressFamily) (p : Bytes → Bool) : Option PgwSubnetId :=
  (cfg.subnets.zipIdx.find? fun r =>
    p r.1.apn && r.1.family == family && s.avail r.2).map Prod.snd

def findSubnet (family : AddressFamily) (apn : Bytes) : Option PgwSubnetId :=
  (s.findSubnetWhere cfg family fun subnetApn => subnetApn != [] && subnetApn == apn).or
    (s.findSubnetWhere cfg family fun subnetApn => subnetApn == [])

/-- The pool gives out a free entry, here the one at `index`. -/
def pgwUeIpAlloc (family : AddressFamily) (apn : Bytes) (index : Nat) :
    PgwM (Pgw × PgwUeIpId) := do
  let id ← Fallible.assertSome .ueIpAlloc (s.findSubnet cfg family apn)
  Fallible.assert .ueIpAlloc (index < s.size id ∧ (s.ueIp id).live index = false)
  .ok ({ s with ueIp := Function.update s.ueIp id ((s.ueIp id).alloc index) }, ⟨id, index⟩)

/-- The pool that an address is returned to. -/
def ownPool (ueIp : PgwUeIpId) : PgwSubnetId := ((s.ueIp ueIp.array).mem ueIp.index).subnet

def pgwUeIpFree (ueIp : PgwUeIpId) : Pgw :=
  let id := s.ownPool ueIp
  { s with ueIp := Function.update s.ueIp id ((s.ueIp id).free ueIp.index) }

/-- `OGS_GTP_PDN_TYPE_IPV4` -/
def pdnTypeIpv4 : UInt8 := 1

/-- `OGS_GTP_PDN_TYPE_IPV6` -/
def pdnTypeIpv6 : UInt8 := 2

/-- `OGS_GTP_PDN_TYPE_IPV4V6` -/
def pdnTypeIpv4v6 : UInt8 := 3

/-- The addresses are those at `index4` and `index6` in the pools. -/
def pgwSessAdd (sess : PgwSessId) (apn : Bytes) (pdnType : UInt8) (index4 index6 : Nat) :
    PgwM Pgw := do
  let s := { s with sess := (s.sess.alloc sess).modify sess fun m =>
    { m with apn := apn, pdnType := pdnType } }
  if pdnType = pdnTypeIpv4 then
    let (s, ipv4) ← s.pgwUeIpAlloc cfg .inet apn index4
    .ok { s with sess := s.sess.modify sess fun m => { m with ipv4 := some ipv4 } }
  else if pdnType = pdnTypeIpv6 then
    let (s, ipv6) ← s.pgwUeIpAlloc cfg .inet6 apn index6
    .ok { s with sess := s.sess.modify sess fun m => { m with ipv6 := some ipv6 } }
  else if pdnType = pdnTypeIpv4v6 then
    let (s, ipv4) ← s.pgwUeIpAlloc cfg .inet apn index4
    let (s, ipv6) ← s.pgwUeIpAlloc cfg .inet6 apn index6
    .ok { s with
      sess := s.sess.modify sess fun m => { m with ipv4 := some ipv4, ipv6 := some ipv6 } }
  else .error (.assert .sessAdd)

/-- The addresses that a session holds, in the order in which it returns them. -/
def held (sess : PgwSessId) : List PgwUeIpId :=
  (s.sess.mem sess).ipv4.toList ++ (s.sess.mem sess).ipv6.toList

def pgwSessRemove (sess : PgwSessId) : Pgw :=
  let s := (s.held sess).foldl pgwUeIpFree s
  { s with sess := s.sess.free sess }

end Pgw
end NextEpc

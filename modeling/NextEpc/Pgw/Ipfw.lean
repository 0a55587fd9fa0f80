import NextEpc.Pgw.Context

/-!
# Downlink packets and their bearers

`pgw_bearer_find_by_packet`: the addresses and the protocol are read from the header, the first
session with the destination address is found, and in it the first dedicated bearer with a packet
filter that matches. A packet comes with the memory that it is in, since the length of the packet
is not looked at.
-/

namespace NextEpc

/-- The octets from `pkt->data` on, those of the packet and what is behind it. -/
abbrev Memory := Nat → UInt8

namespace Memory
variable (mem : Memory)

/-- A word as it is in memory. -/
def u32 (i : Nat) : UInt32 :=
  UInt32.ofNat ((mem i).toNat + 2 ^ 8 * (mem (i + 1)).toNat + 2 ^ 16 * (mem (i + 2)).toNat +
    2 ^ 24 * (mem (i + 3)).toNat)

/-- `ntohs` of the two octets -/
def u16 (i : Nat) : UInt16 := UInt16.ofNat (2 ^ 8 * (mem i).toNat + (mem (i + 1)).toNat)

/-- The four words that an address pointer refers to. -/
def addr (i : Nat) : Vector UInt32 4 := Vector.ofFn fun k => mem.u32 (i + 4 * k)

end Memory

/-! ## Headers -/

/-- `IPPROTO_HOPOPTS`, `IPPROTO_ROUTING`, `IPPROTO_DSTOPTS` and the numbers written out -/
def optionHeaders : List UInt8 := [0, 43, 60, 135, 139, 140, 253, 254]

/-- `IPPROTO_FRAGMENT` -/
def ipprotoFragment : UInt8 := 44

/-- `IPPROTO_AH` -/
def ipprotoAh : UInt8 := 51

/-- `IPPROTO_TCP` -/
def ipprotoTcp : UInt8 := 6

/-- `IPPROTO_UDP` -/
def ipprotoUdp : UInt8 := 17

/-- The length of the extension header at `p`, if there is one. -/
def extLength (mem : Memory) (nxt : UInt8) (p : Nat) : Option Nat :=
  if nxt ∈ optionHeaders then some ((mem (p + 1)).toNat * 8 + 8)
  else if nxt = ipprotoFragment then some 8
  else if nxt = ipprotoAh then some (((mem (p + 1)).toNat + 2) * 4)
  else none

/-- How many octets of an extension header are read: a fragment header has a fixed length. -/
def extOctets (nxt : UInt8) : Nat := if nxt = ipprotoFragment then 1 else 2

/-- The loop over the extension headers: the protocol, its offset and how far was read. Every
header has 8 octets at least, so that `endp - p` rounds are enough. -/
def extHeaders (mem : Memory) : (n : Nat) → (nxt : UInt8) → (p endp read : Nat) → UInt8 × Nat × Nat
  | 0, nxt, p, _, read => (nxt, p, read)
  | n + 1, nxt, p, endp, read =>
    if p < endp then
      match extLength mem nxt p with
      | some length =>
        extHeaders mem n (mem p) (p + length) endp (max read (p + extOctets nxt))
      | none => (nxt, p, read)
    else (nxt, p, read)

/-- The loop that looks for a jumbo payload option: its length and how far was read. A length of 0
is met again in the next round. -/
def jumboLoop (mem : Memory) : (fuel jp : Nat) → Option (Nat × Nat)
  | 0, _ => none
  | fuel + 1, jp =>
    let jpLen := (Octets.swap32 (mem.u32 (jp + 2))).toNat
    if mem jp = 0xc2 then
      if jpLen = 0 then jumboLoop mem fuel jp else some (jpLen, jp + 6)
    else if mem jp = 0 then jumboLoop mem fuel (jp + 1)
    else jumboLoop mem fuel (jp + 2 + jpLen)

/-- `decode_ipv6_header`, which asserts that an empty payload comes with hop-by-hop options -/
def decodeIpv6Header (mem : Memory) (fuel : Nat) : Option (UInt8 × Nat × Nat) :=
  let nxt := mem 6
  let plen := (mem.u16 4).toNat
  if plen = 0 then
    if nxt = 0 then do
      let (jpLen, read) ← jumboLoop mem fuel 42
      some (extHeaders mem jpLen nxt 40 (40 + jpLen) read)
    else none
  else some (extHeaders mem plen nxt 40 (40 + plen) 40)

/-- What is read from a packet. -/
structure PacketHeader where
  family : AddressFamily
  src : Vector UInt32 4
  dst : Vector UInt32 4
  proto : UInt8
  hlen : UInt16
  deriving DecidableEq

/-- The header, and how many octets are read for it. The messages for the log show four words of
each address; for another version than 4 and 6 the pointers to them are NULL. -/
def readHeader (mem : Memory) (fuel : Nat) : Option (PacketHeader × Nat) :=
  if mem 0 / 16 = 4 then
    some (⟨.inet, mem.addr 12, mem.addr 16, mem 9, (mem 0 % 16).toUInt16 * 4⟩, 32)
  else if mem 0 / 16 = 6 then do
    let (proto, hlen, read) ← decodeIpv6Header mem fuel
    some (⟨.inet6, mem.addr 8, mem.addr 24, proto, UInt16.ofNat hlen⟩, max 40 read)
  else none

/-! ## Packet filters -/

def PgwPort.passes (range : PgwPort) (port : UInt16) : Bool :=
  !(range.low != 0 && decide (port < range.low)) &&
    !(range.high != 0 && decide (range.high < port))

/-- The source port is compared with the local ports of the rule, and the destination port with
the remote ones. -/
def PgwRule.portsPass (rule : PgwRule) (mem : Memory) (hlen : Nat) : Bool :=
  rule.portLocal.passes (mem.u16 hlen) && rule.portRemote.passes (mem.u16 (hlen + 2))

def PgwIp.covers (ip : PgwIp) (family : AddressFamily) (addr : Vector UInt32 4) : Bool :=
  family.same (Vector.zipWith (· &&& ·) addr ip.mask) ip.addr

def PgwRule.covers (rule : PgwRule) (hdr : PacketHeader) : Bool :=
  rule.ipLocal.covers hdr.family hdr.src && rule.ipRemote.covers hdr.family hdr.dst

/-- The body of the loop over the filters of a bearer. -/
def PgwPfRecord.matchesPacket (pf : PgwPfRecord) (mem : Memory) (hdr : PacketHeader) : Bool :=
  pf.direction == 1 && pf.rule.covers hdr &&
    (pf.rule.proto == 0 || pf.rule.proto == hdr.proto &&
      (!(pf.rule.proto == ipprotoTcp || pf.rule.proto == ipprotoUdp) ||
        pf.rule.portsPass mem hdr.hlen.toNat))

namespace PgwContext
variable (s : PgwContext)

/-- `memcmp` with both addresses over the length that goes with the version of the packet -/
def hasAddress (hdr : PacketHeader) (sess : PgwSessId) : Bool :=
  (s.sess.mem sess).ipv4.any (fun ueIp => hdr.family.same hdr.dst (s.address ueIp)) ||
    (s.sess.mem sess).ipv6.any fun ueIp => hdr.family.same hdr.dst (s.address ueIp)

/-- The bearer that the first matching filter belongs to. A bearer without EBI waits for its
Create Bearer Response. -/
def bearerOfFilter (mem : Memory) (hdr : PacketHeader) (bearer : PgwBearerId) :
    Option PgwBearerId :=
  if (s.bearers.mem bearer).ebi = 0 then none
  else ((s.bearers.mem bearer).pfList.find? fun pf =>
    (s.pfs.mem pf).matchesPacket mem hdr).map fun pf => (s.pfs.mem pf).bearer

/-- The bearer for a packet in a session, which has a default bearer. -/
def bearerInSess (mem : Memory) (hdr : PacketHeader) (sess : PgwSessId) : Option PgwBearerId :=
  match (s.sessMem sess).bearerList with
  | [] => none
  | defaultBearer :: bearers =>
    some ((bearers.findSome? (s.bearerOfFilter mem hdr)).getD defaultBearer)

/-- The search, once the header was read. -/
def findInSessions (mem : Memory) (hdr : PacketHeader) : Option (Option PgwBearerId) :=
  match s.sessList.find? (s.hasAddress hdr) with
  | none => some none
  | some sess => (s.bearerInSess mem hdr sess).map some

/-- `pgw_bearer_find_by_packet`, and how many octets were read when it returns NULL -/
def pgwBearerFindByPacket (mem : Memory) (fuel : Nat) : Option (Option PgwBearerId × Nat) := do
  let (hdr, read) ← readHeader mem fuel
  let bearer ← s.findInSessions mem hdr
  some (bearer, read)

end PgwContext
end NextEpc

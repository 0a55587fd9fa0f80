import NextEpc.Pgw.Ipfw

/-!
# Packet filters and traffic flow templates

`pgw_compile_packet_filter` makes a rule of a flow description, and
`encode_traffic_flow_template` makes the components of a filter for the UE of the rule.
-/

namespace NextEpc

/-! ## Addresses and masks -/

/-- The bits of an address in network order, the first one being that of the highest value. -/
def addressBit (addr : Vector UInt32 4) (i : Nat) : Bool :=
  ((addr.toList.getD (i / 32) 0).toNat).testBit (8 * (i % 32 / 8) + (7 - i % 8))

/-- `minimask` -/
def minimask : List UInt8 := [0x00, 0x80, 0xc0, 0xe0, 0xf0, 0xf8, 0xfc, 0xfe, 0xff]

/-- The octet at `i` of a mask of `n` bits. -/
def maskOctet (n i : Nat) : UInt8 := minimask.getD (min 8 (n - 8 * i)) 0

/-- `n2mask` -/
def n2mask (n : Nat) : Vector UInt32 4 := Vector.ofFn fun k => Memory.u32 (maskOctet n) (4 * k)

/-- `contigmask` with 128 bits: the number of bits before the first that is not set, or -1 when
another one is set behind it -/
def contigmask (mask : Vector UInt32 4) : Int :=
  let i := ((List.range 128).find? fun i => !addressBit mask i).getD 128
  if (List.range 128).any fun n => decide (i + 1 ≤ n) && addressBit mask n then -1 else i

/-! ## Rules -/

/-- The opcodes that are looked at, with their operands. An address with its mask or a port range can
be followed by the other entries of a list. -/
inductive IpfwOpcode
  | proto (arg1 : UInt16)
  | ipSrc (addr : UInt32)
  | ipSrcMask (addr mask : UInt32) (more : List (UInt32 × UInt32))
  | ipDst (addr : UInt32)
  | ipDstMask (addr mask : UInt32) (more : List (UInt32 × UInt32))
  | ip6Src (addr : Vector UInt32 4)
  | ip6SrcMask (addr mask : Vector UInt32 4) (more : List PgwIp)
  | ip6Dst (addr : Vector UInt32 4)
  | ip6DstMask (addr mask : Vector UInt32 4) (more : List PgwIp)
  | ipSrcport (range : PgwPort) (more : List PgwPort)
  | ipDstport (range : PgwPort) (more : List PgwPort)
  | other
  deriving DecidableEq

/-- An instruction of `compile_rule` with the flags `F_NOT` and `F_OR` -/
structure IpfwInsn where
  opcode : IpfwOpcode
  fNot : Bool
  fOr : Bool
  deriving DecidableEq

/-- `fill_ip` and `fill_ip6` mask the address, and `n2mask` makes the mask of an IPv6 address. -/
def IpfwInsn.Masked (insn : IpfwInsn) : Prop :=
  match insn.opcode with
  | .ipSrcMask addr mask _ | .ipDstMask addr mask _ => addr &&& mask = addr
  | .ip6SrcMask addr mask _ | .ip6DstMask addr mask _ =>
    Vector.zipWith (· &&& ·) addr mask = addr ∧ ∃ n ≤ 128, mask = n2mask n
  | _ => True

/-- The first word of an address and its mask are written. -/
def PgwIp.setIpv4 (ip : PgwIp) (addr mask : UInt32) : PgwIp :=
  ⟨ip.addr.set 0 addr Pgw.zero_lt_words, ip.mask.set 0 mask Pgw.zero_lt_words⟩

/-- One round of the loop over the instructions: neither the flags nor the entries after the first
one are looked at. -/
def PgwRule.interpret (rule : PgwRule) (insn : IpfwInsn) : PgwRule :=
  match insn.opcode with
  | .proto arg1 => { rule with proto := arg1.toUInt8 }
  | .ipSrc addr =>
    { rule with ipv4Local := true, ipLocal := rule.ipLocal.setIpv4 addr 0xffffffff }
  | .ipSrcMask addr mask _ =>
    { rule with ipv4Local := true, ipLocal := rule.ipLocal.setIpv4 addr mask }
  | .ipDst addr =>
    { rule with ipv4Remote := true, ipRemote := rule.ipRemote.setIpv4 addr 0xffffffff }
  | .ipDstMask addr mask _ =>
    { rule with ipv4Remote := true, ipRemote := rule.ipRemote.setIpv4 addr mask }
  | .ip6Src addr => { rule with ipv6Local := true, ipLocal := ⟨addr, n2mask 128⟩ }
  | .ip6SrcMask addr mask _ => { rule with ipv6Local := true, ipLocal := ⟨addr, mask⟩ }
  | .ip6Dst addr => { rule with ipv6Remote := true, ipRemote := ⟨addr, n2mask 128⟩ }
  | .ip6DstMask addr mask _ => { rule with ipv6Remote := true, ipRemote := ⟨addr, mask⟩ }
  | .ipSrcport range _ => { rule with portLocal := range }
  | .ipDstport range _ => { rule with portRemote := range }
  | .other => rule

/-- `strtok_r` with blanks between the tokens -/
def tokens (description : Bytes) : List Bytes := (description.splitOn 0x20).filter (· ≠ [])

/-- `"permit"` -/
def permit : Bytes := [0x70, 0x65, 0x72, 0x6d, 0x69, 0x74]

/-- `"out"` -/
def out : Bytes := [0x6f, 0x75, 0x74]

/-- `pgw_compile_packet_filter`. The tokens go to `compile_rule` with the direction at the end. -/
def pgwCompilePacketFilter (compileRule : List Bytes → Option (List IpfwInsn))
    (description : CString) : Option PgwRule :=
  match tokens description.octets with
  | action :: dir :: rest =>
    if action = permit ∧ dir = out then do
      let insns ← compileRule (action :: rest ++ [dir])
      let rule := insns.foldl PgwRule.interpret .blank
      if rule = .blank then none else some rule
    else none
  | _ => none

/-! ## Traffic flow templates -/

/-- `OGS_MAX_NUM_OF_PACKET_FILTER` -/
def maxNumOfPacketFilter : Nat := 16

inductive TftComponent
  | protocolIdentifierNextHeader (proto : UInt8)
  | ipv4LocalAddress (addr mask : UInt32)
  | ipv4RemoteAddress (addr mask : UInt32)
  | ipv6LocalAddressPrefixLength (addr : Vector UInt32 4) (prefixlen : UInt8)
  | ipv6RemoteAddressPrefixLength (addr : Vector UInt32 4) (prefixlen : UInt8)
  | singleLocalPort (low : UInt16)
  | localPortRange (low high : UInt16)
  | singleRemotePort (low : UInt16)
  | remotePortRange (low high : UInt16)
  deriving DecidableEq

/-- A packet filter as it is sent to the UE. -/
structure TftPacketFilter where
  direction : UInt8
  identifier : UInt8
  precedence : UInt8
  component : List TftComponent
  deriving DecidableEq

/-- The components of the two port ranges. -/
def PgwPort.components (range : PgwPort) (single : UInt16 → TftComponent)
    (ports : UInt16 → UInt16 → TftComponent) : List TftComponent :=
  if range.low = 0 then []
  else if range.low = range.high then [single range.low] else [ports range.low range.high]

/-- The components in the order in which they are encoded. The prefix length is an octet. -/
def PgwRule.components (rule : PgwRule) : List TftComponent :=
  (if rule.proto = 0 then [] else [.protocolIdentifierNextHeader rule.proto]) ++
    (if rule.ipv4Local then
      [.ipv4LocalAddress (rule.ipLocal.addr.get 0) (rule.ipLocal.mask.get 0)] else []) ++
    (if rule.ipv4Remote then
      [.ipv4RemoteAddress (rule.ipRemote.addr.get 0) (rule.ipRemote.mask.get 0)] else []) ++
    (if rule.ipv6Local then
      [.ipv6LocalAddressPrefixLength rule.ipLocal.addr
        (UInt8.ofNat (contigmask rule.ipLocal.mask % 256).toNat)] else []) ++
    (if rule.ipv6Remote then
      [.ipv6RemoteAddressPrefixLength rule.ipRemote.addr
        (UInt8.ofNat (contigmask rule.ipRemote.mask % 256).toNat)] else []) ++
    rule.portLocal.components .singleLocalPort .localPortRange ++
    rule.portRemote.components .singleRemotePort .remotePortRange

/-- `encode_traffic_flow_template`: the filters are numbered in the order of the list -/
def PgwContext.encodeTrafficFlowTemplate (s : PgwContext) (bearer : PgwBearerId) :
    List TftPacketFilter :=
  (s.bearers.mem bearer).pfList.mapIdx fun i pf =>
    ⟨(s.pfs.mem pf).direction, (s.pfs.mem pf).identifier - 1, UInt8.ofNat (i + 1),
      (s.pfs.mem pf).rule.components⟩

end NextEpc

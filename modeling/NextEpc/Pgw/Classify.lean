import NextEpc.Pgw.Tft

/-!
# The classifier and the traffic flow template

A packet filter is read by the classifier as words and masks, and by the UE as components. Which
filters and packets are read alike by both.
-/

namespace NextEpc
variable {a b : Vector UInt32 4} {i n : Nat}

/-! ## Bits of addresses -/

theorem addressBit_zipWith_and (a b : Vector UInt32 4) (i : Nat) :
    addressBit (Vector.zipWith (· &&& ·) a b) i = (addressBit a i && addressBit b i) := by
  by_cases hi : i / 32 < 4
  · have hget (v : Vector UInt32 4) : v.toList.getD (i / 32) 0 = v[i / 32] := by
      simp [List.getD_eq_getElem?_getD, hi]
    simp only [addressBit, hget, Vector.getElem_zipWith, UInt32.toNat_and, Nat.testBit_and]
  · have hget (v : Vector UInt32 4) : v.toList.getD (i / 32) 0 = 0 := by
      rw [List.getD_eq_default]
      simp
      omega
    simp only [addressBit, hget]
    simp

theorem eq_of_addressBit (h : ∀ i < 128, addressBit a i = addressBit b i) : a = b := by
  apply Vector.ext
  intro k hk
  apply UInt32.toNat.inj
  apply Nat.eq_of_testBit_eq
  intro j
  by_cases hj : j < 32
  · have hbit := h (32 * k + (8 * (j / 8) + (7 - j % 8))) (by omega)
    have hword : (32 * k + (8 * (j / 8) + (7 - j % 8))) / 32 = k := by omega
    have hpos : 8 * ((32 * k + (8 * (j / 8) + (7 - j % 8))) % 32 / 8) +
        (7 - (32 * k + (8 * (j / 8) + (7 - j % 8))) % 8) = j := by omega
    simp only [addressBit, hword, hpos] at hbit
    simpa [List.getD_eq_getElem?_getD, hk] using hbit
  · have hzero (w : UInt32) : w.toNat.testBit j = false := by
      apply Nat.testBit_lt_two_pow
      calc w.toNat < 2 ^ 32 := w.toNat_lt
        _ ≤ 2 ^ j := Nat.pow_le_pow_right (by omega) (by omega)
    rw [hzero, hzero]

theorem testBit_u32 (mem : Memory) (k : Nat) {j l : Nat} (hj : j < 4) (hl : l < 8) :
    (mem.u32 k).toNat.testBit (8 * j + l) = (mem (k + j)).toNat.testBit l := by
  have h0 := (mem k).toNat_lt
  have h1 := (mem (k + 1)).toNat_lt
  have h2 := (mem (k + 2)).toNat_lt
  have h3 := (mem (k + 3)).toNat_lt
  have hword : (mem.u32 k).toNat = (mem k).toNat + 2 ^ 8 * (mem (k + 1)).toNat +
      2 ^ 16 * (mem (k + 2)).toNat + 2 ^ 24 * (mem (k + 3)).toNat := by
    rw [Memory.u32, UInt32.toNat_ofNat']
    exact Nat.mod_eq_of_lt (by omega)
  have hoctet : (mem.u32 k).toNat / 2 ^ (8 * j) % 2 ^ 8 = (mem (k + j)).toNat := by
    rw [hword]
    interval_cases j <;> norm_num <;> omega
  rw [← hoctet, Nat.testBit_mod_two_pow, Nat.testBit_div_two_pow]
  simp [hl, Nat.add_comm]

theorem testBit_minimask {m r : Nat} (hm : m ≤ 8) (hr : r < 8) :
    (minimask.getD m 0).toNat.testBit (7 - r) = decide (r < m) := by
  interval_cases m <;> interval_cases r <;> rfl

theorem addressBit_n2mask (hi : i < 128) : addressBit (n2mask n) i = decide (i < n) := by
  have hword : (n2mask n).toList.getD (i / 32) 0 = Memory.u32 (maskOctet n) (4 * (i / 32)) := by
    have hk : i / 32 < 4 := by omega
    simp [n2mask, List.getD_eq_getElem?_getD, hk]
  have hoctet : 4 * (i / 32) + i % 32 / 8 = i / 8 := by omega
  rw [addressBit, hword, testBit_u32 _ _ (by omega) (by omega), hoctet, maskOctet,
    testBit_minimask (by omega) (by omega)]
  apply decide_eq_decide.mpr
  omega

theorem contigmask_n2mask (hn : n ≤ 128) : contigmask (n2mask n) = n := by
  have hbit : ∀ i < 128, (!addressBit (n2mask n) i) = decide (n ≤ i) := by
    intro i hi
    rw [addressBit_n2mask hi, ← decide_not]
    exact decide_eq_decide.mpr Nat.not_lt
  have hfind : ((List.range 128).find? fun i => !addressBit (n2mask n) i).getD 128 = n := by
    by_cases hlt : n < 128
    · have hsome : (List.range 128).find? (fun i => !addressBit (n2mask n) i) = some n := by
        rw [List.find?_range_eq_some]
        refine ⟨by simp [hbit n hlt], List.mem_range.mpr hlt, ?_⟩
        intro j hj
        simpa [hbit j (by omega)] using hj
      rw [hsome, Option.getD_some]
    · have hnone : (List.range 128).find? (fun i => !addressBit (n2mask n) i) = none := by
        rw [List.find?_range_eq_none]
        intro j hj
        rw [hbit j hj]
        simp
        omega
      rw [hnone, Option.getD_none]
      omega
  have hany : ((List.range 128).any fun m =>
      decide (n + 1 ≤ m) && addressBit (n2mask n) m) = false := by
    rw [List.any_eq_false]
    intro m hm
    rw [addressBit_n2mask (List.mem_range.mp hm)]
    simp
    omega
  rw [contigmask]
  simp only [hfind, hany]
  rfl

/-! ## What a template says -/

/-- An IP packet as the components of a filter see it. A later fragment, which is not the first one,
has no ports. -/
structure IpPacket where
  family : AddressFamily
  src : Vector UInt32 4
  dst : Vector UInt32 4
  proto : UInt8
  ports : Option (UInt16 × UInt16)
  later : Bool

/-- The remote side of a rule is the destination of a downlink packet. -/
def TftComponent.Satisfied (pkt : IpPacket) : TftComponent → Prop
  | protocolIdentifierNextHeader proto => pkt.proto = proto
  | ipv4LocalAddress addr mask => pkt.family = .inet ∧ pkt.src.get 0 &&& mask = addr &&& mask
  | ipv4RemoteAddress addr mask => pkt.family = .inet ∧ pkt.dst.get 0 &&& mask = addr &&& mask
  | ipv6LocalAddressPrefixLength addr prefixlen =>
    pkt.family = .inet6 ∧ ∀ i < prefixlen.toNat, addressBit pkt.src i = addressBit addr i
  | ipv6RemoteAddressPrefixLength addr prefixlen =>
    pkt.family = .inet6 ∧ ∀ i < prefixlen.toNat, addressBit pkt.dst i = addressBit addr i
  | singleLocalPort low => ∃ p ∈ pkt.ports, p.1 = low
  | localPortRange low high => ∃ p ∈ pkt.ports, low ≤ p.1 ∧ p.1 ≤ high
  | singleRemotePort low => ∃ p ∈ pkt.ports, p.2 = low
  | remotePortRange low high => ∃ p ∈ pkt.ports, low ≤ p.2 ∧ p.2 ≤ high

def IpPacket.Satisfies (pkt : IpPacket) (components : List TftComponent) : Prop :=
  ∀ c ∈ components, c.Satisfied pkt

/-- From the header `nxt` at `p` on, the upper layer `proto` is found at `off`. -/
inductive UpperLayer (mem : Memory) (endp : Nat) : UInt8 → Nat → UInt8 → Nat → Prop
  | upper {nxt : UInt8} {p : Nat} : endp ≤ p ∨ extLength mem nxt p = none →
    UpperLayer mem endp nxt p nxt p
  | ext {nxt proto : UInt8} {p off length : Nat} : p < endp → extLength mem nxt p = some length →
    UpperLayer mem endp (mem p) (p + length) proto off → UpperLayer mem endp nxt p proto off

/-- The header at `p` is the fragment header of a later fragment: the offset is in the upper 13
bits. -/
def LaterFragment (mem : Memory) (nxt : UInt8) (p : Nat) : Prop :=
  nxt = ipprotoFragment ∧ mem.u16 (p + 2) / 8 ≠ 0

/-- From the header `nxt` at `p` on, the packet is of the protocol `proto` and has the header of it
at `off`. Behind the fragment header of a later fragment there is payload. -/
inductive ProtocolAt (mem : Memory) (endp : Nat) : UInt8 → Nat → UInt8 → Option Nat → Prop
  | upper {nxt : UInt8} {p : Nat} : endp ≤ p ∨ extLength mem nxt p = none →
    ProtocolAt mem endp nxt p nxt (some p)
  | later {nxt : UInt8} {p : Nat} : p < endp → LaterFragment mem nxt p →
    ProtocolAt mem endp nxt p (mem p) none
  | ext {nxt proto : UInt8} {p length : Nat} {off : Option Nat} : p < endp →
    extLength mem nxt p = some length → ¬LaterFragment mem nxt p →
    ProtocolAt mem endp (mem p) (p + length) proto off → ProtocolAt mem endp nxt p proto off

/-- TCP and UDP have their ports at the same place. -/
def portsAt (mem : Memory) (proto : UInt8) (off : Nat) : Option (UInt16 × UInt16) :=
  if proto = ipprotoTcp ∨ proto = ipprotoUdp then some (mem.u16 off, mem.u16 (off + 2)) else none

/-- What the classifier takes the memory for: it walks over fragment headers and takes the octets
behind the headers for ports, whatever the fragment offset is. An empty payload has no hop-by-hop
options: a jumbogram is longer than the buffers of the PGW. -/
inductive TakenFor (mem : Memory) : IpPacket → Prop
  | ipv4 : mem 0 / 16 = 4 → TakenFor mem ⟨.inet, mem.addr 12, mem.addr 16, mem 9,
      portsAt mem (mem 9) ((mem 0 % 16).toNat * 4), false⟩
  | ipv6 {proto : UInt8} {off : Nat} : mem 0 / 16 = 6 → (mem.u16 4 = 0 → mem 6 ≠ 0) →
    UpperLayer mem (40 + (mem.u16 4).toNat) (mem 6) 40 proto off → off < 2 ^ 16 →
    TakenFor mem ⟨.inet6, mem.addr 8, mem.addr 24, proto, portsAt mem proto off, false⟩

/-- The memory holds an IP packet. The offset of an IPv4 fragment is in the lower 13 bits. -/
inductive Carries (mem : Memory) : IpPacket → Prop
  | ipv4 : mem 0 / 16 = 4 → mem.u16 6 % 2 ^ 13 = 0 → Carries mem ⟨.inet, mem.addr 12, mem.addr 16,
      mem 9, portsAt mem (mem 9) ((mem 0 % 16).toNat * 4), false⟩
  | ipv4Later : mem 0 / 16 = 4 → mem.u16 6 % 2 ^ 13 ≠ 0 →
    Carries mem ⟨.inet, mem.addr 12, mem.addr 16, mem 9, none, true⟩
  | ipv6 {proto : UInt8} {off : Nat} : mem 0 / 16 = 6 → (mem.u16 4 = 0 → mem 6 ≠ 0) →
    ProtocolAt mem (40 + (mem.u16 4).toNat) (mem 6) 40 proto (some off) → off < 2 ^ 16 →
    Carries mem ⟨.inet6, mem.addr 8, mem.addr 24, proto, portsAt mem proto off, false⟩
  | ipv6Later {proto : UInt8} : mem 0 / 16 = 6 →
    ProtocolAt mem (40 + (mem.u16 4).toNat) (mem 6) 40 proto none →
    Carries mem ⟨.inet6, mem.addr 8, mem.addr 24, proto, none, true⟩

/-! ## Reading headers -/

theorem le_of_extLength {mem : Memory} {nxt : UInt8} {p length : Nat}
    (h : extLength mem nxt p = some length) : 8 ≤ length := by
  rw [extLength] at h
  split at h
  · cases h
    omega
  · split at h
    · cases h
      omega
    · split at h
      · cases h
        omega
      · cases h

theorem extHeaders_of_upperLayer {mem : Memory} {endp p off : Nat} {nxt proto : UInt8}
    (h : UpperLayer mem endp nxt p proto off) (n read : Nat) (hn : endp - p ≤ n) :
    ∃ read', extHeaders mem n nxt p endp read = (proto, off, read') := by
  induction h generalizing n read with
  | upper hstop =>
    cases n with
    | zero => exact ⟨read, rfl⟩
    | succ n =>
      refine ⟨read, ?_⟩
      rw [extHeaders]
      split
      · rename_i hlt
        rw [hstop.resolve_left (by omega)]
      · rfl
  | ext hlt hlength _ ih =>
    cases n with
    | zero => omega
    | succ n =>
      have hle := le_of_extLength hlength
      obtain ⟨read', hread'⟩ := ih n (max read _) (by omega)
      refine ⟨read', ?_⟩
      rw [extHeaders, if_pos hlt, hlength]
      exact hread'

/-- The payload of an IPv6 packet is not empty. -/
def HasPayload (mem : Memory) : AddressFamily → Prop
  | .inet => True
  | .inet6 => mem.u16 4 ≠ 0

theorem readHeader_of_takenFor {mem : Memory} {pkt : IpPacket} (h : TakenFor mem pkt)
    (hpayload : HasPayload mem pkt.family) (fuel : Nat) :
    ∃ hdr read, readHeader mem fuel = some (hdr, read) ∧ hdr.family = pkt.family ∧
      hdr.src = pkt.src ∧ hdr.dst = pkt.dst ∧ hdr.proto = pkt.proto ∧
      portsAt mem pkt.proto hdr.hlen.toNat = pkt.ports := by
  cases h with
  | ipv4 hversion =>
    refine ⟨_, _, by rw [readHeader, if_pos hversion], rfl, rfl, rfl, rfl, ?_⟩
    have hnibble : (mem 0 % 16).toNat < 16 := by
      rw [UInt8.toNat_mod]
      exact Nat.mod_lt _ (by decide)
    have hhlen : ((mem 0 % 16).toUInt16 * 4).toNat = (mem 0 % 16).toNat * 4 := by
      rw [UInt16.toNat_mul, UInt8.toNat_toUInt16]
      exact Nat.mod_eq_of_lt (by change _ * 4 < _; omega)
    simp only [hhlen]
  | @ipv6 proto off hversion _ hupper hoff =>
    have hplen : (mem.u16 4).toNat ≠ 0 := fun h => hpayload (UInt16.toNat.inj h)
    obtain ⟨read, hread⟩ := extHeaders_of_upperLayer hupper (mem.u16 4).toNat 40 (by omega)
    have hne : mem 0 / 16 ≠ 4 := by
      rw [hversion]
      decide
    have hdecode : decodeIpv6Header mem fuel = some (proto, off, read) := by
      simp only [decodeIpv6Header, if_neg hplen, hread]
    refine ⟨_, _, by rw [readHeader, if_neg hne, if_pos hversion, hdecode]; rfl, rfl, rfl, rfl,
      rfl, ?_⟩
    have hhlen : (UInt16.ofNat off).toNat = off := by
      rw [UInt16.toNat_ofNat']
      exact Nat.mod_eq_of_lt hoff
    simp only [hhlen]

/-- With an empty payload the header is not decoded. -/
theorem readHeader_of_empty {mem : Memory} {pkt : IpPacket} (h : TakenFor mem pkt)
    (hpayload : ¬HasPayload mem pkt.family) (fuel : Nat) : readHeader mem fuel = none := by
  cases h with
  | ipv4 => exact absurd trivial hpayload
  | ipv6 hversion hnxt =>
    have hplen : mem.u16 4 = 0 := not_not.mp hpayload
    have hne : mem 0 / 16 ≠ 4 := by
      rw [hversion]
      decide
    simp [readHeader, hversion, decodeIpv6Header, hplen, hnxt hplen]

theorem upperLayer_of_protocolAt {mem : Memory} {endp p off : Nat} {nxt proto : UInt8}
    (h : ProtocolAt mem endp nxt p proto (some off)) : UpperLayer mem endp nxt p proto off := by
  generalize hsome : some off = o at h
  induction h with
  | upper hstop =>
    cases hsome
    exact .upper hstop
  | later => cases hsome
  | ext hlt hlength _ _ ih => exact .ext hlt hlength (ih hsome)

/-- A packet has the version and the addresses that it is taken for. -/
theorem Carries.same {mem : Memory} {pkt seen : IpPacket} (h : Carries mem pkt)
    (hseen : TakenFor mem seen) :
    seen.family = pkt.family ∧ seen.src = pkt.src ∧ seen.dst = pkt.dst := by
  cases h with
  | ipv4 hversion | ipv4Later hversion =>
    cases hseen with
    | ipv4 => exact ⟨rfl, rfl, rfl⟩
    | ipv6 hversion' => exact absurd (hversion.symm.trans hversion') (by decide)
  | ipv6 hversion | ipv6Later hversion =>
    cases hseen with
    | ipv4 hversion' => exact absurd (hversion.symm.trans hversion') (by decide)
    | ipv6 => exact ⟨rfl, rfl, rfl⟩

/-- A packet that is no later fragment is taken for what it is. -/
theorem Carries.takenFor {mem : Memory} {pkt : IpPacket} (h : Carries mem pkt)
    (hlater : pkt.later = false) : TakenFor mem pkt := by
  cases h with
  | ipv4 hversion => exact .ipv4 hversion
  | ipv4Later => cases hlater
  | ipv6 hversion hnxt hupper hoff =>
    exact .ipv6 hversion hnxt (upperLayer_of_protocolAt hupper) hoff
  | ipv6Later => cases hlater

theorem Carries.ports_of_later {mem : Memory} {pkt : IpPacket} (h : Carries mem pkt)
    (hlater : pkt.later = true) : pkt.ports = none := by
  cases h with
  | ipv4 | ipv6 => cases hlater
  | ipv4Later | ipv6Later => rfl

/-- A packet with a payload is taken for one packet only. -/
theorem TakenFor.unique {mem : Memory} {pkt seen : IpPacket} (h : TakenFor mem pkt)
    (hseen : TakenFor mem seen) (hpayload : HasPayload mem pkt.family) :
    seen.proto = pkt.proto ∧ seen.ports = pkt.ports := by
  have hsame : seen.family = pkt.family := by
    cases h with
    | ipv4 hversion =>
      cases hseen with
      | ipv4 => rfl
      | ipv6 hversion' => exact absurd (hversion.symm.trans hversion') (by decide)
    | ipv6 hversion =>
      cases hseen with
      | ipv4 hversion' => exact absurd (hversion.symm.trans hversion') (by decide)
      | ipv6 => rfl
  obtain ⟨hdr, _, hread, -, -, -, hproto, hports⟩ := readHeader_of_takenFor h hpayload 0
  obtain ⟨hdr', _, hread', -, -, -, hproto', hports'⟩ :=
    readHeader_of_takenFor hseen (hsame ▸ hpayload) 0
  cases hread.symm.trans hread'
  have hsameProto := hproto'.symm.trans hproto
  rw [hsameProto, hports] at hports'
  exact ⟨hsameProto, hports'.symm⟩

/-! ## Rules that were compiled -/

/-- What the instructions leave in the addresses of one side. -/
def PgwIp.Compiled (ip : PgwIp) : (ipv4 ipv6 : Bool) → Prop
  | false, false => ip = .blank
  | true, false => ip.addr.get 0 &&& ip.mask.get 0 = ip.addr.get 0
  | false, true => Vector.zipWith (· &&& ·) ip.addr ip.mask = ip.addr ∧
      ∃ n ≤ 128, ip.mask = n2mask n
  | true, true => True

def PgwRule.Compiled (rule : PgwRule) : Prop :=
  rule.ipLocal.Compiled rule.ipv4Local rule.ipv6Local ∧
    rule.ipRemote.Compiled rule.ipv4Remote rule.ipv6Remote

theorem PgwIp.Compiled.setIpv4 {ip : PgwIp} {ipv4 ipv6 : Bool} (h : ip.Compiled ipv4 ipv6)
    {addr mask : UInt32} (hmasked : addr &&& mask = addr) :
    (ip.setIpv4 addr mask).Compiled true ipv6 := by
  cases ipv6 with
  | false =>
    have hget (v : Vector UInt32 4) (w : UInt32) : (v.set 0 w).get 0 = w :=
      Vector.getElem_set_self _
    simp only [PgwIp.Compiled, PgwIp.setIpv4, hget]
    exact hmasked
  | true => trivial

theorem PgwIp.compiled_ipv6 {addr mask : Vector UInt32 4} (ipv4 : Bool)
    (hmasked : Vector.zipWith (· &&& ·) addr mask = addr) (hmask : ∃ n ≤ 128, mask = n2mask n) :
    PgwIp.Compiled ⟨addr, mask⟩ ipv4 true := by
  cases ipv4 with
  | false => exact ⟨hmasked, hmask⟩
  | true => trivial

theorem and_allOnes (addr : UInt32) : addr &&& 0xffffffff = addr := by
  apply UInt32.toNat.inj
  rw [UInt32.toNat_and]
  exact (Nat.and_two_pow_sub_one_eq_mod addr.toNat 32).trans (Nat.mod_eq_of_lt addr.toNat_lt)

theorem zipWith_n2mask (addr : Vector UInt32 4) :
    Vector.zipWith (· &&& ·) addr (n2mask 128) = addr := by
  apply eq_of_addressBit
  intro i hi
  rw [addressBit_zipWith_and, addressBit_n2mask hi, decide_eq_true hi, Bool.and_true]

theorem PgwRule.Compiled.interpret {rule : PgwRule} (h : rule.Compiled) {insn : IpfwInsn}
    (hmasked : insn.Masked) : (rule.interpret insn).Compiled := by
  have hall : ∃ n ≤ 128, n2mask 128 = n2mask n := ⟨128, le_rfl, rfl⟩
  obtain ⟨opcode, fNot, fOr⟩ := insn
  cases opcode with
  | ipSrc addr => exact ⟨h.1.setIpv4 (and_allOnes addr), h.2⟩
  | ipSrcMask => exact ⟨h.1.setIpv4 hmasked, h.2⟩
  | ipDst addr => exact ⟨h.1, h.2.setIpv4 (and_allOnes addr)⟩
  | ipDstMask => exact ⟨h.1, h.2.setIpv4 hmasked⟩
  | ip6Src addr => exact ⟨PgwIp.compiled_ipv6 _ (zipWith_n2mask addr) hall, h.2⟩
  | ip6SrcMask => exact ⟨PgwIp.compiled_ipv6 _ hmasked.1 hmasked.2, h.2⟩
  | ip6Dst addr => exact ⟨h.1, PgwIp.compiled_ipv6 _ (zipWith_n2mask addr) hall⟩
  | ip6DstMask => exact ⟨h.1, PgwIp.compiled_ipv6 _ hmasked.1 hmasked.2⟩
  | proto => exact h
  | ipSrcport => exact h
  | ipDstport => exact h
  | other => exact h

/-- What the instructions keep holds of every rule that was compiled. -/
theorem invariant_of_compile {compileRule : List Bytes → Option (List IpfwInsn)}
    {I : PgwRule → Prop} (hblank : I .blank)
    (hinterpret : ∀ rule insn, insn.Masked → I rule → I (rule.interpret insn))
    (hmasked : ∀ av insns, compileRule av = some insns → ∀ insn ∈ insns, insn.Masked)
    {description : CString} {rule : PgwRule}
    (h : pgwCompilePacketFilter compileRule description = some rule) : I rule := by
  have hfoldl (insns : List IpfwInsn) (hall : ∀ insn ∈ insns, insn.Masked) :
      ∀ rule, I rule → I (insns.foldl PgwRule.interpret rule) := by
    induction insns with
    | nil => exact fun rule h => h
    | cons insn insns ih =>
      intro rule h
      apply ih fun insn' h' => hall insn' (List.mem_cons_of_mem insn h')
      exact hinterpret rule insn (hall insn List.mem_cons_self) h
  rw [pgwCompilePacketFilter] at h
  split at h
  · split at h
    · rw [Option.bind_eq_bind, Option.bind_eq_some_iff] at h
      obtain ⟨insns, hinsns, h⟩ := h
      dsimp only at h
      split at h
      · cases h
      · cases h
        exact hfoldl insns (hmasked _ _ hinsns) .blank hblank
    · cases h
  · cases h

theorem compiled_of_compile {compileRule : List Bytes → Option (List IpfwInsn)}
    (hmasked : ∀ av insns, compileRule av = some insns → ∀ insn ∈ insns, insn.Masked)
    {description : CString} {rule : PgwRule}
    (h : pgwCompilePacketFilter compileRule description = some rule) : rule.Compiled :=
  invariant_of_compile ⟨rfl, rfl⟩ (fun _ _ hinsn hrule => hrule.interpret hinsn) hmasked h

/-! ## Addresses -/

/-- A component for the other version of IP. -/
def OtherFamily (family : AddressFamily) (ipv4 ipv6 : Bool) : Prop :=
  match family with
  | .inet => ipv6 = true
  | .inet6 => ipv4 = true

/-- The prefix length that goes into the template. -/
def PgwIp.prefixlen (ip : PgwIp) : UInt8 := UInt8.ofNat (contigmask ip.mask % 256).toNat

theorem PgwIp.covers_inet {ip : PgwIp} {addr : Vector UInt32 4} :
    ip.covers .inet addr = true ↔ addr.get 0 &&& ip.mask.get 0 = ip.addr.get 0 := by
  have hget : (Vector.zipWith (· &&& ·) addr ip.mask).get 0 = addr.get 0 &&& ip.mask.get 0 :=
    Vector.getElem_zipWith _
  rw [PgwIp.covers, AddressFamily.same, hget, beq_iff_eq]

theorem PgwIp.covers_inet6 {ip : PgwIp} {addr : Vector UInt32 4} :
    ip.covers .inet6 addr = true ↔ Vector.zipWith (· &&& ·) addr ip.mask = ip.addr := by
  simp [PgwIp.covers, AddressFamily.same]

theorem PgwIp.covers_blank (family : AddressFamily) (addr : Vector UInt32 4) :
    PgwIp.blank.covers family addr = true := by
  have hzero : Vector.zipWith (· &&& ·) addr PgwIp.blank.mask = PgwIp.blank.addr := by
    apply Vector.ext
    intro k hk
    simp [PgwIp.blank]
  rw [PgwIp.covers, hzero]
  cases family <;> simp [AddressFamily.same]

/-- For the masks of `n2mask`, comparing the words under the mask is comparing a prefix. -/
theorem PgwIp.covers_iff_prefix {ip : PgwIp} (hip : ip.Compiled false true)
    (addr : Vector UInt32 4) : ip.covers .inet6 addr = true ↔
      ∀ i < ip.prefixlen.toNat, addressBit addr i = addressBit ip.addr i := by
  obtain ⟨hmasked, n, hn, hmask⟩ := hip
  have hprefixlen : ip.prefixlen.toNat = n := by
    rw [PgwIp.prefixlen, hmask, contigmask_n2mask hn, UInt8.toNat_ofNat']
    omega
  have hbit : ∀ i < 128, addressBit ip.addr i = (addressBit ip.addr i && decide (i < n)) := by
    intro i hi
    conv_lhs => rw [← hmasked]
    rw [addressBit_zipWith_and, hmask, addressBit_n2mask hi]
  rw [PgwIp.covers_inet6, hprefixlen]
  constructor
  · intro h i hi
    rw [← h, addressBit_zipWith_and, hmask, addressBit_n2mask (by omega), decide_eq_true hi,
      Bool.and_true]
  · intro h
    apply eq_of_addressBit
    intro i hi
    rw [addressBit_zipWith_and, hmask, addressBit_n2mask hi, hbit i hi]
    by_cases hlt : i < n
    · rw [h i hlt]
    · simp [hlt]

/-- The components of one side, and the words and masks of the classifier. -/
theorem PgwIp.components_iff {ip : PgwIp} {ipv4 ipv6 : Bool} (hip : ip.Compiled ipv4 ipv6)
    (family : AddressFamily) (addr : Vector UInt32 4) :
    ((ipv4 = true → family = .inet ∧
        addr.get 0 &&& ip.mask.get 0 = ip.addr.get 0 &&& ip.mask.get 0) ∧
      (ipv6 = true → family = .inet6 ∧
        ∀ i < ip.prefixlen.toNat, addressBit addr i = addressBit ip.addr i)) ↔
      ¬OtherFamily family ipv4 ipv6 ∧ ip.covers family addr = true := by
  cases ipv4 with
  | false =>
    cases ipv6 with
    | false =>
      cases hip
      cases family <;> simp [OtherFamily, PgwIp.covers_blank]
    | true =>
      cases family with
      | inet => simp [OtherFamily]
      | inet6 => simp [OtherFamily, PgwIp.covers_iff_prefix hip]
  | true =>
    cases ipv6 with
    | false =>
      cases family with
      | inet =>
        have hmasked : ip.addr.get 0 &&& ip.mask.get 0 = ip.addr.get 0 := hip
        simp [OtherFamily, PgwIp.covers_inet, hmasked]
      | inet6 => simp [OtherFamily]
    | true => cases family <;> simp [OtherFamily]

/-! ## Ports -/

/-- The components of a port range are satisfied. -/
def PgwPort.Allows (range : PgwPort) (port : Option UInt16) : Prop :=
  range.low ≠ 0 → ∃ p ∈ port, range.low ≤ p ∧ p ≤ range.high

/-- A range from 0 that the port is above. The template has no component for it. -/
def PgwPort.Open (range : PgwPort) (port : UInt16) : Prop :=
  range.low = 0 ∧ range.high ≠ 0 ∧ range.high < port

/-- A range that ends with 0. The classifier has no upper bound for it. -/
def PgwPort.Reversed (range : PgwPort) : Prop := range.low ≠ 0 ∧ range.high = 0

theorem PgwPort.components_iff {range : PgwPort} {single : UInt16 → TftComponent}
    {ports : UInt16 → UInt16 → TftComponent} {pkt : IpPacket} {port : Option UInt16}
    (hsingle : ∀ low, (single low).Satisfied pkt ↔ ∃ p ∈ port, p = low)
    (hports : ∀ low high, (ports low high).Satisfied pkt ↔ ∃ p ∈ port, low ≤ p ∧ p ≤ high) :
    pkt.Satisfies (range.components single ports) ↔ range.Allows port := by
  rw [PgwPort.components, PgwPort.Allows]
  split
  · rename_i hlow
    simp [IpPacket.Satisfies, hlow]
  · rename_i hlow
    split
    · rename_i hsame
      have heq (p : UInt16) : range.low ≤ p ∧ p ≤ range.high ↔ p = range.low := by
        rw [← hsame, ← UInt16.le_antisymm_iff, eq_comm]
      simp [IpPacket.Satisfies, hsingle, hlow, heq]
    · simp [IpPacket.Satisfies, hports, hlow]

theorem PgwPort.passes_iff {range : PgwPort} {port : UInt16} : range.passes port = true ↔
    (range.low ≠ 0 → range.low ≤ port) ∧ (range.high ≠ 0 → port ≤ range.high) := by
  simp only [PgwPort.passes, Bool.and_eq_true, Bool.not_eq_true', Bool.and_eq_false_iff,
    bne_eq_false_iff_eq, decide_eq_false_iff_not, UInt16.not_lt, ne_eq, or_iff_not_imp_left]

theorem PgwPort.allows_some {range : PgwPort} {port : UInt16} :
    range.Allows (some port) ↔ (range.low ≠ 0 → range.low ≤ port ∧ port ≤ range.high) := by
  simp [PgwPort.Allows]

theorem PgwPort.passes_of_allows {range : PgwPort} {port : UInt16}
    (h : range.Allows (some port)) (hopen : ¬range.Open port) : range.passes port = true := by
  rw [PgwPort.allows_some] at h
  rw [PgwPort.passes_iff]
  refine ⟨fun hlow => (h hlow).1, fun hhigh => ?_⟩
  by_cases hlow : range.low = 0
  · exact UInt16.not_lt.mp fun hlt => hopen ⟨hlow, hhigh, hlt⟩
  · exact (h hlow).2

theorem PgwPort.allows_of_passes {range : PgwPort} {port : UInt16}
    (h : range.passes port = true) (hreversed : ¬range.Reversed) : range.Allows (some port) := by
  rw [PgwPort.passes_iff] at h
  rw [PgwPort.allows_some]
  intro hlow
  exact ⟨h.1 hlow, h.2 fun hhigh => hreversed ⟨hlow, hhigh⟩⟩

theorem PgwPort.not_open_of_passes {range : PgwPort} {port : UInt16}
    (h : range.passes port = true) : ¬range.Open port := by
  rw [PgwPort.passes_iff] at h
  rintro ⟨-, hhigh, hlt⟩
  exact UInt16.not_le.mpr hlt (h.2 hhigh)

theorem PgwPort.not_reversed_of_allows {range : PgwPort} {port : UInt16}
    (h : range.Allows (some port)) : ¬range.Reversed := by
  rw [PgwPort.allows_some] at h
  rintro ⟨hlow, hhigh⟩
  have hle := h hlow
  have hzero : port = 0 := by
    have := hhigh ▸ hle.2
    exact UInt16.le_antisymm this (UInt16.zero_le)
  rw [hzero] at hle
  exact hlow (UInt16.le_antisymm hle.1 UInt16.zero_le)

/-! ## Filters and packets -/

/-- The protocols whose ports the classifier looks at. -/
def HasPorts (proto : UInt8) : Prop := proto = ipprotoTcp ∨ proto = ipprotoUdp

instance (proto : UInt8) : Decidable (HasPorts proto) := inferInstanceAs (Decidable (_ ∨ _))

namespace PgwRule

/-- The rule has an address of the other version of IP. -/
def OtherFamily (rule : PgwRule) (family : AddressFamily) : Prop :=
  NextEpc.OtherFamily family rule.ipv4Local rule.ipv6Local ∨
    NextEpc.OtherFamily family rule.ipv4Remote rule.ipv6Remote

/-- The words of both addresses of the packet, under the masks of the rule. -/
def Covers (rule : PgwRule) (pkt : IpPacket) : Prop :=
  rule.ipLocal.covers pkt.family pkt.src = true ∧ rule.ipRemote.covers pkt.family pkt.dst = true

/-- The protocol of the rule, if it has one, is that of the packet. -/
def SameProto (rule : PgwRule) (pkt : IpPacket) : Prop := rule.proto ≠ 0 → pkt.proto = rule.proto

/-- The ports of the packet are between the bounds that are not 0. -/
def PortsPass (rule : PgwRule) (pkt : IpPacket) : Prop :=
  ∀ p ∈ pkt.ports, rule.portLocal.passes p.1 = true ∧ rule.portRemote.passes p.2 = true

/-- The port components of the template are satisfied. -/
def PortsAllowed (rule : PgwRule) (pkt : IpPacket) : Prop :=
  rule.portLocal.Allows (pkt.ports.map Prod.fst) ∧
    rule.portRemote.Allows (pkt.ports.map Prod.snd)

/-- The ports of the packet mean the same to both. Without TCP or UDP in the rule the classifier
does not look at them. With it, a range from 0 must not end below a port that the template allows,
and no range that the packet passes may end with 0. -/
def PortsReadAlike (rule : PgwRule) (pkt : IpPacket) : Prop :=
  (¬HasPorts rule.proto → rule.PortsAllowed pkt) ∧
    (HasPorts rule.proto → rule.PortsAllowed pkt →
      ∀ p ∈ pkt.ports, ¬rule.portLocal.Open p.1 ∧ ¬rule.portRemote.Open p.2) ∧
    (HasPorts rule.proto → rule.PortsPass pkt →
      ¬rule.portLocal.Reversed ∧ ¬rule.portRemote.Reversed)

/-- A later fragment satisfies the template if it is of the protocol of the rule and the template
has no component for ports. Then the octets that the classifier takes for ports are between the
bounds, and otherwise the classifier looks at ports and they are not. -/
def FragmentReadAlike (rule : PgwRule) (pkt seen : IpPacket) : Prop :=
  (rule.SameProto pkt ∧ rule.portLocal.low = 0 ∧ rule.portRemote.low = 0 →
    HasPorts rule.proto → rule.PortsPass seen) ∧
  (¬(rule.SameProto pkt ∧ rule.portLocal.low = 0 ∧ rule.portRemote.low = 0) →
    HasPorts rule.proto ∧ ¬rule.PortsPass seen)

end PgwRule

/-- `pgw_bearer_find_by_packet` matches the packet against the filter. -/
def FilterMatches (mem : Memory) (fuel : Nat) (pf : PgwPfRecord) : Prop :=
  ∃ hdr read, readHeader mem fuel = some (hdr, read) ∧ pf.matchesPacket mem hdr = true

/-- The classifier and the template of the UE agree, and the classifier keeps the versions of IP
apart. -/
def Agree (mem : Memory) (fuel : Nat) (pf : PgwPfRecord) (pkt : IpPacket) : Prop :=
  (FilterMatches mem fuel pf ↔ pkt.Satisfies pf.rule.components) ∧
    (pf.rule.OtherFamily pkt.family → ¬FilterMatches mem fuel pf)

/-- When the classifier looks at a filter it is for downlink only and the packet has a payload.
Then, if the addresses are those of the filter, and so is the protocol that it takes the packet for,
there is no component of the other version of IP, unless the ports exclude the packet, and the ports
mean the same to both. Otherwise the packet does not satisfy the template. -/
def ReadAlike (mem : Memory) (pf : PgwPfRecord) (pkt seen : IpPacket) : Prop :=
  (pf.direction = 1 ∧ HasPayload mem pkt.family → pf.rule.Covers pkt → pf.rule.SameProto seen →
    (pf.rule.OtherFamily pkt.family → HasPorts pf.rule.proto ∧ ¬pf.rule.PortsPass seen) ∧
    (¬pf.rule.OtherFamily pkt.family →
      if pkt.later then pf.rule.FragmentReadAlike pkt seen else pf.rule.PortsReadAlike pkt)) ∧
  (¬((pf.direction = 1 ∧ HasPayload mem pkt.family) ∧ pf.rule.SameProto seen) →
    ¬pkt.Satisfies pf.rule.components)

theorem satisfies_append {pkt : IpPacket} {l₁ l₂ : List TftComponent} :
    pkt.Satisfies (l₁ ++ l₂) ↔ pkt.Satisfies l₁ ∧ pkt.Satisfies l₂ :=
  List.forall_mem_append

theorem satisfies_optional {pkt : IpPacket} {c : TftComponent} {p : Bool} :
    pkt.Satisfies (if p then [c] else []) ↔ (p = true → c.Satisfied pkt) := by
  cases p <;> simp [IpPacket.Satisfies]

theorem satisfies_iff (pkt : IpPacket) {rule : PgwRule} (h : rule.Compiled) :
    pkt.Satisfies rule.components ↔ rule.SameProto pkt ∧
      (¬rule.OtherFamily pkt.family ∧ rule.Covers pkt) ∧ rule.PortsAllowed pkt := by
  have hproto : pkt.Satisfies (if rule.proto = 0 then []
      else [.protocolIdentifierNextHeader rule.proto]) ↔ rule.SameProto pkt := by
    rw [PgwRule.SameProto]
    split
    · rename_i hzero
      simp [IpPacket.Satisfies, hzero]
    · rename_i hzero
      simp [IpPacket.Satisfies, TftComponent.Satisfied, hzero]
  have hlocal := PgwIp.components_iff h.1 pkt.family pkt.src
  have hremote := PgwIp.components_iff h.2 pkt.family pkt.dst
  have hport {f : UInt16 × UInt16 → UInt16} (q : UInt16 → Prop) :
      (∃ p ∈ pkt.ports, q (f p)) ↔ ∃ p ∈ pkt.ports.map f, q p := by
    cases pkt.ports <;> simp
  have hportLocal : pkt.Satisfies (rule.portLocal.components .singleLocalPort .localPortRange) ↔
      rule.portLocal.Allows (pkt.ports.map Prod.fst) :=
    PgwPort.components_iff (fun low => hport fun p => p = low)
      fun low high => hport fun p => low ≤ p ∧ p ≤ high
  have hportRemote : pkt.Satisfies (rule.portRemote.components .singleRemotePort
      .remotePortRange) ↔ rule.portRemote.Allows (pkt.ports.map Prod.snd) :=
    PgwPort.components_iff (fun low => hport fun p => p = low)
      fun low high => hport fun p => low ≤ p ∧ p ≤ high
  simp only [PgwRule.components, satisfies_append, satisfies_optional, hproto, hportLocal,
    hportRemote, TftComponent.Satisfied]
  rw [PgwIp.prefixlen] at hlocal hremote
  rw [PgwRule.OtherFamily, not_or, PgwRule.Covers, PgwRule.PortsAllowed]
  constructor
  · rintro ⟨⟨⟨⟨⟨⟨hsame, hl4⟩, hr4⟩, hl6⟩, hr6⟩, hpl⟩, hpr⟩
    have hl := hlocal.mp ⟨hl4, hl6⟩
    have hr := hremote.mp ⟨hr4, hr6⟩
    exact ⟨hsame, ⟨⟨hl.1, hr.1⟩, hl.2, hr.2⟩, hpl, hpr⟩
  · rintro ⟨hsame, ⟨⟨hlo, hro⟩, hlc, hrc⟩, hpl, hpr⟩
    have hl := hlocal.mpr ⟨hlo, hlc⟩
    have hr := hremote.mpr ⟨hro, hrc⟩
    exact ⟨⟨⟨⟨⟨⟨hsame, hl.1⟩, hr.1⟩, hl.2⟩, hr.2⟩, hpl⟩, hpr⟩

theorem ports_agree {rule : PgwRule} {pkt : IpPacket} (hports : HasPorts rule.proto)
    (hsome : pkt.ports.isSome) :
    (rule.PortsPass pkt ↔ rule.PortsAllowed pkt) ↔ rule.PortsReadAlike pkt := by
  obtain ⟨⟨src, dst⟩, hp⟩ := Option.isSome_iff_exists.mp hsome
  simp only [PgwRule.PortsPass, PgwRule.PortsAllowed, PgwRule.PortsReadAlike, hp, hports,
    not_true_eq_false, false_implies, true_implies, true_and, Option.mem_some_iff, forall_eq',
    Option.map_some]
  constructor
  · intro h
    constructor
    · intro hallowed
      have hpass := h.mpr hallowed
      exact ⟨PgwPort.not_open_of_passes hpass.1, PgwPort.not_open_of_passes hpass.2⟩
    · intro hpass
      have hallowed := h.mp hpass
      exact ⟨PgwPort.not_reversed_of_allows hallowed.1, PgwPort.not_reversed_of_allows hallowed.2⟩
  · rintro ⟨hopen, hreversed⟩
    constructor
    · intro hpass
      exact ⟨PgwPort.allows_of_passes hpass.1 (hreversed hpass).1,
        PgwPort.allows_of_passes hpass.2 (hreversed hpass).2⟩
    · intro hallowed
      exact ⟨PgwPort.passes_of_allows hallowed.1 (hopen hallowed).1,
        PgwPort.passes_of_allows hallowed.2 (hopen hallowed).2⟩

/-- What the classifier compares, in terms of what it takes the packet for. -/
theorem filterMatches_iff {mem : Memory} {pkt : IpPacket} (h : TakenFor mem pkt) (fuel : Nat)
    (pf : PgwPfRecord) : FilterMatches mem fuel pf ↔
      (pf.direction = 1 ∧ HasPayload mem pkt.family) ∧ pf.rule.Covers pkt ∧
        pf.rule.SameProto pkt ∧ (HasPorts pf.rule.proto → pf.rule.PortsPass pkt) := by
  by_cases hpayload : HasPayload mem pkt.family
  · obtain ⟨hdr, read, hread, hfamily, hsrc, hdst, hproto, hports⟩ :=
      readHeader_of_takenFor h hpayload fuel
    have hmatch : FilterMatches mem fuel pf ↔ pf.matchesPacket mem hdr = true := by
      constructor
      · rintro ⟨hdr', read', hread', hmatch⟩
        rw [hread] at hread'
        cases hread'
        exact hmatch
      · exact fun hmatch => ⟨hdr, read, hread, hmatch⟩
    have hcovers : pf.rule.covers hdr = true ↔ pf.rule.Covers pkt := by
      rw [PgwRule.covers, Bool.and_eq_true, hfamily, hsrc, hdst, PgwRule.Covers]
    have hpass : HasPorts pf.rule.proto → pkt.proto = pf.rule.proto →
        (pf.rule.portsPass mem hdr.hlen.toNat = true ↔ pf.rule.PortsPass pkt) := by
      intro hhas hsame
      rw [PgwRule.PortsPass, ← hports, portsAt, if_pos (hsame ▸ hhas)]
      simp [PgwRule.portsPass]
    have htcp : (pf.rule.proto == ipprotoTcp || pf.rule.proto == ipprotoUdp) = true ↔
        HasPorts pf.rule.proto := by simp [HasPorts]
    have hbody : pf.matchesPacket mem hdr = true ↔ (pf.direction = 1 ∧ pf.rule.covers hdr = true) ∧
        (pf.rule.proto = 0 ∨ pf.rule.proto = pkt.proto ∧
          (HasPorts pf.rule.proto → pf.rule.portsPass mem hdr.hlen.toNat = true)) := by
      rw [PgwPfRecord.matchesPacket, hproto]
      simp only [Bool.and_eq_true, Bool.or_eq_true, beq_iff_eq, ← htcp, Bool.not_eq_true',
        ← Bool.not_eq_true, ← imp_iff_not_or]
    rw [hmatch, hbody, hcovers]
    by_cases hzero : pf.rule.proto = 0
    · have hnone : ¬HasPorts pf.rule.proto := by
        rw [hzero]
        decide
      simp only [hzero, hpayload, PgwRule.SameProto, and_true, true_or, ne_eq, not_true_eq_false,
        false_implies, true_and]
      rw [hzero] at hnone
      simp [hnone]
    · simp only [hzero, false_or, hpayload, and_true, PgwRule.SameProto, not_false_eq_true,
        true_implies, ne_eq]
      constructor
      · rintro ⟨⟨hdir, hcov⟩, hsame, himp⟩
        exact ⟨hdir, hcov, hsame.symm, fun hhas => (hpass hhas hsame.symm).mp (himp hhas)⟩
      · rintro ⟨hdir, hcov, hsame, himp⟩
        exact ⟨⟨hdir, hcov⟩, hsame.symm, fun hhas => (hpass hhas hsame).mpr (himp hhas)⟩
  · have hnone := readHeader_of_empty h hpayload fuel
    simp [FilterMatches, hnone, hpayload]

theorem isSome_portsAt {mem : Memory} {proto : UInt8} (h : HasPorts proto) (off : Nat) :
    (portsAt mem proto off).isSome := by
  rw [HasPorts] at h
  rw [portsAt, if_pos h]
  rfl

theorem isSome_ports {mem : Memory} {pkt : IpPacket} (h : TakenFor mem pkt)
    (hports : HasPorts pkt.proto) : pkt.ports.isSome := by
  cases h with
  | ipv4 => exact isSome_portsAt hports _
  | ipv6 => exact isSome_portsAt hports _

/-- Where the protocol is the same, the ports decide alike if and only if they mean the same. -/
theorem portsReadAlike_iff {mem : Memory} {pkt : IpPacket} {rule : PgwRule} (h : TakenFor mem pkt)
    (hsame : rule.SameProto pkt) :
    ((HasPorts rule.proto → rule.PortsPass pkt) ↔ rule.PortsAllowed pkt) ↔
      rule.PortsReadAlike pkt := by
  by_cases hports : HasPorts rule.proto
  · have hproto : pkt.proto = rule.proto := by
      apply hsame
      rintro hzero
      rw [hzero] at hports
      exact absurd hports (by decide)
    rw [← ports_agree hports (isSome_ports h (hproto ▸ hports))]
    simp [hports]
  · simp [PgwRule.PortsReadAlike, hports]

/-- The template asks no ports of a later fragment only if it has no component for them. -/
theorem fragmentReadAlike_iff {rule : PgwRule} {pkt seen : IpPacket} (hnone : pkt.ports = none) :
    ((HasPorts rule.proto → rule.PortsPass seen) ↔ rule.SameProto pkt ∧ rule.PortsAllowed pkt) ↔
      rule.FragmentReadAlike pkt seen := by
  have hallowed : rule.PortsAllowed pkt ↔ rule.portLocal.low = 0 ∧ rule.portRemote.low = 0 := by
    simp [PgwRule.PortsAllowed, PgwPort.Allows, hnone]
  rw [PgwRule.FragmentReadAlike, ← hallowed]
  by_cases hsat : rule.SameProto pkt ∧ rule.PortsAllowed pkt
  · simp [hsat]
  · simp [hsat]

/-- For every filter that was compiled and every packet, classifier and template agree if and only
if the filter and the packet are read alike. -/
theorem agree_iff {compileRule : List Bytes → Option (List IpfwInsn)}
    (hmasked : ∀ av insns, compileRule av = some insns → ∀ insn ∈ insns, insn.Masked)
    {description : CString} {pf : PgwPfRecord}
    (hcompile : pgwCompilePacketFilter compileRule description = some pf.rule)
    {mem : Memory} {pkt seen : IpPacket} (hpkt : Carries mem pkt) (hseen : TakenFor mem seen)
    (fuel : Nat) : Agree mem fuel pf pkt ↔ ReadAlike mem pf pkt seen := by
  have hsat := satisfies_iff pkt (compiled_of_compile hmasked hcompile)
  obtain ⟨hfamily, hsrc, hdst⟩ := hpkt.same hseen
  have hcov : pf.rule.Covers seen ↔ pf.rule.Covers pkt := by
    rw [PgwRule.Covers, PgwRule.Covers, hfamily, hsrc, hdst]
  rw [Agree, ReadAlike, filterMatches_iff hseen, hfamily, hcov]
  by_cases hlooks : (pf.direction = 1 ∧ HasPayload mem pkt.family) ∧ pf.rule.SameProto seen
  · by_cases hcovers : pf.rule.Covers pkt
    · have hports : ¬pf.rule.OtherFamily pkt.family →
          (((HasPorts pf.rule.proto → pf.rule.PortsPass seen) ↔
            pf.rule.SameProto pkt ∧ pf.rule.PortsAllowed pkt) ↔
          if pkt.later then pf.rule.FragmentReadAlike pkt seen else pf.rule.PortsReadAlike pkt) := by
        intro _
        cases hlater : pkt.later with
        | true => exact fragmentReadAlike_iff (hpkt.ports_of_later hlater)
        | false =>
          have htaken := hpkt.takenFor hlater
          obtain ⟨hproto, hsame⟩ := htaken.unique hseen hlooks.1.2
          have hsameProto : pf.rule.SameProto pkt := fun h => hproto.symm.trans (hlooks.2 h)
          have hpass : pf.rule.PortsPass seen ↔ pf.rule.PortsPass pkt := by
            rw [PgwRule.PortsPass, PgwRule.PortsPass, hsame]
          rw [hpass, and_iff_right hsameProto]
          exact portsReadAlike_iff htaken hsameProto
      rw [hsat]
      by_cases hother : pf.rule.OtherFamily pkt.family
      · simp only [hlooks, hcovers, hother, true_and, not_true_eq_false, false_and, and_false,
          true_implies, false_implies, iff_false, not_false_eq_true, and_true, and_self]
        exact Classical.not_imp
      · simp only [hlooks, hcovers, hother, true_and, not_true_eq_false, not_false_eq_true,
          true_implies, false_implies, and_true, and_self]
        exact hports hother
    · have hnot : ¬pkt.Satisfies pf.rule.components := by
        rw [hsat]
        exact fun h => hcovers h.2.1.2
      simp [hlooks, hnot, hcovers]
  · have hnone : ¬((pf.direction = 1 ∧ HasPayload mem pkt.family) ∧ pf.rule.Covers pkt ∧
        pf.rule.SameProto seen ∧ (HasPorts pf.rule.proto → pf.rule.PortsPass seen)) :=
      fun h => hlooks ⟨h.1, h.2.2.1⟩
    have hsilent : pf.direction = 1 ∧ HasPayload mem pkt.family → ¬pf.rule.SameProto seen :=
      fun h hsame => hlooks ⟨h, hsame⟩
    simp only [hnone, hlooks, false_iff, not_false_eq_true, implies_true, and_true, true_implies]
    exact ⟨fun h => ⟨fun hf _ hs => absurd hs (hsilent hf), h⟩, fun h => h.2⟩

/-! ## A filter for UDP -/

/-- `"permit out udp from 10.0.0.1 to 10.45.0.2"` -/
def udpDescription : CString where
  octets := [0x70, 0x65, 0x72, 0x6d, 0x69, 0x74, 0x20, 0x6f, 0x75, 0x74, 0x20, 0x75, 0x64, 0x70,
    0x20, 0x66, 0x72, 0x6f, 0x6d, 0x20, 0x31, 0x30, 0x2e, 0x30, 0x2e, 0x30, 0x2e, 0x31, 0x20, 0x74,
    0x6f, 0x20, 0x31, 0x30, 0x2e, 0x34, 0x35, 0x2e, 0x30, 0x2e, 0x32]
  nonzero := by decide

/-- What `compile_rule` makes of it. -/
def udpInsns : List IpfwInsn :=
  [⟨.proto 17, false, false⟩, ⟨.ipSrc 0x0100000a, false, false⟩, ⟨.ipDst 0x02002d0a, false, false⟩]

def udpRule : PgwRule := udpInsns.foldl PgwRule.interpret .blank

theorem compile_udp : pgwCompilePacketFilter (fun _ => some udpInsns) udpDescription =
    some udpRule := by decide +kernel

theorem masked_udp : ∀ av insns, (fun _ : List Bytes => some udpInsns) av = some insns →
    ∀ insn ∈ insns, insn.Masked := by
  rintro - insns ⟨⟩ insn hinsn
  simp only [udpInsns, List.mem_cons, List.not_mem_nil, or_false] at hinsn
  rcases hinsn with rfl | rfl | rfl <;> trivial

/-- The header of a UDP packet from 10.0.0.1 to 10.45.0.2 and its ports. -/
def udpMemory : Memory := fun i =>
  [0x45, 0, 0, 28, 0, 0, 0, 0, 64, 17, 0, 0, 10, 0, 0, 1, 10, 45, 0, 2, 0, 80, 0, 90].getD i 0

def udpPacket : IpPacket :=
  ⟨.inet, udpMemory.addr 12, udpMemory.addr 16, 17, some (80, 90), false⟩

theorem carries_udp : Carries udpMemory udpPacket := Carries.ipv4 (by decide) (by decide)

theorem takenFor_udp : TakenFor udpMemory udpPacket := carries_udp.takenFor rfl

theorem read_udp : udpRule.SameProto udpPacket ∧
    (¬udpRule.OtherFamily udpPacket.family ∧ udpRule.Covers udpPacket) ∧
    udpRule.PortsAllowed udpPacket := by
  refine ⟨fun _ => rfl, ⟨?_, by decide +kernel, by decide +kernel⟩, ?_, ?_⟩
  · rintro (h | h)
    · exact Bool.noConfusion h
    · exact Bool.noConfusion h
  · exact fun h => absurd rfl h
  · exact fun h => absurd rfl h

theorem satisfies_udp : udpPacket.Satisfies udpRule.components :=
  (satisfies_iff _ (compiled_of_compile masked_udp compile_udp)).mpr read_udp

/-- The filter for downlink only. -/
theorem agree_udp : Agree udpMemory 0 ⟨1, 1, udpRule, 1⟩ udpPacket := by
  apply (agree_iff masked_udp compile_udp carries_udp takenFor_udp 0).mpr
  refine ⟨fun _ _ _ => ⟨fun h => absurd h read_udp.2.1.1, fun _ => ⟨?_, ?_, ?_⟩⟩, ?_⟩
  · exact fun _ => read_udp.2.2
  · rintro - - p -
    exact ⟨fun h => h.2.1 rfl, fun h => h.2.1 rfl⟩
  · exact fun _ _ => ⟨fun h => h.1 rfl, fun h => h.1 rfl⟩
  · exact fun h => absurd ⟨⟨rfl, trivial⟩, read_udp.1⟩ h

/-- The filter for both directions: the template is satisfied, and the classifier passes over the
filter. -/
theorem bidirectional_filter : ¬∀ (compileRule : List Bytes → Option (List IpfwInsn)),
    (∀ av insns, compileRule av = some insns → ∀ insn ∈ insns, insn.Masked) →
    ∀ (description : CString) (pf : PgwPfRecord),
      pgwCompilePacketFilter compileRule description = some pf.rule →
      pf.direction = 1 ∨ pf.direction = 3 →
      ∀ mem pkt, Carries mem pkt → ∀ fuel, Agree mem fuel pf pkt := by
  intro hclaim
  have hagree := hclaim _ masked_udp udpDescription ⟨3, 1, udpRule, 1⟩ compile_udp (Or.inr rfl)
    udpMemory udpPacket carries_udp 0
  have hmatch := hagree.1.mpr satisfies_udp
  rw [filterMatches_iff takenFor_udp] at hmatch
  exact absurd hmatch.1.1 (by decide)

end NextEpc

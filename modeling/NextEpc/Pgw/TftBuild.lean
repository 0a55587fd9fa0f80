import NextEpc.Lib.Codec
import NextEpc.Pgw.Classify

/-!
# The octets of a traffic flow template

`encode_traffic_flow_template` fills an array of filters with the lengths of their components, and
`ogs_gtp_build_tft` writes them to a buffer; the number of filters and their identifiers have 4
bits. A UE reads the octets as TS 24.008 has it.
-/

namespace NextEpc

/-- The places of the assertions: the length of the buffer, and the room for the next field. -/
inductive TftSite
  | dataLen
  | size
  deriving DecidableEq, Repr

abbrev TftM := Fallible TftSite

/-- `OGS_GTP_MAX_TRAFFIC_FLOW_TEMPLATE` -/
def maxTrafficFlowTemplate : Nat := 255

/-- `OGS_GTP_TFT_CODE_CREATE_NEW_TFT` -/
def tftCodeCreateNewTft : UInt8 := 1

/-- A filter in `ogs_gtp_tft_t`. -/
structure GtpPacketFilter where
  direction : UInt8
  identifier : UInt8
  precedence : UInt8
  length : UInt8
  component : List TftComponent
  deriving DecidableEq

/-- `ogs_gtp_tft_t` with the filters that were filled in. -/
structure GtpTft where
  code : UInt8
  numOfPacketFilter : UInt8
  pf : List GtpPacketFilter
  deriving DecidableEq

/-! ## The template -/

namespace TftComponent

/-- What `len` is increased by. -/
def len : TftComponent → Nat
  | protocolIdentifierNextHeader _ => 2
  | ipv4LocalAddress .. | ipv4RemoteAddress .. => 9
  | ipv6LocalAddressPrefixLength .. | ipv6RemoteAddressPrefixLength .. => 18
  | singleLocalPort _ | singleRemotePort _ => 3
  | localPortRange .. | remotePortRange .. => 5

/-- `GTP_PACKET_FILTER_PROTOCOL_IDENTIFIER_NEXT_HEADER_TYPE` and the other types -/
def type : TftComponent → UInt8
  | protocolIdentifierNextHeader _ => 48
  | ipv4RemoteAddress .. => 16
  | ipv4LocalAddress .. => 17
  | ipv6RemoteAddressPrefixLength .. => 33
  | ipv6LocalAddressPrefixLength .. => 35
  | singleLocalPort _ => 64
  | localPortRange .. => 65
  | singleRemotePort _ => 80
  | remotePortRange .. => 81

end TftComponent

/-- The fields have 2 and 4 bits, and the length is an octet. -/
def TftPacketFilter.target (f : TftPacketFilter) : GtpPacketFilter where
  direction := f.direction % 4
  identifier := f.identifier % 16
  precedence := f.precedence
  length := UInt8.ofNat (f.component.map TftComponent.len).sum
  component := f.component

/-- `encode_traffic_flow_template` with the array that it fills. The number of filters has 4 bits. -/
def PgwContext.encodeTft (s : PgwContext) (bearer : PgwBearerId) : TftM GtpTft :=
  let filters := s.encodeTrafficFlowTemplate bearer
  if filters.length ≤ maxNumOfPacketFilter then
    .ok ⟨tftCodeCreateNewTft, UInt8.ofNat (filters.length % 16), filters.map TftPacketFilter.target⟩
  else .error .outOfBounds

/-! ## The octets -/

section
variable (dataLen : Nat)

/-- `memcpy(octet->data + size, field, sizeof(field))` behind the assertion that it fits -/
def tftPut (field buf : Bytes) : TftM Bytes := Codec.put dataLen (.assert .size) field buf

/-- The contents of a component. -/
def buildContents (buf : Bytes) : TftComponent → TftM Bytes
  | .protocolIdentifierNextHeader proto => tftPut dataLen [proto] buf
  | .ipv4LocalAddress addr mask | .ipv4RemoteAddress addr mask => do
    let buf ← tftPut dataLen (Octets.host32 addr) buf
    tftPut dataLen (Octets.host32 mask) buf
  | .ipv6LocalAddressPrefixLength addr prefixlen
  | .ipv6RemoteAddressPrefixLength addr prefixlen => do
    let buf ← tftPut dataLen (addr.toList.flatMap Octets.host32) buf
    tftPut dataLen [prefixlen] buf
  | .singleLocalPort low | .singleRemotePort low => tftPut dataLen (Octets.htons low.toNat) buf
  | .localPortRange low high | .remotePortRange low high => do
    let buf ← tftPut dataLen (Octets.htons low.toNat) buf
    tftPut dataLen (Octets.htons high.toNat) buf

def buildComponent (buf : Bytes) (c : TftComponent) : TftM Bytes := do
  let buf ← tftPut dataLen [c.type] buf
  buildContents dataLen buf c

/-- Two spare bits, the direction and the identifier. -/
def GtpPacketFilter.flags (f : GtpPacketFilter) : UInt8 :=
  UInt8.ofNat (f.direction.toNat % 4 * 16 + f.identifier.toNat % 16)

def buildPacketFilter (buf : Bytes) (f : GtpPacketFilter) : TftM Bytes := do
  let buf ← tftPut dataLen [f.flags] buf
  let buf ← tftPut dataLen [f.precedence] buf
  let buf ← tftPut dataLen [f.length] buf
  f.component.foldlM (buildComponent dataLen) buf

/-- The operation code, the E bit, which is not set, and the number of filters. -/
def GtpTft.flags (tft : GtpTft) : UInt8 :=
  UInt8.ofNat (tft.code.toNat % 8 * 32 + tft.numOfPacketFilter.toNat % 16)

/-- `ogs_gtp_build_tft` -/
def ogsGtpBuildTft (tft : GtpTft) : TftM Bytes := do
  Fallible.assert .dataLen (maxTrafficFlowTemplate ≤ dataLen)
  let buf ← tftPut dataLen [tft.flags] []
  (tft.pf.take tft.numOfPacketFilter.toNat).foldlM (buildPacketFilter dataLen) buf

end

/-! ## Reading by TS 24.008 -/

namespace Tft

/-- A value in network order as it is in the memory of the host. -/
def word : Codec.Reader UInt8 UInt32 :=
  Codec.andThen (Codec.symbols 4) fun octets => Codec.done (Memory.u32 (octets.getD · 0) 0)

/-- The value of two octets. -/
def port : Codec.Reader UInt8 UInt16 :=
  Codec.andThen (Codec.symbols 2) fun octets => Codec.done (Memory.u16 (octets.getD · 0) 0)

theorem size_words (a b c d : UInt32) : #[a, b, c, d].size = 4 := rfl

/-- An address and a second field. -/
def ipv6 (make : Vector UInt32 4 → UInt8 → TftComponent) : Codec.Reader UInt8 TftComponent :=
  Codec.andThen word fun a => Codec.andThen word fun b => Codec.andThen word fun c =>
    Codec.andThen word fun d => Codec.andThen Codec.symbol fun prefixlen =>
      Codec.done (make ⟨#[a, b, c, d], size_words a b c d⟩ prefixlen)

def ipv4 (make : UInt32 → UInt32 → TftComponent) : Codec.Reader UInt8 TftComponent :=
  Codec.andThen word fun addr => Codec.andThen word fun mask => Codec.done (make addr mask)

def single (make : UInt16 → TftComponent) : Codec.Reader UInt8 TftComponent :=
  Codec.andThen port fun low => Codec.done (make low)

def range (make : UInt16 → UInt16 → TftComponent) : Codec.Reader UInt8 TftComponent :=
  Codec.andThen port fun low => Codec.andThen port fun high => Codec.done (make low high)

/-- The contents of a component by its type, of which the network uses these. -/
def contents (type : UInt8) : Codec.Reader UInt8 TftComponent :=
  if type = 48 then
    Codec.andThen Codec.symbol fun proto => Codec.done (.protocolIdentifierNextHeader proto)
  else if type = 16 then ipv4 .ipv4RemoteAddress
  else if type = 17 then ipv4 .ipv4LocalAddress
  else if type = 33 then ipv6 .ipv6RemoteAddressPrefixLength
  else if type = 35 then ipv6 .ipv6LocalAddressPrefixLength
  else if type = 64 then single .singleLocalPort
  else if type = 65 then range .localPortRange
  else if type = 80 then single .singleRemotePort
  else if type = 81 then range .remotePortRange
  else fun _ => none

def component : Codec.Reader UInt8 TftComponent := Codec.andThen Codec.symbol contents

/-- A filter: the components are what its length says. -/
def packetFilter : Codec.Reader UInt8 TftPacketFilter :=
  Codec.andThen Codec.symbol fun flags => Codec.andThen Codec.symbol fun precedence =>
    Codec.andThen Codec.symbol fun length => Codec.andThen (Codec.symbols length.toNat)
      fun octets rest => (Codec.exhaust component octets.length octets).map fun components =>
        (⟨flags / 16 % 4, flags % 16, precedence, components⟩, rest)

/-- A template for "create new TFT" without parameters. -/
def decode (octets : Bytes) : Option (List TftPacketFilter) :=
  Codec.whole (Codec.andThen Codec.symbol fun flags =>
    if flags / 16 = 2 then Codec.times packetFilter (flags % 16).toNat else fun _ => none) octets

end Tft

/-! ## What is written -/

variable {dataLen : Nat}

theorem appends_tftPut (dataLen : Nat) (field : Bytes) :
    Codec.Appends dataLen (tftPut dataLen field) field := Codec.appends_put dataLen _ field

namespace TftComponent

/-- The octets of the contents. -/
def contents : TftComponent → Bytes
  | protocolIdentifierNextHeader proto => [proto]
  | ipv4LocalAddress addr mask | ipv4RemoteAddress addr mask =>
    Octets.host32 addr ++ Octets.host32 mask
  | ipv6LocalAddressPrefixLength addr prefixlen | ipv6RemoteAddressPrefixLength addr prefixlen =>
    addr.toList.flatMap Octets.host32 ++ [prefixlen]
  | singleLocalPort low | singleRemotePort low => Octets.htons low.toNat
  | localPortRange low high | remotePortRange low high =>
    Octets.htons low.toNat ++ Octets.htons high.toNat

def octets (c : TftComponent) : Bytes := [c.type] ++ c.contents

end TftComponent

theorem appends_buildContents (c : TftComponent) :
    Codec.Appends dataLen (fun buf => buildContents dataLen buf c) c.contents := by
  cases c with
  | protocolIdentifierNextHeader => exact appends_tftPut dataLen _
  | ipv4LocalAddress => exact (appends_tftPut dataLen _).bind (appends_tftPut dataLen _)
  | ipv4RemoteAddress => exact (appends_tftPut dataLen _).bind (appends_tftPut dataLen _)
  | ipv6LocalAddressPrefixLength => exact (appends_tftPut dataLen _).bind (appends_tftPut dataLen _)
  | ipv6RemoteAddressPrefixLength => exact (appends_tftPut dataLen _).bind (appends_tftPut dataLen _)
  | singleLocalPort => exact appends_tftPut dataLen _
  | localPortRange => exact (appends_tftPut dataLen _).bind (appends_tftPut dataLen _)
  | singleRemotePort => exact appends_tftPut dataLen _
  | remotePortRange => exact (appends_tftPut dataLen _).bind (appends_tftPut dataLen _)

theorem appends_buildComponent (c : TftComponent) :
    Codec.Appends dataLen (fun buf => buildComponent dataLen buf c) c.octets :=
  (appends_tftPut dataLen _).bind (appends_buildContents c)

/-- The octets of a filter. -/
def GtpPacketFilter.octets (f : GtpPacketFilter) : Bytes :=
  [f.flags] ++ ([f.precedence] ++ ([f.length] ++ f.component.flatMap TftComponent.octets))

theorem appends_buildPacketFilter (f : GtpPacketFilter) :
    Codec.Appends dataLen (fun buf => buildPacketFilter dataLen buf f) f.octets := by
  have hcomponents : Codec.Appends dataLen
      (fun buf => f.component.foldlM (buildComponent dataLen) buf)
      (f.component.flatMap TftComponent.octets) :=
    Codec.Appends.foldlM fun c _ => appends_buildComponent c
  exact (appends_tftPut dataLen _).bind
    ((appends_tftPut dataLen _).bind ((appends_tftPut dataLen _).bind hcomponents))

/-- The octets of a template. -/
def GtpTft.octets (tft : GtpTft) : Bytes :=
  [tft.flags] ++ (tft.pf.take tft.numOfPacketFilter.toNat).flatMap GtpPacketFilter.octets

/-- The template is written if it fits, and nothing is written behind the buffer. -/
theorem ogsGtpBuildTft_eq_ok {tft : GtpTft} {octets : Bytes} (h : maxTrafficFlowTemplate ≤ dataLen) :
    ogsGtpBuildTft dataLen tft = .ok octets ↔
      tft.octets.length ≤ dataLen ∧ octets = tft.octets := by
  have hfilters : Codec.Appends dataLen (fun buf =>
      (tft.pf.take tft.numOfPacketFilter.toNat).foldlM (buildPacketFilter dataLen) buf)
        ((tft.pf.take tft.numOfPacketFilter.toNat).flatMap GtpPacketFilter.octets) :=
    Codec.Appends.foldlM fun f _ => appends_buildPacketFilter f
  have happends := ((appends_tftPut dataLen [tft.flags]).bind hfilters) [] (Nat.zero_le _) octets
  rw [List.length_nil, Nat.zero_add, List.nil_append] at happends
  rw [ogsGtpBuildTft, Fallible.assert_of h, Fallible.ok_bind]
  exact happends

theorem length_host32 (n : UInt32) : (Octets.host32 n).length = 4 := rfl

theorem TftComponent.length_octets (c : TftComponent) : c.octets.length = c.len := by
  have haddr (addr : Vector UInt32 4) : (addr.toList.flatMap Octets.host32).length = 16 := by
    simp [List.length_flatMap, length_host32]
  rw [octets, List.length_append]
  cases c with
  | ipv6LocalAddressPrefixLength addr prefixlen =>
    rw [contents, List.length_append, haddr]
    rfl
  | ipv6RemoteAddressPrefixLength addr prefixlen =>
    rw [contents, List.length_append, haddr]
    rfl
  | _ => rfl

theorem length_flatMap_octets (components : List TftComponent) :
    (components.flatMap TftComponent.octets).length = (components.map TftComponent.len).sum := by
  rw [List.length_flatMap]
  exact congrArg List.sum (List.map_congr_left fun c _ => c.length_octets)

/-! ## What is read -/

namespace Tft

theorem reads_word (n : UInt32) : Codec.Reads word (Octets.host32 n) n := by
  have hword : Memory.u32 ((Octets.host32 n).getD · 0) 0 = n := by
    have hn := n.toNat_lt
    apply UInt32.toNat_inj.mp
    simp only [Memory.u32, Octets.host32, List.getD_cons_zero, List.getD_cons_succ,
      UInt8.toNat_ofNat', UInt32.toNat_ofNat']
    omega
  have hread : Codec.Reads word (Octets.host32 n ++ [])
      (Memory.u32 ((Octets.host32 n).getD · 0) 0) :=
    (Codec.reads_symbols (length_host32 n)).andThen (Codec.reads_done _)
  rwa [List.append_nil, hword] at hread

theorem reads_port (n : UInt16) : Codec.Reads port (Octets.htons n.toNat) n := by
  have hport : Memory.u16 ((Octets.htons n.toNat).getD · 0) 0 = n := by
    have hn := n.toNat_lt
    apply UInt16.toNat_inj.mp
    simp only [Memory.u16, Octets.htons, List.getD_cons_zero, List.getD_cons_succ,
      UInt8.toNat_ofNat', UInt16.toNat_ofNat']
    omega
  have hlength : (Octets.htons n.toNat).length = 2 := rfl
  have hread : Codec.Reads port (Octets.htons n.toNat ++ [])
      (Memory.u16 ((Octets.htons n.toNat).getD · 0) 0) :=
    (Codec.reads_symbols hlength).andThen (Codec.reads_done _)
  rwa [List.append_nil, hport] at hread

theorem reads_ipv4 (make : UInt32 → UInt32 → TftComponent) (addr mask : UInt32) :
    Codec.Reads (ipv4 make) (Octets.host32 addr ++ Octets.host32 mask) (make addr mask) := by
  rw [← List.append_nil (Octets.host32 mask)]
  refine (reads_word addr).andThen ?_
  exact (reads_word mask).andThen (Codec.reads_done _)

theorem reads_single (make : UInt16 → TftComponent) (low : UInt16) :
    Codec.Reads (single make) (Octets.htons low.toNat) (make low) := by
  rw [← List.append_nil (Octets.htons low.toNat)]
  exact (reads_port low).andThen (Codec.reads_done _)

theorem reads_range (make : UInt16 → UInt16 → TftComponent) (low high : UInt16) :
    Codec.Reads (range make) (Octets.htons low.toNat ++ Octets.htons high.toNat)
      (make low high) := by
  rw [← List.append_nil (Octets.htons high.toNat)]
  refine (reads_port low).andThen ?_
  exact (reads_port high).andThen (Codec.reads_done _)

theorem reads_ipv6 (make : Vector UInt32 4 → UInt8 → TftComponent) (addr : Vector UInt32 4)
    (prefixlen : UInt8) : Codec.Reads (ipv6 make)
      (addr.toList.flatMap Octets.host32 ++ [prefixlen]) (make addr prefixlen) := by
  obtain ⟨a, b, c, d, rfl⟩ : ∃ a b c d, addr = #v[a, b, c, d] := by
    refine ⟨addr[0], addr[1], addr[2], addr[3], ?_⟩
    ext i hi
    have hcases : i = 0 ∨ i = 1 ∨ i = 2 ∨ i = 3 := by omega
    rcases hcases with rfl | rfl | rfl | rfl <;> rfl
  change Codec.Reads (ipv6 make) (Octets.host32 a ++ (Octets.host32 b ++ (Octets.host32 c ++
    (Octets.host32 d ++ ([prefixlen] ++ []))))) _
  refine (reads_word a).andThen ?_
  refine (reads_word b).andThen ?_
  refine (reads_word c).andThen ?_
  refine (reads_word d).andThen ?_
  exact (Codec.reads_symbol prefixlen).andThen (Codec.reads_done _)

/-- What is written for a component is read as this component. -/
theorem reads_component (c : TftComponent) : Codec.Reads component c.octets c := by
  refine (Codec.reads_symbol c.type).andThen ?_
  cases c with
  | protocolIdentifierNextHeader proto => exact fun rest => rfl
  | ipv4LocalAddress addr mask => exact reads_ipv4 _ addr mask
  | ipv4RemoteAddress addr mask => exact reads_ipv4 _ addr mask
  | ipv6LocalAddressPrefixLength addr prefixlen => exact reads_ipv6 _ addr prefixlen
  | ipv6RemoteAddressPrefixLength addr prefixlen => exact reads_ipv6 _ addr prefixlen
  | singleLocalPort low => exact reads_single _ low
  | localPortRange low high => exact reads_range _ low high
  | singleRemotePort low => exact reads_single _ low
  | remotePortRange low high => exact reads_range _ low high

/-- The fields of a filter are in range, and its length is an octet. -/
structure Fits (f : TftPacketFilter) : Prop where
  direction : f.direction.toNat < 4
  identifier : f.identifier.toNat < 16
  length : (f.component.map TftComponent.len).sum < 2 ^ 8

theorem length_le_sum_len (components : List TftComponent) :
    components.length ≤ (components.map TftComponent.len).sum := by
  have hone : ∀ c ∈ components, 1 ≤ c.len := by
    intro c _
    rw [← c.length_octets]
    exact List.length_pos_of_ne_nil (List.cons_ne_nil _ _)
  have hsum := List.card_nsmul_le_sum (components.map TftComponent.len) 1
    (List.forall_mem_map.mpr hone)
  rwa [List.length_map, smul_eq_mul, Nat.mul_one] at hsum

variable {f : TftPacketFilter}

theorem Fits.toNat_flags (h : Fits f) :
    f.target.flags.toNat = f.direction.toNat * 16 + f.identifier.toNat := by
  have hdirection := h.direction
  have hidentifier := h.identifier
  simp only [GtpPacketFilter.flags, TftPacketFilter.target, UInt8.toNat_ofNat', UInt8.toNat_mod,
    UInt8.reduceToNat]
  omega

theorem Fits.direction_eq (h : Fits f) : f.target.flags / 16 % 4 = f.direction := by
  have hdirection := h.direction
  have hidentifier := h.identifier
  apply UInt8.toNat_inj.mp
  rw [UInt8.toNat_mod, UInt8.toNat_div, h.toNat_flags]
  change (f.direction.toNat * 16 + f.identifier.toNat) / 16 % 4 = _
  omega

theorem Fits.identifier_eq (h : Fits f) : f.target.flags % 16 = f.identifier := by
  have hidentifier := h.identifier
  apply UInt8.toNat_inj.mp
  rw [UInt8.toNat_mod, h.toNat_flags]
  change (f.direction.toNat * 16 + f.identifier.toNat) % 16 = _
  omega

/-- The length of a filter is the number of octets behind it. -/
theorem Fits.toNat_length (h : Fits f) :
    f.target.length.toNat = (f.component.flatMap TftComponent.octets).length := by
  have hlength := h.length
  rw [length_flatMap_octets, TftPacketFilter.target, UInt8.toNat_ofNat', Nat.mod_eq_of_lt hlength]

/-- A filter is read as it was written. -/
theorem reads_packetFilter (h : Fits f) : Codec.Reads packetFilter f.target.octets f := by
  have hexhaust : Codec.exhaust component (f.component.flatMap TftComponent.octets).length
      (f.component.flatMap TftComponent.octets) = some f.component := by
    apply Codec.Reads.exhaust_eq
    · exact fun c _ => ⟨reads_component c, List.cons_ne_nil _ _⟩
    · rw [length_flatMap_octets]
      exact length_le_sum_len f.component
  refine (Codec.reads_symbol _).andThen ?_
  refine (Codec.reads_symbol _).andThen ?_
  refine (Codec.reads_symbol _).andThen ?_
  intro rest
  have hread := Codec.reads_symbols h.toNat_length.symm rest
  change (Codec.symbols f.target.length.toNat _).bind _ = _
  rw [h.direction_eq, h.identifier_eq]
  refine (congrArg (Option.bind · _) hread).trans ?_
  change (Codec.exhaust _ _ _).map _ = _
  rw [hexhaust]
  rfl

/-- A template is read as it was written if its number of filters has 4 bits. -/
theorem decode_octets {fs : List TftPacketFilter} (h : ∀ f ∈ fs, Fits f) (hlength : fs.length < 16) :
    decode (GtpTft.octets ⟨tftCodeCreateNewTft, UInt8.ofNat (fs.length % 16),
      fs.map TftPacketFilter.target⟩) = some fs := by
  have hnum : (UInt8.ofNat (fs.length % 16)).toNat = fs.length := by
    rw [UInt8.toNat_ofNat']
    omega
  have hflags : (GtpTft.flags ⟨tftCodeCreateNewTft, UInt8.ofNat (fs.length % 16),
      fs.map TftPacketFilter.target⟩).toNat = 32 + fs.length := by
    rw [GtpTft.flags, hnum, UInt8.toNat_ofNat']
    change (32 + fs.length % 16) % 256 = _
    omega
  have hcode : GtpTft.flags ⟨tftCodeCreateNewTft, UInt8.ofNat (fs.length % 16),
      fs.map TftPacketFilter.target⟩ / 16 = 2 := by
    apply UInt8.toNat_inj.mp
    rw [UInt8.toNat_div, hflags]
    change (32 + fs.length) / 16 = 2
    omega
  have hcount : (GtpTft.flags ⟨tftCodeCreateNewTft, UInt8.ofNat (fs.length % 16),
      fs.map TftPacketFilter.target⟩ % 16).toNat = fs.length := by
    rw [UInt8.toNat_mod, hflags]
    change (32 + fs.length) % 16 = _
    omega
  have htimes : Codec.Reads (Codec.times packetFilter fs.length)
      (fs.flatMap fun f => f.target.octets) fs :=
    Codec.Reads.times fun f hf => reads_packetFilter (h f hf)
  apply Codec.Reads.whole_eq
  rw [GtpTft.octets, hnum, List.take_of_length_le (by rw [List.length_map]), List.flatMap_map]
  refine (Codec.reads_symbol _).andThen ?_
  rw [if_pos hcode, hcount]
  exact htimes

end Tft

/-! ## Rules and what a UE is told of them -/

/-- What the components say, one after the other. -/
def PgwRule.describe (rule : PgwRule) : TftComponent → PgwRule
  | .protocolIdentifierNextHeader proto => { rule with proto := proto }
  | .ipv4LocalAddress addr mask =>
    { rule with ipv4Local := true, ipLocal := rule.ipLocal.setIpv4 addr mask }
  | .ipv4RemoteAddress addr mask =>
    { rule with ipv4Remote := true, ipRemote := rule.ipRemote.setIpv4 addr mask }
  | .ipv6LocalAddressPrefixLength addr prefixlen =>
    { rule with ipv6Local := true, ipLocal := ⟨addr, n2mask prefixlen.toNat⟩ }
  | .ipv6RemoteAddressPrefixLength addr prefixlen =>
    { rule with ipv6Remote := true, ipRemote := ⟨addr, n2mask prefixlen.toNat⟩ }
  | .singleLocalPort low => { rule with portLocal := ⟨low, low⟩ }
  | .localPortRange low high => { rule with portLocal := ⟨low, high⟩ }
  | .singleRemotePort low => { rule with portRemote := ⟨low, low⟩ }
  | .remotePortRange low high => { rule with portRemote := ⟨low, high⟩ }

/-- The number of octets of a port component. -/
def PgwPort.tftLen (range : PgwPort) : Nat :=
  if range.low = 0 then 0 else if range.low = range.high then 3 else 5

/-- The number of octets of the components of a rule. -/
def PgwRule.tftLen (rule : PgwRule) : Nat :=
  (if rule.proto = 0 then 0 else 2) + (if rule.ipv4Local then 9 else 0) +
    (if rule.ipv4Remote then 9 else 0) + (if rule.ipv6Local then 18 else 0) +
      (if rule.ipv6Remote then 18 else 0) + rule.portLocal.tftLen + rule.portRemote.tftLen

/-- No range begins with port 0, and an IPv6 address comes with the mask of a prefix, also where
there is an IPv4 address on its side. -/
structure PgwRule.Expressible (rule : PgwRule) : Prop where
  portLocal : rule.portLocal.low = 0 → rule.portLocal.high = 0
  portRemote : rule.portRemote.low = 0 → rule.portRemote.high = 0
  ipLocal : rule.ipv4Local = true → rule.ipv6Local = true → ∃ n ≤ 128, rule.ipLocal.mask = n2mask n
  ipRemote : rule.ipv4Remote = true → rule.ipv6Remote = true →
    ∃ n ≤ 128, rule.ipRemote.mask = n2mask n

/-- What the instructions write to the addresses of one side. -/
def PgwIp.Written (ip : PgwIp) : (ipv4 ipv6 : Bool) → Prop
  | false, false => ip = .blank
  | true, false => ∃ addr mask, ip = PgwIp.blank.setIpv4 addr mask
  | false, true => ∃ n ≤ 128, ip.mask = n2mask n
  | true, true => True

def PgwRule.Written (rule : PgwRule) : Prop :=
  rule.ipLocal.Written rule.ipv4Local rule.ipv6Local ∧
    rule.ipRemote.Written rule.ipv4Remote rule.ipv6Remote

theorem PgwIp.setIpv4_setIpv4 (ip : PgwIp) (addr mask addr' mask' : UInt32) :
    (ip.setIpv4 addr mask).setIpv4 addr' mask' = ip.setIpv4 addr' mask' := by
  rw [setIpv4, setIpv4, setIpv4, Vector.set_set, Vector.set_set]

theorem PgwIp.Written.setIpv4 {ip : PgwIp} {ipv4 ipv6 : Bool} (h : ip.Written ipv4 ipv6)
    (addr mask : UInt32) : (ip.setIpv4 addr mask).Written true ipv6 := by
  cases ipv6 with
  | true => trivial
  | false =>
    cases ipv4 with
    | false => exact ⟨addr, mask, by rw [show ip = .blank from h]⟩
    | true =>
      obtain ⟨addr', mask', rfl⟩ := h
      exact ⟨addr, mask, PgwIp.setIpv4_setIpv4 _ _ _ _ _⟩

theorem PgwIp.written_ipv6 {ip : PgwIp} (ipv4 : Bool) (h : ∃ n ≤ 128, ip.mask = n2mask n) :
    ip.Written ipv4 true := by
  cases ipv4 with
  | false => exact h
  | true => trivial

theorem PgwRule.Written.interpret {rule : PgwRule} (h : rule.Written) {insn : IpfwInsn}
    (hmasked : insn.Masked) : (rule.interpret insn).Written := by
  have hall : ∃ n ≤ 128, n2mask 128 = n2mask n := ⟨128, le_rfl, rfl⟩
  obtain ⟨opcode, fNot, fOr⟩ := insn
  cases opcode with
  | ipSrc => exact ⟨h.1.setIpv4 _ _, h.2⟩
  | ipSrcMask => exact ⟨h.1.setIpv4 _ _, h.2⟩
  | ipDst => exact ⟨h.1, h.2.setIpv4 _ _⟩
  | ipDstMask => exact ⟨h.1, h.2.setIpv4 _ _⟩
  | ip6Src => exact ⟨PgwIp.written_ipv6 _ hall, h.2⟩
  | ip6SrcMask => exact ⟨PgwIp.written_ipv6 _ hmasked.2, h.2⟩
  | ip6Dst => exact ⟨h.1, PgwIp.written_ipv6 _ hall⟩
  | ip6DstMask => exact ⟨h.1, PgwIp.written_ipv6 _ hmasked.2⟩
  | proto => exact h
  | ipSrcport => exact h
  | ipDstport => exact h
  | other => exact h

/-! ## Lengths of rules -/

theorem PgwPort.sum_len_components (range : PgwPort) {single : UInt16 → TftComponent}
    {ports : UInt16 → UInt16 → TftComponent} (hsingle : ∀ low, (single low).len = 3)
    (hports : ∀ low high, (ports low high).len = 5) :
    ((range.components single ports).map TftComponent.len).sum = range.tftLen := by
  rw [PgwPort.components, PgwPort.tftLen]
  split
  · rfl
  split
  · simp only [List.map_singleton, List.sum_singleton, hsingle]
  · simp only [List.map_singleton, List.sum_singleton, hports]

theorem PgwRule.sum_len_components (rule : PgwRule) :
    (rule.components.map TftComponent.len).sum = rule.tftLen := by
  have hproto : ((if rule.proto = 0 then [] else
      [TftComponent.protocolIdentifierNextHeader rule.proto]).map TftComponent.len).sum =
        if rule.proto = 0 then 0 else 2 := by
    split <;> rfl
  have hflag (flag : Bool) (c : TftComponent) : ((if flag then [c] else []).map
      TftComponent.len).sum = if flag then c.len else 0 := by
    cases flag <;> rfl
  simp only [PgwRule.components, List.map_append, List.sum_append, hproto, hflag]
  rw [rule.portLocal.sum_len_components (fun _ => rfl) fun _ _ => rfl,
    rule.portRemote.sum_len_components (fun _ => rfl) fun _ _ => rfl]
  rfl

theorem PgwPort.tftLen_le (range : PgwPort) : range.tftLen ≤ 5 := by
  rw [PgwPort.tftLen]
  split
  · omega
  split <;> omega

/-- The components of a rule are never longer than an octet can say. -/
theorem PgwRule.tftLen_lt (rule : PgwRule) : rule.tftLen < 2 ^ 8 := by
  have hlocal := rule.portLocal.tftLen_le
  have hremote := rule.portRemote.tftLen_le
  have hif {p : Prop} [Decidable p] (a b : Nat) : (if p then a else b) ≤ max a b := by
    split <;> omega
  have hproto := hif (p := rule.proto = 0) 0 2
  have hipv4Local := hif (p := rule.ipv4Local = true) 9 0
  have hipv4Remote := hif (p := rule.ipv4Remote = true) 9 0
  have hipv6Local := hif (p := rule.ipv6Local = true) 18 0
  have hipv6Remote := hif (p := rule.ipv6Remote = true) 18 0
  rw [PgwRule.tftLen]
  omega

/-! ## What a UE makes of the components -/

/-- The addresses of one side as they are described. -/
def PgwIp.told (ip : PgwIp) (ipv4 ipv6 : Bool) : PgwIp :=
  if ipv6 then ⟨ip.addr, n2mask ip.prefixlen.toNat⟩
  else if ipv4 then PgwIp.blank.setIpv4 (ip.addr.get 0) (ip.mask.get 0)
  else .blank

/-- A range as it is described. -/
def PgwPort.told (range : PgwPort) : PgwPort := if range.low = 0 then ⟨0, 0⟩ else range

theorem PgwPort.describe_components (range : PgwPort) {single : UInt16 → TftComponent}
    {ports : UInt16 → UInt16 → TftComponent} {rule : PgwRule} {f : PgwPort → PgwRule}
    (hsingle : ∀ low, rule.describe (single low) = f ⟨low, low⟩)
    (hports : ∀ low high, rule.describe (ports low high) = f ⟨low, high⟩)
    (hblank : f ⟨0, 0⟩ = rule) :
    (range.components single ports).foldl PgwRule.describe rule = f range.told := by
  rw [PgwPort.components, PgwPort.told]
  split
  · exact hblank.symm
  split
  next heq =>
    rw [List.foldl_cons, List.foldl_nil, hsingle]
    exact congrArg (fun high => f ⟨range.low, high⟩) heq
  · rw [List.foldl_cons, List.foldl_nil, hports]

/-- The components before the ports. -/
def PgwRule.addressComponents (rule : PgwRule) : List TftComponent :=
  (if rule.proto = 0 then [] else [.protocolIdentifierNextHeader rule.proto]) ++
    (if rule.ipv4Local then
      [.ipv4LocalAddress (rule.ipLocal.addr.get 0) (rule.ipLocal.mask.get 0)] else []) ++
    (if rule.ipv4Remote then
      [.ipv4RemoteAddress (rule.ipRemote.addr.get 0) (rule.ipRemote.mask.get 0)] else []) ++
    (if rule.ipv6Local then
      [.ipv6LocalAddressPrefixLength rule.ipLocal.addr rule.ipLocal.prefixlen] else []) ++
    (if rule.ipv6Remote then
      [.ipv6RemoteAddressPrefixLength rule.ipRemote.addr rule.ipRemote.prefixlen] else [])

theorem PgwRule.components_eq (rule : PgwRule) : rule.components = rule.addressComponents ++
    rule.portLocal.components .singleLocalPort .localPortRange ++
      rule.portRemote.components .singleRemotePort .remotePortRange := rfl

theorem PgwRule.describe_addresses (rule : PgwRule) :
    rule.addressComponents.foldl PgwRule.describe .blank = { rule with
      ipLocal := rule.ipLocal.told rule.ipv4Local rule.ipv6Local
      ipRemote := rule.ipRemote.told rule.ipv4Remote rule.ipv6Remote
      portLocal := ⟨0, 0⟩
      portRemote := ⟨0, 0⟩ } := by
  have hproto : (if rule.proto = 0 then [] else
      [TftComponent.protocolIdentifierNextHeader rule.proto]).foldl PgwRule.describe .blank =
        { PgwRule.blank with proto := rule.proto } := by
    split
    next hzero =>
      rw [hzero]
      rfl
    · rfl
  simp only [addressComponents, List.foldl_append, hproto]
  obtain ⟨proto, ipv4Local, ipv4Remote, ipv6Local, ipv6Remote, ipLocal, ipRemote⟩ := rule
  cases ipv4Local <;> cases ipv4Remote <;> cases ipv6Local <;> cases ipv6Remote <;> rfl

theorem PgwRule.describe_components (rule : PgwRule) :
    rule.components.foldl PgwRule.describe .blank = { rule with
      ipLocal := rule.ipLocal.told rule.ipv4Local rule.ipv6Local
      ipRemote := rule.ipRemote.told rule.ipv4Remote rule.ipv6Remote
      portLocal := rule.portLocal.told
      portRemote := rule.portRemote.told } := by
  rw [rule.components_eq, List.foldl_append, List.foldl_append, rule.describe_addresses,
    rule.portLocal.describe_components (f := fun range => { rule with
      ipLocal := rule.ipLocal.told rule.ipv4Local rule.ipv6Local
      ipRemote := rule.ipRemote.told rule.ipv4Remote rule.ipv6Remote
      portLocal := range
      portRemote := ⟨0, 0⟩ }) (fun _ => rfl) (fun _ _ => rfl) rfl]
  exact rule.portRemote.describe_components (f := fun range => { rule with
      ipLocal := rule.ipLocal.told rule.ipv4Local rule.ipv6Local
      ipRemote := rule.ipRemote.told rule.ipv4Remote rule.ipv6Remote
      portLocal := rule.portLocal.told
      portRemote := range }) (fun _ => rfl) (fun _ _ => rfl) rfl

theorem n2mask_of_le {n : Nat} (h : 128 ≤ n) : n2mask n = n2mask 128 := by
  apply eq_of_addressBit
  intro i hi
  rw [addressBit_n2mask hi, addressBit_n2mask hi, decide_eq_true hi,
    decide_eq_true (Nat.lt_of_lt_of_le hi h)]

/-- A mask comes back if and only if it is that of a prefix. -/
theorem n2mask_prefixlen_eq_iff {ip : PgwIp} :
    n2mask ip.prefixlen.toNat = ip.mask ↔ ∃ n ≤ 128, ip.mask = n2mask n := by
  constructor
  · intro h
    rcases Nat.le_total ip.prefixlen.toNat 128 with hle | hle
    · exact ⟨_, hle, h.symm⟩
    · exact ⟨128, le_rfl, h.symm.trans (n2mask_of_le hle)⟩
  · rintro ⟨n, hn, hmask⟩
    have hprefixlen : ip.prefixlen.toNat = n := by
      rw [PgwIp.prefixlen, hmask, contigmask_n2mask hn, UInt8.toNat_ofNat']
      omega
    rw [hprefixlen, hmask]

theorem PgwIp.told_eq_iff {ip : PgwIp} {ipv4 ipv6 : Bool} (h : ip.Written ipv4 ipv6) :
    ip.told ipv4 ipv6 = ip ↔ (ipv4 = true → ipv6 = true → ∃ n ≤ 128, ip.mask = n2mask n) := by
  have hipv6 : ip.told ipv4 true = ip ↔ ∃ n ≤ 128, ip.mask = n2mask n := by
    rw [← n2mask_prefixlen_eq_iff]
    exact ⟨fun heq => congrArg PgwIp.mask heq, fun hmask => congrArg (PgwIp.mk ip.addr) hmask⟩
  cases ipv6 with
  | true =>
    rw [hipv6]
    cases ipv4 with
    | true => exact ⟨fun hmask _ _ => hmask, fun hmask => hmask rfl rfl⟩
    | false => exact iff_of_true h nofun
  | false =>
    refine iff_of_true ?_ nofun
    cases ipv4 with
    | true =>
      obtain ⟨addr, mask, rfl⟩ := h
      have hget (v : Vector UInt32 4) (w : UInt32) : (v.set 0 w).get 0 = w :=
        Vector.getElem_set_self _
      simp only [told, setIpv4, hget]
      rfl
    | false => exact h.symm

theorem PgwPort.told_eq_iff {range : PgwPort} : range.told = range ↔
    (range.low = 0 → range.high = 0) := by
  obtain ⟨low, high⟩ := range
  rw [PgwPort.told]
  split
  next hlow =>
    have hlow : low = 0 := hlow
    rw [imp_iff_right hlow, hlow, PgwPort.mk.injEq, and_iff_right rfl]
    exact eq_comm
  next hlow => exact iff_of_true rfl fun h => absurd h hlow

/-- A rule comes back if and only if it can be said with components. -/
theorem PgwRule.describe_eq_iff {rule : PgwRule} (h : rule.Written) :
    rule.components.foldl PgwRule.describe .blank = rule ↔ rule.Expressible := by
  have hfields : rule.components.foldl PgwRule.describe .blank = rule ↔
      rule.ipLocal.told rule.ipv4Local rule.ipv6Local = rule.ipLocal ∧
        rule.ipRemote.told rule.ipv4Remote rule.ipv6Remote = rule.ipRemote ∧
          rule.portLocal.told = rule.portLocal ∧ rule.portRemote.told = rule.portRemote := by
    rw [rule.describe_components]
    exact ⟨fun heq => ⟨congrArg ipLocal heq, congrArg ipRemote heq, congrArg portLocal heq,
      congrArg portRemote heq⟩, fun ⟨hlocal, hremote, hport, hport'⟩ => by
        rw [hlocal, hremote, hport, hport']⟩
  rw [hfields, PgwIp.told_eq_iff h.1, PgwIp.told_eq_iff h.2, PgwPort.told_eq_iff,
    PgwPort.told_eq_iff]
  exact ⟨fun ⟨hlocal, hremote, hport, hport'⟩ => ⟨hport, hport', hlocal, hremote⟩,
    fun hrule => ⟨hrule.ipLocal, hrule.ipRemote, hrule.portLocal, hrule.portRemote⟩⟩

end NextEpc

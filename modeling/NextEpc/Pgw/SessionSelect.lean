import NextEpc.Pgw.BearerRun
import NextEpc.Pgw.Ipfw

/-!
# The session of a downlink packet

`pgw_bearer_find_by_packet` compares the destination with both addresses of each session, over the
octets that go with the version of the packet. Here is exactly when the bearer that it returns
belongs to a session that holds the destination.
-/

namespace NextEpc

/-! ## Packets -/

namespace Memory
variable (mem : Memory)

/-- The IP version, if it is one of the two. -/
def version : Option AddressFamily :=
  if mem 0 / 16 = 4 then some .inet else if mem 0 / 16 = 6 then some .inet6 else none

def destination : AddressFamily → Vector UInt32 4
  | .inet => mem.addr 16
  | .inet6 => mem.addr 24

end Memory

/-- `sizeof(struct ip)` and `sizeof(struct ip6_hdr)` -/
def AddressFamily.headerLength : AddressFamily → Nat
  | .inet => 20
  | .inet6 => 40

/-- The first `len` octets are a packet of the version with a whole header. -/
def IsPacketOf (mem : Memory) (len : Nat) (family : AddressFamily) : Prop :=
  mem.version = some family ∧ family.headerLength ≤ len

/-- From the octet `jp` on, a jumbo payload option with a length is met. -/
inductive ReachesJumbo (mem : Memory) : Nat → Prop
  | jumbo {jp : Nat} : mem jp = 0xc2 → (Octets.swap32 (mem.u32 (jp + 2))).toNat ≠ 0 →
    ReachesJumbo mem jp
  | pad1 {jp : Nat} : mem jp = 0 → ReachesJumbo mem (jp + 1) → ReachesJumbo mem jp
  | other {jp : Nat} : mem jp ≠ 0xc2 → mem jp ≠ 0 →
    ReachesJumbo mem (jp + 2 + (Octets.swap32 (mem.u32 (jp + 2))).toNat) → ReachesJumbo mem jp

/-- The header is one that is got through: an IPv6 packet has a payload length, or hop-by-hop
options with a jumbo payload length. -/
def Decodes (mem : Memory) : AddressFamily → Prop
  | .inet => True
  | .inet6 => (mem.u16 4).toNat ≠ 0 ∨ mem 6 = 0 ∧ ReachesJumbo mem 42

theorem jumboLoop_iff {mem : Memory} {jp : Nat} :
    (∃ fuel r, jumboLoop mem fuel jp = some r) ↔ ReachesJumbo mem jp := by
  constructor
  · rintro ⟨fuel, r, h⟩
    induction fuel generalizing jp with
    | zero => cases h
    | succ fuel ih =>
      rw [jumboLoop] at h
      split at h
      · rename_i hjumbo
        split at h
        · exact ih h
        · rename_i hlength
          exact .jumbo hjumbo hlength
      · rename_i hjumbo
        split at h
        · rename_i hpad
          exact .pad1 hpad (ih h)
        · rename_i hpad
          exact .other hjumbo hpad (ih h)
  · intro h
    induction h with
    | @jumbo jp hjumbo hlength =>
      refine ⟨1, ((Octets.swap32 (mem.u32 (jp + 2))).toNat, jp + 6), ?_⟩
      simp [jumboLoop, hjumbo, hlength]
    | pad1 hpad _ ih =>
      obtain ⟨fuel, r, h⟩ := ih
      refine ⟨fuel + 1, r, ?_⟩
      simpa [jumboLoop, hpad] using h
    | other hjumbo hpad _ ih =>
      obtain ⟨fuel, r, h⟩ := ih
      refine ⟨fuel + 1, r, ?_⟩
      simpa [jumboLoop, hjumbo, hpad] using h

theorem decodeIpv6Header_iff {mem : Memory} :
    (∃ fuel r, decodeIpv6Header mem fuel = some r) ↔ Decodes mem .inet6 := by
  by_cases hplen : (mem.u16 4).toNat = 0
  · by_cases hnxt : mem 6 = 0
    · have hsame : (∃ fuel r, decodeIpv6Header mem fuel = some r) ↔
          ∃ fuel r, jumboLoop mem fuel 42 = some r := by
        apply exists_congr
        intro fuel
        cases hloop : jumboLoop mem fuel 42 with
        | none => simp [decodeIpv6Header, hplen, hnxt, hloop]
        | some r => simp [decodeIpv6Header, hplen, hnxt, hloop]
      rw [hsame, jumboLoop_iff]
      simp [Decodes, hplen, hnxt]
    · simp [decodeIpv6Header, Decodes, hplen, hnxt]
  · simp [decodeIpv6Header, Decodes, hplen]

/-- What is read from a packet of a version, and from how many octets. -/
theorem header_of_readHeader {mem : Memory} {fuel read : Nat} {hdr : PacketHeader}
    (h : readHeader mem fuel = some (hdr, read)) : ∃ family, mem.version = some family ∧
      hdr.family = family ∧ hdr.dst = mem.destination family ∧ family.headerLength ≤ read := by
  rw [readHeader] at h
  split at h
  · rename_i hversion
    cases h
    refine ⟨.inet, ?_, rfl, rfl, ?_⟩
    · simp [Memory.version, hversion]
    · decide
  · rename_i hnot
    split at h
    · rename_i hversion
      obtain ⟨⟨proto, hlen, read'⟩, -, h⟩ := Option.bind_eq_some_iff.mp h
      cases h
      refine ⟨.inet6, ?_, rfl, rfl, le_max_left 40 read'⟩
      simp [Memory.version, hversion]
    · cases h

theorem readHeader_iff {mem : Memory} {family : AddressFamily}
    (hversion : mem.version = some family) :
    (∃ fuel r, readHeader mem fuel = some r) ↔ Decodes mem family := by
  by_cases h4 : mem 0 / 16 = 4
  · have hfamily : family = .inet := by simpa [Memory.version, h4] using hversion.symm
    subst hfamily
    simp [readHeader, Decodes, h4]
  · by_cases h6 : mem 0 / 16 = 6
    · have hfamily : family = .inet6 := by simpa [Memory.version, h6] using hversion.symm
      subst hfamily
      rw [← decodeIpv6Header_iff]
      apply exists_congr
      intro fuel
      cases hdecode : decodeIpv6Header mem fuel with
      | none => simp [readHeader, h6, hdecode]
      | some r => simp [readHeader, h6, hdecode]
    · simp [Memory.version, h4, h6] at hversion

namespace PgwContext
variable {cfg : PgwConfig} {compile : CString → Option PgwRule} {maxNumOfFlow : Nat}
  {s : PgwContext} {mem : Memory} {len fuel : Nat} {family : AddressFamily}
  {dst : Vector UInt32 4} {sess : PgwSessId} {bearer : PgwBearerId}

/-! ## Sessions -/

/-- The address of a session for an IP version. -/
def ueIpOf (s : PgwContext) (sess : PgwSessId) : AddressFamily → Option PgwUeIpId
  | .inet => (s.sess.mem sess).ipv4
  | .inet6 => (s.sess.mem sess).ipv6

/-- The session has the destination as its address for the version. -/
def Holds (s : PgwContext) (family : AddressFamily) (dst : Vector UInt32 4) (sess : PgwSessId) :
    Prop :=
  s.sess.live sess = true ∧
    ∃ ueIp, s.ueIpOf sess family = some ueIp ∧ family.same dst (s.address ueIp) = true

/-- One of the addresses of the session, for either version, agrees with the destination in the
octets that are compared for the version. -/
def Coincides (s : PgwContext) (family : AddressFamily) (dst : Vector UInt32 4)
    (sess : PgwSessId) : Prop :=
  ∃ version ueIp, s.ueIpOf sess version = some ueIp ∧ family.same dst (s.address ueIp) = true

/-- A bearer is returned only of a session that holds the destination, and is returned if there
is one. What is not an IP packet is left alone. -/
def SelectsSession (s : PgwContext) (mem : Memory) (len : Nat) : Prop :=
  ∃ fuel result read, s.pgwBearerFindByPacket mem fuel = some (result, read) ∧
    (∀ bearer, result = some bearer → ∃ family sess, IsPacketOf mem len family ∧
      s.Holds family (mem.destination family) sess ∧ s.bearers.live bearer = true ∧
      (s.bearers.mem bearer).sess = sess) ∧
    (∀ family sess, IsPacketOf mem len family → s.Holds family (mem.destination family) sess →
      result ≠ none) ∧
    ((∀ family, ¬IsPacketOf mem len family) → result = none ∧ read ≤ len)

/-- The first session that coincides with the destination holds it, and still has a bearer. -/
def FirstHolds (s : PgwContext) (family : AddressFamily) (dst : Vector UInt32 4) : Prop :=
  ∀ before sess after, s.sessList = before ++ sess :: after →
    (∀ σ ∈ before, ¬s.Coincides family dst σ) → s.Coincides family dst sess →
    s.Holds family dst sess ∧ (s.sessMem sess).bearerList ≠ []

/-- A whole header that is got through, and a destination that is not mistaken. -/
def Selectable (s : PgwContext) (mem : Memory) (len : Nat) : Prop :=
  ∃ family, IsPacketOf mem len family ∧ Decodes mem family ∧
    s.FirstHolds family (mem.destination family)

theorem Holds.coincides (h : s.Holds family dst sess) : s.Coincides family dst sess := by
  obtain ⟨-, ueIp, hueIp, hsame⟩ := h
  exact ⟨family, ueIp, hueIp, hsame⟩

theorem hasAddress_iff {hdr : PacketHeader} :
    s.hasAddress hdr sess = true ↔ s.Coincides hdr.family hdr.dst sess := by
  rw [hasAddress, Bool.or_eq_true, Option.any_eq_true, Option.any_eq_true]
  constructor
  · rintro (⟨ueIp, hueIp, hsame⟩ | ⟨ueIp, hueIp, hsame⟩)
    · exact ⟨.inet, ueIp, hueIp, hsame⟩
    · exact ⟨.inet6, ueIp, hueIp, hsame⟩
  · rintro ⟨version, ueIp, hueIp, hsame⟩
    cases version with
    | inet => exact Or.inl ⟨ueIp, hueIp, hsame⟩
    | inet6 => exact Or.inr ⟨ueIp, hueIp, hsame⟩

/-- The bearer for a packet in a session is the default bearer where no other has a filter that
matches, and else one that has. -/
theorem Tree.bearerInSess_cases {hdr : PacketHeader} {defaultBearer : PgwBearerId}
    {bearers : List PgwBearerId} (h : s.Tree) (hsess : s.sess.live sess = true)
    (hlist : (s.sessMem sess).bearerList = defaultBearer :: bearers)
    (hbearer : s.bearerInSess mem hdr sess = some bearer) :
    (bearer = defaultBearer ∧ ∀ b ∈ bearers, s.bearerOfFilter mem hdr b = none) ∨
      bearer ∈ bearers ∧ (s.bearers.mem bearer).ebi ≠ 0 ∧
        ∃ pf ∈ (s.bearers.mem bearer).pfList, (s.pfs.mem pf).matchesPacket mem hdr = true := by
  rw [bearerInSess, hlist, Option.some_inj] at hbearer
  cases hfilter : bearers.findSome? (s.bearerOfFilter mem hdr) with
  | none =>
    rw [hfilter] at hbearer
    exact Or.inl ⟨hbearer.symm, List.findSome?_eq_none_iff.mp hfilter⟩
  | some found =>
    rw [hfilter, Option.getD_some] at hbearer
    obtain ⟨b, hb, hof⟩ := List.exists_of_findSome?_eq_some hfilter
    have hmem : b ∈ (s.sessMem sess).bearerList := by
      rw [hlist]
      exact List.mem_cons_of_mem _ hb
    rw [bearerOfFilter, Option.ite_none_left_eq_some, Option.map_eq_some_iff] at hof
    obtain ⟨hebi, pf, hpf, hown⟩ := hof
    have hin := List.mem_of_find?_eq_some hpf
    have hmatches : (s.pfs.mem pf).matchesPacket mem hdr = true := by
      have hfound := List.find?_some hpf
      exact hfound
    have hsame := h.toLinks.bearer_of_mem (h.live_of_mem hsess hmem) pf hin
    have hb' : bearer = b := by rw [← hbearer, ← hown, hsame]
    rw [hb']
    exact Or.inr ⟨hb, hebi, pf, hin, hmatches⟩

/-- It is one of the bearers of the session. -/
theorem Tree.bearerInSess_mem {hdr : PacketHeader} (h : s.Tree) (hsess : s.sess.live sess = true)
    (hbearer : s.bearerInSess mem hdr sess = some bearer) :
    bearer ∈ (s.sessMem sess).bearerList := by
  cases hlist : (s.sessMem sess).bearerList with
  | nil =>
    rw [bearerInSess, hlist] at hbearer
    cases hbearer
  | cons defaultBearer bearers =>
    rcases h.bearerInSess_cases hsess hlist hbearer with ⟨rfl, -⟩ | ⟨hmem, -⟩
    · exact List.mem_cons_self
    · exact List.mem_cons_of_mem _ hmem

theorem bearerInSess_eq_none {hdr : PacketHeader} :
    s.bearerInSess mem hdr sess = none ↔ (s.sessMem sess).bearerList = [] := by
  rw [bearerInSess]
  split <;> simp [*]

/-! ## Selection -/

/-- The first session that coincides is searched, and if there is none NULL is returned. -/
theorem findInSessions_eq (s : PgwContext) (mem : Memory) (hdr : PacketHeader) :
    (∃ before sess after, s.sessList = before ++ sess :: after ∧
      (∀ σ ∈ before, ¬s.Coincides hdr.family hdr.dst σ) ∧ s.Coincides hdr.family hdr.dst sess ∧
      s.findInSessions mem hdr = (s.bearerInSess mem hdr sess).map some) ∨
    (∀ σ ∈ s.sessList, ¬s.Coincides hdr.family hdr.dst σ) ∧
      s.findInSessions mem hdr = some none := by
  cases hfind : s.sessList.find? (s.hasAddress hdr) with
  | none =>
    refine Or.inr ⟨?_, by rw [findInSessions, hfind]⟩
    intro σ hσ
    rw [← hasAddress_iff]
    exact List.find?_eq_none.mp hfind σ hσ
  | some sess =>
    obtain ⟨hcoincides, before, after, hlist, hbefore⟩ := List.find?_eq_some_iff_append.mp hfind
    refine Or.inl ⟨before, sess, after, hlist, ?_, hasAddress_iff.mp hcoincides, ?_⟩
    · intro σ hσ
      rw [← hasAddress_iff]
      simpa using hbefore σ hσ
    · rw [findInSessions, hfind]

/-- A session that is the first to coincide is the only such one. -/
theorem first_unique {α : Type} {p : α → Prop} {before before' after after' : List α} {x y : α}
    (h : before ++ x :: after = before' ++ y :: after') (hbefore : ∀ z ∈ before, ¬p z) (hx : p x)
    (hbefore' : ∀ z ∈ before', ¬p z) (hy : p y) : x = y := by
  induction before generalizing before' with
  | nil =>
    cases before' with
    | nil =>
      rw [List.nil_append, List.nil_append, List.cons_eq_cons] at h
      exact h.1
    | cons z before' =>
      rw [List.nil_append, List.cons_append, List.cons_eq_cons] at h
      rw [h.1] at hx
      exact absurd hx (hbefore' z List.mem_cons_self)
  | cons z before ih =>
    cases before' with
    | nil =>
      rw [List.nil_append, List.cons_append, List.cons_eq_cons] at h
      rw [← h.1] at hy
      exact absurd hy (hbefore z List.mem_cons_self)
    | cons z' before' =>
      rw [List.cons_append, List.cons_append, List.cons_eq_cons] at h
      apply ih h.2
      · exact fun w hw => hbefore w (List.mem_cons_of_mem z hw)
      · exact fun w hw => hbefore' w (List.mem_cons_of_mem z' hw)

theorem findByPacket_eq_some {result : Option PgwBearerId} {read : Nat} :
    s.pgwBearerFindByPacket mem fuel = some (result, read) ↔
      ∃ hdr, readHeader mem fuel = some (hdr, read) ∧ s.findInSessions mem hdr = some result := by
  simp only [pgwBearerFindByPacket, Option.bind_eq_bind, Option.bind_eq_some_iff,
    Option.some.injEq, Prod.mk.injEq, Prod.exists]
  constructor
  · rintro ⟨hdr, _, hheader, _, hfind, rfl, rfl⟩
    exact ⟨hdr, hheader, hfind⟩
  · rintro ⟨hdr, hheader, hfind⟩
    exact ⟨hdr, read, hheader, result, hfind, rfl, rfl⟩

/-- The search does what it should for a header if and only if the first session that coincides
holds the destination. -/
theorem Tree.findInSessions_iff {hdr : PacketHeader} (h : s.Tree) (mem : Memory) :
    s.FirstHolds hdr.family hdr.dst ↔
    ∃ result, s.findInSessions mem hdr = some result ∧
      (∀ bearer, result = some bearer → s.bearers.live bearer = true ∧
        s.Holds hdr.family hdr.dst (s.bearers.mem bearer).sess) ∧
      (∀ sess, s.Holds hdr.family hdr.dst sess → result ≠ none) := by
  rcases s.findInSessions_eq mem hdr with ⟨before, sess, after, hlist, hbefore, hcoincides, heq⟩ |
    ⟨hnone, heq⟩
  · have hsess : s.sess.live sess = true := by
      rw [← h.mem_sessList, hlist]
      exact List.mem_append_right before List.mem_cons_self
    constructor
    · intro hfirst
      obtain ⟨hholds, hlisted⟩ := hfirst before sess after hlist hbefore hcoincides
      cases hbearer : s.bearerInSess mem hdr sess with
      | none => exact absurd (bearerInSess_eq_none.mp hbearer) hlisted
      | some bearer =>
        have hmem := (h.bearers.mem_iff sess hsess bearer).mp (h.bearerInSess_mem hsess hbearer)
        refine ⟨some bearer, by rw [heq, hbearer, Option.map_some], ?_, ?_⟩
        · intro b hb
          rw [← Option.some_inj.mp hb, hmem.2]
          exact ⟨hmem.1, hholds⟩
        · exact fun _ _ => Option.some_ne_none bearer
    · rintro ⟨result, hresult, hbearer, -⟩ before' sess' after' hlist' hbefore' hcoincides'
      have hsame := first_unique (hlist.symm.trans hlist') hbefore hcoincides hbefore' hcoincides'
      subst hsame
      rw [heq, Option.map_eq_some_iff] at hresult
      obtain ⟨bearer, hin, rfl⟩ := hresult
      have hmem := h.bearerInSess_mem hsess hin
      have hown := (h.bearers.mem_iff sess hsess bearer).mp hmem
      refine ⟨?_, List.ne_nil_of_mem hmem⟩
      rw [← hown.2]
      exact (hbearer bearer rfl).2
  · apply iff_of_true
    · intro before sess after hlist _ hcoincides
      refine absurd hcoincides (hnone sess ?_)
      rw [hlist]
      exact List.mem_append_right before List.mem_cons_self
    · refine ⟨none, heq, ?_, ?_⟩
      · rintro bearer ⟨⟩
      · intro sess hholds
        exact absurd hholds.coincides (hnone sess ((h.mem_sessList sess).mpr hholds.1))

theorem Tree.selects_iff (h : s.Tree) : s.SelectsSession mem len ↔ s.Selectable mem len := by
  constructor
  · rintro ⟨fuel, result, read, hfind, hbearer, hfound, hmalformed⟩
    obtain ⟨hdr, hheader, hfind⟩ := findByPacket_eq_some.mp hfind
    obtain ⟨family, hversion, rfl, hdst, hread⟩ := header_of_readHeader hheader
    have hpacket : IsPacketOf mem len hdr.family := by
      by_contra hnot
      -- a header that is not all in the packet is read beyond its end
      have hshort : read ≤ len := by
        refine (hmalformed ?_).2
        intro family hpacket
        have hsame := Option.some_inj.mp (hpacket.1.symm.trans hversion)
        rw [hsame] at hpacket
        exact hnot hpacket
      exact hnot ⟨hversion, hread.trans hshort⟩
    refine ⟨hdr.family, hpacket, (readHeader_iff hversion).mp ⟨fuel, _, hheader⟩, ?_⟩
    rw [← hdst, h.findInSessions_iff mem]
    refine ⟨result, hfind, ?_, ?_⟩
    · intro bearer hb
      obtain ⟨family, sess, hpacket', hholds, hlive, rfl⟩ := hbearer bearer hb
      have hsame := Option.some_inj.mp (hpacket'.1.symm.trans hversion)
      rw [hsame, ← hdst] at hholds
      exact ⟨hlive, hholds⟩
    · intro sess hholds
      rw [hdst] at hholds
      exact hfound hdr.family sess hpacket hholds
  · rintro ⟨family, hpacket, hdecodes, hfirst⟩
    obtain ⟨fuel, ⟨hdr, read⟩, hheader⟩ := (readHeader_iff hpacket.1).mpr hdecodes
    obtain ⟨family', hversion, rfl, hdst, -⟩ := header_of_readHeader hheader
    have hsame := Option.some_inj.mp (hpacket.1.symm.trans hversion)
    subst hsame
    rw [← hdst, h.findInSessions_iff mem] at hfirst
    obtain ⟨result, hfind, hbearer, hfound⟩ := hfirst
    refine ⟨fuel, result, read, findByPacket_eq_some.mpr ⟨hdr, hheader, hfind⟩, ?_, ?_, ?_⟩
    · intro bearer hb
      obtain ⟨hlive, hholds⟩ := hbearer bearer hb
      rw [hdst] at hholds
      exact ⟨hdr.family, _, hpacket, hholds, hlive, rfl⟩
    · intro family sess hpacket' hholds
      have hsame := Option.some_inj.mp (hpacket'.1.symm.trans hversion)
      rw [hsame, ← hdst] at hholds
      exact hfound sess hholds
    · exact fun hnone => absurd hpacket (hnone hdr.family)

/-- In every state that can be reached and for every packet, a bearer is returned of the session
that holds the destination if and only if the packet has a whole header that is got through, and
the first session that coincides with the destination holds it and has a bearer. -/
theorem selectsSession_iff [Ogslib] (cfg : PgwConfig) (compile : CString → Option PgwRule)
    (maxNumOfFlow : Nat) (arrays : List (List PgwUeIp)) (s : PgwContext)
    (hreaches : Lts.Reaches (@Step maxNumOfFlow _ cfg compile) (initial arrays) s)
    (mem : Memory) (len : Nat) : s.SelectsSession mem len ↔ s.Selectable mem len :=
  (tree_of_reaches hreaches).selects_iff

/-- A subnet 45.45.0.0/29 with the gateway 45.45.0.1 and a subnet 2d2d:2::/125. -/
def coincidingSubnets : PgwConfig where
  subnets :=
    [⟨Pgw.words 0x00002d2d 0 0 0, Pgw.words 0xf8ffffff 0 0 0, Pgw.words 0x01002d2d 0 0 0, [],
        .inet, 29⟩,
      ⟨Pgw.words 0x02002d2d 0 0 0, Pgw.words 0xffffffff 0xffffffff 0xffffffff 0xf8ffffff,
        Pgw.words 0x02002d2d 0 0 0x01000000, [], .inet6, 125⟩]
  poolSess := 1

/-- The first address of each, 45.45.0.2 and 2d2d:2::2. -/
def coincidingArrays : List (List PgwUeIp) :=
  [[⟨Pgw.words 0x02002d2d 0 0 0, 0⟩], [⟨Pgw.words 0x02002d2d 0 0 0x02000000, 1⟩]]

theorem pgwUePoolGenerate_coinciding :
    pgwUePoolGenerate coincidingSubnets = .ok coincidingArrays := by
  decide +kernel

/-- A Create Session Request with all that is needed. -/
def sessionRequest : PgwSessionRequest :=
  ⟨[], 8, 9, 7, 9, ⟨1, 0, 0⟩, none, ⟨[], 1⟩, ⟨[], 1⟩⟩

/-- A session of a PDN type in the slot 1, with the bearer 1. -/
def sessionOf {maxNumOfFlow : Nat} (pdnType : UInt8) : Op maxNumOfFlow :=
  .createSessionRequest 1 1 [] [] pdnType 5 0 0 7 (some sessionRequest)

def withSession (pdnType : UInt8) : PgwContext :=
  ((initial coincidingArrays).createSession coincidingSubnets 1 1 [] [] pdnType 5 0 0 7
    (some sessionRequest)).getD (initial coincidingArrays)

/-- An IPv4 packet to 45.45.0.2. -/
def packetTo : Memory := fun i => [0x45, 0, 0, 20, 0, 0, 0, 0, 64, 17, 0, 0, 8, 8, 8, 8, 0x2d, 0x2d,
  0, 2].getD i 0

theorem step_withSession [Ogslib] (maxNumOfFlow : Nat) {pdnType : UInt8}
    (h : ((initial coincidingArrays).createSession coincidingSubnets 1 1 [] [] pdnType 5 0 0 7
      (some sessionRequest)).isSome = true) :
    Step coincidingSubnets (fun _ => none) (initial coincidingArrays)
      (@sessionOf maxNumOfFlow pdnType, []) (withSession pdnType) := by
  obtain ⟨t, ht⟩ := Option.isSome_iff_exists.mp h
  have hwith : withSession pdnType = t := by
    rw [withSession, ht]
    rfl
  rw [hwith]
  exact congrArg silent ht

theorem reaches_withSession [Ogslib] (maxNumOfFlow : Nat) {pdnType : UInt8}
    (h : ((initial coincidingArrays).createSession coincidingSubnets 1 1 [] [] pdnType 5 0 0 7
      (some sessionRequest)).isSome = true) :
    Lts.Reaches (@Step maxNumOfFlow _ coincidingSubnets fun _ => none)
      (initial coincidingArrays) (withSession pdnType) :=
  Relation.ReflTransGen.single ⟨_, step_withSession maxNumOfFlow h⟩

theorem sessList_withSession {pdnType : UInt8} (h : (withSession pdnType).sessList = [1])
    {before after : List PgwSessId} {sess : PgwSessId}
    (hlist : (withSession pdnType).sessList = before ++ sess :: after) :
    before = [] ∧ sess = 1 := by
  rw [h] at hlist
  cases before with
  | nil =>
    rw [List.nil_append, List.cons_eq_cons] at hlist
    exact ⟨rfl, hlist.1.symm⟩
  | cons σ before =>
    rw [List.cons_append, List.cons_eq_cons] at hlist
    exact absurd hlist.2.symm (by simp)

attribute [local instance] Ogslib.reference

/-- The session with the address 45.45.0.2 is selected. -/
theorem selectsSession_ipv4 : (withSession Pgw.pdnTypeIpv4).SelectsSession packetTo 20 := by
  rw [selectsSession_iff _ _ _ _ _ (reaches_withSession 0 (by decide))]
  refine ⟨.inet, ⟨by decide, by decide⟩, trivial, ?_⟩
  intro before sess after hlist _ _
  obtain ⟨-, rfl⟩ := sessList_withSession (by decide) hlist
  refine ⟨⟨by decide, ⟨0, 0⟩, by decide, ?_⟩, ?_⟩
  · decide +kernel
  · decide

/-- The packet goes to the session with the address 2d2d:2::2. -/
theorem selectsSession_coincides : ¬∃ maxNumOfFlow : Nat,
    ∀ (cfg : PgwConfig) (compile : CString → Option PgwRule) (arrays : List (List PgwUeIp)),
      pgwUePoolGenerate cfg = .ok arrays → ∀ s,
        Lts.Reaches (@Step maxNumOfFlow _ cfg compile) (initial arrays) s →
          ∀ mem len, s.SelectsSession mem len := by
  rintro ⟨maxNumOfFlow, hclaim⟩
  have hreaches := @reaches_withSession _ maxNumOfFlow Pgw.pdnTypeIpv6 (by decide)
  have hselects := hclaim _ _ _ pgwUePoolGenerate_coinciding _ hreaches packetTo 20
  rw [(tree_of_reaches hreaches).selects_iff] at hselects
  obtain ⟨family, ⟨hversion, -⟩, -, hfirst⟩ := hselects
  have hfamily : some AddressFamily.inet = some family := hversion
  cases hfamily
  have hcoincides : (withSession Pgw.pdnTypeIpv6).Coincides .inet (packetTo.destination .inet) 1 :=
    ⟨.inet6, ⟨1, 0⟩, by decide, by decide +kernel⟩
  obtain ⟨⟨-, ueIp, hueIp, -⟩, -⟩ := hfirst [] 1 [] (by decide) (by simp) hcoincides
  have hnone : (withSession Pgw.pdnTypeIpv6).ueIpOf 1 .inet = none := by decide
  rw [hnone] at hueIp
  cases hueIp

end PgwContext
end NextEpc

import NextEpc.Gtp.Types
import NextEpc.Pgw.RouterAdvert

/-!
# Uplink packets of the PGW

`_gtpv1_u_recv_cb` takes the GTP-U header off a datagram and writes what follows to the TUN device
of the subnet that goes with the IP version, unless it is a router solicitation, which is answered.
The length of the header is taken from one of its three flags and the type is not looked at. Here
is exactly for which datagrams this is the decapsulation of GTP-U.
-/

namespace NextEpc
open Octets

/-- The places where the handling of uplink packets asserts. -/
inductive PgwGtpSite
  | pull
  | advertise
  deriving DecidableEq, Repr

abbrev PgwGtpM := Fallible PgwGtpSite

/-- A subnet with its device. -/
structure PgwIpPath where
  subnet : PgwSubnet
  dev : PgwDev
  deriving DecidableEq, Repr

/-- What uplink packets use of a session. `gnode` tells whether the default bearer has a node. -/
structure PgwUserSess where
  ipv4 : Option PgwIpPath
  ipv6 : Option PgwIpPath
  gnode : Bool
  sgwS5uTeid : UInt32
  deriving DecidableEq, Repr

/-- The session of the bearer with a TEID, `no_slaac`, whether `ogs_gtp_sendto` succeeds, and
`OGS_MAX_SDU_LEN`. -/
structure PgwUserPlane where
  find : UInt32 → Option PgwUserSess
  noSlaac : Bool
  sendto : Bytes → Bool
  maxSduLen : Nat

/-- What is written to a TUN device, and what is sent to the SGW. -/
structure PgwGtpOut where
  tun : Option (PgwIpPath × Bytes)
  sent : List Bytes
  deriving DecidableEq, Repr

def PgwGtpOut.dropped : PgwGtpOut := ⟨none, []⟩

/-- An octet of what has been received. -/
def octet (data : Bytes) (i : Nat) : PgwGtpM UInt8 :=
  if i < data.length then .ok (data.getD i 0) else .error .outOfBounds

/-- `OGS_GTPU_FLAGS_S` -/
def gtpuFlagsS : UInt8 := 0x2

/-- `ND_ROUTER_SOLICIT` -/
def ndRouterSolicit : UInt8 := 133

/-- `gtp_h->flags` -/
def gtpuFlags (data : Bytes) : UInt8 := data.getD 0 0

/-- `gtp_h->type` -/
def gtpuType (data : Bytes) : UInt8 := data.getD 1 0

/-- `ntohl(gtp_h->teid)` -/
def gtpuTeid (data : Bytes) : UInt32 := UInt32.ofNat (value ((data.drop 4).take 4))

/-- The length of the header as the callback computes it. -/
def gtpuHeaderLen (data : Bytes) : Nat := if gtpuFlags data &&& gtpuFlagsS ≠ 0 then 12 else 8

/-- `ip_h->ip_v` -/
def ipVersion (pkt : Bytes) : UInt8 := pkt.getD 0 0 / 16

/-- The subnet that is chosen for an IP version. -/
def PgwUserSess.path (sess : PgwUserSess) (version : UInt8) : Option PgwIpPath :=
  if version = 4 then sess.ipv4 else if version = 6 then sess.ipv6 else none

/-- The header that `pgw_gtp_send_to_bearer` puts before a packet. -/
def gtpuHeader (teid : UInt32) (pkt : Bytes) : Bytes :=
  [0x30, gtpuMsgtypeGpdu] ++ htons pkt.length ++ (htonl teid).toList

/-- A router advertisement to the source of a packet of 24 octets or more, with its header. -/
def PgwUserSess.advertisement (sess : PgwUserSess) (path : PgwIpPath) (pkt : Bytes) : Bytes :=
  let ip6Dst : In6Addr := Vector.ofFn fun i => pkt.getD (8 + i) 0
  let pkbuf := routerAdvertisement path.subnet path.dev ip6Dst
  gtpuHeader sess.sgwS5uTeid pkbuf ++ pkbuf

namespace PgwUserPlane
variable (g : PgwUserPlane)

/-- `pgw_gtp_send_router_advertisement` and `pgw_gtp_send_to_bearer` -/
def sendRouterAdvertisement (sess : PgwUserSess) (path : PgwIpPath) (pkt : Bytes) :
    PgwGtpM Bytes := do
  Fallible.assert .advertise (sess.gnode = true)
  Fallible.assert .advertise (g.sendto (sess.advertisement path pkt) = true)
  .ok (sess.advertisement path pkt)

/-- `pgw_gtp_handle_slaac`, for an IPv6 packet: `none` if the packet has not been handled. -/
def handleSlaac (sess : PgwUserSess) (pkt : Bytes) : PgwGtpM (Option (List Bytes)) := do
  let nxt ← octet pkt 6
  if nxt = ipprotoIcmpv6 then
    let type ← octet pkt 40
    if type = ndRouterSolicit then
      match sess.ipv6 with
      | some path =>
        let sendbuf ← g.sendRouterAdvertisement sess path pkt
        .ok (some [sendbuf])
      | none => .ok (some [])
    else .ok none
  else .ok none

/-- The rest of the callback, once the bearer has been looked up. -/
def forward (bearer : Option PgwUserSess) (pkt : Bytes) : PgwGtpM PgwGtpOut :=
  match bearer with
  | none => .ok .dropped
  | some sess => do
    let first ← octet pkt 0
    match sess.path (first / 16) with
    | none => .ok .dropped
    | some path =>
      if g.noSlaac = false ∧ first / 16 = 6 then
        match ← g.handleSlaac sess pkt with
        | some sent => .ok ⟨none, sent⟩
        | none => .ok ⟨some (path, pkt), []⟩
      else .ok ⟨some (path, pkt), []⟩

/-- `_gtpv1_u_recv_cb`. A datagram that is longer than the buffer is cut off. -/
def recvCb (datagram : Bytes) : PgwGtpM PgwGtpOut :=
  let pkbuf := datagram.take g.maxSduLen
  if pkbuf = [] then .ok .dropped
  else do
    let _ ← octet pkbuf 0
    let _ ← octet pkbuf 7
    Fallible.assert .pull (gtpuHeaderLen pkbuf ≤ pkbuf.length)
    g.forward (g.find (gtpuTeid pkbuf)) (pkbuf.drop (gtpuHeaderLen pkbuf))

end PgwUserPlane

/-! ## What is in a datagram -/

/-- The E, S and PN flags -/
def gtpuFlagsAll : UInt8 := 0x7

/-- The E flag -/
def gtpuFlagsE : UInt8 := 0x4

/-- What follows the extension headers, the first of which is of type `nxt`. Their lengths count
four octets, of which the last is the next type. -/
def skipExtensions : (n : Nat) → (nxt : UInt8) → (data : Bytes) → Option Bytes
  | 0, _, _ => none
  | n + 1, nxt, data =>
    if nxt = 0 then some data
    else
      let length := 4 * (data.getD 0 0).toNat
      if length = 0 ∨ data.length < length then none
      else skipExtensions n (data.getD (length - 1) 0) (data.drop length)

/-- The T-PDU of a G-PDU message. -/
def tPdu (data : Bytes) : Option Bytes :=
  if data.length < 8 ∨ gtpuType data ≠ gtpuMsgtypeGpdu then none
  else if gtpuFlags data &&& gtpuFlagsAll = 0 then some (data.drop 8)
  else if data.length < 12 then none
  else if gtpuFlags data &&& gtpuFlagsE = 0 then some (data.drop 12)
  else skipExtensions data.length (data.getD 11 0) (data.drop 12)

/-- A G-PDU whose header ends where the S flag says: without any of the flags, or with the S flag
and without extension headers. -/
def HasPlainHeader (datagram : Bytes) : Prop :=
  gtpuType datagram = gtpuMsgtypeGpdu ∧ (gtpuFlags datagram &&& gtpuFlagsAll = 0 ∨
    gtpuFlags datagram &&& gtpuFlagsS ≠ 0 ∧
      (gtpuFlags datagram &&& gtpuFlagsE = 0 ∨ datagram.getD 11 0 = 0))

/-- A router solicitation without extension headers. -/
def IsSolicitation (pkt : Bytes) : Prop :=
  pkt.getD 6 0 = ipprotoIcmpv6 ∧ pkt.getD 40 0 = ndRouterSolicit

namespace PgwUserPlane
variable (g : PgwUserPlane)

/-- The datagram is dropped, or answered, or its T-PDU is written to the TUN device. -/
def Decapsulates (datagram : Bytes) : Prop :=
  ∃ out, g.recvCb datagram = .ok out ∧
    ∀ path pkt, out.tun = some (path, pkt) → tPdu datagram = some pkt

/-- A packet that is looked at as IPv6 by `pgw_gtp_handle_slaac`. -/
def IsInspected (pkt : Bytes) : Prop := g.noSlaac = false ∧ ipVersion pkt = 6

/-- The octets that are looked at are there, and the answer to a router solicitation can be sent. -/
def Inspects (sess : PgwUserSess) (pkt : Bytes) : Prop :=
  6 < pkt.length ∧ (pkt.getD 6 0 = ipprotoIcmpv6 → 40 < pkt.length) ∧
    (IsSolicitation pkt → ∀ path, sess.ipv6 = some path →
      sess.gnode = true ∧ g.sendto (sess.advertisement path pkt) = true)

/-- What is left of a datagram is its T-PDU. One that is longer than the buffer has lost its end. -/
def IsStripped (datagram pkt : Bytes) : Prop :=
  if datagram.length ≤ g.maxSduLen then HasPlainHeader datagram else tPdu datagram = some pkt

/-- A packet for a session with an address of its version. -/
def Passes (sess : PgwUserSess) (datagram pkt : Bytes) : Prop :=
  pkt ≠ [] ∧ ((sess.path (ipVersion pkt)).isSome →
    (g.IsInspected pkt → g.Inspects sess pkt) ∧
      (¬(g.IsInspected pkt ∧ IsSolicitation pkt) → g.IsStripped datagram pkt))

/-- The datagrams that are decapsulated: what is received has a whole header, and if it is for a
bearer, then there is a packet in it that passes. -/
def Decapsulable (datagram : Bytes) : Prop :=
  let pkbuf := datagram.take g.maxSduLen
  pkbuf = [] ∨ 8 ≤ pkbuf.length ∧ gtpuHeaderLen pkbuf ≤ pkbuf.length ∧
    ∀ sess, g.find (gtpuTeid pkbuf) = some sess →
      g.Passes sess datagram (pkbuf.drop (gtpuHeaderLen pkbuf))

end PgwUserPlane

/-! ## The header -/

variable {data datagram pkt : Bytes} {i n : Nat} {nxt : UInt8}

theorem octet_bind_eq_ok {β : Type} {f : UInt8 → PgwGtpM β} {b : β} :
    (octet data i >>= f) = .ok b ↔ i < data.length ∧ f (data.getD i 0) = .ok b := by
  by_cases h : i < data.length
  · rw [octet, if_pos h, Fallible.ok_bind, and_iff_right h]
  · rw [octet, if_neg h, Fallible.error_bind]
    exact iff_of_false nofun fun hf => h hf.1

/-- What is skipped is lost, if there is an extension header at all. -/
theorem length_skipExtensions {out : Bytes} (h : skipExtensions n nxt data = some out) :
    out.length ≤ data.length ∧ (nxt ≠ 0 → out.length < data.length) := by
  induction n generalizing nxt data with
  | zero => cases h
  | succ n ih =>
    rw [skipExtensions] at h
    by_cases hnxt : nxt = 0
    · rw [if_pos hnxt] at h
      cases h
      exact ⟨le_rfl, fun hne => absurd hnxt hne⟩
    · rw [if_neg hnxt] at h
      by_cases hlength : 4 * (data.getD 0 0).toNat = 0 ∨ data.length < 4 * (data.getD 0 0).toNat
      · rw [if_pos hlength] at h
        cases h
      · rw [if_neg hlength] at h
        have hle := (ih h).1
        rw [List.length_drop] at hle
        constructor
        · omega
        · intro
          omega

/-- After the optional octets, nothing more is skipped if and only if there are no extension
headers. -/
theorem afterOptional_iff (h12 : 12 < data.length) :
    (if gtpuFlags data &&& gtpuFlagsE = 0 then some (data.drop 12)
      else skipExtensions data.length (data.getD 11 0) (data.drop 12)) = some (data.drop 12) ↔
    gtpuFlags data &&& gtpuFlagsE = 0 ∨ data.getD 11 0 = 0 := by
  by_cases he : gtpuFlags data &&& gtpuFlagsE = 0
  · rw [if_pos he]
    exact iff_of_true rfl (.inl he)
  · rw [if_neg he, or_iff_right he]
    obtain ⟨n, hn⟩ : ∃ n, data.length = n + 1 := ⟨data.length - 1, by omega⟩
    constructor
    · intro h
      by_contra hnxt
      exact absurd ((length_skipExtensions h).2 hnxt) (lt_irrefl _)
    · intro hnxt
      rw [hn, skipExtensions, if_pos hnxt]

/-- The T-PDU is what follows the header of the S flag if and only if the header is plain. -/
theorem tPdu_eq_drop_iff (hlen : gtpuHeaderLen data < data.length) :
    tPdu data = some (data.drop (gtpuHeaderLen data)) ↔ HasPlainHeader data := by
  have hsub : gtpuFlags data &&& gtpuFlagsS = gtpuFlags data &&& gtpuFlagsAll &&& gtpuFlagsS := by
    rw [UInt8.and_assoc]
    rfl
  rw [HasPlainHeader]
  by_cases hs : gtpuFlags data &&& gtpuFlagsS ≠ 0
  · have hall : gtpuFlags data &&& gtpuFlagsAll ≠ 0 := fun h => hs (by rw [hsub, h]; rfl)
    rw [gtpuHeaderLen, if_pos hs] at hlen ⊢
    by_cases htype : gtpuType data = gtpuMsgtypeGpdu
    · have hshort : ¬(data.length < 8 ∨ gtpuType data ≠ gtpuMsgtypeGpdu) := by
        rintro (h | h)
        · omega
        · exact h htype
      rw [tPdu, if_neg hshort, if_neg hall, if_neg (by omega), afterOptional_iff hlen]
      tauto
    · rw [tPdu, if_pos (.inr htype)]
      exact iff_of_false nofun fun h => htype h.1
  · rw [gtpuHeaderLen, if_neg hs] at hlen ⊢
    by_cases htype : gtpuType data = gtpuMsgtypeGpdu
    · have hshort : ¬(data.length < 8 ∨ gtpuType data ≠ gtpuMsgtypeGpdu) := by
        rintro (h | h)
        · omega
        · exact h htype
      rw [tPdu, if_neg hshort]
      by_cases hall : gtpuFlags data &&& gtpuFlagsAll = 0
      · rw [if_pos hall]
        exact iff_of_true rfl ⟨htype, .inl hall⟩
      · -- four octets more belong to the header
        rw [if_neg hall]
        refine iff_of_false ?_ (by tauto)
        intro h
        by_cases h12 : data.length < 12
        · rw [if_pos h12] at h
          cases h
        · rw [if_neg h12] at h
          have hout : (data.drop 8).length ≤ (data.drop 12).length := by
            by_cases he : gtpuFlags data &&& gtpuFlagsE = 0
            · rw [if_pos he] at h
              exact (congrArg List.length (Option.some_inj.mp h)).ge
            · rw [if_neg he] at h
              exact (length_skipExtensions h).1
          rw [List.length_drop, List.length_drop] at hout
          omega
    · rw [tPdu, if_pos (.inr htype)]
      exact iff_of_false nofun fun h => htype h.1

/-! ## The callback -/

namespace PgwUserPlane
variable {g : PgwUserPlane} {sess : PgwUserSess}

theorem sendRouterAdvertisement_eq_ok {path : PgwIpPath} {sendbuf : Bytes} :
    g.sendRouterAdvertisement sess path pkt = .ok sendbuf ↔
      (sess.gnode = true ∧ g.sendto (sess.advertisement path pkt) = true) ∧
        sess.advertisement path pkt = sendbuf := by
  simp only [sendRouterAdvertisement, Fallible.bind_eq_ok, Fallible.assert_eq_ok, exists_const,
    Except.ok.injEq, and_assoc]

/-- A packet counts as handled if and only if it is a router solicitation. -/
theorem isSome_of_handleSlaac {r : Option (List Bytes)} (h : g.handleSlaac sess pkt = .ok r) :
    r = none ↔ ¬IsSolicitation pkt := by
  rw [handleSlaac, octet_bind_eq_ok] at h
  replace h := h.2
  rw [IsSolicitation]
  by_cases hnxt : pkt.getD 6 0 = ipprotoIcmpv6
  · rw [if_pos hnxt, octet_bind_eq_ok] at h
    replace h := h.2
    by_cases htype : pkt.getD 40 0 = ndRouterSolicit
    · rw [if_pos htype] at h
      refine iff_of_false ?_ (not_not_intro ⟨hnxt, htype⟩)
      cases hipv6 : sess.ipv6 with
      | none =>
        rw [hipv6] at h
        cases h
        exact Option.some_ne_none _
      | some path =>
        rw [hipv6] at h
        obtain ⟨sendbuf, -, h⟩ := Fallible.bind_eq_ok.mp h
        cases h
        exact Option.some_ne_none _
    · rw [if_neg htype] at h
      cases h
      exact iff_of_true rfl fun hsolicit => htype hsolicit.2
  · rw [if_neg hnxt] at h
    cases h
    exact iff_of_true rfl fun hsolicit => hnxt hsolicit.1

theorem handleSlaac_returns :
    (∃ r, g.handleSlaac sess pkt = .ok r) ↔ g.Inspects sess pkt := by
  simp only [handleSlaac, octet_bind_eq_ok, exists_and_left, Inspects, IsSolicitation]
  refine and_congr_right fun _ => ?_
  by_cases hnxt : pkt.getD 6 0 = ipprotoIcmpv6
  · simp only [hnxt, if_true, octet_bind_eq_ok, exists_and_left, true_and, forall_const]
    refine and_congr_right fun _ => ?_
    by_cases htype : pkt.getD 40 0 = ndRouterSolicit
    · simp only [htype, if_true, forall_const]
      cases hipv6 : sess.ipv6 with
      | none => simp
      | some path => simp [Fallible.bind_eq_ok, sendRouterAdvertisement_eq_ok]
    · simp only [htype, if_false, false_implies, iff_true]
      exact ⟨none, rfl⟩
  · simp only [hnxt, if_false, false_implies, false_and, and_self, iff_true]
    exact ⟨none, rfl⟩

/-- What is written for a packet of a session is the T-PDU, if anything is. -/
theorem forward_iff :
    (∃ out, g.forward (some sess) pkt = .ok out ∧
      ∀ path pkt', out.tun = some (path, pkt') → tPdu datagram = some pkt') ↔
    pkt ≠ [] ∧ ((sess.path (ipVersion pkt)).isSome → (g.IsInspected pkt → g.Inspects sess pkt) ∧
      (¬(g.IsInspected pkt ∧ IsSolicitation pkt) → tPdu datagram = some pkt)) := by
  have hwritten (path : PgwIpPath) : (∀ path' pkt', (some (path, pkt)) = some (path', pkt') →
      tPdu datagram = some pkt') ↔ tPdu datagram = some pkt := by
    constructor
    · exact fun h => h path pkt rfl
    · rintro h _ _ ⟨⟩
      exact h
  simp only [forward, octet_bind_eq_ok, and_assoc, exists_and_left, ← List.length_pos_iff]
  refine and_congr_right fun _ => ?_
  rw [show pkt.getD 0 0 / 16 = ipVersion pkt from rfl]
  cases hpath : sess.path (ipVersion pkt) with
  | none =>
    have hdropped : ∀ path pkt', PgwGtpOut.dropped.tun = some (path, pkt') →
        tPdu datagram = some pkt' := fun _ _ h => absurd h.symm (Option.some_ne_none _)
    exact iff_of_true ⟨.dropped, rfl, hdropped⟩ nofun
  | some path =>
    have hunhandled : (∃ out, (.ok ⟨some (path, pkt), []⟩ : PgwGtpM PgwGtpOut) = .ok out ∧
        ∀ path pkt', out.tun = some (path, pkt') → tPdu datagram = some pkt') ↔
          tPdu datagram = some pkt := by
      rw [← hwritten path]
      simp only [Except.ok.injEq, exists_eq_left']
    simp only [Option.isSome_some, eq_self, true_imp_iff]
    by_cases hinspected : g.IsInspected pkt
    · rw [and_iff_right hinspected, imp_iff_right hinspected]
      simp only [if_pos (show g.noSlaac = false ∧ ipVersion pkt = 6 from hinspected),
        Fallible.bind_eq_ok]
      constructor
      · rintro ⟨out, ⟨r, hr, hout⟩, htun⟩
        refine ⟨handleSlaac_returns.mp ⟨r, hr⟩, fun hnot => ?_⟩
        obtain rfl := (isSome_of_handleSlaac hr).mpr hnot
        exact hunhandled.mp ⟨out, hout, htun⟩
      · rintro ⟨hinspects, hpdu⟩
        obtain ⟨r, hr⟩ := handleSlaac_returns.mpr hinspects
        cases r with
        | none =>
          obtain ⟨out, hout, htun⟩ := hunhandled.mpr (hpdu ((isSome_of_handleSlaac hr).mp rfl))
          exact ⟨out, ⟨none, hr, hout⟩, htun⟩
        | some sent => exact ⟨⟨none, sent⟩, ⟨some sent, hr, rfl⟩, nofun⟩
    · simp only [if_neg (show ¬(g.noSlaac = false ∧ ipVersion pkt = 6) from hinspected), hunhandled,
        hinspected, false_implies, false_and, not_false_eq_true, true_and, forall_const]

/-- No bearers, and a buffer as it is allocated. -/
def noBearers : PgwUserPlane := ⟨fun _ => none, false, fun _ => true, 8192⟩

end PgwUserPlane
end NextEpc

import NextEpc.Sgw.Downlink

/-!
# Indirect forwarding

A packet that comes in for a forwarding tunnel is sent to the peer of the first tunnel of the same
type that its bearer has. This is the peer of the tunnel itself as long as all tunnels of a type in
a bearer have one peer.
-/

namespace NextEpc
namespace SgwContext
variable {s t u : SgwContext} {sgwUe : SgwUeId} {sess : SgwSessId} {bearer : SgwBearerId}
  {tunnel : SgwTunnelId} {out : List SgwOutput}

/-- A packet that comes in for the tunnel is sent to its own peer. -/
def OwnPeer (s : SgwContext) (tunnel : SgwTunnelId) : Prop :=
  ∀ type payload pushed, type = gtpuMsgtypeGpdu ∨ type = gtpuMsgtypeEndMarker →
    ∃ gnode, (s.tunnels.mem tunnel).gnode = some gnode ∧
      (s.gtpv1URecvCb type (s.tunnels.mem tunnel).localTeid payload pushed).map Prod.snd =
        some [.sendIndirect gnode (s.tunnels.mem tunnel).remoteTeid
          ⟨s.received, type, (s.tunnels.mem tunnel).localTeid, payload⟩]

/-- The tunnel is in use, and of one of the two types of indirect tunnels. -/
def Forwards (s : SgwContext) (tunnel : SgwTunnelId) : Prop :=
  s.tunnels.live tunnel = true ∧ IsForwarding (s.tunnels.mem tunnel).interfaceType

/-- The tunnels have the same bearer and the same type. -/
def Alike (s : SgwContext) (x y : SgwTunnelId) : Prop :=
  (s.tunnels.mem x).bearer = (s.tunnels.mem y).bearer ∧
    (s.tunnels.mem x).interfaceType = (s.tunnels.mem y).interfaceType

/-- The tunnel ends at the F-TEID. -/
def HasPeer (s : SgwContext) (tunnel : SgwTunnelId) (peer : SgwFTeid) : Prop :=
  (s.tunnels.mem tunnel).remoteTeid = peer.teid ∧ (s.tunnels.mem tunnel).gnode = some peer.gnode

/-- Forwarding tunnels have peers. -/
def ForwardsToPeer (s : SgwContext) : Prop := ∀ x, s.Forwards x → ∃ peer, s.HasPeer x peer

/-- Forwarding tunnels of one bearer and one type have one peer. -/
def OnePeer (s : SgwContext) : Prop :=
  ∀ x y, s.Forwards x → s.Forwards y → s.Alike x y → ∀ peer, s.HasPeer x peer → s.HasPeer y peer

theorem HasPeer.unique {a b : SgwFTeid} (h : s.HasPeer tunnel a) (h' : s.HasPeer tunnel b) :
    a = b := by
  obtain ⟨hteid, hgnode⟩ := h
  rw [h'.2, Option.some_inj] at hgnode
  rw [h'.1] at hteid
  cases a
  cases b
  cases hteid
  cases hgnode
  rfl

/-! ## One packet -/

/-- A packet goes to the peer of the first tunnel of the type. -/
theorem gtpv1URecvCb_forwards (h : s.WellFormed) (hforwards : s.Forwards tunnel) {type : UInt8}
    (htype : type = gtpuMsgtypeGpdu ∨ type = gtpuMsgtypeEndMarker) (payload : Bytes)
    (pushed : Bool) : ∃ x, s.Forwards x ∧ s.Alike tunnel x ∧
      ∀ peer, s.HasPeer x peer →
        (s.gtpv1URecvCb type (s.tunnels.mem tunnel).localTeid payload pushed).map Prod.snd =
          some [.sendIndirect peer.gnode peer.teid
            ⟨s.received, type, (s.tunnels.mem tunnel).localTeid, payload⟩] ∧
        s.sgwTunnelFindByInterfaceType (s.tunnels.mem tunnel).bearer
          (s.tunnels.mem tunnel).interfaceType = some x := by
  obtain ⟨hlive, hforwarding⟩ := hforwards
  have hbearer := h.tunnels.live tunnel hlive
  have hfind := (h.indexTeid.find (s.tunnels.mem tunnel).localTeid).mpr ⟨hlive, rfl⟩
  cases hfirst : s.sgwTunnelFindByInterfaceType (s.tunnels.mem tunnel).bearer
      (s.tunnels.mem tunnel).interfaceType with
  | none =>
    have hnone := List.find?_eq_none.mp hfirst tunnel (h.tunnels.mem hlive)
    exact absurd (decide_eq_true rfl) hnone
  | some x =>
    obtain ⟨hxlive, hxbearer, hxtype⟩ := h.tunnel_of_type hbearer hfirst
    refine ⟨x, ⟨hxlive, by rwa [hxtype]⟩, ⟨hxbearer.symm, hxtype.symm⟩, ?_⟩
    rintro peer ⟨hteid, hgnode⟩
    refine ⟨?_, rfl⟩
    have hs1u : (s.tunnels.mem tunnel).interfaceType ≠ s1uSgwGtpU := by
      intro heq
      rw [heq] at hforwarding
      exact absurd hforwarding (by decide)
    have hfind : s.pkbufAlloc.sgwTunnelFindByTeid (s.tunnels.mem tunnel).localTeid =
        some tunnel := hfind
    have hfirst : s.pkbufAlloc.sgwTunnelFindByInterfaceType
        (s.pkbufAlloc.tunnels.mem tunnel).bearer (s.pkbufAlloc.tunnels.mem tunnel).interfaceType =
          some x := hfirst
    have hs1u : (s.pkbufAlloc.tunnels.mem tunnel).interfaceType ≠ s1uSgwGtpU := hs1u
    have hforwarding : IsForwarding (s.pkbufAlloc.tunnels.mem tunnel).interfaceType := hforwarding
    have hgnode : (s.pkbufAlloc.tunnels.mem x).gnode = some peer.gnode := hgnode
    have hteid : (s.pkbufAlloc.tunnels.mem x).remoteTeid = peer.teid := hteid
    rw [gtpv1URecvCb, if_pos htype, sgwConvertTeid]
    dsimp only
    rw [hfind]
    dsimp only
    rw [if_neg hs1u, if_pos hforwarding, hfirst]
    simp [hgnode, hteid]

/-- Packets go to the peers of their tunnels if and only if tunnels that are alike have one peer. -/
theorem ownPeer_iff (h : s.WellFormed) (hpeers : s.ForwardsToPeer) :
    (∀ x, s.Forwards x → s.OwnPeer x) ↔ s.OnePeer := by
  constructor
  · intro hown x y hx hy halike peer hpeer
    -- both packets go to the first tunnel of the type
    obtain ⟨f, hf, _, hsent⟩ := gtpv1URecvCb_forwards h hx (Or.inl rfl) [] true
    obtain ⟨g, hg, _, hsent'⟩ := gtpv1URecvCb_forwards h hy (Or.inl rfl) [] true
    obtain ⟨first, hfirst⟩ := hpeers f hf
    obtain ⟨second, hsecond⟩ := hpeers g hg
    obtain ⟨hout, hfind⟩ := hsent first hfirst
    obtain ⟨hout', hfind'⟩ := hsent' second hsecond
    rw [halike.1, halike.2, hfind', Option.some_inj] at hfind
    subst hfind
    cases hfirst.unique hsecond
    obtain ⟨n, hn, hownx⟩ := hown x hx gtpuMsgtypeGpdu [] true (Or.inl rfl)
    obtain ⟨m, hm, howny⟩ := hown y hy gtpuMsgtypeGpdu [] true (Or.inl rfl)
    rw [hout, Option.some_inj, List.cons_eq_cons, SgwOutput.sendIndirect.injEq] at hownx
    rw [hout', Option.some_inj, List.cons_eq_cons, SgwOutput.sendIndirect.injEq] at howny
    have hx' : s.HasPeer x first := ⟨hownx.1.2.1.symm, by rw [hn, hownx.1.1]⟩
    have hy' : s.HasPeer y first := ⟨howny.1.2.1.symm, by rw [hm, howny.1.1]⟩
    rw [hpeer.unique hx']
    exact hy'
  · intro hone x hx type payload pushed htype
    obtain ⟨f, hf, halike, hsent⟩ := gtpv1URecvCb_forwards h hx htype payload pushed
    obtain ⟨peer, hpeer⟩ := hpeers x hx
    have hfirst := hone x f hx hf halike peer hpeer
    refine ⟨peer.gnode, hpeer.2, ?_⟩
    rw [(hsent peer hfirst).1, hpeer.1]

/-! ## Events that leave forwarding tunnels alone -/

/-- Each forwarding tunnel is one that was there before. -/
def KeepsForwarding (s t : SgwContext) : Prop :=
  ∀ x, t.Forwards x → s.Forwards x ∧ t.tunnels.mem x = s.tunnels.mem x

theorem KeepsForwarding.refl (s : SgwContext) : s.KeepsForwarding s := fun _ h => ⟨h, rfl⟩

theorem KeepsForwarding.trans (h : s.KeepsForwarding t) (h' : t.KeepsForwarding u) :
    s.KeepsForwarding u := by
  intro x hx
  obtain ⟨hmid, heq⟩ := h' x hx
  obtain ⟨hfirst, heq'⟩ := h x hmid
  exact ⟨hfirst, heq.trans heq'⟩

theorem keepsForwarding_of_tunnels (h : t.tunnels = s.tunnels) : s.KeepsForwarding t := by
  intro x hx
  rw [Forwards, h] at hx
  exact ⟨hx, by rw [h]⟩

theorem Shrinks.keepsForwarding (h : s.Shrinks t) : s.KeepsForwarding t := by
  intro x hx
  rw [Forwards, h.tunnel] at hx
  exact ⟨⟨h.tunnels x hx.1, hx.2⟩, by rw [h.tunnel]⟩

theorem KeepsForwarding.forwardsToPeer (h : s.KeepsForwarding t) (hs : s.ForwardsToPeer) :
    t.ForwardsToPeer := by
  intro x hx
  obtain ⟨hx', heq⟩ := h x hx
  obtain ⟨peer, hpeer⟩ := hs x hx'
  exact ⟨peer, by rwa [HasPeer, heq]⟩

theorem KeepsForwarding.onePeer (h : s.KeepsForwarding t) (hs : s.OnePeer) : t.OnePeer := by
  intro x y hx hy halike peer hpeer
  obtain ⟨hx', hxeq⟩ := h x hx
  obtain ⟨hy', hyeq⟩ := h y hy
  rw [HasPeer, hxeq] at hpeer
  rw [Alike, hxeq, hyeq] at halike
  have hsame := hs x y hx' hy' halike peer hpeer
  rwa [HasPeer, hyeq]

/-- A write to a tunnel that does not forward. -/
theorem keepsForwarding_modify {f : SgwTunnelRecord → SgwTunnelRecord}
    (hf : ∀ m, (f m).interfaceType = m.interfaceType)
    (htype : ¬IsForwarding (s.tunnels.mem tunnel).interfaceType) :
    s.KeepsForwarding { s with tunnels := s.tunnels.modify tunnel f } := by
  rintro x ⟨hlive, hforwarding⟩
  have hne : x ≠ tunnel := by
    rintro rfl
    simp only [Pool.mem_modify, if_true] at hforwarding
    rw [hf] at hforwarding
    exact htype hforwarding
  simp only [Pool.mem_modify, if_neg hne] at hforwarding
  exact ⟨⟨hlive, hforwarding⟩, by simp [hne]⟩

theorem not_forwarding_of_find {type : UInt8}
    (hfind : s.sgwTunnelFindByInterfaceType bearer type = some tunnel)
    (htype : ¬IsForwarding type) : ¬IsForwarding (s.tunnels.mem tunnel).interfaceType := by
  have hfound := List.find?_some hfind
  have hsame : (s.tunnels.mem tunnel).interfaceType = type := of_decide_eq_true hfound
  rwa [hsame]

/-- A new tunnel to an eNB or a PGW. -/
theorem keepsForwarding_tunnelAdded {type : UInt8} (htype : ¬IsForwarding type) :
    s.KeepsForwarding (s.tunnelAdded tunnel bearer type) := by
  rintro x ⟨hlive, hforwarding⟩
  have hne : x ≠ tunnel := by
    rintro rfl
    simp only [tunnelAdded, SgwTunnelRecord.add, Pool.mem_modify, if_true] at hforwarding
    exact htype hforwarding
  rw [mem_tunnelAdded hne] at hforwarding ⊢
  exact ⟨⟨(live_tunnelAdded.mp hlive).resolve_left hne, hforwarding⟩, rfl⟩

theorem keepsForwarding_bearerAdded {s1uTunnel s5uTunnel : SgwTunnelId} :
    s.KeepsForwarding (s.bearerAdded bearer s1uTunnel s5uTunnel sess) := by
  have halloc : s.KeepsForwarding (s.sgwBearerAlloc bearer sess) := keepsForwarding_of_tunnels rfl
  have hs1u := @keepsForwarding_tunnelAdded (s.sgwBearerAlloc bearer sess) bearer s1uTunnel
    s1uSgwGtpU (by decide)
  have hs5u := @keepsForwarding_tunnelAdded ((s.sgwBearerAlloc bearer sess).tunnelAdded s1uTunnel
    bearer s1uSgwGtpU) bearer s5uTunnel s5s8SgwGtpU (by decide)
  exact (halloc.trans hs1u).trans hs5u

theorem Modify.keepsForwarding {ebi : Option UInt8} {enbS1uTeid : Option SgwFTeid}
    {memory : Vector UInt8 92} (h : Modify s sgwUe ebi enbS1uTeid memory t out) :
    s.KeepsForwarding t := by
  cases h with
  | nothing => exact KeepsForwarding.refl s
  | move _ x _ enb _ _ _ _ hx =>
    have htype := not_forwarding_of_find hx (by decide)
    have hremote : s.KeepsForwarding (s.setRemote x enb) :=
      keepsForwarding_modify (fun _ => rfl) htype
    exact hremote.trans (keepsForwarding_of_tunnels rfl)

theorem keepsForwarding_release
    (h : s.sgwS11HandleReleaseAccessBearersRequest sgwUe = some t) : s.KeepsForwarding t := by
  have htrans : ∀ u v w : SgwContext, u.KeepsForwarding v → v.KeepsForwarding w →
      u.KeepsForwarding w := fun _ _ _ => KeepsForwarding.trans
  have hue : s.KeepsForwarding (s.setUe sgwUe fun m =>
      { m with s1uInactive := true, dlNotiSent := false }) := keepsForwarding_of_tunnels rfl
  apply hue.trans
  apply Loop.foldlM_rel KeepsForwarding.refl htrans _ h
  intro u σ _ v hsess
  apply Loop.foldlM_rel KeepsForwarding.refl htrans _ hsess
  intro u b _ v hbearer
  rw [sgwReleaseBearer, Option.bind_eq_bind, Option.bind_eq_some_iff] at hbearer
  obtain ⟨x, hx, hbearer⟩ := hbearer
  cases hbearer
  exact keepsForwarding_modify (fun _ => rfl) (not_forwarding_of_find hx (by decide))

theorem tunnels_forwardCreateSessionRequest {mmeS11Teid : Option UInt32} {pgw : Option NodeId}
    {uli : Bool}
    (h : s.sgwS11ForwardCreateSessionRequest sgwUe sess mmeS11Teid pgw uli = some (t, out)) :
    t.tunnels = s.tunnels := by
  rw [sgwS11ForwardCreateSessionRequest.eq_def] at h
  split at h
  · split at h
    · simp only [Option.bind_eq_bind, Option.bind_eq_some_iff] at h
      obtain ⟨_, _, _, _, h⟩ := h
      cases h
      rfl
    · cases h
      rfl
  · cases h
    rfl

theorem keepsForwarding_createSessionRequest {s1uTunnel s5uTunnel : SgwTunnelId}
    {ebi : Option UInt8} {apn : Option Bytes} {mmeS11Teid : Option UInt32} {pgw : Option NodeId}
    {uli : Bool}
    (h : s.sgwS11HandleCreateSessionRequest sess bearer s1uTunnel s5uTunnel sgwUe ebi apn
      mmeS11Teid pgw uli = some (t, out)) : s.KeepsForwarding t := by
  rw [sgwS11HandleCreateSessionRequest.eq_def] at h
  split at h
  · cases h
    exact KeepsForwarding.refl s
  · rename_i ebi
    split at h
    · exact keepsForwarding_of_tunnels (tunnels_forwardCreateSessionRequest h)
    · split at h
      · cases h
        exact KeepsForwarding.refl s
      · rename_i apn
        rw [Option.bind_eq_bind, Option.bind_eq_some_iff] at h
        obtain ⟨u, hadd, h⟩ := h
        rw [sgwSessAdd_eq_some] at hadd
        obtain ⟨_, _, rfl⟩ := hadd
        have halloc : s.KeepsForwarding (s.sgwSessAlloc sess sgwUe apn) :=
          keepsForwarding_of_tunnels rfl
        have hadded : s.KeepsForwarding
            (s.sessAdded sess bearer s1uTunnel s5uTunnel sgwUe apn ebi) :=
          (halloc.trans keepsForwarding_bearerAdded).trans (keepsForwarding_of_tunnels rfl)
        apply hadded.trans
        exact keepsForwarding_of_tunnels (tunnels_forwardCreateSessionRequest h)

theorem keepsForwarding_createSessionResponse {ebi : Option UInt8} {pgwS5cTeid : Option UInt32}
    {pgwS5uTeid : Option SgwFTeid} {cause : Bool}
    (h : s.sgwS5cHandleCreateSessionResponse sess ebi pgwS5cTeid pgwS5uTeid cause = some t) :
    s.KeepsForwarding t := by
  rw [sgwS5cHandleCreateSessionResponse.eq_def] at h
  split at h
  · split at h
    · simp only [Option.bind_eq_bind, Option.bind_eq_some_iff] at h
      obtain ⟨_, _, _, _, x, hx, h⟩ := h
      cases h
      exact keepsForwarding_modify (fun _ => rfl) (not_forwarding_of_find hx (by decide))
    · cases h
      exact KeepsForwarding.refl s
  · cases h
    exact KeepsForwarding.refl s

theorem keepsForwarding_createBearerRequest {s1uTunnel s5uTunnel : SgwTunnelId} {complete : Bool}
    {pgwS5uTeid : Option SgwFTeid}
    (h : s.sgwS5cHandleCreateBearerRequest bearer s1uTunnel s5uTunnel sess complete pgwS5uTeid =
      some t) : s.KeepsForwarding t := by
  rw [sgwS5cHandleCreateBearerRequest.eq_def] at h
  split at h
  · cases h
    exact KeepsForwarding.refl s
  · split at h
    · simp only [Option.bind_eq_bind, Option.bind_eq_some_iff, sgwBearerAdd_eq_some] at h
      obtain ⟨u, ⟨_, rfl⟩, _, _, x, hx, h⟩ := h
      cases h
      apply keepsForwarding_bearerAdded.trans
      exact keepsForwarding_modify (fun _ => rfl) (not_forwarding_of_find hx (by decide))
    · cases h
      exact KeepsForwarding.refl s

/-! ## Requests for indirect tunnels -/

/-- An indirect tunnel that is requested, with its slot. -/
structure Requested where
  tunnel : SgwTunnelId
  bearer : SgwBearerId
  interfaceType : UInt8
  fTeid : SgwFTeid

/-- The tunnels that a Create Indirect Data Forwarding Tunnel Request asks for. It is read up to the
first bearer context without an identity. -/
def requested (s : SgwContext) (sgwUe : SgwUeId) : List IndirectBearer → List Requested
  | [] => []
  | req :: reqs =>
    match req.ebi.bind fun ebi => s.sgwBearerFindByUeEbi sgwUe ebi with
    | none => []
    | some bearer =>
      (req.s1uEnodebFTeid.map fun r => ⟨r.1, bearer, sgwGtpUForDlDataForwarding, r.2⟩).toList ++
      (req.s12RncFTeid.map fun r => ⟨r.1, bearer, sgwGtpUForUlDataForwarding, r.2⟩).toList ++
      s.requested sgwUe reqs

/-- The record of a tunnel is what was requested. -/
structure Requested.Granted (r : Requested) (t : SgwContext) : Prop where
  live : t.tunnels.live r.tunnel = true
  bearer : (t.tunnels.mem r.tunnel).bearer = r.bearer
  interfaceType : (t.tunnels.mem r.tunnel).interfaceType = r.interfaceType
  peer : t.HasPeer r.tunnel r.fTeid

/-- The requested tunnels are there besides those that were there before. -/
structure Grants (s t : SgwContext) (rs : List Requested) : Prop where
  live : ∀ x, t.tunnels.live x = true ↔ s.tunnels.live x = true ∨ ∃ r ∈ rs, r.tunnel = x
  mem : ∀ x, s.tunnels.live x = true → t.tunnels.mem x = s.tunnels.mem x
  granted : ∀ r ∈ rs, r.Granted t ∧ IsForwarding r.interfaceType
  find : ∀ ue ebi, t.sgwBearerFindByUeEbi ue ebi = s.sgwBearerFindByUeEbi ue ebi

theorem Grants.refl (s : SgwContext) : s.Grants s [] := by
  constructor
  · simp
  · exact fun _ _ => rfl
  · simp
  · exact fun _ _ => rfl

theorem Grants.trans {rs rs' : List Requested} (h : s.Grants t rs) (h' : t.Grants u rs') :
    s.Grants u (rs ++ rs') := by
  constructor
  · intro x
    rw [h'.live, h.live, or_assoc]
    simp only [List.mem_append, or_and_right, exists_or]
  · intro x hx
    rw [h'.mem x ((h.live x).mpr (Or.inl hx)), h.mem x hx]
  · intro r hr
    rcases List.mem_append.mp hr with hr | hr
    · obtain ⟨hgranted, htype⟩ := h.granted r hr
      have hmem := h'.mem _ hgranted.live
      refine ⟨⟨?_, ?_, ?_, ?_⟩, htype⟩
      · exact (h'.live _).mpr (Or.inl hgranted.live)
      · rw [hmem, hgranted.bearer]
      · rw [hmem, hgranted.interfaceType]
      · rw [HasPeer, hmem]
        exact hgranted.peer
    · exact h'.granted r hr
  · intro ue ebi
    rw [h'.find, h.find]

theorem find_congr (hues : t.ues = s.ues) (hsesss : t.sesss = s.sesss)
    (hebi : ∀ b, (t.bearers.mem b).ebi = (s.bearers.mem b).ebi) (ue : SgwUeId) (ebi : UInt8) :
    t.sgwBearerFindByUeEbi ue ebi = s.sgwBearerFindByUeEbi ue ebi := by
  rw [sgwBearerFindByUeEbi, sgwBearerFindByUeEbi, hues]
  congr 1
  funext σ
  rw [sgwBearerFindBySessEbi, sgwBearerFindBySessEbi, hsesss]
  congr 1
  funext b
  rw [hebi]

theorem requested_congr (hfind : ∀ ue ebi, t.sgwBearerFindByUeEbi ue ebi =
    s.sgwBearerFindByUeEbi ue ebi) (reqs : List IndirectBearer) :
    t.requested sgwUe reqs = s.requested sgwUe reqs := by
  induction reqs with
  | nil => rfl
  | cons req reqs ih => simp only [requested, hfind, ih]

theorem grants_addIndirectTunnel {type : UInt8} {req : Option (SgwTunnelId × SgwFTeid)}
    (htype : IsForwarding type) (h : s.sgwAddIndirectTunnel bearer type req = some t) :
    s.Grants t (req.map fun r => (⟨r.1, bearer, type, r.2⟩ : Requested)).toList := by
  cases req with
  | none =>
    cases h
    exact Grants.refl s
  | some req =>
    rw [sgwAddIndirectTunnel.eq_def] at h
    simp only [Option.bind_eq_bind, Option.bind_eq_some_iff, sgwTunnelAdd_eq_some,
      Option.some_inj] at h
    obtain ⟨_, ⟨_, hfree, rfl⟩, rfl⟩ := h
    constructor
    · intro x
      change (s.tunnelAdded req.1 bearer type).tunnels.live x = true ↔ _
      rw [live_tunnelAdded, or_comm]
      simp only [Option.map_some, Option.toList_some, List.mem_singleton, exists_eq_left]
      rw [@eq_comm _ x]
    · intro x hx
      have hne : x ≠ req.1 := by
        rintro rfl
        simp [hfree] at hx
      simp [setRemote, tunnelAdded, hne]
    · intro r hr
      simp only [Option.map_some, Option.toList_some, List.mem_singleton] at hr
      subst hr
      refine ⟨⟨?_, ?_, ?_, ?_, ?_⟩, htype⟩
      · simp [setRemote, tunnelAdded]
      · simp [setRemote, tunnelAdded, SgwTunnelRecord.add]
      · simp [setRemote, tunnelAdded, SgwTunnelRecord.add]
      · simp [setRemote, tunnelAdded]
      · simp [setRemote, tunnelAdded]
    · intro ue ebi
      have hebi : ∀ b, (((s.tunnelAdded req.1 bearer type).setRemote req.1 req.2).bearers.mem
          b).ebi = (s.bearers.mem b).ebi := by
        intro b
        by_cases hb : b = bearer
        · simp [setRemote, tunnelAdded, hb]
        · simp [setRemote, tunnelAdded, hb]
      exact @find_congr s ((s.tunnelAdded req.1 bearer type).setRemote req.1 req.2) rfl rfl hebi
        ue ebi

theorem grants_createIndirect (reqs : List IndirectBearer)
    (h : sgwS11HandleCreateIndirectDataForwardingTunnelRequest sgwUe s reqs = some t) :
    s.Grants t (s.requested sgwUe reqs) := by
  induction reqs generalizing s with
  | nil =>
    cases h
    exact Grants.refl t
  | cons req reqs ih =>
    rw [sgwS11HandleCreateIndirectDataForwardingTunnelRequest] at h
    split at h
    · rename_i hebi
      cases h
      rw [requested, hebi]
      exact Grants.refl t
    · rename_i ebi hebi
      simp only [Option.bind_eq_bind, Option.bind_eq_some_iff] at h
      obtain ⟨b, hb, u, hu, v, hv, h⟩ := h
      have hdl := grants_addIndirectTunnel (Or.inl rfl) hu
      have hul := grants_addIndirectTunnel (Or.inr rfl) hv
      have hboth := hdl.trans hul
      have hrest := ih h
      rw [requested_congr hboth.find] at hrest
      have hall := hboth.trans hrest
      rw [requested, hebi, Option.bind_some, hb]
      exact hall

/-! ## Runs -/

/-- A requested tunnel has the peer of the tunnels that are alike, of those that are there and of
those that are requested with it. -/
structure Requested.Fits (r : Requested) (s : SgwContext) (rs : List Requested) : Prop where
  present : ∀ x, s.Forwards x → (s.tunnels.mem x).bearer = r.bearer →
    (s.tunnels.mem x).interfaceType = r.interfaceType → s.HasPeer x r.fTeid
  requested : ∀ r' ∈ rs, r'.bearer = r.bearer → r'.interfaceType = r.interfaceType →
    r'.fTeid = r.fTeid

/-- Where tunnels of a bearer are alike, the event leaves them one peer: a request for an indirect
tunnel names the peer of those that are there, and a Create Bearer Response does not change the
peer of one of several. -/
def KeepsPeer (s : SgwContext) (a : Op × List SgwOutput) : Prop :=
  match a.1 with
  | .createIndirectTunnelRequest sgwUe reqs =>
    ∀ r ∈ s.requested sgwUe reqs, r.Fits s (s.requested sgwUe reqs)
  | .createBearerResponse _ (some teid) (some _) (some enb) true =>
    ∀ x, s.sgwTunnelFindByTeid teid = some x → s.Forwards x →
      ∀ y, s.Forwards y → s.Alike x y → y ≠ x → s.HasPeer y enb
  | _ => True

theorem Grants.onePeer_iff {rs : List Requested} (h : s.Grants t rs) (hs : s.OnePeer) :
    t.OnePeer ↔ ∀ r ∈ rs, r.Fits s rs := by
  have hkept : ∀ x, s.Forwards x → t.Forwards x := by
    intro x hx
    rw [Forwards, h.mem x hx.1]
    exact ⟨(h.live x).mpr (Or.inl hx.1), hx.2⟩
  have hgranted : ∀ r ∈ rs, t.Forwards r.tunnel := by
    intro r hr
    obtain ⟨hr, htype⟩ := h.granted r hr
    exact ⟨hr.live, by rwa [hr.interfaceType]⟩
  constructor
  · intro ht r hr
    have hr' := (h.granted r hr).1
    constructor
    · intro x hx hbearer htype
      have halike : t.Alike r.tunnel x := by
        rw [Alike, hr'.bearer, hr'.interfaceType, h.mem x hx.1]
        exact ⟨hbearer.symm, htype.symm⟩
      have hpeer := ht r.tunnel x (hgranted r hr) (hkept x hx) halike r.fTeid hr'.peer
      rwa [HasPeer, h.mem x hx.1] at hpeer
    · intro q hq hbearer htype
      have hq' := (h.granted q hq).1
      have halike : t.Alike r.tunnel q.tunnel := by
        rw [Alike, hr'.bearer, hr'.interfaceType, hq'.bearer, hq'.interfaceType]
        exact ⟨hbearer.symm, htype.symm⟩
      have hpeer := ht r.tunnel q.tunnel (hgranted r hr) (hgranted q hq) halike r.fTeid hr'.peer
      exact hq'.peer.unique hpeer
  · intro hfits x y hx hy halike peer hpeer
    rcases (h.live x).mp hx.1 with hxold | ⟨r, hr, rfl⟩
    · have hxold : s.Forwards x := ⟨hxold, by simpa [h.mem x hxold] using hx.2⟩
      have hxmem := h.mem x hxold.1
      rw [HasPeer, hxmem] at hpeer
      rcases (h.live y).mp hy.1 with hyold | ⟨q, hq, rfl⟩
      · have hyold : s.Forwards y := ⟨hyold, by simpa [h.mem y hyold] using hy.2⟩
        have hymem := h.mem y hyold.1
        rw [Alike, hxmem, hymem] at halike
        rw [HasPeer, hymem]
        exact hs x y hxold hyold halike peer hpeer
      · have hq' := (h.granted q hq).1
        rw [Alike, hxmem, hq'.bearer, hq'.interfaceType] at halike
        have hxpeer := (hfits q hq).present x hxold halike.1 halike.2
        rw [HasPeer.unique hpeer hxpeer]
        exact hq'.peer
    · have hr' := (h.granted r hr).1
      rw [hpeer.unique hr'.peer]
      rcases (h.live y).mp hy.1 with hyold | ⟨q, hq, rfl⟩
      · have hyold : s.Forwards y := ⟨hyold, by simpa [h.mem y hyold] using hy.2⟩
        have hymem := h.mem y hyold.1
        rw [Alike, hymem, hr'.bearer, hr'.interfaceType] at halike
        rw [HasPeer, hymem]
        exact (hfits r hr).present y hyold halike.1.symm halike.2.symm
      · have hq' := (h.granted q hq).1
        rw [Alike, hr'.bearer, hr'.interfaceType, hq'.bearer, hq'.interfaceType] at halike
        rw [← (hfits r hr).requested q hq halike.1.symm halike.2.symm]
        exact hq'.peer

theorem Grants.forwardsToPeer {rs : List Requested} (h : s.Grants t rs) (hs : s.ForwardsToPeer) :
    t.ForwardsToPeer := by
  intro x hx
  rcases (h.live x).mp hx.1 with hold | ⟨r, hr, rfl⟩
  · have hmem := h.mem x hold
    obtain ⟨peer, hpeer⟩ := hs x ⟨hold, by simpa [hmem] using hx.2⟩
    exact ⟨peer, by rwa [HasPeer, hmem]⟩
  · exact ⟨r.fTeid, (h.granted r hr).1.peer⟩

/-- The peer of one tunnel is changed. -/
theorem onePeer_setRemote_iff {x : SgwTunnelId} {enb : SgwFTeid}
    (ht : t.tunnels = (s.setRemote x enb).tunnels) (hpeers : s.ForwardsToPeer) :
    (s.OnePeer →
      (t.OnePeer ↔ (s.Forwards x → ∀ y, s.Forwards y → s.Alike x y → y ≠ x → s.HasPeer y enb))) ∧
      t.ForwardsToPeer := by
  have hmem : ∀ y, y ≠ x → t.tunnels.mem y = s.tunnels.mem y := by
    intro y hy
    rw [ht]
    simp [setRemote, hy]
  have hself : t.HasPeer x enb := by
    rw [HasPeer, ht]
    simp [setRemote]
  have htype : ∀ y, (t.tunnels.mem y).interfaceType = (s.tunnels.mem y).interfaceType ∧
      (t.tunnels.mem y).bearer = (s.tunnels.mem y).bearer := by
    intro y
    rw [ht]
    by_cases hy : y = x
    · simp [setRemote, hy]
    · simp [setRemote, hy]
  have hforwards : ∀ y, t.Forwards y ↔ s.Forwards y := by
    intro y
    rw [Forwards, Forwards, (htype y).1, ht]
    rfl
  have halike : ∀ y z, t.Alike y z ↔ s.Alike y z := by
    intro y z
    rw [Alike, Alike, (htype y).1, (htype y).2, (htype z).1, (htype z).2]
  refine ⟨fun hs => ⟨?_, ?_⟩, ?_⟩
  · intro hone hx y hy hxy hne
    have hpeer := hone x y ((hforwards x).mpr hx) ((hforwards y).mpr hy) ((halike x y).mpr hxy)
      enb hself
    rwa [HasPeer, hmem y hne] at hpeer
  · intro hcond y z hy hz hyz peer hpeer
    rw [hforwards] at hy hz
    rw [halike] at hyz
    by_cases hyx : y = x
    · subst hyx
      rw [hpeer.unique hself]
      by_cases hzy : z = y
      · rw [hzy]
        exact hself
      · rw [HasPeer, hmem z hzy]
        exact hcond hy z hz hyz hzy
    · rw [HasPeer, hmem y hyx] at hpeer
      by_cases hzx : z = x
      · subst hzx
        have hpeer' := hcond hz y hy ⟨hyz.1.symm, hyz.2.symm⟩ hyx
        rw [HasPeer.unique hpeer hpeer']
        exact hself
      · rw [HasPeer, hmem z hzx]
        exact hs y z hy hz hyz peer hpeer
  · intro y hy
    by_cases hyx : y = x
    · rw [hyx]
      exact ⟨enb, hself⟩
    · obtain ⟨peer, hpeer⟩ := hpeers y ((hforwards y).mp hy)
      exact ⟨peer, by rwa [HasPeer, hmem y hyx]⟩

theorem KeepsForwarding.iff (h : s.KeepsForwarding t) (hpeers : s.ForwardsToPeer) {p : Prop}
    (hp : p) : (s.OnePeer → (t.OnePeer ↔ p)) ∧ t.ForwardsToPeer :=
  ⟨fun hs => iff_of_true (h.onePeer hs) hp, h.forwardsToPeer hpeers⟩

theorem keepsPeer_createBearerResponse {sgwS1uTeid : Option UInt32} {ebi : Option UInt8}
    {enbS1uTeid : Option SgwFTeid} {uli : Bool} (hpeers : s.ForwardsToPeer)
    (h : s.sgwS11HandleCreateBearerResponse sgwUe sgwS1uTeid ebi enbS1uTeid uli = some t) :
    (s.OnePeer →
      (t.OnePeer ↔ s.KeepsPeer (.createBearerResponse sgwUe sgwS1uTeid ebi enbS1uTeid uli, out))) ∧
      t.ForwardsToPeer := by
  rw [sgwS11HandleCreateBearerResponse.eq_def] at h
  split at h
  · rename_i teid ebi enb
    split at h
    · rename_i huli
      subst huli
      simp only [Option.bind_eq_bind, Option.bind_eq_some_iff] at h
      obtain ⟨x, hx, _, _, _, _, h⟩ := h
      have htunnels : t.tunnels = (s.setRemote x enb).tunnels := by
        rw [← Option.some_inj.mp h]
        rfl
      have hwrite := onePeer_setRemote_iff htunnels hpeers
      refine ⟨fun hs => ?_, hwrite.2⟩
      rw [hwrite.1 hs]
      constructor
      · rintro hcond y hy
        rw [hx] at hy
        cases hy
        exact hcond
      · exact fun hcond => hcond x hx
    · rename_i huli
      cases h
      apply (KeepsForwarding.refl s).iff hpeers
      rw [Bool.not_eq_true] at huli
      subst huli
      trivial
  · rename_i hmissing
    cases h
    apply (KeepsForwarding.refl s).iff hpeers
    rw [KeepsPeer]
    split
    · rename_i heq
      cases heq
    · rename_i heq
      cases heq
      exact absurd rfl (hmissing _ _ _ rfl rfl)
    · trivial

theorem onePeer_step_iff {a : Op × List SgwOutput} (h : s.WellFormed)
    (hpeers : s.ForwardsToPeer) (hstep : Step s a t) :
    (s.OnePeer → (t.OnePeer ↔ s.KeepsPeer a)) ∧ t.ForwardsToPeer := by
  obtain ⟨op, out⟩ := a
  have heq := hstep.apply
  cases op with
  | ueAdd ue imsi gnode =>
    have hadd := (silent_eq_some.mp heq).1
    rw [sgwUeAdd, Option.ite_none_right_eq_some, Option.some_inj] at hadd
    obtain ⟨_, rfl⟩ := hadd
    exact (keepsForwarding_of_tunnels rfl).iff hpeers trivial
  | ueRemove ue =>
    cases (silent_eq_some.mp heq).1
    have hshrinks := (ueRemove_spec h.toTree (hstep.sgwUe ue rfl)).2
    exact hshrinks.keepsForwarding.iff hpeers trivial
  | createSessionRequest =>
    exact (keepsForwarding_createSessionRequest heq).iff hpeers trivial
  | createSessionResponse =>
    have hkeeps := keepsForwarding_createSessionResponse (silent_eq_some.mp heq).1
    exact hkeeps.iff hpeers trivial
  | deleteSessionResponse σ cause =>
    cases (silent_eq_some.mp heq).1
    have hkeeps : s.KeepsForwarding (s.sgwS5cHandleDeleteSessionResponse σ cause) := by
      rw [sgwS5cHandleDeleteSessionResponse]
      split
      · exact (sessRemove_spec h.toTree (hstep.sess σ rfl)).2.1.keepsForwarding
      · exact KeepsForwarding.refl s
    exact hkeeps.iff hpeers trivial
  | createBearerRequest =>
    have hkeeps := keepsForwarding_createBearerRequest (silent_eq_some.mp heq).1
    exact hkeeps.iff hpeers trivial
  | createBearerResponse =>
    exact keepsPeer_createBearerResponse hpeers (silent_eq_some.mp heq).1
  | deleteBearerResponse ue ebi =>
    have heq := (silent_eq_some.mp heq).1
    rw [sgwS11HandleDeleteBearerResponse.eq_def] at heq
    split at heq
    · cases heq
      exact (KeepsForwarding.refl s).iff hpeers trivial
    · rw [Option.bind_eq_bind, Option.bind_eq_some_iff] at heq
      obtain ⟨b, hb, heq⟩ := heq
      cases heq
      have hlive := (h.bearer_of_ueEbi (hstep.sgwUe ue rfl) hb).1
      have hshrinks := shrinks_bearerRemove h.toSubTree hlive
      exact hshrinks.keepsForwarding.iff hpeers trivial
  | modifyBearerRequest =>
    have hkeeps := (sgwS11HandleModifyBearerRequest_cases heq).keepsForwarding
    exact hkeeps.iff hpeers trivial
  | releaseAccessBearersRequest =>
    exact (keepsForwarding_release (silent_eq_some.mp heq).1).iff hpeers trivial
  | createIndirectTunnelRequest ue reqs =>
    have hgrants := grants_createIndirect reqs (silent_eq_some.mp heq).1
    exact ⟨hgrants.onePeer_iff, hgrants.forwardsToPeer hpeers⟩
  | deleteIndirectTunnelRequest ue =>
    cases (silent_eq_some.mp heq).1
    have hpruned := pruned_indirect h.toTree (hstep.sgwUe ue rfl)
    exact (hpruned.shrinks fun _ hx => hx.2).keepsForwarding.iff hpeers trivial
  | gtpuRecv =>
    have hgtpu := gtpv1URecvCb_cases heq
    have htunnels : t.tunnels = s.tunnels := by
      cases hgtpu with
      | other => rfl
      | downlink _ _ _ _ _ hdownlink => exact hdownlink.tunnels
    exact (keepsForwarding_of_tunnels htunnels).iff hpeers trivial

/-- In every run, packets for forwarding tunnels go to the peers of their tunnels in all states if
and only if every event keeps one peer for the tunnels that are alike. -/
theorem indirect_run_iff (tr : List ((Op × List SgwOutput) × SgwContext))
    (htrace : Lts.Trace Step initial tr) :
    (∀ p ∈ tr, ∀ x, p.2.Forwards x → p.2.OwnPeer x) ↔
      Lts.Trace (Lts.Restrict KeepsPeer Step) initial tr := by
  have hinitial : ∀ x, ¬initial.Forwards x := fun x hx => absurd hx.1 (by simp [initial])
  have hown : initial.OnePeer := fun x _ hx => absurd hx (hinitial x)
  have hpeers : initial.ForwardsToPeer := fun x hx => absurd hx (hinitial x)
  have hkeeps : ∀ s a t, s.WellFormed ∧ s.ForwardsToPeer → Step s a t →
      t.WellFormed ∧ t.ForwardsToPeer := by
    rintro s a t ⟨hs, hp⟩ hstep
    exact ⟨hs.step hstep, (onePeer_step_iff hs hp hstep).2⟩
  apply Lts.Trace.invariant_iff (I := fun s => ∀ x, s.Forwards x → s.OwnPeer x) hkeeps
  · rintro s a t ⟨hs, hp⟩ hlaw hstep
    rw [ownPeer_iff hs hp] at hlaw
    obtain ⟨hiff, hp'⟩ := onePeer_step_iff hs hp hstep
    rw [ownPeer_iff (hs.step hstep) hp']
    exact hiff hlaw
  · exact htrace
  · exact ⟨wellFormed_initial, hpeers⟩
  · exact (ownPeer_iff wellFormed_initial hpeers).mpr hown

/-- A second request for the bearer, with another peer. -/
def forwardingTwice : SgwContext :=
  forwarding.next (.createIndirectTunnelRequest 1 [⟨some 5, some (4, ⟨22, 12⟩), none⟩])

/-- The packet for the second tunnel goes to the peer of the first. -/
theorem indirect_forwardingTwice : ¬∀ s, Lts.Reaches Step initial s → ∀ x, s.Forwards x →
    s.OwnPeer x := by
  intro hclaim
  have hreach : Lts.Reaches Step initial forwardingTwice := by
    apply reaches_forwarding.snoc
    apply step_next (by decide)
    · rintro ue ⟨⟩
      decide
    · rintro σ ⟨⟩
  have hforwards : forwardingTwice.Forwards 4 := ⟨by decide, by decide⟩
  obtain ⟨gnode, hgnode, hsent⟩ := hclaim forwardingTwice hreach 4 hforwards 255 [] true (by decide)
  have hown : (forwardingTwice.tunnels.mem 4).gnode = some 12 := by decide
  have hother : (forwardingTwice.gtpv1URecvCb 255 4 [] true).map Prod.snd =
      some [.sendIndirect 11 21 ⟨0, 255, 4, []⟩] := by decide
  have hteid : (forwardingTwice.tunnels.mem 4).localTeid = 4 := by decide
  rw [hown, Option.some_inj] at hgnode
  rw [hteid, hother, ← hgnode, Option.some_inj, List.cons_eq_cons,
    SgwOutput.sendIndirect.injEq] at hsent
  exact absurd hsent.1.1 (by decide)

/-- The request for an indirect tunnel for the downlink. -/
def indirectRequest : Op := .createIndirectTunnelRequest 1 [⟨some 5, some (3, ⟨21, 11⟩), none⟩]

theorem step_forwarding : Step attached (indirectRequest, attached.sent indirectRequest)
    forwarding := by
  apply step_next (by decide)
  · rintro ue ⟨⟩
    decide
  · rintro σ ⟨⟩

/-- The UE has no other indirect tunnel. -/
theorem keepsPeer_attached :
    attached.KeepsPeer (indirectRequest, attached.sent indirectRequest) := by
  have hrequested : attached.requested 1 [⟨some 5, some (3, ⟨21, 11⟩), none⟩] =
      [⟨3, 1, sgwGtpUForDlDataForwarding, ⟨21, 11⟩⟩] := rfl
  change ∀ r ∈ attached.requested 1 [⟨some 5, some (3, ⟨21, 11⟩), none⟩], r.Fits attached _
  rw [hrequested]
  intro r hr
  cases List.mem_singleton.mp hr
  constructor
  · intro x hx
    have hsession : (initial.next ueRequest).sgwS11HandleCreateSessionRequest 1 1 1 2 1 (some 5)
        (some [1]) (some 9) (some 8) true =
          some (attached, (initial.next ueRequest).sent sessionRequest) := step_session.apply
    have hkeeps := keepsForwarding_createSessionRequest hsession
    have htunnels : (initial.next ueRequest).tunnels = initial.tunnels := rfl
    have hlive := (hkeeps x hx).1.1
    rw [htunnels] at hlive
    exact absurd hlive (by simp [initial])
  · intro r' hr' _ _
    rw [List.mem_singleton.mp hr']

/-- The first tunnel has its own peer. -/
theorem indirect_run_forwarding : forwarding.OwnPeer 3 := by
  have htrace := Lts.Trace.cons step_ue (Lts.Trace.cons step_session
    (Lts.Trace.cons step_forwarding (Lts.Trace.nil _)))
  have hue : initial.KeepsPeer (ueRequest, initial.sent ueRequest) := trivial
  have hsession : (initial.next ueRequest).KeepsPeer
      (sessionRequest, (initial.next ueRequest).sent sessionRequest) := trivial
  have hkeeps : Lts.Trace (Lts.Restrict KeepsPeer Step) initial _ :=
    Lts.Trace.cons ⟨hue, step_ue⟩ (Lts.Trace.cons ⟨hsession, step_session⟩
      (Lts.Trace.cons ⟨keepsPeer_attached, step_forwarding⟩ (Lts.Trace.nil _)))
  exact (indirect_run_iff _ htrace).mpr hkeeps ((indirectRequest, attached.sent indirectRequest),
    forwarding) (by simp) 3 ⟨by decide, by decide⟩

end SgwContext
end NextEpc

import NextEpc.Lib.Loop
import NextEpc.Sgw.TunnelAdd

/-!
# The tree in every run

What is found by searching the tree, and that every event keeps it. From this, a TEID of a packet
leads to the tunnel that has it, and to the bearer that lists the tunnel.
-/

namespace NextEpc
namespace SgwContext
variable {s t u : SgwContext} {sgwUe : SgwUeId} {sess : SgwSessId} {bearer : SgwBearerId}
  {tunnel : SgwTunnelId} {interfaceType ebi : UInt8}

/-! ## Searching -/

theorem SubTree.bearer_of_sessEbi (h : s.SubTree) (hsess : s.sesss.live sess = true)
    (hfind : s.sgwBearerFindBySessEbi sess ebi = some bearer) :
    s.bearers.live bearer = true ∧ (s.bearers.mem bearer).sess = sess ∧
      (s.bearers.mem bearer).ebi = ebi := by
  have hmem := (h.bearers.mem_iff sess hsess bearer).mp (List.mem_of_find?_eq_some hfind)
  have hebi := List.find?_some hfind
  exact ⟨hmem.1, hmem.2, of_decide_eq_true hebi⟩

theorem Tree.bearer_of_ueEbi (h : s.Tree) (hue : s.ues.live sgwUe = true)
    (hfind : s.sgwBearerFindByUeEbi sgwUe ebi = some bearer) :
    s.bearers.live bearer = true ∧ (s.bearers.mem bearer).sgwUe = sgwUe ∧
      (s.bearers.mem bearer).ebi = ebi := by
  obtain ⟨σ, hσ, hfind⟩ := List.exists_of_findSome?_eq_some hfind
  have hsess := (h.sesss.mem_iff sgwUe hue σ).mp hσ
  obtain ⟨hlive, hparent, hebi⟩ := h.bearer_of_sessEbi hsess.1 hfind
  refine ⟨hlive, ?_, hebi⟩
  rw [h.owner bearer hlive, hparent, hsess.2]

theorem SubTree.tunnel_of_type (h : s.SubTree) (hlive : s.bearers.live bearer = true)
    (hfind : s.sgwTunnelFindByInterfaceType bearer interfaceType = some tunnel) :
    s.tunnels.live tunnel = true ∧ (s.tunnels.mem tunnel).bearer = bearer ∧
      (s.tunnels.mem tunnel).interfaceType = interfaceType := by
  have hmem := (h.tunnels.mem_iff bearer hlive tunnel).mp (List.mem_of_find?_eq_some hfind)
  have htype := List.find?_some hfind
  exact ⟨hmem.1, hmem.2, of_decide_eq_true htype⟩

/-! ## Handlers that leave the tree alone -/

theorem sameShape_ues {f : SgwUeRecord → SgwUeRecord}
    (hf : ∀ m, (f m).sessList = m.sessList) : s.SameShape (s.setUe sgwUe f) := by
  refine ⟨rfl, ?_, rfl, fun _ => ⟨rfl, rfl⟩, rfl, fun _ => ⟨rfl, rfl, rfl⟩, rfl,
    fun _ => ⟨rfl, rfl, rfl⟩⟩
  intro ue
  exact Pool.apply_mem_modify hf

theorem sameShape_sesss {f : SgwSessRecord → SgwSessRecord}
    (hf : ∀ m, (f m).bearerList = m.bearerList) (hf' : ∀ m, (f m).sgwUe = m.sgwUe) :
    s.SameShape { s with sesss := s.sesss.modify sess f } := by
  refine ⟨rfl, fun _ => rfl, rfl, ?_, rfl, fun _ => ⟨rfl, rfl, rfl⟩, rfl,
    fun _ => ⟨rfl, rfl, rfl⟩⟩
  intro σ
  exact ⟨Pool.apply_mem_modify hf, Pool.apply_mem_modify hf'⟩

theorem sameShape_bearers {f : SgwBearerRecord → SgwBearerRecord}
    (hf : ∀ m, (f m).tunnelList = m.tunnelList) (hf' : ∀ m, (f m).sess = m.sess)
    (hf'' : ∀ m, (f m).sgwUe = m.sgwUe) :
    s.SameShape { s with bearers := s.bearers.modify bearer f } := by
  refine ⟨rfl, fun _ => rfl, rfl, fun _ => ⟨rfl, rfl⟩, rfl, ?_, rfl, fun _ => ⟨rfl, rfl, rfl⟩⟩
  intro b
  exact ⟨Pool.apply_mem_modify hf, Pool.apply_mem_modify hf', Pool.apply_mem_modify hf''⟩

theorem sameShape_tunnels {f : SgwTunnelRecord → SgwTunnelRecord}
    (hf : ∀ m, (f m).interfaceType = m.interfaceType) (hf' : ∀ m, (f m).localTeid = m.localTeid)
    (hf'' : ∀ m, (f m).bearer = m.bearer) :
    s.SameShape { s with tunnels := s.tunnels.modify tunnel f } := by
  refine ⟨rfl, fun _ => rfl, rfl, fun _ => ⟨rfl, rfl⟩, rfl, fun _ => ⟨rfl, rfl, rfl⟩, rfl, ?_⟩
  intro x
  exact ⟨Pool.apply_mem_modify hf, Pool.apply_mem_modify hf', Pool.apply_mem_modify hf''⟩

theorem sameShape_setRemote (s : SgwContext) (tunnel : SgwTunnelId) (fTeid : SgwFTeid) :
    s.SameShape (s.setRemote tunnel fTeid) :=
  sameShape_tunnels (fun _ => rfl) (fun _ => rfl) (fun _ => rfl)

theorem sameShape_setRemoteTeid (s : SgwContext) (tunnel : SgwTunnelId) (teid : UInt32) :
    s.SameShape (s.setRemoteTeid tunnel teid) :=
  sameShape_tunnels (fun _ => rfl) (fun _ => rfl) (fun _ => rfl)

theorem sameShape_setBufferedPkts (s : SgwContext) (bearer : SgwBearerId)
    (pkbufs : List SgwPkbuf) : s.SameShape (s.setBufferedPkts bearer pkbufs) :=
  sameShape_bearers (fun _ => rfl) (fun _ => rfl) (fun _ => rfl)

theorem sameShape_of_eq (hues : t.ues = s.ues) (hsesss : t.sesss = s.sesss)
    (hbearers : t.bearers = s.bearers) (htunnels : t.tunnels = s.tunnels) : s.SameShape t := by
  constructor
  · rw [hues]
  · exact fun _ => by rw [hues]
  · rw [hsesss]
  · exact fun _ => by rw [hsesss]; exact ⟨rfl, rfl⟩
  · rw [hbearers]
  · exact fun _ => by rw [hbearers]; exact ⟨rfl, rfl, rfl⟩
  · rw [htunnels]
  · exact fun _ => by rw [htunnels]; exact ⟨rfl, rfl, rfl⟩

theorem sameShape_pkbufFree (s : SgwContext) (pkbuf : SgwPkbuf) : s.SameShape (s.pkbufFree pkbuf) :=
  sameShape_of_eq rfl rfl rfl rfl

theorem sameShape_foldl_pkbufFree (l : List SgwPkbuf) (s : SgwContext) :
    s.SameShape (l.foldl pkbufFree s) := by
  rw [foldl_pkbufFree]
  exact sameShape_of_eq rfl rfl rfl rfl

theorem sameShape_flush (s : SgwContext) (bearer : SgwBearerId) (pkbuf : SgwPkbuf) :
    s.SameShape (s.flush bearer pkbuf) :=
  ((sameShape_foldl_pkbufFree _ s).trans (sameShape_setBufferedPkts _ bearer [])).trans
    (sameShape_pkbufFree _ pkbuf)

variable {out : List SgwOutput} {pkbuf : SgwPkbuf}

theorem Downlink.sameShape (h : Downlink s bearer pkbuf t out) : s.SameShape t := by
  cases h with
  | forward => exact sameShape_flush s bearer pkbuf
  | buffer _ ue =>
    have hue : s.SameShape (s.setDlNotiSent ue) := sameShape_ues fun _ => rfl
    exact hue.trans (sameShape_setBufferedPkts _ bearer _)
  | full _ ue =>
    have hue : s.SameShape (s.setDlNotiSent ue) := sameShape_ues fun _ => rfl
    exact hue.trans (sameShape_pkbufFree _ pkbuf)
  | active => exact sameShape_pkbufFree s pkbuf

theorem Gtpu.sameShape (h : Gtpu s pkbuf t out) : s.SameShape t := by
  cases h with
  | other => exact sameShape_pkbufFree s pkbuf
  | downlink _ _ _ _ _ hdownlink => exact hdownlink.sameShape

theorem Modify.sameShape {ebi : Option UInt8} {enbS1uTeid : Option SgwFTeid}
    {memory : Vector UInt8 92} (h : Modify s sgwUe ebi enbS1uTeid memory t out) :
    s.SameShape t := by
  cases h with
  | nothing => exact SameShape.refl s
  | move _ tunnel _ enb =>
    exact (sameShape_setRemote s tunnel enb).trans (sameShape_ues fun _ => rfl)

/-- A loop that keeps the tree where each round does. -/
theorem sameShape_foldlM {f : SgwContext → Nat → Option SgwContext} (l : List Nat)
    (hf : ∀ u i v, f u i = some v → u.SameShape v) (h : l.foldlM f s = some t) :
    s.SameShape t := by
  apply Loop.foldlM_rel SameShape.refl _ (fun u i _ v => hf u i v) h
  intro u v w huv hvw
  exact huv.trans hvw

theorem sameShape_releaseBearer (h : s.sgwReleaseBearer bearer = some t) : s.SameShape t := by
  rw [sgwReleaseBearer, Option.bind_eq_bind, Option.bind_eq_some_iff] at h
  obtain ⟨tunnel, _, h⟩ := h
  cases h
  exact sameShape_setRemoteTeid s tunnel 0

theorem sameShape_release (h : s.sgwS11HandleReleaseAccessBearersRequest sgwUe = some t) :
    s.SameShape t := by
  have hue : s.SameShape (s.setUe sgwUe fun m =>
      { m with s1uInactive := true, dlNotiSent := false }) := sameShape_ues fun _ => rfl
  apply hue.trans
  apply sameShape_foldlM _ _ h
  intro u σ v hsess
  exact sameShape_foldlM _ (fun _ _ _ => sameShape_releaseBearer) hsess

theorem sameShape_forwardCreateSessionRequest {mmeS11Teid : Option UInt32} {pgw : Option NodeId}
    {uli : Bool}
    (h : s.sgwS11ForwardCreateSessionRequest sgwUe sess mmeS11Teid pgw uli = some (t, out)) :
    s.SameShape t := by
  rw [sgwS11ForwardCreateSessionRequest.eq_def] at h
  split at h
  · rename_i mmeS11Teid pgw
    split at h
    · simp only [Option.bind_eq_bind, Option.bind_eq_some_iff] at h
      obtain ⟨_, _, _, _, h⟩ := h
      cases h
      have hue : s.SameShape (s.setUe sgwUe fun m => { m with mmeS11Teid := mmeS11Teid }) :=
        sameShape_ues fun _ => rfl
      exact hue.trans (sameShape_sesss (fun _ => rfl) fun _ => rfl)
    · cases h
      exact SameShape.refl s
  · cases h
    exact SameShape.refl s

theorem sameShape_createBearerResponse {sgwS1uTeid : Option UInt32} {ebi : Option UInt8}
    {enbS1uTeid : Option SgwFTeid} {uli : Bool}
    (h : s.sgwS11HandleCreateBearerResponse sgwUe sgwS1uTeid ebi enbS1uTeid uli = some t) :
    s.SameShape t := by
  rw [sgwS11HandleCreateBearerResponse.eq_def] at h
  split at h
  · rename_i _ ebi enb
    split at h
    · simp only [Option.bind_eq_bind, Option.bind_eq_some_iff] at h
      obtain ⟨tunnel, _, _, _, _, _, h⟩ := h
      cases h
      have hbearer : s.SameShape { s with
          bearers := s.bearers.modify (s.tunnels.mem tunnel).bearer fun m =>
            { m with ebi := ebi } } :=
        sameShape_bearers (fun _ => rfl) (fun _ => rfl) fun _ => rfl
      exact (hbearer.trans (sameShape_setRemote _ tunnel enb)).trans (sameShape_ues fun _ => rfl)
    · cases h
      exact SameShape.refl s
  · cases h
    exact SameShape.refl s

theorem sameShape_createSessionResponse {ebi : Option UInt8} {pgwS5cTeid : Option UInt32}
    {pgwS5uTeid : Option SgwFTeid} {cause : Bool}
    (h : s.sgwS5cHandleCreateSessionResponse sess ebi pgwS5cTeid pgwS5uTeid cause = some t) :
    s.SameShape t := by
  rw [sgwS5cHandleCreateSessionResponse.eq_def] at h
  split at h
  · rename_i _ pgwS5cTeid pgw
    split at h
    · simp only [Option.bind_eq_bind, Option.bind_eq_some_iff] at h
      obtain ⟨_, _, _, _, tunnel, _, h⟩ := h
      cases h
      have hsess : s.SameShape { s with
          sesss := s.sesss.modify sess fun m => { m with pgwS5cTeid := pgwS5cTeid } } :=
        sameShape_sesss (fun _ => rfl) fun _ => rfl
      exact hsess.trans (sameShape_setRemote _ tunnel pgw)
    · cases h
      exact SameShape.refl s
  · cases h
    exact SameShape.refl s

/-! ## Handlers that add and remove -/

theorem WellFormed.createSessionRequest (h : s.WellFormed) (hue : s.ues.live sgwUe = true)
    {s1uTunnel s5uTunnel : SgwTunnelId} {ebi : Option UInt8} {apn : Option Bytes}
    {mmeS11Teid : Option UInt32} {pgw : Option NodeId} {uli : Bool}
    (heq : s.sgwS11HandleCreateSessionRequest sess bearer s1uTunnel s5uTunnel sgwUe ebi apn
      mmeS11Teid pgw uli = some (t, out)) : t.WellFormed := by
  rw [sgwS11HandleCreateSessionRequest.eq_def] at heq
  split at heq
  · cases heq
    exact h
  · split at heq
    · exact (sameShape_forwardCreateSessionRequest heq).wellFormed h
    · split at heq
      · cases heq
        exact h
      · rw [Option.bind_eq_bind, Option.bind_eq_some_iff] at heq
        obtain ⟨u, hadd, heq⟩ := heq
        rw [sgwSessAdd_eq_some] at hadd
        obtain ⟨⟨_, hfree, _⟩, hslots, rfl⟩ := hadd
        exact (sameShape_forwardCreateSessionRequest heq).wellFormed
          (h.sessAdded hue hfree hslots)

theorem WellFormed.createBearerRequest (h : s.WellFormed) (hsess : s.sesss.live sess = true)
    {s1uTunnel s5uTunnel : SgwTunnelId} {complete : Bool} {pgwS5uTeid : Option SgwFTeid}
    (heq : s.sgwS5cHandleCreateBearerRequest bearer s1uTunnel s5uTunnel sess complete pgwS5uTeid =
      some t) : t.WellFormed := by
  rw [sgwS5cHandleCreateBearerRequest.eq_def] at heq
  split at heq
  · cases heq
    exact h
  · rename_i pgw
    split at heq
    · simp only [Option.bind_eq_bind, Option.bind_eq_some_iff, sgwBearerAdd_eq_some] at heq
      obtain ⟨u, ⟨hslots, rfl⟩, _, _, tunnel, _, heq⟩ := heq
      cases heq
      exact (sameShape_setRemote _ tunnel pgw).wellFormed (h.bearerAdded hsess hslots)
    · cases heq
      exact h

theorem WellFormed.bearerRemove (h : s.WellFormed) (hlive : s.bearers.live bearer = true) :
    (s.sgwBearerRemove bearer).WellFormed := by
  have hshrinks := shrinks_bearerRemove h.toSubTree hlive
  have heq := sgwBearerRemove_eq (h.bearer_of_mem hlive)
  apply hshrinks.wellFormed _ h
  refine ⟨h.toSubTree.bearerRemove hlive, ?_⟩
  apply h.sesss.congr
  · rw [heq]
    exact fun _ => Iff.rfl
  · rw [heq]
    exact fun _ => Iff.rfl
  · exact fun σ _ => hshrinks.sess σ
  · rw [heq]
    exact fun _ _ => rfl

/-- An indirect tunnel is added, if it is requested. -/
theorem WellFormed.addIndirectTunnel (h : s.WellFormed) (hlive : s.bearers.live bearer = true)
    {type : UInt8} (htype : IsForwarding type) {req : Option (SgwTunnelId × SgwFTeid)}
    (heq : s.sgwAddIndirectTunnel bearer type req = some t) :
    t.WellFormed ∧ t.ues = s.ues ∧ t.bearers.live = s.bearers.live := by
  cases req with
  | none =>
    cases heq
    exact ⟨h, rfl, rfl⟩
  | some req =>
    rw [sgwAddIndirectTunnel.eq_def] at heq
    simp only [Option.bind_eq_bind, Option.bind_eq_some_iff, sgwTunnelAdd_eq_some,
      Option.some_inj] at heq
    obtain ⟨_, ⟨hindex, hfree, rfl⟩, rfl⟩ := heq
    have hadded : (s.tunnelAdded req.1 bearer type).WellFormed := by
      refine ⟨⟨h.toSubTree.tunnelAdded hlive hfree, h.sesss⟩, h.indexTeid.tunnelAdded hindex, ?_⟩
      intro b hb
      obtain ⟨hs1u, hs5u⟩ := h.tunnelPair b hb
      have hne : s1uSgwGtpU ≠ type ∧ s5s8SgwGtpU ≠ type := by
        rcases htype with rfl | rfl
        · decide
        · decide
      exact ⟨hs1u.tunnelAdded hfree (Or.inr hne.1), hs5u.tunnelAdded hfree (Or.inr hne.2)⟩
    exact ⟨(sameShape_setRemote _ req.1 req.2).wellFormed hadded, rfl, rfl⟩

theorem WellFormed.createIndirect (reqs : List IndirectBearer) (h : s.WellFormed)
    (hue : s.ues.live sgwUe = true)
    (heq : sgwS11HandleCreateIndirectDataForwardingTunnelRequest sgwUe s reqs = some t) :
    t.WellFormed := by
  induction reqs generalizing s with
  | nil =>
    cases heq
    exact h
  | cons req reqs ih =>
    rw [sgwS11HandleCreateIndirectDataForwardingTunnelRequest] at heq
    split at heq
    · cases heq
      exact h
    · simp only [Option.bind_eq_bind, Option.bind_eq_some_iff] at heq
      obtain ⟨b, hb, u, hu, v, hv, heq⟩ := heq
      have hlive := (h.bearer_of_ueEbi hue hb).1
      obtain ⟨hdl, hues, hbearers⟩ := h.addIndirectTunnel hlive (Or.inl rfl) hu
      obtain ⟨hul, hues', -⟩ := hdl.addIndirectTunnel (by rwa [hbearers]) (Or.inr rfl) hv
      exact ih hul (by rwa [hues', hues]) heq

/-! ## Runs -/

theorem wellFormed_initial : initial.WellFormed := by
  refine ⟨⟨⟨?_, ?_, ?_⟩, ?_⟩, ?_, ?_⟩
  · exact Family.linked_of_none (by simp [initial]) (by simp [initial])
  · exact Family.linked_of_none (by simp [initial]) (by simp [initial])
  · simp [initial]
  · exact Family.linked_of_none (by simp [initial]) (by simp [initial])
  · intro x hx
    simp [initial] at hx
  · intro b hb
    simp [initial] at hb

theorem silent_eq_some {s? : Option SgwContext} :
    silent s? = some (t, out) ↔ s? = some t ∧ out = [] := by
  simp [silent, eq_comm]

theorem WellFormed.step {a : Op × List SgwOutput} (h : s.WellFormed) (hstep : Step s a t) :
    t.WellFormed := by
  obtain ⟨op, out⟩ := a
  have heq := hstep.apply
  cases op with
  | ueAdd => exact h.ueAdd (silent_eq_some.mp heq).1
  | ueRemove ue =>
    cases (silent_eq_some.mp heq).1
    obtain ⟨htree, hshrinks⟩ := ueRemove_spec h.toTree (hstep.sgwUe ue rfl)
    exact hshrinks.wellFormed htree h
  | createSessionRequest _ _ _ _ ue => exact h.createSessionRequest (hstep.sgwUe ue rfl) heq
  | createSessionResponse =>
    exact (sameShape_createSessionResponse (silent_eq_some.mp heq).1).wellFormed h
  | deleteSessionResponse σ cause =>
    cases (silent_eq_some.mp heq).1
    rw [sgwS5cHandleDeleteSessionResponse]
    split
    · obtain ⟨htree, hshrinks, -⟩ := sessRemove_spec h.toTree (hstep.sess σ rfl)
      exact hshrinks.wellFormed htree h
    · exact h
  | createBearerRequest _ _ _ σ =>
    exact h.createBearerRequest (hstep.sess σ rfl) (silent_eq_some.mp heq).1
  | createBearerResponse =>
    exact (sameShape_createBearerResponse (silent_eq_some.mp heq).1).wellFormed h
  | deleteBearerResponse ue ebi =>
    have heq := (silent_eq_some.mp heq).1
    rw [sgwS11HandleDeleteBearerResponse.eq_def] at heq
    split at heq
    · cases heq
      exact h
    · rw [Option.bind_eq_bind, Option.bind_eq_some_iff] at heq
      obtain ⟨b, hb, heq⟩ := heq
      cases heq
      exact h.bearerRemove (h.bearer_of_ueEbi (hstep.sgwUe ue rfl) hb).1
  | modifyBearerRequest =>
    exact (sgwS11HandleModifyBearerRequest_cases heq).sameShape.wellFormed h
  | releaseAccessBearersRequest =>
    exact (sameShape_release (silent_eq_some.mp heq).1).wellFormed h
  | createIndirectTunnelRequest ue reqs =>
    exact h.createIndirect reqs (hstep.sgwUe ue rfl) (silent_eq_some.mp heq).1
  | deleteIndirectTunnelRequest ue =>
    cases (silent_eq_some.mp heq).1
    have hpruned := pruned_indirect h.toTree (hstep.sgwUe ue rfl)
    exact (hpruned.shrinks fun _ hx => hx.2).wellFormed hpruned.tree h
  | gtpuRecv =>
    have halloc : s.SameShape s.pkbufAlloc := sameShape_of_eq rfl rfl rfl rfl
    exact (halloc.trans (gtpv1URecvCb_cases heq).sameShape).wellFormed h

theorem wellFormed_of_reaches (h : Lts.Reaches Step initial s) : s.WellFormed :=
  h.invariant (fun _ _ _ hs hstep => hs.step hstep) wellFormed_initial

/-! ## TEIDs -/

theorem teid_toNat {x : Nat} (h : IsPoolIndex x) : (UInt32.ofNat x).toNat = x := by
  have hlt : x < 2 ^ 31 := h.2
  rw [UInt32.toNat_ofNat']
  omega

theorem IndexTeid.find (h : s.IndexTeid) (teid : UInt32) :
    s.sgwTunnelFindByTeid teid = some tunnel ↔
      s.tunnels.live tunnel = true ∧ (s.tunnels.mem tunnel).localTeid = teid := by
  rw [sgwTunnelFindByTeid, Option.ite_none_right_eq_some, Option.some_inj]
  constructor
  · rintro ⟨hlive, rfl⟩
    refine ⟨hlive, ?_⟩
    rw [(h _ hlive).2, UInt32.ofNat_toNat]
  · rintro ⟨hlive, rfl⟩
    obtain ⟨hindex, hteid⟩ := h tunnel hlive
    rw [hteid, teid_toNat hindex]
    exact ⟨hlive, rfl⟩

theorem IndexTeid.ne_zero (h : s.IndexTeid) (hlive : s.tunnels.live tunnel = true) :
    (s.tunnels.mem tunnel).localTeid ≠ 0 := by
  obtain ⟨hindex, hteid⟩ := h tunnel hlive
  intro hzero
  have hnat := teid_toNat hindex
  rw [← hteid, hzero] at hnat
  exact hindex.1.ne hnat

/-- What the lists, the TEIDs and the searches say of the tunnels. -/
structure TunnelTree (s : SgwContext) : Prop where
  s1u : ∀ bearer, s.bearers.live bearer = true → s.HasOne bearer s1uSgwGtpU
  s5u : ∀ bearer, s.bearers.live bearer = true → s.HasOne bearer s5s8SgwGtpU
  listed : ∀ bearer, s.bearers.live bearer = true → ∀ tunnel,
    tunnel ∈ (s.bearers.mem bearer).tunnelList ↔
      s.tunnels.live tunnel = true ∧ (s.tunnels.mem tunnel).bearer = bearer
  nodup : ∀ bearer, s.bearers.live bearer = true → (s.bearers.mem bearer).tunnelList.Nodup
  teid : ∀ tunnel, s.tunnels.live tunnel = true → (s.tunnels.mem tunnel).localTeid ≠ 0
  distinct : ∀ tunnel other, s.tunnels.live tunnel = true → s.tunnels.live other = true →
    (s.tunnels.mem tunnel).localTeid = (s.tunnels.mem other).localTeid → tunnel = other
  findByTeid : ∀ teid tunnel, s.sgwTunnelFindByTeid teid = some tunnel ↔
    s.tunnels.live tunnel = true ∧ (s.tunnels.mem tunnel).localTeid = teid
  bearer : ∀ teid tunnel, s.sgwTunnelFindByTeid teid = some tunnel →
    s.bearers.live (s.tunnels.mem tunnel).bearer = true ∧
      tunnel ∈ (s.bearers.mem (s.tunnels.mem tunnel).bearer).tunnelList
  findByInterfaceType : ∀ bearer interfaceType tunnel, s.bearers.live bearer = true →
    s.sgwTunnelFindByInterfaceType bearer interfaceType = some tunnel →
      s.tunnels.live tunnel = true ∧ (s.tunnels.mem tunnel).bearer = bearer ∧
        (s.tunnels.mem tunnel).interfaceType = interfaceType

theorem WellFormed.tunnelTree (h : s.WellFormed) : s.TunnelTree := by
  constructor
  · intro b hb
    exact (h.tunnelPair b hb).1
  · intro b hb
    exact (h.tunnelPair b hb).2
  · exact h.tunnels.mem_iff
  · exact h.tunnels.nodup
  · intro x hx
    exact h.indexTeid.ne_zero hx
  · intro x y hx hy heq
    have hfindx := (h.indexTeid.find _).mpr ⟨hx, heq⟩
    have hfindy := (h.indexTeid.find _).mpr ⟨hy, rfl⟩
    rw [hfindx] at hfindy
    exact Option.some_inj.mp hfindy
  · intro teid x
    exact h.indexTeid.find teid
  · intro teid x hfind
    have hlive := ((h.indexTeid.find teid).mp hfind).1
    exact ⟨h.tunnels.live x hlive, h.tunnels.mem hlive⟩
  · intro b type x hb hfind
    exact h.tunnel_of_type hb hfind

/-- In every state of every run the tunnels are in order, and a Delete Indirect Data Forwarding
Tunnel Request removes the forwarding tunnels of its UE and no other tunnel. -/
theorem tunnelTree_of_reaches (h : Lts.Reaches Step initial s) : s.TunnelTree ∧
    ∀ sgwUe out t, Step s (.deleteIndirectTunnelRequest sgwUe, out) t →
      ∀ tunnel, t.tunnels.live tunnel = true ↔ s.tunnels.live tunnel = true ∧
        ¬((s.bearers.mem (s.tunnels.mem tunnel).bearer).sgwUe = sgwUe ∧
          IsForwarding (s.tunnels.mem tunnel).interfaceType) := by
  have hwell := wellFormed_of_reaches h
  refine ⟨hwell.tunnelTree, ?_⟩
  intro ue out t hstep x
  cases (silent_eq_some.mp hstep.apply).1
  exact (pruned_indirect hwell.toTree (hstep.sgwUe ue rfl)).tunnels x

/-- A UE attaches. -/
def ueRequest : Op := .ueAdd 1 [1] 7

/-- It gets a session, the default bearer of which has the identity 5. -/
def sessionRequest : Op :=
  .createSessionRequest 1 1 1 2 1 (some 5) (some [1]) (some 9) (some 8) true

def attached : SgwContext := (initial.next ueRequest).next sessionRequest

/-- It has an indirect tunnel for the downlink. -/
def forwarding : SgwContext :=
  attached.next (.createIndirectTunnelRequest 1 [⟨some 5, some (3, ⟨21, 11⟩), none⟩])

theorem step_ue : Step initial (ueRequest, initial.sent ueRequest) (initial.next ueRequest) := by
  apply step_next (by decide)
  · rintro ue ⟨⟩
  · rintro σ ⟨⟩

theorem step_session : Step (initial.next ueRequest)
    (sessionRequest, (initial.next ueRequest).sent sessionRequest) attached := by
  apply step_next (by decide)
  · rintro ue ⟨⟩
    decide
  · rintro σ ⟨⟩

theorem reaches_attached : Lts.Reaches Step initial attached :=
  (Lts.Reaches.snoc Relation.ReflTransGen.refl step_ue).snoc step_session

theorem reaches_forwarding : Lts.Reaches Step initial forwarding := by
  apply reaches_attached.snoc
  apply step_next (by decide)
  · rintro ue ⟨⟩
    decide
  · rintro σ ⟨⟩

/-- The indirect tunnel is found with its TEID before the request, and no longer after it. -/
theorem tunnelTree_forwarding : forwarding.sgwTunnelFindByTeid 3 = some 3 ∧
    (forwarding.next (.deleteIndirectTunnelRequest 1)).tunnels.live 3 ≠ true := by
  obtain ⟨htree, hdelete⟩ := tunnelTree_of_reaches reaches_forwarding
  refine ⟨(htree.findByTeid 3 3).mpr (by decide), ?_⟩
  have hstep : Step forwarding (.deleteIndirectTunnelRequest 1,
      forwarding.sent (.deleteIndirectTunnelRequest 1))
      (forwarding.next (.deleteIndirectTunnelRequest 1)) := by
    apply step_next (by decide)
    · rintro ue ⟨⟩
      decide
    · rintro σ ⟨⟩
  rw [ne_eq, hdelete 1 _ _ hstep 3]
  decide

end SgwContext
end NextEpc

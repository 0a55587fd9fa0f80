import NextEpc.Sgw.TunnelRun

/-!
# The downlink path

A packet from the PGW is sent to the eNB, or kept in the buffer of its bearer, or dropped. The
packets of one bearer leave in the order in which they came. What is kept is sent with the next
packet for the bearer, after the MME has named an eNB.
-/

namespace NextEpc
namespace SgwContext
variable {s t u : SgwContext} {sgwUe : SgwUeId} {sess : SgwSessId} {bearer b : SgwBearerId}
  {tunnel : SgwTunnelId} {out : List SgwOutput} {pkbuf p : SgwPkbuf}

/-! ## What happens to packets -/

/-- Packets for the bearer that are sent to the eNB or buffered. -/
def accepted (bearer : SgwBearerId) (out : List SgwOutput) : List SgwPkbuf :=
  out.filterMap fun
    | .accept b pkbuf => if b = bearer then some pkbuf else none
    | _ => none

/-- Packets for the bearer that are neither. -/
def dropped (bearer : SgwBearerId) (out : List SgwOutput) : List SgwPkbuf :=
  out.filterMap fun
    | .drop b pkbuf => if b = bearer then some pkbuf else none
    | _ => none

/-- Packets of the bearer that are sent to the eNB. -/
def forwarded (bearer : SgwBearerId) (out : List SgwOutput) : List SgwPkbuf :=
  out.filterMap fun
    | .sendToEnb b _ _ pkbuf => if b = bearer then some pkbuf else none
    | _ => none

/-- The times that the MME is told of packets for the UE. -/
def notified (sgwUe : SgwUeId) (out : List SgwOutput) : List SgwBearerId :=
  out.filterMap fun
    | .dlDataNoti ue bearer => if ue = sgwUe then some bearer else none
    | _ => none

/-- What is sent in a run. -/
def sentIn (tr : List ((Op × List SgwOutput) × SgwContext)) : List SgwOutput :=
  tr.flatMap fun p => p.1.2

@[simp] theorem accepted_append (out out' : List SgwOutput) :
    accepted b (out ++ out') = accepted b out ++ accepted b out' := List.filterMap_append

@[simp] theorem forwarded_append (out out' : List SgwOutput) :
    forwarded b (out ++ out') = forwarded b out ++ forwarded b out' := List.filterMap_append

@[simp] theorem notified_append (out out' : List SgwOutput) :
    notified sgwUe (out ++ out') = notified sgwUe out ++ notified sgwUe out' :=
  List.filterMap_append

theorem accepted_send (gnode : NodeId) (teid : UInt32) (l : List SgwPkbuf) :
    accepted b (l.map fun pkbuf => .sendToEnb bearer gnode teid pkbuf) = [] := by
  rw [accepted, List.filterMap_map, List.filterMap_eq_nil_iff]
  exact fun _ _ => rfl

theorem forwarded_send (gnode : NodeId) (teid : UInt32) (l : List SgwPkbuf) :
    forwarded b (l.map fun pkbuf => .sendToEnb bearer gnode teid pkbuf) =
      if bearer = b then l else [] := by
  rw [forwarded, List.filterMap_map]
  by_cases hb : bearer = b
  · simp [hb]
  · simp [hb]

theorem notified_send (gnode : NodeId) (teid : UInt32) (l : List SgwPkbuf) :
    notified sgwUe (l.map fun pkbuf => .sendToEnb bearer gnode teid pkbuf) = [] := by
  rw [notified, List.filterMap_map, List.filterMap_eq_nil_iff]
  exact fun _ _ => rfl

/-! ## The buffers -/

/-- The packets that a slot for bearers has, and the number that the next packet will have. -/
def buffers (s : SgwContext) : (SgwBearerId → List SgwPkbuf) × Nat :=
  (fun bearer => (s.bearers.mem bearer).bufferedPkts, s.received)

theorem buffers_modify {f : SgwBearerRecord → SgwBearerRecord}
    (hf : ∀ m, (f m).bufferedPkts = m.bufferedPkts) :
    { s with bearers := s.bearers.modify bearer f }.buffers = s.buffers := by
  apply Prod.ext
  · funext b
    exact Pool.apply_mem_modify hf
  · rfl

theorem buffers_tunnelRemove : (s.sgwTunnelRemove tunnel).buffers = s.buffers :=
  buffers_modify (f := fun m => { m with tunnelList := m.tunnelList.erase tunnel }) fun _ => rfl

/-- A loop of which no round touches the buffers. -/
theorem buffers_foldl {α : Type} {f : SgwContext → α → SgwContext}
    (hf : ∀ u i, (f u i).buffers = u.buffers) (l : List α) (s : SgwContext) :
    (l.foldl f s).buffers = s.buffers :=
  Loop.foldl_proj buffers fun u i _ => hf u i

theorem buffers_foldlM {α : Type} {f : SgwContext → α → Option SgwContext}
    (hf : ∀ u i v, f u i = some v → v.buffers = u.buffers) (l : List α)
    (h : l.foldlM f s = some t) : t.buffers = s.buffers :=
  Loop.foldlM_proj buffers (fun u i _ v => hf u i v) h

theorem buffers_tunnelAdded {interfaceType : UInt8} :
    (s.tunnelAdded tunnel bearer interfaceType).buffers = s.buffers :=
  buffers_modify (f := fun m => { m with tunnelList := m.tunnelList ++ [tunnel] }) fun _ => rfl

theorem buffers_bearerAdded {s1uTunnel s5uTunnel : SgwTunnelId} :
    (s.bearerAdded bearer s1uTunnel s5uTunnel sess).buffers = s.buffers := by
  apply Prod.ext
  · funext b
    by_cases hb : b = bearer
    · simp only [buffers, hb, mem_bearerAdded_self]
    · simp only [buffers, mem_bearerAdded hb]
  · rfl

theorem buffers_bearerRemove : (s.sgwBearerRemove bearer).buffers = s.buffers := by
  let unlinked : SgwContext :=
    { s with
      sesss := s.sesss.modify (s.bearers.mem bearer).sess fun m =>
        { m with bearerList := m.bearerList.erase bearer } }
  have htunnels : (unlinked.sgwTunnelRemoveAll bearer).buffers = s.buffers :=
    buffers_foldl (fun _ _ => buffers_tunnelRemove) _ unlinked
  rw [← htunnels]
  exact @buffers_foldl _ pkbufFree (fun _ _ => rfl)
    ((unlinked.sgwTunnelRemoveAll bearer).bearers.mem bearer).bufferedPkts
    (unlinked.sgwTunnelRemoveAll bearer)

theorem buffers_sessRemove : (s.sgwSessRemove sess).buffers = s.buffers :=
  buffers_foldl (fun _ _ => buffers_bearerRemove) _ (s.unlinkSess sess)

theorem buffers_forwardCreateSessionRequest {mmeS11Teid : Option UInt32} {pgw : Option NodeId}
    {uli : Bool}
    (h : s.sgwS11ForwardCreateSessionRequest sgwUe sess mmeS11Teid pgw uli = some (t, out)) :
    t.buffers = s.buffers := by
  rw [sgwS11ForwardCreateSessionRequest.eq_def] at h
  split at h
  · split at h
    · simp only [Option.bind_eq_bind, Option.bind_eq_some_iff] at h
      obtain ⟨_, _, _, _, h⟩ := h
      cases h
      rfl
    · cases h
      rfl
  · cases h
    rfl

theorem buffers_createSessionRequest {s1uTunnel s5uTunnel : SgwTunnelId} {ebi : Option UInt8}
    {apn : Option Bytes} {mmeS11Teid : Option UInt32} {pgw : Option NodeId} {uli : Bool}
    (h : s.sgwS11HandleCreateSessionRequest sess bearer s1uTunnel s5uTunnel sgwUe ebi apn
      mmeS11Teid pgw uli = some (t, out)) : t.buffers = s.buffers := by
  rw [sgwS11HandleCreateSessionRequest.eq_def] at h
  split at h
  · cases h
    rfl
  · rename_i ebi
    split at h
    · exact buffers_forwardCreateSessionRequest h
    · split at h
      · cases h
        rfl
      · rename_i apn
        rw [Option.bind_eq_bind, Option.bind_eq_some_iff] at h
        obtain ⟨u, hadd, h⟩ := h
        rw [sgwSessAdd_eq_some] at hadd
        obtain ⟨_, _, rfl⟩ := hadd
        rw [buffers_forwardCreateSessionRequest h]
        have hebi : (s.sessAdded sess bearer s1uTunnel s5uTunnel sgwUe apn ebi).buffers =
            ((s.sgwSessAlloc sess sgwUe apn).bearerAdded bearer s1uTunnel s5uTunnel sess).buffers :=
          buffers_modify (f := fun m => { m with ebi := ebi }) fun _ => rfl
        rw [hebi, buffers_bearerAdded]
        rfl

theorem buffers_createBearerResponse {sgwS1uTeid : Option UInt32} {ebi : Option UInt8}
    {enbS1uTeid : Option SgwFTeid} {uli : Bool}
    (h : s.sgwS11HandleCreateBearerResponse sgwUe sgwS1uTeid ebi enbS1uTeid uli = some t) :
    t.buffers = s.buffers := by
  rw [sgwS11HandleCreateBearerResponse.eq_def] at h
  split at h
  · rename_i _ ebi _
    split at h
    · simp only [Option.bind_eq_bind, Option.bind_eq_some_iff] at h
      obtain ⟨tunnel, _, _, _, _, _, h⟩ := h
      cases h
      exact buffers_modify (f := fun m => { m with ebi := ebi }) fun _ => rfl
    · cases h
      rfl
  · cases h
    rfl

theorem buffers_createSessionResponse {ebi : Option UInt8} {pgwS5cTeid : Option UInt32}
    {pgwS5uTeid : Option SgwFTeid} {cause : Bool}
    (h : s.sgwS5cHandleCreateSessionResponse sess ebi pgwS5cTeid pgwS5uTeid cause = some t) :
    t.buffers = s.buffers := by
  rw [sgwS5cHandleCreateSessionResponse.eq_def] at h
  split at h
  · split at h
    · simp only [Option.bind_eq_bind, Option.bind_eq_some_iff] at h
      obtain ⟨_, _, _, _, tunnel, _, h⟩ := h
      cases h
      rfl
    · cases h
      rfl
  · cases h
    rfl

theorem buffers_createBearerRequest {s1uTunnel s5uTunnel : SgwTunnelId} {complete : Bool}
    {pgwS5uTeid : Option SgwFTeid}
    (h : s.sgwS5cHandleCreateBearerRequest bearer s1uTunnel s5uTunnel sess complete pgwS5uTeid =
      some t) : t.buffers = s.buffers := by
  rw [sgwS5cHandleCreateBearerRequest.eq_def] at h
  split at h
  · cases h
    rfl
  · split at h
    · simp only [Option.bind_eq_bind, Option.bind_eq_some_iff, sgwBearerAdd_eq_some] at h
      obtain ⟨u, ⟨_, rfl⟩, _, _, tunnel, _, h⟩ := h
      cases h
      exact buffers_bearerAdded
    · cases h
      rfl

theorem buffers_addIndirectTunnel {type : UInt8} {req : Option (SgwTunnelId × SgwFTeid)}
    (h : s.sgwAddIndirectTunnel bearer type req = some t) : t.buffers = s.buffers := by
  cases req with
  | none =>
    cases h
    rfl
  | some req =>
    rw [sgwAddIndirectTunnel.eq_def] at h
    simp only [Option.bind_eq_bind, Option.bind_eq_some_iff, sgwTunnelAdd_eq_some,
      Option.some_inj] at h
    obtain ⟨_, ⟨_, _, rfl⟩, rfl⟩ := h
    exact @buffers_tunnelAdded s bearer req.1 type

theorem buffers_createIndirect (reqs : List IndirectBearer)
    (h : sgwS11HandleCreateIndirectDataForwardingTunnelRequest sgwUe s reqs = some t) :
    t.buffers = s.buffers := by
  induction reqs generalizing s with
  | nil =>
    cases h
    rfl
  | cons req reqs ih =>
    rw [sgwS11HandleCreateIndirectDataForwardingTunnelRequest] at h
    split at h
    · cases h
      rfl
    · simp only [Option.bind_eq_bind, Option.bind_eq_some_iff] at h
      obtain ⟨_, _, u, hu, v, hv, h⟩ := h
      rw [ih h, buffers_addIndirectTunnel hv, buffers_addIndirectTunnel hu]

theorem buffers_deleteIndirect :
    (s.sgwS11HandleDeleteIndirectDataForwardingTunnelRequest sgwUe).buffers = s.buffers := by
  apply buffers_foldl
  intro u σ
  apply buffers_foldl
  intro u b
  apply buffers_foldl
  intro u x
  rw [sgwDeleteIndirectTunnel]
  split
  · exact buffers_tunnelRemove
  · rfl

theorem buffers_releaseBearer (h : s.sgwReleaseBearer bearer = some t) : t.buffers = s.buffers := by
  rw [sgwReleaseBearer, Option.bind_eq_bind, Option.bind_eq_some_iff] at h
  obtain ⟨x, _, h⟩ := h
  cases h
  rfl

theorem buffers_release (h : s.sgwS11HandleReleaseAccessBearersRequest sgwUe = some t) :
    t.buffers = s.buffers := by
  apply buffers_foldlM _ _ h
  intro u σ v hsess
  exact buffers_foldlM (fun _ _ _ => buffers_releaseBearer) _ hsess

theorem ues_release (h : s.sgwS11HandleReleaseAccessBearersRequest sgwUe = some t) :
    t.ues = (s.setUe sgwUe fun m => { m with s1uInactive := true, dlNotiSent := false }).ues := by
  apply Loop.foldlM_proj ues _ h
  intro u σ _ v hsess
  apply Loop.foldlM_proj ues _ hsess
  intro u b _ v hbearer
  rw [sgwReleaseBearer, Option.bind_eq_bind, Option.bind_eq_some_iff] at hbearer
  obtain ⟨x, _, hbearer⟩ := hbearer
  cases hbearer
  rfl

theorem Modify.buffers {ebi : Option UInt8} {enbS1uTeid : Option SgwFTeid}
    {memory : Vector UInt8 92} (h : Modify s sgwUe ebi enbS1uTeid memory t out) :
    t.buffers = s.buffers := by
  cases h with
  | nothing => rfl
  | move => rfl

/-- A packet comes in. -/
def Op.IsGtpu : Op → Prop
  | .gtpuRecv .. => True
  | _ => False

/-- Only packets change the buffers. -/
theorem Step.buffers {a : Op × List SgwOutput} (h : Step s a t) (hop : ¬a.1.IsGtpu) :
    t.buffers = s.buffers := by
  obtain ⟨op, out⟩ := a
  have heq := h.apply
  cases op with
  | ueAdd ue imsi gnode =>
    have hadd := (silent_eq_some.mp heq).1
    rw [sgwUeAdd, Option.ite_none_right_eq_some, Option.some_inj] at hadd
    rw [← hadd.2]
    rfl
  | ueRemove ue =>
    cases (silent_eq_some.mp heq).1
    exact buffers_foldl (fun _ _ => buffers_sessRemove) (s.ues.mem ue).sessList s
  | createSessionRequest => exact buffers_createSessionRequest heq
  | createSessionResponse => exact buffers_createSessionResponse (silent_eq_some.mp heq).1
  | deleteSessionResponse σ cause =>
    cases (silent_eq_some.mp heq).1
    rw [sgwS5cHandleDeleteSessionResponse]
    split
    · exact buffers_sessRemove
    · rfl
  | createBearerRequest => exact buffers_createBearerRequest (silent_eq_some.mp heq).1
  | createBearerResponse => exact buffers_createBearerResponse (silent_eq_some.mp heq).1
  | deleteBearerResponse ue ebi =>
    have heq := (silent_eq_some.mp heq).1
    rw [sgwS11HandleDeleteBearerResponse.eq_def] at heq
    split at heq
    · cases heq
      rfl
    · rw [Option.bind_eq_bind, Option.bind_eq_some_iff] at heq
      obtain ⟨b, hb, heq⟩ := heq
      cases heq
      exact buffers_bearerRemove
  | modifyBearerRequest => exact (sgwS11HandleModifyBearerRequest_cases heq).buffers
  | releaseAccessBearersRequest => exact buffers_release (silent_eq_some.mp heq).1
  | createIndirectTunnelRequest ue reqs =>
    exact buffers_createIndirect reqs (silent_eq_some.mp heq).1
  | deleteIndirectTunnelRequest ue =>
    cases (silent_eq_some.mp heq).1
    exact buffers_deleteIndirect
  | gtpuRecv => exact absurd trivial hop

/-! ## A packet -/

theorem bufferedPkts_flush : ((s.flush bearer pkbuf).bearers.mem b).bufferedPkts =
    if b = bearer then [] else (s.bearers.mem b).bufferedPkts := by
  simp only [flush, pkbufFree, setBufferedPkts, Pool.mem_modify]
  split
  · rfl
  · rw [foldl_pkbufFree]

theorem received_flush : (s.flush bearer pkbuf).received = s.received := by
  simp only [flush, pkbufFree, setBufferedPkts]
  rw [foldl_pkbufFree]

theorem tunnels_flush : (s.flush bearer pkbuf).tunnels = s.tunnels := by
  simp only [flush, pkbufFree, setBufferedPkts]
  rw [foldl_pkbufFree]

theorem ues_flush : (s.flush bearer pkbuf).ues = s.ues := by
  simp only [flush, pkbufFree, setBufferedPkts]
  rw [foldl_pkbufFree]

theorem Downlink.received (h : Downlink s bearer pkbuf t out) : t.received = s.received := by
  cases h with
  | forward => exact received_flush
  | buffer => rfl
  | full => rfl
  | active => rfl

theorem Downlink.tunnels (h : Downlink s bearer pkbuf t out) : t.tunnels = s.tunnels := by
  cases h with
  | forward => exact tunnels_flush
  | buffer => rfl
  | full => rfl
  | active => rfl

/-- What was kept and what is taken leaves in this order, or is kept. -/
theorem Downlink.fifo (h : Downlink s bearer pkbuf t out) (b : SgwBearerId) :
    (s.bearers.mem b).bufferedPkts ++ accepted b out =
      forwarded b out ++ (t.bearers.mem b).bufferedPkts := by
  cases h with
  | forward tunnel gnode =>
    rw [bufferedPkts_flush]
    have haccept : accepted b (.accept bearer pkbuf :: ((s.bearers.mem bearer).bufferedPkts ++
        [pkbuf]).map fun pkbuf => .sendToEnb bearer gnode (s.tunnels.mem tunnel).remoteTeid
          pkbuf) = if bearer = b then [pkbuf] else [] := by
      change (([.accept bearer pkbuf] : List SgwOutput) ++ _ |> accepted b) = _
      rw [accepted_append, accepted_send]
      by_cases hb : bearer = b
      · simp [accepted, hb]
      · simp [accepted, hb]
    have hforward : forwarded b (.accept bearer pkbuf :: ((s.bearers.mem bearer).bufferedPkts ++
        [pkbuf]).map fun pkbuf => .sendToEnb bearer gnode (s.tunnels.mem tunnel).remoteTeid
          pkbuf) = if bearer = b then (s.bearers.mem bearer).bufferedPkts ++ [pkbuf] else [] := by
      rw [← forwarded_send gnode (s.tunnels.mem tunnel).remoteTeid]
      rfl
    rw [haccept, hforward]
    by_cases hb : bearer = b
    · simp [hb]
    · simp [hb, Ne.symm hb]
  | buffer tunnel ue noti _ _ _ _ hnoti =>
    have hnone : accepted b noti = [] ∧ forwarded b noti = [] := by
      rcases hnoti with rfl | ⟨_, rfl⟩
      · exact ⟨rfl, rfl⟩
      · exact ⟨rfl, rfl⟩
    rw [accepted_append, forwarded_append, hnone.1, hnone.2]
    by_cases hb : bearer = b
    · simp [accepted, forwarded, setBufferedPkts, hb]
    · simp [accepted, forwarded, setBufferedPkts, setDlNotiSent, setUe, hb, Ne.symm hb]
  | full tunnel ue noti _ _ _ _ hnoti =>
    rcases hnoti with rfl | ⟨_, rfl⟩
    · simp [accepted, forwarded, pkbufFree, setDlNotiSent, setUe]
    · simp [accepted, forwarded, pkbufFree, setDlNotiSent, setUe]
  | active => simp [accepted, forwarded, pkbufFree]

/-- A packet goes to the eNB and the TEID that the bearer has, and then nothing is left. -/
theorem Downlink.sent (h : Downlink s bearer pkbuf t out) {gnode : NodeId} {teid : UInt32}
    (hmem : .sendToEnb b gnode teid p ∈ out) : b = bearer ∧
      ∃ x, s.sgwS1uTunnelInBearer b = some x ∧ (s.tunnels.mem x).gnode = some gnode ∧
        (s.tunnels.mem x).remoteTeid = teid ∧ teid ≠ 0 := by
  cases h with
  | forward tunnel gnode' htunnel hteid hgnode =>
    simp only [List.mem_cons, List.mem_map, reduceCtorEq, SgwOutput.sendToEnb.injEq,
      false_or] at hmem
    obtain ⟨_, _, rfl, rfl, rfl, rfl⟩ := hmem
    exact ⟨rfl, tunnel, htunnel, hgnode, rfl, hteid⟩
  | buffer _ _ noti _ _ _ _ hnoti =>
    rcases hnoti with rfl | ⟨_, rfl⟩
    · simp at hmem
    · simp at hmem
  | full _ _ noti _ _ _ _ hnoti =>
    rcases hnoti with rfl | ⟨_, rfl⟩
    · simp at hmem
    · simp at hmem
  | active => simp at hmem

theorem Downlink.disposed (h : Downlink s bearer pkbuf t out) (b : SgwBearerId) :
    accepted b out ++ dropped b out = if b = bearer then [pkbuf] else [] := by
  by_cases hb : bearer = b
  · subst hb
    rw [if_pos rfl]
    cases h with
    | forward => simp [accepted, dropped, List.filterMap_map]
    | buffer _ _ noti _ _ _ _ hnoti =>
      rcases hnoti with rfl | ⟨_, rfl⟩
      · simp [accepted, dropped]
      · simp [accepted, dropped]
    | full _ _ noti _ _ _ _ hnoti =>
      rcases hnoti with rfl | ⟨_, rfl⟩
      · simp [accepted, dropped]
      · simp [accepted, dropped]
    | active => simp [accepted, dropped]
  · rw [if_neg (Ne.symm hb)]
    cases h with
    | forward => simp [accepted, dropped, List.filterMap_map, hb]
    | buffer _ _ noti _ _ _ _ hnoti =>
      rcases hnoti with rfl | ⟨_, rfl⟩
      · simp [accepted, dropped, hb]
      · simp [accepted, dropped, hb]
    | full _ _ noti _ _ _ _ hnoti =>
      rcases hnoti with rfl | ⟨_, rfl⟩
      · simp [accepted, dropped, hb]
      · simp [accepted, dropped, hb]
    | active => simp [accepted, dropped, hb]

/-- The tunnel of the bearer to the eNB has a TEID to send to. -/
def Active (s : SgwContext) (bearer : SgwBearerId) : Prop :=
  ∃ tunnel, s.sgwS1uTunnelInBearer bearer = some tunnel ∧ (s.tunnels.mem tunnel).remoteTeid ≠ 0

/-- A packet is dropped if the buffer is full, or if the UE is not known to be idle. -/
theorem Downlink.dropped (h : Downlink s bearer pkbuf t out) (hdrop : dropped b out ≠ []) :
    ¬s.Active b ∧ (maxNumOfPacketBuffer ≤ (s.bearers.mem b).bufferedPkts.length ∨
      (s.ues.mem (s.sesss.mem (s.bearers.mem b).sess).sgwUe).s1uInactive = false) := by
  have hinactive : ∀ x, s.sgwS1uTunnelInBearer bearer = some x →
      (s.tunnels.mem x).remoteTeid = 0 → ¬s.Active bearer := by
    rintro x hx hzero ⟨y, hy, hteid⟩
    rw [hx] at hy
    cases hy
    exact hteid hzero
  have hself : b = bearer := by
    by_contra hb
    have hnone := h.disposed b
    rw [if_neg hb, List.append_eq_nil_iff] at hnone
    exact hdrop hnone.2
  subst hself
  cases h with
  | forward =>
    simp [SgwContext.dropped, List.filterMap_map] at hdrop
  | buffer _ _ noti _ _ _ _ hnoti =>
    rcases hnoti with rfl | ⟨_, rfl⟩
    · simp [SgwContext.dropped] at hdrop
    · simp [SgwContext.dropped] at hdrop
  | full x ue _ hx hzero hue hidle hnoti hfull => exact ⟨hinactive x hx hzero, Or.inl hfull⟩
  | active x ue hx hzero hue hidle =>
    refine ⟨hinactive x hx hzero, Or.inr ?_⟩
    rw [hue]
    exact hidle

/-- With a packet that is taken for an active bearer, all that was kept is sent. -/
theorem Downlink.flushed (h : Downlink s bearer pkbuf t out) (hp : p ∈ accepted b out)
    (hactive : s.Active b) : (t.bearers.mem b).bufferedPkts = [] := by
  have hself : b = bearer := by
    by_contra hb
    have hnone := h.disposed b
    rw [if_neg hb, List.append_eq_nil_iff] at hnone
    rw [hnone.1] at hp
    exact List.not_mem_nil hp
  subst hself
  obtain ⟨x, hx, hteid⟩ := hactive
  cases h with
  | forward => simp [bufferedPkts_flush]
  | buffer y _ _ hy hzero =>
    rw [hx] at hy
    cases hy
    exact absurd hzero hteid
  | full y _ _ hy hzero =>
    rw [hx] at hy
    cases hy
    exact absurd hzero hteid
  | active y _ hy hzero =>
    rw [hx] at hy
    cases hy
    exact absurd hzero hteid

theorem Downlink.length (h : Downlink s bearer pkbuf t out) (b : SgwBearerId)
    (hlength : (s.bearers.mem b).bufferedPkts.length ≤ maxNumOfPacketBuffer) :
    (t.bearers.mem b).bufferedPkts.length ≤ maxNumOfPacketBuffer := by
  cases h with
  | forward =>
    rw [bufferedPkts_flush]
    split
    · exact Nat.zero_le _
    · exact hlength
  | buffer _ _ _ _ _ _ _ _ hroom =>
    simp only [setBufferedPkts, setDlNotiSent, setUe, Pool.mem_modify]
    split
    · rw [List.length_append]
      exact hroom
    · exact hlength
  | full => exact hlength
  | active => exact hlength

/-- Whether the MME was told of packets for the UE, as a number. -/
def notiSent (s : SgwContext) (sgwUe : SgwUeId) : Nat :=
  if (s.ues.mem sgwUe).dlNotiSent = true then 1 else 0

theorem notiSent_le_one : s.notiSent sgwUe ≤ 1 := by
  rw [notiSent]
  split <;> omega

theorem notiSent_setDlNotiSent {ue : SgwUeId} : (s.setDlNotiSent ue).notiSent sgwUe =
    if sgwUe = ue then 1 else s.notiSent sgwUe := by
  by_cases hue : sgwUe = ue
  · simp [notiSent, setDlNotiSent, setUe, hue]
  · simp [notiSent, setDlNotiSent, setUe, hue]

/-- The flag is set when the MME is told. -/
theorem notified_le {ue : SgwUeId} {noti : List SgwOutput} (hnoti : noti = [] ∨
    (s.ues.mem ue).dlNotiSent = false ∧ noti = [.dlDataNoti ue bearer]) :
    s.notiSent sgwUe + (notified sgwUe noti).length ≤ (s.setDlNotiSent ue).notiSent sgwUe := by
  rw [notiSent_setDlNotiSent]
  have hone := @notiSent_le_one s sgwUe
  rcases hnoti with rfl | ⟨hsent, rfl⟩
  · simp only [notified, List.filterMap_nil, List.length_nil]
    split <;> omega
  · by_cases hue : sgwUe = ue
    · subst hue
      simp [notified, notiSent, hsent]
    · simp [notified, hue, Ne.symm hue]

theorem Downlink.notified (h : Downlink s bearer pkbuf t out) :
    s.notiSent sgwUe + (notified sgwUe out).length ≤ t.notiSent sgwUe := by
  cases h with
  | forward tunnel gnode =>
    have hnone : SgwContext.notified sgwUe (.accept bearer pkbuf ::
        ((s.bearers.mem bearer).bufferedPkts ++ [pkbuf]).map fun pkbuf =>
          .sendToEnb bearer gnode (s.tunnels.mem tunnel).remoteTeid pkbuf) = [] :=
      notified_send gnode _ _
    rw [hnone, notiSent, notiSent, ues_flush]
    exact le_rfl
  | buffer _ ue noti _ _ _ _ hnoti =>
    rw [notified_append]
    have hnone : SgwContext.notified sgwUe [.accept bearer pkbuf] = [] := rfl
    rw [hnone, List.append_nil]
    exact @notified_le s sgwUe bearer ue noti hnoti
  | full _ ue noti _ _ _ _ hnoti =>
    rw [notified_append]
    have hnone : SgwContext.notified sgwUe [.drop bearer pkbuf] = [] := rfl
    rw [hnone, List.append_nil]
    exact @notified_le s sgwUe bearer ue noti hnoti
  | active => exact le_rfl

/-! ## An event -/

/-- The events of the downlink path. -/
def Op.IsDownlink : Op → Prop
  | .gtpuRecv .. => True
  | .modifyBearerRequest .. => True
  | .releaseAccessBearersRequest _ => True
  | _ => False

/-- A packet comes in for the S5/S8 tunnel of the bearer. -/
def Arrives (s : SgwContext) (op : Op) (bearer : SgwBearerId) (pkbuf : SgwPkbuf) : Prop :=
  ∃ payload pushed tunnel, op = .gtpuRecv pkbuf.type pkbuf.teid payload pushed ∧
    pkbuf = ⟨s.received, pkbuf.type, pkbuf.teid, payload⟩ ∧
    (pkbuf.type = gtpuMsgtypeGpdu ∨ pkbuf.type = gtpuMsgtypeEndMarker) ∧
    s.sgwTunnelFindByTeid pkbuf.teid = some tunnel ∧
    (s.tunnels.mem tunnel).interfaceType = s5s8SgwGtpU ∧
    (s.tunnels.mem tunnel).bearer = bearer

/-- Nothing happens to a packet, or one comes in for a bearer. -/
inductive DownlinkEvent (s : SgwContext) (op : Op) (out : List SgwOutput) (t : SgwContext) : Prop
  | other : (∀ b, ¬∃ pkbuf, s.Arrives op b pkbuf) → t.buffers.1 = s.buffers.1 →
      (∀ b, accepted b out = [] ∧ dropped b out = [] ∧ forwarded b out = []) →
      (∀ ue, notified ue out = []) → s.received ≤ t.received →
      (∀ ue, op ≠ .releaseAccessBearersRequest ue → s.notiSent ue ≤ t.notiSent ue) →
      DownlinkEvent s op out t
  | downlink (bearer : SgwBearerId) (pkbuf : SgwPkbuf) : s.Arrives op bearer pkbuf →
      Downlink s.pkbufAlloc bearer pkbuf t out → DownlinkEvent s op out t

theorem gtpu_event {type : UInt8} {teid : UInt32} {payload : Bytes} {pushed : Bool}
    (h : s.gtpv1URecvCb type teid payload pushed = some (t, out)) :
    DownlinkEvent s (.gtpuRecv type teid payload pushed) out t := by
  by_cases harrives : ∃ b pkbuf, s.Arrives (.gtpuRecv type teid payload pushed) b pkbuf
  · obtain ⟨b, pkbuf, harrives⟩ := harrives
    apply DownlinkEvent.downlink b pkbuf harrives
    obtain ⟨_, _, x, hop, hpkbuf, htype, hfind, hinterface, rfl⟩ := harrives
    cases hop
    rw [gtpv1URecvCb, ← hpkbuf, if_pos htype, sgwConvertTeid] at h
    have hfind : s.pkbufAlloc.sgwTunnelFindByTeid pkbuf.teid = some x := hfind
    have hinterface : (s.pkbufAlloc.tunnels.mem x).interfaceType = s5s8SgwGtpU := hinterface
    have hs1u : s5s8SgwGtpU ≠ s1uSgwGtpU := by decide
    have hforwarding : ¬IsForwarding s5s8SgwGtpU := by decide
    rw [hfind] at h
    dsimp only at h
    rw [hinterface, if_neg hs1u, if_neg hforwarding, if_pos rfl] at h
    exact sgwDownlink_cases h
  · have hcases : Gtpu s.pkbufAlloc ⟨s.received, type, teid, payload⟩ t out :=
      gtpv1URecvCb_cases h
    cases hcases with
    | other out hout =>
      apply DownlinkEvent.other
      · exact fun b hb => harrives ⟨b, hb⟩
      · rfl
      · intro b
        rcases hout with rfl | ⟨_, _, rfl⟩ | ⟨_, _, rfl⟩
        · exact ⟨rfl, rfl, rfl⟩
        · exact ⟨rfl, rfl, rfl⟩
        · exact ⟨rfl, rfl, rfl⟩
      · intro ue
        rcases hout with rfl | ⟨_, _, rfl⟩ | ⟨_, _, rfl⟩
        · rfl
        · rfl
        · rfl
      · exact Nat.le_succ _
      · exact fun _ _ => le_rfl
    | downlink x _ _ hfind hinterface =>
      by_cases htype : type = gtpuMsgtypeGpdu ∨ type = gtpuMsgtypeEndMarker
      · exact absurd ⟨_, ⟨s.received, type, teid, payload⟩, payload, pushed, x, rfl, rfl, htype,
          hfind, hinterface, rfl⟩ harrives
      · rw [gtpv1URecvCb, if_neg htype] at h
        cases h
        apply DownlinkEvent.other
        · exact fun b hb => harrives ⟨b, hb⟩
        · rfl
        · exact fun _ => ⟨rfl, rfl, rfl⟩
        · exact fun _ => rfl
        · exact Nat.le_succ _
        · exact fun _ _ => le_rfl

theorem Step.event {op : Op} (h : Step s (op, out) t) (hop : op.IsDownlink) :
    DownlinkEvent s op out t := by
  have heq := h.apply
  cases op with
  | gtpuRecv => exact gtpu_event heq
  | modifyBearerRequest ue ebi enb memory =>
    have hmodify := sgwS11HandleModifyBearerRequest_cases heq
    apply DownlinkEvent.other
    · rintro b ⟨pkbuf, _, _, _, hop, _⟩
      cases hop
    · rw [hmodify.buffers]
    · intro b
      cases hmodify with
      | nothing => exact ⟨rfl, rfl, rfl⟩
      | move _ _ _ _ _ _ _ _ _ hout =>
        rcases hout with ⟨rfl, _⟩ | ⟨_, _, _, rfl⟩
        · exact ⟨rfl, rfl, rfl⟩
        · exact ⟨rfl, rfl, rfl⟩
    · intro ue
      cases hmodify with
      | nothing => rfl
      | move _ _ _ _ _ _ _ _ _ hout =>
        rcases hout with ⟨rfl, _⟩ | ⟨_, _, _, rfl⟩
        · rfl
        · rfl
    · exact (congrArg Prod.snd hmodify.buffers).ge
    · intro ue' _
      cases hmodify with
      | nothing => exact le_rfl
      | move =>
        have hsent : ((s.ues.modify ue fun m => { m with s1uInactive := false }).mem
            ue').dlNotiSent = (s.ues.mem ue').dlNotiSent :=
          Pool.apply_mem_modify fun _ => rfl
        simp only [notiSent, moveBearer, setUe, setRemote, hsent]
        exact le_rfl
  | releaseAccessBearersRequest ue =>
    obtain ⟨hrelease, rfl⟩ := silent_eq_some.mp heq
    have hbuffers := buffers_release hrelease
    apply DownlinkEvent.other
    · rintro b ⟨pkbuf, _, _, _, hop, _⟩
      cases hop
    · rw [hbuffers]
    · exact fun _ => ⟨rfl, rfl, rfl⟩
    · exact fun _ => rfl
    · exact (congrArg Prod.snd hbuffers).ge
    · intro ue' hne
      have hother : ue' ≠ ue := fun heq => hne (by rw [heq])
      rw [notiSent, notiSent, ues_release hrelease]
      simp [setUe, hother]
  | _ => exact hop.elim

theorem DownlinkEvent.notified {op : Op} (h : DownlinkEvent s op out t)
    (hop : op ≠ .releaseAccessBearersRequest sgwUe) :
    s.notiSent sgwUe + (notified sgwUe out).length ≤ t.notiSent sgwUe := by
  cases h with
  | other _ _ _ hnone _ hsent =>
    rw [hnone sgwUe]
    exact hsent sgwUe hop
  | downlink _ _ _ hdownlink => exact hdownlink.notified

/-- A packet that comes in has the next number. -/
theorem Arrives.number {op : Op} (h : s.Arrives op b pkbuf) : pkbuf.number = s.received := by
  obtain ⟨_, _, _, _, hpkbuf, _⟩ := h
  rw [hpkbuf]

theorem DownlinkEvent.fifo {op : Op} (h : DownlinkEvent s op out t) (b : SgwBearerId) :
    (s.bearers.mem b).bufferedPkts ++ accepted b out =
      forwarded b out ++ (t.bearers.mem b).bufferedPkts := by
  cases h with
  | other _ hbuffers hout =>
    rw [(hout b).1, (hout b).2.2, List.append_nil, List.nil_append]
    exact (congrFun hbuffers b).symm
  | downlink _ _ _ hdownlink => exact hdownlink.fifo b

theorem DownlinkEvent.received {op : Op} (h : DownlinkEvent s op out t) :
    s.received ≤ t.received := by
  cases h with
  | other _ _ _ _ hreceived => exact hreceived
  | downlink _ _ _ hdownlink =>
    rw [hdownlink.received]
    exact Nat.le_succ _

/-- What is taken at an event is numbered between the events before and those after. -/
theorem DownlinkEvent.number {op : Op} (h : DownlinkEvent s op out t) :
    ((accepted b out).map SgwPkbuf.number).Pairwise (· < ·) ∧
      ∀ p ∈ accepted b out, s.received ≤ p.number ∧ p.number < t.received := by
  cases h with
  | other _ _ hout =>
    rw [(hout b).1]
    simp
  | downlink bearer pkbuf harrives hdownlink =>
    have hdisposed := hdownlink.disposed b
    have hsub : (accepted b out).Sublist [pkbuf] := by
      apply (List.sublist_append_left _ (dropped b out)).trans
      rw [hdisposed]
      split
      · exact List.Sublist.refl _
      · exact List.nil_sublist _
    refine ⟨(List.pairwise_singleton _ _).sublist (hsub.map _), ?_⟩
    intro p hp
    cases List.mem_singleton.mp (hsub.subset hp)
    rw [harrives.number, hdownlink.received]
    exact ⟨le_rfl, Nat.lt_succ_self _⟩

/-! ## Runs -/

/-- The packets of a buffer are in the order of their numbers, and there are not too many. -/
structure Buffered (s : SgwContext) : Prop where
  ordered : ∀ b, ((s.bearers.mem b).bufferedPkts.map SgwPkbuf.number).Pairwise (· < ·)
  lt : ∀ b, ∀ p ∈ (s.bearers.mem b).bufferedPkts, p.number < s.received
  length : ∀ b, (s.bearers.mem b).bufferedPkts.length ≤ maxNumOfPacketBuffer

theorem Buffered.congr (h : s.Buffered) (heq : t.buffers = s.buffers) : t.Buffered := by
  have hpkts : ∀ b, (t.bearers.mem b).bufferedPkts = (s.bearers.mem b).bufferedPkts :=
    fun b => congrFun (congrArg Prod.fst heq) b
  have hreceived : t.received = s.received := congrArg Prod.snd heq
  constructor
  · intro b
    rw [hpkts]
    exact h.ordered b
  · intro b p hp
    rw [hpkts] at hp
    rw [hreceived]
    exact h.lt b p hp
  · intro b
    rw [hpkts]
    exact h.length b

/-- What a buffer has and what is taken is in the order in which it came. -/
theorem Buffered.append (h : s.Buffered) {l : List SgwPkbuf}
    (hl : (l.map SgwPkbuf.number).Pairwise (· < ·)) (hle : ∀ p ∈ l, s.received ≤ p.number) :
    (((s.bearers.mem b).bufferedPkts ++ l).map SgwPkbuf.number).Pairwise (· < ·) := by
  rw [List.map_append, List.pairwise_append]
  refine ⟨h.ordered b, hl, ?_⟩
  intro n hn m hm
  obtain ⟨p, hp, rfl⟩ := List.mem_map.mp hn
  obtain ⟨q, hq, rfl⟩ := List.mem_map.mp hm
  exact (h.lt b p hp).trans_le (hle q hq)

theorem Buffered.event {op : Op} (h : s.Buffered) (hevent : DownlinkEvent s op out t) :
    t.Buffered := by
  have hsub : ∀ b, (t.bearers.mem b).bufferedPkts.Sublist
      ((s.bearers.mem b).bufferedPkts ++ accepted b out) := by
    intro b
    rw [hevent.fifo b]
    exact List.sublist_append_right _ _
  constructor
  · intro b
    have hnumber := hevent.number (b := b)
    exact (h.append hnumber.1 fun p hp => (hnumber.2 p hp).1).sublist ((hsub b).map _)
  · intro b p hp
    rcases List.mem_append.mp ((hsub b).subset hp) with hp | hp
    · exact (h.lt b p hp).trans_le hevent.received
    · exact (hevent.number.2 p hp).2
  · intro b
    cases hevent with
    | other _ hbuffers =>
      have hb : (t.bearers.mem b).bufferedPkts = (s.bearers.mem b).bufferedPkts :=
        congrFun hbuffers b
      rw [hb]
      exact h.length b
    | downlink _ _ _ hdownlink => exact hdownlink.length b (h.length b)

theorem Buffered.step {a : Op × List SgwOutput} (h : s.Buffered) (hstep : Step s a t) :
    t.Buffered := by
  by_cases hop : a.1.IsGtpu
  · have hdownlink : a.1.IsDownlink := by
      cases heq : a.1 with
      | gtpuRecv => trivial
      | _ =>
        rw [heq] at hop
        exact hop.elim
    exact h.event (hstep.event hdownlink)
  · exact h.congr (hstep.buffers hop)

theorem buffered_of_reaches (h : Lts.Reaches Step initial s) : s.Buffered := by
  apply h.invariant fun _ _ _ hs hstep => hs.step hstep
  constructor
  · exact fun _ => List.Pairwise.nil
  · exact fun _ _ hp => absurd hp List.not_mem_nil
  · exact fun _ => Nat.zero_le _

variable {tr : List ((Op × List SgwOutput) × SgwContext)}

theorem fifo_run (htrace : Lts.Trace Step s tr) (hops : ∀ a ∈ tr, a.1.1.IsDownlink)
    (b : SgwBearerId) : (s.bearers.mem b).bufferedPkts ++ accepted b (sentIn tr) =
      forwarded b (sentIn tr) ++ ((Lts.finalState s tr).bearers.mem b).bufferedPkts := by
  induction htrace with
  | nil => exact List.append_nil _
  | @cons s t a tr hstep _ ih =>
    have hevent := hstep.event (hops _ List.mem_cons_self)
    have hrest := ih fun c hc => hops c (List.mem_cons_of_mem _ hc)
    have hsent : sentIn ((a, t) :: tr) = a.2 ++ sentIn tr := List.flatMap_cons
    rw [hsent, accepted_append, forwarded_append, ← List.append_assoc, hevent.fifo b,
      List.append_assoc, hrest, List.append_assoc]
    rfl

theorem number_run (htrace : Lts.Trace Step s tr) (hops : ∀ a ∈ tr, a.1.1.IsDownlink) :
    ((accepted b (sentIn tr)).map SgwPkbuf.number).Pairwise (· < ·) ∧
      ∀ p ∈ accepted b (sentIn tr), s.received ≤ p.number := by
  induction htrace with
  | nil => exact ⟨List.Pairwise.nil, fun _ hp => absurd hp List.not_mem_nil⟩
  | @cons s t a tr hstep _ ih =>
    have hevent := hstep.event (hops _ List.mem_cons_self)
    obtain ⟨hfirst, hrange⟩ := hevent.number (b := b)
    obtain ⟨hrest, hle⟩ := ih fun c hc => hops c (List.mem_cons_of_mem _ hc)
    have hsent : sentIn ((a, t) :: tr) = a.2 ++ sentIn tr := List.flatMap_cons
    rw [hsent, accepted_append]
    constructor
    · rw [List.map_append, List.pairwise_append]
      refine ⟨hfirst, hrest, ?_⟩
      intro n hn m hm
      obtain ⟨p, hp, rfl⟩ := List.mem_map.mp hn
      obtain ⟨q, hq, rfl⟩ := List.mem_map.mp hm
      exact (hrange p hp).2.trans_le (hle q hq)
    · intro p hp
      rcases List.mem_append.mp hp with hp | hp
      · exact (hrange p hp).1
      · exact hevent.received.trans (hle p hp)

theorem notified_run (htrace : Lts.Trace Step s tr) (hops : ∀ a ∈ tr, a.1.1.IsDownlink)
    (hrelease : ∀ a ∈ tr, a.1.1 ≠ .releaseAccessBearersRequest sgwUe) :
    s.notiSent sgwUe + (notified sgwUe (sentIn tr)).length ≤ 1 := by
  induction htrace with
  | nil => exact notiSent_le_one
  | @cons s t a tr hstep _ ih =>
    have hevent := hstep.event (hops _ List.mem_cons_self)
    have hfirst := hevent.notified (hrelease _ List.mem_cons_self)
    have hrest := ih (fun c hc => hops c (List.mem_cons_of_mem _ hc)) fun c hc =>
      hrelease c (List.mem_cons_of_mem _ hc)
    have hsent : sentIn ((a, t) :: tr) = a.2 ++ sentIn tr := List.flatMap_cons
    rw [hsent, notified_append, List.length_append]
    omega

/-- What happens to packets at one event. -/
structure DownlinkStep (s : SgwContext) (op : Op) (out : List SgwOutput) (t : SgwContext) :
    Prop where
  /-- A packet that comes in for a bearer is taken or dropped, once. -/
  disposed : ∀ b pkbuf, s.Arrives op b pkbuf → accepted b out ++ dropped b out = [pkbuf]
  /-- A packet goes to the eNB and the TEID that the bearer has. -/
  current : ∀ b gnode teid p, .sendToEnb b gnode teid p ∈ out → teid ≠ 0 ∧
    ∃ x, s.sgwS1uTunnelInBearer b = some x ∧ (s.tunnels.mem x).gnode = some gnode ∧
      (s.tunnels.mem x).remoteTeid = teid
  /-- A packet is dropped if the buffer is full, or if the UE is not in the state
  `SGW_S1U_INACTIVE`. -/
  dropped : ∀ b, dropped b out ≠ [] → ¬s.Active b ∧
    (maxNumOfPacketBuffer ≤ (s.bearers.mem b).bufferedPkts.length ∨
      (s.ues.mem (s.sesss.mem (s.bearers.mem b).sess).sgwUe).s1uInactive = false)
  /-- With a packet that is taken for an active bearer, all that was kept is sent. -/
  flushed : ∀ b, accepted b out ≠ [] → s.Active b → (t.bearers.mem b).bufferedPkts = []

theorem DownlinkEvent.step {op : Op} (h : DownlinkEvent s op out t) : DownlinkStep s op out t := by
  constructor
  · intro b pkbuf harrives
    cases h with
    | other hnone => exact absurd ⟨pkbuf, harrives⟩ (hnone b)
    | downlink bearer pkbuf' harrives' hdownlink =>
      rw [hdownlink.disposed b]
      obtain ⟨_, _, x, hop, hpkbuf, _, hfind, _, hbearer⟩ := harrives
      obtain ⟨_, _, x', hop', hpkbuf', _, hfind', _, hbearer'⟩ := harrives'
      rw [hop, Op.gtpuRecv.injEq] at hop'
      have hsame : pkbuf = pkbuf' := by
        rw [hpkbuf, hpkbuf', hop'.1, hop'.2.1, hop'.2.2.1]
      subst hsame
      rw [hfind] at hfind'
      cases hfind'
      rw [if_pos (hbearer.symm.trans hbearer')]
  · intro b gnode teid p hmem
    cases h with
    | other _ _ hnone =>
      have hforwarded : p ∈ forwarded b out := List.mem_filterMap.mpr ⟨_, hmem, if_pos rfl⟩
      rw [(hnone b).2.2] at hforwarded
      exact absurd hforwarded List.not_mem_nil
    | downlink _ _ _ hdownlink =>
      obtain ⟨-, x, hx, hgnode, hteid, hzero⟩ := hdownlink.sent hmem
      exact ⟨hzero, x, hx, hgnode, hteid⟩
  · intro b hdrop
    cases h with
    | other _ _ hnone => exact absurd (hnone b).2.1 hdrop
    | downlink _ _ _ hdownlink => exact hdownlink.dropped hdrop
  · intro b haccept hactive
    cases h with
    | other _ _ hnone => exact absurd (hnone b).1 haccept
    | downlink _ _ _ hdownlink =>
      obtain ⟨p, hp⟩ := List.exists_mem_of_ne_nil _ haccept
      exact hdownlink.flushed hp hactive

/-- What happens to packets in a run. -/
structure DownlinkRun (s : SgwContext) (tr : List ((Op × List SgwOutput) × SgwContext)) :
    Prop where
  /-- What was kept and what is taken leaves in this order, or is kept at the end. -/
  fifo : ∀ b, (s.bearers.mem b).bufferedPkts ++ accepted b (sentIn tr) =
    forwarded b (sentIn tr) ++ ((Lts.finalState s tr).bearers.mem b).bufferedPkts
  /-- This is the order in which the packets came, and none is there twice. -/
  ordered : ∀ b, (((s.bearers.mem b).bufferedPkts ++ accepted b (sentIn tr)).map
    SgwPkbuf.number).Pairwise (· < ·)
  /-- The MME is told once of packets for a UE, until it releases the UE. -/
  notified : ∀ sgwUe, (∀ a ∈ tr, a.1.1 ≠ .releaseAccessBearersRequest sgwUe) →
    (notified sgwUe (sentIn tr)).length ≤ 1

/-- A UE with two bearers. -/
def twoBearers : SgwContext :=
  (attached.next (.createBearerRequest 2 3 4 1 true (some ⟨31, 8⟩))).next
    (.createBearerResponse 1 (some 3) (some 6) (some ⟨22, 11⟩) true)

/-- It was idle when a packet came for the first bearer, and then the MME names an eNB for this
bearer only. -/
def resumed : SgwContext :=
  ((twoBearers.next (.releaseAccessBearersRequest 1)).next (.gtpuRecv 255 2 [0] true)).next
    (.modifyBearerRequest 1 (some 5) (some ⟨21, 11⟩) (Vector.replicate 92 0))

theorem reaches_twoBearers : Lts.Reaches Step initial twoBearers := by
  have hrequest : Lts.Reaches Step initial
      (attached.next (.createBearerRequest 2 3 4 1 true (some ⟨31, 8⟩))) := by
    apply reaches_attached.snoc
    apply step_next (by decide)
    · rintro ue ⟨⟩
    · rintro σ ⟨⟩
      decide
  apply hrequest.snoc
  apply step_next (by decide)
  · rintro ue ⟨⟩
    decide
  · rintro σ ⟨⟩

theorem reaches_resumed : Lts.Reaches Step initial resumed := by
  have hidle : Lts.Reaches Step initial (twoBearers.next (.releaseAccessBearersRequest 1)) := by
    apply reaches_twoBearers.snoc
    apply step_next (by decide)
    · rintro ue ⟨⟩
      decide
    · rintro σ ⟨⟩
  have hkept : Lts.Reaches Step initial ((twoBearers.next (.releaseAccessBearersRequest 1)).next
      (.gtpuRecv 255 2 [0] true)) := by
    apply hidle.snoc
    apply step_next (by decide)
    · rintro ue ⟨⟩
    · rintro σ ⟨⟩
  apply hkept.snoc
  apply step_next (by decide)
  · rintro ue ⟨⟩
    decide
  · rintro σ ⟨⟩

theorem active_resumed : resumed.Active 1 := ⟨1, by decide, by decide⟩

end SgwContext
end NextEpc

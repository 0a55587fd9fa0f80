import NextEpc.Sgw.Downlink

/-!
# End markers

A Modify Bearer Request that moves a bearer to another eNB sends an End Marker to the old one. It
is made after the TEID of the new eNB was written to the tunnel, and its length field counts none
of the octets after its header, of which there are ninety-two.
-/

namespace NextEpc
namespace SgwContext
variable {s t u : SgwContext} {sgwUe : SgwUeId} {bearer : SgwBearerId} {ebi : UInt8}
  {a b : SgwFTeid} {out : List SgwOutput} {memory : Vector UInt8 92}

/-- The length field of a GTP-U packet. -/
def gtpuLength (packet : Bytes) : Nat := Octets.value ((packet.drop 2).take 2)

/-- The TEID field of a GTP-U packet. -/
def gtpuTeid (packet : Bytes) : Nat := Octets.value ((packet.drop 4).take 4)

/-- An End Marker for the TEID. Its length counts the octets after the mandatory header, which
has eight. -/
structure IsEndMarker (packet : Bytes) (teid : UInt32) : Prop where
  type : packet[1]? = some gtpuMsgtypeEndMarker
  teid : gtpuTeid packet = teid.toNat
  length : gtpuLength packet + 8 = packet.length

/-- The bearer with the identity has the eNB `a`, and is to have the eNB `b`, a different node. -/
structure Moves (s : SgwContext) (sgwUe : SgwUeId) (ebi : UInt8) (bearer : SgwBearerId)
    (a b : SgwFTeid) : Prop where
  find : s.sgwBearerFindByUeEbi sgwUe ebi = some bearer
  tunnel : ∃ x, s.sgwS1uTunnelInBearer bearer = some x ∧
    (s.tunnels.mem x).remoteTeid = a.teid ∧ (s.tunnels.mem x).gnode = some a.gnode
  other : a.gnode ≠ b.gnode

/-- One End Marker goes to the old eNB, and the packets that come after go to the new one. -/
structure HandsOver (bearer : SgwBearerId) (a b : SgwFTeid) (out : List SgwOutput)
    (t : SgwContext) : Prop where
  marker : ∃ packet, IsEndMarker packet a.teid ∧ out = [.endMarker a.gnode packet]
  downlink : ∀ tr, Lts.Trace Step t tr → (∀ c ∈ tr, c.1.1.IsGtpu) → ∀ c ∈ tr,
    ∀ gnode teid p, .sendToEnb bearer gnode teid p ∈ c.1.2 → gnode = b.gnode ∧ teid = b.teid

/-! ## After the request -/

theorem SameShape.find (h : s.SameShape t) (type : UInt8) :
    t.sgwTunnelFindByInterfaceType bearer type = s.sgwTunnelFindByInterfaceType bearer type := by
  rw [sgwTunnelFindByInterfaceType, sgwTunnelFindByInterfaceType, (h.bearer bearer).1]
  congr 1
  funext x
  rw [(h.tunnel x).1]

/-- The tunnel of the bearer to the eNB ends at `b`. -/
def Ends (s : SgwContext) (bearer : SgwBearerId) (b : SgwFTeid) : Prop :=
  ∃ x, s.sgwS1uTunnelInBearer bearer = some x ∧
    (s.tunnels.mem x).remoteTeid = b.teid ∧ (s.tunnels.mem x).gnode = some b.gnode

theorem Ends.gtpu (h : s.Ends bearer b) {pkbuf : SgwPkbuf} (hgtpu : Gtpu s pkbuf t out) :
    t.Ends bearer b := by
  obtain ⟨x, hx, hteid, hgnode⟩ := h
  have htunnels : t.tunnels = s.tunnels := by
    cases hgtpu with
    | other => rfl
    | downlink _ _ _ _ _ hdownlink => exact hdownlink.tunnels
  refine ⟨x, ?_, ?_, ?_⟩
  · rw [← hx]
    exact hgtpu.sameShape.find s1uSgwGtpU
  · rw [htunnels, hteid]
  · rw [htunnels, hgnode]

theorem Ends.step (h : s.Ends bearer b) {c : Op × List SgwOutput} (hop : c.1.IsGtpu)
    (hstep : Step s c t) : t.Ends bearer b := by
  obtain ⟨op, out⟩ := c
  have heq := hstep.apply
  cases op with
  | gtpuRecv =>
    have halloc : s.pkbufAlloc.Ends bearer b := h
    exact halloc.gtpu (gtpv1URecvCb_cases heq)
  | _ => exact hop.elim

/-- Packets of the bearer go to this end. -/
theorem Ends.sent (h : s.Ends bearer b) {op : Op} (hop : op.IsGtpu)
    (hstep : Step s (op, out) t) {gnode : NodeId} {teid : UInt32} {p : SgwPkbuf}
    (hmem : .sendToEnb bearer gnode teid p ∈ out) : gnode = b.gnode ∧ teid = b.teid := by
  obtain ⟨x, hx, hteid, hgnode⟩ := h
  have hdownlink : op.IsDownlink := by
    cases op with
    | gtpuRecv => trivial
    | _ => exact hop.elim
  obtain ⟨-, y, hy, hgnode', hteid'⟩ := (hstep.event hdownlink).step.current _ _ _ _ hmem
  rw [hx] at hy
  cases hy
  rw [hgnode] at hgnode'
  cases hgnode'
  exact ⟨rfl, hteid'.symm.trans hteid⟩

theorem Ends.run (h : t.Ends bearer b) {tr : List ((Op × List SgwOutput) × SgwContext)}
    (htrace : Lts.Trace Step t tr) (hops : ∀ c ∈ tr, c.1.1.IsGtpu) : ∀ c ∈ tr,
      ∀ gnode teid p, .sendToEnb bearer gnode teid p ∈ c.1.2 → gnode = b.gnode ∧ teid = b.teid := by
  have hrun := htrace.invariant_of (I := fun u => u.Ends bearer b) (Q := fun c => c.1.1.IsGtpu)
    (fun u c v hu hstep hop => hu.step hop hstep) hops h
  intro c hc gnode teid p hmem
  obtain ⟨u, hu, hstep, -⟩ := hrun c hc
  exact hu.sent (hops c hc) hstep hmem

theorem ends_moveBearer {x : SgwTunnelId} (hx : s.sgwS1uTunnelInBearer bearer = some x) :
    (s.moveBearer sgwUe x b).Ends bearer b := by
  have hshape : s.SameShape (s.moveBearer sgwUe x b) :=
    (sameShape_setRemote s x b).trans (sameShape_ues fun _ => rfl)
  refine ⟨x, ?_, ?_, ?_⟩
  · rw [← hx]
    exact hshape.find s1uSgwGtpU
  · simp [moveBearer, setRemote, setUe]
  · simp [moveBearer, setRemote, setUe]

/-! ## The End Marker -/

/-- What is sent as an End Marker for the TEID. -/
def endMarkerPacket (teid : UInt32) (memory : Vector UInt8 92) : Bytes :=
  [0x30, gtpuMsgtypeEndMarker] ++ Octets.htons 0 ++ (Octets.htonl teid).toList ++ memory.toList

theorem gtpuLength_endMarkerPacket (teid : UInt32) :
    gtpuLength (endMarkerPacket teid memory) = 0 := by
  have hfield : ((endMarkerPacket teid memory).drop 2).take 2 = Octets.htons 0 := rfl
  rw [gtpuLength, hfield]
  decide

theorem length_endMarkerPacket (teid : UInt32) : (endMarkerPacket teid memory).length = 100 := by
  simp [endMarkerPacket, Octets.htons]

theorem value_htonl (n : UInt32) : Octets.value (Octets.htonl n).toList = n.toNat := by
  have hn := n.toNat_lt
  rw [Octets.toList_htonl]
  simp only [Octets.value, List.foldl_cons, List.foldl_nil, UInt8.toNat_ofNat']
  omega

theorem gtpuTeid_endMarkerPacket (teid : UInt32) :
    gtpuTeid (endMarkerPacket teid memory) = teid.toNat := by
  have hfield : ((endMarkerPacket teid memory).drop 4).take 4 = (Octets.htonl teid).toList := by
    simp [endMarkerPacket, Octets.htons, Octets.toList_htonl]
  rw [gtpuTeid, hfield, value_htonl]

/-- The length is wrong, whatever the TEID. -/
theorem not_isEndMarker (teid teid' : UInt32) :
    ¬IsEndMarker (endMarkerPacket teid memory) teid' := by
  intro h
  have hlength := h.length
  rw [gtpuLength_endMarkerPacket, length_endMarkerPacket] at hlength
  omega

theorem Moves.modify (h : s.Moves sgwUe ebi bearer a b)
    (hmodify : Modify s sgwUe (some ebi) (some b) memory t out) : t.Ends bearer b ∧
      out = [.endMarker a.gnode (endMarkerPacket b.teid memory)] := by
  obtain ⟨x, hx, -, hgnode⟩ := h.tunnel
  cases hmodify with
  | nothing hnone => exact absurd h.find (hnone ebi b bearer rfl rfl)
  | move c y e enb _ hebi henb hfind hy hout =>
    cases hebi
    cases henb
    rw [h.find] at hfind
    cases hfind
    rw [hx] at hy
    cases hy
    refine ⟨ends_moveBearer hx, ?_⟩
    rcases hout with ⟨-, hsame⟩ | ⟨gnode, hgnode', -, hout⟩
    · exact absurd (hsame _ hgnode) h.other
    · rw [hgnode] at hgnode'
      cases hgnode'
      exact hout

/-- No handover is as it should be. One End Marker goes to the old eNB before any other packet, but
it has the TEID of the new one, and a length of 0 with 92 octets after its header. Packets go to the
new eNB from then on. -/
theorem endMarker_of_reaches (hreach : Lts.Reaches Step initial s)
    (hmoves : s.Moves sgwUe ebi bearer a b)
    (hstep : Step s (.modifyBearerRequest sgwUe (some ebi) (some b) memory, out) t) :
    ¬HandsOver bearer a b out t ∧ Lts.Reaches Step initial t ∧
      (∃ packet, out = [.endMarker a.gnode packet] ∧ gtpuTeid packet = b.teid.toNat ∧
        gtpuLength packet = 0 ∧ packet.length = 100) ∧
      ∀ tr, Lts.Trace Step t tr → (∀ c ∈ tr, c.1.1.IsGtpu) → ∀ c ∈ tr, ∀ gnode teid p,
        .sendToEnb bearer gnode teid p ∈ c.1.2 → gnode = b.gnode ∧ teid = b.teid := by
  obtain ⟨hends, hout⟩ := hmoves.modify (sgwS11HandleModifyBearerRequest_cases hstep.apply)
  refine ⟨?_, hreach.snoc hstep, ?_, ?_⟩
  · intro hlaw
    obtain ⟨packet, hpacket, heq⟩ := hlaw.marker
    dsimp only at hout
    rw [hout, List.cons_eq_cons, SgwOutput.endMarker.injEq] at heq
    rw [← heq.1.2] at hpacket
    exact not_isEndMarker b.teid a.teid hpacket
  · exact ⟨_, hout, gtpuTeid_endMarkerPacket b.teid, gtpuLength_endMarkerPacket b.teid,
      length_endMarkerPacket b.teid⟩
  · intro tr htrace hops
    exact hends.run htrace hops

/-- The UE has an eNB. -/
def served : SgwContext :=
  attached.next (.modifyBearerRequest 1 (some 5) (some ⟨21, 11⟩) (Vector.replicate 92 0))

theorem reaches_served : Lts.Reaches Step initial served := by
  apply reaches_attached.snoc
  apply step_next (by decide)
  · rintro ue ⟨⟩
    decide
  · rintro σ ⟨⟩

theorem moves_served : served.Moves 1 5 1 ⟨21, 11⟩ ⟨22, 12⟩ :=
  ⟨by decide, ⟨1, by decide, by decide, by decide⟩, by decide⟩

theorem step_served : Step served
    (.modifyBearerRequest 1 (some 5) (some ⟨22, 12⟩) (Vector.replicate 92 0),
      served.sent (.modifyBearerRequest 1 (some 5) (some ⟨22, 12⟩) (Vector.replicate 92 0)))
    (served.next (.modifyBearerRequest 1 (some 5) (some ⟨22, 12⟩) (Vector.replicate 92 0))) := by
  apply step_next (by decide)
  · rintro ue ⟨⟩
    decide
  · rintro σ ⟨⟩

/-- A handover from the TEID 21 to the TEID 22: the End Marker has the second. -/
theorem endMarker_served : ∃ packet,
    served.sent (.modifyBearerRequest 1 (some 5) (some ⟨22, 12⟩) (Vector.replicate 92 0)) =
      [.endMarker 11 packet] ∧ gtpuTeid packet = 22 := by
  obtain ⟨-, -, ⟨packet, hout, hteid, -⟩, -⟩ :=
    endMarker_of_reaches reaches_served moves_served step_served
  exact ⟨packet, hout, hteid⟩

theorem handover_served : ¬∀ s sgwUe ebi bearer a b memory out t,
    Lts.Reaches Step initial s → s.Moves sgwUe ebi bearer a b →
      Step s (.modifyBearerRequest sgwUe (some ebi) (some b) memory, out) t →
        HandsOver bearer a b out t := by
  intro hclaim
  have hlaw := hclaim served 1 5 1 ⟨21, 11⟩ ⟨22, 12⟩ _ _ _ reaches_served moves_served step_served
  obtain ⟨packet, hpacket, hout⟩ := hlaw.marker
  have hsent : served.sent
      (.modifyBearerRequest 1 (some 5) (some ⟨22, 12⟩) (Vector.replicate 92 0)) =
        [.endMarker 11 (endMarkerPacket 22 (Vector.replicate 92 0))] :=
    (moves_served.modify (sgwS11HandleModifyBearerRequest_cases step_served.apply)).2
  rw [hsent, List.cons_eq_cons, SgwOutput.endMarker.injEq] at hout
  rw [← hout.1.2] at hpacket
  exact not_isEndMarker 22 21 hpacket

end SgwContext
end NextEpc

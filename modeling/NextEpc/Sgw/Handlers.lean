import NextEpc.Gtp.Types
import NextEpc.Sgw.Context

/-!
# The handlers of the serving gateway

What `_gtpv1_u_recv_cb` of `sgw-gtp-path.c` and the handlers of `sgw-s11-handler.c` and
`sgw-s5c-handler.c` do with the context, and the packets they send. They run in one thread, one
after the other. Of a message on S11 or S5 the model keeps the information elements that are
written to the context; the answers and their transactions are left out.

A handler that asserts what does not hold ends the process: there is no state after it.
-/

namespace NextEpc

/-- An F-TEID, and the node that `ogs_gtp_node_find` or `ogs_gtp_node_add` returns for its
address. -/
structure SgwFTeid where
  teid : UInt32
  gnode : NodeId
  deriving DecidableEq, Repr

/-- One bearer context of a Create Indirect Data Forwarding Tunnel Request, and the slots that
`ogs_pool_alloc` returns for its tunnels. -/
structure IndirectBearer where
  ebi : Option UInt8
  s1uEnodebFTeid : Option (SgwTunnelId × SgwFTeid)
  s12RncFTeid : Option (SgwTunnelId × SgwFTeid)
  deriving DecidableEq, Repr

/-- What a handler sends, and what happens to a packet from the PGW. -/
inductive SgwOutput
  /-- A packet for the S5/S8 tunnel of a bearer that is sent to the eNB or buffered. -/
  | accept (bearer : SgwBearerId) (pkbuf : SgwPkbuf)
  /-- A packet for the S5/S8 tunnel of a bearer that is neither. -/
  | drop (bearer : SgwBearerId) (pkbuf : SgwPkbuf)
  | sendToEnb (bearer : SgwBearerId) (gnode : NodeId) (teid : UInt32) (pkbuf : SgwPkbuf)
  | sendToPgw (gnode : NodeId) (teid : UInt32) (pkbuf : SgwPkbuf)
  | sendIndirect (gnode : NodeId) (teid : UInt32) (pkbuf : SgwPkbuf)
  /-- `SGW_EVT_LO_DLDATA_NOTI` -/
  | dlDataNoti (sgwUe : SgwUeId) (bearer : SgwBearerId)
  | endMarker (gnode : NodeId) (packet : Bytes)
  | createSessionRequest (gnode : NodeId) (teid : UInt32)
  deriving DecidableEq, Repr

/-- `MAX_NUM_OF_PACKET_BUFFER` -/
def maxNumOfPacketBuffer : Nat := 512

/-- `OGS_GTPU_MSGTYPE_END_MARKER` -/
def gtpuMsgtypeEndMarker : UInt8 := 254

namespace SgwContext

section
variable (s : SgwContext)

/-- `OGS_SETUP_GTP_NODE`, and the TEID of the peer. -/
def setRemote (tunnel : SgwTunnelId) (fTeid : SgwFTeid) : SgwContext :=
  { s with
    tunnels := s.tunnels.modify tunnel fun m =>
      { m with remoteTeid := fTeid.teid, gnode := some fTeid.gnode } }

def setRemoteTeid (tunnel : SgwTunnelId) (teid : UInt32) : SgwContext :=
  { s with tunnels := s.tunnels.modify tunnel fun m => { m with remoteTeid := teid } }

def setGnode (tunnel : SgwTunnelId) (gnode : NodeId) : SgwContext :=
  { s with tunnels := s.tunnels.modify tunnel fun m => { m with gnode := some gnode } }

def setBufferedPkts (bearer : SgwBearerId) (pkbufs : List SgwPkbuf) : SgwContext :=
  { s with bearers := s.bearers.modify bearer fun m => { m with bufferedPkts := pkbufs } }

def setUe (sgwUe : SgwUeId) (f : SgwUeRecord → SgwUeRecord) : SgwContext :=
  { s with ues := s.ues.modify sgwUe f }

/-! ## Packets -/

/-- A packet is received: a buffer is allocated for it. -/
def pkbufAlloc : SgwContext :=
  { s with received := s.received + 1, pkbufs := s.received :: s.pkbufs }

/-- The branch of `_gtpv1_u_recv_cb` for packets from the PGW. `pushed` is the result of
`ogs_queue_push`. -/
def sgwDownlink (bearer : SgwBearerId) (pkbuf : SgwPkbuf) (pushed : Bool) :
    Option (SgwContext × List SgwOutput) := do
  let s1uTunnel ← s.sgwS1uTunnelInBearer bearer
  let teid := (s.tunnels.mem s1uTunnel).remoteTeid
  if teid ≠ 0 then
    let gnode ← (s.tunnels.mem s1uTunnel).gnode
    -- If there is buffered packet, send it first
    let buffered := (s.bearers.mem bearer).bufferedPkts
    let s := (buffered.foldl pkbufFree s).setBufferedPkts bearer []
    some (s.pkbufFree pkbuf, .accept bearer pkbuf ::
      (buffered ++ [pkbuf]).map fun pkbuf => .sendToEnb bearer gnode teid pkbuf)
  else
    let sgwUe := (s.sesss.mem (s.bearers.mem bearer).sess).sgwUe
    if (s.ues.mem sgwUe).s1uInactive = true then
      let noti := if (s.ues.mem sgwUe).dlNotiSent = false ∧ pushed = true then
        [.dlDataNoti sgwUe bearer] else []
      let s := s.setUe sgwUe fun m => { m with dlNotiSent := true }
      -- Buffer the packet
      let buffered := (s.bearers.mem bearer).bufferedPkts
      if buffered.length < maxNumOfPacketBuffer then
        some (s.setBufferedPkts bearer (buffered ++ [pkbuf]), noti ++ [.accept bearer pkbuf])
      else some (s.pkbufFree pkbuf, noti ++ [.drop bearer pkbuf])
    else
      -- Just drop it
      some (s.pkbufFree pkbuf, [.drop bearer pkbuf])

/-- The packet goes to the TEID it came in for. -/
def sgwConvertTeid (pkbuf : SgwPkbuf) (pushed : Bool) :
    Option (SgwContext × List SgwOutput) :=
  match s.sgwTunnelFindByTeid pkbuf.teid with
  | none => some (s.pkbufFree pkbuf, [])
  | some tunnel =>
    let bearer := (s.tunnels.mem tunnel).bearer
    let interfaceType := (s.tunnels.mem tunnel).interfaceType
    if interfaceType = s1uSgwGtpU then do
      let s5uTunnel ← s.sgwS5uTunnelInBearer bearer
      let gnode ← (s.tunnels.mem s5uTunnel).gnode
      some (s.pkbufFree pkbuf, [.sendToPgw gnode (s.tunnels.mem s5uTunnel).remoteTeid pkbuf])
    else if IsForwarding interfaceType then do
      let indirectTunnel ← s.sgwTunnelFindByInterfaceType bearer interfaceType
      let gnode ← (s.tunnels.mem indirectTunnel).gnode
      some (s.pkbufFree pkbuf,
        [.sendIndirect gnode (s.tunnels.mem indirectTunnel).remoteTeid pkbuf])
    else if interfaceType = s5s8SgwGtpU then s.sgwDownlink bearer pkbuf pushed
    else some (s.pkbufFree pkbuf, [])

/-- `_gtpv1_u_recv_cb`, without the answers to Echo Requests. -/
def gtpv1URecvCb (type : UInt8) (teid : UInt32) (payload : Bytes) (pushed : Bool) :
    Option (SgwContext × List SgwOutput) :=
  let pkbuf : SgwPkbuf := ⟨s.received, type, teid, payload⟩
  let s := s.pkbufAlloc
  if type = gtpuMsgtypeGpdu ∨ type = gtpuMsgtypeEndMarker then s.sgwConvertTeid pkbuf pushed
  else some (s.pkbufFree pkbuf, [])

/-- `sgw_gtp_send_end_marker`. Of the 100 octets that are allocated and sent the first 8 are
written. -/
def sgwGtpSendEndMarker (s1uTunnel : SgwTunnelId) (memory : Vector UInt8 92) :
    Option SgwOutput := do
  let gnode ← (s.tunnels.mem s1uTunnel).gnode
  let h := [0x30, gtpuMsgtypeEndMarker] ++ Octets.htons 0 ++
    (Octets.htonl (s.tunnels.mem s1uTunnel).remoteTeid).toList
  some (.endMarker gnode (h ++ memory.toList))

/-! ## S11 -/

/-- `sgw_s11_handle_create_session_request` from the session on. -/
def sgwS11ForwardCreateSessionRequest (sgwUe : SgwUeId) (sess : SgwSessId)
    (mmeS11Teid : Option UInt32) (pgw : Option NodeId) (uli : Bool) :
    Option (SgwContext × List SgwOutput) :=
  match mmeS11Teid, pgw with
  | some mmeS11Teid, some pgw =>
    if uli = true then do
      let bearer ← s.sgwDefaultBearerInSess sess
      let _ ← s.sgwS5uTunnelInBearer bearer
      some ({ s with
          ues := s.ues.modify sgwUe fun m => { m with mmeS11Teid := mmeS11Teid }
          sesss := s.sesss.modify sess fun m => { m with gnode := some pgw } },
        [.createSessionRequest pgw (s.sesss.mem sess).pgwS5cTeid])
    else some (s, [])
  | _, _ => some (s, [])

/-- The slots are those that `ogs_pool_alloc` returns if a session is added. -/
def sgwS11HandleCreateSessionRequest (sess : SgwSessId) (bearer : SgwBearerId)
    (s1uTunnel s5uTunnel : SgwTunnelId) (sgwUe : SgwUeId) (ebi : Option UInt8)
    (apn : Option Bytes) (mmeS11Teid : Option UInt32) (pgw : Option NodeId) (uli : Bool) :
    Option (SgwContext × List SgwOutput) :=
  match ebi with
  | none => some (s, [])
  | some ebi =>
    match s.sgwSessFindByEbi sgwUe ebi with
    | some sess => s.sgwS11ForwardCreateSessionRequest sgwUe sess mmeS11Teid pgw uli
    | none =>
      match apn with
      | none => some (s, [])
      | some apn => do
        let s ← s.sgwSessAdd sess bearer s1uTunnel s5uTunnel sgwUe apn ebi
        s.sgwS11ForwardCreateSessionRequest sgwUe sess mmeS11Teid pgw uli

def sgwS11HandleModifyBearerRequest (sgwUe : SgwUeId) (ebi : Option UInt8)
    (enbS1uTeid : Option SgwFTeid) (memory : Vector UInt8 92) :
    Option (SgwContext × List SgwOutput) :=
  match ebi, enbS1uTeid with
  | some ebi, some enb =>
    match s.sgwBearerFindByUeEbi sgwUe ebi with
    | none => some (s, [])
    | some bearer => do
      let s1uTunnel ← s.sgwS1uTunnelInBearer bearer
      -- Data Plane(DL) : eNB-S1U
      let s := s.setRemoteTeid s1uTunnel enb.teid
      -- if GTP Node changes, End Marker is sent out or not
      let out ← match (s.tunnels.mem s1uTunnel).gnode with
        | some gnode =>
          if gnode ≠ enb.gnode then (s.sgwGtpSendEndMarker s1uTunnel memory).map fun m => [m]
          else some []
        | none => some []
      let s := s.setGnode s1uTunnel enb.gnode
      -- Reset UE state
      some (s.setUe sgwUe fun m => { m with s1uInactive := false }, out)
  | _, _ => some (s, [])

/-- One round of the loops of `sgw_s11_handle_release_access_bearers_request`. -/
def sgwReleaseBearer (bearer : SgwBearerId) : Option SgwContext := do
  let s1uTunnel ← s.sgwS1uTunnelInBearer bearer
  some (s.setRemoteTeid s1uTunnel 0)

def sgwReleaseSess (sess : SgwSessId) : Option SgwContext :=
  (s.sesss.mem sess).bearerList.foldlM sgwReleaseBearer s

def sgwS11HandleReleaseAccessBearersRequest (sgwUe : SgwUeId) : Option SgwContext :=
  let s := s.setUe sgwUe fun m => { m with s1uInactive := true, dlNotiSent := false }
  (s.ues.mem sgwUe).sessList.foldlM sgwReleaseSess s

def sgwS11HandleCreateBearerResponse (sgwUe : SgwUeId) (sgwS1uTeid : Option UInt32)
    (ebi : Option UInt8) (enbS1uTeid : Option SgwFTeid) (uli : Bool) : Option SgwContext :=
  match sgwS1uTeid, ebi, enbS1uTeid with
  | some sgwS1uTeid, some ebi, some enb =>
    if uli = true then do
      let s1uTunnel ← s.sgwTunnelFindByTeid sgwS1uTeid
      let bearer := (s.tunnels.mem s1uTunnel).bearer
      let s5uTunnel ← s.sgwS5uTunnelInBearer bearer
      let s := { s with bearers := s.bearers.modify bearer fun m => { m with ebi := ebi } }
      let s := s.setRemote s1uTunnel enb
      let s := s.setUe sgwUe fun m => { m with s1uInactive := false }
      let _ ← (s.tunnels.mem s5uTunnel).gnode
      some s
    else some s
  | _, _, _ => some s

def sgwS11HandleDeleteBearerResponse (sgwUe : SgwUeId) (ebi : Option UInt8) :
    Option SgwContext :=
  match ebi with
  | none => some s
  | some ebi => do
    let bearer ← s.sgwBearerFindByUeEbi sgwUe ebi
    some (s.sgwBearerRemove bearer)

/-- An indirect tunnel, if the request has an F-TEID for it. -/
def sgwAddIndirectTunnel (bearer : SgwBearerId) (interfaceType : UInt8) :
    Option (SgwTunnelId × SgwFTeid) → Option SgwContext
  | none => some s
  | some (tunnel, enb) => do
    let s ← s.sgwTunnelAdd tunnel bearer interfaceType
    some (s.setRemote tunnel enb)

end

def sgwS11HandleCreateIndirectDataForwardingTunnelRequest (sgwUe : SgwUeId) :
    SgwContext → List IndirectBearer → Option SgwContext
  | s, [] => some s
  | s, req :: reqs =>
    match req.ebi with
    | none => some s
    | some ebi => do
      let bearer ← s.sgwBearerFindByUeEbi sgwUe ebi
      let s ← s.sgwAddIndirectTunnel bearer sgwGtpUForDlDataForwarding req.s1uEnodebFTeid
      let s ← s.sgwAddIndirectTunnel bearer sgwGtpUForUlDataForwarding req.s12RncFTeid
      sgwS11HandleCreateIndirectDataForwardingTunnelRequest sgwUe s reqs

section
variable (s : SgwContext)

/-- The innermost loop of `sgw_s11_handle_delete_indirect_data_forwarding_tunnel_request`. -/
def sgwDeleteIndirectTunnel (tunnel : SgwTunnelId) : SgwContext :=
  if IsForwarding (s.tunnels.mem tunnel).interfaceType then s.sgwTunnelRemove tunnel else s

def sgwDeleteIndirectInBearer (bearer : SgwBearerId) : SgwContext :=
  (s.bearers.mem bearer).tunnelList.foldl sgwDeleteIndirectTunnel s

def sgwDeleteIndirectInSess (sess : SgwSessId) : SgwContext :=
  (s.sesss.mem sess).bearerList.foldl sgwDeleteIndirectInBearer s

def sgwS11HandleDeleteIndirectDataForwardingTunnelRequest (sgwUe : SgwUeId) : SgwContext :=
  (s.ues.mem sgwUe).sessList.foldl sgwDeleteIndirectInSess s

/-! ## S5 -/

def sgwS5cHandleCreateSessionResponse (sess : SgwSessId) (ebi : Option UInt8)
    (pgwS5cTeid : Option UInt32) (pgwS5uTeid : Option SgwFTeid) (cause : Bool) :
    Option SgwContext :=
  match ebi, pgwS5cTeid, pgwS5uTeid with
  | some ebi, some pgwS5cTeid, some pgw =>
    if cause = true then do
      let bearer ← s.sgwBearerFindBySessEbi sess ebi
      let _ ← s.sgwS1uTunnelInBearer bearer
      let s5uTunnel ← s.sgwS5uTunnelInBearer bearer
      let s := { s with
        sesss := s.sesss.modify sess fun m => { m with pgwS5cTeid := pgwS5cTeid } }
      some (s.setRemote s5uTunnel pgw)
    else some s
  | _, _, _ => some s

/-- `sgw_s5c_handle_delete_session_response`. `cause` says whether the answer has one. -/
def sgwS5cHandleDeleteSessionResponse (sess : SgwSessId) (cause : Bool) : SgwContext :=
  if cause = true then s.sgwSessRemove sess else s

/-- `complete` says that no information element is missing but the F-TEID, if that is. -/
def sgwS5cHandleCreateBearerRequest (bearer : SgwBearerId) (s1uTunnel s5uTunnel : SgwTunnelId)
    (sess : SgwSessId) (complete : Bool) (pgwS5uTeid : Option SgwFTeid) : Option SgwContext :=
  match pgwS5uTeid with
  | none => some s
  | some pgw =>
    if complete = true then do
      let s ← s.sgwBearerAdd bearer s1uTunnel s5uTunnel sess
      let _ ← s.sgwS1uTunnelInBearer bearer
      let s5uTunnel ← s.sgwS5uTunnelInBearer bearer
      some (s.setRemote s5uTunnel pgw)
    else some s

end

/-! ## Runs -/

inductive Op
  | ueAdd (sgwUe : SgwUeId) (imsi : Bytes) (gnode : NodeId)
  | ueRemove (sgwUe : SgwUeId)
  | createSessionRequest (sess : SgwSessId) (bearer : SgwBearerId)
      (s1uTunnel s5uTunnel : SgwTunnelId) (sgwUe : SgwUeId) (ebi : Option UInt8)
      (apn : Option Bytes) (mmeS11Teid : Option UInt32) (pgw : Option NodeId) (uli : Bool)
  | createSessionResponse (sess : SgwSessId) (ebi : Option UInt8) (pgwS5cTeid : Option UInt32)
      (pgwS5uTeid : Option SgwFTeid) (cause : Bool)
  | deleteSessionResponse (sess : SgwSessId) (cause : Bool)
  | createBearerRequest (bearer : SgwBearerId) (s1uTunnel s5uTunnel : SgwTunnelId)
      (sess : SgwSessId) (complete : Bool) (pgwS5uTeid : Option SgwFTeid)
  | createBearerResponse (sgwUe : SgwUeId) (sgwS1uTeid : Option UInt32) (ebi : Option UInt8)
      (enbS1uTeid : Option SgwFTeid) (uli : Bool)
  | deleteBearerResponse (sgwUe : SgwUeId) (ebi : Option UInt8)
  | modifyBearerRequest (sgwUe : SgwUeId) (ebi : Option UInt8) (enbS1uTeid : Option SgwFTeid)
      (memory : Vector UInt8 92)
  | releaseAccessBearersRequest (sgwUe : SgwUeId)
  | createIndirectTunnelRequest (sgwUe : SgwUeId) (bearers : List IndirectBearer)
  | deleteIndirectTunnelRequest (sgwUe : SgwUeId)
  | gtpuRecv (type : UInt8) (teid : UInt32) (payload : Bytes) (pushed : Bool)
  deriving DecidableEq

/-- The UE that an event is for was found by its TEID. -/
def Op.sgwUe : Op → Option SgwUeId
  | .ueRemove sgwUe => some sgwUe
  | .createSessionRequest _ _ _ _ sgwUe _ _ _ _ _ => some sgwUe
  | .createBearerResponse sgwUe _ _ _ _ => some sgwUe
  | .deleteBearerResponse sgwUe _ => some sgwUe
  | .modifyBearerRequest sgwUe _ _ _ => some sgwUe
  | .releaseAccessBearersRequest sgwUe => some sgwUe
  | .createIndirectTunnelRequest sgwUe _ => some sgwUe
  | .deleteIndirectTunnelRequest sgwUe => some sgwUe
  | _ => none

/-- The session that an event is for was found by its TEID. -/
def Op.sess : Op → Option SgwSessId
  | .createSessionResponse sess _ _ _ _ => some sess
  | .deleteSessionResponse sess _ => some sess
  | .createBearerRequest _ _ _ sess _ _ => some sess
  | _ => none

/-- A handler that sends nothing of its own. -/
def silent (s : Option SgwContext) : Option (SgwContext × List SgwOutput) :=
  s.map fun s => (s, [])

def apply (s : SgwContext) : Op → Option (SgwContext × List SgwOutput)
  | .ueAdd sgwUe imsi gnode => silent (s.sgwUeAdd sgwUe imsi gnode)
  | .ueRemove sgwUe => silent (some (s.sgwUeRemove sgwUe))
  | .createSessionRequest sess bearer s1uTunnel s5uTunnel sgwUe ebi apn mmeS11Teid pgw uli =>
    s.sgwS11HandleCreateSessionRequest sess bearer s1uTunnel s5uTunnel sgwUe ebi apn mmeS11Teid
      pgw uli
  | .createSessionResponse sess ebi pgwS5cTeid pgwS5uTeid cause =>
    silent (s.sgwS5cHandleCreateSessionResponse sess ebi pgwS5cTeid pgwS5uTeid cause)
  | .deleteSessionResponse sess cause =>
    silent (some (s.sgwS5cHandleDeleteSessionResponse sess cause))
  | .createBearerRequest bearer s1uTunnel s5uTunnel sess complete pgwS5uTeid =>
    silent (s.sgwS5cHandleCreateBearerRequest bearer s1uTunnel s5uTunnel sess complete pgwS5uTeid)
  | .createBearerResponse sgwUe sgwS1uTeid ebi enbS1uTeid uli =>
    silent (s.sgwS11HandleCreateBearerResponse sgwUe sgwS1uTeid ebi enbS1uTeid uli)
  | .deleteBearerResponse sgwUe ebi => silent (s.sgwS11HandleDeleteBearerResponse sgwUe ebi)
  | .modifyBearerRequest sgwUe ebi enbS1uTeid memory =>
    s.sgwS11HandleModifyBearerRequest sgwUe ebi enbS1uTeid memory
  | .releaseAccessBearersRequest sgwUe =>
    silent (s.sgwS11HandleReleaseAccessBearersRequest sgwUe)
  | .createIndirectTunnelRequest sgwUe bearers =>
    silent (sgwS11HandleCreateIndirectDataForwardingTunnelRequest sgwUe s bearers)
  | .deleteIndirectTunnelRequest sgwUe =>
    silent (some (s.sgwS11HandleDeleteIndirectDataForwardingTunnelRequest sgwUe))
  | .gtpuRecv type teid payload pushed => s.gtpv1URecvCb type teid payload pushed

/-- One event that is processed completely, with what is sent. -/
structure Step (s : SgwContext) (a : Op × List SgwOutput) (t : SgwContext) : Prop where
  sgwUe : ∀ sgwUe, a.1.sgwUe = some sgwUe → s.ues.live sgwUe = true
  sess : ∀ sess, a.1.sess = some sess → s.sesss.live sess = true
  apply : s.apply a.1 = some (t, a.2)

/-- The state after an event. -/
def next (s : SgwContext) (op : Op) : SgwContext := ((s.apply op).getD (s, [])).1

/-- What is sent at an event. -/
def sent (s : SgwContext) (op : Op) : List SgwOutput := ((s.apply op).getD (s, [])).2

theorem step_next {s : SgwContext} {op : Op} (hsome : (s.apply op).isSome = true)
    (hue : ∀ sgwUe, op.sgwUe = some sgwUe → s.ues.live sgwUe = true)
    (hsess : ∀ sess, op.sess = some sess → s.sesss.live sess = true) :
    Step s (op, s.sent op) (s.next op) := by
  refine ⟨hue, hsess, ?_⟩
  obtain ⟨r, hr⟩ := Option.isSome_iff_exists.mp hsome
  rw [sent, next, hr]
  rfl

/-! ## What a handler does -/

section
variable {s t : SgwContext} {out : List SgwOutput} {sgwUe : SgwUeId} {sess : SgwSessId}
  {bearer : SgwBearerId} {pkbuf : SgwPkbuf} {pushed : Bool}

/-- The buffered packets and the new one are sent. -/
def flush (s : SgwContext) (bearer : SgwBearerId) (pkbuf : SgwPkbuf) : SgwContext :=
  (((s.bearers.mem bearer).bufferedPkts.foldl pkbufFree s).setBufferedPkts bearer []).pkbufFree
    pkbuf

/-- The MME is told that there are packets for the UE. -/
def setDlNotiSent (s : SgwContext) (sgwUe : SgwUeId) : SgwContext :=
  s.setUe sgwUe fun m => { m with dlNotiSent := true }

/-- What becomes of a packet for the eNB. -/
inductive Downlink (s : SgwContext) (bearer : SgwBearerId) (pkbuf : SgwPkbuf) :
    SgwContext → List SgwOutput → Prop
  | forward (tunnel : SgwTunnelId) (gnode : NodeId) :
      s.sgwS1uTunnelInBearer bearer = some tunnel → (s.tunnels.mem tunnel).remoteTeid ≠ 0 →
      (s.tunnels.mem tunnel).gnode = some gnode →
      Downlink s bearer pkbuf (s.flush bearer pkbuf) (.accept bearer pkbuf ::
        ((s.bearers.mem bearer).bufferedPkts ++ [pkbuf]).map fun pkbuf =>
          .sendToEnb bearer gnode (s.tunnels.mem tunnel).remoteTeid pkbuf)
  | buffer (tunnel : SgwTunnelId) (sgwUe : SgwUeId) (noti : List SgwOutput) :
      s.sgwS1uTunnelInBearer bearer = some tunnel → (s.tunnels.mem tunnel).remoteTeid = 0 →
      (s.sesss.mem (s.bearers.mem bearer).sess).sgwUe = sgwUe →
      (s.ues.mem sgwUe).s1uInactive = true →
      (noti = [] ∨ (s.ues.mem sgwUe).dlNotiSent = false ∧ noti = [.dlDataNoti sgwUe bearer]) →
      (s.bearers.mem bearer).bufferedPkts.length < maxNumOfPacketBuffer →
      Downlink s bearer pkbuf ((s.setDlNotiSent sgwUe).setBufferedPkts bearer
        ((s.bearers.mem bearer).bufferedPkts ++ [pkbuf])) (noti ++ [.accept bearer pkbuf])
  | full (tunnel : SgwTunnelId) (sgwUe : SgwUeId) (noti : List SgwOutput) :
      s.sgwS1uTunnelInBearer bearer = some tunnel → (s.tunnels.mem tunnel).remoteTeid = 0 →
      (s.sesss.mem (s.bearers.mem bearer).sess).sgwUe = sgwUe →
      (s.ues.mem sgwUe).s1uInactive = true →
      (noti = [] ∨ (s.ues.mem sgwUe).dlNotiSent = false ∧ noti = [.dlDataNoti sgwUe bearer]) →
      maxNumOfPacketBuffer ≤ (s.bearers.mem bearer).bufferedPkts.length →
      Downlink s bearer pkbuf ((s.setDlNotiSent sgwUe).pkbufFree pkbuf)
        (noti ++ [.drop bearer pkbuf])
  | active (tunnel : SgwTunnelId) (sgwUe : SgwUeId) :
      s.sgwS1uTunnelInBearer bearer = some tunnel → (s.tunnels.mem tunnel).remoteTeid = 0 →
      (s.sesss.mem (s.bearers.mem bearer).sess).sgwUe = sgwUe →
      (s.ues.mem sgwUe).s1uInactive = false →
      Downlink s bearer pkbuf (s.pkbufFree pkbuf) [.drop bearer pkbuf]

theorem sgwDownlink_cases (h : s.sgwDownlink bearer pkbuf pushed = some (t, out)) :
    Downlink s bearer pkbuf t out := by
  simp only [sgwDownlink, Option.bind_eq_bind, Option.bind_eq_some_iff] at h
  obtain ⟨tunnel, htunnel, h⟩ := h
  by_cases hteid : (s.tunnels.mem tunnel).remoteTeid = 0
  · rw [if_neg (not_not_intro hteid)] at h
    by_cases hue : (s.ues.mem (s.sesss.mem (s.bearers.mem bearer).sess).sgwUe).s1uInactive = true
    · rw [if_pos hue] at h
      generalize hnoti : (if (s.ues.mem (s.sesss.mem (s.bearers.mem bearer).sess).sgwUe).dlNotiSent =
        false ∧ pushed = true then
          [SgwOutput.dlDataNoti (s.sesss.mem (s.bearers.mem bearer).sess).sgwUe bearer]
        else []) = noti at h
      have hnoti : noti = [] ∨
          (s.ues.mem (s.sesss.mem (s.bearers.mem bearer).sess).sgwUe).dlNotiSent = false ∧
            noti = [.dlDataNoti (s.sesss.mem (s.bearers.mem bearer).sess).sgwUe bearer] := by
        split at hnoti
        · rename_i hsent
          exact Or.inr ⟨hsent.1, hnoti.symm⟩
        · exact Or.inl hnoti.symm
      split at h
      · rename_i hroom
        cases h
        exact Downlink.buffer tunnel _ noti htunnel hteid rfl hue hnoti hroom
      · rename_i hroom
        cases h
        exact Downlink.full tunnel _ noti htunnel hteid rfl hue hnoti (not_lt.mp hroom)
    · rw [if_neg hue] at h
      cases h
      exact Downlink.active tunnel _ htunnel hteid rfl (by simpa using hue)
  · rw [if_pos hteid, Option.bind_eq_some_iff] at h
    obtain ⟨gnode, hgnode, h⟩ := h
    cases h
    exact Downlink.forward tunnel gnode htunnel hteid hgnode

/-- What becomes of a packet: one that comes in for an S5/S8 tunnel goes to the eNB. -/
inductive Gtpu (s : SgwContext) (pkbuf : SgwPkbuf) : SgwContext → List SgwOutput → Prop
  | other (out : List SgwOutput) :
      (out = [] ∨ (∃ gnode teid, out = [.sendToPgw gnode teid pkbuf]) ∨
        ∃ gnode teid, out = [.sendIndirect gnode teid pkbuf]) →
      Gtpu s pkbuf (s.pkbufFree pkbuf) out
  | downlink (tunnel : SgwTunnelId) (t : SgwContext) (out : List SgwOutput) :
      s.sgwTunnelFindByTeid pkbuf.teid = some tunnel →
      (s.tunnels.mem tunnel).interfaceType = s5s8SgwGtpU →
      Downlink s (s.tunnels.mem tunnel).bearer pkbuf t out → Gtpu s pkbuf t out

theorem sgwConvertTeid_cases (h : s.sgwConvertTeid pkbuf pushed = some (t, out)) :
    Gtpu s pkbuf t out := by
  rw [sgwConvertTeid] at h
  split at h
  · cases h
    exact Gtpu.other [] (Or.inl rfl)
  · rename_i tunnel hfind
    dsimp only at h
    split at h
    · simp only [Option.bind_eq_bind, Option.bind_eq_some_iff] at h
      obtain ⟨_, _, gnode, _, h⟩ := h
      cases h
      exact Gtpu.other _ (Or.inr (Or.inl ⟨gnode, _, rfl⟩))
    · split at h
      · simp only [Option.bind_eq_bind, Option.bind_eq_some_iff] at h
        obtain ⟨_, _, gnode, _, h⟩ := h
        cases h
        exact Gtpu.other _ (Or.inr (Or.inr ⟨gnode, _, rfl⟩))
      · split at h
        · rename_i htype
          exact Gtpu.downlink tunnel t out hfind htype (sgwDownlink_cases h)
        · cases h
          exact Gtpu.other [] (Or.inl rfl)

theorem gtpv1URecvCb_cases {type : UInt8} {teid : UInt32} {payload : Bytes}
    (h : s.gtpv1URecvCb type teid payload pushed = some (t, out)) :
    Gtpu s.pkbufAlloc ⟨s.received, type, teid, payload⟩ t out := by
  rw [gtpv1URecvCb] at h
  split at h
  · exact sgwConvertTeid_cases h
  · cases h
    exact Gtpu.other [] (Or.inl rfl)

/-- The bearer has a new eNB, and the UE can be reached. -/
def moveBearer (s : SgwContext) (sgwUe : SgwUeId) (s1uTunnel : SgwTunnelId) (enb : SgwFTeid) :
    SgwContext :=
  (s.setRemote s1uTunnel enb).setUe sgwUe fun m => { m with s1uInactive := false }

/-- What a Modify Bearer Request does. -/
inductive Modify (s : SgwContext) (sgwUe : SgwUeId) (ebi : Option UInt8)
    (enbS1uTeid : Option SgwFTeid) (memory : Vector UInt8 92) :
    SgwContext → List SgwOutput → Prop
  | nothing :
      (∀ e enb bearer, ebi = some e → enbS1uTeid = some enb →
        s.sgwBearerFindByUeEbi sgwUe e ≠ some bearer) →
      Modify s sgwUe ebi enbS1uTeid memory s []
  | move (bearer : SgwBearerId) (s1uTunnel : SgwTunnelId) (e : UInt8) (enb : SgwFTeid)
      (out : List SgwOutput) :
      ebi = some e → enbS1uTeid = some enb → s.sgwBearerFindByUeEbi sgwUe e = some bearer →
      s.sgwS1uTunnelInBearer bearer = some s1uTunnel →
      (out = [] ∧ (∀ gnode, (s.tunnels.mem s1uTunnel).gnode = some gnode → gnode = enb.gnode) ∨
        ∃ gnode, (s.tunnels.mem s1uTunnel).gnode = some gnode ∧ gnode ≠ enb.gnode ∧
          out = [.endMarker gnode ([0x30, gtpuMsgtypeEndMarker] ++ Octets.htons 0 ++
            (Octets.htonl enb.teid).toList ++ memory.toList)]) →
      Modify s sgwUe ebi enbS1uTeid memory (s.moveBearer sgwUe s1uTunnel enb) out

theorem sgwS11HandleModifyBearerRequest_cases {ebi : Option UInt8} {enbS1uTeid : Option SgwFTeid}
    {memory : Vector UInt8 92}
    (h : s.sgwS11HandleModifyBearerRequest sgwUe ebi enbS1uTeid memory = some (t, out)) :
    Modify s sgwUe ebi enbS1uTeid memory t out := by
  rw [sgwS11HandleModifyBearerRequest.eq_def] at h
  split at h
  · rename_i e enb
    split at h
    · rename_i hnone
      cases h
      apply Modify.nothing
      rintro _ _ _ ⟨⟩ ⟨⟩ hfind
      rw [hnone] at hfind
      cases hfind
    · rename_i bearer hbearer
      rw [Option.bind_eq_bind, Option.bind_eq_some_iff] at h
      obtain ⟨tunnel, htunnel, h⟩ := h
      have hgnode : ((s.setRemoteTeid tunnel enb.teid).tunnels.mem tunnel).gnode =
          (s.tunnels.mem tunnel).gnode := by
        simp [setRemoteTeid]
      have hstate : ((s.setRemoteTeid tunnel enb.teid).setGnode tunnel enb.gnode).setUe sgwUe
          (fun m => { m with s1uInactive := false }) = s.moveBearer sgwUe tunnel enb := by
        simp [setRemoteTeid, setGnode, moveBearer, setRemote, Pool.modify_modify]
      dsimp only at h
      rw [hgnode, hstate] at h
      cases hg : (s.tunnels.mem tunnel).gnode with
      | none =>
        rw [hg] at h
        cases h
        apply Modify.move bearer tunnel e enb [] rfl rfl hbearer htunnel
        simp [hg]
      | some gnode =>
        rw [hg] at h
        dsimp only at h
        by_cases hne : gnode = enb.gnode
        · rw [if_neg (not_not_intro hne)] at h
          cases h
          apply Modify.move bearer tunnel e enb [] rfl rfl hbearer htunnel
          simp [hg, hne]
        · rw [if_pos hne, sgwGtpSendEndMarker, hgnode, hg] at h
          cases h
          apply Modify.move bearer tunnel e enb _ rfl rfl hbearer htunnel
          refine Or.inr ⟨gnode, hg, hne, ?_⟩
          simp [setRemoteTeid]
  · rename_i hmissing
    cases h
    apply Modify.nothing
    rintro e enb _ hebi henb
    exact absurd henb (hmissing e enb hebi)

end

end SgwContext
end NextEpc

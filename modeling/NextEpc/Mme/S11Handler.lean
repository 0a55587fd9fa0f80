import NextEpc.Mme.S11Path
import NextEpc.Mme.S1apHandler

/-!
# Handling of S11 messages

`mme-s11-handler.c`. A handler is given the transaction of its message; that of a Delete Session
Response has the session the request was for. `ogs_gtp_xact_commit` succeeds on a transaction that
`ogs_gtp_xact_receive` has just given.
-/

namespace NextEpc

/-- Messages from the SGW, with the information elements that are read -/
inductive MmeS11Message
  | createSessionResponse (senderFTeid : Option GtpFTeid) (pdnAddressAllocation pco : Option Bytes)
      (bearerContextsCreated : Option GtpBearerContext)
  | modifyBearerResponse
  /-- `sess` is what the data of the transaction point to. -/
  | deleteSessionResponse (sess : Option (MmeUeId × MmeSessId)) (cause : Bool)
  /-- `slot` is what the pool of bearers gives. -/
  | createBearerRequest (slot : Option S11Bearer) (linkedEpsBearerId : Option UInt8)
      (bearerContexts : Option GtpBearerContext)
  | updateBearerRequest (bearerContexts : Option GtpBearerContext)
  | deleteBearerRequest (linkedEpsBearerId epsBearerIds : Option UInt8)
  | releaseAccessBearersResponse (cause : Bool)
  | downlinkDataNotification
  | createIndirectDataForwardingTunnelResponse (cause : Bool)
      (bearerContexts : Vector (Option GtpBearerContext) gtpMaxNumOfIndirectTunnel)
  | deleteIndirectDataForwardingTunnelResponse (cause : Bool)
  deriving DecidableEq

/-- `memcpy` to the PDN address of a PDN -/
def S11Pdn.storePaa [MmeCodec] (pdn : S11Pdn) (octets : Bytes) : MmeM S11Pdn :=
  if octets.length ≤ MmeCodec.paaSize then
    .ok { pdn with paa := octets ++ pdn.paa.drop octets.length }
  else .error .outOfBounds

namespace S11Mme
section
variable [OgsCrypt] [MmeCodec] (s : S11Mme) (mmeUe : MmeUeId)

/-! ## Sessions -/

/-- The end of `mme_s11_handle_create_session_response` -/
def createSessionAccept (ue : S11Ue) (sess : S11Sess) : MmeM S11Mme :=
  match ue.sm with
  | .initialContextSetup => do
    let ue := { ue with csmap := s.csmaps ue.tai }
    match ue.csmap with
    | some csmap => do
      Fallible.assert .s11Handler (s.vlrSock csmap = true)
      .ok ((s.putMmeUe mmeUe ue).send (.toVlr mmeUe csmap))
    | none => s.nasSendAttachAccept mmeUe { ue with toMmeUe := { ue.toMmeUe with t3450 := .clear } }
  | .registered => s.nasSendActivateDefaultBearerContextRequest mmeUe ue sess
  | _ => .error (.assert .s11Handler)

def handleCreateSessionResponse (senderFTeid : Option GtpFTeid)
    (pdnAddressAllocation pco : Option Bytes) (bearerContextsCreated : Option GtpBearerContext) :
    MmeM S11Mme :=
  match senderFTeid, pdnAddressAllocation, bearerContextsCreated with
  | some sgwS11Teid, some paa, some context =>
    match context.s1UEnodebFTeid, context.epsBearerId with
    | some sgwS1uTeid, some ebi => do
      let ue := s.mmeUes.mem mmeUe
      let (sess, bearer) ← Fallible.assertSome .s11Handler (ue.bearerFindByUeEbi ebi)
      let pdnId ← Fallible.assertSome .s11Handler sess.pdn
      let pdn ← (ue.pdns pdnId).storePaa paa
      let sgwS1u ← gtpFTeidToIp sgwS1uTeid
      let sess := { sess with pgwPco := pco <|> sess.pgwPco }
      let sess := sess.putBearer { bearer with sgwS1u := sgwS1u }
      let ue := { ue with
        toMmeUe := { ue.toMmeUe with sgwS11Teid := sgwS11Teid.teid }
        pdns := Function.update ue.pdns pdnId pdn }
      s.createSessionAccept mmeUe (ue.putSess sess) sess
    | _, _ => .ok s
  | _, _, _ => .ok s

/-- The end of a last session: a UE Context Release Command, if there is a connection -/
def releaseLastSession : MmeM S11Mme :=
  let ue := s.mmeUes.mem mmeUe
  if ue.sessList.length = 1 then
    match ue.enbUe with
    | some enbUe => s.clearAndRelease enbUe causeNasNormalRelease .ueContextRemove false
    | none => .ok s
  else .ok s

/-- `cleanup` of `mme_s11_handle_delete_session_response` -/
def cleanupSession (owner : MmeUeId) (id : MmeSessId) : S11Mme :=
  let ue := s.mmeUes.mem mmeUe
  let s := if ue.sessList.length = 1 then s.putMmeUe mmeUe ue.clearSessionContext else s
  s.putMmeUe owner ((s.mmeUes.mem owner).sessRemove id)

def handleDeleteSessionResponse (sess : Option (MmeUeId × MmeSessId)) (cause : Bool) :
    MmeM S11Mme := do
  let (owner, id) ← Fallible.assertSome .s11Handler sess
  -- A pointer to a session that was removed is of no use.
  match (s.mmeUes.mem owner).sessList.find? (fun sess => sess.id = id) with
  | none => .error .dangling
  | some sess =>
    if cause = false then .ok (s.cleanupSession mmeUe owner id)
    else
      let ue := s.mmeUes.mem mmeUe
      match ue.sm with
      | .authentication =>
        if ue.sessList.length = 1 then
          let s := s.putMmeUe mmeUe { ue with toMmeUe := ue.toMmeUe.clearSecurityContext }
          .ok ((s.send (.toHss mmeUe)).cleanupSession mmeUe owner id)
        else .ok (s.cleanupSession mmeUe owner id)
      | .deRegistered => do
        let s ← if ue.sessList.length = 1 then s.nasSendDetachAccept mmeUe else .ok s
        .ok (s.cleanupSession mmeUe owner id)
      | .registered => do
        let bearer ← Fallible.assertSome .s11Handler sess.defaultBearer
        match bearer.sm with
        | .pdnWillDisconnect => do
          let s ← s.nasSendDeactivateBearerContextRequest owner (s.mmeUes.mem owner) sess bearer
          -- The session is removed when the UE has accepted.
          let bearer := { bearer with sgwS1u := bearer.sgwS1u.clear }
          .ok (s.putMmeUe owner ((s.mmeUes.mem owner).putBearer sess bearer))
        | .active | .inactive => do
          let s ← s.releaseLastSession mmeUe
          .ok (s.cleanupSession mmeUe owner id)
        | _ => .error (.assert .s11Handler)
      | .initialContextSetup | .exception => do
        let s ← s.releaseLastSession mmeUe
        .ok (s.cleanupSession mmeUe owner id)
      | .securityMode => .error (.assert .s11Handler)

/-! ## Modify Bearer Response -/

/-- The successful handover of a UE is completed at its source. -/
def completeHandover : MmeM S11Mme := do
  let targetUe ← Fallible.assertSome .s11Handler (s.mmeUes.mem mmeUe).enbUe
  s.useEnbUe targetUe
  let sourceUe ← Fallible.assertSome .s11Handler (s.enbUes.mem targetUe).sourceUe
  s.clearAndRelease sourceUe causeSuccessfulHandover .deleteIndirectTunnel true

def handleModifyBearerResponse : MmeM S11Mme := do
  let ue := s.mmeUes.mem mmeUe
  let s := s.putMmeUe mmeUe { ue with
    pathSwitchCounter := ue.pathSwitchCounter.check.1
    handoverNotifyCounter := ue.handoverNotifyCounter.check.1 }
  let s ← if ue.pathSwitchCounter.check.2 then s.s1apSendPathSwitchAck mmeUe else .ok s
  if ue.handoverNotifyCounter.check.2 then s.completeHandover mmeUe else .ok s

/-! ## Requests -/

/-- The bearer is active and has a path to the eNB. -/
def Activated (bearer : S11Bearer) : Prop := bearer.sm = .active ∧ bearer.HaveEnbS1uPath

instance (bearer : S11Bearer) : Decidable (Activated bearer) :=
  inferInstanceAs (Decidable (_ ∧ _))

def handleCreateBearerRequest [OgsConv] [Ogslib] (xact : Nat) (slot : Option S11Bearer)
    (linkedEpsBearerId : Option UInt8) (bearerContexts : Option GtpBearerContext) :
    MmeM S11Mme :=
  match linkedEpsBearerId, bearerContexts with
  | some linkedEbi, some context =>
    match context.epsBearerId, context.s1UEnodebFTeid, context.bearerLevelQos, context.tft with
    | some _, some sgwS1uTeid, some bearerLevelQos, some tft => do
      let ue := s.mmeUes.mem mmeUe
      let (sess, _) ← Fallible.assertSome .s11Handler (ue.bearerFindByUeEbi linkedEbi)
      let (ue, sess, bearer) ← ue.bearerAdd sess slot
      let sgwS1u ← gtpFTeidToIp sgwS1uTeid
      let qos ← gtpParseBearerQos bearerLevelQos
      let bearer := { bearer with
        sgwS1u := sgwS1u
        qos := qos
        tft := some tft
        xact := some xact }
      let sess := sess.putBearer bearer
      let ue := ue.putSess sess
      let defaultBearer ← Fallible.assertSome .s11Handler sess.defaultBearer
      if Activated defaultBearer then
        s.nasSendActivateDedicatedBearerContextRequest mmeUe ue sess bearer
      else .ok (s.putMmeUe mmeUe ue)
    | _, _, _, _ => .ok s
  | _, _ => .ok s

/-- The QoS of a bearer after a request that may have one -/
def requestedQos [OgsConv] (bearer : S11Bearer) (bearerLevelQos : Option Bytes) : MmeM Qos :=
  match bearerLevelQos with
  | some octet => gtpParseBearerQos octet
  | none => .ok bearer.qos

def handleUpdateBearerRequest [OgsConv] (xact : Nat) (bearerContexts : Option GtpBearerContext) :
    MmeM S11Mme :=
  match bearerContexts with
  | some context =>
    match context.epsBearerId with
    | some ebi => do
      let ue := s.mmeUes.mem mmeUe
      let (sess, bearer) ← Fallible.assertSome .s11Handler (ue.bearerFindByUeEbi ebi)
      Fallible.assert .s11Handler (Activated bearer)
      let qos ← requestedQos bearer context.bearerLevelQos
      let bearer := { bearer with
        xact := some xact
        qos := qos
        tft := context.tft <|> bearer.tft }
      let sess := sess.putBearer bearer
      let ue := ue.putSess sess
      if context.bearerLevelQos.isSome ∨ context.tft.isSome then
        s.nasSendModifyBearerContextRequest mmeUe ue sess bearer context.bearerLevelQos.isSome
          context.tft.isSome
      else
        .ok ((s.putMmeUe mmeUe ue).send
          (.toSgw xact (.updateBearerResponse ue.sgwS11Teid bearer.ebi)))
    | none => .ok s
  | none => .ok s

def handleDeleteBearerRequest (xact : Nat) (linkedEpsBearerId epsBearerIds : Option UInt8) :
    MmeM S11Mme :=
  match linkedEpsBearerId <|> epsBearerIds with
  | some ebi => do
    let ue := s.mmeUes.mem mmeUe
    let (sess, bearer) ← Fallible.assertSome .s11Handler (ue.bearerFindByUeEbi ebi)
    let bearer := { bearer with xact := some xact }
    let sess := sess.putBearer bearer
    let ue := ue.putSess sess
    Fallible.assert .s11Handler (Activated bearer)
    s.nasSendDeactivateBearerContextRequest mmeUe ue sess bearer
  | none => .ok s

def handleDownlinkDataNotification (xact : Nat) : S11Mme :=
  s.send (.toSgw xact (.downlinkDataNotificationAcknowledge (s.mmeUes.mem mmeUe).sgwS11Teid))

/-! ## Other responses -/

def handleReleaseAccessBearersResponse (cause : Bool) : MmeM S11Mme :=
  if cause = false then .ok s
  else
    let ue := s.mmeUes.mem mmeUe
    let s := s.putMmeUe mmeUe ue.clearBearerContext
    match ue.enbUe with
    | some enbUe => s.clearAndRelease enbUe causeNasNormalRelease .s1NormalRelease false
    | none => .ok s

/-- An F-TEID that is there replaces a tunnel. -/
def storeTunnel (tunnel : GtpTunnel) (teid : Option GtpFTeid) : MmeM GtpTunnel :=
  match teid with
  | some teid => gtpFTeidToIp teid
  | none => .ok tunnel

/-- The loop over the bearer contexts, which ends at the first that is absent. Where all are there,
it goes on behind the array. The result is `none` where a context has no EPS bearer identity. -/
def storeTunnels (ue : S11Ue) : List (Option GtpBearerContext) → MmeM (S11Ue × Bool)
  | [] => .error .outOfBounds
  | none :: _ => .ok (ue, true)
  | some context :: rest =>
    match context.epsBearerId with
    | none => .ok (ue, false)
    | some ebi => do
      let (_, bearer) ← Fallible.assertSome .s11Handler (ue.bearerFindByUeEbi ebi)
      let sgwDl ← storeTunnel bearer.sgwDl context.s4USgsnFTeid
      let sgwUl ← storeTunnel bearer.sgwUl context.s2bUEpdgFTeid5
      storeTunnels (ue.updateBearer ebi fun b => { b with sgwDl := sgwDl, sgwUl := sgwUl }) rest

def handleCreateIndirectDataForwardingTunnelResponse (cause : Bool)
    (bearerContexts : Vector (Option GtpBearerContext) gtpMaxNumOfIndirectTunnel) :
    MmeM S11Mme := do
  let ue := s.mmeUes.mem mmeUe
  let sourceUe ← Fallible.assertSome .s11Handler ue.enbUe
  if cause = false then .ok s
  else do
    let (ue, complete) ← storeTunnels ue bearerContexts.toList
    let s := s.putMmeUe mmeUe ue
    if complete then s.s1apSendHandoverCommand sourceUe else .ok s

def handleDeleteIndirectDataForwardingTunnelResponse (cause : Bool) : S11Mme :=
  if cause then s.putMmeUe mmeUe (s.mmeUes.mem mmeUe).clearIndirectTunnel else s

/-! ## All messages -/

/-- The handler that the type of a message selects -/
def s11Handle [OgsConv] [Ogslib] (xact : Nat) : MmeS11Message → MmeM S11Mme
  | .createSessionResponse sender paa pco context =>
    s.handleCreateSessionResponse mmeUe sender paa pco context
  | .modifyBearerResponse => s.handleModifyBearerResponse mmeUe
  | .deleteSessionResponse sess cause => s.handleDeleteSessionResponse mmeUe sess cause
  | .createBearerRequest slot linkedEbi context =>
    s.handleCreateBearerRequest mmeUe xact slot linkedEbi context
  | .updateBearerRequest context => s.handleUpdateBearerRequest mmeUe xact context
  | .deleteBearerRequest linkedEbi ebi => s.handleDeleteBearerRequest mmeUe xact linkedEbi ebi
  | .releaseAccessBearersResponse cause => s.handleReleaseAccessBearersResponse mmeUe cause
  | .downlinkDataNotification => .ok (s.handleDownlinkDataNotification mmeUe xact)
  | .createIndirectDataForwardingTunnelResponse cause contexts =>
    s.handleCreateIndirectDataForwardingTunnelResponse mmeUe cause contexts
  | .deleteIndirectDataForwardingTunnelResponse cause =>
    .ok (s.handleDeleteIndirectDataForwardingTunnelResponse mmeUe cause)

end

end S11Mme

end NextEpc
